import Nomen.Numbered

namespace Nomen

def endsInDigit (name : String) : Bool :=
  name.toList.getLast?.any Char.isDigit

theorem endsInDigit_append (stem : String) {digits : String} (hd : digits.toList.all Char.isDigit)
    (hne : digits ≠ "") : endsInDigit (stem ++ digits) = true := by
  have hl : digits.toList ≠ [] := by simpa using hne
  rw [endsInDigit, String.toList_append, List.getLast?_append, List.getLast?_eq_some_getLast hl]
  exact List.all_eq_true.mp hd _ (List.getLast_mem hl)

theorem repr_all_isDigit (n : Nat) : (Nat.repr n).toList.all Char.isDigit := by
  rw [List.all_eq_true]
  intro c hc
  rw [Nat.toList_repr] at hc
  exact Nat.isDigit_of_mem_toDigits (by decide) (by decide) hc

theorem spell_one (stem : String) : spell stem 1 = stem := rfl

theorem spell_of_ne_one (stem : String) {n : Nat} (hn : n ≠ 1) : spell stem n = stem ++ Nat.repr n :=
  if_neg hn

theorem endsInDigit_spell (stem : String) {n : Nat} (hn : n ≠ 1) :
    endsInDigit (spell stem n) = true := by
  rw [spell_of_ne_one stem hn]
  exact endsInDigit_append stem (repr_all_isDigit n) Nat.repr_ne_empty

theorem exists_digits_spell (stem : String) (n : Nat) :
    ∃ digits : String, digits.toList.all Char.isDigit ∧ spell stem n = stem ++ digits := by
  by_cases hn : n = 1
  · exact ⟨"", rfl, by rw [hn, spell_one, String.append_empty]⟩
  · exact ⟨Nat.repr n, repr_all_isDigit n, spell_of_ne_one stem hn⟩

theorem ofDigitChars_repr (n : Nat) : Nat.ofDigitChars 10 (Nat.repr n).toList 0 = n := by
  rw [Nat.toList_repr, Nat.ofDigitChars_ten_toDigits]

theorem le_ofDigitChars (digits : List Char) (n : Nat) : n ≤ Nat.ofDigitChars 10 digits n := by
  have hpow : 0 < 10 ^ digits.length := Nat.pow_pos (by decide)
  have hmul := Nat.le_mul_of_pos_left n hpow
  rw [Nat.ofDigitChars_eq_ofDigitChars_zero]
  omega

theorem repr_injective : Function.Injective Nat.repr := by
  intro m n h
  rw [← ofDigitChars_repr m, h, ofDigitChars_repr]

theorem append_repr_ne (stem : String) (n : Nat) : stem ++ Nat.repr n ≠ stem := by
  intro h
  have hl := congrArg String.toList h
  rw [String.toList_append, Nat.toList_repr, List.append_right_eq_self] at hl
  exact Nat.toDigits_ne_nil hl

theorem spell_injective (stem : String) : Function.Injective (spell stem) := by
  intro m n h
  by_cases hm : m = 1 <;> by_cases hn : n = 1
  · rw [hm, hn]
  · rw [hm, spell_one, spell_of_ne_one stem hn] at h
    exact absurd h.symm (append_repr_ne stem n)
  · rw [hn, spell_one, spell_of_ne_one stem hm] at h
    exact absurd h (append_repr_ne stem m)
  · rw [spell_of_ne_one stem hm, spell_of_ne_one stem hn] at h
    exact repr_injective (by simpa using h)

def OfStem (name stem : String) : Prop :=
  name = stem ∨ ∃ k, 2 ≤ k ∧ name = stem ++ Nat.repr k

theorem ofStem_spell (stem : String) {n : Nat} (hn : 1 ≤ n) : OfStem (spell stem n) stem := by
  by_cases h1 : n = 1
  · exact Or.inl (by rw [h1, spell_one])
  · exact Or.inr ⟨n, by omega, spell_of_ne_one stem h1⟩

namespace Numbered

theorem exists_digit_split (name : String) : ∃ stem digits : String,
    name = stem ++ digits ∧ endsInDigit stem = false ∧ digits.toList.all Char.isDigit := by
  let backward := name.toList.reverse
  refine ⟨String.ofList (backward.dropWhile Char.isDigit).reverse,
    String.ofList (backward.takeWhile Char.isDigit).reverse, ?_, ?_, ?_⟩
  · rw [← String.ofList_append, ← List.reverse_append, List.takeWhile_append_dropWhile,
      List.reverse_reverse, String.ofList_toList]
  · rw [endsInDigit, String.toList_ofList, List.getLast?_reverse]
    have hh := List.head?_dropWhile_not Char.isDigit backward
    cases hc : (backward.dropWhile Char.isDigit).head? with
    | none => rfl
    | some c => simpa [hc] using hh
  · rw [String.toList_ofList, List.all_reverse]
    exact List.all_takeWhile

theorem span_backward {stem digits : String} (hs : endsInDigit stem = false)
    (hd : digits.toList.all Char.isDigit) :
    (stem ++ digits).toList.reverse.takeWhile Char.isDigit = digits.toList.reverse ∧
      (stem ++ digits).toList.reverse.dropWhile Char.isDigit = stem.toList.reverse := by
  have hback : (stem ++ digits).toList.reverse = digits.toList.reverse ++ stem.toList.reverse := by simp
  have hpos : ∀ c ∈ digits.toList.reverse, Char.isDigit c := by simpa using hd
  have hhead : ∀ c ∈ stem.toList.reverse.head?, Char.isDigit c = false := by
    intro c hc
    rw [List.head?_reverse] at hc
    simpa [endsInDigit, Option.mem_def.mp hc] using hs
  have htake : stem.toList.reverse.takeWhile Char.isDigit = [] := by
    cases hr : stem.toList.reverse with
    | nil => rfl
    | cons c cs => simp [hhead c (by simp [hr])]
  have hdrop : stem.toList.reverse.dropWhile Char.isDigit = stem.toList.reverse := by
    have hboth := List.takeWhile_append_dropWhile (p := Char.isDigit) (l := stem.toList.reverse)
    rwa [htake, List.nil_append] at hboth
  rw [hback, List.takeWhile_append_of_pos hpos, List.dropWhile_append_of_pos hpos, htake, hdrop,
    List.append_nil]
  exact ⟨rfl, rfl⟩

theorem ofName_append {stem digits : String} (hs : endsInDigit stem = false)
    (hd : digits.toList.all Char.isDigit) :
    ofName (stem ++ digits) =
      if digits ≠ "" ∧ Nat.ofDigitChars 10 digits.toList 0 ≤ greatestNumber then
        ⟨stem, Nat.ofDigitChars 10 digits.toList 0⟩
      else ⟨stem ++ digits, 1⟩ := by
  obtain ⟨htake, hdrop⟩ := span_backward hs hd
  simp only [ofName, htake, hdrop, List.reverse_reverse, String.ofList_toList]
  simp

theorem stem_eq_of_append {stem other digits others : String} (hs : endsInDigit stem = false)
    (ho : endsInDigit other = false) (hd : digits.toList.all Char.isDigit)
    (hd' : others.toList.all Char.isDigit) (h : stem ++ digits = other ++ others) : stem = other := by
  have hback := (span_backward hs hd).2
  rw [h, (span_backward ho hd').2, List.reverse_inj, String.toList_inj] at hback
  exact hback.symm

theorem stem_eq_of_spell {stem other : String} (hs : endsInDigit stem = false)
    (ho : endsInDigit other = false) {m n : Nat} (h : spell stem m = spell other n) :
    stem = other := by
  obtain ⟨digits, hd, he⟩ := exists_digits_spell stem m
  obtain ⟨others, hd', he'⟩ := exists_digits_spell other n
  exact stem_eq_of_append hs ho hd hd' (he.symm.trans (h.trans he'))

def endDigits (name : String) : List Char :=
  (name.toList.reverse.takeWhile Char.isDigit).reverse

theorem endDigits_append {stem digits : String} (hs : endsInDigit stem = false)
    (hd : digits.toList.all Char.isDigit) : endDigits (stem ++ digits) = digits.toList := by
  rw [endDigits, (span_backward hs hd).1, List.reverse_reverse]

theorem ofName_of_not_endsInDigit {name : String} (h : endsInDigit name = false) :
    ofName name = ⟨name, 1⟩ := by
  have he := @ofName_append name "" h rfl
  simpa using he

theorem exists_stem_append (name : String) :
    ∃ digits : String, name = (ofName name).stem ++ digits ∧ digits.toList.all Char.isDigit := by
  obtain ⟨stem, digits, rfl, hs, hd⟩ := exists_digit_split name
  rw [ofName_append hs hd]
  split
  · exact ⟨digits, rfl, hd⟩
  · exact ⟨"", by simp, rfl⟩

theorem ofName_number_le (name : String) : (ofName name).number ≤ greatestNumber := by
  rw [ofName]
  split
  · next h => exact h.2
  · exact (by decide : 1 ≤ greatestNumber)

theorem ofName_append_repr {stem : String} (hs : endsInDigit stem = false) {n : Nat}
    (hn : n ≤ greatestNumber) : ofName (stem ++ Nat.repr n) = ⟨stem, n⟩ := by
  rw [ofName_append hs (repr_all_isDigit n), ofDigitChars_repr, if_pos ⟨Nat.repr_ne_empty, hn⟩]

theorem ofName_spell {stem : String} (hs : endsInDigit stem = false) {n : Nat}
    (hn : n ≤ greatestNumber) : ofName (spell stem n) = ⟨stem, n⟩ := by
  by_cases h1 : n = 1
  · rw [h1, spell_one, ofName_of_not_endsInDigit hs]
  · rw [spell_of_ne_one stem h1, ofName_append_repr hs hn]

/-- A stem is a text from which no number can be split off. -/
def IsStem (text : String) : Prop :=
  (ofName text).stem = text

theorem isStem_of_not_endsInDigit {text : String} (h : endsInDigit text = false) : IsStem text := by
  rw [IsStem, ofName_of_not_endsInDigit h]

theorem isStem_stem (name : String) : IsStem (ofName name).stem := by
  obtain ⟨stem, digits, rfl, hs, hd⟩ := exists_digit_split name
  have he := ofName_append hs hd
  split at he
  · rw [he]
    exact isStem_of_not_endsInDigit hs
  · rw [he, IsStem, he]

theorem stem_spell {stem : String} (h : IsStem stem) (n : Nat) :
    (ofName (spell stem n)).stem = stem ∨ endsInDigit (ofName (spell stem n)).stem = true := by
  by_cases h1 : n = 1
  · rw [h1, spell_one]
    exact Or.inl h
  obtain ⟨base, digits, rfl, hb, hd⟩ := exists_digit_split stem
  have hall : (digits ++ Nat.repr n).toList.all Char.isDigit := by
    rw [String.toList_append, List.all_append, hd, repr_all_isDigit, Bool.and_true]
  rw [IsStem, ofName_append hb hd] at h
  rw [spell_of_ne_one _ h1, String.append_assoc, ofName_append hb hall]
  split
  · next hn =>
    -- A number that fits with more digits behind it fits without them.
    left
    have hvalue : Nat.ofDigitChars 10 digits.toList 0 ≤ greatestNumber := by
      have hle := hn.2
      rw [String.toList_append, Nat.ofDigitChars_append] at hle
      exact Nat.le_trans (le_ofDigitChars _ _) hle
    by_cases hempty : digits = ""
    · simp [hempty]
    · rwa [if_pos ⟨hempty, hvalue⟩] at h
  · right
    rw [← String.append_assoc]
    exact endsInDigit_append _ (repr_all_isDigit n) Nat.repr_ne_empty

end Numbered

end Nomen
