import Mathlib.Order.Bounds.Basic
import Nomen.Proofs.Freshness

namespace Nomen

def search? (taken : List String) (stem : String) : (turns number : Nat) → Option Nat
  | 0, _ => none
  | turns + 1, number =>
    if spell stem number ∈ taken then search? taken stem turns (number + 1) else some number

theorem search?_of_free {taken : List String} {stem : String} {turns start k : Nat} (hk : k < turns)
    (ht : ∀ j < k, spell stem (start + j) ∈ taken) (hf : spell stem (start + k) ∉ taken) :
    search? taken stem turns start = some (start + k) := by
  induction turns generalizing start k with
  | zero => omega
  | succ turns ih =>
    have hadd (j : Nat) : start + (j + 1) = start + 1 + j := by omega
    cases k with
    | zero => exact if_neg hf
    | succ k =>
      have hrest : search? taken stem turns (start + 1) = some (start + 1 + k) := by
        apply ih (by omega)
        · intro j hj
          rw [← hadd]
          exact ht (j + 1) (by omega)
        · rwa [← hadd]
      rw [hadd, ← hrest]
      exact if_pos (ht 0 (by omega))

theorem le_of_search? {taken : List String} {stem : String} {turns start number : Nat}
    (h : search? taken stem turns start = some number) : start ≤ number := by
  induction turns generalizing start with
  | zero => exact absurd h (by simp [search?])
  | succ turns ih =>
    rw [search?] at h
    split at h
    · have := ih h
      omega
    · exact Nat.le_of_eq (Option.some.inj h)

namespace Numbered

/-- The digits at the end of a name, if there are any, are its number as it is spelled. -/
def IsPlain (name : String) : Prop :=
  endDigits name = [] ∨ ∃ n ≤ greatestNumber, n ≠ 1 ∧ endDigits name = (Nat.repr n).toList

theorem IsPlain.spell_ofName {name : String} (h : IsPlain name) :
    spell (ofName name).stem (ofName name).number = name := by
  obtain ⟨stem, digits, rfl, hs, hd⟩ := exists_digit_split name
  rw [IsPlain, endDigits_append hs hd] at h
  rcases h with h | ⟨n, hn, h1, h⟩
  · have hempty : digits = "" := by simpa using h
    rw [hempty, String.append_empty, ofName_of_not_endsInDigit hs, spell_one]
  · have hrepr : digits = Nat.repr n := String.toList_inj.mp h
    rw [hrepr, ← spell_of_ne_one stem h1, ofName_spell hs hn]

end Numbered

namespace Register

/-- The register gives out the least free number of a stem from `start` on, found in no more turns
than there are names in use and one, and it records that name and nothing else. -/
structure GivesFrom (register : Register) (stem : String) (start number : Nat)
    (given : String × Register) : Prop where
  search : search? register.names stem (register.names.toFinset.card + 1) start = some number
  least : IsLeast {k | start ≤ k ∧ spell stem k ∉ register.names} number
  name : given.1 = spell stem number
  count : given.2.count? stem = some number
  others : ∀ other ≠ stem, given.2.count? other = register.count? other
  names : given.2.names.toFinset = insert given.1 register.names.toFinset

theorem exists_givesFrom {register : Register} {stem : String} {start : Nat}
    (hs : (register.count? stem).getD 0 ≤ start) :
    ∃ number, register.GivesFrom stem start number (register.enterFrom stem start) := by
  obtain ⟨k, -, he, ht, hf⟩ := register.enterFrom_spec stem start
  rw [he]
  refine ⟨start + k, ?_, ⟨⟨by omega, hf⟩, ?_⟩, rfl, ?_, ?_, ?_⟩
  · exact search?_of_free (Nat.lt_succ_of_le (le_card_of_spellings ht)) ht hf
  · rintro m ⟨hm, hfree⟩
    by_contra hlt
    have htaken := ht (m - start) (by omega)
    rw [Nat.add_sub_cancel' hm] at htaken
    exact hfree htaken
  · have hle : (register.count? stem).getD 0 ≤ start + k := by omega
    rw [count?_enter, if_pos rfl, Nat.max_eq_left hle]
  · intro other ho
    rw [count?_enter, if_neg (Ne.symm ho)]
  · rw [names_enter, List.toFinset_cons]

theorem getD_count?_le_adoptStart (register : Register) (split : Numbered) :
    (register.count? split.stem).getD 0 ≤ register.adoptStart split := by
  rw [adoptStart]
  cases register.count? split.stem with
  | none => exact Nat.zero_le _
  | some count => exact Nat.le_succ count

theorem exists_givesFrom_issue (register : Register) (stem : String) :
    ∃ number, register.GivesFrom stem ((register.count? stem).getD 0 + 1) number
      (register.issue stem) :=
  exists_givesFrom (Nat.le_succ _)

theorem exists_givesFrom_adopt {register : Register} {name : String}
    (h : name ∉ counterLetters ∨ register.freeLetter? = none) :
    ∃ number, register.GivesFrom (Numbered.ofName name).stem
      (register.adoptStart (Numbered.ofName name)) number (register.adopt name) := by
  rcases register.adopt_cases name with ⟨letter, hn, hl, -⟩ | ⟨-, he⟩
  · rcases h with h | h
    · exact absurd hn h
    · rw [h] at hl
      exact absurd hl (by simp)
  · rw [he]
    exact exists_givesFrom (register.getD_count?_le_adoptStart _)

theorem least_free_number_is_given (register : Register) :
    (∀ stem, ∃ number,
      register.GivesFrom stem ((register.count? stem).getD 0 + 1) number (register.issue stem)) ∧
    ∀ name, name ∉ counterLetters ∨ register.freeLetter? = none → ∃ number,
      register.GivesFrom (Numbered.ofName name).stem (register.adoptStart (Numbered.ofName name))
        number (register.adopt name) :=
  ⟨register.exists_givesFrom_issue, fun _ => exists_givesFrom_adopt⟩

-- All letters are in use, and so is a name of the stem `x` that is a spelling of `x2` too.
def crowded : Register :=
  ({} : Register).after (counterLetters.map .reserve ++ [.reserve "x22", .issue "x2"])

theorem least_free_number_is_given_crowded :
    ("j" ∉ counterLetters ∨ crowded.freeLetter? = none) ∧
    crowded.GivesFrom "x2" 2 3 (crowded.issue "x2") ∧
    crowded.GivesFrom "j" 2 2 (crowded.adopt "j") ∧
    crowded.GivesFrom "y" 0 0 (crowded.adopt "y00") := by
  have hletters : crowded.freeLetter? = none := by decide +kernel
  obtain ⟨hissue, hadopt⟩ := least_free_number_is_given crowded
  have hcount : crowded.count? "x2" = some 1 := by decide +kernel
  have hj : Numbered.ofName "j" = ⟨"j", 1⟩ ∧ crowded.adoptStart ⟨"j", 1⟩ = 2 := by decide +kernel
  have hy : Numbered.ofName "y00" = ⟨"y", 0⟩ ∧ crowded.adoptStart ⟨"y", 0⟩ = 0 := by decide +kernel
  refine ⟨Or.inr hletters, ?_, ?_, ?_⟩
  · obtain ⟨number, h⟩ := hissue "x2"
    rw [hcount] at h
    obtain rfl : number = 3 := Option.some.inj (h.count.symm.trans (by decide +kernel))
    exact h
  · obtain ⟨number, h⟩ := hadopt "j" (Or.inr hletters)
    rw [hj.1, hj.2] at h
    obtain rfl : number = 2 := Option.some.inj (h.count.symm.trans (by decide +kernel))
    exact h
  · obtain ⟨number, h⟩ := hadopt "y00" (Or.inr hletters)
    rw [hy.1, hy.2] at h
    obtain rfl : number = 0 := Option.some.inj (h.count.symm.trans (by decide +kernel))
    exact h

theorem GivesFrom.number_eq_iff {register : Register} {stem : String} {start number k : Nat}
    {given : String × Register} (h : register.GivesFrom stem start number given)
    (hf : spell stem k ∉ register.names) :
    number = k ↔ start ≤ k ∧ ∀ j, start ≤ j → j < k → spell stem j ∈ register.names := by
  constructor
  · rintro rfl
    refine ⟨h.least.1.1, ?_⟩
    intro j hs hj
    by_contra hfree
    have := h.least.2 ⟨hs, hfree⟩
    omega
  · rintro ⟨hs, ht⟩
    apply Nat.le_antisymm (h.least.2 ⟨hs, hf⟩)
    by_contra hlt
    exact h.least.1.2 (ht number h.least.1.1 (by omega))

theorem notMem_names_after {requests : List Request} {name : String}
    (hr : .reserved name ∉ ({} : Register).history requests)
    (hg : .given name ∉ ({} : Register).history requests) :
    name ∉ (({} : Register).after requests).names := by
  rw [sound_empty.mem_names_after, not_or]
  refine ⟨?_, List.not_mem_nil⟩
  rintro ⟨event, he, rfl | ⟨rfl, -⟩⟩
  · exact hg he
  · exact hr he

theorem adopted_number_kept_iff (requests : List Request) (name : String)
    (hl : name ∉ counterLetters) (hp : Numbered.IsPlain name)
    (hr : .reserved name ∉ ({} : Register).history requests)
    (hg : .given name ∉ ({} : Register).history requests) :
    ((({} : Register).after requests).adopt name).1 = name ↔
      ∀ count, (({} : Register).after requests).count? (Numbered.ofName name).stem = some count →
        count < (Numbered.ofName name).number ∧
        ∀ k, count < k → k < (Numbered.ofName name).number →
          spell (Numbered.ofName name).stem k ∈ (({} : Register).after requests).names := by
  have hfree := notMem_names_after hr hg
  generalize ({} : Register).after requests = register at hfree ⊢
  obtain ⟨number, h⟩ := @exists_givesFrom_adopt register name (Or.inl hl)
  have hspell := hp.spell_ofName
  have hname : (register.adopt name).1 = name ↔ number = (Numbered.ofName name).number := by
    rw [h.name]
    nth_rewrite 2 [← hspell]
    exact (spell_injective _).eq_iff
  rw [hname, h.number_eq_iff (by rwa [hspell]), adoptStart]
  cases hc : register.count? (Numbered.ofName name).stem with
  | none =>
    refine iff_of_true ⟨Nat.le_refl _, ?_⟩ ?_
    · intro j hs hj
      exact absurd hs (Nat.not_le_of_lt hj)
    · intro count h
      exact absurd h (by simp)
  | some count =>
    simp only [Option.map_some, Option.getD_some, Option.some.injEq, forall_eq', Nat.add_one_le_iff]

theorem adopted_number_kept_iff_between :
    "x3" ∉ counterLetters ∧ Numbered.IsPlain "x3" ∧
    .reserved "x3" ∉ ({} : Register).history [.reserve "x", .issue "x2"] ∧
    .given "x3" ∉ ({} : Register).history [.reserve "x", .issue "x2"] ∧
    ((({} : Register).after [.reserve "x", .issue "x2"]).adopt "x3").1 = "x3" := by
  have hl : "x3" ∉ counterLetters := by decide +kernel
  have hp : Numbered.IsPlain "x3" := Or.inr ⟨3, by decide +kernel⟩
  have hr : .reserved "x3" ∉ ({} : Register).history [.reserve "x", .issue "x2"] := by
    decide +kernel
  have hg : .given "x3" ∉ ({} : Register).history [.reserve "x", .issue "x2"] := by decide +kernel
  refine ⟨hl, hp, hr, hg, ?_⟩
  rw [adopted_number_kept_iff _ _ hl hp hr hg]
  have hsplit : Numbered.ofName "x3" = ⟨"x", 3⟩ := by decide +kernel
  have hcount : (({} : Register).after [.reserve "x", .issue "x2"]).count? "x" = some 1 := by
    decide +kernel
  rw [hsplit, hcount]
  rintro count ⟨⟩
  refine ⟨by decide, ?_⟩
  intro k hlow hhigh
  change k < 3 at hhigh
  obtain rfl : k = 2 := by omega
  decide +kernel

theorem adopted_number_may_be_lost :
    ¬ ∀ (requests : List Request) (name : String),
      name ∉ counterLetters → Numbered.IsPlain name →
      .reserved name ∉ ({} : Register).history requests →
      .given name ∉ ({} : Register).history requests →
      ((({} : Register).after requests).adopt name).1 = name := by
  intro h
  have hkept := h [.reserve "buffer3"] "buffer5" (by decide +kernel)
    (Or.inr ⟨5, by decide +kernel⟩) (by decide +kernel) (by decide +kernel)
  have hgiven : ((({} : Register).after [.reserve "buffer3"]).adopt "buffer5").1 = "buffer4" := by
    decide +kernel
  rw [hgiven] at hkept
  exact absurd hkept (by decide)

end Register

end Nomen
