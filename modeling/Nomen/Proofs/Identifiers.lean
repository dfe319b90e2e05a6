import Nomen.Proofs.Register
import Nomen.Proofs.Report

namespace Nomen

theorem isDigit_bounds {c : Char} (h : c.isDigit = true) : 48 ≤ c.toNat ∧ c.toNat ≤ 57 := by
  simpa using Char.isDigit_iff_toNat.mp h

theorem le_toNat_of_isAlpha {c : Char} (h : c.isAlpha = true) : 65 ≤ c.toNat := by
  change (decide ('A'.val ≤ c.val ∧ c.val ≤ 'Z'.val) ||
    decide ('a'.val ≤ c.val) && decide (c.val ≤ 'z'.val)) = true at h
  simp only [Bool.or_eq_true, Bool.and_eq_true, decide_eq_true_eq, UInt32.le_iff_toNat_le,
    Char.toNat_val] at h
  have hupper : 'A'.toNat = 65 := rfl
  have hlower : 'a'.toNat = 97 := rfl
  omega

theorem startsIdentifier_of_isDigit {c : Char} (h : c.isDigit = true) :
    startsIdentifier c = false := by
  have hc := isDigit_bounds h
  have hne : c ≠ '_' := by rintro rfl; exact absurd h (by decide)
  have hlt : c.toNat < 128 := by omega
  have halpha : c.isAlpha = false := by
    rw [← Bool.not_eq_true]
    intro ha
    have := le_toNat_of_isAlpha ha
    omega
  rw [startsIdentifier, isAlphabetic, if_pos hlt, halpha, Bool.false_or]
  exact beq_false_of_ne hne

theorem continuesIdentifier_of_isDigit {c : Char} (h : c.isDigit = true) :
    continuesIdentifier c = true := by
  have hlt : c.toNat < 128 := by have := isDigit_bounds h; omega
  rw [continuesIdentifier, isNumeric, if_pos hlt, h, Bool.or_true, Bool.true_or]

theorem isIdentifier_append_digits {digits : String} (hd : digits.toList.all Char.isDigit)
    (stem : String) : isIdentifier (stem ++ digits) = isIdentifier stem := by
  have hcontinues : digits.toList.all continuesIdentifier = true := by
    rw [List.all_eq_true] at hd ⊢
    intro c hc
    exact continuesIdentifier_of_isDigit (hd c hc)
  rw [isIdentifier, isIdentifier, String.toList_append]
  cases stem.toList with
  | nil =>
    -- Digits alone are no identifier: the first of them does not start one.
    rw [List.nil_append]
    cases hl : digits.toList with
    | nil => rfl
    | cons c cs =>
      have hc := startsIdentifier_of_isDigit (List.all_eq_true.mp hd c (by simp [hl]))
      simp [hc]
  | cons c cs => simp [hcontinues]

theorem isIdentifier_spell (stem : String) (n : Nat) :
    isIdentifier (spell stem n) = isIdentifier stem := by
  by_cases hn : n = 1
  · rw [hn, spell_one]
  · rw [spell_of_ne_one stem hn, isIdentifier_append_digits (repr_all_isDigit n)]

theorem isIdentifier_stem (name : String) :
    isIdentifier (Numbered.ofName name).stem = isIdentifier name := by
  obtain ⟨digits, he, hd⟩ := Numbered.exists_stem_append name
  calc isIdentifier (Numbered.ofName name).stem
      = isIdentifier ((Numbered.ofName name).stem ++ digits) := (isIdentifier_append_digits hd _).symm
    _ = isIdentifier name := by rw [← he]

theorem acceptedStem?_isIdentifier {name stem : String} (h : acceptedStem? name = some stem) :
    isIdentifier stem = true :=
  (Option.filter_eq_some_iff.mp h).2

theorem typeStem_isIdentifier (type : TypeSig) : isIdentifier (typeStem type) = true := by
  rw [typeStem]
  cases h : acceptedStem? type.stem with
  | some stem => exact acceptedStem?_isIdentifier h
  | none => decide

theorem counterLetters_isIdentifier : ∀ letter ∈ counterLetters, isIdentifier letter = true := by
  decide

def Wish.text : Wish → String
  | .adopt debugName => debugName
  | .counter base => base
  | .stem base _ => base

namespace Scope

theorem synthesis_isIdentifier (scope : Scope) (body : Node) (index : Nat) (type : TypeSig) :
    isIdentifier (scope.synthesis body index type).text = true := by
  rcases scope.synthesis_cases body index type with ⟨-, he⟩ | ⟨stem, source, he, hs⟩
  · rw [he, Wish.text]
    exact typeStem_isIdentifier type
  · rw [he, Wish.text]
    rcases hs with ⟨-, hs⟩ | ⟨-, hs⟩ | ⟨-, rfl⟩
    · obtain ⟨_, -, ha⟩ := Option.bind_eq_some_iff.mp hs
      exact acceptedStem?_isIdentifier ha
    · obtain ⟨_, -, ha⟩ := Option.bind_eq_some_iff.mp hs
      exact acceptedStem?_isIdentifier ha
    · exact typeStem_isIdentifier type

theorem adopted?_isIdentifier {scope : Scope} {slot : Slot} {debugName : String}
    (h : scope.adopted? slot = some debugName) : isIdentifier debugName = true := by
  rw [adopted?] at h
  split at h
  · exact absurd h (by simp)
  · have hu := (Option.filter_eq_some_iff.mp h).2
    simp only [Bool.and_eq_true] at hu
    exact hu.2

theorem wish_isIdentifier (scope : Scope) (body : Node) (index : Nat) (slot : Slot) :
    isIdentifier (scope.wish body index slot).text = true := by
  rw [wish]
  cases h : scope.adopted? slot with
  | some debugName => exact adopted?_isIdentifier h
  | none => exact scope.synthesis_isIdentifier body index slot.type

end Scope

namespace Register

theorem enterFrom_isIdentifier (register : Register) (stem : String) (start : Nat) :
    isIdentifier (register.enterFrom stem start).1 = isIdentifier stem := by
  rw [enterFrom, isIdentifier_spell]

theorem freeLetter?_isIdentifier {register : Register} {letter : String}
    (h : register.freeLetter? = some letter) : isIdentifier letter = true :=
  counterLetters_isIdentifier letter (freeLetter?_eq_some h).1

theorem adopt_isIdentifier (register : Register) {name : String} (h : isIdentifier name = true) :
    isIdentifier (register.adopt name).1 = true := by
  rcases register.adopt_cases name with ⟨letter, -, hl, he⟩ | ⟨-, he⟩
  · rw [he]
    exact freeLetter?_isIdentifier hl
  · rw [he, enterFrom_isIdentifier, isIdentifier_stem, h]

theorem serve_isIdentifier (register : Register) {wish : Wish} (h : isIdentifier wish.text = true) :
    isIdentifier (register.serve wish).1.1 = true := by
  cases wish with
  | adopt debugName => exact register.adopt_isIdentifier h
  | counter stem =>
    cases hl : register.freeLetter? with
    | some letter =>
      simp only [serve, hl, issue]
      rw [enterFrom_isIdentifier, freeLetter?_isIdentifier hl]
    | none =>
      simp only [serve, hl, issue]
      rw [enterFrom_isIdentifier]
      exact h
  | stem stem source =>
    simp only [serve, issue]
    rw [enterFrom_isIdentifier]
    exact h

end Register

theorem Procedure.mem_report_isIdentifier {procedure : Procedure} {scope : Scope}
    {assignment : Assignment} (h : assignment ∈ (procedure.report scope).assignments) :
    isIdentifier assignment.name = true := by
  obtain ⟨slot, reached, -, he⟩ := Procedure.mem_report h
  have hw := scope.wish_isIdentifier procedure.body assignment.slot slot
  have hserve := reached.serve_isIdentifier hw
  rw [he] at hserve
  exact hserve

theorem names_given_are_identifiers (procedure : Procedure) (scope : Scope) :
    (∀ assignment ∈ (procedure.report scope).assignments, isIdentifier assignment.name = true) ∧
    ∀ (index : Nat) (slot : Slot), (procedure.nameSlots scope).slots[index]? = some slot →
      (procedure.slots[index]? = some slot ∧ ¬ slot.NeedsName) ∨
        ∃ name, slot.name = some name ∧ isIdentifier name = true := by
  constructor
  · intro assignment ha
    exact Procedure.mem_report_isIdentifier ha
  · intro index slot hs
    rcases Procedure.nameSlots_cases hs with hk | ⟨assignment, ha, -, hn⟩
    · exact Or.inl hk
    · exact Or.inr ⟨assignment.name, hn, Procedure.mem_report_isIdentifier ha⟩

end Nomen
