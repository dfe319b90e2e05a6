import Nomen.Keyword
import Nomen.Proofs.Freshness
import Nomen.Proofs.Identifiers

namespace Nomen

namespace Register

theorem exists_request (register : Register) (wish : Wish) :
    ∃ request, register.handle request =
      (.given (register.serve wish).1.1, (register.serve wish).2) := by
  cases wish with
  | adopt debugName => exact ⟨.adopt debugName, rfl⟩
  | counter stem =>
    cases hl : register.freeLetter? with
    | some letter => exact ⟨.issue letter, by simp only [handle, serve, hl]⟩
    | none => exact ⟨.issue stem, by simp only [handle, serve, hl]⟩
  | stem stem source => exact ⟨.issue stem, rfl⟩

theorem exists_requests (register : Register) (wishes : List (Nat × Wish)) :
    ∃ requests, register.history requests =
      (register.serveAll wishes).map fun assignment => .given assignment.name := by
  induction wishes generalizing register with
  | nil => exact ⟨[], rfl⟩
  | cons wish wishes ih =>
    obtain ⟨request, hr⟩ := register.exists_request wish.2
    obtain ⟨requests, hrs⟩ := ih (register.serve wish.2).2
    refine ⟨request :: requests, ?_⟩
    rw [history, hr, hrs, serveAll, List.map_cons]

end Register

namespace Procedure

theorem exists_history (procedure : Procedure) (scope : Scope) :
    ∃ requests, ({} : Register).history requests =
      (scope.reserved ++ procedure.keptNames).map .reserved ++
        (procedure.report scope).assignments.map fun assignment => .given assignment.name := by
  obtain ⟨requests, hr⟩ : ∃ requests, (procedure.openRegister scope).history requests =
      (procedure.report scope).assignments.map fun assignment => .given assignment.name :=
    Register.exists_requests _ _
  refine ⟨(scope.reserved ++ procedure.keptNames).map .reserve ++ requests, ?_⟩
  rw [Register.history_reserve, Register.reserveAll, List.foldl_append, ← hr]
  rfl

theorem report_fresh (procedure : Procedure) (scope : Scope) :
    ((procedure.report scope).assignments.map (·.name)).Nodup ∧
      ∀ assignment ∈ (procedure.report scope).assignments,
        ∀ name ∈ scope.reserved ++ procedure.keptNames, name ≠ "" → assignment.name ≠ name := by
  obtain ⟨requests, hr⟩ := procedure.exists_history scope
  have hp := Register.sound_empty.history_pairwise requests
  rw [hr, List.pairwise_append, List.pairwise_map, List.pairwise_map] at hp
  obtain ⟨-, hgiven, hreserved⟩ := hp
  constructor
  · rw [List.Nodup, List.pairwise_map]
    refine hgiven.imp ?_
    intro earlier later h he
    exact h later.name rfl (Or.inl (by rw [he]))
  · rintro assignment ha name hn hne rfl
    exact hreserved (.reserved assignment.name) (List.mem_map_of_mem hn) (.given assignment.name)
      (List.mem_map_of_mem ha) assignment.name rfl (Or.inr ⟨rfl, hne⟩)

theorem mem_keptNames {procedure : Procedure} {slot : Slot} (h : slot ∈ procedure.slots)
    (hk : slot.kind = .parameter ∨ slot.isGenerated = true) {name : String}
    (hn : slot.name = some name) (hne : name ≠ "") : name ∈ procedure.keptNames := by
  have hgiven : slot.givenName? = some name := by simp [Slot.givenName?, hn, hne]
  have hkeeps : slot.keepsName = true := by
    rw [Slot.keepsName, hgiven, Option.isSome_some, Bool.and_true, Bool.or_eq_true,
      Slot.isParameter_eq_true]
    exact hk
  rw [keptNames, List.mem_filterMap]
  exact ⟨slot, List.mem_filter.mpr ⟨h, hkeeps⟩, hgiven⟩

theorem report_ne_empty {procedure : Procedure} {scope : Scope} {assignment : Assignment}
    (h : assignment ∈ (procedure.report scope).assignments) : assignment.name ≠ "" := by
  intro he
  have hi := mem_report_isIdentifier h
  rw [he] at hi
  exact absurd hi (by decide)

theorem nameSlots_named {procedure : Procedure} {scope : Scope} {slot : Slot}
    (h : slot ∈ (procedure.nameSlots scope).slots) : ∃ name, slot.name = some name ∧ name ≠ "" := by
  obtain ⟨index, hi⟩ := List.mem_iff_getElem?.mp h
  rcases nameSlots_cases hi with ⟨-, hk⟩ | ⟨assignment, ha, -, hn⟩
  · rw [Slot.needsName_iff, Bool.not_eq_false, Slot.keepsName, Bool.and_eq_true,
      Slot.givenName?_isSome, not_or] at hk
    cases hn : slot.name with
    | none => exact absurd hn hk.2.1
    | some name => exact ⟨name, rfl, fun he => hk.2.2 (by rw [hn, he])⟩
  · exact ⟨assignment.name, hn, report_ne_empty ha⟩

end Procedure

theorem names_unique (procedure : Procedure) (scope : Scope) :
    (∀ slot ∈ (procedure.nameSlots scope).slots, ∃ name, slot.name = some name ∧ name ≠ "") ∧
    ((procedure.report scope).assignments.map (·.name)).Nodup ∧
    (∀ assignment ∈ (procedure.report scope).assignments,
      assignment.name ∉ scope.reserved ∧
      ∀ slot ∈ procedure.slots, slot.kind = .parameter ∨ slot.isGenerated = true →
        slot.name ≠ some assignment.name) ∧
    ∀ assignment ∈
        (procedure.report { scope with reserved := scope.reserved ++ keywords }).assignments,
      assignment.name ∉ keywords := by
  have hreserved (other : Scope) {assignment : Assignment}
      (ha : assignment ∈ (procedure.report other).assignments) :
      assignment.name ∉ other.reserved := by
    intro hm
    exact (procedure.report_fresh other).2 assignment ha assignment.name (List.mem_append_left _ hm)
      (Procedure.report_ne_empty ha) rfl
  refine ⟨fun slot => Procedure.nameSlots_named, (procedure.report_fresh scope).1, ?_, ?_⟩
  · intro assignment ha
    refine ⟨hreserved scope ha, ?_⟩
    intro slot hs hk hn
    have hne := Procedure.report_ne_empty ha
    have hm := Procedure.mem_keptNames hs hk hn hne
    exact (procedure.report_fresh scope).2 assignment ha assignment.name (List.mem_append_right _ hm)
      hne rfl
  · intro assignment ha hm
    exact hreserved _ ha (List.mem_append_right scope.reserved hm)

end Nomen
