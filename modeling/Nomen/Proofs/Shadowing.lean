import Nomen.Proofs.Letters
import Nomen.Proofs.Proposals

namespace Nomen

def Scope.Proposes (scope : Scope) (body : Node) (index : Nat) (source : Source) (name : String) :
    Prop :=
  source = .storedValue ∧ storeName? scope.fields body index = some name ∨
    source = .consumer ∧ loadName? scope.fields scope.resolve body index = some name

theorem Scope.Proposes.notMem_fields {scope : Scope} {body : Node} {index : Nat} {source : Source}
    {name : String} (h : scope.Proposes body index source name) : name ∉ scope.fields := by
  rcases h with ⟨-, h⟩ | ⟨-, h⟩
  · exact (agreed_eq_some_iff.mp h).1
  · exact (agreed_eq_some_iff.mp h).1

theorem firstAccepted_of_usage {scope : Scope} {body : Node} {index : Nat} {type : TypeSig}
    {source : Source} (hs : source = .storedValue ∨ source = .consumer)
    (h : source = (firstAccepted scope.fields scope.resolve body index type).2) :
    ∃ proposal, scope.Proposes body index source proposal ∧
      (firstAccepted scope.fields scope.resolve body index type).1 =
        (Numbered.ofName proposal).stem := by
  simp only [firstAccepted] at h ⊢
  cases hstore : (storeName? scope.fields body index).bind acceptedStem? with
  | some stem =>
    simp only [hstore, Option.map_some, Option.some_or, Option.getD_some] at h ⊢
    obtain ⟨proposal, hp, ha⟩ := Option.bind_eq_some_iff.mp hstore
    exact ⟨proposal, Or.inl ⟨h, hp⟩, acceptedStem?_eq_some ha⟩
  | none =>
    cases hload : (loadName? scope.fields scope.resolve body index).bind acceptedStem? with
    | some stem =>
      simp only [hstore, hload, Option.map_none, Option.map_some, Option.none_or,
        Option.getD_some] at h ⊢
      obtain ⟨proposal, hp, ha⟩ := Option.bind_eq_some_iff.mp hload
      exact ⟨proposal, Or.inr ⟨h, hp⟩, acceptedStem?_eq_some ha⟩
    | none =>
      simp only [hstore, hload, Option.map_none, Option.none_or, Option.getD_none] at h
      subst h
      exact absurd hs (by decide)

theorem names_from_usage_shadow_only_respelled (procedure : Procedure) (scope : Scope)
    (earlier later : List Assignment) (assignment : Assignment)
    (h : (procedure.report scope).assignments = earlier ++ assignment :: later)
    (hs : assignment.source = .storedValue ∨ assignment.source = .consumer) :
    ∃ proposal, scope.Proposes procedure.body assignment.slot assignment.source proposal ∧
      proposal ∉ scope.fields ∧ OfStem assignment.name (Numbered.ofName proposal).stem ∧
      (assignment.name ∈ scope.fields →
        endsInDigit proposal = true ∨ proposal ∈ procedure.stemsInUse scope earlier) := by
  obtain ⟨slot, reached, -, hr, hserve, hknows⟩ := Procedure.report_reached h
  have hcases := scope.serve_cases procedure.body assignment.slot slot reached
  simp only [hserve, Prod.mk.injEq] at hcases
  rcases hcases with ⟨-, -, -, hs'⟩ | ⟨-, -, ⟨-, -, -, hs'⟩ | ⟨-, -, hs'⟩⟩ | ⟨-, -, hn, hs'⟩
  · exact absurd (hs' ▸ hs) (by decide)
  · exact absurd (hs' ▸ hs) (by decide)
  · exact absurd (hs' ▸ hs) (by decide)
  obtain ⟨proposal, hp, hstem⟩ := firstAccepted_of_usage hs hs'
  rw [hstem] at hn
  refine ⟨proposal, hp, hp.notMem_fields, hn ▸ reached.issue_ofStem _, ?_⟩
  intro hfield
  by_contra hplain
  rw [not_or, Bool.not_eq_true] at hplain
  -- A stem that is not in use is given as it is, and here it is the proposal itself.
  have hunknown : reached.knows proposal = false := by
    rw [← Bool.not_eq_true, hknows proposal hplain.1]
    exact hplain.2
  rw [Numbered.ofName_of_not_endsInDigit hplain.1, hr.issue_of_unknown hplain.1 hunknown] at hn
  exact hp.notMem_fields (hn ▸ hfield)

section Syncing

open Node

def syncing (field : String) : Procedure where
  name := "Sync"
  slots := [{ kind := .localVariable, type := .builtin .int32 }]
  body := block [storeLocal 0 (loadStaticField { declaringType := "T", name := field })]

theorem names_from_usage_shadow_only_respelled_syncing :
    ((syncing "count2").report { fields := ["count"] }).assignments = [⟨0, "count", .storedValue⟩] ∧
    ∃ proposal, ({ fields := ["count"] } : Scope).Proposes (syncing "count2").body 0 .storedValue
        proposal ∧
      proposal ∉ ["count"] ∧ OfStem "count" (Numbered.ofName proposal).stem ∧
      ("count" ∈ ["count"] → endsInDigit proposal = true ∨
        proposal ∈ (syncing "count2").stemsInUse { fields := ["count"] } []) := by
  have hreport : ((syncing "count2").report { fields := ["count"] }).assignments =
      [⟨0, "count", .storedValue⟩] := by decide +kernel
  exact ⟨hreport, names_from_usage_shadow_only_respelled (syncing "count2") { fields := ["count"] }
    [] [] ⟨0, "count", .storedValue⟩ hreport (Or.inl rfl)⟩

theorem names_from_usage_may_be_fields :
    ¬ (∀ assignment ∈ ((syncing "count2").report { fields := ["count"] }).assignments,
      assignment.source = .storedValue ∨ assignment.source = .consumer →
        assignment.name ∉ ["count"]) ∧
    ((syncing "count2").nameSlots { fields := ["count"] }).slots.map (·.name) = [some "count"] ∧
    ¬ (∀ assignment ∈ ((syncing "count").report
        { fields := ["count2"], reserved := ["count"] }).assignments,
      assignment.source = .storedValue ∨ assignment.source = .consumer →
        assignment.name ∉ ["count2"]) := by
  decide +kernel

end Syncing

end Nomen
