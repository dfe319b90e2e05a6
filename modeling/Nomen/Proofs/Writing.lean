import Nomen.Proofs.Report

namespace Nomen

namespace Procedure

theorem group_spec {procedure : Procedure} {scope : Scope} {group : List Assignment}
    {served : List (Slot × Nat)} (hg : group ⊆ (procedure.report scope).assignments)
    (hs : served.Sublist procedure.slots.zipIdx) (he : group.map (·.slot) = served.map (·.2)) :
    (group.map (·.slot)).Pairwise (· < ·) ∧
      ∀ assignment ∈ group, ∃ slot, (slot, assignment.slot) ∈ served ∧
        procedure.slots[assignment.slot]? = some slot ∧
        (assignment.source = .debugSymbol ↔ (scope.adopted? slot).isSome = true) := by
  constructor
  · rw [he]
    exact (Scope.zipIdx_increasing procedure.slots).sublist (hs.map _)
  · intro assignment ha
    obtain ⟨slot, -, hslot, -⟩ := mem_report (hg ha)
    refine ⟨slot, ?_, hslot, source_eq_debugSymbol_iff (hg ha) hslot⟩
    have hm : assignment.slot ∈ served.map (·.2) := he ▸ List.mem_map_of_mem ha
    obtain ⟨⟨other, index⟩, ho, rfl⟩ := List.mem_map.mp hm
    have hother := List.mk_mem_zipIdx_iff_getElem?.mp (hs.subset ho)
    rw [hslot, Option.some.injEq] at hother
    exact hother ▸ ho

theorem report_groups (procedure : Procedure) (scope : Scope) :
    ∃ adopted parameters locals : List Assignment,
      (procedure.report scope).assignments = adopted ++ parameters ++ locals ∧
      (∀ assignment ∈ adopted, assignment.source = .debugSymbol) ∧
      (∀ assignment ∈ parameters, assignment.source ≠ .debugSymbol ∧
        ∃ slot, procedure.slots[assignment.slot]? = some slot ∧ slot.kind = .parameter) ∧
      (∀ assignment ∈ locals, assignment.source ≠ .debugSymbol ∧
        ∃ slot, procedure.slots[assignment.slot]? = some slot ∧ slot.kind = .localVariable) ∧
      ∀ group ∈ [adopted, parameters, locals], (group.map (·.slot)).Pairwise (· < ·) := by
  have hslots := procedure.report_slots scope
  rw [Scope.order, List.map_append, List.map_append, List.map_eq_append_iff] at hslots
  obtain ⟨first, locals, he, hfirst, hlocals⟩ := hslots
  obtain ⟨adopted, parameters, rfl, hadopted, hparameters⟩ := List.map_eq_append_iff.mp hfirst
  have hsub (p q : Slot × Nat → Bool) :
      ((procedure.slots.zipIdx.filter p).filter q).Sublist procedure.slots.zipIdx :=
    List.filter_sublist.trans List.filter_sublist
  have hin : ∀ group ∈ [adopted, parameters, locals], group ⊆ (procedure.report scope).assignments := by
    simp [he]
  obtain ⟨hinc1, hspec1⟩ := group_spec (hin adopted (by simp)) (hsub _ _) hadopted
  obtain ⟨hinc2, hspec2⟩ := group_spec (hin parameters (by simp))
    (List.filter_sublist.trans (hsub _ _)) hparameters
  obtain ⟨hinc3, hspec3⟩ := group_spec (hin locals (by simp))
    (List.filter_sublist.trans (hsub _ _)) hlocals
  have hother {p q : Slot × Nat → Bool} {slot : Slot} {assignment : Assignment}
      (hm : (slot, assignment.slot) ∈ ((procedure.slots.zipIdx.filter p).filter
        fun p => (scope.adopted? p.1).isNone).filter q)
      (hs : assignment.source = .debugSymbol ↔ (scope.adopted? slot).isSome = true) :
      assignment.source ≠ .debugSymbol ∧ q (slot, assignment.slot) = true := by
    obtain ⟨ho, hq⟩ := List.mem_filter.mp hm
    have hnone := (List.mem_filter.mp ho).2
    rw [Ne, hs]
    exact ⟨by simpa using hnone, hq⟩
  refine ⟨adopted, parameters, locals, he, ?_, ?_, ?_, by simp [hinc1, hinc2, hinc3]⟩
  · intro assignment ha
    obtain ⟨slot, hm, -, hsource⟩ := hspec1 assignment ha
    exact hsource.mpr (List.mem_filter.mp hm).2
  · intro assignment ha
    obtain ⟨slot, hm, hslot, hsource⟩ := hspec2 assignment ha
    obtain ⟨hne, hp⟩ := hother hm hsource
    exact ⟨hne, slot, hslot, Slot.isParameter_eq_true.mp hp⟩
  · intro assignment ha
    obtain ⟨slot, hm, hslot, hsource⟩ := hspec3 assignment ha
    obtain ⟨hne, hp⟩ := hother hm hsource
    exact ⟨hne, slot, hslot, Slot.isParameter_eq_false.mp (by simpa using hp)⟩

end Procedure

structure NamedAsReported (before : Procedure) (report : Report) (after : Procedure) : Prop where
  listed : ∀ index, (∃ assignment ∈ report.assignments, assignment.slot = index) ↔
    ∃ slot, before.slots[index]? = some slot ∧ slot.NeedsName
  listed_once : (report.assignments.map (·.slot)).Nodup
  -- The part that is listed first is the part with debug names.
  ordered : ∃ adopted parameters locals : List Assignment,
    report.assignments = adopted ++ parameters ++ locals ∧
    (∀ assignment ∈ adopted, assignment.source = .debugSymbol) ∧
    (∀ assignment ∈ parameters, assignment.source ≠ .debugSymbol ∧
      ∃ slot, before.slots[assignment.slot]? = some slot ∧ slot.kind = .parameter) ∧
    (∀ assignment ∈ locals, assignment.source ≠ .debugSymbol ∧
      ∃ slot, before.slots[assignment.slot]? = some slot ∧ slot.kind = .localVariable) ∧
    ∀ group ∈ [adopted, parameters, locals], (group.map (·.slot)).Pairwise (· < ·)
  written : ∀ assignment ∈ report.assignments,
    report.nameFor? assignment.slot = some assignment.name ∧
    ∃ slot, before.slots[assignment.slot]? = some slot ∧
      after.slots[assignment.slot]? = some { slot with name := some assignment.name }
  kept : ∀ (index : Nat) (slot : Slot), before.slots[index]? = some slot → ¬ slot.NeedsName →
    after.slots[index]? = some slot
  length_eq : after.slots.length = before.slots.length
  name_eq : after.name = before.name
  body_eq : after.body = before.body
  procedure_eq : report.procedure = before.name

theorem nameSlots_as_reported (procedure : Procedure) (scope : Scope) :
    NamedAsReported procedure (procedure.report scope) (procedure.nameSlots scope) where
  listed _ := Procedure.exists_mem_report
  listed_once := procedure.report_nodup scope
  ordered := procedure.report_groups scope
  written := by
    intro assignment ha
    obtain ⟨slot, -, hs, -⟩ := Procedure.mem_report ha
    exact ⟨Report.nameFor?_of_mem (procedure.report_nodup scope) ha, slot, hs,
      Procedure.nameSlots_of_mem ha hs⟩
  kept _ _ hs hk := Procedure.nameSlots_of_not_needsName scope hs hk
  length_eq := List.length_mapIdx
  name_eq := rfl
  body_eq := rfl
  procedure_eq := rfl

end Nomen
