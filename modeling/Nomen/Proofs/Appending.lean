import Nomen.Proofs.DebugNames
import Nomen.Proofs.Letters

namespace Nomen

theorem Register.serveAll_append (register : Register) (wishes more : List (Nat × Wish)) :
    ∃ reached : Register,
      register.serveAll (wishes ++ more) = register.serveAll wishes ++ reached.serveAll more := by
  induction wishes generalizing register with
  | nil => exact ⟨register, rfl⟩
  | cons wish wishes ih =>
    obtain ⟨reached, h⟩ := ih (register.serve wish.2).2
    refine ⟨reached, ?_⟩
    rw [List.cons_append, serveAll_cons, h, serveAll_cons, List.cons_append]

structure Slot.IsPlainLocal (settings : Settings) (slot : Slot) : Prop where
  kind_eq : slot.kind = .localVariable
  isGenerated_eq : slot.isGenerated = false
  refused : ∀ name, slot.debugName = some name → settings.Refuses name

namespace Slot.IsPlainLocal

variable {slot : Slot}

theorem isParameter_eq {settings : Settings} (h : slot.IsPlainLocal settings) :
    slot.isParameter = false :=
  isParameter_eq_false.mpr h.kind_eq

theorem keepsName_eq {settings : Settings} (h : slot.IsPlainLocal settings) :
    slot.keepsName = false :=
  needsName_iff.mp (Or.inl ⟨h.kind_eq, h.isGenerated_eq⟩)

theorem adopted?_eq {scope : Scope} (h : slot.IsPlainLocal scope.settings) :
    scope.adopted? slot = none :=
  Scope.adopted?_eq_none_iff.mpr (Or.inr h.refused)

end Slot.IsPlainLocal

namespace Scope

theorem unnamed_append (slots extra : List Slot) (p : Slot → Bool) :
    unnamed (slots ++ extra) p =
      unnamed slots p ++
        (extra.zipIdx slots.length).filter fun x => p x.1 && !x.1.keepsName := by
  rw [unnamed, List.zipIdx_append, List.filter_append, unnamed, Nat.zero_add]

end Scope

namespace Procedure

def append (procedure : Procedure) (extra : List Slot) : Procedure :=
  { procedure with slots := procedure.slots ++ extra }

variable (procedure : Procedure) {scope : Scope} {extra : List Slot}
  (h : ∀ slot ∈ extra, slot.IsPlainLocal scope.settings)

include h

theorem openRegister_append :
    (procedure.append extra).openRegister scope = procedure.openRegister scope := by
  have hnone : extra.filter (·.keepsName) = [] := by
    rw [List.filter_eq_nil_iff]
    intro slot hs
    rw [(h slot hs).keepsName_eq]
    decide
  rw [openRegister, keptNames, append, List.filter_append, hnone, List.append_nil, ← keptNames,
    ← openRegister]

theorem order_append :
    scope.order (procedure.append extra) =
      scope.order procedure ++ extra.zipIdx procedure.slots.length := by
  have hplain {x : Slot × Nat} (hx : x ∈ extra.zipIdx procedure.slots.length) :
      x.1.IsPlainLocal scope.settings := h x.1 (List.fst_mem_of_mem_zipIdx hx)
  -- Of the three parts of the order only the last grows.
  simp only [Scope.order_eq, append, Scope.unnamed_append]
  have hadopting : (extra.zipIdx procedure.slots.length).filter (fun x =>
      (scope.adopted? x.1).isSome && !x.1.keepsName) = [] := by
    rw [List.filter_eq_nil_iff]
    intro x hx
    simp [(hplain hx).adopted?_eq]
  have hparameters : (extra.zipIdx procedure.slots.length).filter (fun x =>
      (x.1.isParameter && (scope.adopted? x.1).isNone) && !x.1.keepsName) = [] := by
    rw [List.filter_eq_nil_iff]
    intro x hx
    simp [(hplain hx).isParameter_eq]
  have hlocals : (extra.zipIdx procedure.slots.length).filter (fun x =>
      (!x.1.isParameter && (scope.adopted? x.1).isNone) && !x.1.keepsName) =
        extra.zipIdx procedure.slots.length := by
    rw [List.filter_eq_self]
    intro x hx
    simp [(hplain hx).isParameter_eq, (hplain hx).adopted?_eq, (hplain hx).keepsName_eq]
  rw [hadopting, hparameters, hlocals, List.append_nil, List.append_nil, ← List.append_assoc]

theorem exists_report_append :
    ∃ added : List Assignment,
      ((procedure.append extra).report scope).assignments =
        (procedure.report scope).assignments ++ added ∧
      added.map (·.slot) = List.range' procedure.slots.length extra.length := by
  let wished : Slot × Nat → Nat × Wish := fun x => (x.2, scope.wish procedure.body x.2 x.1)
  obtain ⟨reached, hreached⟩ := (procedure.openRegister scope).serveAll_append
    ((scope.order procedure).map wished) ((extra.zipIdx procedure.slots.length).map wished)
  refine ⟨reached.serveAll ((extra.zipIdx procedure.slots.length).map wished), ?_, ?_⟩
  · rw [report, procedure.openRegister_append h, procedure.order_append h, List.map_append]
    exact hreached
  · rw [Register.serveAll_slots, List.map_map]
    exact List.zipIdx_map_snd ..

theorem nameSlots_append {index : Nat} (hi : index < procedure.slots.length) :
    ((procedure.append extra).nameSlots scope).slots[index]? =
      (procedure.nameSlots scope).slots[index]? := by
  obtain ⟨slot, hs⟩ : ∃ slot, procedure.slots[index]? = some slot :=
    ⟨_, List.getElem?_eq_getElem hi⟩
  have hs' : (procedure.append extra).slots[index]? = some slot :=
    (List.getElem?_append_left hi).trans hs
  by_cases hneeds : slot.NeedsName
  · obtain ⟨assignment, ha, rfl⟩ := exists_mem_report.mpr ⟨slot, hs, hneeds⟩
    obtain ⟨added, he, -⟩ := procedure.exists_report_append h
    have ha' : assignment ∈ ((procedure.append extra).report scope).assignments :=
      he ▸ List.mem_append_left added ha
    rw [nameSlots_of_mem ha hs, nameSlots_of_mem ha' hs']
  · rw [nameSlots_of_not_needsName scope hs hneeds, nameSlots_of_not_needsName scope hs' hneeds]

end Procedure

theorem appended_locals_are_named_last (procedure : Procedure) (scope : Scope) {extra : List Slot}
    (h : ∀ slot ∈ extra, slot.IsPlainLocal scope.settings) :
    (∀ index < procedure.slots.length,
      ((procedure.append extra).nameSlots scope).slots[index]? =
        (procedure.nameSlots scope).slots[index]?) ∧
    ∃ added : List Assignment,
      (procedure.append extra).report scope =
        ⟨procedure.name, (procedure.report scope).assignments ++ added⟩ ∧
      added.map (·.slot) = List.range' procedure.slots.length extra.length := by
  refine ⟨fun index => procedure.nameSlots_append h, ?_⟩
  obtain ⟨added, he, hslots⟩ := procedure.exists_report_append h
  exact ⟨added, congrArg _ he, hslots⟩

section Polling

open Node

-- The loop counts by a slot that is not there yet.
def polling : Procedure where
  name := "Poll"
  slots := [{ kind := .localVariable, type := .builtin .int32 },
    { kind := .parameter, type := .builtin .int32 }]
  body := whileLoop (binary .compareLessThan (loadLocal 2) (loadLocal 1)) []

def pollingLocals : List Slot :=
  [{ kind := .localVariable, type := .builtin .int32, debugName := some "V_2" },
    { kind := .localVariable, type := .builtin .int32, name := some "num" }]

theorem appended_locals_are_named_last_polling :
    (∀ slot ∈ pollingLocals, slot.IsPlainLocal {}) ∧
    (polling.report {}).assignments = [⟨1, "num", .type⟩, ⟨0, "num2", .type⟩] ∧
    ∃ added, (polling.append pollingLocals).report {} =
        ⟨"Poll", [⟨1, "num", .type⟩, ⟨0, "num2", .type⟩] ++ added⟩ ∧
      added.map (·.slot) = [2, 3] := by
  have h : ∀ slot ∈ pollingLocals, slot.IsPlainLocal {} := by
    simp only [pollingLocals, List.forall_mem_cons]
    refine ⟨⟨rfl, rfl, fun name hn => ?_⟩, ⟨rfl, rfl, fun name hn => ?_⟩, by simp⟩
    · obtain rfl := Option.some.inj hn
      exact .placeholder (by decide) ⟨"2", rfl⟩
    · exact absurd hn (by simp)
  have hreport : (polling.report {}).assignments = [⟨1, "num", .type⟩, ⟨0, "num2", .type⟩] := by
    decide +kernel
  refine ⟨h, hreport, ?_⟩
  rw [← hreport]
  exact (appended_locals_are_named_last polling {} h).2

-- What is appended does get the letter that the body has for it.
example : ((polling.append pollingLocals).report {}).assignments =
    [⟨1, "num", .type⟩, ⟨0, "num2", .type⟩, ⟨2, "i", .loopCounter⟩, ⟨3, "num3", .type⟩] := by
  decide +kernel

end Polling

end Nomen
