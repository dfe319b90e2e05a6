import Mathlib.Data.List.Nodup
import Nomen.Naming

namespace Nomen

def Slot.NeedsName (slot : Slot) : Prop :=
  slot.kind = .localVariable ∧ slot.isGenerated = false ∨
    (slot.kind = .parameter ∨ slot.isGenerated = true) ∧ (slot.name = none ∨ slot.name = some "")

theorem Slot.isParameter_eq_true {slot : Slot} : slot.isParameter = true ↔ slot.kind = .parameter := by
  rw [isParameter, beq_iff_eq]

theorem Slot.isParameter_eq_false {slot : Slot} :
    slot.isParameter = false ↔ slot.kind = .localVariable := by
  cases hk : slot.kind <;> simp [isParameter, hk]

theorem Slot.givenName?_isSome {slot : Slot} :
    slot.givenName?.isSome = true ↔ ¬ (slot.name = none ∨ slot.name = some "") := by
  cases hn : slot.name <;> simp [givenName?, hn]

theorem Slot.needsName_iff {slot : Slot} : slot.NeedsName ↔ slot.keepsName = false := by
  rw [← Bool.not_eq_true, keepsName, Bool.and_eq_true, Bool.or_eq_true, givenName?_isSome, NeedsName,
    ← isParameter_eq_true, ← isParameter_eq_false]
  cases slot.isParameter <;> cases slot.isGenerated <;> simp [Decidable.or_iff_not_imp_left]

namespace Register

theorem serveAll_slots (register : Register) (wishes : List (Nat × Wish)) :
    (register.serveAll wishes).map (·.slot) = wishes.map (·.1) := by
  induction wishes generalizing register with
  | nil => rfl
  | cons wish wishes ih => rw [serveAll, List.map_cons, List.map_cons, ih]

theorem mem_serveAll {register : Register} {wishes : List (Nat × Wish)} {assignment : Assignment}
    (h : assignment ∈ register.serveAll wishes) :
    ∃ (reached : Register) (wish : Wish), (assignment.slot, wish) ∈ wishes ∧
      (reached.serve wish).1 = (assignment.name, assignment.source) := by
  induction wishes generalizing register with
  | nil => exact absurd h List.not_mem_nil
  | cons head wishes ih =>
    rcases List.mem_cons.mp h with rfl | h
    · exact ⟨register, head.2, List.mem_cons_self, rfl⟩
    · obtain ⟨reached, wish, hw, he⟩ := ih h
      exact ⟨reached, wish, List.mem_cons_of_mem head hw, he⟩

end Register

namespace Scope

theorem mem_order {scope : Scope} {procedure : Procedure} {slot : Slot} {index : Nat} :
    (slot, index) ∈ scope.order procedure ↔
      procedure.slots[index]? = some slot ∧ slot.keepsName = false := by
  simp only [order, List.mem_append, List.mem_filter, List.mk_mem_zipIdx_iff_getElem?]
  cases scope.adopted? slot <;> cases slot.isParameter <;> simp

theorem order_perm (scope : Scope) (procedure : Procedure) :
    (scope.order procedure).Perm (procedure.slots.zipIdx.filter fun (slot, _) => !slot.keepsName) := by
  let unnamed := procedure.slots.zipIdx.filter fun (slot, _) => !slot.keepsName
  let others := unnamed.filter fun (slot, _) => (scope.adopted? slot).isNone
  have hothers := List.filter_append_perm (fun p : Slot × Nat => p.1.isParameter) others
  have hall := List.filter_append_perm (fun p : Slot × Nat => (scope.adopted? p.1).isSome) unnamed
  simp only [Option.not_isSome] at hall
  rw [order, List.append_assoc]
  exact (hothers.append_left _).trans hall

theorem zipIdx_increasing (slots : List Slot) : (slots.zipIdx.map (·.2)).Pairwise (· < ·) := by
  rw [List.zipIdx_map_snd]
  exact List.pairwise_lt_range'

theorem order_nodup (scope : Scope) (procedure : Procedure) :
    ((scope.order procedure).map (·.2)).Nodup := by
  rw [((scope.order_perm procedure).map (·.2)).nodup_iff]
  have hsub : (procedure.slots.zipIdx.filter fun (slot, _) => !slot.keepsName).Sublist
    procedure.slots.zipIdx := List.filter_sublist
  exact ((zipIdx_increasing procedure.slots).sublist (hsub.map _)).imp Nat.ne_of_lt

theorem synthesis_cases (scope : Scope) (body : Node) (index : Nat) (type : TypeSig) :
    (isCounter body index type = true ∧
      scope.synthesis body index type = .counter (typeStem type)) ∨
    ∃ stem source, scope.synthesis body index type = .stem stem source ∧
      (source = .storedValue ∧ (storeName? scope.fields body index).bind acceptedStem? = some stem ∨
        source = .consumer ∧
          (loadName? scope.fields scope.resolve body index).bind acceptedStem? = some stem ∨
        source = .type ∧ typeStem type = stem) := by
  rw [synthesis]
  split
  · next hc => exact Or.inl ⟨hc, rfl⟩
  · right
    split
    · next stem hs => exact ⟨stem, _, rfl, Or.inl ⟨rfl, hs⟩⟩
    · split
      · next stem hl => exact ⟨stem, _, rfl, Or.inr (Or.inl ⟨rfl, hl⟩)⟩
      · exact ⟨_, _, rfl, Or.inr (Or.inr ⟨rfl, rfl⟩)⟩

theorem serve_source (scope : Scope) (body : Node) (index : Nat) (slot : Slot)
    (register : Register) :
    (register.serve (scope.wish body index slot)).1.2 = .debugSymbol ↔
      (scope.adopted? slot).isSome = true := by
  rw [wish]
  cases scope.adopted? slot with
  | some debugName => simp [Register.serve]
  | none =>
    rcases scope.synthesis_cases body index slot.type with ⟨-, he⟩ | ⟨stem, source, he, hs⟩
    · simp only [he, Register.serve]
      cases register.freeLetter? <;> simp
    · simp only [he, Register.serve]
      rcases hs with ⟨rfl, -⟩ | ⟨rfl, -⟩ | ⟨rfl, -⟩ <;> simp

end Scope

def firstAccepted (fields : List String) (resolve : MethodRef → Option Signature) (body : Node)
    (index : Nat) (type : TypeSig) : String × Source :=
  let stored := (storeName? fields body index).bind acceptedStem?
  let consumed := (loadName? fields resolve body index).bind acceptedStem?
  ((stored.map (·, .storedValue)).or (consumed.map (·, .consumer))).getD (typeStem type, .type)

namespace Scope

theorem synthesis_of_not_isCounter {scope : Scope} {body : Node} {index : Nat} {type : TypeSig}
    (h : isCounter body index type = false) :
    scope.synthesis body index type =
      .stem (firstAccepted scope.fields scope.resolve body index type).1
        (firstAccepted scope.fields scope.resolve body index type).2 := by
  simp only [synthesis, h, Bool.false_eq_true, ↓reduceIte, firstAccepted]
  cases (storeName? scope.fields body index).bind acceptedStem? with
  | some stem => rfl
  | none => cases (loadName? scope.fields scope.resolve body index).bind acceptedStem? <;> rfl

theorem serve_cases (scope : Scope) (body : Node) (index : Nat) (slot : Slot)
    (register : Register) :
    (∃ debugName, scope.adopted? slot = some debugName ∧
      (register.serve (scope.wish body index slot)).1 =
        ((register.adopt debugName).1, .debugSymbol)) ∨
    scope.adopted? slot = none ∧ isCounter body index slot.type = true ∧
      ((∃ letter, register.freeLetter? = some letter ∧
        (register.serve (scope.wish body index slot)).1 =
          ((register.issue letter).1, .loopCounter)) ∨
      register.freeLetter? = none ∧
        (register.serve (scope.wish body index slot)).1 =
          ((register.issue (typeStem slot.type)).1, .type)) ∨
    scope.adopted? slot = none ∧ isCounter body index slot.type = false ∧
      (register.serve (scope.wish body index slot)).1 =
        ((register.issue (firstAccepted scope.fields scope.resolve body index slot.type).1).1,
          (firstAccepted scope.fields scope.resolve body index slot.type).2) := by
  cases ha : scope.adopted? slot with
  | some debugName => exact Or.inl ⟨debugName, rfl, by simp only [wish, ha, Register.serve]⟩
  | none =>
    cases hc : isCounter body index slot.type with
    | true =>
      have hw : scope.wish body index slot = .counter (typeStem slot.type) := by
        simp only [wish, ha, synthesis, hc, ↓reduceIte]
      refine Or.inr (Or.inl ⟨rfl, rfl, ?_⟩)
      cases hl : register.freeLetter? with
      | some letter => exact Or.inl ⟨letter, rfl, by simp only [hw, Register.serve, hl]⟩
      | none => exact Or.inr ⟨rfl, by simp only [hw, Register.serve, hl]⟩
    | false =>
      refine Or.inr (Or.inr ⟨rfl, rfl, ?_⟩)
      simp only [wish, ha, synthesis_of_not_isCounter hc, Register.serve]

end Scope

theorem firstAccepted_source (fields : List String) (resolve : MethodRef → Option Signature)
    (body : Node) (index : Nat) (type : TypeSig) :
    (firstAccepted fields resolve body index type).2 ∈ [.storedValue, .consumer, .type] := by
  rw [firstAccepted]
  cases (storeName? fields body index).bind acceptedStem? with
  | some stem => simp
  | none => cases (loadName? fields resolve body index).bind acceptedStem? <;> simp

namespace Report

theorem find?_of_mem {report : Report} (hn : (report.assignments.map (·.slot)).Nodup)
    {assignment : Assignment} (h : assignment ∈ report.assignments) :
    report.find? assignment.slot = some assignment := by
  cases hf : report.find? assignment.slot with
  | none =>
    have := List.find?_eq_none.mp hf assignment h
    simp at this
  | some other =>
    have hs : other.slot = assignment.slot := by simpa using List.find?_some hf
    rw [List.inj_on_of_nodup_map hn (List.mem_of_find?_eq_some hf) h hs]

theorem nameFor?_of_mem {report : Report} (hn : (report.assignments.map (·.slot)).Nodup)
    {assignment : Assignment} (h : assignment ∈ report.assignments) :
    report.nameFor? assignment.slot = some assignment.name := by
  rw [nameFor?, find?_of_mem hn h, Option.map_some]

theorem nameFor?_eq_none {report : Report} {index : Nat}
    (h : ∀ assignment ∈ report.assignments, assignment.slot ≠ index) :
    report.nameFor? index = none := by
  rw [nameFor?, Option.map_eq_none_iff, find?, List.find?_eq_none]
  intro assignment ha
  simpa using h assignment ha

end Report

namespace Procedure

theorem report_slots (procedure : Procedure) (scope : Scope) :
    (procedure.report scope).assignments.map (·.slot) = (scope.order procedure).map (·.2) := by
  rw [report, Register.serveAll_slots, List.map_map]
  rfl

theorem report_nodup (procedure : Procedure) (scope : Scope) :
    ((procedure.report scope).assignments.map (·.slot)).Nodup := by
  rw [report_slots]
  exact scope.order_nodup procedure

theorem exists_mem_report {procedure : Procedure} {scope : Scope} {index : Nat} :
    (∃ assignment ∈ (procedure.report scope).assignments, assignment.slot = index) ↔
      ∃ slot, procedure.slots[index]? = some slot ∧ slot.NeedsName := by
  rw [← List.mem_map, report_slots, List.mem_map]
  constructor
  · rintro ⟨⟨slot, other⟩, ho, rfl⟩
    obtain ⟨hs, hk⟩ := Scope.mem_order.mp ho
    exact ⟨slot, hs, Slot.needsName_iff.mpr hk⟩
  · rintro ⟨slot, hs, hk⟩
    exact ⟨(slot, index), Scope.mem_order.mpr ⟨hs, Slot.needsName_iff.mp hk⟩, rfl⟩

theorem mem_report {procedure : Procedure} {scope : Scope} {assignment : Assignment}
    (h : assignment ∈ (procedure.report scope).assignments) :
    ∃ (slot : Slot) (reached : Register), procedure.slots[assignment.slot]? = some slot ∧
      (reached.serve (scope.wish procedure.body assignment.slot slot)).1 =
        (assignment.name, assignment.source) := by
  obtain ⟨reached, wish, hw, he⟩ := Register.mem_serveAll h
  obtain ⟨⟨slot, index⟩, ho, heq⟩ := List.mem_map.mp hw
  obtain ⟨rfl, rfl⟩ := Prod.mk.injEq .. ▸ heq
  exact ⟨slot, reached, (Scope.mem_order.mp ho).1, he⟩

theorem source_eq_debugSymbol_iff {procedure : Procedure} {scope : Scope} {assignment : Assignment}
    (ha : assignment ∈ (procedure.report scope).assignments) {slot : Slot}
    (hs : procedure.slots[assignment.slot]? = some slot) :
    assignment.source = .debugSymbol ↔ (scope.adopted? slot).isSome = true := by
  obtain ⟨other, reached, ho, hserve⟩ := mem_report ha
  rw [hs, Option.some.injEq] at ho
  rw [← scope.serve_source procedure.body assignment.slot slot reached, ho, hserve]

theorem nameSlots_of_mem {procedure : Procedure} {scope : Scope} {assignment : Assignment}
    (h : assignment ∈ (procedure.report scope).assignments) {slot : Slot}
    (hs : procedure.slots[assignment.slot]? = some slot) :
    (procedure.nameSlots scope).slots[assignment.slot]? =
      some { slot with name := some assignment.name } := by
  have hn := Report.nameFor?_of_mem (procedure.report_nodup scope) h
  rw [nameSlots, withNames, List.getElem?_mapIdx, hs, hn, Option.map_some]

theorem nameSlots_of_not_needsName {procedure : Procedure} (scope : Scope) {index : Nat} {slot : Slot}
    (hs : procedure.slots[index]? = some slot) (hk : ¬ slot.NeedsName) :
    (procedure.nameSlots scope).slots[index]? = some slot := by
  have hn : (procedure.report scope).nameFor? index = none := by
    apply Report.nameFor?_eq_none
    intro assignment ha he
    obtain ⟨other, ho, hneeds⟩ := exists_mem_report.mp ⟨assignment, ha, he⟩
    rw [hs, Option.some.injEq] at ho
    exact hk (ho ▸ hneeds)
  rw [nameSlots, withNames, List.getElem?_mapIdx, hs, hn, Option.map_some]

theorem nameSlots_cases {procedure : Procedure} {scope : Scope} {index : Nat} {slot : Slot}
    (h : (procedure.nameSlots scope).slots[index]? = some slot) :
    (procedure.slots[index]? = some slot ∧ ¬ slot.NeedsName) ∨
      ∃ assignment ∈ (procedure.report scope).assignments,
        assignment.slot = index ∧ slot.name = some assignment.name := by
  have hold : ∃ old, procedure.slots[index]? = some old := by
    rw [nameSlots, withNames, List.getElem?_mapIdx] at h
    obtain ⟨old, ho, -⟩ := Option.map_eq_some_iff.mp h
    exact ⟨old, ho⟩
  obtain ⟨old, ho⟩ := hold
  by_cases hneeds : old.NeedsName
  · right
    obtain ⟨assignment, ha, rfl⟩ := exists_mem_report.mpr ⟨old, ho, hneeds⟩
    rw [nameSlots_of_mem ha ho, Option.some.injEq] at h
    exact ⟨assignment, ha, rfl, by rw [← h]⟩
  · left
    rw [nameSlots_of_not_needsName scope ho hneeds, Option.some.injEq] at h
    subst h
    exact ⟨ho, hneeds⟩

end Procedure

end Nomen
