import Mathlib.Data.List.Sort
import Mathlib.Data.Set.Monotone
import Mathlib.Logic.Equiv.Fin.Rotate
import Nomen.Proofs.DebugNames
import Nomen.Proofs.Letters
import Nomen.Proofs.ListOrder

/-!
Slots may change places. The rules compare slot numbers with each other and with nothing else, so a
body with other numbers gives the same wishes. They are served in the same order if parameters,
locals and the slots that take over debug names each keep their order.
-/

namespace Nomen

def Operand.renumber (f : Nat → Nat) : Operand → Operand
  | slot index => .slot (f index)
  | field ref => .field ref
  | method ref => .method ref
  | literal value => .literal value

namespace Node

mutual

def renumber (f : Nat → Nat) : Node → Node
  | ⟨code, operand, args⟩ => ⟨code, operand.map (Operand.renumber f), renumberAll f args⟩

def renumberAll (f : Nat → Nat) : List Node → List Node
  | [] => []
  | node :: nodes => node.renumber f :: renumberAll f nodes

end

section Renumber

variable (f : Nat → Nat)

theorem renumberAll_eq_map (nodes : List Node) : renumberAll f nodes = nodes.map (renumber f) := by
  induction nodes with
  | nil => rfl
  | cons node nodes ih => rw [renumberAll, ih, List.map_cons]

@[simp] theorem code_renumber (node : Node) : (node.renumber f).code = node.code := by
  cases node
  rfl

@[simp] theorem args_renumber (node : Node) :
    (node.renumber f).args = node.args.map (renumber f) := by
  cases node
  exact renumberAll_eq_map f _

@[simp] theorem slot?_renumber (node : Node) : (node.renumber f).slot? = node.slot?.map f := by
  rcases node with ⟨code, _ | operand, args⟩
  · rfl
  · cases operand <;> rfl

@[simp] theorem field?_renumber (node : Node) : (node.renumber f).field? = node.field? := by
  rcases node with ⟨code, _ | operand, args⟩
  · rfl
  · cases operand <;> rfl

@[simp] theorem method?_renumber (node : Node) : (node.renumber f).method? = node.method? := by
  rcases node with ⟨code, _ | operand, args⟩
  · rfl
  · cases operand <;> rfl

mutual

theorem preorder_renumber :
    ∀ node : Node, (node.renumber f).preorder = node.preorder.map (renumber f)
  | ⟨code, operand, args⟩ => by
    rw [renumber, preorder, preorderAll_renumber args, preorder, List.map_cons, renumber]

theorem preorderAll_renumber :
    ∀ nodes : List Node, preorderAll (renumberAll f nodes) = (preorderAll nodes).map (renumber f)
  | [] => rfl
  | node :: nodes => by
    rw [renumberAll, preorderAll, preorder_renumber node, preorderAll_renumber nodes, preorderAll,
      List.map_append]

end

theorem subnodes_renumber (node : Node) :
    (node.renumber f).subnodes = node.subnodes.map (renumber f) := by
  rw [subnodes_eq_preorder, subnodes_eq_preorder, preorder_renumber]

theorem condition?_renumber (node : Node) :
    (node.renumber f).condition? = node.condition?.map (renumber f) := by
  rw [condition?, condition?, code_renumber, args_renumber, List.head?_map]
  split <;> rfl

theorem negated?_renumber (node : Node) :
    (node.renumber f).negated? = node.negated?.map (renumber f) := by
  fun_induction negated? node with
  | case1 operand => rfl
  | case2 operand first rest ih => rw [renumber, renumberAll, negated?, ih]
  | case3 node hnil hcons =>
    rcases node with ⟨code, operand, args⟩
    have hcode : code ≠ .logicNot := by
      rintro rfl
      cases args with
      | nil => exact hnil operand rfl
      | cons first rest => exact hcons operand first rest rfl
    rw [Option.map_some, renumber, negated?]
    · rintro operand h
      exact hcode (congrArg Node.code h)
    · rintro operand first rest h
      exact hcode (congrArg Node.code h)

end Renumber

section Injective

variable {f : Nat → Nat} (hf : Function.Injective f) (slot : Nat)

include hf

theorem slot?_renumber_beq (node : Node) :
    ((node.renumber f).slot? == some (f slot)) = (node.slot? == some slot) := by
  rw [slot?_renumber]
  cases node.slot? with
  | none => rfl
  | some index => simp [hf.beq_eq]

theorem reads_renumber (node : Node) : (node.renumber f).reads (f slot) = node.reads slot := by
  rw [reads, reads, code_renumber, slot?_renumber_beq hf]

theorem writes_renumber (node : Node) : (node.renumber f).writes (f slot) = node.writes slot := by
  rw [writes, writes, code_renumber, slot?_renumber_beq hf]

theorem compares_renumber (condition : Node) :
    compares (f slot) (condition.renumber f) = compares slot condition := by
  rw [compares, compares, negated?_renumber]
  cases condition.negated? with
  | none => rfl
  | some test =>
    simp only [Option.map_some, Option.any_some, code_renumber, args_renumber, List.head?_map,
      Option.any_map, reads_renumber hf]

theorem countsBy_renumber (body : Node) :
    (body.renumber f).countsBy (f slot) = body.countsBy slot := by
  simp only [countsBy, subnodesWith, subnodes_renumber, List.filter_map, List.any_map,
    Function.comp_def, code_renumber, condition?_renumber, Option.any_map, compares_renumber hf]

end Injective

end Node

theorem valueName?_renumber (f : Nat → Nat) (value : Node) :
    valueName? (value.renumber f) = valueName? value := by
  rw [valueName?, valueName?, Node.code_renumber, Node.field?_renumber, Node.method?_renumber]

theorem argumentName?_renumber (f : Nat → Nat) (resolve : MethodRef → Option Signature)
    (node : Node) (index : Nat) :
    argumentName? resolve (node.renumber f) index = argumentName? resolve node index := by
  simp only [argumentName?, Node.code_renumber, Node.field?_renumber, Node.method?_renumber,
    Node.args_renumber, List.length_map]

theorem storeProposals_renumber {f : Nat → Nat} (hf : Function.Injective f) (body : Node)
    (slot : Nat) :
    storeProposals (body.renumber f) (f slot) = storeProposals body slot := by
  have hvalue (store : Node) :
      (store.renumber f).args.head?.bind valueName? = store.args.head?.bind valueName? := by
    rw [Node.args_renumber, List.head?_map]
    cases store.args.head? with
    | none => rfl
    | some value => exact valueName?_renumber f value
  simp only [storeProposals, Node.subnodes_renumber, List.filter_map, List.map_map,
    Function.comp_def, Node.writes_renumber hf, hvalue]

theorem readProposals_renumber {f : Nat → Nat} (hf : Function.Injective f)
    (resolve : MethodRef → Option Signature) (slot : Nat) (node : Node) :
    readProposals resolve (f slot) (node.renumber f) = readProposals resolve slot node := by
  simp only [readProposals, Node.code_renumber, Node.args_renumber, List.zipIdx_map,
    List.filter_map, List.map_map, Function.comp_def, Prod.map_fst, Prod.map_snd, Node.reads_renumber hf,
    argumentName?_renumber, id_eq]

theorem loadProposals_renumber {f : Nat → Nat} (hf : Function.Injective f)
    (resolve : MethodRef → Option Signature) (body : Node) (slot : Nat) :
    loadProposals resolve (body.renumber f) (f slot) = loadProposals resolve body slot := by
  simp only [loadProposals, Node.subnodes_renumber, List.flatMap_map, readProposals_renumber hf]

theorem Scope.wish_renumber {f : Nat → Nat} (hf : Function.Injective f) (scope : Scope)
    (body : Node) (index : Nat) (slot : Slot) :
    scope.wish (body.renumber f) (f index) slot = scope.wish body index slot := by
  rw [wish, wish, synthesis, synthesis, isCounter, isCounter, Node.countsBy_renumber hf, storeName?,
    storeName?, storeProposals_renumber hf, loadName?, loadName?, loadProposals_renumber hf]

def Assignment.renumber (f : Nat → Nat) (assignment : Assignment) : Assignment :=
  { assignment with slot := f assignment.slot }

def Report.renumber (f : Nat → Nat) (report : Report) : Report :=
  { report with assignments := report.assignments.map (Assignment.renumber f) }

theorem Register.serveAll_renumber (f : Nat → Nat) (register : Register)
    (wishes : List (Nat × Wish)) :
    register.serveAll (wishes.map fun x => (f x.1, x.2)) =
      (register.serveAll wishes).map (Assignment.renumber f) := by
  induction wishes generalizing register with
  | nil => rfl
  | cons wish wishes ih =>
    rw [List.map_cons, serveAll_cons, ih, serveAll_cons]
    rfl

theorem Report.find?_renumber {f : Nat → Nat} (hf : Function.Injective f) (report : Report)
    (index : Nat) :
    (report.renumber f).find? (f index) = (report.find? index).map (Assignment.renumber f) := by
  simp only [find?, renumber, List.find?_map, Function.comp_def, Assignment.renumber, hf.beq_eq]

def place {count : Nat} (move : Equiv.Perm (Fin count)) : Equiv.Perm Nat :=
  move.extendDomain Fin.equivSubtype

theorem place_of_lt {count : Nat} (move : Equiv.Perm (Fin count)) {index : Nat}
    (h : index < count) : place move index = move ⟨index, h⟩ :=
  move.extendDomain_apply_subtype Fin.equivSubtype h

theorem place_of_le {count : Nat} (move : Equiv.Perm (Fin count)) {index : Nat}
    (h : count ≤ index) : place move index = index :=
  move.extendDomain_apply_not_subtype Fin.equivSubtype (Nat.not_lt.mpr h)

namespace Procedure

def moved (procedure : Procedure) (move : Equiv.Perm (Fin procedure.slots.length)) : Procedure where
  name := procedure.name
  slots := List.ofFn fun i => procedure.slots.get (move.symm i)
  body := procedure.body.renumber (place move)

variable (procedure : Procedure) (move : Equiv.Perm (Fin procedure.slots.length))

theorem getElem?_slots_moved (index : Nat) :
    (procedure.moved move).slots[place move index]? = procedure.slots[index]? := by
  rw [moved, List.getElem?_ofFn]
  rcases Nat.lt_or_ge index procedure.slots.length with h | h
  · rw [place_of_lt move h, dif_pos (move ⟨index, h⟩).isLt, Fin.eta, move.symm_apply_apply,
      List.getElem?_eq_getElem h]
    rfl
  · rw [place_of_le move h, dif_neg (Nat.not_lt.mpr h), List.getElem?_eq_none h]

theorem mem_slots_moved {slot : Slot} :
    slot ∈ (procedure.moved move).slots ↔ slot ∈ procedure.slots := by
  rw [List.mem_iff_getElem?, List.mem_iff_getElem?, (place move).surjective.exists]
  simp only [getElem?_slots_moved]

theorem openRegister_moved (scope : Scope) :
    ((procedure.moved move).openRegister scope).SameEntries (procedure.openRegister scope) := by
  -- Names that are kept are entered in another order, which a register does not tell apart.
  apply Register.SameEntries.reserveAll
  · exact fun _ => Iff.rfl
  · intro name _
    simp only [keptNames, List.mem_filterMap, List.mem_filter, mem_slots_moved]

end Procedure

theorem eq_of_increasing {xs ys : List (Slot × Nat)} (hx : (xs.map (·.2)).Pairwise (· < ·))
    (hy : (ys.map (·.2)).Pairwise (· < ·)) (h : ∀ x, x ∈ xs ↔ x ∈ ys) : xs = ys := by
  have hirrefl : Std.Irrefl fun x y : Slot × Nat => x.2 < y.2 := ⟨fun x => Nat.lt_irrefl x.2⟩
  have hantisymm : Std.Antisymm fun x y : Slot × Nat => x.2 < y.2 :=
    ⟨fun _ _ hxy hyx => absurd hyx (Nat.lt_asymm hxy)⟩
  exact (List.pairwise_map.mp hx).eq_of_mem_iff (List.pairwise_map.mp hy) h

namespace Scope

theorem mem_unnamed {slots : List Slot} {p : Slot → Bool} {slot : Slot} {index : Nat} :
    (slot, index) ∈ unnamed slots p ↔
      slots[index]? = some slot ∧ p slot = true ∧ slot.keepsName = false := by
  rw [unnamed, List.mem_filter, List.mk_mem_zipIdx_iff_getElem?, Bool.and_eq_true,
    Bool.not_eq_true']

theorem unnamed_increasing (slots : List Slot) (p : Slot → Bool) :
    ((unnamed slots p).map (·.2)).Pairwise (· < ·) :=
  (zipIdx_increasing slots).sublist (List.filter_sublist.map _)

theorem unnamed_moved {procedure : Procedure} {move : Equiv.Perm (Fin procedure.slots.length)}
    {p : Slot → Bool}
    (h : StrictMonoOn move
      {i | p (procedure.slots.get i) = true ∧ (procedure.slots.get i).keepsName = false}) :
    unnamed (procedure.moved move).slots p =
      (unnamed procedure.slots p).map fun x => (x.1, place move x.2) := by
  -- The slots are the same on both sides, and they stand in the order of their new numbers.
  apply eq_of_increasing
  · exact unnamed_increasing _ p
  · rw [List.map_map, List.pairwise_map]
    apply (List.pairwise_map.mp (unnamed_increasing procedure.slots p)).imp_of_mem
    rintro ⟨a, i⟩ ⟨b, j⟩ ha hb hlt
    obtain ⟨hi, hpa⟩ := mem_unnamed.mp ha
    obtain ⟨hj, hpb⟩ := mem_unnamed.mp hb
    obtain ⟨hilt, rfl⟩ := List.getElem?_eq_some_iff.mp hi
    obtain ⟨hjlt, rfl⟩ := List.getElem?_eq_some_iff.mp hj
    simp only [Function.comp_apply, place_of_lt move hilt, place_of_lt move hjlt]
    exact h hpa hpb hlt
  · rintro ⟨slot, index⟩
    obtain ⟨index, rfl⟩ := (place move).surjective index
    rw [mem_unnamed, procedure.getElem?_slots_moved, ← mem_unnamed, List.mem_map]
    constructor
    · intro hm
      exact ⟨(slot, index), hm, rfl⟩
    · rintro ⟨⟨other, i⟩, hm, he⟩
      obtain ⟨rfl, hi⟩ := Prod.mk.inj he
      rwa [← (place move).injective hi]

end Scope

namespace Procedure

/-- Slots that move past each other are a parameter and a local, and do not both take over debug
names. -/
structure KeepsOrder (procedure : Procedure) (scope : Scope)
    (move : Equiv.Perm (Fin procedure.slots.length)) : Prop where
  parameters : StrictMonoOn move {i | (procedure.slots.get i).kind = .parameter}
  locals : StrictMonoOn move {i | (procedure.slots.get i).kind = .localVariable}
  adopting : StrictMonoOn move {i | scope.Adopts (procedure.slots.get i)}

variable {procedure : Procedure} {scope : Scope} {move : Equiv.Perm (Fin procedure.slots.length)}

theorem KeepsOrder.order_moved (h : procedure.KeepsOrder scope move) :
    scope.order (procedure.moved move) =
      (scope.order procedure).map fun x => (x.1, place move x.2) := by
  rw [Scope.order_eq, Scope.order_eq, List.map_append, List.map_append]
  refine congrArg₂ _ (congrArg₂ _ (Scope.unnamed_moved ?_) (Scope.unnamed_moved ?_))
    (Scope.unnamed_moved ?_)
  · apply h.adopting.mono
    rintro i ⟨ha, hk⟩
    exact ⟨hk, ha⟩
  · apply h.parameters.mono
    rintro i ⟨hp, -⟩
    rw [Bool.and_eq_true] at hp
    exact Slot.isParameter_eq_true.mp hp.1
  · apply h.locals.mono
    rintro i ⟨hp, -⟩
    rw [Bool.and_eq_true, Bool.not_eq_true'] at hp
    exact Slot.isParameter_eq_false.mp hp.1

theorem KeepsOrder.report_moved (h : procedure.KeepsOrder scope move) :
    (procedure.moved move).report scope = (procedure.report scope).renumber (place move) := by
  have hwish (x : Slot × Nat) :
      scope.wish (procedure.moved move).body (place move x.2) x.1 =
        scope.wish procedure.body x.2 x.1 :=
    scope.wish_renumber (place move).injective procedure.body x.2 x.1
  rw [report, (procedure.openRegister_moved move scope).serveAll_eq, h.order_moved, List.map_map,
    report, Report.renumber, ← Register.serveAll_renumber, List.map_map]
  simp only [Function.comp_def, hwish]
  rfl

end Procedure

theorem naming_follows_moved_slots (procedure : Procedure) (scope : Scope)
    {move : Equiv.Perm (Fin procedure.slots.length)} (h : procedure.KeepsOrder scope move) :
    (procedure.moved move).report scope = (procedure.report scope).renumber (place move) ∧
    ∀ index,
      ((procedure.moved move).nameSlots scope).slots[place move index]? =
        (procedure.nameSlots scope).slots[index]? ∧
      ((procedure.moved move).report scope).sourceFor? (place move index) =
        (procedure.report scope).sourceFor? index := by
  refine ⟨h.report_moved, fun index => ?_⟩
  have hfind := (procedure.report scope).find?_renumber (place move).injective index
  rw [← h.report_moved] at hfind
  have hname : ((procedure.moved move).report scope).nameFor? (place move index) =
      (procedure.report scope).nameFor? index := by
    rw [Report.nameFor?, hfind, Option.map_map]
    rfl
  constructor
  · rw [Procedure.nameSlots, Procedure.nameSlots, Procedure.withNames, Procedure.withNames,
      List.getElem?_mapIdx, List.getElem?_mapIdx, procedure.getElem?_slots_moved, hname]
  · rw [Report.sourceFor?, hfind, Option.map_map]
    rfl

section Shifting

open Node

-- The body mentions a slot that is not there.
def shifting : Procedure where
  name := "Shift"
  slots := [{ kind := .localVariable, type := .builtin .int32 },
    { kind := .localVariable, type := .builtin .string, debugName := some "text" },
    { kind := .localVariable, type := .builtin .int32, isGenerated := true, name := some "num" },
    { kind := .parameter, type := .builtin .string }]
  body := whileLoop (binary .compareLessThan (loadLocal 0) (loadLocal 9))
    [storeLocal 1 (loadLocal 3)]

theorem naming_follows_moved_slots_shifting :
    shifting.KeepsOrder {} (finRotate 4) ∧
    (shifting.moved (finRotate 4)).report {} =
      ⟨"Shift", [⟨2, "text", .debugSymbol⟩, ⟨0, "text2", .type⟩, ⟨1, "i", .loopCounter⟩]⟩ ∧
    ((shifting.moved (finRotate 4)).nameSlots {}).slots[place (finRotate 4) 3]? =
      (shifting.nameSlots {}).slots[3]? := by
  have h : shifting.KeepsOrder {} (finRotate 4) := by
    constructor <;> simp only [StrictMonoOn, Set.mem_ofPred_eq] <;> decide +kernel
  obtain ⟨hreport, hslots⟩ := naming_follows_moved_slots shifting {} h
  refine ⟨h, ?_, (hslots 3).1⟩
  rw [hreport]
  decide +kernel

-- Where two slots have one debug name, the first of them gets it.
example :
    let procedure : Procedure :=
      { slots := [{ kind := .parameter, type := .builtin .string, debugName := some "text" },
          { kind := .localVariable, type := .builtin .string, debugName := some "text" }]
        body := block [] }
    (procedure.report {}).nameFor? 0 = some "text" ∧
    ((procedure.moved (Equiv.swap 0 1)).report {}).nameFor? 1 = some "text2" := by
  decide +kernel

end Shifting

end Nomen
