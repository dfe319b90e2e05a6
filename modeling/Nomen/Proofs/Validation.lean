import Nomen.Command.Run
import Nomen.Proofs.Sites

namespace Nomen

def OperandKind.operations : OperandKind → List Operation
  | slot => [.loadLocal, .loadLocalAddress, .storeLocal]
  | field => [.loadField, .loadStaticField, .storeField, .storeStaticField]
  | method => [.call, .callVirtual, .callGetter, .callVirtualGetter, .callSetter,
      .callVirtualSetter, .newObject]
  | literal => [.loadConstant]

theorem Operation.needs?_eq_some_iff {code : Operation} {kind : OperandKind} :
    code.needs? = some kind ↔ code ∈ kind.operations := by
  cases code <;> cases kind <;> decide

namespace Node

structure WellFormed (count : Nat) (node : Node) : Prop where
  loop : node.code = .whileLoop → node.args ≠ []
  slot : node.code ∈ OperandKind.slot.operations →
    ∃ index < count, node.operand = some (.slot index)
  field : node.code ∈ OperandKind.field.operations → ∃ ref, node.operand = some (.field ref)
  method : node.code ∈ OperandKind.method.operations → ∃ ref, node.operand = some (.method ref)
  literal : node.code ∈ OperandKind.literal.operations →
    ∃ value, node.operand = some (.literal value)

inductive Malformed (count : Nat) : Node → Defect → Prop where
  | loop {operand : Option Operand} : Malformed count ⟨.whileLoop, operand, []⟩ .noCondition
  | operand {code : Operation} {operand : Option Operand} {args : List Node} {kind : OperandKind}
      (hc : code ∈ kind.operations) (ho : ∀ given, operand = some given → given.kind ≠ kind) :
      Malformed count ⟨code, operand, args⟩ (.wrongOperand code kind)
  | slot {code : Operation} {index : Nat} {args : List Node}
      (hc : code ∈ OperandKind.slot.operations) (hi : count ≤ index) :
      Malformed count ⟨code, some (.slot index), args⟩ (.noSuchSlot code index count)

variable {count : Nat} {node : Node} {defect : Defect}

theorem WellFormed.not_malformed (h : node.WellFormed count) : ¬ node.Malformed count defect := by
  rintro (_ | @⟨code, operand, args, kind, hc, ho⟩ | @⟨code, index, args, hc, hi⟩)
  · exact h.loop rfl rfl
  · cases kind with
    | slot =>
      obtain ⟨index, -, he⟩ := h.slot hc
      exact ho _ he rfl
    | field =>
      obtain ⟨ref, he⟩ := h.field hc
      exact ho _ he rfl
    | method =>
      obtain ⟨ref, he⟩ := h.method hc
      exact ho _ he rfl
    | literal =>
      obtain ⟨value, he⟩ := h.literal hc
      exact ho _ he rfl
  · obtain ⟨other, hlt, he⟩ := h.slot hc
    obtain rfl : index = other := by simpa using he
    omega

theorem exists_operand_of_not_malformed (h : ∀ defect, ¬ node.Malformed count defect)
    {kind : OperandKind} (hc : node.code ∈ kind.operations) :
    ∃ given, node.operand = some given ∧ given.kind = kind := by
  by_contra hne
  apply h (.wrongOperand node.code kind)
  cases node
  exact .operand hc fun given he hk => hne ⟨given, he, hk⟩

theorem wellFormed_iff : node.WellFormed count ↔ ∀ defect, ¬ node.Malformed count defect := by
  constructor
  · exact fun h _ => h.not_malformed
  · intro h
    refine ⟨?_, fun hc => ?_, fun hc => ?_, fun hc => ?_, fun hc => ?_⟩
    · rcases node with ⟨code, operand, args⟩
      rintro rfl rfl
      exact h _ .loop
    -- The kind of an operand leaves one form for it in each case.
    · obtain ⟨⟨index⟩ | _ | _ | _, he, ⟨⟩⟩ := exists_operand_of_not_malformed h hc
      refine ⟨index, ?_, he⟩
      by_contra hi
      rcases node with ⟨code, operand, args⟩
      obtain rfl : operand = some (.slot index) := he
      exact h _ (.slot hc (Nat.not_lt.mp hi))
    · obtain ⟨_ | ⟨ref⟩ | _ | _, he, ⟨⟩⟩ := exists_operand_of_not_malformed h hc
      exact ⟨ref, he⟩
    · obtain ⟨_ | _ | ⟨ref⟩ | _, he, ⟨⟩⟩ := exists_operand_of_not_malformed h hc
      exact ⟨ref, he⟩
    · obtain ⟨_ | _ | _ | ⟨value⟩, he, ⟨⟩⟩ := exists_operand_of_not_malformed h hc
      exact ⟨value, he⟩

theorem ownDefect?_of_mem {kind : OperandKind} (hc : node.code ∈ kind.operations) :
    node.ownDefect? count = node.operandDefect? count := by
  have hne : node.code ≠ .whileLoop := by
    intro he
    rw [he] at hc
    cases kind <;> exact absurd hc (by decide)
  rw [ownDefect?, if_neg fun hl => hne hl.1]

theorem Malformed.ownDefect? (h : node.Malformed count defect) :
    node.ownDefect? count = some defect := by
  cases h with
  | loop => rw [Node.ownDefect?, if_pos ⟨rfl, rfl⟩]
  | @operand code operand args kind hc ho =>
    rw [ownDefect?_of_mem hc, operandDefect?, Operation.needs?_eq_some_iff.mpr hc]
    cases operand with
    | none => rfl
    | some given => exact if_pos (ho given rfl)
  | @slot code index args hc hi =>
    rw [ownDefect?_of_mem hc, operandDefect?, Operation.needs?_eq_some_iff.mpr hc]
    exact if_neg (Nat.not_lt.mpr hi)

theorem malformed_of_ownDefect? (h : node.ownDefect? count = some defect) :
    node.Malformed count defect := by
  rcases node with ⟨code, operand, args⟩
  rw [ownDefect?] at h
  split at h
  · next hl =>
    obtain ⟨rfl : code = .whileLoop, rfl : args = []⟩ := hl
    obtain rfl := Option.some.inj h
    exact .loop
  · rw [operandDefect?] at h
    cases hn : code.needs? with
    | none => simp [hn] at h
    | some kind =>
      have hc := Operation.needs?_eq_some_iff.mp hn
      simp only [hn] at h
      cases operand with
      | none =>
        obtain rfl := Option.some.inj h
        exact .operand hc fun _ he => absurd he (by simp)
      | some given =>
        simp only at h
        split at h
        · next hk =>
          obtain rfl := Option.some.inj h
          refine .operand hc fun other he => ?_
          rwa [← Option.some.inj he]
        · next hk =>
          rw [Decidable.not_not] at hk
          subst hk
          cases given with
          | slot index =>
            simp only at h
            split at h
            · exact absurd h (by simp)
            · next hi =>
              obtain rfl := Option.some.inj h
              exact .slot hc (Nat.not_lt.mp hi)
          | field | method | literal => exact absurd h (by simp)

theorem ownDefect?_eq_some_iff :
    node.ownDefect? count = some defect ↔ node.Malformed count defect :=
  ⟨malformed_of_ownDefect?, Malformed.ownDefect?⟩

theorem ownDefect?_eq_none_iff : node.ownDefect? count = none ↔ node.WellFormed count := by
  rw [wellFormed_iff, Option.eq_none_iff_forall_ne_some]
  simp only [Ne, ownDefect?_eq_some_iff]

def AllWellFormed (count : Nat) (root : Node) : Prop :=
  ∀ node : Node, node.Occurs root → node.WellFormed count

def FirstMalformed (count : Nat) (root : Node) (defect : Defect) : Prop :=
  ∃ before node after, root.preorder = before ++ node :: after ∧
    (∀ earlier ∈ before, earlier.WellFormed count) ∧ node.Malformed count defect

theorem defect?_eq_none_iff {root : Node} :
    root.defect? count = none ↔ root.AllWellFormed count := by
  rw [defect?, List.findSome?_eq_none_iff, AllWellFormed]
  simp only [mem_subnodes_iff_occurs, ownDefect?_eq_none_iff]

theorem defect?_eq_some_iff {root : Node} :
    root.defect? count = some defect ↔ root.FirstMalformed count defect := by
  rw [defect?, List.findSome?_eq_some_iff, FirstMalformed, subnodes_eq_preorder]
  simp only [ownDefect?_eq_none_iff, ownDefect?_eq_some_iff, and_comm]

end Node

theorem Procedure.defect?_eq_none_iff {procedure : Procedure} :
    procedure.defect? = none ↔ procedure.body.AllWellFormed procedure.slots.length :=
  Node.defect?_eq_none_iff

theorem Procedure.defect?_eq_some_iff {procedure : Procedure} {defect : Defect} :
    procedure.defect? = some defect ↔
      procedure.body.FirstMalformed procedure.slots.length defect :=
  Node.defect?_eq_some_iff

namespace TypeUnit

theorem defect?_eq_none_iff {unit : TypeUnit} :
    unit.defect? = none ↔
      ∀ procedure ∈ unit.procedures, procedure.body.AllWellFormed procedure.slots.length := by
  simp only [defect?, List.findSome?_eq_none_iff, Option.map_eq_none_iff,
    Procedure.defect?_eq_none_iff]

theorem defect?_eq_some_iff {unit : TypeUnit} {name : String} {defect : Defect} :
    unit.defect? = some (name, defect) ↔
      ∃ before procedure after, unit.procedures = before ++ procedure :: after ∧
        (∀ earlier ∈ before, earlier.body.AllWellFormed earlier.slots.length) ∧
        procedure.body.FirstMalformed procedure.slots.length defect ∧ procedure.name = name := by
  rw [defect?, List.findSome?_eq_some_iff]
  simp only [Option.map_eq_some_iff, Option.map_eq_none_iff, Procedure.defect?_eq_none_iff,
    Procedure.defect?_eq_some_iff, Prod.mk.injEq]
  constructor
  · rintro ⟨before, procedure, after, he, ⟨_, hd, rfl, rfl⟩, hb⟩
    exact ⟨before, procedure, after, he, hb, hd, rfl⟩
  · rintro ⟨before, procedure, after, he, hb, hd, rfl⟩
    exact ⟨before, procedure, after, he, ⟨defect, hd, rfl, rfl⟩, hb⟩

theorem requireWellFormed_eq_ok_iff {unit : TypeUnit} :
    unit.requireWellFormed = .ok () ↔ unit.defect? = none := by
  rw [requireWellFormed]
  cases unit.defect? with
  | none => simp
  | some found => simp

theorem requireWellFormed_eq_error_iff {unit : TypeUnit} {failure : Failure} :
    unit.requireWellFormed = .error failure ↔
      ∃ name defect, unit.defect? = some (name, defect) ∧ failure = .procedure name defect := by
  rw [requireWellFormed]
  cases unit.defect? with
  | none => simp
  | some found =>
    rcases found with ⟨name, defect⟩
    simp [eq_comm]

end TypeUnit

theorem validation_reports_first_malformed :
    (∀ (count : Nat) (root : Node),
      (root.defect? count = none ↔ root.AllWellFormed count) ∧
      ∀ defect, root.defect? count = some defect ↔ root.FirstMalformed count defect) ∧
    ∀ unit : TypeUnit,
      (unit.requireWellFormed = .ok () ↔
        ∀ procedure ∈ unit.procedures, procedure.body.AllWellFormed procedure.slots.length) ∧
      ∀ failure, unit.requireWellFormed = .error failure ↔
        ∃ before procedure after defect, unit.procedures = before ++ procedure :: after ∧
          (∀ earlier ∈ before, earlier.body.AllWellFormed earlier.slots.length) ∧
          procedure.body.FirstMalformed procedure.slots.length defect ∧
          failure = .procedure procedure.name defect ∧
          ∀ reporter : Json.Reporter, failure.diagnostic reporter =
            .invalidProcedure ("procedure '" ++ procedure.name ++ "': " ++ defect.message) := by
  refine ⟨fun count root => ⟨Node.defect?_eq_none_iff, fun _ => Node.defect?_eq_some_iff⟩, ?_⟩
  intro unit
  constructor
  · rw [TypeUnit.requireWellFormed_eq_ok_iff, TypeUnit.defect?_eq_none_iff]
  · intro failure
    rw [TypeUnit.requireWellFormed_eq_error_iff]
    simp only [TypeUnit.defect?_eq_some_iff]
    constructor
    · rintro ⟨_, defect, ⟨before, procedure, after, he, hb, hd, rfl⟩, rfl⟩
      exact ⟨before, procedure, after, defect, he, hb, hd, rfl, fun _ => rfl⟩
    · rintro ⟨before, procedure, after, defect, he, hb, hd, rfl, -⟩
      exact ⟨_, defect, ⟨before, procedure, after, he, hb, hd, rfl⟩, rfl⟩

section Draining

open Node

-- In the second procedure a slot is out of range, and only then comes a loop without a condition.
def draining : TypeUnit where
  procedures := [{ name := "Open", slots := [], body := block [] },
    { name := "Drain"
      slots := [{ kind := .localVariable, type := .builtin .int32 }]
      body := block [storeLocal 0 (loadLocal 3), ⟨.whileLoop, none, []⟩] },
    { name := "Close", slots := [], body := loadLocal 0 }]

example : (draining.defect?.map fun x =>
      ((Failure.procedure x.1 x.2).diagnostic Json.Reporter.plain).display) =
    some ("Invalid procedure: procedure 'Drain': " ++
      "LoadLocal references slot 3 but the procedure has 1 slots") := by
  decide +kernel

end Draining

end Nomen
