import Nomen.Procedure

namespace Nomen

inductive OperandKind where
  | slot | field | method | literal
  deriving DecidableEq

def OperandKind.name : OperandKind → String
  | slot => "slot"
  | field => "field"
  | method => "method"
  | literal => "literal"

def Operand.kind : Operand → OperandKind
  | slot _ => .slot
  | field _ => .field
  | method _ => .method
  | literal _ => .literal

def Operation.needs? (code : Operation) : Option OperandKind :=
  if code.accessesSlot then some .slot
  else if code.loadsField || code.storesField then some .field
  else if code.invokes then some .method
  else if code = .loadConstant then some .literal
  else none

inductive Defect where
  | noCondition
  | wrongOperand (code : Operation) (wanted : OperandKind)
  | noSuchSlot (code : Operation) (slot count : Nat)
  deriving DecidableEq

def Defect.message : Defect → String
  | noCondition => "WhileLoop node has no condition"
  | wrongOperand code wanted => code.name ++ " node requires a " ++ wanted.name ++ " operand"
  | noSuchSlot code slot count =>
    code.name ++ " references slot " ++ Nat.repr slot ++ " but the procedure has "
      ++ Nat.repr count ++ " slots"

namespace Node

def operandDefect? (count : Nat) (node : Node) : Option Defect :=
  match node.code.needs? with
  | none => none
  | some wanted =>
    match node.operand with
    | none => some (.wrongOperand node.code wanted)
    | some operand =>
      if operand.kind ≠ wanted then some (.wrongOperand node.code wanted)
      else match operand with
        | .slot index => if index < count then none else some (.noSuchSlot node.code index count)
        | _ => none

def ownDefect? (count : Nat) (node : Node) : Option Defect :=
  if node.code = .whileLoop ∧ node.args = [] then some .noCondition
  else node.operandDefect? count

def defect? (count : Nat) (node : Node) : Option Defect :=
  node.subnodes.findSome? (ownDefect? count)

end Node

def Procedure.defect? (procedure : Procedure) : Option Defect :=
  procedure.body.defect? procedure.slots.length

end Nomen
