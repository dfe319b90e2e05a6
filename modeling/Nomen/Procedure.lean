import Nomen.Body
import Nomen.TypeSig

namespace Nomen

inductive SlotKind where
  | parameter | localVariable
  deriving DecidableEq

instance : Vocabulary SlotKind where
  all := [.parameter, .localVariable]
  word
    | .parameter => "Parameter"
    | .localVariable => "Local"

structure Slot where
  kind : SlotKind
  type : TypeSig
  isGenerated : Bool := false
  debugName : Option String := none
  name : Option String := none

namespace Slot

def isParameter (slot : Slot) : Bool :=
  slot.kind == .parameter

def givenName? (slot : Slot) : Option String :=
  slot.name.filter (· ≠ "")

/-- Whether naming leaves the slot as it is: locals are named anew unless they are generated. -/
def keepsName (slot : Slot) : Bool :=
  (slot.isParameter || slot.isGenerated) && slot.givenName?.isSome

end Slot

structure Procedure where
  name : String := ""
  slots : List Slot
  body : Node

namespace Procedure

def slotsOf (procedure : Procedure) (kind : SlotKind) : List Nat :=
  (procedure.slots.zipIdx.filter (·.1.kind == kind)).map (·.2)

def parameters (procedure : Procedure) : List Nat :=
  procedure.slotsOf .parameter

def locals (procedure : Procedure) : List Nat :=
  procedure.slotsOf .localVariable

end Procedure

end Nomen
