import Nomen.Counter
import Nomen.Register
import Nomen.Settings
import Nomen.Usage

/-!
Naming the slots of a procedure. What a slot wishes for depends on nothing but the slot, the body
and the scope. The wishes are served from one register, in a fixed order.
-/

namespace Nomen

structure Scope where
  fields : List String := []
  reserved : List String := []
  settings : Settings := {}
  resolve : MethodRef → Option Signature := fun _ => none

inductive Source where
  | debugSymbol | loopCounter | storedValue | consumer | type
  deriving DecidableEq

instance : Vocabulary Source where
  all := [.debugSymbol, .loopCounter, .storedValue, .consumer, .type]
  word
    | .debugSymbol => "DebugSymbol"
    | .loopCounter => "LoopCounter"
    | .storedValue => "StoreContext"
    | .consumer => "LoadContext"
    | .type => "TypeFallback"

def Source.label : Source → String
  | debugSymbol => "debug symbol"
  | loopCounter => "loop counter"
  | storedValue => "stored value"
  | consumer => "consumer"
  | type => "type"

inductive Wish where
  | adopt (debugName : String)
  | counter (stem : String)
  | stem (stem : String) (source : Source)

def acceptedStem? (name : String) : Option String :=
  some (Numbered.ofName name).stem |>.filter isIdentifier

def typeStem (type : TypeSig) : String :=
  (acceptedStem? type.stem).getD lastResort

namespace Scope

def synthesis (scope : Scope) (body : Node) (index : Nat) (type : TypeSig) : Wish :=
  if isCounter body index type then .counter (typeStem type)
  else match (storeName? scope.fields body index).bind acceptedStem? with
    | some stem => .stem stem .storedValue
    | none =>
      match (loadName? scope.fields scope.resolve body index).bind acceptedStem? with
      | some stem => .stem stem .consumer
      | none => .stem (typeStem type) .type

def adopted? (scope : Scope) (slot : Slot) : Option String :=
  if slot.isGenerated then none else scope.settings.usable? slot.debugName

def wish (scope : Scope) (body : Node) (index : Nat) (slot : Slot) : Wish :=
  match scope.adopted? slot with
  | some debugName => .adopt debugName
  | none => scope.synthesis body index slot.type

/-- The slots to be named, in the order in which they are served: those with a debug name, then
the other parameters, then the other locals. -/
def order (scope : Scope) (procedure : Procedure) : List (Slot × Nat) :=
  let unnamed := procedure.slots.zipIdx.filter fun (slot, _) => !slot.keepsName
  let others := unnamed.filter fun (slot, _) => (scope.adopted? slot).isNone
  (unnamed.filter fun (slot, _) => (scope.adopted? slot).isSome)
    ++ (others.filter fun (slot, _) => slot.isParameter)
    ++ (others.filter fun (slot, _) => !slot.isParameter)

end Scope

def Register.serve (register : Register) : Wish → (String × Source) × Register
  | .adopt debugName =>
    let (name, register) := register.adopt debugName
    ((name, .debugSymbol), register)
  | .counter stem =>
    match register.freeLetter? with
    | some letter =>
      let (name, register) := register.issue letter
      ((name, .loopCounter), register)
    | none =>
      let (name, register) := register.issue stem
      ((name, .type), register)
  | .stem stem source =>
    let (name, register) := register.issue stem
    ((name, source), register)

structure Assignment where
  slot : Nat
  name : String
  source : Source
  deriving DecidableEq

def Register.serveAll (register : Register) : List (Nat × Wish) → List Assignment
  | [] => []
  | (index, wish) :: wishes =>
    let ((name, source), register) := register.serve wish
    ⟨index, name, source⟩ :: register.serveAll wishes

structure Report where
  procedure : String
  assignments : List Assignment
  deriving DecidableEq

def Report.find? (report : Report) (slot : Nat) : Option Assignment :=
  report.assignments.find? (·.slot == slot)

def Report.nameFor? (report : Report) (slot : Nat) : Option String :=
  (report.find? slot).map (·.name)

def Report.sourceFor? (report : Report) (slot : Nat) : Option Source :=
  (report.find? slot).map (·.source)

namespace Procedure

def keptNames (procedure : Procedure) : List String :=
  (procedure.slots.filter (·.keepsName)).filterMap (·.givenName?)

def openRegister (procedure : Procedure) (scope : Scope) : Register :=
  (({} : Register).reserveAll scope.reserved).reserveAll procedure.keptNames

def report (procedure : Procedure) (scope : Scope) : Report where
  procedure := procedure.name
  assignments := (procedure.openRegister scope).serveAll <|
    (scope.order procedure).map fun (slot, index) =>
      (index, scope.wish procedure.body index slot)

def withNames (procedure : Procedure) (report : Report) : Procedure :=
  { procedure with
    slots := procedure.slots.mapIdx fun index slot =>
      match report.nameFor? index with
      | some name => { slot with name := some name }
      | none => slot }

def nameSlots (procedure : Procedure) (scope : Scope) : Procedure :=
  procedure.withNames (procedure.report scope)

end Procedure

end Nomen
