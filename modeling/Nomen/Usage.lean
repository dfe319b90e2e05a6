import Nomen.Method
import Nomen.Variable

/-!
Names from usage. Every place where a slot is written, and every place where it is read, proposes a
name or proposes none. Proposals that are fields of the enclosing type are passed over; if all
others agree, they are the name.
-/

namespace Nomen

def dropStart? : List Char → List Char → Option (List Char)
  | [], cs => some cs
  | _ :: _, [] => none
  | s :: start, c :: cs => if s.toLower = c.toLower then dropStart? start cs else none

def dropVerb? (verb : String) (name : List Char) : Option (List Char) :=
  (dropStart? verb.toList name).filter fun rest => rest.head?.any isUppercase

def gotten? (method : MethodRef) : Option (List Char) :=
  (if method.parameterCount = 0 then dropStart? "get_".toList method.name.toList else none)
    <|> dropVerb? "get" method.name.toList

def written? (method : MethodRef) : Option (List Char) :=
  dropStart? "set_".toList method.name.toList <|> dropVerb? "set" method.name.toList

def valueName? (value : Node) : Option String :=
  if value.code.loadsField then value.field?.map fun field => tidy field.name
  else if value.code.returnsValue then
    (value.method?.bind gotten?).map fun property => tidy (String.ofList property)
  else none

def parameterName? (code : Operation) (signature : Signature) (index : Nat) : Option String :=
  let skipped := if code ≠ .newObject ∧ signature.hasThis then 1 else 0
  if index < skipped then none
  else (signature.parameters[index - skipped]?.filter (· ≠ "")).map tidy

/-- The name after the use of an argument in a node: the last argument of a field store or of a
setter is named after what it sets. -/
def argumentName? (resolve : MethodRef → Option Signature) (node : Node) (index : Nat) :
    Option String :=
  let isLast := index + 1 = node.args.length
  if node.code.storesField then
    if isLast then node.field?.map fun field => tidy field.name else none
  else if node.code.invokes then
    node.method?.bind fun method =>
      (if method.parameterCount = 1 ∧ isLast then
        (written? method).map fun property => tidy (String.ofList property)
      else none)
        <|> (resolve method).bind fun signature => parameterName? node.code signature index
  else if node.code = .ret then some "result"
  else none

def storeProposals (body : Node) (slot : Nat) : List (Option String) :=
  (body.subnodes.filter (·.writes slot)).map fun store => store.args.head?.bind valueName?

def readProposals (resolve : MethodRef → Option Signature) (slot : Nat) (node : Node) :
    List (Option String) :=
  if node.code.isContainer then []
  else (node.args.zipIdx.filter (·.1.reads slot)).map fun arg =>
    argumentName? resolve node arg.2

def loadProposals (resolve : MethodRef → Option Signature) (body : Node) (slot : Nat) :
    List (Option String) :=
  body.subnodes.flatMap (readProposals resolve slot)

/-- The one proposal that is left without those that are fields. -/
def agreed (fields : List String) (proposals : List (Option String)) : Option String :=
  match (proposals.filter fun proposal => !proposal.any (· ∈ fields)).eraseDups with
  | [proposal] => proposal
  | _ => none

def storeName? (fields : List String) (body : Node) (slot : Nat) : Option String :=
  agreed fields (storeProposals body slot)

def loadName? (fields : List String) (resolve : MethodRef → Option Signature) (body : Node)
    (slot : Nat) : Option String :=
  agreed fields (loadProposals resolve body slot)

end Nomen
