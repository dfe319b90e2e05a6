import Nomen.Json.Misfit
import Nomen.Vocabulary

/-!
Readers: how a document becomes a value of a type. A reader meets the parts of a document in the
order of its text, and the first misfit wins. A document is read to a limited depth of brackets; a
reader that may open one more bracket is given what reads inside it, and otherwise nothing.
-/

namespace Nomen.Json

abbrev Reader (α : Type) := Value → Except Misfit α

def depthLimit : Nat := 127

def below {α : Type} (depth : Nat) (read : Nat → Reader α) : Option (Reader α) :=
  match depth with
  | 0 => none
  | inner + 1 => some (read inner)

def Tree.misfit (wanted : String) : Value → Misfit
  | null => .wrongType .null wanted
  | bool value => .wrongType (.boolean value) wanted
  | number (.integer value) => .wrongType (.integer value) wanted
  | number (.float value) => .wrongType (.float value) wanted
  | number .overflow => .malformed
  | string (some text) => .wrongType (.string text) wanted
  | string none => .malformed
  | array _ => .wrongType .sequence wanted
  | object _ => .wrongType .map wanted
  | broken _ => .malformed

def readString : Reader String
  | .string (some text) => .ok text
  | value => .error (value.misfit "a string")

def readBool : Reader Bool
  | .bool value => .ok value
  | value => .error (value.misfit "a boolean")

def readNat : Reader Nat
  | .number (.integer value) =>
    if 0 ≤ value then .ok value.toNat else .error (.outOfRange value "usize")
  | value => .error (value.misfit "usize")

def readInt : Reader Int
  | .number (.integer value) =>
    if value < Decimal.signWord then .ok value else .error (.outOfRange value "i64")
  | value => .error (value.misfit "i64")

def readFloat : Reader Float
  | .number (.float value) => .ok value
  | .number (.integer value) =>
    .ok (if value < 0 then -Decimal.ofSignificand value.natAbs
      else Decimal.ofSignificand value.natAbs)
  | value => .error (value.misfit "f64")

def readOption {α : Type} (read : Reader α) : Reader (Option α)
  | .null => .ok none
  | value => (read value).map some

def readItems {α : Type} (read : Reader α) : Items → Except Misfit (List α)
  | .noItems => .ok []
  | .item head tail => do
    let a ← read head
    let as ← readItems read tail
    return a :: as
  | .broken _ => .error .malformed

def readList {α : Type} (inside : Option (Reader α)) : Reader (List α)
  | .array items =>
    match inside with
    | some read => readItems read items
    | none => .error .malformed
  | value => .error (value.misfit "a sequence")

def closing : Members → Except Misfit Unit
  | .noMembers => .ok ()
  | _ => .error .malformed

section Variants

variable {τ α : Type} [Vocabulary τ]

def readTag (text : String) : Except Misfit τ :=
  match Vocabulary.ofWord? text with
  | some tag => .ok tag
  | none => .error (.unknownVariant text (Vocabulary.words τ))

def readMember (payload : τ → Reader α) : Members → Except Misfit α
  | .member (some key) value tail => do
    let tag ← readTag key
    let a ← payload tag value
    closing tail
    return a
  | _ => .error .malformed

def readUnit : Reader Unit
  | .null => .ok ()
  | value => .error (value.misfit "unit")

def readWord (depth : Nat) : Reader τ
  | .string (some text) => readTag text
  | .object members =>
    match depth with
    | 0 => .error .malformed
    | _ + 1 => readMember (fun tag value => (readUnit value).map fun _ => tag) members
  | _ => .error .malformed

def readVariant (inside : Option (τ → Reader α)) : Reader α
  | .string (some text) => do
    let _ ← (readTag text : Except Misfit τ)
    .error (.wrongType .unitVariant "newtype variant")
  | .object members =>
    match inside with
    | some payload => readMember payload members
    | none => .error .malformed
  | _ => .error .malformed

end Variants

/-- The form of a record: its fields in their order, with their keys and defaults. -/
structure Layout (φ : Type) (β : φ → Type) where
  name : String
  fields : List φ
  key : φ → String
  default? : (field : φ) → Option (β field)
  strict : Bool := false
  fields_nodup : fields.Nodup := by decide
  find_key : ∀ field, fields.find? (key · == key field) = some field := by
    intro field
    cases field <;> rfl

abbrev Parts (φ : Type) (β : φ → Type) := (field : φ) → Option (β field)

namespace Layout

variable {φ : Type} {β : φ → Type}

def filled (layout : Layout φ β) (parts : Parts φ β) : Parts φ β :=
  fun field => parts field <|> layout.default? field

def missing? (layout : Layout φ β) (parts : Parts φ β) : Option φ :=
  layout.fields.find? fun field => (layout.filled parts field).isNone

theorem mem_fields (layout : Layout φ β) (field : φ) : field ∈ layout.fields :=
  List.mem_of_find?_eq_some (layout.find_key field)

theorem isSome_filled {layout : Layout φ β} {parts : Parts φ β} (h : layout.missing? parts = none)
    (field : φ) : (layout.filled parts field).isSome := by
  have hfield := List.find?_eq_none.mp h field (layout.mem_fields field)
  simpa [Option.isSome_iff_ne_none] using hfield

def assemble {ρ : Type} (layout : Layout φ β) (build : ((field : φ) → β field) → ρ)
    (parts : Parts φ β) : Except Misfit ρ :=
  match h : layout.missing? parts with
  | some field => .error (.missingField (layout.key field))
  | none => .ok (build fun field => (layout.filled parts field).get (isSome_filled h field))

variable [DecidableEq φ]

def put (parts : Parts φ β) (field : φ) (part : β field) : Parts φ β :=
  fun other => if h : field = other then some (h ▸ part) else parts other

def readMembers (layout : Layout φ β) (inside : (field : φ) → Reader (β field)) :
    Parts φ β → Members → Except Misfit (Parts φ β)
  | parts, .noMembers => .ok parts
  | parts, .member (some key) value tail =>
    match layout.fields.find? (layout.key · == key) with
    | some field =>
      if (parts field).isSome then .error (.duplicateField key)
      else do
        let part ← inside field value
        layout.readMembers inside (put parts field part) tail
    | none =>
      if layout.strict then .error (.unknownField key (layout.fields.map layout.key))
      else if value.isWhole then layout.readMembers inside parts tail
      else .error .malformed
  | _, _ => .error .malformed

/-- Items for the fields in their order. Fields at the end may be left out if they have a default;
`count` is the number of fields before these. -/
def readInOrder (layout : Layout φ β) (inside : (field : φ) → Reader (β field)) (count : Nat) :
    List φ → Parts φ β → Items → Except Misfit (Parts φ β)
  | [], parts, .noItems => .ok parts
  | field :: fields, parts, .noItems =>
    if (layout.default? field).isSome then
      layout.readInOrder inside (count + 1) fields parts .noItems
    else .error (.wrongLength count ("struct " ++ layout.name ++ " with "
      ++ Nat.repr layout.fields.length ++ " elements"))
  | field :: fields, parts, .item head tail => do
    let part ← inside field head
    layout.readInOrder inside (count + 1) fields (put parts field part) tail
  | _, _, _ => .error .malformed

def read (layout : Layout φ β) (inside : Option ((field : φ) → Reader (β field))) :
    Reader (Parts φ β)
  | .object members =>
    match inside with
    | some inside => layout.readMembers inside (fun _ => none) members
    | none => .error .malformed
  | .array items =>
    match inside with
    | some inside => layout.readInOrder inside 0 layout.fields (fun _ => none) items
    | none => .error .malformed
  | value => .error (value.misfit ("struct " ++ layout.name))

def readRecord {ρ : Type} (layout : Layout φ β) (build : ((field : φ) → β field) → ρ)
    (inside : Option ((field : φ) → Reader (β field))) : Reader ρ :=
  fun value => layout.read inside value >>= layout.assemble build

end Layout

def readText {α : Type} (read : Reader α) (text : String) : Except Misfit α := do
  let document := Document.ofText text
  let a ← read document.value
  if document.ended then return a else .error .malformed

end Nomen.Json
