import Nomen.Document.Body
import Nomen.Document.TypeSig
import Nomen.Procedure

namespace Nomen

open Json

def optionalText (key : String) : Option String → List (String × Value)
  | none => []
  | some text => [(key, .text text)]

namespace Slot

inductive Field where
  | kind | type | isGenerated | debugName | name
  deriving DecidableEq

abbrev Field.Content : Field → Type
  | kind => SlotKind
  | type => TypeSig
  | isGenerated => Bool
  | debugName => Option String
  | name => Option String

def layout : Layout Field Field.Content where
  name := "Slot"
  fields := [.kind, .type, .isGenerated, .debugName, .name]
  key
    | .kind => "kind"
    | .type => "type"
    | .isGenerated => "is_generated"
    | .debugName => "debug_name"
    | .name => "name"
  default?
    | .kind => none
    | .type => none
    | .isGenerated => some false
    | .debugName => some none
    | .name => some none

def build (content : (field : Field) → field.Content) : Slot :=
  ⟨content .kind, content .type, content .isGenerated, content .debugName, content .name⟩

def readAt (depth : Nat) : Reader Slot :=
  layout.readRecord build (match depth with
    | 0 => none
    | inner + 1 => some fun
      | .kind => readWord inner
      | .type => TypeSig.readAt inner
      | .isGenerated => readBool
      | .debugName => readOption readString
      | .name => readOption readString)

def toJson (slot : Slot) : Value :=
  .record ([("kind", .text (Vocabulary.word slot.kind)), ("type", slot.type.toJson),
      ("is_generated", .bool slot.isGenerated)]
    ++ optionalText "debug_name" slot.debugName ++ optionalText "name" slot.name)

end Slot

namespace Procedure

inductive Field where
  | name | slots | body
  deriving DecidableEq

abbrev Field.Content : Field → Type
  | name => String
  | slots => List Slot
  | body => Node

def layout : Layout Field Field.Content where
  name := "Procedure"
  fields := [.name, .slots, .body]
  key
    | .name => "name"
    | .slots => "slots"
    | .body => "body"
  default?
    | .name => some ""
    | .slots => none
    | .body => none

def build (content : (field : Field) → field.Content) : Procedure :=
  ⟨content .name, content .slots, content .body⟩

def readAt (depth : Nat) : Reader Procedure :=
  layout.readRecord build (match depth with
    | 0 => none
    | inner + 1 => some fun
      | .name => readString
      | .slots => readList (below inner Slot.readAt)
      | .body => Node.readAt inner)

def toJson (procedure : Procedure) : Value :=
  .record [("name", .text procedure.name), ("slots", .list (procedure.slots.map Slot.toJson)),
    ("body", procedure.body.toJson)]

end Procedure

end Nomen
