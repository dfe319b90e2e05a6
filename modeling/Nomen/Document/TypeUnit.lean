import Nomen.Document.Procedure
import Nomen.TypeUnit

namespace Nomen

open Json

namespace Signature

inductive Field where
  | hasThis | parameters
  deriving DecidableEq

abbrev Field.Content : Field → Type
  | hasThis => Bool
  | parameters => List String

def layout : Layout Field Field.Content where
  name := "MethodSignature"
  fields := [.hasThis, .parameters]
  key
    | .hasThis => "has_this"
    | .parameters => "parameters"
  default?
    | .hasThis => some false
    | .parameters => some []

def build (content : (field : Field) → field.Content) : Signature :=
  ⟨content .hasThis, content .parameters⟩

def readAt (depth : Nat) : Reader Signature :=
  layout.readRecord build (match depth with
    | 0 => none
    | inner + 1 => some fun
      | .hasThis => readBool
      | .parameters => readList (below inner fun _ => readString))

def toJson (signature : Signature) : Value :=
  .record [("has_this", .bool signature.hasThis),
    ("parameters", .list (signature.parameters.map .text))]

end Signature

namespace ResolvedMethod

inductive Field where
  | method | signature
  deriving DecidableEq

abbrev Field.Content : Field → Type
  | method => MethodRef
  | signature => Signature

def layout : Layout Field Field.Content where
  name := "ResolvedMethod"
  fields := [.method, .signature]
  key
    | .method => "method"
    | .signature => "signature"
  default?
    | .method => none
    | .signature => none

def build (content : (field : Field) → field.Content) : ResolvedMethod :=
  ⟨content .method, content .signature⟩

def readAt (depth : Nat) : Reader ResolvedMethod :=
  layout.readRecord build (match depth with
    | 0 => none
    | inner + 1 => some fun
      | .method => MethodRef.readAt inner
      | .signature => Signature.readAt inner)

def toJson (resolved : ResolvedMethod) : Value :=
  .record [("method", resolved.method.toJson), ("signature", resolved.signature.toJson)]

end ResolvedMethod

namespace TypeUnit

inductive Field where
  | typeName | fields | reservedNames | methods | procedures
  deriving DecidableEq

abbrev Field.Content : Field → Type
  | typeName => String
  | fields => List String
  | reservedNames => List String
  | methods => List ResolvedMethod
  | procedures => List Procedure

def layout : Layout Field Field.Content where
  name := "TypeUnit"
  fields := [.typeName, .fields, .reservedNames, .methods, .procedures]
  key
    | .typeName => "type_name"
    | .fields => "fields"
    | .reservedNames => "reserved_names"
    | .methods => "methods"
    | .procedures => "procedures"
  default?
    | .typeName => some ""
    | .fields => some []
    | .reservedNames => some []
    | .methods => some []
    | .procedures => none

def build (content : (field : Field) → field.Content) : TypeUnit :=
  ⟨content .typeName, content .fields, content .reservedNames, content .methods,
    content .procedures⟩

def readAt (depth : Nat) : Reader TypeUnit :=
  layout.readRecord build (match depth with
    | 0 => none
    | inner + 1 => some fun
      | .typeName => readString
      | .fields => readList (below inner fun _ => readString)
      | .reservedNames => readList (below inner fun _ => readString)
      | .methods => readList (below inner ResolvedMethod.readAt)
      | .procedures => readList (below inner Procedure.readAt))

def toJson (unit : TypeUnit) : Value :=
  .record [("type_name", .text unit.typeName), ("fields", .list (unit.fields.map .text)),
    ("reserved_names", .list (unit.reservedNames.map .text)),
    ("methods", .list (unit.methods.map ResolvedMethod.toJson)),
    ("procedures", .list (unit.procedures.map Procedure.toJson))]

def ofText (text : String) : Except Misfit TypeUnit :=
  readText (readAt depthLimit) text

def toText (unit : TypeUnit) : String :=
  unit.toJson.pretty

end TypeUnit

end Nomen
