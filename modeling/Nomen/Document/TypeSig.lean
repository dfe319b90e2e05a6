import Nomen.Json.Reader
import Nomen.TypeSig

namespace Nomen

open Json

namespace TypeSig

inductive Tag where
  | builtin | named | array | pointer | byRef | modified

instance : Vocabulary Tag where
  all := [.builtin, .named, .array, .pointer, .byRef, .modified]
  word
    | .builtin => "Builtin"
    | .named => "Named"
    | .array => "Array"
    | .pointer => "Pointer"
    | .byRef => "ByReference"
    | .modified => "Modified"

inductive NamedField where
  | space | name | arguments
  deriving DecidableEq

abbrev NamedField.Content : NamedField → Type
  | space => String
  | name => String
  | arguments => List TypeSig

def namedLayout : Layout NamedField NamedField.Content where
  name := "NamedType"
  fields := [.space, .name, .arguments]
  key
    | .space => "namespace"
    | .name => "name"
    | .arguments => "generic_args"
  default?
    | .space => some ""
    | .name => none
    | .arguments => some []

def buildNamed (content : (field : NamedField) → field.Content) : TypeSig :=
  named (content .space) (content .name) (content .arguments)

def readAt (depth : Nat) : Reader TypeSig :=
  readVariant (match depth with
    | 0 => none
    | inner + 1 => some fun
      | Tag.builtin => fun value => (readWord inner value).map builtin
      | .named => namedLayout.readRecord buildNamed (match inner with
          | 0 => none
          | within + 1 => some fun
            | .space => readString
            | .name => readString
            | .arguments => readList (match within with
              | 0 => none
              | below + 1 => some (readAt below)))
      | .array => fun value => (readAt inner value).map array
      | .pointer => fun value => (readAt inner value).map pointer
      | .byRef => fun value => (readAt inner value).map byRef
      | .modified => fun value => (readAt inner value).map modified)

mutual

def toJson : TypeSig → Value
  | builtin type => .record [("Builtin", .text type.name)]
  | named space name arguments =>
    .record [("Named", .record ([("namespace", .text space), ("name", .text name)]
      ++ match arguments with
        | [] => []
        | a :: rest => [("generic_args", .array (.item a.toJson (allToJson rest)))]))]
  | array element => .record [("Array", element.toJson)]
  | pointer target => .record [("Pointer", target.toJson)]
  | byRef target => .record [("ByReference", target.toJson)]
  | modified inner => .record [("Modified", inner.toJson)]

def allToJson : List TypeSig → Items
  | [] => .noItems
  | a :: rest => .item a.toJson (allToJson rest)

end

end TypeSig

end Nomen
