import Nomen.Body
import Nomen.Json.Reader

namespace Nomen

open Json

namespace FieldRef

inductive Field where
  | declaringType | name
  deriving DecidableEq

abbrev Field.Content : Field → Type
  | declaringType => String
  | name => String

def layout : Layout Field Field.Content where
  name := "FieldRef"
  fields := [.declaringType, .name]
  key
    | .declaringType => "declaring_type"
    | .name => "name"
  default?
    | .declaringType => some ""
    | .name => none

def build (content : (field : Field) → field.Content) : FieldRef :=
  ⟨content .declaringType, content .name⟩

def readAt (depth : Nat) : Reader FieldRef :=
  layout.readRecord build (match depth with
    | 0 => none
    | _ + 1 => some fun
      | .declaringType => readString
      | .name => readString)

def toJson (ref : FieldRef) : Value :=
  .record [("declaring_type", .text ref.declaringType), ("name", .text ref.name)]

end FieldRef

namespace MethodRef

inductive Field where
  | declaringType | name | parameterCount
  deriving DecidableEq

abbrev Field.Content : Field → Type
  | declaringType => String
  | name => String
  | parameterCount => Nat

def layout : Layout Field Field.Content where
  name := "MethodRef"
  fields := [.declaringType, .name, .parameterCount]
  key
    | .declaringType => "declaring_type"
    | .name => "name"
    | .parameterCount => "parameter_count"
  default?
    | .declaringType => some ""
    | .name => none
    | .parameterCount => some (0 : Nat)

def build (content : (field : Field) → field.Content) : MethodRef :=
  ⟨content .declaringType, content .name, content .parameterCount⟩

def readAt (depth : Nat) : Reader MethodRef :=
  layout.readRecord build (match depth with
    | 0 => none
    | _ + 1 => some fun
      | .declaringType => readString
      | .name => readString
      | .parameterCount => readNat)

def toJson (ref : MethodRef) : Value :=
  .record [("declaring_type", .text ref.declaringType), ("name", .text ref.name),
    ("parameter_count", .int ref.parameterCount)]

end MethodRef

namespace Literal

inductive Tag where
  | bool | int | float | string

instance : Vocabulary Tag where
  all := [.bool, .int, .float, .string]
  word
    | .bool => "Bool"
    | .int => "Int"
    | .float => "Float"
    | .string => "String"

def readAt (depth : Nat) : Reader Literal :=
  readVariant (match depth with
    | 0 => none
    | _ + 1 => some fun
      | Tag.bool => fun value => (readBool value).map bool
      | .int => fun value => (readInt value).map int
      | .float => fun value => (readFloat value).map float
      | .string => fun value => (readString value).map string)

def toJson : Literal → Value
  | bool value => .record [("Bool", .bool value)]
  | int value => .record [("Int", .int value)]
  | float value => .record [("Float", .float value)]
  | string value => .record [("String", .text value)]

end Literal

namespace Operand

inductive Tag where
  | slot | field | method | literal

instance : Vocabulary Tag where
  all := [.slot, .field, .method, .literal]
  word
    | .slot => "Slot"
    | .field => "Field"
    | .method => "Method"
    | .literal => "Literal"

def readAt (depth : Nat) : Reader Operand :=
  readVariant (match depth with
    | 0 => none
    | inner + 1 => some fun
      | Tag.slot => fun value => (readNat value).map slot
      | .field => fun value => (FieldRef.readAt inner value).map field
      | .method => fun value => (MethodRef.readAt inner value).map method
      | .literal => fun value => (Literal.readAt inner value).map literal)

def toJson : Operand → Value
  | slot index => .record [("Slot", .int index)]
  | field ref => .record [("Field", ref.toJson)]
  | method ref => .record [("Method", ref.toJson)]
  | literal value => .record [("Literal", value.toJson)]

end Operand

namespace Node

inductive Field where
  | code | operand | args
  deriving DecidableEq

abbrev Field.Content : Field → Type
  | code => Operation
  | operand => Option Operand
  | args => List Node

def layout : Layout Field Field.Content where
  name := "Node"
  fields := [.code, .operand, .args]
  key
    | .code => "code"
    | .operand => "operand"
    | .args => "args"
  default?
    | .code => none
    | .operand => some none
    | .args => some []

def build (content : (field : Field) → field.Content) : Node :=
  ⟨content .code, content .operand, content .args⟩

def readAt (depth : Nat) : Reader Node :=
  layout.readRecord build (match depth with
    | 0 => none
    | inner + 1 => some fun
      | .code => readWord inner
      | .operand => readOption (Operand.readAt inner)
      | .args => readList (match inner with
        | 0 => none
        | below + 1 => some (readAt below)))

def fieldsToJson (code : Operation) (operand : Option Operand) (args : Items) :
    List (String × Value) :=
  [("code", .text code.name)]
    ++ (match operand with
      | none => []
      | some operand => [("operand", operand.toJson)])
    ++ (match args with
      | .noItems => []
      | args => [("args", .array args)])

mutual

def toJson : Node → Value
  | ⟨code, operand, args⟩ => .record (fieldsToJson code operand (allToJson args))

def allToJson : List Node → Items
  | [] => .noItems
  | node :: nodes => .item node.toJson (allToJson nodes)

end

end Node

end Nomen
