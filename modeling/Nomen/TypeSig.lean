import Nomen.Variable
import Nomen.Vocabulary

namespace Nomen

inductive Builtin where
  | void | boolean | char | sbyte | byte | int16 | uint16 | int32 | uint32 | int64 | uint64
  | single | double | decimal | string | object | intPtr | uintPtr
  deriving DecidableEq

instance : Vocabulary Builtin where
  all := [.void, .boolean, .char, .sbyte, .byte, .int16, .uint16, .int32, .uint32, .int64, .uint64,
    .single, .double, .decimal, .string, .object, .intPtr, .uintPtr]
  word
    | .void => "Void"
    | .boolean => "Boolean"
    | .char => "Char"
    | .sbyte => "SByte"
    | .byte => "Byte"
    | .int16 => "Int16"
    | .uint16 => "UInt16"
    | .int32 => "Int32"
    | .uint32 => "UInt32"
    | .int64 => "Int64"
    | .uint64 => "UInt64"
    | .single => "Single"
    | .double => "Double"
    | .decimal => "Decimal"
    | .string => "String"
    | .object => "Object"
    | .intPtr => "IntPtr"
    | .uintPtr => "UIntPtr"

def Builtin.name (b : Builtin) : String :=
  Vocabulary.word b

inductive TypeSig where
  | builtin (type : Builtin)
  | named (space name : String) (arguments : List TypeSig)
  | array (element : TypeSig)
  | pointer (target : TypeSig)
  | byRef (target : TypeSig)
  | modified (inner : TypeSig)

def qualify (space name : String) : String :=
  if space = "" then name else space ++ "." ++ name

namespace TypeSig

def unmodified : TypeSig → TypeSig
  | modified inner => inner.unmodified
  | type => type

def name : TypeSig → String
  | builtin type => type.name
  | named _ name _ => name
  | array element => element.name ++ "[]"
  | pointer target => target.name ++ "*"
  | byRef target => target.name ++ "&"
  | modified inner => inner.name

def fullName : TypeSig → String
  | builtin type => qualify "System" type.name
  | named space name _ => qualify space name
  | array element => element.fullName ++ "[]"
  | pointer target => target.fullName ++ "*"
  | byRef target => target.fullName ++ "&"
  | modified inner => inner.fullName

mutual

def display : TypeSig → String
  | builtin type => qualify "System" type.name
  | named space name [] => qualify space name
  | named space name (a :: rest) =>
    qualify space name ++ "<" ++ a.display ++ displayMore rest ++ ">"
  | array element => element.display ++ "[]"
  | pointer target => target.display ++ "*"
  | byRef target => target.display ++ "&"
  | modified inner => inner.display ++ " modopt"

def displayMore : List TypeSig → String
  | [] => ""
  | a :: rest => ", " ++ a.display ++ displayMore rest

end

def isInt32 : TypeSig → Bool
  | builtin .int32 => true
  | named space name [] => qualify space name == "System.Int32"
  | _ => false

def nullable? : TypeSig → Option TypeSig
  | named space name [inner] =>
    if qualify space name = "System.Nullable\x601" then some inner else none
  | _ => none

def nullable (inner : TypeSig) : TypeSig :=
  named "System" "Nullable\x601" [inner]

end TypeSig

def wellKnownStems : List (String × String) := [
  ("System.Boolean", "flag"),
  ("System.Byte", "b"), ("System.SByte", "b"),
  ("System.Int16", "num"), ("System.Int32", "num"), ("System.Int64", "num"),
  ("System.UInt16", "num"), ("System.UInt32", "num"), ("System.UInt64", "num"),
  ("System.Single", "num"), ("System.Double", "num"), ("System.Decimal", "num"),
  ("System.String", "text"), ("System.Object", "obj"), ("System.Char", "c")]

def dropInterfaceMark : List Char → List Char
  | 'I' :: second :: third :: cs =>
    if isUppercase second && isLowercase third then second :: third :: cs
    else 'I' :: second :: third :: cs
  | cs => cs

namespace TypeSig

def nameStem (type : TypeSig) : String :=
  if "Exception".toList.isSuffixOf type.name.toList then "ex"
  else match wellKnownStems.lookup type.fullName with
    | some stem => stem
    | none => tidy (String.ofList (dropInterfaceMark type.name.toList))

def stem (type : TypeSig) : String :=
  match type.unmodified.nullable?.getD type.unmodified with
  | array _ => "array"
  | pointer _ | byRef _ => "ptr"
  | held => held.nameStem

end TypeSig

end Nomen
