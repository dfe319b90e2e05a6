import Nomen.Character.Hidden
import Nomen.Json.Writer

namespace Nomen.Json

inductive Found where
  | null
  | boolean (value : Bool)
  | integer (value : Int)
  | float (value : Float)
  | string (text : String)
  | sequence
  | map
  | unitVariant

inductive Misfit where
  | missingField (field : String)
  | duplicateField (field : String)
  | unknownField (field : String) (known : List String)
  | unknownVariant (variant : String) (known : List String)
  | wrongType (found : Found) (wanted : String)
  | outOfRange (value : Int) (wanted : String)
  | wrongLength (length : Nat) (wanted : String)
  /-- The text is no document, or goes beyond what documents may hold. -/
  | malformed

def grave (text : String) : String :=
  "\x60" ++ text ++ "\x60"

def showChar (c : Char) : List Char :=
  if c = '"' then ['\\', '"']
  else if c = '\\' then ['\\', '\\']
  else if c = '\n' then ['\\', 'n']
  else if c = '\r' then ['\\', 'r']
  else if c = '\t' then ['\\', 't']
  else if c = '\x00' then ['\\', '0']
  else if isHidden c then "\\u\x7b".toList ++ Nat.toDigits 16 c.toNat ++ ['\x7d']
  else [c]

def showText (text : String) : String :=
  String.ofList ('"' :: text.toList.flatMap showChar ++ ['"'])

def Found.describe : Found → String
  | null => "null"
  | boolean value => "boolean " ++ grave (if value then "true" else "false")
  | integer value => "integer " ++ grave (String.ofList (writeInteger value))
  | float value => "floating point " ++ grave (String.ofList (writeFloat value))
  | string text => "string " ++ showText text
  | sequence => "sequence"
  | map => "map"
  | unitVariant => "unit variant"

def choice : List String → String
  | [a, b] => grave a ++ " or " ++ grave b
  | [a] => grave a
  | all => "one of " ++ ", ".intercalate (all.map grave)

def Misfit.message : Misfit → Option String
  | missingField field => some ("missing field " ++ grave field)
  | duplicateField field => some ("duplicate field " ++ grave field)
  | unknownField field known =>
    some ("unknown field " ++ grave field ++ ", expected " ++ choice known)
  | unknownVariant variant known =>
    some ("unknown variant " ++ grave variant ++ ", expected " ++ choice known)
  | wrongType found wanted => some ("invalid type: " ++ found.describe ++ ", expected " ++ wanted)
  | outOfRange value wanted =>
    some ("invalid value: integer " ++ grave (String.ofList (writeInteger value))
      ++ ", expected " ++ wanted)
  | wrongLength length wanted =>
    some ("invalid length " ++ Nat.repr length ++ ", expected " ++ wanted)
  | malformed => none

end Nomen.Json
