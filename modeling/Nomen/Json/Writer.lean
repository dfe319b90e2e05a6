import Nomen.Decimal.Shortest
import Nomen.Json.Tree

namespace Nomen.Json

def hexDigit (n : Nat) : Char :=
  Nat.digitChar (n % 16)

def escape (c : Char) : List Char :=
  if c = '"' then ['\\', '"']
  else if c = '\\' then ['\\', '\\']
  else if c = '\x08' then ['\\', 'b']
  else if c = '\x0c' then ['\\', 'f']
  else if c = '\n' then ['\\', 'n']
  else if c = '\r' then ['\\', 'r']
  else if c = '\t' then ['\\', 't']
  else if c < ' ' then ['\\', 'u', '0', '0', hexDigit (c.toNat / 16), hexDigit c.toNat]
  else [c]

def quote (text : String) : List Char :=
  '"' :: text.toList.flatMap escape ++ ['"']

def plainExponents (exponent : Int) : Bool :=
  -5 ≤ exponent && exponent ≤ 15

def pointed (digits : List Char) (point : Int) : List Char :=
  if point ≤ 0 then '0' :: '.' :: List.replicate (-point).toNat '0' ++ digits
  else if digits.length ≤ point then
    digits ++ List.replicate (point.toNat - digits.length) '0' ++ ['.', '0']
  else digits.take point.toNat ++ '.' :: digits.drop point.toNat

def exponential (digits : List Char) (exponent : Int) : List Char :=
  let tail := if digits.length ≤ 1 then [] else '.' :: digits.drop 1
  let sign := if exponent < 0 then '-' else '+'
  digits.take 1 ++ tail ++ 'e' :: sign :: Nat.toDigits 10 exponent.natAbs

def writeFloat (x : Float) : List Char :=
  let bits := x.toBits
  let sign := if Decimal.signWord ≤ bits.toNat then ['-'] else []
  if !x.isFinite then "null".toList
  else if x == 0 then sign ++ ['0', '.', '0']
  else
    let shortest := (Decimal.Binary.ofBits bits).shortest
    let digits := Nat.toDigits 10 shortest.digits
    let exponent := shortest.exponent + digits.length - 1
    sign ++ if plainExponents exponent then pointed digits (exponent + 1)
      else exponential digits exponent

def writeInteger (n : Int) : List Char :=
  if n < 0 then '-' :: Nat.toDigits 10 n.natAbs else Nat.toDigits 10 n.natAbs

def writeNumber : Number → List Char
  | .integer value => writeInteger value
  | .float value => writeFloat value
  | .overflow => "null".toList

structure Style where
  lead : Nat → List Char
  afterColon : List Char

def Style.compact : Style :=
  ⟨fun _ => [], []⟩

def Style.pretty : Style :=
  ⟨fun depth => '\n' :: List.replicate (2 * depth) ' ', [' ']⟩

def Tree.write (style : Style) {place : Place} (depth : Nat) : Tree place → List Char
  | null => "null".toList
  | bool true => "true".toList
  | bool false => "false".toList
  | number value => writeNumber value
  | string text => quote (text.getD "")
  | array noItems => ['[', ']']
  | array items => '[' :: items.write style (depth + 1) ++ style.lead depth ++ [']']
  | object noMembers => ['\x7b', '\x7d']
  | object members =>
    '\x7b' :: members.write style (depth + 1) ++ style.lead depth ++ ['\x7d']
  | noItems => []
  | item head noItems => style.lead depth ++ head.write style depth
  | item head tail =>
    style.lead depth ++ head.write style depth ++ ',' :: tail.write style depth
  | noMembers => []
  | member key value noMembers =>
    style.lead depth ++ quote (key.getD "") ++ ':' :: style.afterColon ++ value.write style depth
  | member key value tail =>
    style.lead depth ++ quote (key.getD "") ++ ':' :: style.afterColon ++ value.write style depth
      ++ ',' :: tail.write style depth
  | broken _ => []

def Tree.compact (value : Value) : String :=
  String.ofList (value.write .compact 0)

def Tree.pretty (value : Value) : String :=
  String.ofList (value.write .pretty 0)

namespace Tree

def ofList : List Value → Items
  | [] => noItems
  | v :: vs => item v (ofList vs)

def ofMembers : List (String × Value) → Members
  | [] => noMembers
  | (key, value) :: rest => member (some key) value (ofMembers rest)

def list (values : List Value) : Value :=
  array (ofList values)

def record (members : List (String × Value)) : Value :=
  object (ofMembers members)

def text (s : String) : Value :=
  string (some s)

def int (n : Int) : Value :=
  number (.integer n)

def float (x : Float) : Value :=
  number (.float x)

end Tree

end Nomen.Json
