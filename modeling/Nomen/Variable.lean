import Nomen.Character.Alphabetic
import Nomen.Character.Case
import Nomen.Character.Numeric

namespace Nomen

def startsIdentifier (c : Char) : Bool :=
  isAlphabetic c || c == '_'

def continuesIdentifier (c : Char) : Bool :=
  isAlphabetic c || isNumeric c || c == '_'

def isIdentifier (name : String) : Bool :=
  match name.toList with
  | [] => false
  | c :: cs => startsIdentifier c && cs.all continuesIdentifier

def lastResort : String := "obj"

def dropArity (cs : List Char) : List Char :=
  cs.takeWhile (· != '\x60')

def dropFieldMark : List Char → List Char
  | 'm' :: '_' :: c :: cs => c :: cs
  | '_' :: c :: cs => c :: cs
  | cs => cs

def tidy (name : String) : String :=
  match dropFieldMark (dropArity name.toList) with
  | [] => lastResort
  | c :: cs => String.ofList (lowercase c ++ cs)

end Nomen
