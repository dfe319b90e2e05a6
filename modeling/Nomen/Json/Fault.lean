namespace Nomen.Json

inductive Cause where
  | value
  | number
  | text
  | word
  | arrangement

def Cause.message : Cause → String
  | value => "expected value"
  | number => "invalid number"
  | text => "invalid string"
  | word => "expected ident"
  | arrangement => "unexpected end or token"

structure Fault where
  cause : Cause
  rest : List Char

structure Position where
  line : Nat
  column : Nat

def Position.step (position : Position) (c : Char) : Position :=
  if c = '\n' then ⟨position.line + 1, 1⟩ else ⟨position.line, position.column + c.utf8Size⟩

def Position.before (text : String) (rest : List Char) : Position :=
  (text.toList.take (text.toList.length - rest.length)).foldl step ⟨1, 1⟩

end Nomen.Json
