import Nomen.Body

namespace Nomen

structure Signature where
  hasThis : Bool := false
  parameters : List String := []
  deriving DecidableEq

structure ResolvedMethod where
  method : MethodRef
  signature : Signature
  deriving DecidableEq

def resolve (methods : List ResolvedMethod) (method : MethodRef) : Option Signature :=
  (methods.reverse.find? (·.method == method)).map (·.signature)

def distinctMethods (methods : List ResolvedMethod) : Nat :=
  (methods.map (·.method)).eraseDups.length

end Nomen
