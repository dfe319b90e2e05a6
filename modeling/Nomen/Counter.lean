import Nomen.Procedure

namespace Nomen

namespace Node

def negated? : Node → Option Node
  | ⟨.logicNot, _, []⟩ => none
  | ⟨.logicNot, _, operand :: _⟩ => operand.negated?
  | node => some node

def compares (slot : Nat) (condition : Node) : Bool :=
  condition.negated?.any fun test =>
    test.code.isOrdering && test.args.head?.any (reads slot)

def countsBy (slot : Nat) (body : Node) : Bool :=
  (body.subnodesWith .whileLoop).any fun loop => loop.condition?.any (compares slot)

end Node

def isCounter (body : Node) (slot : Nat) (type : TypeSig) : Bool :=
  type.isInt32 && body.countsBy slot

end Nomen
