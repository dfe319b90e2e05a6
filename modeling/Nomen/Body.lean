import Nomen.Operation

namespace Nomen

structure FieldRef where
  declaringType : String := ""
  name : String
  deriving DecidableEq

structure MethodRef where
  declaringType : String := ""
  name : String
  parameterCount : Nat := 0
  deriving DecidableEq

inductive Literal where
  | bool (value : Bool)
  | int (value : Int)
  | float (value : Float)
  | string (value : String)

inductive Operand where
  | slot (index : Nat)
  | field (ref : FieldRef)
  | method (ref : MethodRef)
  | literal (value : Literal)

structure Node where
  code : Operation
  operand : Option Operand := none
  args : List Node := []

namespace Node

def slot? (node : Node) : Option Nat :=
  match node.operand with
  | some (.slot index) => some index
  | _ => none

def field? (node : Node) : Option FieldRef :=
  match node.operand with
  | some (.field ref) => some ref
  | _ => none

def method? (node : Node) : Option MethodRef :=
  match node.operand with
  | some (.method ref) => some ref
  | _ => none

def reads (slot : Nat) (node : Node) : Bool :=
  node.code == .loadLocal && node.slot? == some slot

def writes (slot : Nat) (node : Node) : Bool :=
  node.code == .storeLocal && node.slot? == some slot

def condition? (node : Node) : Option Node :=
  match node.code with
  | .whileLoop => node.args.head?
  | _ => none

mutual

def preorder : Node → List Node
  | ⟨code, operand, args⟩ => ⟨code, operand, args⟩ :: preorderAll args

def preorderAll : List Node → List Node
  | [] => []
  | node :: nodes => node.preorder ++ preorderAll nodes

end

theorem preorderAll_append (xs ys : List Node) :
    preorderAll (xs ++ ys) = preorderAll xs ++ preorderAll ys := by
  induction xs with
  | nil => rfl
  | cons x xs ih => simp [preorderAll, ih]

theorem mem_preorderAll {node : Node} {nodes : List Node} :
    node ∈ preorderAll nodes ↔ ∃ root ∈ nodes, node ∈ root.preorder := by
  induction nodes with
  | nil => simp [preorderAll]
  | cons root nodes ih => simp [preorderAll, ih]

theorem length_preorder (node : Node) :
    node.preorder.length = (preorderAll node.args).length + 1 := by
  cases node
  simp [preorder]

def walk : List Node → List Node
  | [] => []
  | node :: pending => node :: walk (node.args ++ pending)
termination_by pending => (preorderAll pending).length
decreasing_by simp [preorderAll, preorderAll_append, length_preorder]

def subnodes (node : Node) : List Node :=
  walk [node]

theorem walk_eq_preorderAll (pending : List Node) : walk pending = preorderAll pending := by
  fun_induction walk pending with
  | case1 => rfl
  | case2 node pending ih =>
    cases node
    simp [ih, preorderAll, preorder, preorderAll_append]

theorem subnodes_eq_preorder (node : Node) : node.subnodes = node.preorder := by
  simp [subnodes, walk_eq_preorderAll, preorderAll]

theorem mem_subnodes {node sub : Node} :
    sub ∈ node.subnodes ↔ sub = node ∨ ∃ arg ∈ node.args, sub ∈ arg.subnodes := by
  cases node
  simp [subnodes_eq_preorder, preorder, mem_preorderAll]

def subnodesWith (code : Operation) (node : Node) : List Node :=
  node.subnodes.filter (·.code == code)

def block (statements : List Node) : Node :=
  ⟨.block, none, statements⟩

def whileLoop (condition : Node) (statements : List Node) : Node :=
  ⟨.whileLoop, none, condition :: statements⟩

def ifElse (condition : Node) (yes no : List Node) : Node :=
  ⟨.ifElse, none, [condition, block yes, block no]⟩

def loadLocal (slot : Nat) : Node :=
  ⟨.loadLocal, some (.slot slot), []⟩

def storeLocal (slot : Nat) (value : Node) : Node :=
  ⟨.storeLocal, some (.slot slot), [value]⟩

def loadField (field : FieldRef) (target : Node) : Node :=
  ⟨.loadField, some (.field field), [target]⟩

def loadStaticField (field : FieldRef) : Node :=
  ⟨.loadStaticField, some (.field field), []⟩

def storeField (field : FieldRef) (target value : Node) : Node :=
  ⟨.storeField, some (.field field), [target, value]⟩

def storeStaticField (field : FieldRef) (value : Node) : Node :=
  ⟨.storeStaticField, some (.field field), [value]⟩

def invoke (code : Operation) (method : MethodRef) (args : List Node) : Node :=
  ⟨code, some (.method method), args⟩

def ret (value : Option Node) : Node :=
  ⟨.ret, none, value.toList⟩

def logicNot (operand : Node) : Node :=
  ⟨.logicNot, none, [operand]⟩

def binary (code : Operation) (left right : Node) : Node :=
  ⟨code, none, [left, right]⟩

def constant (value : Literal) : Node :=
  ⟨.loadConstant, some (.literal value), []⟩

end Node

end Nomen
