import Nomen.Vocabulary

namespace Nomen

inductive Operation where
  | block | whileLoop | ifElse | nop
  | loadLocal | loadLocalAddress | storeLocal
  | loadField | loadStaticField | storeField | storeStaticField
  | call | callVirtual | callGetter | callVirtualGetter | callSetter | callVirtualSetter | newObject
  | ret | throw
  | logicNot | logicAnd | logicOr
  | compareEqual
  | compareLessThan | compareLessThanUnsigned | compareGreaterThan | compareGreaterThanUnsigned
  | compareLessOrEqual | compareLessOrEqualUnsigned
  | compareGreaterOrEqual | compareGreaterOrEqualUnsigned
  | add | subtract | multiply | divide | remainder | negate
  | loadConstant | loadNull
  deriving DecidableEq

instance : Vocabulary Operation where
  all := [.block, .whileLoop, .ifElse, .nop, .loadLocal, .loadLocalAddress, .storeLocal,
    .loadField, .loadStaticField, .storeField, .storeStaticField, .call, .callVirtual, .callGetter,
    .callVirtualGetter, .callSetter, .callVirtualSetter, .newObject, .ret, .throw, .logicNot,
    .logicAnd, .logicOr, .compareEqual, .compareLessThan, .compareLessThanUnsigned,
    .compareGreaterThan, .compareGreaterThanUnsigned, .compareLessOrEqual,
    .compareLessOrEqualUnsigned, .compareGreaterOrEqual, .compareGreaterOrEqualUnsigned, .add,
    .subtract, .multiply, .divide, .remainder, .negate, .loadConstant, .loadNull]
  word
    | .block => "Block"
    | .whileLoop => "WhileLoop"
    | .ifElse => "IfElse"
    | .nop => "Nop"
    | .loadLocal => "LoadLocal"
    | .loadLocalAddress => "LoadLocalAddress"
    | .storeLocal => "StoreLocal"
    | .loadField => "LoadField"
    | .loadStaticField => "LoadStaticField"
    | .storeField => "StoreField"
    | .storeStaticField => "StoreStaticField"
    | .call => "Call"
    | .callVirtual => "CallVirtual"
    | .callGetter => "CallGetter"
    | .callVirtualGetter => "CallVirtualGetter"
    | .callSetter => "CallSetter"
    | .callVirtualSetter => "CallVirtualSetter"
    | .newObject => "NewObject"
    | .ret => "Return"
    | .throw => "Throw"
    | .logicNot => "LogicNot"
    | .logicAnd => "LogicAnd"
    | .logicOr => "LogicOr"
    | .compareEqual => "CompareEqual"
    | .compareLessThan => "CompareLessThan"
    | .compareLessThanUnsigned => "CompareLessThanUnsigned"
    | .compareGreaterThan => "CompareGreaterThan"
    | .compareGreaterThanUnsigned => "CompareGreaterThanUnsigned"
    | .compareLessOrEqual => "CompareLessOrEqual"
    | .compareLessOrEqualUnsigned => "CompareLessOrEqualUnsigned"
    | .compareGreaterOrEqual => "CompareGreaterOrEqual"
    | .compareGreaterOrEqualUnsigned => "CompareGreaterOrEqualUnsigned"
    | .add => "Add"
    | .subtract => "Subtract"
    | .multiply => "Multiply"
    | .divide => "Divide"
    | .remainder => "Remainder"
    | .negate => "Negate"
    | .loadConstant => "LoadConstant"
    | .loadNull => "LoadNull"

namespace Operation

def name (code : Operation) : String :=
  Vocabulary.word code

def isContainer : Operation → Bool
  | block | whileLoop | ifElse => true
  | _ => false

def isOrdering : Operation → Bool
  | compareLessThan | compareLessThanUnsigned | compareGreaterThan | compareGreaterThanUnsigned
  | compareLessOrEqual | compareLessOrEqualUnsigned
  | compareGreaterOrEqual | compareGreaterOrEqualUnsigned => true
  | _ => false

def accessesSlot : Operation → Bool
  | loadLocal | loadLocalAddress | storeLocal => true
  | _ => false

def loadsField : Operation → Bool
  | loadField | loadStaticField => true
  | _ => false

def storesField : Operation → Bool
  | storeField | storeStaticField => true
  | _ => false

def returnsValue : Operation → Bool
  | call | callVirtual | callGetter | callVirtualGetter => true
  | _ => false

def invokes : Operation → Bool
  | callSetter | callVirtualSetter | newObject => true
  | code => code.returnsValue

end Operation

end Nomen
