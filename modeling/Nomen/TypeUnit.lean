import Nomen.Defect
import Nomen.Method

namespace Nomen

structure TypeUnit where
  typeName : String := ""
  fields : List String := []
  reservedNames : List String := []
  methods : List ResolvedMethod := []
  procedures : List Procedure

def TypeUnit.defect? (unit : TypeUnit) : Option (String × Defect) :=
  unit.procedures.findSome? fun procedure => procedure.defect?.map (procedure.name, ·)

end Nomen
