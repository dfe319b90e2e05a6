import Nomen.Keyword
import Nomen.Naming
import Nomen.TypeUnit

namespace Nomen

namespace TypeUnit

def scope (unit : TypeUnit) (settings : Settings) (withKeywords : Bool) : Scope where
  fields := unit.fields
  reserved := unit.reservedNames ++ if withKeywords then keywords else []
  settings := settings
  resolve := resolve unit.methods

def reports (unit : TypeUnit) (settings : Settings) (withKeywords : Bool) : List Report :=
  unit.procedures.map (·.report (unit.scope settings withKeywords))

def nameSlots (unit : TypeUnit) (settings : Settings) (withKeywords : Bool) : TypeUnit :=
  { unit with
    procedures := unit.procedures.map (·.nameSlots (unit.scope settings withKeywords)) }

end TypeUnit

end Nomen
