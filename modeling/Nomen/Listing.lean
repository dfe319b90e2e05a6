import Nomen.Character.Blank
import Nomen.TypeUnit.Naming

namespace Nomen

def padTo (width : Nat) (text : String) : String :=
  text ++ String.ofList (List.replicate (width - text.length) ' ')

def trimEnd (text : String) : String :=
  String.ofList (text.toList.reverse.dropWhile isBlank).reverse

def originOf (slot : Slot) : Option Source → String
  | some source => source.label
  | none => if slot.isGenerated then "generated" else "declared"

def slotLine (index : Nat) (slot : Slot) (source : Option Source) : String :=
  "  slot" ++ padTo 3 (Nat.repr index)
    ++ " " ++ padTo 5 (if slot.isParameter then "param" else "local")
    ++ " " ++ padTo 24 (slot.name.getD "?")
    ++ " " ++ padTo 16 slot.type.display
    ++ " (" ++ originOf slot source ++ ")\n"

def heading (typeName procedure : String) : String :=
  (if typeName = "" then procedure else typeName ++ "::" ++ procedure) ++ "\n"

def procedureLines (typeName : String) (procedure : Procedure) (report : Report) : String :=
  heading typeName procedure.name ++ String.join (procedure.slots.mapIdx fun index slot =>
    slotLine index slot (report.sourceFor? index))

def TypeUnit.listing (unit : TypeUnit) (reports : List Report) : String :=
  trimEnd (String.join ((unit.procedures.zip reports).map fun (procedure, report) =>
    procedureLines unit.typeName procedure report))

def summaryLine (procedure : Procedure) : String :=
  "  " ++ procedure.name
    ++ ": " ++ Nat.repr procedure.parameters.length ++ " parameters"
    ++ ", " ++ Nat.repr procedure.locals.length ++ " locals"
    ++ ", " ++ Nat.repr procedure.body.subnodes.length ++ " nodes"
    ++ ", " ++ Nat.repr (procedure.body.subnodesWith .whileLoop).length ++ " loops\n"

def TypeUnit.summary (unit : TypeUnit) : String :=
  "Type: " ++ (if unit.typeName = "" then "<anonymous>" else unit.typeName) ++ "\n"
    ++ "Fields: " ++ Nat.repr unit.fields.length ++ "\n"
    ++ "Resolved methods: " ++ Nat.repr (distinctMethods unit.methods) ++ "\n"
    ++ String.join (unit.procedures.map summaryLine)
    ++ "OK\n"

end Nomen
