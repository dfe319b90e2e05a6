namespace Nomen

inductive Diagnostic where
  | io (message : String)
  | json (line column : Nat) (message : String)
  | settings (message : String)
  | invalidProcedure (message : String)
  | invalidArgs (message : String)
  deriving DecidableEq

namespace Diagnostic

def display : Diagnostic → String
  | io message => "I/O error: " ++ message
  | json line column message =>
    "Invalid JSON at line " ++ Nat.repr line ++ ", column " ++ Nat.repr column ++ ": " ++ message
  | settings message => "Invalid settings: " ++ message
  | invalidProcedure message => "Invalid procedure: " ++ message
  | invalidArgs message => "Invalid arguments: " ++ message

def code : Diagnostic → String
  | io _ => "slotname::io_error"
  | json _ _ _ => "slotname::json_error"
  | settings _ => "slotname::settings_error"
  | invalidProcedure _ => "slotname::invalid_procedure"
  | invalidArgs _ => "slotname::invalid_args"

def help? : Diagnostic → Option String
  | json _ _ _ => some "the input must be a serialized TypeUnit document"
  | _ => none

end Diagnostic

end Nomen
