import Nomen.Command.Files
import Nomen.Diagnostic
import Nomen.Document.Settings
import Nomen.Document.TypeUnit
import Nomen.Json.Reporter
import Nomen.Listing

namespace Nomen

open Json

inductive Failure where
  | input (path : String) (fault : FileFault)
  | config (path : String) (fault : FileFault)
  | output (fault : FileFault)
  | document (text : String) (misfit : Misfit)
  | settings (text : String) (misfit : Misfit)
  | procedure (name : String) (defect : Defect)
  | format (given : String)

def Failure.diagnostic (reporter : Reporter) : Failure → Diagnostic
  | input path fault => .io ("Failed to read " ++ path ++ ": " ++ fault.message)
  | config path fault => .io ("Failed to read settings " ++ path ++ ": " ++ fault.message)
  | output fault => .io fault.message
  | document text misfit =>
    let position := reporter.position text misfit
    .json position.line position.column (reporter.message text misfit)
  | settings text misfit => .settings (reporter.message text misfit)
  | procedure name defect =>
    .invalidProcedure ("procedure '" ++ name ++ "': " ++ defect.message)
  | format given =>
    .invalidArgs ("unknown output format '" ++ given ++ "' (expected text or json)")

inductive Format where
  | text | json

def Format.ofName? : String → Option Format
  | "text" => some text
  | "json" => some json
  | _ => none

structure NameOptions where
  input : String
  output : Option String := none
  config : Option String := none
  noDebugSymbols : Bool := false
  withKeywords : Bool := false
  format : String := "text"

structure Outcome (ε : Type) where
  stdout : String
  files : Files
  failure : Option ε

def loadUnit (files : Files) (path : String) : Except Failure TypeUnit :=
  match files.readText path with
  | .error fault => .error (.input path fault)
  | .ok text => (TypeUnit.ofText text).mapError (.document text)

def TypeUnit.requireWellFormed (unit : TypeUnit) : Except Failure Unit :=
  match unit.defect? with
  | none => .ok ()
  | some (name, defect) => .error (.procedure name defect)

namespace NameOptions

def settings (options : NameOptions) (files : Files) : Except Failure Settings := do
  let settings ← match options.config with
    | none => pure {}
    | some path =>
      match files.readText path with
      | .error fault => .error (.config path fault)
      | .ok text => (Settings.ofText text).mapError (.settings text)
  return if options.noDebugSymbols then { settings with useDebugSymbols := false } else settings

def render (options : NameOptions) (format : Format) (unit : TypeUnit) (settings : Settings) :
    String :=
  let named := unit.nameSlots settings options.withKeywords
  match format with
  | .text => named.listing (unit.reports settings options.withKeywords)
  | .json => named.toText

def result (options : NameOptions) (files : Files) : Except Failure String := do
  let format ← match Format.ofName? options.format with
    | some format => pure format
    | none => .error (.format options.format)
  let unit ← loadUnit files options.input
  unit.requireWellFormed
  let settings ← options.settings files
  return options.render format unit settings

def run (options : NameOptions) (files : Files) : Outcome Failure :=
  match options.result files with
  | .error failure => ⟨"", files, some failure⟩
  | .ok text =>
    match options.output with
    | none => ⟨text ++ "\n", files, none⟩
    | some path =>
      match files.writeText path text with
      | .error fault => ⟨"", files, some (.output fault)⟩
      | .ok files => ⟨"", files, none⟩

end NameOptions

inductive CheckFailure where
  | unreadable (path : String) (failure : Failure)
  | noProcedures (path : String)
  | invalid (failure : Failure)

def CheckFailure.message (reporter : Reporter) : CheckFailure → String
  | unreadable path failure => path ++ ": " ++ (failure.diagnostic reporter).display
  | noProcedures path => path ++ ": no procedures to name"
  | invalid failure => (failure.diagnostic reporter).display

def checkResult (input : String) (files : Files) : Except CheckFailure String := do
  let unit ← (loadUnit files input).mapError (.unreadable input)
  if unit.procedures.isEmpty then .error (.noProcedures input)
  else
    unit.requireWellFormed.mapError .invalid
    return unit.summary

def runCheck (input : String) (files : Files) : Outcome CheckFailure :=
  match checkResult input files with
  | .error failure => ⟨"", files, some failure⟩
  | .ok text => ⟨text, files, none⟩

end Nomen
