import Nomen.Command.Run

namespace Nomen

inductive Command where
  | name (options : NameOptions)
  | check (input : String)
  | version

inductive ValueOption where
  | output | config | format
  deriving DecidableEq

inductive Flag where
  | noDebugSymbols | keywords
  deriving DecidableEq

inductive Argument where
  | value (option : ValueOption) (value : String)
  | flag (flag : Flag)
  | positional (text : String)

namespace ValueOption

def ofLong? : String → Option ValueOption
  | "output" => some output
  | "config" => some config
  | "format" => some format
  | _ => none

def ofShort? : Char → Option ValueOption
  | 'o' => some output
  | 'c' => some config
  | 'f' => some format
  | _ => none

end ValueOption

def Flag.ofLong? : String → Option Flag
  | "no-debug-symbols" => some noDebugSymbols
  | "keywords" => some keywords
  | _ => none

inductive Spelling where
  | plain (text : String)
  | endOfOptions
  | long (name : String) (value : Option String)
  | short (letter : Char) (more : List Char)

def Spelling.of (argument : String) : Spelling :=
  match argument.toList with
  | ['-', '-'] => .endOfOptions
  | '-' :: '-' :: cs =>
    let name := cs.takeWhile (· != '=')
    .long (String.ofList name) (match cs.dropWhile (· != '=') with
      | [] => none
      | _ :: value => some (String.ofList value))
  | '-' :: letter :: more => .short letter more
  | _ => .plain argument

def attachedValue : List Char → Option String
  | [] => none
  | '=' :: cs => some (String.ofList cs)
  | cs => some (String.ofList cs)

def plainArguments (texts : List String) : List Argument :=
  texts.map .positional

/-- Sorts the arguments of a command that takes options; none if one of them is none of them. A
value that stands apart is the next argument, which must be plain. -/
def sortArguments : List String → Option (List Argument)
  | [] => some []
  | argument :: rest =>
    let valued (option : ValueOption) (attached : Option String) : Option (List Argument) :=
      match attached, rest with
      | some value, rest => (sortArguments rest).map (.value option value :: ·)
      | none, next :: rest =>
        match Spelling.of next with
        | .plain value => (sortArguments rest).map (.value option value :: ·)
        | _ => none
      | none, [] => none
    match Spelling.of argument with
    | .plain text => (sortArguments rest).map (.positional text :: ·)
    | .endOfOptions => some (plainArguments rest)
    | .short letter more => (ValueOption.ofShort? letter).bind (valued · (attachedValue more))
    | .long name value =>
      match ValueOption.ofLong? name, Flag.ofLong? name, value with
      | some option, _, value => valued option value
      | none, some flag, none => (sortArguments rest).map (.flag flag :: ·)
      | _, _, _ => none

def only? {α : Type} : List α → Option α
  | [a] => some a
  | _ => none

def atMostOne? {α : Type} : List α → Option (Option α)
  | [] => some none
  | [a] => some (some a)
  | _ => none

def path? (text : String) : Option String :=
  if text = "" then none else some text

def positionals (arguments : List Argument) : List String :=
  arguments.filterMap fun
    | .positional text => some text
    | _ => none

def valuesOf (option : ValueOption) (arguments : List Argument) : List String :=
  arguments.filterMap fun
    | .value other value => if other = option then some value else none
    | _ => none

def flagsOf (flag : Flag) (arguments : List Argument) : List Unit :=
  arguments.filterMap fun
    | .flag other => if other = flag then some () else none
    | _ => none

def optionalPath? (option : ValueOption) (arguments : List Argument) : Option (Option String) :=
  match valuesOf option arguments with
  | [] => some none
  | [value] => (path? value).map some
  | _ => none

def nameOptions? (arguments : List Argument) : Option NameOptions := do
  let input ← only? (positionals arguments) >>= path?
  let output ← optionalPath? .output arguments
  let config ← optionalPath? .config arguments
  let noDebugSymbols ← atMostOne? (flagsOf .noDebugSymbols arguments)
  let withKeywords ← atMostOne? (flagsOf .keywords arguments)
  let format ← atMostOne? (valuesOf .format arguments)
  return {
    input := input
    output := output
    config := config
    noDebugSymbols := noDebugSymbols.isSome
    withKeywords := withKeywords.isSome
    format := format.getD "text" }

def plainOnly? : List String → Option (List String)
  | [] => some []
  | argument :: rest =>
    match Spelling.of argument with
    | .plain text => (plainOnly? rest).map (text :: ·)
    | .endOfOptions => some rest
    | _ => none

def Command.ofArguments? : List String → Option Command
  | "name" :: arguments => (sortArguments arguments >>= nameOptions?).map name
  | "check" :: arguments => (plainOnly? arguments >>= only? >>= path?).map check
  | argument :: _ =>
    match Spelling.of argument with
    | .long "version" none => some version
    | .short 'V' _ => some version
    | _ => none
  | [] => none

def Command.reads : Command → List String
  | name options => options.input :: options.config.toList
  | check input => [input]
  | version => []

def Command.writes : Command → List String
  | name options => options.output.toList
  | _ => []

def versionText : String := "slotname 0.1.0\n"

structure Exit where
  code : Nat
  stdout : String
  stderr : String
  files : Files

def Outcome.exit {ε : Type} (outcome : Outcome ε) (message : ε → String) : Exit :=
  match outcome.failure with
  | none => ⟨0, outcome.stdout, "", outcome.files⟩
  | some failure => ⟨1, outcome.stdout, message failure ++ "\n", outcome.files⟩

def Command.run (reporter : Json.Reporter) (command : Command) (files : Files) : Exit :=
  match command with
  | name options => (options.run files).exit fun failure => (failure.diagnostic reporter).display
  | check input => (runCheck input files).exit (·.message reporter)
  | version => ⟨0, versionText, "", files⟩

def usageText : String :=
  "usage: slotname name INPUT [-o FILE] [-c FILE] [-f text|json]\n"
    ++ "         [--no-debug-symbols] [--keywords]\n"
    ++ "       slotname check INPUT\n"
    ++ "       slotname --version\n"

def runArguments (reporter : Json.Reporter) (arguments : List String) (files : Files) : Exit :=
  match Command.ofArguments? arguments with
  | some command => command.run reporter files
  | none => ⟨2, "", usageText, files⟩

end Nomen
