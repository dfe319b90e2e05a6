import Nomen.Command.Arguments

/-!
The program. It looks at the files a command may read, runs the command on what it saw, and then
prints and writes what the command left behind.
-/

namespace Nomen

def look (path : String) : IO (Option FileEntry) := do
  try
    return some (.file (← IO.FS.readBinFile path))
  catch
    | .noFileOrDirectory .. => return none
    | .inappropriateType _ code _ =>
      return some (if code = 21 then .folder else .locked FileFault.notFolder.message)
    | failure => return some (.locked (toString failure))

def foldersOf (path : String) : List (Place × FileEntry) :=
  ((Place.start path).passed (Place.names path)).map fun place => (place, .folder)

def survey (command : Command) : IO Files := do
  let seen ← command.reads.filterMapM fun path => do
    return (← look path).map fun entry => (Place.ofPath path, entry)
  return ⟨seen ++ (command.reads ++ command.writes).flatMap foldersOf⟩

def carryOut (command : Command) (files : Files) : IO Unit := do
  for path in command.writes do
    match files.readText path with
    | .ok text => IO.FS.writeFile path text
    | .error _ => pure ()

def runProgram (arguments : List String) : IO UInt32 := do
  let command? := Command.ofArguments? arguments
  let files ← command?.elim (pure ⟨[]⟩) survey
  let exit := runArguments Json.Reporter.plain arguments files
  IO.print exit.stdout
  IO.eprint exit.stderr
  if exit.code ≠ 0 then return UInt32.ofNat exit.code
  try
    command?.forM (carryOut · exit.files)
    return 0
  catch failure =>
    IO.eprintln (Diagnostic.io (toString failure)).display
    return 1

end Nomen

def main (arguments : List String) : IO UInt32 :=
  Nomen.runProgram arguments
