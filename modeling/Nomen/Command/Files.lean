namespace Nomen

inductive FileEntry where
  | file (bytes : ByteArray)
  | folder
  | locked (message : String)

inductive FileFault where
  | missing
  | isFolder
  | notFolder
  | notText
  | nameTooLong
  | nullInName
  | other (message : String)

def FileFault.message : FileFault → String
  | missing => "No such file or directory (os error 2)"
  | isFolder => "Is a directory (os error 21)"
  | notFolder => "Not a directory (os error 20)"
  | notText => "stream did not contain valid UTF-8"
  | nameTooLong => "File name too long (os error 36)"
  | nullInName => "file name contained an unexpected NUL byte"
  | other message => message

inductive Place where
  | root
  /-- The working folder, or the folder so many levels above it. -/
  | working (levels : Nat)
  | inside (folder : Place) (name : String)
  deriving DecidableEq

namespace Place

def outer : Place → Place
  | root => root
  | working levels => working (levels + 1)
  | inside folder _ => folder

def enter (place : Place) (name : String) : Place :=
  if name = "." then place
  else if name = ".." then place.outer
  else place.inside name

def start (path : String) : Place :=
  if path.startsWith "/" then root else working 0

def names (path : String) : List String :=
  (path.splitOn "/").filter (· ≠ "")

def ofPath (path : String) : Place :=
  (names path).foldl enter (start path)

def passed (place : Place) : List String → List Place
  | [] => []
  | name :: rest => place :: (place.enter name).passed rest

end Place

structure Files where
  entries : List (Place × FileEntry) := []

namespace Files

def entry? (files : Files) : Place → Option FileEntry
  | .root | .working _ => some .folder
  | place => files.entries.lookup place

def nameLimit : Nat := 255

def pathLimit : Nat := 4095

def step (files : Files) (place : Place) (name : String) : Except FileFault Place :=
  match files.entry? place with
  | some .folder =>
    if name.utf8ByteSize ≤ nameLimit then .ok (place.enter name) else .error .nameTooLong
  | some (.file _) => .error .notFolder
  | some (.locked message) => .error (.other message)
  | none => .error .missing

def locate (files : Files) (path : String) : Except FileFault Place :=
  if path = "" then .error .missing
  else if '\x00' ∈ path.toList then .error .nullInName
  else if pathLimit < path.utf8ByteSize then .error .nameTooLong
  else (Place.names path).foldlM files.step (Place.start path)

def meansFolder (path : String) : Bool :=
  path.endsWith "/"

def readText (files : Files) (path : String) : Except FileFault String := do
  let place ← files.locate path
  match files.entry? place with
  | none => .error .missing
  | some .folder => .error .isFolder
  | some (.locked message) => .error (.other message)
  | some (.file bytes) =>
    if meansFolder path then .error .notFolder
    else match String.fromUTF8? bytes with
      | some text => .ok text
      | none => .error .notText

def put (files : Files) (place : Place) (entry : FileEntry) : Files :=
  ⟨(place, entry) :: files.entries.filter (·.1 ≠ place)⟩

def writeText (files : Files) (path text : String) : Except FileFault Files := do
  let place ← files.locate path
  if meansFolder path then .error .isFolder
  else match files.entry? place with
    | some .folder => .error .isFolder
    | some (.locked message) => .error (.other message)
    | _ => .ok (files.put place (.file text.toUTF8))

end Files

end Nomen
