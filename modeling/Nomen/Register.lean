import Nomen.Numbered

/-!
The register of the names used in one procedure. A stem is known once a name was entered under it;
its count is the greatest number entered with it, and new names of the stem count on from there.
-/

namespace Nomen

structure Entry where
  name : String
  stem : String
  number : Nat
  deriving DecidableEq

structure Register where
  entries : List Entry := []
  deriving DecidableEq

def counterLetters : List String :=
  ["i", "j", "k", "l", "m", "n"]

def freeNumber (taken : List String) (stem : String) : (tries number : Nat) → Nat
  | 0, number => number
  | tries + 1, number =>
    if spell stem number ∈ taken then freeNumber taken stem tries (number + 1) else number

namespace Register

def names (register : Register) : List String :=
  register.entries.map (·.name)

def count? (register : Register) (stem : String) : Option Nat :=
  ((register.entries.filter (·.stem == stem)).map (·.number)).max?

def knows (register : Register) (stem : String) : Bool :=
  (register.count? stem).isSome

def enter (register : Register) (entry : Entry) : Register :=
  ⟨entry :: register.entries⟩

def enterFrom (register : Register) (stem : String) (start : Nat) : String × Register :=
  -- Among one spelling more than there are names some spelling is free.
  let number := freeNumber register.names stem register.names.length start
  (spell stem number, register.enter ⟨spell stem number, stem, number⟩)

def reserve (register : Register) (name : String) : Register :=
  if name = "" then register
  else
    let split := Numbered.ofName name
    register.enter ⟨name, split.stem, split.number⟩

def reserveAll (register : Register) (names : List String) : Register :=
  names.foldl reserve register

def issue (register : Register) (stem : String) : String × Register :=
  register.enterFrom stem ((register.count? stem).getD 0 + 1)

def freeLetter? (register : Register) : Option String :=
  counterLetters.find? fun letter => !register.knows letter

def adopt (register : Register) (name : String) : String × Register :=
  match if name ∈ counterLetters then register.freeLetter? else none with
  | some letter => (letter, register.enter ⟨letter, letter, 1⟩)
  | none =>
    -- A stem that is known counts on; the number of the name is the first to try for a new one.
    let split := Numbered.ofName name
    register.enterFrom split.stem (((register.count? split.stem).map (· + 1)).getD split.number)

end Register

end Nomen
