namespace Nomen

structure Numbered where
  stem : String
  number : Nat
  deriving DecidableEq

def greatestNumber : Nat := 2147483647

/-- The digits at the end of a name are its number. A name without such digits, or with too great
a number, is all stem, and its number is one. -/
def Numbered.ofName (name : String) : Numbered :=
  let backward := name.toList.reverse
  let digits := (backward.takeWhile Char.isDigit).reverse
  let number := Nat.ofDigitChars 10 digits 0
  if digits ≠ [] ∧ number ≤ greatestNumber then
    ⟨String.ofList (backward.dropWhile Char.isDigit).reverse, number⟩
  else ⟨name, 1⟩

def spell (stem : String) (number : Nat) : String :=
  if number = 1 then stem else stem ++ Nat.repr number

end Nomen
