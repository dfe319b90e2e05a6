/-!
Doubles from decimals. Digits are gathered into a 64-bit significand, which is then scaled once by
a power of ten; this is fast and not always the nearest double.
-/

namespace Nomen.Decimal

def wordCount : Nat := 0x10000000000000000

def signWord : Nat := 0x8000000000000000

def shift (significand : Nat) (digit : Char) : Nat :=
  10 * significand + (digit.toNat - '0'.toNat)

def gatherWhole (significand : Nat) : List Char → Nat × Nat
  | [] => (significand, 0)
  | c :: cs =>
    if shift significand c < wordCount then gatherWhole (shift significand c) cs
    else (significand, (c :: cs).length)

def gatherFraction (significand : Nat) : List Char → Nat × Nat
  | [] => (significand, 0)
  | c :: cs =>
    if shift significand c < wordCount then
      let (all, places) := gatherFraction (shift significand c) cs
      (all, places + 1)
    else (significand, 0)

def ofSignificand (significand : Nat) : Float :=
  (UInt64.ofNat significand).toFloat

def greatestPower : Nat := 308

def powerOfTen (exponent : Nat) : Float :=
  Float.ofScientific 1 false exponent

def scaleUp (significand exponent : Nat) : Option Float :=
  if exponent ≤ greatestPower then
    let product := ofSignificand significand * powerOfTen exponent
    if product.isInf then none else some product
  else if significand = 0 then some 0
  else none

def scaleDown (significand exponent : Nat) : Float :=
  if exponent ≤ greatestPower then ofSignificand significand / powerOfTen exponent
  else if exponent ≤ 2 * greatestPower then
    ofSignificand significand / powerOfTen greatestPower / powerOfTen (exponent - greatestPower)
  else 0

def scale (significand : Nat) : Int → Option Float
  | .ofNat exponent => scaleUp significand exponent
  | .negSucc less => some (scaleDown significand (less + 1))

end Nomen.Decimal
