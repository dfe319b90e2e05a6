/-!
The fewest decimal digits that read back as a given double. A double stands for every real that is
nearer to it than to any other; of the decimals among them the one with the greatest power of ten
is the shortest.
-/

namespace Nomen.Decimal

structure Binary where
  mantissa : Nat
  exponent : Int

def leadingBit : Nat := 0x10000000000000

def Binary.ofBits (bits : UInt64) : Binary :=
  let fraction := bits.toNat % leadingBit
  match bits.toNat / leadingBit % 0x800 with
  | 0 => ⟨fraction, -1074⟩
  | biased + 1 => ⟨leadingBit + fraction, biased - 1074⟩

structure Digits where
  digits : Nat
  exponent : Int

namespace Binary

/-- How far down, in quarters of a last place, the next double is half way. It is nearer below a
power of two. -/
def reachBelow (x : Binary) : Nat :=
  if x.mantissa = leadingBit ∧ -1074 < x.exponent then 1 else 2

def multiple? (x : Binary) (power : Int) : Option Nat :=
  let up := Nat.pow 2 (x.exponent - 2).toNat * Nat.pow 10 (-power).toNat
  let down := Nat.pow 2 (2 - x.exponent).toNat * Nat.pow 10 power.toNat
  let exact := 4 * x.mantissa * up
  let low := (4 * x.mantissa - x.reachBelow) * up
  let high := (4 * x.mantissa + 2) * up
  let readsBack (n : Nat) : Bool :=
    if x.mantissa % 2 = 0 then low ≤ n * down && n * down ≤ high
    else low < n * down && n * down < high
  let floor := exact / down
  let below := exact - floor * down
  let above := (floor + 1) * down - exact
  let nearest := if below < above || below == above && floor % 2 == 0 then floor else floor + 1
  if readsBack nearest then some nearest
  else if readsBack floor then some floor
  else if readsBack (floor + 1) then some (floor + 1)
  else none

def shortest (x : Binary) : Digits :=
  ((List.range 633).findSome? fun step : Nat =>
    (x.multiple? (308 - step)).map fun digits => ⟨digits, 308 - step⟩).getD ⟨0, 0⟩

end Binary

end Nomen.Decimal
