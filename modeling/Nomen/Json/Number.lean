import Nomen.Decimal.Double
import Nomen.Json.Fault

namespace Nomen.Json

inductive Number where
  | integer (value : Int)
  | float (value : Float)
  | overflow

structure Numeral where
  negative : Bool
  whole : List Char
  fraction : Option (List Char)
  exponent : Option Int

namespace Numeral

def digits (cs : List Char) : Except Fault (List Char × List Char) :=
  match cs.takeWhile Char.isDigit with
  | [] => .error ⟨.number, cs⟩
  | d :: ds => .ok (d :: ds, cs.dropWhile Char.isDigit)

def scanWhole (cs : List Char) : Except Fault (List Char × List Char) :=
  match digits cs with
  | .ok ('0' :: _ :: _, _) => .error ⟨.number, cs.drop 1⟩
  | result => result

def scanFraction : List Char → Except Fault (Option (List Char) × List Char)
  | '.' :: cs =>
    match digits cs with
    | .ok (ds, rest) => .ok (some ds, rest)
    | .error fault => .error fault
  | cs => .ok (none, cs)

def signed (negative : Bool) (n : Nat) : Int :=
  if negative then -n else n

def scanSign : List Char → Bool × List Char
  | '-' :: cs => (true, cs)
  | '+' :: cs => (false, cs)
  | cs => (false, cs)

def scanExponent : List Char → Except Fault (Option Int × List Char)
  | [] => .ok (none, [])
  | c :: cs =>
    if c = 'e' ∨ c = 'E' then
      match digits (scanSign cs).2 with
      | .ok (ds, rest) => .ok (some (signed (scanSign cs).1 (Nat.ofDigitChars 10 ds 0)), rest)
      | .error fault => .error fault
    else .ok (none, c :: cs)

def scanUnsigned (negative : Bool) (cs : List Char) : Except Fault (Numeral × List Char) :=
  match scanWhole cs with
  | .error fault => .error fault
  | .ok (whole, afterWhole) =>
    match scanFraction afterWhole with
    | .error fault => .error fault
    | .ok (fraction, afterFraction) =>
      match scanExponent afterFraction with
      | .error fault => .error fault
      | .ok (exponent, rest) => .ok (⟨negative, whole, fraction, exponent⟩, rest)

def scan : List Char → Except Fault (Numeral × List Char)
  | '-' :: cs => scanUnsigned true cs
  | cs => scanUnsigned false cs

theorem length_digits {cs ds rest : List Char} (h : digits cs = .ok (ds, rest)) :
    rest.length < cs.length := by
  have parts := congrArg List.length (List.takeWhile_append_dropWhile (p := Char.isDigit) (l := cs))
  unfold digits at h
  split at h <;> simp_all
  omega

theorem length_scanWhole {cs ds rest : List Char} (h : scanWhole cs = .ok (ds, rest)) :
    rest.length < cs.length := by
  unfold scanWhole at h
  split at h
  · simp at h
  · exact length_digits h

theorem length_scanFraction {cs rest : List Char} {ds : Option (List Char)}
    (h : scanFraction cs = .ok (ds, rest)) : rest.length ≤ cs.length := by
  unfold scanFraction at h
  split at h
  · split at h
    · next found => simp_all; have := length_digits found; omega
    · simp at h
  · simp_all

theorem length_scanSign (cs : List Char) : (scanSign cs).2.length ≤ cs.length := by
  unfold scanSign
  split <;> simp

theorem length_scanExponent {cs rest : List Char} {e : Option Int}
    (h : scanExponent cs = .ok (e, rest)) : rest.length ≤ cs.length := by
  unfold scanExponent at h
  split at h
  · simp_all
  · next c cs =>
    split at h
    · split at h
      · next found =>
        have := length_digits found
        have := length_scanSign cs
        simp_all
        omega
      · simp at h
    · simp_all

theorem length_scanUnsigned {negative : Bool} {cs rest : List Char} {n : Numeral}
    (h : scanUnsigned negative cs = .ok (n, rest)) : rest.length < cs.length := by
  unfold scanUnsigned at h
  split at h
  · simp at h
  · next found =>
    split at h
    · simp at h
    · next found' =>
      split at h
      · simp at h
      · next found'' =>
        have := length_scanWhole found
        have := length_scanFraction found'
        have := length_scanExponent found''
        simp_all
        omega

theorem length_scan {cs rest : List Char} {n : Numeral} (h : scan cs = .ok (n, rest)) :
    rest.length < cs.length := by
  unfold scan at h
  split at h
  · have := length_scanUnsigned h
    simp
    omega
  · exact length_scanUnsigned h

def ofFloat (negative : Bool) : Option Float → Number
  | none => .overflow
  | some value => .float (if negative then -value else value)

def value (n : Numeral) : Number :=
  let (significand, leftOut) := Decimal.gatherWhole 0 n.whole
  match n.fraction, n.exponent with
  | none, none =>
    if leftOut ≠ 0 then ofFloat n.negative (Decimal.scale significand leftOut)
    else if !n.negative then .integer significand
    else if 0 < significand ∧ significand ≤ Decimal.signWord then .integer (-significand)
    else .float (-Decimal.ofSignificand significand)
  | fraction, exponent =>
    let (significand, places) := Decimal.gatherFraction significand (fraction.getD [])
    ofFloat n.negative (Decimal.scale significand (leftOut - places + exponent.getD 0))

end Numeral

end Nomen.Json
