import Mathlib.Data.List.Induction
import Mathlib.Data.Nat.Digits.Defs
import Nomen.Proofs.Spelling

namespace Nomen

def digitValue (c : Char) : Nat :=
  c.toNat - '0'.toNat

def decimalValue (digits : List Char) : Nat :=
  Nat.ofDigits 10 (digits.reverse.map digitValue)

theorem ofDigitChars_eq_decimalValue (digits : List Char) :
    Nat.ofDigitChars 10 digits 0 = decimalValue digits := by
  -- Folding takes the digits from the first on, and the value is known from the last.
  induction digits using List.reverseRecOn with
  | nil => rfl
  | append_singleton digits c ih =>
    rw [Nat.ofDigitChars_append, Nat.ofDigitChars_cons, Nat.ofDigitChars_nil, ih, decimalValue,
      decimalValue, List.reverse_append, List.reverse_singleton, List.singleton_append, List.map_cons,
      Nat.ofDigits_cons, digitValue, Nat.add_comm]

def word? (value : Int) : Option Int32 :=
  if Int32.minValue.toInt ≤ value ∧ value ≤ Int32.maxValue.toInt then some (Int32.ofInt value)
  else none

/-- Reads digits after a word, from the first to the last. Each of them first makes the word ten times
as great and is then added; there is no result as soon as one of these does not fit. -/
def readWord? : List Char → Int32 → Option Int32
  | [], word => some word
  | c :: cs, word =>
    (word? (word.toInt * 10)).bind fun tens =>
      (word? (tens.toInt + digitValue c)).bind fun next => readWord? cs next

theorem word?_of_le {n : Nat} (h : n ≤ greatestNumber) : word? n = some (Int32.ofNat n) := by
  have hn : n ≤ 2147483647 := h
  rw [word?, Int32.toInt_minValue, Int32.toInt_maxValue, if_pos (by omega), Int32.ofInt_eq_ofNat]

theorem word?_of_lt {n : Nat} (h : greatestNumber < n) : word? n = none := by
  have hn : 2147483647 < n := h
  rw [word?, Int32.toInt_maxValue, if_neg (by omega)]

theorem toInt_ofNat_of_le {n : Nat} (h : n ≤ greatestNumber) : (Int32.ofNat n).toInt = n := by
  have hn : n ≤ 2147483647 := h
  exact Int32.toInt_ofNat_of_lt (by omega)

theorem readWord?_eq (digits : List Char) {n : Nat} (hn : n ≤ greatestNumber) :
    readWord? digits (Int32.ofNat n) =
      if Nat.ofDigitChars 10 digits n ≤ greatestNumber then
        some (Int32.ofNat (Nat.ofDigitChars 10 digits n))
      else none := by
  induction digits generalizing n with
  | nil => rw [readWord?, Nat.ofDigitChars_nil, if_pos hn]
  | cons c cs ih =>
    have htimes : (Int32.ofNat n).toInt * 10 = (10 * n : Nat) := by
      rw [toInt_ofNat_of_le hn]
      omega
    -- What has been read only grows, so a word that does not hold it now will not hold the end.
    have hgrows := le_ofDigitChars cs (10 * n + digitValue c)
    rw [readWord?, htimes, Nat.ofDigitChars_cons, ← digitValue]
    by_cases htens : 10 * n ≤ greatestNumber
    · have hplus : (Int32.ofNat (10 * n)).toInt + digitValue c = (10 * n + digitValue c : Nat) := by
        rw [toInt_ofNat_of_le htens]
        omega
      rw [word?_of_le htens, Option.bind_some, hplus]
      by_cases hnext : 10 * n + digitValue c ≤ greatestNumber
      · rw [word?_of_le hnext, Option.bind_some, ih hnext]
      · rw [word?_of_lt (by omega), Option.bind_none, if_neg (by omega)]
    · rw [word?_of_lt (by omega), Option.bind_none, if_neg (by omega)]

namespace Numbered

structure EndsInRun (name stem digits : String) : Prop where
  name_eq : name = stem ++ digits
  maximal : endsInDigit stem = false
  isDigit : digits.toList.all Char.isDigit
  ne_empty : digits ≠ ""

namespace EndsInRun

variable {name stem digits : String}

theorem toList_eq (h : EndsInRun name stem digits) : digits.toList = endDigits name := by
  rw [h.name_eq, endDigits_append h.maximal h.isDigit]

theorem ofName_eq (h : EndsInRun name stem digits) :
    ofName name =
      if decimalValue digits.toList ≤ greatestNumber then ⟨stem, decimalValue digits.toList⟩
      else ⟨name, 1⟩ := by
  rw [h.name_eq, ofName_append h.maximal h.isDigit, ofDigitChars_eq_decimalValue]
  simp only [h.ne_empty, ne_eq, not_false_eq_true, true_and]

theorem ofName_eq_readWord? (h : EndsInRun name stem digits) :
    ofName name =
      ((readWord? digits.toList 0).map fun word => ⟨stem, word.toNatClampNeg⟩).getD ⟨name, 1⟩ := by
  have hread := @readWord?_eq digits.toList 0 (Nat.zero_le _)
  rw [ofDigitChars_eq_decimalValue] at hread
  rw [h.ofName_eq, show (0 : Int32) = Int32.ofNat 0 from rfl, hread]
  split
  · next hle =>
    have hlt : decimalValue digits.toList < 2 ^ 31 := Nat.lt_succ_of_le hle
    rw [Option.map_some, Option.getD_some, Int32.toNatClampNeg_ofNat_of_lt hlt]
  · rfl

end EndsInRun

theorem ofName_eq_self {name : String}
    (h : ∀ stem digits, EndsInRun name stem digits → greatestNumber < decimalValue digits.toList) :
    ofName name = ⟨name, 1⟩ := by
  obtain ⟨stem, digits, rfl, hs, hd⟩ := exists_digit_split name
  by_cases hne : digits = ""
  · rw [hne, String.append_empty, ofName_of_not_endsInDigit hs]
  · have hrun : EndsInRun (stem ++ digits) stem digits := ⟨rfl, hs, hd, hne⟩
    rw [hrun.ofName_eq, if_neg (Nat.not_le_of_lt (h stem digits hrun))]

theorem names_split_before_their_number (name : String) :
    (∀ stem digits, EndsInRun name stem digits → decimalValue digits.toList ≤ 2147483647 →
      ofName name = ⟨stem, decimalValue digits.toList⟩) ∧
    ((¬ ∃ stem digits, EndsInRun name stem digits ∧ decimalValue digits.toList ≤ 2147483647) →
      ofName name = ⟨name, 1⟩) ∧
    (∀ stem digits, EndsInRun name stem digits → ofName name =
      ((readWord? digits.toList 0).map fun word => ⟨stem, word.toNatClampNeg⟩).getD ⟨name, 1⟩) ∧
    (∀ stem k, endsInDigit stem = false → k ≤ 2147483647 →
      ofName (stem ++ Nat.repr k) = ⟨stem, k⟩) ∧
    (ofName (ofName name).stem).stem = (ofName name).stem := by
  refine ⟨?_, ?_, fun _ _ => EndsInRun.ofName_eq_readWord?, ?_, isStem_stem name⟩
  · intro stem digits hrun hle
    rw [hrun.ofName_eq]
    exact if_pos hle
  · intro hnone
    apply ofName_eq_self
    intro stem digits hrun
    apply Nat.lt_of_not_le
    intro hle
    exact hnone ⟨stem, digits, hrun, hle⟩
  · intro stem k hs hk
    exact ofName_append_repr hs hk

-- The greatest number with zeros before it, the number after it, and zero.
theorem names_split_before_their_number_padded :
    (EndsInRun "V_0002147483647" "V_" "0002147483647" ∧
      decimalValue "0002147483647".toList ≤ 2147483647 ∧
      ofName "V_0002147483647" = ⟨"V_", 2147483647⟩ ∧
      ofName "V_0002147483647" =
        ((readWord? "0002147483647".toList 0).map fun word => ⟨"V_", word.toNatClampNeg⟩).getD
          ⟨"V_0002147483647", 1⟩) ∧
    ((¬ ∃ stem digits, EndsInRun "V_2147483648" stem digits ∧
        decimalValue digits.toList ≤ 2147483647) ∧
      ofName "V_2147483648" = ⟨"V_2147483648", 1⟩) ∧
    endsInDigit "a10b" = false ∧ ofName ("a10b" ++ Nat.repr 0) = ⟨"a10b", 0⟩ := by
  have hrun : EndsInRun "V_0002147483647" "V_" "0002147483647" := by
    constructor <;> decide +kernel
  have hvalue : decimalValue "0002147483647".toList = 2147483647 := by decide +kernel
  have hle : decimalValue "0002147483647".toList ≤ 2147483647 := by rw [hvalue]
  have hnone : ¬ ∃ stem digits, EndsInRun "V_2147483648" stem digits ∧
      decimalValue digits.toList ≤ 2147483647 := by
    rintro ⟨stem, digits, hrun', hle'⟩
    rw [hrun'.toList_eq] at hle'
    exact absurd hle' (by decide +kernel)
  have hstem : endsInDigit "a10b" = false := by decide
  obtain ⟨hfits, -, hread, hspelled, -⟩ := names_split_before_their_number "V_0002147483647"
  obtain ⟨-, hwhole, -, -, -⟩ := names_split_before_their_number "V_2147483648"
  refine ⟨⟨hrun, hle, ?_, hread _ _ hrun⟩, ⟨hnone, hwhole hnone⟩, hstem,
    hspelled "a10b" 0 hstem (by decide)⟩
  rw [hfits _ _ hrun hle, hvalue]

end Numbered

end Nomen
