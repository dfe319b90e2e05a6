import Nomen.Json.Writer
import Nomen.Proofs.Spelling

namespace Nomen.Json

def Number.Fits : Number → Prop
  | .integer value => -(Decimal.signWord : Int) ≤ value ∧ value < Decimal.wordCount
  | _ => True

theorem scan_blanks {blanks : List Char} (hb : blanks.all isSpace) (cs : List Char) :
    scan (blanks ++ cs) = scan cs := by
  induction blanks with
  | nil => rfl
  | cons c blanks ih =>
    rw [List.all_cons, Bool.and_eq_true] at hb
    rw [List.cons_append, scan, if_pos hb.1, ih hb.2]

theorem scan_of_scanToken {c : Char} {cs rest : List Char} {token : Token}
    (hc : isSpace c = false) (h : scanToken c cs = .ok (token, rest)) :
    scan (c :: cs) = token :: scan rest := by
  rw [scan, if_neg (by simp [hc])]
  split
  · next found =>
    rw [h] at found
    cases found
    rfl
  · next found =>
    rw [h] at found
    cases found

section Quotes

theorem prepend_ok (piece : Piece) (ps : List Piece) (rest : List Char) :
    prepend piece (.ok (ps, rest)) = .ok (piece :: ps, rest) := rfl

theorem joinPieces_unit {code : Nat} (h : isSurrogate code = false) (ps : List Piece) :
    joinPieces (.unit code :: ps) = (joinPieces ps).map (Char.ofNat code :: ·) := by
  have hhigh : isHighSurrogate code = false := by
    simp [isSurrogate, isHighSurrogate] at h ⊢
    omega
  cases ps with
  | nil => simp [joinPieces, h]
  | cons piece ps =>
    cases piece with
    | char c => simp [joinPieces, h]
    | unit low => simp [joinPieces, h, hhigh]

theorem pieces_end (rest : List Char) : pieces ('"' :: rest) = .ok ([], rest) := by
  rw [pieces.eq_def]
  rfl

theorem pieces_char {c : Char} (hquote : c ≠ '"') (hslash : c ≠ '\\') (hc : ¬ c < ' ')
    (cs : List Char) : pieces (c :: cs) = prepend (.char c) (pieces cs) := by
  rw [pieces.eq_def]
  simp only [hquote, hslash, hc, ↓reduceIte]

theorem pieces_letter {letter c : Char} (h : escaped? letter = some c) (cs : List Char) :
    pieces ('\\' :: letter :: cs) = prepend (.char c) (pieces cs) := by
  have hu : letter ≠ 'u' := by
    rintro rfl
    cases h
  rw [pieces.eq_def]
  simp only [Char.reduceEq, ↓reduceIte]
  split
  · next he => exact absurd (List.cons.inj he).1 hu
  · next he =>
    obtain ⟨rfl, rfl⟩ := List.cons.inj he
    rw [h]
  · next he => cases he

theorem pieces_code {a b d e : Char} {code : Nat} (h : hexCode? a b d e = some code)
    (cs : List Char) :
    pieces ('\\' :: 'u' :: a :: b :: d :: e :: cs) = prepend (.unit code) (pieces cs) := by
  rw [pieces]
  simp only [Char.reduceEq, ↓reduceIte, h]

theorem hexCode?_control :
    ∀ n < 32, hexCode? '0' '0' (hexDigit (n / 16)) (hexDigit n) = some n := by decide

theorem isSurrogate_of_control {code : Nat} (h : code < 32) : isSurrogate code = false := by
  simp [isSurrogate]
  omega

theorem pieces_escape (c : Char) (cs : List Char) :
    ∃ piece, pieces (escape c ++ cs) = prepend piece (pieces cs) ∧
      ∀ ps, joinPieces (piece :: ps) = (joinPieces ps).map (c :: ·) := by
  rw [escape]
  split
  · next h => subst h; exact ⟨_, pieces_letter rfl cs, fun _ => rfl⟩
  next hquote =>
  split
  · next h => subst h; exact ⟨_, pieces_letter rfl cs, fun _ => rfl⟩
  next hslash =>
  iterate 5
    split
    · next h => subst h; exact ⟨_, pieces_letter rfl cs, fun _ => rfl⟩
  split
  · next h =>
    have hlt : c.toNat < 32 := h
    refine ⟨.unit c.toNat, pieces_code (hexCode?_control c.toNat hlt) cs, ?_⟩
    intro ps
    rw [joinPieces_unit (isSurrogate_of_control hlt), Char.ofNat_toNat]
  · next h => exact ⟨.char c, pieces_char hquote hslash h cs, fun _ => rfl⟩

theorem pieces_quoted (text : List Char) (rest : List Char) :
    ∃ ps, pieces (text.flatMap escape ++ '"' :: rest) = .ok (ps, rest) ∧
      joinPieces ps = some text := by
  induction text with
  | nil => exact ⟨[], pieces_end rest, rfl⟩
  | cons c text ih =>
    obtain ⟨ps, hps, hjoin⟩ := ih
    obtain ⟨piece, hpiece, hc⟩ := pieces_escape c (text.flatMap escape ++ '"' :: rest)
    refine ⟨piece :: ps, ?_, ?_⟩
    · rw [List.flatMap_cons, List.append_assoc, hpiece, hps, prepend_ok]
    · rw [hc, hjoin, Option.map_some]

theorem scan_quote (text : String) (rest : List Char) :
    scan (quote text ++ rest) = .string (some text) :: scan rest := by
  obtain ⟨ps, hps, hjoin⟩ := pieces_quoted text.toList rest
  have happend : quote text ++ rest = '"' :: (text.toList.flatMap escape ++ '"' :: rest) := by
    simp [quote]
  rw [happend]
  apply scan_of_scanToken (by decide)
  simp [scanToken, punctuation?, scanQuoted, hps, hjoin, Except.map]

end Quotes

section Numbers

def NumberEnds (rest : List Char) : Prop :=
  ∀ c ∈ rest.head?, c.isDigit = false ∧ c ≠ '.' ∧ c ≠ 'e' ∧ c ≠ 'E'

def DigitsEnd (rest : List Char) : Prop :=
  ∀ c ∈ rest.head?, c.isDigit = false

theorem NumberEnds.digitsEnd {rest : List Char} (hr : NumberEnds rest) : DigitsEnd rest :=
  fun c hc => (hr c hc).1

theorem digitChar_ne_zero : ∀ n < 10, 0 < n → Nat.digitChar n ≠ '0' := by decide

theorem head?_toDigits_ne_zero {n : Nat} (hn : 0 < n) : (Nat.toDigits 10 n).head? ≠ some '0' := by
  induction n using Nat.strongRecOn with
  | ind n ih =>
    by_cases hlt : n < 10
    · rw [Nat.toDigits_of_lt_base hlt]
      simpa using digitChar_ne_zero n hlt hn
    · have hfront := ih (n / 10) (by omega) (by omega)
      rw [Nat.toDigits_of_base_le (by decide) (by omega), List.head?_append]
      cases hd : (Nat.toDigits 10 (n / 10)).head? with
      | none => exact absurd (List.head?_eq_none_iff.mp hd) Nat.toDigits_ne_nil
      | some d => rwa [hd] at hfront

theorem toDigits_isDigit {n : Nat} : ∀ c ∈ Nat.toDigits 10 n, c.isDigit = true :=
  fun _ hc => Nat.isDigit_of_mem_toDigits (by decide) (by decide) hc

namespace Numeral

theorem digits_append {ds rest : List Char} (hne : ds ≠ []) (hd : ∀ c ∈ ds, c.isDigit = true)
    (hr : DigitsEnd rest) : digits (ds ++ rest) = .ok (ds, rest) := by
  have htake : rest.takeWhile Char.isDigit = [] := by
    cases rest with
    | nil => rfl
    | cons c cs => simp [hr c rfl]
  have hdrop : rest.dropWhile Char.isDigit = rest := by
    cases rest with
    | nil => rfl
    | cons c cs => simp [hr c rfl]
  rw [digits, List.takeWhile_append_of_pos hd, List.dropWhile_append_of_pos hd, htake, hdrop,
    List.append_nil]
  cases ds with
  | nil => exact absurd rfl hne
  | cons d ds => rfl

theorem scanWhole_toDigits (n : Nat) {rest : List Char} (hr : NumberEnds rest) :
    scanWhole (Nat.toDigits 10 n ++ rest) = .ok (Nat.toDigits 10 n, rest) := by
  have hdigits := digits_append Nat.toDigits_ne_nil (@toDigits_isDigit n) hr.digitsEnd
  rw [scanWhole, hdigits]
  split
  · next d ds _ he =>
    obtain ⟨hds, -⟩ := Prod.mk.inj (Except.ok.inj he)
    by_cases hn : n = 0
    · subst hn
      cases hds
    · exact absurd (by rw [hds]; rfl) (head?_toDigits_ne_zero (Nat.pos_of_ne_zero hn))
  · rfl

theorem scanFraction_none {rest : List Char} (hr : ∀ c ∈ rest.head?, c ≠ '.') :
    scanFraction rest = .ok (none, rest) := by
  rw [scanFraction]
  rintro cs rfl
  exact hr '.' rfl rfl

theorem scanExponent_none {rest : List Char} (hr : ∀ c ∈ rest.head?, c ≠ 'e' ∧ c ≠ 'E') :
    scanExponent rest = .ok (none, rest) := by
  cases rest with
  | nil => rfl
  | cons c cs => simp [scanExponent, hr c rfl]

theorem scanUnsigned_toDigits (negative : Bool) (n : Nat) {rest : List Char} (hr : NumberEnds rest) :
    scanUnsigned negative (Nat.toDigits 10 n ++ rest) =
      .ok (⟨negative, Nat.toDigits 10 n, none, none⟩, rest) := by
  have hfraction := scanFraction_none fun c hc => (hr c hc).2.1
  have hexponent := scanExponent_none fun c hc => (hr c hc).2.2
  simp only [scanUnsigned, scanWhole_toDigits n hr, hfraction, hexponent]

theorem gatherWhole_eq {cs : List Char} {significand : Nat}
    (h : Nat.ofDigitChars 10 cs significand < Decimal.wordCount) :
    Decimal.gatherWhole significand cs = (Nat.ofDigitChars 10 cs significand, 0) := by
  induction cs generalizing significand with
  | nil => rfl
  | cons c cs ih =>
    rw [Nat.ofDigitChars_cons] at h ⊢
    have hle : Decimal.shift significand c ≤
        Nat.ofDigitChars 10 cs (Decimal.shift significand c) := by
      rw [Nat.ofDigitChars_eq_ofDigitChars_zero]
      have := Nat.le_mul_of_pos_left (Decimal.shift significand c)
        (Nat.pow_pos (n := cs.length) (by decide : 0 < 10))
      omega
    rw [Decimal.gatherWhole, if_pos (Nat.lt_of_le_of_lt hle h)]
    exact ih h

theorem gatherWhole_toDigits {n : Nat} (hn : n < Decimal.wordCount) :
    Decimal.gatherWhole 0 (Nat.toDigits 10 n) = (n, 0) := by
  rw [gatherWhole_eq (by rwa [Nat.ofDigitChars_ten_toDigits]), Nat.ofDigitChars_ten_toDigits]

theorem value_positive {n : Nat} (hn : n < Decimal.wordCount) :
    value ⟨false, Nat.toDigits 10 n, none, none⟩ = .integer n := by
  simp only [value, gatherWhole_toDigits hn]
  rfl

theorem value_negative {n : Nat} (h0 : 0 < n) (hn : n ≤ Decimal.signWord) :
    value ⟨true, Nat.toDigits 10 n, none, none⟩ = .integer (-n) := by
  have hword : n < Decimal.wordCount := Nat.lt_of_le_of_lt hn (by decide)
  simp only [value, gatherWhole_toDigits hword]
  simp [h0, hn]

end Numeral

theorem scanToken_number {c : Char} (hc : c = '-' ∨ c.isDigit = true) {cs rest : List Char}
    {numeral : Numeral} (h : Numeral.scan (c :: cs) = .ok (numeral, rest)) :
    scanToken c cs = .ok (.number numeral.value, rest) := by
  have hne (d : Char) (hd : d.isDigit = false ∧ d ≠ '-') : c ≠ d := by
    rintro rfl
    rcases hc with rfl | hc
    · exact hd.2 rfl
    · exact absurd (hc.symm.trans hd.1) (by decide)
  have hpunctuation : punctuation? c = none := by
    simp [punctuation?, hne '\x7b' (by decide), hne '\x7d' (by decide), hne '[' (by decide),
      hne ']' (by decide), hne ':' (by decide), hne ',' (by decide)]
  simp only [scanToken, hpunctuation, hne '"' (by decide), hc, ↓reduceIte, h, Except.map]

theorem isSpace_of_isDigit {c : Char} (hc : c.isDigit = true) : isSpace c = false := by
  have hne (d : Char) (hd : d.isDigit = false) : (c == d) = false := by
    apply beq_false_of_ne
    rintro rfl
    exact absurd (hc.symm.trans hd) (by decide)
  simp [isSpace, hne ' ' (by decide), hne '\t' (by decide), hne '\n' (by decide),
    hne '\r' (by decide)]

theorem scan_writeInteger {value : Int} (hv : (Number.integer value).Fits) {rest : List Char}
    (hr : NumberEnds rest) :
    scan (writeInteger value ++ rest) = .number (.integer value) :: scan rest := by
  obtain ⟨hlow, hhigh⟩ := hv
  rw [writeInteger]
  split
  · next hneg =>
    have hvalue := Numeral.value_negative (n := value.natAbs) (by omega) (by omega)
    have hcast : -(value.natAbs : Int) = value := by omega
    have hscan := Numeral.scanUnsigned_toDigits true value.natAbs hr
    rw [List.cons_append, scan_of_scanToken (by decide) (scanToken_number (Or.inl rfl) hscan), hvalue,
      hcast]
  · next hpos =>
    have hvalue := Numeral.value_positive (n := value.natAbs) (by omega)
    have hcast : (value.natAbs : Int) = value := by omega
    have hscan := Numeral.scanUnsigned_toDigits false value.natAbs hr
    have hdigits := @toDigits_isDigit value.natAbs
    cases hd : Nat.toDigits 10 value.natAbs with
    | nil => exact absurd hd Nat.toDigits_ne_nil
    | cons d ds =>
      rw [hd] at hvalue hscan hdigits
      have hdigit := hdigits d List.mem_cons_self
      have hunsigned : Numeral.scan (d :: (ds ++ rest)) = Numeral.scanUnsigned false (d :: (ds ++ rest)) := by
        rw [Numeral.scan]
        rintro cs he
        rw [(List.cons.inj he).1] at hdigit
        exact absurd hdigit (by decide)
      rw [List.cons_append, scan_of_scanToken (isSpace_of_isDigit hdigit)
        (scanToken_number (Or.inr hdigit) (hunsigned.trans hscan)), hvalue, hcast]

end Numbers

section Trees

variable {place : Place}

/-- What can be read again after it was written: there is no fault in it and no double. -/
def Tree.Writable {place : Place} : Tree place → Prop
  | number (.integer value) => (Number.integer value).Fits
  | number _ => False
  | string text => text.isSome
  | array items => items.Writable
  | object members => members.Writable
  | item head tail => head.Writable ∧ tail.Writable
  | member key value tail => key.isSome ∧ value.Writable ∧ tail.Writable
  | broken _ => False
  | null | bool _ | noItems | noMembers => True

def Tree.tokens {place : Place} : Tree place → List Token
  | null => [.null]
  | bool value => [.bool value]
  | number value => [.number value]
  | string text => [.string text]
  | array items => .openBracket :: items.tokens ++ [.closeBracket]
  | object members => .openBrace :: members.tokens ++ [.closeBrace]
  | item head noItems => head.tokens
  | item head tail => head.tokens ++ .comma :: tail.tokens
  | member key value noMembers => .string key :: .colon :: value.tokens
  | member key value tail => .string key :: .colon :: value.tokens ++ .comma :: tail.tokens
  | noItems | noMembers | broken _ => []

structure Style.Blank (style : Style) : Prop where
  lead : ∀ depth, (style.lead depth).all isSpace
  afterColon : style.afterColon.all isSpace

theorem Style.pretty_blank : Style.pretty.Blank where
  lead depth := by simp [pretty, isSpace]
  afterColon := by decide

theorem numberEnds_nil : NumberEnds [] := by
  intro c hc
  cases hc

theorem numberEnds_cons {c : Char} (hc : c.isDigit = false ∧ c ≠ '.' ∧ c ≠ 'e' ∧ c ≠ 'E')
    (cs : List Char) : NumberEnds (c :: cs) := by
  intro d hd
  cases hd
  exact hc

theorem numberEnds_blank_append {blanks rest : List Char} (hb : blanks.all isSpace)
    (hr : NumberEnds rest) : NumberEnds (blanks ++ rest) := by
  cases blanks with
  | nil => exact hr
  | cons c blanks =>
    have hc : isSpace c = true := by simp_all
    simp only [isSpace, Bool.or_eq_true, beq_iff_eq] at hc
    apply numberEnds_cons
    rcases hc with ((rfl | rfl) | rfl) | rfl <;> decide

theorem scan_punctuation {c : Char} {token : Token} (h : punctuation? c = some token)
    (hc : isSpace c = false) (cs : List Char) : scan (c :: cs) = token :: scan cs := by
  apply scan_of_scanToken hc
  rw [scanToken, h]

theorem scan_word {c : Char} {cs rest : List Char} {token : Token} (hspace : isSpace c = false)
    (hc : punctuation? c = none ∧ c ≠ '"' ∧ c ≠ '-' ∧ c.isDigit = false)
    (h : scanWord (c :: cs) = .ok (token, rest)) : scan (c :: cs) = token :: scan rest := by
  apply scan_of_scanToken hspace
  simp [scanToken, hc, h]

theorem Tree.scan_write {style : Style} (hs : style.Blank) {tree : Tree place} (ht : tree.Writable)
    (depth : Nat) {rest : List Char} (hr : NumberEnds rest) :
    scan (tree.write style depth ++ rest) = tree.tokens ++ scan rest := by
  have hclose (c : Char) (hc : c.isDigit = false ∧ c ≠ '.' ∧ c ≠ 'e' ∧ c ≠ 'E') (depth : Nat)
      (cs : List Char) : NumberEnds (style.lead depth ++ c :: cs) :=
    numberEnds_blank_append (hs.lead depth) (numberEnds_cons hc cs)
  induction tree generalizing depth rest with
  | null => exact scan_word (by decide) (by decide) rfl
  | bool value =>
    cases value with
    | true => exact scan_word (by decide) (by decide) rfl
    | false => exact scan_word (by decide) (by decide) rfl
  | number value =>
    cases value with
    | integer value => exact scan_writeInteger ht hr
    | float value => exact absurd ht not_false
    | overflow => exact absurd ht not_false
  | string text =>
    cases text with
    | some text => exact scan_quote text rest
    | none => exact absurd ht (by simp [Writable])
  | array items ih =>
    by_cases hempty : items = .noItems
    · subst hempty
      simp [write, tokens, scan_punctuation (c := '[') rfl, scan_punctuation (c := ']') rfl, isSpace]
    · have hitems := ih ht (depth + 1) (hclose ']' (by decide) depth rest)
      simp [write, tokens, scan_punctuation (c := '[') rfl, isSpace, hitems,
        scan_blanks (hs.lead depth), scan_punctuation (c := ']') rfl]
  | object members ih =>
    by_cases hempty : members = .noMembers
    · subst hempty
      simp [write, tokens, scan_punctuation (c := '\x7b') rfl, scan_punctuation (c := '\x7d') rfl,
        isSpace]
    · have hmembers := ih ht (depth + 1) (hclose '\x7d' (by decide) depth rest)
      simp [write, tokens, scan_punctuation (c := '\x7b') rfl, isSpace, hmembers,
        scan_blanks (hs.lead depth), scan_punctuation (c := '\x7d') rfl]
  | noItems => rfl
  | item head tail ihead itail =>
    by_cases hlast : tail = .noItems
    · subst hlast
      have hhead := ihead ht.1 depth hr
      simp [write, tokens, scan_blanks (hs.lead depth), hhead]
    · have hhead := ihead ht.1 depth
        (numberEnds_cons (c := ',') (by decide) (tail.write style depth ++ rest))
      have htail := itail ht.2 depth hr
      simp [write, tokens, scan_blanks (hs.lead depth), hhead,
        scan_punctuation (c := ',') rfl, isSpace, htail]
  | noMembers => rfl
  | member key value tail ivalue itail =>
    obtain ⟨hkey, hvalue, htail⟩ := ht
    obtain ⟨name, rfl⟩ := Option.isSome_iff_exists.mp hkey
    by_cases hlast : tail = .noMembers
    · subst hlast
      have hv := ivalue hvalue depth hr
      simp [write, tokens, scan_blanks (hs.lead depth), scan_quote, scan_punctuation (c := ':') rfl,
        isSpace, scan_blanks hs.afterColon, hv]
    · have hv := ivalue hvalue depth
        (numberEnds_cons (c := ',') (by decide) (tail.write style depth ++ rest))
      have ht := itail htail depth hr
      simp [write, tokens, scan_blanks (hs.lead depth), scan_quote, scan_punctuation (c := ':') rfl,
        isSpace, scan_blanks hs.afterColon, hv, scan_punctuation (c := ',') rfl, ht]
  | broken fault => exact absurd ht not_false

end Trees

end Nomen.Json
