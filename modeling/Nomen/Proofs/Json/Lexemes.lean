import Nomen.Proofs.Json.Scanning

namespace Nomen.Json

variable {α : Type}

/-- The scanner takes this before every text that fits `after`. The parts of a number follow each
other: with such a text behind it, the lexeme fits `before`. -/
def Lexeme (scanner : List Char → Except Fault (α × List Char)) (before after : List Char → Prop)
    (a : α) (lexeme : List Char) : Prop :=
  ∀ other, after other →
    before (lexeme ++ other) ∧ scanner (lexeme ++ other) = .ok (a, other)

def Cuts (scanner : List Char → Except Fault (α × List Char)) (before after : List Char → Prop) :
    Prop :=
  ∀ ⦃cs : List Char⦄ ⦃a : α⦄ ⦃rest : List Char⦄, scanner cs = .ok (a, rest) →
    ∃ lexeme, Lexeme scanner before after a lexeme ∧ lexeme ++ rest = cs

def Anything (_ : List Char) : Prop := True

section Quotes

theorem exists_lexeme_prepend {lead cs rest : List Char} {piece : Piece} {ps : List Piece}
    (hlead : ∀ cs, pieces (lead ++ cs) = prepend piece (pieces cs))
    (ih : ∀ ⦃qs⦄, pieces cs = .ok (qs, rest) →
      ∃ lexeme, Lexeme pieces Anything Anything qs lexeme ∧ lexeme ++ rest = cs)
    (h : prepend piece (pieces cs) = .ok (ps, rest)) :
    ∃ lexeme, Lexeme pieces Anything Anything ps lexeme ∧ lexeme ++ rest = lead ++ cs := by
  obtain ⟨qs, hqs⟩ := prepend_eq_ok h
  obtain ⟨lexeme, hlexeme, rfl⟩ := ih hqs
  rw [hqs, prepend_ok] at h
  cases h
  refine ⟨lead ++ lexeme, fun other ho => ⟨trivial, ?_⟩, List.append_assoc lead lexeme rest⟩
  rw [List.append_assoc, hlead, (hlexeme other ho).2, prepend_ok]

theorem pieces_cuts : Cuts pieces Anything Anything := by
  intro cs ps rest h
  fun_induction pieces cs generalizing ps with
  | case1 | case4 | case6 | case7 | case8 => cases h
  | case2 cs =>
    cases h
    exact ⟨['"'], fun other _ => ⟨trivial, pieces_end other⟩, rfl⟩
  | case3 a b d e cs code hcode hquote ih =>
    have hlead : ∀ cs, pieces (['\\', 'u', a, b, d, e] ++ cs) = prepend (.unit code) (pieces cs) :=
      pieces_code hcode
    exact exists_lexeme_prepend hlead ih h
  | case5 letter cs hnot c hletter hquote ih =>
    have hlead : ∀ cs, pieces (['\\', letter] ++ cs) = prepend (.char c) (pieces cs) :=
      pieces_letter hletter
    exact exists_lexeme_prepend hlead ih h
  | case9 c cs hquote hslash hcontrol ih =>
    have hlead : ∀ cs, pieces ([c] ++ cs) = prepend (.char c) (pieces cs) :=
      pieces_char hquote hslash hcontrol
    exact exists_lexeme_prepend hlead ih h

theorem Lexeme.map {scanner : List Char → Except Fault (α × List Char)} {β : Type}
    {before after : List Char → Prop} {a : α} {lexeme : List Char}
    (h : Lexeme scanner before after a lexeme) (f : α → β) :
    Lexeme (fun cs => (scanner cs).map fun found => (f found.1, found.2)) before after (f a)
      lexeme := by
  intro other ho
  obtain ⟨hbefore, hscan⟩ := h other ho
  exact ⟨hbefore, by simp only [hscan, Except.map]⟩

theorem Cuts.map {scanner : List Char → Except Fault (α × List Char)} {β : Type}
    {before after : List Char → Prop} (h : Cuts scanner before after) (f : α → β) :
    Cuts (fun cs => (scanner cs).map fun found => (f found.1, found.2)) before after := by
  intro cs b rest hfound
  cases hscan : scanner cs with
  | error fault => simp [hscan, Except.map] at hfound
  | ok found =>
    simp only [hscan, Except.map, Except.ok.injEq, Prod.mk.injEq] at hfound
    obtain ⟨rfl, rfl⟩ := hfound
    obtain ⟨lexeme, hlexeme, hcs⟩ := h hscan
    exact ⟨lexeme, hlexeme.map f, hcs⟩

theorem scanQuoted_cuts : Cuts scanQuoted Anything Anything :=
  pieces_cuts.map fun ps => (joinPieces ps).map String.ofList

end Quotes

section Numbers

def FractionEnds (rest : List Char) : Prop :=
  ∀ c ∈ rest.head?, c.isDigit = false ∧ c ≠ '.'

namespace Numeral

theorem digits_eq_ok {cs ds rest : List Char} (h : digits cs = .ok (ds, rest)) :
    ds ≠ [] ∧ (∀ c ∈ ds, c.isDigit = true) ∧ ds ++ rest = cs := by
  have hparts := List.takeWhile_append_dropWhile (p := Char.isDigit) (l := cs)
  have hdigits := List.all_takeWhile (p := Char.isDigit) (l := cs)
  unfold digits at h
  split at h
  · cases h
  · next d ds hd =>
    cases h
    rw [hd] at hparts hdigits
    exact ⟨List.cons_ne_nil d ds, List.all_eq_true.mp hdigits, hparts⟩

theorem digits_cuts : Cuts digits Anything DigitsEnd := by
  intro cs ds rest h
  obtain ⟨hne, hd, hcs⟩ := digits_eq_ok h
  exact ⟨ds, fun other ho => ⟨trivial, digits_append hne hd ho⟩, hcs⟩

theorem scanWhole_cuts : Cuts scanWhole Anything DigitsEnd := by
  intro cs ds rest h
  unfold scanWhole at h
  split at h
  · cases h
  · next hzero =>
    obtain ⟨lexeme, hlexeme, hcs⟩ := digits_cuts h
    refine ⟨lexeme, fun other ho => ⟨trivial, ?_⟩, hcs⟩
    rw [scanWhole, (hlexeme other ho).2]
    split
    · next d ds' other' heq =>
      cases heq
      exact absurd h (hzero _ _ _)
    · rfl

theorem scanFraction_cuts : Cuts scanFraction DigitsEnd FractionEnds := by
  intro cs fraction rest h
  unfold scanFraction at h
  split at h
  · next cs =>
    split at h
    · next ds rest hdigits =>
      cases h
      obtain ⟨lexeme, hlexeme, rfl⟩ := digits_cuts hdigits
      refine ⟨'.' :: lexeme, fun other ho => ⟨?_, ?_⟩, rfl⟩
      · rintro c ⟨⟩
        decide
      · simp only [List.cons_append, scanFraction,
          (hlexeme other fun c hc => (ho c hc).1).2]
    · cases h
  · cases h
    exact ⟨[], fun other ho => ⟨fun c hc => (ho c hc).1,
      scanFraction_none fun c hc => (ho c hc).2⟩, rfl⟩

theorem scanSign_digits {ds : List Char} (hne : ds ≠ []) (hd : ∀ c ∈ ds, c.isDigit = true)
    (rest : List Char) : scanSign (ds ++ rest) = (false, ds ++ rest) := by
  cases ds with
  | nil => exact absurd rfl hne
  | cons d ds =>
    have hdigit := hd d List.mem_cons_self
    unfold scanSign
    split
    · next heq =>
      rw [(List.cons.inj heq).1] at hdigit
      exact absurd hdigit (by decide)
    · next heq =>
      rw [(List.cons.inj heq).1] at hdigit
      exact absurd hdigit (by decide)
    · rfl

theorem exists_scanSign (cs : List Char) :
    ∃ sign, sign ++ (scanSign cs).2 = cs ∧ ∀ {ds : List Char}, ds ≠ [] →
      (∀ c ∈ ds, c.isDigit = true) → ∀ rest,
        scanSign (sign ++ (ds ++ rest)) = ((scanSign cs).1, ds ++ rest) := by
  fun_cases scanSign cs with
  | case1 cs => exact ⟨['-'], rfl, fun _ _ _ => rfl⟩
  | case2 cs => exact ⟨['+'], rfl, fun _ _ _ => rfl⟩
  | case3 => exact ⟨[], rfl, scanSign_digits⟩

theorem scanExponent_cuts : Cuts scanExponent FractionEnds NumberEnds := by
  intro cs exponent rest h
  have hnone : Lexeme scanExponent FractionEnds NumberEnds none [] := by
    intro other ho
    exact ⟨fun c hc => ⟨(ho c hc).1, (ho c hc).2.1⟩, scanExponent_none fun c hc => (ho c hc).2.2⟩
  unfold scanExponent at h
  split at h
  · cases h
    exact ⟨[], hnone, rfl⟩
  · next c cs =>
    split at h
    · next hc =>
      split at h
      · next ds rest hdigits =>
        cases h
        obtain ⟨hne, hd, hrest⟩ := digits_eq_ok hdigits
        obtain ⟨sign, hcs, hsign⟩ := exists_scanSign cs
        refine ⟨c :: (sign ++ ds), fun other ho => ⟨?_, ?_⟩, ?_⟩
        · rintro d ⟨⟩
          rcases hc with rfl | rfl <;> decide
        · simp only [List.cons_append, List.append_assoc, scanExponent, if_pos hc,
            hsign hne hd other, digits_append hne hd ho.digitsEnd]
        · simp [hrest, hcs]
      · cases h
    · cases h
      exact ⟨[], hnone, rfl⟩

theorem scanUnsigned_cuts (negative : Bool) :
    Cuts (scanUnsigned negative) Anything NumberEnds := by
  intro cs numeral rest h
  unfold scanUnsigned at h
  split at h
  · cases h
  next whole afterWhole hwhole =>
  split at h
  · cases h
  next fraction afterFraction hfraction =>
  split at h
  · cases h
  next exponent rest hexponent =>
  cases h
  obtain ⟨w, hw, rfl⟩ := scanWhole_cuts hwhole
  obtain ⟨f, hf, rfl⟩ := scanFraction_cuts hfraction
  obtain ⟨e, he, rfl⟩ := scanExponent_cuts hexponent
  refine ⟨w ++ (f ++ e), fun other ho => ⟨trivial, ?_⟩, by simp⟩
  obtain ⟨hbeforeExponent, hexponent⟩ := he other ho
  obtain ⟨hbeforeFraction, hfraction⟩ := hf _ hbeforeExponent
  obtain ⟨-, hwhole⟩ := hw _ hbeforeFraction
  simp only [List.append_assoc, scanUnsigned, hwhole, hfraction, hexponent]

theorem scan_cuts : Cuts scan Anything NumberEnds := by
  intro cs numeral rest h
  unfold scan at h
  split at h
  · obtain ⟨lexeme, hlexeme, rfl⟩ := scanUnsigned_cuts true h
    exact ⟨'-' :: lexeme, hlexeme, rfl⟩
  · next hminus =>
    have hpos := length_scanUnsigned h
    obtain ⟨lexeme, hlexeme, rfl⟩ := scanUnsigned_cuts false h
    refine ⟨lexeme, fun other ho => ⟨trivial, ?_⟩, rfl⟩
    cases lexeme with
    | nil => simp at hpos
    | cons c lexeme =>
      rw [← (hlexeme other ho).2, scan]
      rintro cs heq
      exact hminus (lexeme ++ rest) (by rw [List.cons_append, (List.cons.inj heq).1])

end Numeral

end Numbers

section Tokens

theorem scanWord_cuts : Cuts scanWord Anything Anything := by
  intro cs token rest h
  unfold scanWord at h
  split at h
  · cases h
    exact ⟨['n', 'u', 'l', 'l'], fun _ _ => ⟨trivial, rfl⟩, rfl⟩
  · cases h
    exact ⟨['t', 'r', 'u', 'e'], fun _ _ => ⟨trivial, rfl⟩, rfl⟩
  · cases h
    exact ⟨['f', 'a', 'l', 's', 'e'], fun _ _ => ⟨trivial, rfl⟩, rfl⟩
  · cases h
  · cases h

theorem Cuts.first {scanner : List Char → Except Fault (α × List Char)}
    {before after : List Char → Prop} (hcuts : Cuts scanner before after) {c : Char}
    {cs rest : List Char} {a : α} (hlength : rest.length < (c :: cs).length)
    (h : scanner (c :: cs) = .ok (a, rest)) :
    ∃ lexeme, Lexeme scanner before after a (c :: lexeme) ∧ lexeme ++ rest = cs := by
  obtain ⟨lexeme, hlexeme, hcs⟩ := hcuts h
  cases lexeme with
  | nil =>
    rw [List.nil_append] at hcs
    rw [hcs] at hlength
    exact absurd hlength (Nat.lt_irrefl _)
  | cons d lexeme =>
    obtain ⟨rfl, htail⟩ := List.cons.inj hcs
    exact ⟨lexeme, hlexeme, htail⟩

theorem scanToken_cuts (c : Char) : Cuts (scanToken c) Anything NumberEnds := by
  intro cs token rest h
  unfold scanToken at h
  split at h
  · next hc =>
    cases h
    exact ⟨[], fun other _ => ⟨trivial, by rw [scanToken, hc, List.nil_append]⟩, rfl⟩
  next hc =>
  split at h
  · next hquote =>
    obtain ⟨lexeme, hlexeme, hcs⟩ := scanQuoted_cuts.map Token.string h
    refine ⟨lexeme, fun other _ => ⟨trivial, ?_⟩, hcs⟩
    simp only [scanToken, hc, if_pos hquote]
    exact (hlexeme other trivial).2
  next hquote =>
  split at h
  · next hdigit =>
    have hcuts := Numeral.scan_cuts.map fun numeral => Token.number numeral.value
    have hlength : rest.length < (c :: cs).length := by
      cases hscan : Numeral.scan (c :: cs) with
      | error fault => simp [hscan, Except.map] at h
      | ok found =>
        simp only [hscan, Except.map, Except.ok.injEq, Prod.mk.injEq] at h
        exact h.2 ▸ Numeral.length_scan hscan
    obtain ⟨lexeme, hlexeme, hcs⟩ := hcuts.first hlength h
    refine ⟨lexeme, fun other ho => ⟨trivial, ?_⟩, hcs⟩
    simp only [scanToken, hc, if_neg hquote, if_pos hdigit]
    exact (hlexeme other ho).2
  · next hdigit =>
    obtain ⟨lexeme, hlexeme, hcs⟩ := scanWord_cuts.first (length_scanWord h) h
    refine ⟨lexeme, fun other _ => ⟨trivial, ?_⟩, hcs⟩
    simp only [scanToken, hc, if_neg hquote, if_neg hdigit]
    exact (hlexeme other trivial).2

theorem scan_eq_cons {cs : List Char} {token : Token} {tokens : List Token}
    (h : scan cs = token :: tokens) (hfault : ∀ fault, token ≠ .fault fault) :
    ∃ lexeme rest, lexeme ++ rest = cs ∧ scan rest = tokens ∧
      ∀ other, NumberEnds other → scan (lexeme ++ other) = token :: scan other := by
  fun_induction scan cs with
  | case1 => cases h
  | case2 c cs hspace ih =>
    obtain ⟨lexeme, rest, rfl, hrest, hlexeme⟩ := ih h
    refine ⟨c :: lexeme, rest, rfl, hrest, fun other ho => ?_⟩
    rw [List.cons_append, scan, if_pos hspace, hlexeme other ho]
  | case3 c cs hspace found rest hfound ih =>
    cases h
    obtain ⟨lexeme, hlexeme, rfl⟩ := scanToken_cuts c hfound
    refine ⟨c :: lexeme, rest, rfl, rfl, fun other ho => ?_⟩
    exact scan_of_scanToken (Bool.eq_false_iff.mpr hspace) (hlexeme other ho).2
  | case4 c cs hspace fault hfound =>
    cases h
    exact absurd rfl (hfault fault)

theorem all_isSpace_of_scan {cs : List Char} (h : scan cs = []) : cs.all isSpace = true := by
  fun_induction scan cs with
  | case1 => rfl
  | case2 c cs hspace ih => simp [hspace, ih h]
  | case3 => cases h
  | case4 => cases h

def Token.mark? : Token → Option Char
  | openBrace => some '\x7b'
  | closeBrace => some '\x7d'
  | openBracket => some '['
  | closeBracket => some ']'
  | colon => some ':'
  | comma => some ','
  | null | bool _ | number _ | string _ | fault _ => none

theorem punctuation?_mark {token : Token} {c : Char} (h : token.mark? = some c) :
    punctuation? c = some token := by
  cases token <;> cases h <;> rfl

theorem mark?_of_punctuation? {token : Token} {c : Char} (h : punctuation? c = some token) :
    token.mark? = some c := by
  unfold punctuation? at h
  repeat (split at h; · next hc => cases h; rw [hc]; rfl)
  cases h

theorem scanToken_mark {c mark : Char} {cs rest : List Char} {token : Token}
    (h : scanToken c cs = .ok (token, rest)) (hmark : token.mark? = some mark) :
    c = mark ∧ rest = cs := by
  unfold scanToken at h
  split at h
  · next hc =>
    cases h
    rw [mark?_of_punctuation? hc] at hmark
    exact ⟨Option.some.inj hmark, rfl⟩
  · split at h
    · cases hq : scanQuoted cs <;> rw [hq] at h <;> cases h
      cases hmark
    · split at h
      · cases hn : Numeral.scan (c :: cs) <;> rw [hn] at h <;> cases h
        cases hmark
      · unfold scanWord at h
        split at h <;> cases h <;> cases hmark

theorem scan_eq_mark {cs : List Char} {token : Token} {tokens : List Token} {mark : Char}
    (h : scan cs = token :: tokens) (hmark : token.mark? = some mark) :
    ∃ blanks rest, cs = blanks ++ mark :: rest ∧ blanks.all isSpace = true ∧
      scan rest = tokens := by
  fun_induction scan cs with
  | case1 => cases h
  | case2 c cs hspace ih =>
    obtain ⟨blanks, rest, rfl, hblanks, hrest⟩ := ih h
    exact ⟨c :: blanks, rest, rfl, by simp [hspace, hblanks], hrest⟩
  | case3 c cs hspace found rest hfound ih =>
    cases h
    obtain ⟨rfl, rfl⟩ := scanToken_mark hfound hmark
    exact ⟨[], rest, rfl, rfl, rfl⟩
  | case4 c cs hspace fault hfound =>
    cases h
    cases hmark

end Tokens

end Nomen.Json
