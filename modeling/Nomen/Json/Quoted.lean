import Nomen.Json.Fault

namespace Nomen.Json

inductive Piece where
  | char (c : Char)
  | unit (code : Nat)

def hexDigit? (c : Char) : Option Nat :=
  if c.isDigit then some (c.toNat - '0'.toNat)
  else if 'a' ≤ c ∧ c ≤ 'f' then some (c.toNat - 'a'.toNat + 10)
  else if 'A' ≤ c ∧ c ≤ 'F' then some (c.toNat - 'A'.toNat + 10)
  else none

def hexCode? (a b c d : Char) : Option Nat :=
  match hexDigit? a, hexDigit? b, hexDigit? c, hexDigit? d with
  | some a, some b, some c, some d => some (a * 4096 + b * 256 + c * 16 + d)
  | _, _, _, _ => none

def escaped? : Char → Option Char
  | '"' => some '"'
  | '\\' => some '\\'
  | '/' => some '/'
  | 'b' => some '\x08'
  | 'f' => some '\x0c'
  | 'n' => some '\n'
  | 'r' => some '\r'
  | 't' => some '\t'
  | _ => none

def prepend (piece : Piece) :
    Except Fault (List Piece × List Char) → Except Fault (List Piece × List Char)
  | .ok (ps, rest) => .ok (piece :: ps, rest)
  | .error fault => .error fault

theorem prepend_eq_ok {piece : Piece} {found : Except Fault (List Piece × List Char)}
    {ps : List Piece} {rest : List Char} (h : prepend piece found = .ok (ps, rest)) :
    ∃ qs, found = .ok (qs, rest) := by
  cases found with
  | error fault => simp [prepend] at h
  | ok result => simp_all [prepend, Prod.ext_iff]

def pieces : List Char → Except Fault (List Piece × List Char)
  | [] => .error ⟨.text, []⟩
  | c :: cs =>
    if c = '"' then .ok ([], cs)
    else if c = '\\' then
      match cs with
      | 'u' :: a :: b :: d :: e :: rest =>
        match hexCode? a b d e with
        | some code => prepend (.unit code) (pieces rest)
        | none => .error ⟨.text, cs⟩
      | e :: rest =>
        match escaped? e with
        | some x => prepend (.char x) (pieces rest)
        | none => .error ⟨.text, cs⟩
      | [] => .error ⟨.text, []⟩
    else if c < ' ' then .error ⟨.text, c :: cs⟩
    else prepend (.char c) (pieces cs)

theorem length_pieces {cs rest : List Char} {ps : List Piece} (h : pieces cs = .ok (ps, rest)) :
    rest.length < cs.length := by
  fun_induction pieces cs generalizing ps rest with
  | case1 | case4 | case6 | case7 | case8 => simp at h
  | case2 => simp_all
  | case3 | case5 | case9 =>
    rename_i ih
    obtain ⟨_, found⟩ := prepend_eq_ok h
    have := ih found
    simp only [List.length_cons]
    omega

def isHighSurrogate (code : Nat) : Bool :=
  0xD800 ≤ code && code < 0xDC00

def isLowSurrogate (code : Nat) : Bool :=
  0xDC00 ≤ code && code < 0xE000

def isSurrogate (code : Nat) : Bool :=
  0xD800 ≤ code && code < 0xE000

def ofSurrogates (high low : Nat) : Char :=
  Char.ofNat (0x10000 + (high - 0xD800) * 0x400 + (low - 0xDC00))

def joinPieces : List Piece → Option (List Char)
  | [] => some []
  | .char c :: ps => (joinPieces ps).map (c :: ·)
  | .unit high :: .unit low :: ps =>
    if isHighSurrogate high && isLowSurrogate low then
      (joinPieces ps).map (ofSurrogates high low :: ·)
    else if isSurrogate high then none
    else (joinPieces (.unit low :: ps)).map (Char.ofNat high :: ·)
  | .unit code :: ps =>
    if isSurrogate code then none else (joinPieces ps).map (Char.ofNat code :: ·)

def scanQuoted (cs : List Char) : Except Fault (Option String × List Char) :=
  (pieces cs).map fun (ps, rest) => ((joinPieces ps).map String.ofList, rest)

theorem length_scanQuoted {cs rest : List Char} {text : Option String}
    (h : scanQuoted cs = .ok (text, rest)) : rest.length < cs.length := by
  unfold scanQuoted at h
  cases found : pieces cs with
  | error fault => simp [found, Except.map] at h
  | ok result =>
    simp only [found, Except.map, Except.ok.injEq, Prod.mk.injEq] at h
    exact h.2 ▸ length_pieces found

end Nomen.Json
