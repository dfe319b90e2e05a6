import Nomen.Json.Number
import Nomen.Json.Quoted

namespace Nomen.Json

inductive Token where
  | openBrace | closeBrace | openBracket | closeBracket | colon | comma
  | null
  | bool (value : Bool)
  | number (value : Number)
  | string (text : Option String)
  | fault (fault : Fault)

def isSpace (c : Char) : Bool :=
  c == ' ' || c == '\t' || c == '\n' || c == '\r'

def punctuation? (c : Char) : Option Token :=
  if c = '\x7b' then some .openBrace
  else if c = '\x7d' then some .closeBrace
  else if c = '[' then some .openBracket
  else if c = ']' then some .closeBracket
  else if c = ':' then some .colon
  else if c = ',' then some .comma
  else none

def scanWord : List Char → Except Fault (Token × List Char)
  | 'n' :: 'u' :: 'l' :: 'l' :: cs => .ok (.null, cs)
  | 't' :: 'r' :: 'u' :: 'e' :: cs => .ok (.bool true, cs)
  | 'f' :: 'a' :: 'l' :: 's' :: 'e' :: cs => .ok (.bool false, cs)
  | c :: cs => .error ⟨if c = 'n' ∨ c = 't' ∨ c = 'f' then .word else .value, c :: cs⟩
  | [] => .error ⟨.value, []⟩

theorem length_scanWord {cs rest : List Char} {token : Token}
    (h : scanWord cs = .ok (token, rest)) : rest.length < cs.length := by
  unfold scanWord at h
  split at h <;> simp_all <;> omega

def scanToken (c : Char) (cs : List Char) : Except Fault (Token × List Char) :=
  match punctuation? c with
  | some token => .ok (token, cs)
  | none =>
    if c = '"' then (scanQuoted cs).map fun (text, rest) => (.string text, rest)
    else if c = '-' ∨ c.isDigit then
      (Numeral.scan (c :: cs)).map fun (numeral, rest) => (.number numeral.value, rest)
    else scanWord (c :: cs)

theorem length_scanToken {c : Char} {cs rest : List Char} {token : Token}
    (h : scanToken c cs = .ok (token, rest)) : rest.length ≤ cs.length := by
  unfold scanToken at h
  split at h
  · simp_all
  · split at h
    · cases found : scanQuoted cs with
      | error fault => simp [found, Except.map] at h
      | ok result =>
        simp only [found, Except.map, Except.ok.injEq, Prod.mk.injEq] at h
        exact h.2 ▸ Nat.le_of_lt (length_scanQuoted found)
    · split at h
      · cases found : Numeral.scan (c :: cs) with
        | error fault => simp [found, Except.map] at h
        | ok result =>
          simp only [found, Except.map, Except.ok.injEq, Prod.mk.injEq] at h
          exact h.2 ▸ Nat.le_of_lt_succ (Numeral.length_scan found)
      · exact Nat.le_of_lt_succ (length_scanWord h)

def scan : List Char → List Token
  | [] => []
  | c :: cs =>
    if isSpace c then scan cs
    else match _found : scanToken c cs with
      | .ok (token, rest) => token :: scan rest
      | .error fault => [.fault fault]
termination_by cs => cs.length
decreasing_by
  · simp
  · have := length_scanToken _found
    simp
    omega

end Nomen.Json
