import Nomen.Proofs.Json.Scanning

namespace Nomen.Json

namespace Tree

@[simp]
theorem isWhole_array (items : Items) : (array items).isWhole = items.isWhole := rfl

@[simp]
theorem isWhole_object (members : Members) : (object members).isWhole = members.isWhole := rfl

@[simp]
theorem isWhole_noItems : noItems.isWhole = true := rfl

@[simp]
theorem isWhole_noMembers : noMembers.isWhole = true := rfl

@[simp]
theorem isWhole_item (head : Value) (tail : Items) :
    (item head tail).isWhole = (head.isWhole && tail.isWhole) := by
  rw [isWhole, isWhole, isWhole, fault?]
  cases head.fault? <;> rfl

@[simp]
theorem isWhole_member (key : Option String) (value : Value) (tail : Members) :
    (member key value tail).isWhole = (value.isWhole && tail.isWhole) := by
  rw [isWhole, isWhole, isWhole, fault?]
  cases value.fault? <;> rfl

@[simp]
theorem isWhole_broken {place : Place} (fault : Fault) :
    (broken fault : Tree place).isWhole = false := rfl

theorem Writable.isWhole {place : Place} {tree : Tree place} (ht : tree.Writable) :
    tree.isWhole = true := by
  induction tree with
  | null | bool _ | number _ | string _ | noItems | noMembers => rfl
  | array items ih => simpa using ih ht
  | object members ih => simpa using ih ht
  | item head tail ihead itail => simp [ihead ht.1, itail ht.2]
  | member key value tail ivalue itail => simp [ivalue ht.2.1, itail ht.2.2]
  | broken fault => exact absurd ht not_false

theorem tokens_ne_closeBracket {items : Items} (hi : items.isWhole = true)
    (hne : items ≠ .noItems) (rest tokens : List Token) :
    items.tokens ++ rest ≠ .closeBracket :: tokens := by
  cases items with
  | noItems => exact absurd rfl hne
  | broken fault => simp at hi
  | item head tail =>
    cases head with
    | broken fault => simp at hi
    | null | bool _ | number _ | string _ | array _ | object _ =>
      cases tail <;> simp [Tree.tokens]

theorem tokens_ne_closeBrace {members : Members} (hm : members.isWhole = true)
    (hne : members ≠ .noMembers) (rest tokens : List Token) :
    members.tokens ++ rest ≠ .closeBrace :: tokens := by
  cases members with
  | noMembers => exact absurd rfl hne
  | broken fault => simp at hm
  | member key value tail => cases tail <;> simp [Tree.tokens]

theorem tokens_pos {value : Value} (hv : value.isWhole = true) : 0 < value.tokens.length := by
  cases value with
  | broken fault => simp at hv
  | null | bool _ | number _ | string _ | array _ | object _ => simp [Tree.tokens]

def Parses : {place : Place} → Tree place → Prop
  | .value, value => ∀ fuel rest, 2 * value.tokens.length ≤ fuel →
      parseValue fuel (value.tokens ++ rest) = (value, rest)
  | .items, items => items ≠ .noItems → ∀ fuel rest, 2 * items.tokens.length < fuel →
      parseItems fuel (items.tokens ++ .closeBracket :: rest) = (items, rest)
  | .members, members => members ≠ .noMembers → ∀ fuel rest, 2 * members.tokens.length < fuel →
      parseMembers fuel (members.tokens ++ .closeBrace :: rest) = (members, rest)

theorem parses {place : Place} {tree : Tree place} (ht : tree.isWhole = true) : tree.Parses := by
  -- A bracket or a comma is worth two steps: one into the list, and one into its first item.
  induction tree with
  | null | bool _ | number _ | string _ =>
    intro fuel rest hfuel
    cases fuel with
    | zero => simp [tokens] at hfuel
    | succ fuel => simp [tokens, parseValue]
  | array items ih =>
    intro fuel rest hfuel
    simp only [tokens, List.length_append, List.length_cons] at hfuel
    obtain ⟨fuel, rfl⟩ : ∃ n, fuel = n + 1 := Nat.exists_eq_add_one.mpr (by omega)
    by_cases hempty : items = .noItems
    · subst hempty
      simp [tokens, parseValue]
    · have hitems := ih ht hempty fuel rest (by omega)
      have hstart := tokens_ne_closeBracket ht hempty (.closeBracket :: rest)
      simp only [tokens, List.cons_append, List.append_assoc, List.nil_append]
      rw [parseValue, hitems]
      exact hstart
  | object members ih =>
    intro fuel rest hfuel
    simp only [tokens, List.length_append, List.length_cons] at hfuel
    obtain ⟨fuel, rfl⟩ : ∃ n, fuel = n + 1 := Nat.exists_eq_add_one.mpr (by omega)
    by_cases hempty : members = .noMembers
    · subst hempty
      simp [tokens, parseValue]
    · have hmembers := ih ht hempty fuel rest (by omega)
      have hstart := tokens_ne_closeBrace ht hempty (.closeBrace :: rest)
      simp only [tokens, List.cons_append, List.append_assoc, List.nil_append]
      rw [parseValue, hmembers]
      exact hstart
  | noItems => exact fun h => absurd rfl h
  | item head tail ihead itail =>
    intro _ fuel rest hfuel
    rw [isWhole_item, Bool.and_eq_true] at ht
    obtain ⟨fuel, rfl⟩ : ∃ n, fuel = n + 1 := Nat.exists_eq_add_one.mpr (by omega)
    have hpos := tokens_pos ht.1
    by_cases hlast : tail = .noItems
    · subst hlast
      simp only [tokens] at hfuel ⊢
      rw [parseItems, ihead ht.1 fuel (.closeBracket :: rest) (by omega)]
    · simp only [tokens, List.length_append, List.length_cons] at hfuel ⊢
      rw [List.append_assoc, List.cons_append, parseItems, ihead ht.1 fuel _ (by omega)]
      simp only
      rw [itail ht.2 hlast fuel rest (by omega)]
  | noMembers => exact fun h => absurd rfl h
  | member key value tail ivalue itail =>
    intro _ fuel rest hfuel
    rw [isWhole_member, Bool.and_eq_true] at ht
    obtain ⟨fuel, rfl⟩ : ∃ n, fuel = n + 1 := Nat.exists_eq_add_one.mpr (by omega)
    by_cases hlast : tail = .noMembers
    · subst hlast
      simp only [tokens, List.length_cons] at hfuel
      simp only [tokens, List.cons_append, parseMembers]
      rw [ivalue ht.1 fuel (.closeBrace :: rest) (by omega)]
    · simp only [tokens, List.length_append, List.length_cons] at hfuel
      simp only [tokens, List.cons_append, List.append_assoc, parseMembers]
      rw [ivalue ht.1 fuel _ (by omega)]
      simp only
      rw [itail ht.2 hlast fuel rest (by omega)]
  | broken fault => simp at ht

end Tree

theorem Document.ofText_pretty {value : Value} (hv : value.Writable) :
    Document.ofText value.pretty = ⟨value, true⟩ := by
  have htokens : scan value.pretty.toList = value.tokens := by
    have h := Tree.scan_write Style.pretty_blank hv 0 numberEnds_nil
    rwa [List.append_nil, scan, List.append_nil,
      ← String.toList_ofList (l := value.write .pretty 0)] at h
  have hparse := Tree.parses hv.isWhole (2 * value.tokens.length + 1) [] (by omega)
  rw [List.append_nil] at hparse
  simp [Document.ofText, htokens, hparse]

section Range

def Token.InRange : Token → Prop
  | number value => value.Fits
  | _ => True

def Tree.InRange {place : Place} : Tree place → Prop
  | number value => value.Fits
  | array items => items.InRange
  | object members => members.InRange
  | item head tail => head.InRange ∧ tail.InRange
  | member _ value tail => value.InRange ∧ tail.InRange
  | null | bool _ | string _ | noItems | noMembers | broken _ => True

theorem gatherWhole_lt {significand : Nat} (h : significand < Decimal.wordCount) (cs : List Char) :
    (Decimal.gatherWhole significand cs).1 < Decimal.wordCount := by
  fun_induction Decimal.gatherWhole significand cs with
  | case1 significand => exact h
  | case2 significand c cs hshift ih => exact ih hshift
  | case3 significand c cs hshift => exact h

theorem Numeral.value_fits (n : Numeral) : n.value.Fits := by
  have hlt := gatherWhole_lt (by decide : 0 < Decimal.wordCount) n.whole
  have hofFloat (x : Option Float) : (ofFloat n.negative x).Fits := by
    cases x <;> trivial
  unfold value
  generalize Decimal.gatherWhole 0 n.whole = gathered at hlt ⊢
  obtain ⟨significand, leftOut⟩ := gathered
  simp only
  split
  · split
    · exact hofFloat _
    · split
      · exact ⟨by omega, Int.ofNat_lt.mpr hlt⟩
      · split
        · next hsign => exact ⟨by omega, by omega⟩
        · trivial
  · exact hofFloat _

theorem scanWord_inRange {cs rest : List Char} {token : Token}
    (h : scanWord cs = .ok (token, rest)) : token.InRange := by
  unfold scanWord at h
  split at h <;> cases h <;> trivial

theorem punctuation?_inRange {c : Char} {token : Token} (h : punctuation? c = some token) :
    token.InRange := by
  unfold punctuation? at h
  repeat (split at h; · cases h; trivial)
  cases h

theorem scanToken_inRange {c : Char} {cs rest : List Char} {token : Token}
    (h : scanToken c cs = .ok (token, rest)) : token.InRange := by
  unfold scanToken at h
  split at h
  · next found =>
    cases h
    exact punctuation?_inRange found
  · split at h
    · cases hq : scanQuoted cs <;> rw [hq] at h <;> cases h
      trivial
    · split at h
      · cases hn : Numeral.scan (c :: cs) <;> rw [hn] at h <;> cases h
        exact Numeral.value_fits _
      · exact scanWord_inRange h

theorem scan_inRange (cs : List Char) : ∀ token ∈ scan cs, token.InRange := by
  fun_induction scan cs with
  | case1 => simp
  | case2 c cs hspace ih => exact ih
  | case3 c cs hspace token rest found ih =>
    rw [List.forall_mem_cons]
    exact ⟨scanToken_inRange found, ih⟩
  | case4 c cs hspace fault found => simp [Token.InRange]

/-- What one of the parsers returns, for the induction on the fuel that they share. -/
def ParsedInRange {place : Place} (result : Tree place × List Token) : Prop :=
  result.1.InRange ∧ ∀ token ∈ result.2, token.InRange

theorem parse_inRange (fuel : Nat) {tokens : List Token} (h : ∀ token ∈ tokens, token.InRange) :
    ParsedInRange (parseValue fuel tokens) ∧ ParsedInRange (parseItems fuel tokens) ∧
      ParsedInRange (parseMembers fuel tokens) := by
  have hbroken {place : Place} (fault : Fault) :
      ParsedInRange ((.broken fault : Tree place), []) := ⟨trivial, by simp⟩
  have hlater {token : Token} {tokens : List Token} (h : ∀ t ∈ token :: tokens, t.InRange) :
      ∀ t ∈ tokens, t.InRange := (List.forall_mem_cons.mp h).2
  induction fuel generalizing tokens with
  | zero => exact ⟨hbroken _, hbroken _, hbroken _⟩
  | succ fuel ih =>
    refine ⟨?_, ?_, ?_⟩
    · unfold parseValue
      split
      · exact ⟨trivial, hlater h⟩
      · exact ⟨trivial, hlater h⟩
      · exact List.forall_mem_cons.mp h
      · exact ⟨trivial, hlater h⟩
      · exact ⟨trivial, hlater (hlater h)⟩
      · next heq =>
        cases heq
        exact (ih (hlater h)).2.1
      · exact ⟨trivial, hlater (hlater h)⟩
      · next heq =>
        cases heq
        exact (ih (hlater h)).2.2
      · exact hbroken _
    · have ⟨hhead, hrest⟩ := (ih h).1
      unfold parseItems
      split
      · next heq =>
        rw [heq] at hhead hrest
        have ⟨htail, hafter⟩ := (ih (hlater hrest)).2.1
        exact ⟨⟨hhead, htail⟩, hafter⟩
      · next heq =>
        rw [heq] at hhead hrest
        exact ⟨⟨hhead, trivial⟩, hlater hrest⟩
      · next heq =>
        rw [heq] at hhead
        exact ⟨⟨hhead, trivial⟩, by simp⟩
    · unfold parseMembers
      split
      · contradiction
      · next heq =>
        cases heq
        have ⟨hvalue, hrest⟩ := (ih (hlater (hlater h))).1
        split
        · next heq =>
          rw [heq] at hvalue hrest
          have ⟨htail, hafter⟩ := (ih (hlater hrest)).2.2
          exact ⟨⟨hvalue, htail⟩, hafter⟩
        · next heq =>
          rw [heq] at hvalue hrest
          exact ⟨⟨hvalue, trivial⟩, hlater hrest⟩
        · next heq =>
          rw [heq] at hvalue
          exact ⟨⟨hvalue, trivial⟩, by simp⟩
      · exact ⟨⟨trivial, trivial⟩, by simp⟩
      · exact hbroken _

theorem Document.ofText_inRange (text : String) : (Document.ofText text).value.InRange :=
  (parse_inRange (2 * (scan text.toList).length + 1) (scan_inRange text.toList)).1.1

end Range

end Nomen.Json
