import Nomen.Proofs.Json.Lexemes
import Nomen.Proofs.Json.Parsing

namespace Nomen.Json

theorem scan_append {cs rest : List Char} {token : Token} (h : scan cs = [token])
    (hfault : ∀ fault, token ≠ .fault fault) (hr : NumberEnds rest) :
    scan (cs ++ rest) = token :: scan rest := by
  obtain ⟨lexeme, blanks, rfl, hblanks, hlexeme⟩ := scan_eq_cons h hfault
  have hspace := all_isSpace_of_scan hblanks
  rw [List.append_assoc, hlexeme _ (numberEnds_blank_append hspace hr), scan_blanks hspace]

theorem scan_append_blanks {cs blanks : List Char} {token : Token} (h : scan cs = [token])
    (hfault : ∀ fault, token ≠ .fault fault) (hb : blanks.all isSpace = true) :
    scan (cs ++ blanks) = [token] := by
  have hblanks := scan_blanks hb []
  have hends := numberEnds_blank_append hb numberEnds_nil
  rw [List.append_nil] at hblanks hends
  rw [scan_append h hfault hends, hblanks, scan]

theorem scan_mark (token : Token) {mark : Char} (h : token.mark? = some mark) (cs : List Char) :
    scan (mark :: cs) = token :: scan cs := by
  have hspace : isSpace mark = false := by
    cases token <;> cases h <;> rfl
  rw [scan_punctuation (punctuation?_mark h) hspace]

theorem numberEnds_mark (token : Token) {mark : Char} (h : token.mark? = some mark)
    (cs : List Char) : NumberEnds (mark :: cs) := by
  apply numberEnds_cons
  cases token <;> cases h <;> decide

namespace Tree

variable {place : Place}

/-- The ways to spell a tree: its tokens in their order, with blanks around each of them. -/
inductive SpelledBy : {place : Place} → Tree place → List Char → Prop where
  | null {cs : List Char} (h : scan cs = [.null]) : SpelledBy .null cs
  | bool {b : Bool} {cs : List Char} (h : scan cs = [.bool b]) : SpelledBy (.bool b) cs
  | number {n : Number} {cs : List Char} (h : scan cs = [.number n]) : SpelledBy (.number n) cs
  | string {text : Option String} {cs : List Char} (h : scan cs = [.string text]) :
      SpelledBy (.string text) cs
  | array {items : Items} {lead cs trail : List Char} (hlead : lead.all isSpace = true)
      (h : SpelledBy items cs) (htrail : trail.all isSpace = true) :
      SpelledBy (.array items) (lead ++ '[' :: (cs ++ ']' :: trail))
  | object {members : Members} {lead cs trail : List Char} (hlead : lead.all isSpace = true)
      (h : SpelledBy members cs) (htrail : trail.all isSpace = true) :
      SpelledBy (.object members) (lead ++ '\x7b' :: (cs ++ '\x7d' :: trail))
  | noItems {cs : List Char} (h : cs.all isSpace = true) : SpelledBy .noItems cs
  | lastItem {head : Value} {cs : List Char} (h : SpelledBy head cs) :
      SpelledBy (.item head .noItems) cs
  | item {head : Value} {tail : Items} {cs ds : List Char} (hhead : SpelledBy head cs)
      (hmore : tail ≠ .noItems) (htail : SpelledBy tail ds) :
      SpelledBy (.item head tail) (cs ++ ',' :: ds)
  | noMembers {cs : List Char} (h : cs.all isSpace = true) : SpelledBy .noMembers cs
  | lastMember {key : Option String} {value : Value} {ks cs : List Char}
      (hkey : scan ks = [.string key]) (h : SpelledBy value cs) :
      SpelledBy (.member key value .noMembers) (ks ++ ':' :: cs)
  | member {key : Option String} {value : Value} {tail : Members} {ks cs ds : List Char}
      (hkey : scan ks = [.string key]) (hvalue : SpelledBy value cs) (hmore : tail ≠ .noMembers)
      (htail : SpelledBy tail ds) :
      SpelledBy (.member key value tail) (ks ++ ':' :: (cs ++ ',' :: ds))

theorem SpelledBy.isWhole {tree : Tree place} {cs : List Char} (h : tree.SpelledBy cs) :
    tree.isWhole = true := by
  induction h with
  | null | bool | number | string | noItems | noMembers => rfl
  | array _ _ _ ih => exact ih
  | object _ _ _ ih => exact ih
  | lastItem _ ih => simp [ih]
  | item _ _ _ ihead itail => simp [ihead, itail]
  | lastMember _ _ ih => simp [ih]
  | member _ _ _ _ ivalue itail => simp [ivalue, itail]

theorem SpelledBy.append_blanks {tree : Tree place} {cs blanks : List Char}
    (h : tree.SpelledBy cs) (hb : blanks.all isSpace = true) : tree.SpelledBy (cs ++ blanks) := by
  induction h with
  | null h => exact .null (scan_append_blanks h (by simp) hb)
  | bool h => exact .bool (scan_append_blanks h (by simp) hb)
  | number h => exact .number (scan_append_blanks h (by simp) hb)
  | string h => exact .string (scan_append_blanks h (by simp) hb)
  | array hlead h htrail _ =>
    simp only [List.append_assoc, List.cons_append]
    exact .array hlead h (by simp [htrail, hb])
  | object hlead h htrail _ =>
    simp only [List.append_assoc, List.cons_append]
    exact .object hlead h (by simp [htrail, hb])
  | noItems h => exact .noItems (by simp [h, hb])
  | lastItem _ ih => exact .lastItem ih
  | item hhead hmore _ _ ih =>
    simp only [List.append_assoc, List.cons_append]
    exact .item hhead hmore ih
  | noMembers h => exact .noMembers (by simp [h, hb])
  | lastMember hkey _ ih =>
    simp only [List.append_assoc, List.cons_append]
    exact .lastMember hkey ih
  | member hkey hvalue hmore _ _ ih =>
    simp only [List.append_assoc, List.cons_append]
    exact .member hkey hvalue hmore ih

theorem tokens_item (head : Value) {tail : Items} (hmore : tail ≠ .noItems) :
    (item head tail).tokens = head.tokens ++ .comma :: tail.tokens := by
  rw [tokens]
  exact hmore

theorem tokens_member (key : Option String) (value : Value) {tail : Members}
    (hmore : tail ≠ .noMembers) :
    (member key value tail).tokens =
      .string key :: .colon :: value.tokens ++ .comma :: tail.tokens := by
  rw [tokens]
  exact hmore

theorem SpelledBy.scan_append {tree : Tree place} {cs rest : List Char} (h : tree.SpelledBy cs)
    (hr : NumberEnds rest) : scan (cs ++ rest) = tree.tokens ++ scan rest := by
  induction h generalizing rest with
  | null h => exact Json.scan_append h (by simp) hr
  | bool h => exact Json.scan_append h (by simp) hr
  | number h => exact Json.scan_append h (by simp) hr
  | string h => exact Json.scan_append h (by simp) hr
  | @array items lead cs trail hlead _ htrail ih =>
    have hitems := ih (numberEnds_mark .closeBracket rfl (trail ++ rest))
    simp only [List.append_assoc, List.cons_append, tokens, List.nil_append]
    rw [scan_blanks hlead, scan_mark .openBracket rfl, hitems,
      scan_mark .closeBracket rfl, scan_blanks htrail]
  | @object members lead cs trail hlead _ htrail ih =>
    have hmembers := ih (numberEnds_mark .closeBrace rfl (trail ++ rest))
    simp only [List.append_assoc, List.cons_append, tokens, List.nil_append]
    rw [scan_blanks hlead, scan_mark .openBrace rfl, hmembers,
      scan_mark .closeBrace rfl, scan_blanks htrail]
  | noItems h => exact scan_blanks h rest
  | lastItem _ ih => exact ih hr
  | @item head tail cs ds _ hmore _ ihead itail =>
    have hhead := ihead (numberEnds_mark .comma rfl (ds ++ rest))
    simp only [List.append_assoc, List.cons_append, tokens_item head hmore]
    rw [hhead, scan_mark .comma rfl, itail hr]
  | noMembers h => exact scan_blanks h rest
  | lastMember hkey _ ih =>
    simp only [List.append_assoc, List.cons_append, tokens]
    rw [Json.scan_append hkey (by simp) (numberEnds_mark .colon rfl _),
      scan_mark .colon rfl, ih hr]
  | @member key value tail ks cs ds hkey _ hmore _ ivalue itail =>
    have hvalue := ivalue (numberEnds_mark .comma rfl (ds ++ rest))
    simp only [List.append_assoc, List.cons_append, tokens_member key value hmore]
    rw [Json.scan_append hkey (by simp) (numberEnds_mark .colon rfl _),
      scan_mark .colon rfl, hvalue, scan_mark .comma rfl, itail hr]

theorem SpelledBy.scan_eq {tree : Tree place} {cs : List Char} (h : tree.SpelledBy cs) :
    scan cs = tree.tokens := by
  have hscan := h.scan_append numberEnds_nil
  rwa [List.append_nil, scan, List.append_nil] at hscan

theorem scan_eq_single {cs : List Char} {token : Token} {tokens : List Token}
    (h : scan cs = token :: tokens) (hfault : ∀ fault, token ≠ .fault fault) :
    ∃ front back, front ++ back = cs ∧ scan front = [token] ∧ scan back = tokens := by
  obtain ⟨front, back, hcs, hback, hfront⟩ := scan_eq_cons h hfault
  have hsingle := hfront [] numberEnds_nil
  rw [List.append_nil, scan] at hsingle
  exact ⟨front, back, hcs, hsingle, hback⟩

theorem exists_spelledBy {tree : Tree place} (htree : tree.isWhole = true) {cs : List Char}
    {after : List Token} (h : scan cs = tree.tokens ++ after) :
    ∃ front back, front ++ back = cs ∧ tree.SpelledBy front ∧ scan back = after := by
  induction tree generalizing cs after with
  | null =>
    obtain ⟨front, back, hcs, hfront, hback⟩ := scan_eq_single h (by simp)
    exact ⟨front, back, hcs, .null hfront, hback⟩
  | bool b =>
    obtain ⟨front, back, hcs, hfront, hback⟩ := scan_eq_single h (by simp)
    exact ⟨front, back, hcs, .bool hfront, hback⟩
  | number n =>
    obtain ⟨front, back, hcs, hfront, hback⟩ := scan_eq_single h (by simp)
    exact ⟨front, back, hcs, .number hfront, hback⟩
  | string text =>
    obtain ⟨front, back, hcs, hfront, hback⟩ := scan_eq_single h (by simp)
    exact ⟨front, back, hcs, .string hfront, hback⟩
  | array items ih =>
    simp only [tokens, List.cons_append, List.append_assoc, List.nil_append] at h
    obtain ⟨lead, cs, rfl, hlead, h⟩ := scan_eq_mark h rfl
    obtain ⟨front, back, rfl, hfront, h⟩ := ih htree h
    obtain ⟨blanks, back, rfl, hblanks, h⟩ := scan_eq_mark h rfl
    refine ⟨lead ++ '[' :: ((front ++ blanks) ++ ']' :: []), back, by simp, ?_, h⟩
    exact .array hlead (hfront.append_blanks hblanks) rfl
  | object members ih =>
    simp only [tokens, List.cons_append, List.append_assoc, List.nil_append] at h
    obtain ⟨lead, cs, rfl, hlead, h⟩ := scan_eq_mark h rfl
    obtain ⟨front, back, rfl, hfront, h⟩ := ih htree h
    obtain ⟨blanks, back, rfl, hblanks, h⟩ := scan_eq_mark h rfl
    refine ⟨lead ++ '\x7b' :: ((front ++ blanks) ++ '\x7d' :: []), back, by simp, ?_, h⟩
    exact .object hlead (hfront.append_blanks hblanks) rfl
  | noItems => exact ⟨[], cs, rfl, .noItems rfl, h⟩
  | item head tail ihead itail =>
    rw [isWhole_item, Bool.and_eq_true] at htree
    by_cases hlast : tail = .noItems
    · subst hlast
      obtain ⟨front, back, hcs, hfront, hback⟩ := ihead htree.1 h
      exact ⟨front, back, hcs, .lastItem hfront, hback⟩
    · rw [tokens_item head hlast, List.append_assoc] at h
      obtain ⟨front, back, rfl, hfront, h⟩ := ihead htree.1 h
      obtain ⟨blanks, rest, rfl, hblanks, h⟩ := scan_eq_mark h rfl
      obtain ⟨more, back, rfl, hmore, h⟩ := itail htree.2 h
      refine ⟨(front ++ blanks) ++ ',' :: more, back, by simp, ?_, h⟩
      exact .item (hfront.append_blanks hblanks) hlast hmore
  | noMembers => exact ⟨[], cs, rfl, .noMembers rfl, h⟩
  | member key value tail ivalue itail =>
    rw [isWhole_member, Bool.and_eq_true] at htree
    by_cases hlast : tail = .noMembers
    · subst hlast
      simp only [tokens, List.cons_append] at h
      obtain ⟨ks, cs, rfl, hkey, h⟩ := scan_eq_single h (by simp)
      obtain ⟨blanks, cs, rfl, hblanks, h⟩ := scan_eq_mark h rfl
      obtain ⟨front, back, rfl, hfront, h⟩ := ivalue htree.1 h
      refine ⟨(ks ++ blanks) ++ ':' :: front, back, by simp, ?_, h⟩
      exact .lastMember (scan_append_blanks hkey (by simp) hblanks) hfront
    · simp only [tokens_member key value hlast, List.cons_append, List.append_assoc] at h
      obtain ⟨ks, cs, rfl, hkey, h⟩ := scan_eq_single h (by simp)
      obtain ⟨blanks, cs, rfl, hblanks, h⟩ := scan_eq_mark h rfl
      obtain ⟨front, back, rfl, hfront, h⟩ := ivalue htree.1 h
      obtain ⟨spaces, rest, rfl, hspaces, h⟩ := scan_eq_mark h rfl
      obtain ⟨more, back, rfl, hmore, h⟩ := itail htree.2 h
      refine ⟨(ks ++ blanks) ++ ':' :: ((front ++ spaces) ++ ',' :: more), back, by simp, ?_, h⟩
      exact .member (scan_append_blanks hkey (by simp) hblanks) (hfront.append_blanks hspaces)
        hlast hmore
  | broken fault => simp at htree

theorem spelledBy_iff {tree : Tree place} {cs : List Char} :
    tree.SpelledBy cs ↔ tree.isWhole = true ∧ scan cs = tree.tokens := by
  refine ⟨fun h => ⟨h.isWhole, h.scan_eq⟩, ?_⟩
  rintro ⟨htree, h⟩
  obtain ⟨front, back, rfl, hfront, hback⟩ := exists_spelledBy htree (by rw [h, List.append_nil])
  exact hfront.append_blanks (all_isSpace_of_scan hback)

end Tree

theorem parse_whole (fuel : Nat) {tokens : List Token} :
    (∀ {value rest}, parseValue fuel tokens = (value, rest) → value.isWhole = true →
      value.tokens ++ rest = tokens) ∧
    (∀ {items rest}, parseItems fuel tokens = (items, rest) → items.isWhole = true →
      items ≠ .noItems ∧ items.tokens ++ .closeBracket :: rest = tokens) ∧
    (∀ {members rest}, parseMembers fuel tokens = (members, rest) → members.isWhole = true →
      members ≠ .noMembers ∧ members.tokens ++ .closeBrace :: rest = tokens) := by
  induction fuel generalizing tokens with
  | zero =>
    refine ⟨?_, ?_, ?_⟩ <;> rintro _ _ ⟨⟩ hwhole <;> cases hwhole
  | succ fuel ih =>
    refine ⟨?_, ?_, ?_⟩
    · intro value rest h hwhole
      unfold parseValue at h
      split at h
      · cases h; rfl
      · cases h; rfl
      · cases h; rfl
      · cases h; rfl
      · cases h; rfl
      · next heq =>
        cases heq
        cases h
        obtain ⟨-, htokens⟩ := ih.2.1 rfl hwhole
        simpa [Tree.tokens] using htokens
      · cases h; rfl
      · next heq =>
        cases heq
        cases h
        obtain ⟨-, htokens⟩ := ih.2.2 rfl hwhole
        simpa [Tree.tokens] using htokens
      · cases h; cases hwhole
    · intro items rest h hwhole
      unfold parseItems at h
      split at h
      · next head rest' hhead =>
        cases h
        rw [Tree.isWhole_item, Bool.and_eq_true] at hwhole
        obtain ⟨hmore, htail⟩ := ih.2.1 rfl hwhole.2
        rw [Tree.tokens_item head hmore, ← ih.1 hhead hwhole.1]
        simp [htail]
      · next head rest' hhead =>
        cases h
        rw [Tree.isWhole_item, Bool.and_eq_true] at hwhole
        exact ⟨by simp, ih.1 hhead hwhole.1⟩
      · cases h
        simp at hwhole
    · intro members rest h hwhole
      unfold parseMembers at h
      split at h
      · contradiction
      · next heq =>
        cases heq
        split at h
        · next value rest' hvalue =>
          cases h
          rw [Tree.isWhole_member, Bool.and_eq_true] at hwhole
          obtain ⟨hmore, htail⟩ := ih.2.2 rfl hwhole.2
          rw [Tree.tokens_member _ value hmore, ← ih.1 hvalue hwhole.1]
          simp [htail]
        · next value rest' hvalue =>
          cases h
          rw [Tree.isWhole_member, Bool.and_eq_true] at hwhole
          rw [Tree.tokens, ← ih.1 hvalue hwhole.1]
          simp
        · cases h
          simp at hwhole
      · cases h
        simp at hwhole
      · cases h
        cases hwhole

theorem Document.ofText_eq_iff {text : String} {value : Value} :
    Document.ofText text = ⟨value, true⟩ ∧ value.isWhole = true ↔ value.SpelledBy text.toList := by
  rw [Tree.spelledBy_iff]
  constructor
  · rintro ⟨h, hwhole⟩
    refine ⟨hwhole, ?_⟩
    simp only [Document.ofText, Document.mk.injEq, List.isEmpty_iff] at h
    rw [← (parse_whole _).1 (Prod.ext h.1 h.2) hwhole, List.append_nil]
  · rintro ⟨hwhole, htokens⟩
    have hparse := Tree.parses hwhole (2 * value.tokens.length + 1) [] (by omega)
    rw [List.append_nil] at hparse
    simp [Document.ofText, htokens, hparse, hwhole]

theorem Tree.Writable.spelledBy_pretty {value : Value} (hv : value.Writable) :
    value.SpelledBy value.pretty.toList :=
  Document.ofText_eq_iff.mp ⟨Document.ofText_pretty hv, hv.isWhole⟩

end Nomen.Json
