import Nomen.Proofs.Report
import Nomen.Proofs.Register

/-!
Letters for loop counters. A letter is free if no name in use has it as its stem. The register looks
at the stems that names were entered under, which is the same for names given in a procedure: a name
is entered under a stem of its own, and a number too great to be split off again is reached only
where the stem is in use already.
-/

namespace Nomen

namespace Register

/-- A stem without digits at its end is known exactly if some name in use has it. -/
def Faithful (register : Register) : Prop :=
  ∀ stem, endsInDigit stem = false →
    (register.knows stem = true ↔ ∃ name ∈ register.names, (Numbered.ofName name).stem = stem)

theorem faithful_empty : ({} : Register).Faithful := by
  intro stem _
  simp [knows_iff, names]

theorem knows_enter {register : Register} {entry : Entry} {stem : String} :
    (register.enter entry).knows stem = true ↔ entry.stem = stem ∨ register.knows stem = true := by
  rw [knows_iff, knows_iff, enter]
  simp

namespace Faithful

variable {register : Register}

theorem enter (h : register.Faithful) {entry : Entry}
    (he : (Numbered.ofName entry.name).stem = entry.stem) : (register.enter entry).Faithful := by
  intro stem hs
  rw [knows_enter, h stem hs, names_enter, ← he]
  simp

theorem enter_again (h : register.Faithful) {entry : Entry}
    (hd : endsInDigit (Numbered.ofName entry.name).stem = true)
    (hk : endsInDigit entry.stem = false → register.knows entry.stem = true) :
    (register.enter entry).Faithful := by
  intro stem hs
  have hne : (Numbered.ofName entry.name).stem ≠ stem := by
    rintro rfl
    exact absurd (hd.symm.trans hs) (by decide)
  have hknown : entry.stem = stem → register.knows stem = true := by
    rintro rfl
    exact hk hs
  rw [knows_enter, or_iff_right_of_imp hknown, h stem hs, names_enter]
  simp [hne]

theorem spell_notMem (h : register.Faithful) {stem : String} (hs : endsInDigit stem = false)
    (hk : register.knows stem = false) {n : Nat} (hn : n ≤ greatestNumber) :
    spell stem n ∉ register.names := by
  intro hm
  have hknown := (h stem hs).mpr ⟨_, hm, by rw [Numbered.ofName_spell hs hn]⟩
  exact absurd (hknown.symm.trans hk) (by decide)

theorem enterFrom_of_unknown (h : register.Faithful) {stem : String}
    (hs : endsInDigit stem = false) (hk : register.knows stem = false) {start : Nat}
    (hn : start ≤ greatestNumber) :
    register.enterFrom stem start =
      (spell stem start, register.enter ⟨spell stem start, stem, start⟩) := by
  obtain ⟨k, -, he, htaken, -⟩ := register.enterFrom_spec stem start
  have hzero : k = 0 := by
    by_contra hne
    exact h.spell_notMem hs hk hn (htaken 0 (Nat.pos_of_ne_zero hne))
  rw [he, hzero, Nat.add_zero]

theorem enterFrom (h : register.Faithful) {stem : String} (hs : Numbered.IsStem stem) {start : Nat}
    (hn : register.knows stem = false → start ≤ greatestNumber) :
    (register.enterFrom stem start).2.Faithful := by
  obtain ⟨k, -, he, -⟩ := register.enterFrom_spec stem start
  rw [he]
  rcases Numbered.stem_spell hs (start + k) with hsplit | hdigit
  · exact h.enter hsplit
  · refine h.enter_again ?_ ?_
    · exact hdigit
    -- Were the stem new, its first spelling would be free, and that one splits.
    intro hd
    by_contra hk
    rw [Bool.not_eq_true] at hk
    have hfirst := h.enterFrom_of_unknown hd hk (hn hk)
    rw [he, Prod.mk.injEq] at hfirst
    rw [hfirst.1, Numbered.ofName_spell hd (hn hk), hd] at hdigit
    exact absurd hdigit (by decide)

theorem reserve (h : register.Faithful) (name : String) : (register.reserve name).Faithful := by
  by_cases hn : name = ""
  · rw [Register.reserve, if_pos hn]
    exact h
  · rw [reserve_of_ne_empty register hn]
    exact h.enter rfl

theorem reserveAll (h : register.Faithful) (names : List String) :
    (register.reserveAll names).Faithful := by
  induction names generalizing register with
  | nil => exact h
  | cons name names ih => exact ih (h.reserve name)

theorem issue (h : register.Faithful) {stem : String} (hs : Numbered.IsStem stem) :
    (register.issue stem).2.Faithful := by
  apply h.enterFrom hs
  intro hk
  rw [count?_eq_none hk]
  decide

theorem issue_of_unknown (h : register.Faithful) {stem : String} (hs : endsInDigit stem = false)
    (hk : register.knows stem = false) : (register.issue stem).1 = stem := by
  rw [Register.issue, count?_eq_none hk, Option.getD_none,
    h.enterFrom_of_unknown hs hk (by decide), spell_one]

theorem adopt (h : register.Faithful) (name : String) : (register.adopt name).2.Faithful := by
  rcases register.adopt_cases name with ⟨letter, -, hl, he⟩ | ⟨-, he⟩
  · rw [he]
    apply h.enter
    have hd := counterLetters_not_endsInDigit letter (freeLetter?_eq_some hl).1
    exact Numbered.isStem_of_not_endsInDigit hd
  · rw [he]
    apply h.enterFrom (Numbered.isStem_stem name)
    intro hk
    rw [adoptStart, count?_eq_none hk]
    exact Numbered.ofName_number_le name

end Faithful

end Register

def Wish.Stemmed : Wish → Prop
  | .adopt _ => True
  | .counter base => Numbered.IsStem base
  | .stem base _ => Numbered.IsStem base

theorem acceptedStem?_eq_some {name stem : String} (h : acceptedStem? name = some stem) :
    stem = (Numbered.ofName name).stem :=
  (Option.some.inj (Option.filter_eq_some_iff.mp h).1).symm

theorem acceptedStem?_isStem {name stem : String} (h : acceptedStem? name = some stem) :
    Numbered.IsStem stem := by
  rw [acceptedStem?_eq_some h]
  exact Numbered.isStem_stem name

theorem bind_acceptedStem?_isStem {candidate : Option String} {stem : String}
    (h : candidate.bind acceptedStem? = some stem) : Numbered.IsStem stem := by
  obtain ⟨name, -, ha⟩ := Option.bind_eq_some_iff.mp h
  exact acceptedStem?_isStem ha

theorem typeStem_isStem (type : TypeSig) : Numbered.IsStem (typeStem type) := by
  rw [typeStem]
  cases h : acceptedStem? type.stem with
  | some stem => exact acceptedStem?_isStem h
  | none => exact Numbered.isStem_of_not_endsInDigit (by decide)

theorem Scope.wish_stemmed (scope : Scope) (body : Node) (index : Nat) (slot : Slot) :
    (scope.wish body index slot).Stemmed := by
  rw [wish]
  cases scope.adopted? slot with
  | some debugName => exact trivial
  | none =>
    rcases scope.synthesis_cases body index slot.type with ⟨-, he⟩ | ⟨stem, source, he, hs⟩
    · simp only [he]
      exact typeStem_isStem slot.type
    · simp only [he]
      rcases hs with ⟨-, hs⟩ | ⟨-, hs⟩ | ⟨-, rfl⟩
      · exact bind_acceptedStem?_isStem hs
      · exact bind_acceptedStem?_isStem hs
      · exact typeStem_isStem slot.type

namespace Register

theorem Faithful.serve {register : Register} (h : register.Faithful) {wish : Wish}
    (hw : wish.Stemmed) : (register.serve wish).2.Faithful := by
  cases wish with
  | adopt debugName => exact h.adopt debugName
  | counter stem =>
    cases hl : register.freeLetter? with
    | some letter =>
      simp only [Register.serve, hl]
      have hd := counterLetters_not_endsInDigit letter (freeLetter?_eq_some hl).1
      exact h.issue (Numbered.isStem_of_not_endsInDigit hd)
    | none =>
      simp only [Register.serve, hl]
      exact h.issue hw
  | stem stem source => exact h.issue hw

theorem freeLetter?_eq_find {register : Register} {inUse : List String}
    (h : ∀ stem, endsInDigit stem = false → (register.knows stem = true ↔ stem ∈ inUse)) :
    register.freeLetter? = counterLetters.find? (· ∉ inUse) := by
  rw [freeLetter?, ← List.head?_filter, ← List.head?_filter]
  apply congrArg List.head?
  apply List.filter_congr
  intro letter hl
  rw [Bool.eq_iff_iff, Bool.not_eq_true', ← Bool.not_eq_true,
    h letter (counterLetters_not_endsInDigit letter hl), decide_eq_true_iff]

theorem names_adopt (register : Register) (name : String) :
    (register.adopt name).2.names = (register.adopt name).1 :: register.names := by
  rcases register.adopt_cases name with ⟨letter, -, -, he⟩ | ⟨-, he⟩
  · rw [he, names_enter]
  · rw [he]
    rfl

theorem names_serve (register : Register) (wish : Wish) :
    (register.serve wish).2.names = (register.serve wish).1.1 :: register.names := by
  cases wish with
  | adopt debugName => exact register.names_adopt debugName
  | counter stem => cases hl : register.freeLetter? <;> simp only [serve, hl] <;> rfl
  | stem stem source => rfl

theorem serveAll_cons (register : Register) (wish : Nat × Wish) (wishes : List (Nat × Wish)) :
    register.serveAll (wish :: wishes) =
      ⟨wish.1, (register.serve wish.2).1.1, (register.serve wish.2).1.2⟩ ::
        (register.serve wish.2).2.serveAll wishes := rfl

/-- What one wish keeps of a register, all wishes before a given name have kept. -/
theorem exists_reached {P : Register → Prop} {wishes : List (Nat × Wish)}
    (hstep : ∀ wish ∈ wishes, ∀ reached, P reached → P (reached.serve wish.2).2)
    {register : Register} (hp : P register) {earlier later : List Assignment}
    {assignment : Assignment} (h : register.serveAll wishes = earlier ++ assignment :: later) :
    ∃ reached wish, P reached ∧ (assignment.slot, wish) ∈ wishes ∧
      (reached.serve wish).1 = (assignment.name, assignment.source) ∧
      reached.names = (earlier.map (·.name)).reverse ++ register.names := by
  induction wishes generalizing register earlier with
  | nil => exact absurd h (by simp [serveAll])
  | cons head wishes ih =>
    rw [serveAll_cons] at h
    cases earlier with
    | nil =>
      obtain ⟨rfl, -⟩ := List.cons.inj h
      exact ⟨register, head.2, hp, List.mem_cons_self, rfl, rfl⟩
    | cons first earlier =>
      obtain ⟨rfl, hrest⟩ := List.cons.inj h
      obtain ⟨reached, wish, hr, hw, hs, hn⟩ :=
        ih (fun wish hw => hstep wish (List.mem_cons_of_mem head hw))
          (hstep head List.mem_cons_self register hp) hrest
      refine ⟨reached, wish, hr, List.mem_cons_of_mem head hw, hs, ?_⟩
      rw [hn, names_serve]
      simp

end Register

namespace Procedure

def stemsInUse (procedure : Procedure) (scope : Scope) (given : List Assignment) : List String :=
  (scope.reserved.filter (· ≠ "") ++ procedure.keptNames ++ given.map (·.name)).map fun name =>
    (Numbered.ofName name).stem

theorem keptNames_ne_empty {procedure : Procedure} {name : String} (h : name ∈ procedure.keptNames) :
    name ≠ "" := by
  obtain ⟨slot, -, hn⟩ := List.mem_filterMap.mp h
  simpa using (Option.filter_eq_some_iff.mp hn).2

theorem mem_names_openRegister {procedure : Procedure} {scope : Scope} {name : String} :
    name ∈ (procedure.openRegister scope).names ↔
      name ∈ scope.reserved.filter (· ≠ "") ++ procedure.keptNames := by
  have hkept := @keptNames_ne_empty procedure name
  have hempty : name ∉ ({} : Register).names := List.not_mem_nil
  rw [openRegister, Register.mem_names_reserveAll, Register.mem_names_reserveAll, List.mem_append,
    List.mem_filter]
  grind

theorem report_reached {procedure : Procedure} {scope : Scope} {earlier later : List Assignment}
    {assignment : Assignment}
    (h : (procedure.report scope).assignments = earlier ++ assignment :: later) :
    ∃ (slot : Slot) (reached : Register),
      procedure.slots[assignment.slot]? = some slot ∧ reached.Faithful ∧
      (reached.serve (scope.wish procedure.body assignment.slot slot)).1 =
        (assignment.name, assignment.source) ∧
      ∀ stem, endsInDigit stem = false →
        (reached.knows stem = true ↔ stem ∈ procedure.stemsInUse scope earlier) := by
  have hopen : (procedure.openRegister scope).Faithful :=
    (Register.faithful_empty.reserveAll _).reserveAll _
  have hstep : ∀ wish ∈ (scope.order procedure).map fun x =>
      (x.2, scope.wish procedure.body x.2 x.1), ∀ reached : Register, reached.Faithful →
        (reached.serve wish.2).2.Faithful := by
    intro wish hw reached hr
    obtain ⟨x, -, rfl⟩ := List.mem_map.mp hw
    exact hr.serve (scope.wish_stemmed procedure.body x.2 x.1)
  obtain ⟨reached, wish, hr, hw, hs, hn⟩ := Register.exists_reached hstep hopen h
  obtain ⟨⟨slot, index⟩, ho, heq⟩ := List.mem_map.mp hw
  obtain ⟨rfl, rfl⟩ := Prod.mk.injEq .. ▸ heq
  refine ⟨slot, reached, (Scope.mem_order.mp ho).1, hr, hs, ?_⟩
  intro stem hd
  rw [hr stem hd, hn, stemsInUse, List.mem_map]
  simp only [List.mem_append, List.mem_reverse, mem_names_openRegister]
  grind

theorem report_cases {procedure : Procedure} {scope : Scope} {earlier later : List Assignment}
    {assignment : Assignment}
    (h : (procedure.report scope).assignments = earlier ++ assignment :: later) :
    let letter? := counterLetters.find? (· ∉ procedure.stemsInUse scope earlier)
    ∃ slot, procedure.slots[assignment.slot]? = some slot ∧
      ((scope.adopted? slot).isSome = true ∧ assignment.source = .debugSymbol ∨
      scope.adopted? slot = none ∧ isCounter procedure.body assignment.slot slot.type = true ∧
        (assignment.source = .loopCounter ∧ letter? = some assignment.name ∨
        assignment.source = .type ∧ letter? = none ∧ OfStem assignment.name (typeStem slot.type)) ∨
      scope.adopted? slot = none ∧ isCounter procedure.body assignment.slot slot.type = false ∧
        let rule := firstAccepted scope.fields scope.resolve procedure.body assignment.slot slot.type
        assignment.source = rule.2 ∧ OfStem assignment.name rule.1) := by
  intro letter?
  obtain ⟨slot, reached, hslot, hr, hs, hknows⟩ := report_reached h
  have hfree : reached.freeLetter? = letter? := Register.freeLetter?_eq_find hknows
  refine ⟨slot, hslot, ?_⟩
  have hcases := scope.serve_cases procedure.body assignment.slot slot reached
  simp only [hs, Prod.mk.injEq] at hcases
  rcases hcases with ⟨debugName, ha, -, hs⟩ | ⟨ha, hc, ⟨letter, hl, hn, hs⟩ | ⟨hl, hn, hs⟩⟩ |
    ⟨ha, hc, hn, hs⟩
  · exact Or.inl ⟨by rw [ha, Option.isSome_some], hs⟩
  · obtain ⟨hletter, hunknown⟩ := Register.freeLetter?_eq_some hl
    have hd := Register.counterLetters_not_endsInDigit letter hletter
    rw [hr.issue_of_unknown hd hunknown] at hn
    rw [hfree, ← hn] at hl
    exact Or.inr (Or.inl ⟨ha, hc, Or.inl ⟨hs, hl⟩⟩)
  · refine Or.inr (Or.inl ⟨ha, hc, Or.inr ⟨hs, hfree.symm.trans hl, ?_⟩⟩)
    rw [hn]
    exact reached.issue_ofStem (typeStem slot.type)
  · refine Or.inr (Or.inr ⟨ha, hc, hs, ?_⟩)
    rw [hn]
    exact reached.issue_ofStem _

end Procedure

theorem counterLetters_increasing : counterLetters.Pairwise (· < ·) := by decide

theorem first_letter_lt {p q : String → Bool} {first second : String}
    (hp : counterLetters.find? p = some first) (hq : counterLetters.find? q = some second)
    (hsub : ∀ letter, q letter = true → p letter = true) (hnot : q first = false) :
    first < second := by
  obtain ⟨-, before, after, he, hbefore⟩ := List.find?_eq_some_iff_append.mp hp
  have hsecond := List.find?_some hq
  have hmem := List.mem_of_find?_eq_some hq
  have hinc := counterLetters_increasing
  rw [he] at hmem hinc
  rcases List.mem_append.mp hmem with hm | hm
  · have hno := hbefore second hm
    rw [hsub second hsecond] at hno
    exact absurd hno (by decide)
  · rcases List.mem_cons.mp hm with rfl | hm
    · exact absurd (hsecond.symm.trans hnot) (by decide)
    · exact (List.pairwise_cons.mp (List.pairwise_append.mp hinc).2.1).1 second hm

namespace Procedure

theorem letter_of_loopCounter {procedure : Procedure} {scope : Scope}
    {earlier later : List Assignment} {assignment : Assignment}
    (h : (procedure.report scope).assignments = earlier ++ assignment :: later)
    (hs : assignment.source = .loopCounter) :
    counterLetters.find? (· ∉ procedure.stemsInUse scope earlier) = some assignment.name := by
  obtain ⟨slot, -, hcases⟩ := report_cases h
  rcases hcases with ⟨-, hs'⟩ | ⟨-, -, ⟨-, hl⟩ | ⟨hs', -⟩⟩ | ⟨-, -, hs', -⟩
  · exact absurd (hs.symm.trans hs') (by decide)
  · exact hl
  · exact absurd (hs.symm.trans hs') (by decide)
  · have hsource := firstAccepted_source scope.fields scope.resolve procedure.body assignment.slot
      slot.type
    rw [← hs', hs] at hsource
    exact absurd hsource (by decide)

theorem letters_in_use_of_type {procedure : Procedure} {scope : Scope}
    {earlier later : List Assignment} {assignment : Assignment}
    (h : (procedure.report scope).assignments = earlier ++ assignment :: later) {slot : Slot}
    (hslot : procedure.slots[assignment.slot]? = some slot)
    (hc : isCounter procedure.body assignment.slot slot.type = true)
    (hs : assignment.source = .type) :
    ∀ letter ∈ counterLetters, letter ∈ procedure.stemsInUse scope earlier := by
  obtain ⟨other, ho, hcases⟩ := report_cases h
  rw [hslot, Option.some.injEq] at ho
  subst ho
  rcases hcases with ⟨-, hs'⟩ | ⟨-, -, ⟨hs', -⟩ | ⟨-, hl, -⟩⟩ | ⟨-, hc', -⟩
  · exact absurd (hs.symm.trans hs') (by decide)
  · exact absurd (hs.symm.trans hs') (by decide)
  · simpa using List.find?_eq_none.mp hl
  · exact absurd (hc.symm.trans hc') (by decide)

theorem stem_mem_stemsInUse (procedure : Procedure) (scope : Scope) {given : List Assignment}
    {assignment : Assignment} (h : assignment ∈ given) :
    (Numbered.ofName assignment.name).stem ∈ procedure.stemsInUse scope given := by
  apply List.mem_map_of_mem
  exact List.mem_append_right _ (List.mem_map_of_mem h)

theorem stemsInUse_mono (procedure : Procedure) (scope : Scope) {given more : List Assignment}
    (h : given ⊆ more) : procedure.stemsInUse scope given ⊆ procedure.stemsInUse scope more := by
  apply List.map_subset
  rw [List.append_subset]
  exact ⟨List.subset_append_left _ _, List.subset_append_of_subset_right _ (List.map_subset _ h)⟩

theorem report_split (procedure : Procedure) (scope : Scope) (i : Nat)
    (hi : i < (procedure.report scope).assignments.length) :
    (procedure.report scope).assignments =
      (procedure.report scope).assignments.take i ++ (procedure.report scope).assignments[i] ::
        (procedure.report scope).assignments.drop (i + 1) := by
  rw [List.getElem_cons_drop, List.take_append_drop]

theorem letters_increasing (procedure : Procedure) (scope : Scope) :
    (((procedure.report scope).assignments.filter (·.source = .loopCounter)).map
      (·.name)).Pairwise (· < ·) := by
  rw [List.pairwise_map, List.pairwise_filter, List.pairwise_iff_getElem]
  intro i j hi hj hij hfirst hsecond
  have hfirst := letter_of_loopCounter (procedure.report_split scope i hi) (by simpa using hfirst)
  have hsecond := letter_of_loopCounter (procedure.report_split scope j hj) (by simpa using hsecond)
  apply first_letter_lt hfirst hsecond
  · intro letter hl
    have hmono := procedure.stemsInUse_mono scope
      (List.take_subset_take_left (procedure.report scope).assignments (Nat.le_of_lt hij))
    simp only [decide_eq_true_eq] at hl ⊢
    exact fun hm => hl (hmono hm)
  · -- The first letter is in use when the second is chosen, as the stem of its own name.
    have hd := Register.counterLetters_not_endsInDigit _ (List.mem_of_find?_eq_some hfirst)
    have hgiven : (procedure.report scope).assignments[i] ∈
        (procedure.report scope).assignments.take j :=
      List.mem_take_iff_getElem.mpr ⟨i, by omega, rfl⟩
    have hm := procedure.stem_mem_stemsInUse scope hgiven
    rw [Numbered.ofName_of_not_endsInDigit hd] at hm
    simpa using hm

end Procedure

theorem counters_get_first_free_letters (procedure : Procedure) (scope : Scope) :
    (((procedure.report scope).assignments.filter (·.source = .loopCounter)).map
      (·.name)).Pairwise (· < ·) ∧
    ∀ earlier assignment later,
      (procedure.report scope).assignments = earlier ++ assignment :: later →
      (assignment.source = .loopCounter → assignment.name ∈ counterLetters ∧
        counterLetters.find? (· ∉ procedure.stemsInUse scope earlier) = some assignment.name) ∧
      ∀ slot, procedure.slots[assignment.slot]? = some slot →
        isCounter procedure.body assignment.slot slot.type = true → scope.adopted? slot = none →
        assignment.source = .type →
          ∀ letter ∈ counterLetters, letter ∈ procedure.stemsInUse scope earlier := by
  refine ⟨procedure.letters_increasing scope, ?_⟩
  intro earlier assignment later h
  constructor
  · intro hs
    have hletter := Procedure.letter_of_loopCounter h hs
    exact ⟨List.mem_of_find?_eq_some hletter, hletter⟩
  · intro slot hslot hc _ hs
    exact Procedure.letters_in_use_of_type h hslot hc hs

section Scanning

open Node

-- Two counters, and a local with a letter among its debug symbols.
def scanning : Procedure where
  name := "Scan"
  slots := [{ kind := .localVariable, type := .builtin .int32 },
    { kind := .localVariable, type := .builtin .int32 },
    { kind := .localVariable, type := .builtin .string, debugName := some "k" }]
  body := whileLoop (binary .compareLessThan (loadLocal 0) (constant (.int 10)))
    [whileLoop (logicNot (binary .compareGreaterOrEqual (loadLocal 1) (loadLocal 0))) []]

theorem counters_get_first_free_letters_scanning :
    (scanning.report { reserved := ["i7"] }).assignments =
      [⟨2, "j", .debugSymbol⟩, ⟨0, "k", .loopCounter⟩, ⟨1, "l", .loopCounter⟩] ∧
    counterLetters.find? (· ∉ scanning.stemsInUse { reserved := ["i7"] }
      [⟨2, "j", .debugSymbol⟩, ⟨0, "k", .loopCounter⟩]) = some "l" ∧
    (scanning.report { reserved := ["i7", "k2", "m", "n"] }).assignments =
      [⟨2, "j", .debugSymbol⟩, ⟨0, "l", .loopCounter⟩, ⟨1, "num", .type⟩] ∧
    ∀ letter ∈ counterLetters, letter ∈ scanning.stemsInUse { reserved := ["i7", "k2", "m", "n"] }
      [⟨2, "j", .debugSymbol⟩, ⟨0, "l", .loopCounter⟩] := by
  have hfew : (scanning.report { reserved := ["i7"] }).assignments =
      [⟨2, "j", .debugSymbol⟩, ⟨0, "k", .loopCounter⟩, ⟨1, "l", .loopCounter⟩] := by decide +kernel
  have hmany : (scanning.report { reserved := ["i7", "k2", "m", "n"] }).assignments =
      [⟨2, "j", .debugSymbol⟩, ⟨0, "l", .loopCounter⟩, ⟨1, "num", .type⟩] := by decide +kernel
  have hletter := (counters_get_first_free_letters scanning { reserved := ["i7"] }).2 [_, _] _ [] hfew
  have htype := (counters_get_first_free_letters scanning
    { reserved := ["i7", "k2", "m", "n"] }).2 [_, _] _ [] hmany
  exact ⟨hfew, (hletter.1 rfl).2, hmany, htype.2 _ rfl (by decide +kernel) (by decide +kernel) rfl⟩

end Scanning

end Nomen
