import Mathlib.Data.Finset.Card
import Nomen.Proofs.Spelling
import Nomen.Register

/-!
What a register enters. A search for a spelling ends at one that is free, since the spellings of a
stem differ from each other. A free counter letter needs another argument: it is chosen by what
stems are known, and a taken letter is known as its own stem.
-/

namespace Nomen

theorem freeNumber_spec (taken : List String) (stem : String) (tries number : Nat) :
    ∃ k ≤ tries, freeNumber taken stem tries number = number + k ∧
      (∀ j < k, spell stem (number + j) ∈ taken) ∧
      (spell stem (number + k) ∈ taken → k = tries) := by
  induction tries generalizing number with
  | zero => exact ⟨0, Nat.le_refl 0, rfl, by simp, fun _ => rfl⟩
  | succ tries ih =>
    by_cases ht : spell stem number ∈ taken
    · obtain ⟨k, hk, he, hj, hlast⟩ := ih (number + 1)
      have hadd (j : Nat) : number + 1 + j = number + (j + 1) := by omega
      refine ⟨k + 1, by omega, ?_, ?_, ?_⟩
      · rw [freeNumber, if_pos ht, he, hadd]
      · intro j hj'
        cases j with
        | zero => exact ht
        | succ j => rw [← hadd]; exact hj j (by omega)
      · intro hm
        rw [← hadd] at hm
        rw [hlast hm]
    · exact ⟨0, by omega, by rw [freeNumber, if_neg ht, Nat.add_zero], by simp,
        fun hm => absurd hm ht⟩

theorem le_card_of_spellings {taken : List String} {stem : String} {start k : Nat}
    (h : ∀ j < k, spell stem (start + j) ∈ taken) : k ≤ taken.toFinset.card := by
  have hinj : Function.Injective fun j => spell stem (start + j) := by
    intro i j he
    have := spell_injective stem he
    omega
  have hsub : (Finset.range k).image (fun j => spell stem (start + j)) ⊆ taken.toFinset := by
    intro name hn
    obtain ⟨j, hj, rfl⟩ := Finset.mem_image.mp hn
    exact List.mem_toFinset.mpr (h j (Finset.mem_range.mp hj))
  have hcard := Finset.card_le_card hsub
  rwa [Finset.card_image_of_injective _ hinj, Finset.card_range] at hcard

theorem exists_free_spelling (taken : List String) (stem : String) (number : Nat) :
    ∃ k ≤ taken.length, spell stem (number + k) ∉ taken := by
  by_contra hall
  have htaken : ∀ k < taken.length + 1, spell stem (number + k) ∈ taken := by
    intro k hk
    by_contra hfree
    exact hall ⟨k, by omega, hfree⟩
  have hcard := le_card_of_spellings htaken
  have hlength := taken.toFinset_card_le
  omega

theorem getD_max?_le {ns : List Nat} {n : Nat} : ns.max?.getD 0 ≤ n ↔ ∀ m ∈ ns, m ≤ n := by
  cases hm : ns.max? with
  | none => simp [List.max?_eq_none_iff.mp hm]
  | some m => exact List.max?_le_iff hm

namespace Entry

/-- A name is entered as it splits, or under the stem and the number that spell it. -/
def Sound (entry : Entry) : Prop :=
  Numbered.ofName entry.name = ⟨entry.stem, entry.number⟩ ∨ entry.name = spell entry.stem entry.number

theorem Sound.stem_eq {entry : Entry} (h : entry.Sound) (hn : endsInDigit entry.name = false) :
    entry.stem = entry.name := by
  rcases h with h | h
  · rw [Numbered.ofName_of_not_endsInDigit hn] at h
    exact (congrArg Numbered.stem h).symm
  · by_cases h1 : entry.number = 1
    · rw [h, h1, spell_one]
    · rw [h, endsInDigit_spell entry.stem h1] at hn
      exact absurd hn (by decide)

end Entry

namespace Register

def Sound (register : Register) : Prop :=
  ∀ entry ∈ register.entries, entry.Sound

theorem sound_empty : ({} : Register).Sound := by
  intro entry h
  exact absurd h List.not_mem_nil

theorem Sound.enter {register : Register} {entry : Entry} (h : register.Sound) (he : entry.Sound) :
    (register.enter entry).Sound := by
  intro other ho
  rcases List.mem_cons.mp ho with rfl | ho
  · exact he
  · exact h other ho

theorem names_enter (register : Register) (entry : Entry) :
    (register.enter entry).names = entry.name :: register.names := rfl

theorem mem_names {register : Register} {name : String} :
    name ∈ register.names ↔ ∃ entry ∈ register.entries, entry.name = name := by
  rw [names, List.mem_map]

theorem knows_iff {register : Register} {stem : String} :
    register.knows stem = true ↔ ∃ entry ∈ register.entries, entry.stem = stem := by
  rw [knows, count?, List.isSome_max?_iff]
  simp

theorem count?_eq_none {register : Register} {stem : String} (h : register.knows stem = false) :
    register.count? stem = none := by
  simpa [knows] using h

theorem getD_count?_le {register : Register} {stem : String} {n : Nat} :
    (register.count? stem).getD 0 ≤ n ↔
      ∀ entry ∈ register.entries, entry.stem = stem → entry.number ≤ n := by
  rw [count?, getD_max?_le, List.forall_mem_map]
  simp

theorem count?_enter (register : Register) (entry : Entry) (stem : String) :
    (register.enter entry).count? stem =
      if entry.stem = stem then some (max entry.number ((register.count? stem).getD 0))
      else register.count? stem := by
  rw [count?, enter]
  by_cases he : entry.stem = stem
  · rw [if_pos he, List.filter_cons_of_pos (by simpa using he), List.map_cons, List.max?_cons, ← count?]
    cases register.count? stem with
    | none => simp
    | some count => simp
  · rw [if_neg he, List.filter_cons_of_neg (by simpa using he), ← count?]

theorem getD_count?_enter (register : Register) (entry : Entry) (stem : String) :
    ((register.enter entry).count? stem).getD 0 =
      if entry.stem = stem then max entry.number ((register.count? stem).getD 0)
      else (register.count? stem).getD 0 := by
  rw [count?_enter]
  split
  · rfl
  · rfl

theorem enterFrom_spec (register : Register) (stem : String) (start : Nat) :
    ∃ k ≤ register.names.length,
      register.enterFrom stem start =
        (spell stem (start + k), register.enter ⟨spell stem (start + k), stem, start + k⟩) ∧
      (∀ j < k, spell stem (start + j) ∈ register.names) ∧
      spell stem (start + k) ∉ register.names := by
  obtain ⟨k, hk, he, hj, hlast⟩ := freeNumber_spec register.names stem register.names.length start
  refine ⟨k, hk, by rw [enterFrom, he], hj, ?_⟩
  intro hm
  obtain ⟨i, hi, hfree⟩ := exists_free_spelling register.names stem start
  have hik : ¬ i < k := fun h => hfree (hj i h)
  have hkl := hlast hm
  have hie : i = k := by omega
  exact hfree (hie ▸ hm)

theorem issue_ofStem (register : Register) (stem : String) :
    OfStem (register.issue stem).1 stem := by
  obtain ⟨k, -, he, -⟩ := register.enterFrom_spec stem ((register.count? stem).getD 0 + 1)
  rw [issue, he]
  exact ofStem_spell stem (by omega)

theorem freeLetter?_eq_some {register : Register} {letter : String}
    (h : register.freeLetter? = some letter) :
    letter ∈ counterLetters ∧ register.knows letter = false := by
  refine ⟨List.mem_of_find?_eq_some h, ?_⟩
  simpa using List.find?_some h

theorem counterLetters_not_endsInDigit :
    ∀ letter ∈ counterLetters, endsInDigit letter = false := by decide

theorem Sound.freeLetter_notMem {register : Register} (hs : register.Sound) {letter : String}
    (h : register.freeLetter? = some letter) : letter ∉ register.names := by
  obtain ⟨hl, hk⟩ := freeLetter?_eq_some h
  intro hm
  obtain ⟨entry, he, rfl⟩ := mem_names.mp hm
  have hstem := (hs entry he).stem_eq (counterLetters_not_endsInDigit _ hl)
  rw [knows_iff.mpr ⟨entry, he, hstem⟩] at hk
  exact absurd hk (by decide)

theorem reserve_of_ne_empty (register : Register) {name : String} (h : name ≠ "") :
    register.reserve name =
      register.enter ⟨name, (Numbered.ofName name).stem, (Numbered.ofName name).number⟩ :=
  if_neg h

theorem mem_entries_reserveAll {register : Register} {names : List String} {entry : Entry} :
    entry ∈ (register.reserveAll names).entries ↔
      (∃ name ∈ names, name ≠ "" ∧
        entry = ⟨name, (Numbered.ofName name).stem, (Numbered.ofName name).number⟩) ∨
      entry ∈ register.entries := by
  induction names generalizing register with
  | nil => simp [reserveAll]
  | cons name names ih =>
    rw [reserveAll, List.foldl_cons, ← reserveAll, ih]
    by_cases h : name = ""
    · simp [reserve, h]
    · rw [reserve_of_ne_empty register h, enter, List.mem_cons]
      simp only [List.mem_cons, or_and_right, exists_or, exists_eq_left, h, ne_eq, not_false_eq_true,
        true_and]
      rw [or_left_comm, ← or_assoc]

theorem mem_names_reserveAll {register : Register} {names : List String} {name : String} :
    name ∈ (register.reserveAll names).names ↔
      name ∈ names ∧ name ≠ "" ∨ name ∈ register.names := by
  simp only [mem_names, mem_entries_reserveAll]
  grind

theorem mem_names_reserve {register : Register} {name other : String} :
    other ∈ (register.reserve name).names ↔ other = name ∧ name ≠ "" ∨ other ∈ register.names := by
  by_cases h : name = ""
  · simp [reserve, h]
  · rw [reserve_of_ne_empty register h, names_enter, List.mem_cons]
    simp [h]

theorem Sound.reserve {register : Register} (hs : register.Sound) (name : String) :
    (register.reserve name).Sound := by
  by_cases h : name = ""
  · rw [Register.reserve, if_pos h]
    exact hs
  · rw [reserve_of_ne_empty register h]
    exact hs.enter (Or.inl rfl)

def adoptStart (register : Register) (split : Numbered) : Nat :=
  ((register.count? split.stem).map (· + 1)).getD split.number

theorem ite_freeLetter?_eq_none {register : Register} {name : String}
    (h : name ∉ counterLetters ∨ register.freeLetter? = none) :
    (if name ∈ counterLetters then register.freeLetter? else none) = none := by
  rw [ite_eq_right_iff]
  intro hn
  exact h.resolve_left fun hnot => hnot hn

theorem adopt_cases (register : Register) (name : String) :
    (∃ letter, name ∈ counterLetters ∧ register.freeLetter? = some letter ∧
      register.adopt name = (letter, register.enter ⟨letter, letter, 1⟩)) ∨
    (name ∉ counterLetters ∨ register.freeLetter? = none) ∧
      register.adopt name = register.enterFrom (Numbered.ofName name).stem
        (register.adoptStart (Numbered.ofName name)) := by
  by_cases hn : name ∈ counterLetters
  · cases hl : register.freeLetter? with
    | some letter => exact Or.inl ⟨letter, hn, rfl, by simp only [adopt, hn, hl, ↓reduceIte]⟩
    | none => exact Or.inr ⟨Or.inr rfl, by simp only [adopt, adoptStart, hn, hl, ↓reduceIte]⟩
  · exact Or.inr ⟨Or.inl hn, by simp only [adopt, adoptStart, hn, ↓reduceIte]⟩

end Register

end Nomen
