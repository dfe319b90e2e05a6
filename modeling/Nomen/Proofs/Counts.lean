import Nomen.Proofs.FreeNumbers

/-!
How far the counts of a register go. A number from outside is at most the greatest that is split off
a name. Above it a count rises only past names in use, and these are no more than the requests made:
one request may take a count over many numbers, but never over more than there are names.
-/

namespace Nomen

namespace Register

def Filled (register : Register) : Prop :=
  ∀ stem n, greatestNumber < n → n ≤ (register.count? stem).getD 0 → spell stem n ∈ register.names

theorem filled_empty : ({} : Register).Filled := by
  intro stem n hn hc
  have hzero : n ≤ 0 := hc
  omega

theorem handle_cases (register : Register) (request : Request) :
    (register.handle request).2 = register ∨
    (∃ entry, entry.number ≤ greatestNumber ∧
      (register.handle request).2 = register.enter entry) ∨
    ∃ stem start, (start ≤ (register.count? stem).getD 0 + 1 ∨ start ≤ greatestNumber) ∧
      (register.handle request).2 = (register.enterFrom stem start).2 := by
  cases request with
  | reserve name =>
    by_cases hn : name = ""
    · exact Or.inl (if_pos hn)
    · refine Or.inr (Or.inl ⟨_, ?_, register.reserve_of_ne_empty hn⟩)
      exact Numbered.ofName_number_le name
  | issue stem => exact Or.inr (Or.inr ⟨stem, _, Or.inl (Nat.le_refl _), rfl⟩)
  | adopt name =>
    rw [handle]
    rcases register.adopt_cases name with ⟨letter, -, -, he⟩ | ⟨-, he⟩
    · rw [he]
      exact Or.inr (Or.inl ⟨⟨letter, letter, 1⟩, show 1 ≤ greatestNumber by decide, rfl⟩)
    · rw [he]
      refine Or.inr (Or.inr ⟨_, _, ?_, rfl⟩)
      rw [adoptStart]
      cases register.count? (Numbered.ofName name).stem with
      | none => exact Or.inr (Numbered.ofName_number_le name)
      | some count => exact Or.inl (Nat.le_refl _)

theorem handle_eq_or_enter (register : Register) (request : Request) :
    (register.handle request).2 = register ∨
      ∃ entry, (register.handle request).2 = register.enter entry := by
  rcases register.handle_cases request with he | ⟨entry, -, he⟩ | ⟨stem, start, -, he⟩
  · exact Or.inl he
  · exact Or.inr ⟨entry, he⟩
  · exact Or.inr ⟨_, he⟩

theorem Filled.enter {register : Register} (h : register.Filled) {entry : Entry}
    (he : ∀ n, greatestNumber < n → n ≤ entry.number →
      spell entry.stem n ∈ (register.enter entry).names) : (register.enter entry).Filled := by
  intro stem n hn hc
  have hold (hc : n ≤ (register.count? stem).getD 0) : spell stem n ∈ (register.enter entry).names :=
    List.mem_cons_of_mem _ (h stem n hn hc)
  rw [getD_count?_enter] at hc
  split at hc
  · next hs =>
    rcases le_max_iff.mp hc with hc | hc
    · exact hs ▸ he n hn hc
    · exact hold hc
  · exact hold hc

theorem Filled.enterFrom {register : Register} (h : register.Filled) {stem : String} {start : Nat}
    (hs : start ≤ (register.count? stem).getD 0 + 1 ∨ start ≤ greatestNumber) :
    (register.enterFrom stem start).2.Filled := by
  obtain ⟨k, -, he, ht, -⟩ := register.enterFrom_spec stem start
  rw [he]
  apply h.enter
  intro n hn hle
  change n ≤ start + k at hle
  -- The new name is the last of the numbers; those before it were passed by the search or counted.
  rcases Nat.lt_or_ge n (start + k) with hlt | hge
  · apply List.mem_cons_of_mem
    rcases Nat.lt_or_ge n start with hbelow | habove
    · exact h stem n hn (by omega)
    · have htaken := ht (n - start) (by omega)
      rwa [Nat.add_sub_cancel' habove] at htaken
  · obtain rfl : n = start + k := by omega
    exact List.mem_cons_self

theorem Filled.handle {register : Register} (h : register.Filled) (request : Request) :
    (register.handle request).2.Filled := by
  rcases register.handle_cases request with he | ⟨entry, hn, he⟩ | ⟨stem, start, hs, he⟩
  · rwa [he]
  · rw [he]
    apply h.enter
    intro n hlow hle
    omega
  · rw [he]
    exact h.enterFrom hs

theorem Filled.after {register : Register} (h : register.Filled) (requests : List Request) :
    (register.after requests).Filled := by
  induction requests generalizing register with
  | nil => exact h
  | cons request requests ih => exact ih (h.handle request)

theorem Filled.count_le {register : Register} (h : register.Filled) (stem : String) :
    (register.count? stem).getD 0 ≤ greatestNumber + register.names.length := by
  have htaken : ∀ j < (register.count? stem).getD 0 - greatestNumber,
      spell stem (greatestNumber + 1 + j) ∈ register.names := by
    intro j hj
    exact h stem _ (by omega) (by omega)
  have hcard := le_card_of_spellings htaken
  have hlength := register.names.toFinset_card_le
  omega

theorem length_names_handle (register : Register) (request : Request) :
    (register.handle request).2.names.length ≤ register.names.length + 1 := by
  rcases register.handle_eq_or_enter request with he | ⟨entry, he⟩
  · rw [he]
    omega
  · rw [he, names_enter, List.length_cons]

theorem length_names_after (register : Register) (requests : List Request) :
    (register.after requests).names.length ≤ register.names.length + requests.length := by
  induction requests generalizing register with
  | nil => exact Nat.le_refl _
  | cons request requests ih =>
    have hstep := register.length_names_handle request
    have hrest := ih (register.handle request).2
    rw [after, List.length_cons]
    omega

theorem after_append (register : Register) (earlier later : List Request) :
    register.after (earlier ++ later) = (register.after earlier).after later := by
  induction earlier generalizing register with
  | nil => rfl
  | cons request earlier ih => exact ih (register.handle request).2

theorem count?_handle {register : Register} {stem : String} {count : Nat}
    (h : register.count? stem = some count) (request : Request) :
    ∃ grown, (register.handle request).2.count? stem = some grown ∧ count ≤ grown := by
  rcases register.handle_eq_or_enter request with he | ⟨entry, he⟩
  · exact ⟨count, by rw [he, h], Nat.le_refl count⟩
  · rw [he, count?_enter, h]
    split
    · exact ⟨_, rfl, Nat.le_max_right entry.number count⟩
    · exact ⟨count, rfl, Nat.le_refl count⟩

theorem count?_after {register : Register} {stem : String} {count : Nat}
    (h : register.count? stem = some count) (requests : List Request) :
    ∃ grown, (register.after requests).count? stem = some grown ∧ count ≤ grown := by
  induction requests generalizing register count with
  | nil => exact ⟨count, h, Nat.le_refl count⟩
  | cons request requests ih =>
    obtain ⟨next, hnext, hle⟩ := count?_handle h request
    obtain ⟨grown, hgrown, hle'⟩ := ih hnext
    exact ⟨grown, hgrown, Nat.le_trans hle hle'⟩

/-- The stem that a request is about. For a counter letter it is the free letter that is given. -/
def stemOf (register : Register) : Request → String
  | .reserve name => (Numbered.ofName name).stem
  | .issue stem => stem
  | .adopt name =>
    (if name ∈ counterLetters then register.freeLetter? else none).getD (Numbered.ofName name).stem

theorem given_spelled {register : Register} {request : Request} {name : String}
    (h : (register.handle request).1 = .given name) :
    ∃ number, (register.handle request).2.count? (register.stemOf request) = some number ∧
      name = spell (register.stemOf request) number := by
  cases request with
  | reserve other => exact absurd h (by simp [handle])
  | issue stem =>
    obtain ⟨number, hg⟩ := register.exists_givesFrom_issue stem
    obtain rfl : (register.issue stem).1 = name := by simpa [handle] using h
    exact ⟨number, hg.count, hg.name⟩
  | adopt other =>
    obtain rfl : (register.adopt other).1 = name := by simpa [handle] using h
    rcases register.adopt_cases other with ⟨letter, hm, hl, he⟩ | ⟨hl, -⟩
    · have hstem : register.stemOf (.adopt other) = letter := by simp [stemOf, hm, hl]
      have hunknown := count?_eq_none (freeLetter?_eq_some hl).2
      refine ⟨1, ?_, by rw [hstem, he, spell_one]⟩
      rw [hstem, handle, he, count?_enter, if_pos rfl, hunknown]
      rfl
    · have hstem : register.stemOf (.adopt other) = (Numbered.ofName other).stem := by
        rw [stemOf, ite_freeLetter?_eq_none hl, Option.getD_none]
      obtain ⟨number, hg⟩ := exists_givesFrom_adopt hl
      rw [hstem]
      exact ⟨number, hg.count, hg.name⟩

theorem Filled.given_le {register : Register} (hf : register.Filled) {request : Request}
    {name : String} (h : (register.handle request).1 = .given name) :
    ∃ number, (register.handle request).2.count? (register.stemOf request) = some number ∧
      name = spell (register.stemOf request) number ∧
      number ≤ greatestNumber + (register.names.length + 1) := by
  obtain ⟨number, hc, hn⟩ := given_spelled h
  have hle := (hf.handle request).count_le (register.stemOf request)
  have hlength := register.length_names_handle request
  rw [hc, Option.getD_some] at hle
  exact ⟨number, hc, hn, by omega⟩

end Register

end Nomen
