import Nomen.Proofs.Counts

/-!
Counts in machine words. Here a register keeps the count of a stem in a signed word of 64 bits and
adds to it one by one; an addition that does not fit ends the run without a result. As long as fewer
requests are made than there are words above the greatest number from outside, there is a result, and
it is the same as with numbers of any size.
-/

namespace Nomen

structure WordRegister where
  counts : String → Option Int64 := fun _ => none
  taken : Finset String := ∅

namespace WordRegister

def next? (count : Int64) : Option Int64 :=
  if count = Int64.maxValue then none else some (count + 1)

def search? (taken : Finset String) (spelling : Int64 → String) : (turns : Nat) → Int64 → Option Int64
  | 0, _ => none
  | turns + 1, count =>
    (next? count).bind fun next =>
      if spelling next ∈ taken then search? taken spelling turns next else some next

def put (words : WordRegister) (stem name : String) (count : Int64) : WordRegister :=
  ⟨Function.update words.counts stem (some count), insert name words.taken⟩

theorem counts_put (words : WordRegister) (stem name : String) (count : Int64) (other : String) :
    (words.put stem name count).counts other =
      if other = stem then some count else words.counts other :=
  Function.update_apply words.counts stem (some count) other

def give? (words : WordRegister) (stem : String) (spelling : Int64 → String) (count : Int64) :
    Option (Event × WordRegister) :=
  (search? words.taken spelling (words.taken.card + 1) count).map fun last =>
    (.given (spelling last), words.put stem (spelling last) last)

def issuedSpelling (stem : String) (count : Int64) : String :=
  if 1 < count then stem ++ toString count else stem

def adoptedSpelling (stem : String) (count : Int64) : String :=
  if count = 1 then stem else stem ++ toString count

def freeLetter? (words : WordRegister) : Option String :=
  counterLetters.find? fun letter => (words.counts letter).isNone

def handle? (words : WordRegister) : Request → Option (Event × WordRegister)
  | .reserve name =>
    if name = "" then some (.reserved name, words)
    else
      let split := Numbered.ofName name
      let number := Int64.ofNat split.number
      let count := max ((words.counts split.stem).getD number) number
      some (.reserved name, words.put split.stem name count)
  | .issue stem => words.give? stem (issuedSpelling stem) ((words.counts stem).getD 0)
  | .adopt name =>
    match if name ∈ counterLetters then words.freeLetter? else none with
    | some letter => some (.given letter, words.put letter letter 1)
    | none =>
      -- The count of a new stem starts below the number of the name, which may be zero.
      let split := Numbered.ofName name
      words.give? split.stem (adoptedSpelling split.stem)
        ((words.counts split.stem).getD (Int64.ofNat split.number - 1))

def run? (words : WordRegister) : List Request → Option (List Event × WordRegister)
  | [] => some ([], words)
  | request :: requests =>
    (words.handle? request).bind fun step =>
      (step.2.run? requests).map fun rest => (step.1 :: rest.1, rest.2)

theorem next?_of_lt {count : Int64} (h : count.toInt + 1 < 0x8000000000000000) :
    ∃ next, next? count = some next ∧ next.toInt = count.toInt + 1 := by
  have hne : count ≠ Int64.maxValue := by
    rintro rfl
    rw [Int64.toInt_maxValue] at h
    omega
  have hlow := count.le_toInt
  refine ⟨count + 1, if_neg hne, ?_⟩
  rw [Int64.toInt_add, Int64.toInt_one]
  apply Int.bmod_eq_of_le
  · omega
  · omega

theorem toString_eq_repr {word : Int64} {n : Nat} (h : word.toInt = n) :
    toString word = Nat.repr n := by
  change toString word.toInt = Nat.repr n
  rw [h]
  rfl

theorem eq_one_iff {word : Int64} {n : Nat} (h : word.toInt = n) : word = 1 ↔ n = 1 := by
  rw [← Int64.toInt_inj, h, Int64.toInt_one]
  omega

theorem adoptedSpelling_eq (stem : String) {word : Int64} {n : Nat} (h : word.toInt = n) :
    adoptedSpelling stem word = spell stem n := by
  simp only [adoptedSpelling, spell, eq_one_iff h, toString_eq_repr h]

theorem issuedSpelling_eq (stem : String) {word : Int64} {n : Nat} (h : word.toInt = n)
    (hn : 1 ≤ n) : issuedSpelling stem word = spell stem n := by
  have hone : 1 < word ↔ ¬ n = 1 := by
    rw [Int64.lt_iff_toInt_lt, h, Int64.toInt_one]
    omega
  simp only [issuedSpelling, spell, hone, toString_eq_repr h, ite_not]

theorem toInt_max (a b : Int64) : (max a b).toInt = max a.toInt b.toInt := by
  change (if a ≤ b then b else a).toInt = max a.toInt b.toInt
  split
  · next h =>
    rw [Int64.le_iff_toInt_le] at h
    omega
  · next h =>
    rw [Int64.le_iff_toInt_le] at h
    omega

theorem toInt_number (name : String) :
    (Int64.ofNat (Numbered.ofName name).number).toInt = (Numbered.ofName name).number := by
  have hle : (Numbered.ofName name).number ≤ 2147483647 := Numbered.ofName_number_le name
  exact Int64.toInt_ofNat_of_lt (by omega)

theorem toInt_number_sub_one (name : String) :
    (Int64.ofNat (Numbered.ofName name).number - 1).toInt + 1 = (Numbered.ofName name).number := by
  have hle : (Numbered.ofName name).number ≤ 2147483647 := Numbered.ofName_number_le name
  rw [Int64.toInt_sub, toInt_number, Int64.toInt_one, Int.bmod_eq_of_le]
  · omega
  · omega
  · omega

theorem search?_of_search? {taken : List String} {stem : String} {spelling : Int64 → String}
    {turns start number : Nat} (h : Nomen.search? taken stem turns start = some number)
    (hn : number < 0x8000000000000000)
    (hs : ∀ (word : Int64) (n : Nat), start ≤ n → word.toInt = n → spelling word = spell stem n)
    {count : Int64} (hc : count.toInt + 1 = start) :
    ∃ last, search? taken.toFinset spelling turns count = some last ∧ last.toInt = number := by
  -- The word stays one below the number that is tried next.
  induction turns generalizing start count with
  | zero => exact absurd h (by simp [Nomen.search?])
  | succ turns ih =>
    have hle := le_of_search? h
    obtain ⟨next, hnext, htoInt⟩ := @next?_of_lt count (by omega)
    have hspell := hs next start (Nat.le_refl start) (by omega)
    rw [Nomen.search?] at h
    rw [search?, hnext, Option.bind_some, hspell]
    simp only [List.mem_toFinset]
    split at h
    · next ht =>
      rw [if_pos ht]
      apply ih h
      · intro word n hsn
        exact hs word n (by omega)
      · omega
    · next hf =>
      rw [if_neg hf]
      exact ⟨next, rfl, by rw [← Option.some.inj h]; omega⟩

structure Represents (words : WordRegister) (register : Register) : Prop where
  counts : ∀ stem,
    (words.counts stem).map Int64.toInt = (register.count? stem).map fun n : Nat => (n : Int)
  taken : words.taken = register.names.toFinset

namespace Represents

variable {words : WordRegister} {register : Register}

theorem toInt_getD (h : words.Represents register) (stem : String) (word : Int64) :
    ((words.counts stem).getD word).toInt =
      ((register.count? stem).map fun n : Nat => (n : Int)).getD word.toInt := by
  rw [← h.counts, Option.getD_map]

theorem give (h : words.Represents register) {stem : String} {start number : Nat}
    {given : String × Register} (hg : register.GivesFrom stem start number given)
    (hn : number < 0x8000000000000000) {spelling : Int64 → String}
    (hs : ∀ (word : Int64) (n : Nat), start ≤ n → word.toInt = n → spelling word = spell stem n)
    {count : Int64} (hc : count.toInt + 1 = start) :
    ∃ next, words.give? stem spelling count = some (.given given.1, next) ∧
      next.Represents given.2 := by
  obtain ⟨last, hlast, htoInt⟩ := search?_of_search? hg.search hn hs hc
  have hname : spelling last = given.1 := by
    rw [hg.name]
    exact hs last number hg.least.1.1 htoInt
  refine ⟨words.put stem given.1 last, ?_, ?_, ?_⟩
  · rw [give?, h.taken, hlast, Option.map_some, hname]
  · intro other
    by_cases ho : other = stem
    · rw [ho, counts_put, if_pos rfl, hg.count, Option.map_some, Option.map_some, htoInt]
    · rw [counts_put, if_neg ho, h.counts, hg.others other ho]
  · rw [put, h.taken, hg.names]

theorem enter (h : words.Represents register) {name stem : String} {number : Nat} {word : Int64}
    (hw : word.toInt = (max number ((register.count? stem).getD 0) : Nat)) :
    (words.put stem name word).Represents (register.enter ⟨name, stem, number⟩) := by
  constructor
  · intro other
    rw [Register.count?_enter, counts_put]
    by_cases ho : other = stem
    · rw [ho, if_pos rfl, if_pos rfl, Option.map_some, Option.map_some, hw]
    · rw [if_neg ho, if_neg (Ne.symm ho), h.counts]
  · rw [put, h.taken, Register.names_enter, List.toFinset_cons]

theorem isNone_counts (h : words.Represents register) (stem : String) :
    (words.counts stem).isNone = !register.knows stem := by
  have hisSome := congrArg Option.isSome (h.counts stem)
  rw [Option.isSome_map, Option.isSome_map] at hisSome
  rw [Register.knows, ← hisSome, Option.not_isSome]

theorem freeLetter?_eq (h : words.Represents register) :
    words.freeLetter? = register.freeLetter? := by
  simp only [freeLetter?, Register.freeLetter?, h.isNone_counts]

theorem reserve (h : words.Represents register) (name : String) :
    ∃ next, words.handle? (.reserve name) = some (.reserved name, next) ∧
      next.Represents (register.reserve name) := by
  by_cases hn : name = ""
  · exact ⟨words, if_pos hn, by rwa [Register.reserve, if_pos hn]⟩
  · refine ⟨_, if_neg hn, ?_⟩
    rw [register.reserve_of_ne_empty hn]
    apply h.enter
    rw [toInt_max, h.toInt_getD, toInt_number]
    cases register.count? (Numbered.ofName name).stem with
    | none =>
      rw [Option.map_none, Option.getD_none, Option.getD_none]
      omega
    | some count =>
      rw [Option.map_some, Option.getD_some, Option.getD_some]
      omega

theorem issue (h : words.Represents register) {stem : String}
    (hb : ∀ number, (register.issue stem).2.count? stem = some number →
      number < 0x8000000000000000) :
    ∃ next, words.handle? (.issue stem) = some (.given (register.issue stem).1, next) ∧
      next.Represents (register.issue stem).2 := by
  obtain ⟨number, hg⟩ := register.exists_givesFrom_issue stem
  apply h.give hg (hb number hg.count)
  · intro word n hn hw
    exact issuedSpelling_eq stem hw (by omega)
  · rw [h.toInt_getD]
    cases register.count? stem with
    | none => rfl
    | some count => rfl

theorem adopt (h : words.Represents register) {name : String}
    (hb : ∀ stem number, (register.adopt name).2.count? stem = some number →
      number < 0x8000000000000000) :
    ∃ next, words.handle? (.adopt name) = some (.given (register.adopt name).1, next) ∧
      next.Represents (register.adopt name).2 := by
  rcases register.adopt_cases name with ⟨letter, hn, hl, he⟩ | ⟨hn, -⟩
  · refine ⟨words.put letter letter 1, ?_, ?_⟩
    · simp only [handle?, h.freeLetter?_eq, hn, hl, he, ↓reduceIte]
    · rw [he]
      apply h.enter
      rw [Register.count?_eq_none (Register.freeLetter?_eq_some hl).2]
      rfl
  · obtain ⟨number, hg⟩ := Register.exists_givesFrom_adopt hn
    have hletter : (if name ∈ counterLetters then words.freeLetter? else none) = none := by
      rw [h.freeLetter?_eq, Register.ite_freeLetter?_eq_none hn]
    simp only [handle?, hletter]
    apply h.give hg (hb _ number hg.count)
    · intro word n _ hw
      exact adoptedSpelling_eq _ hw
    · rw [h.toInt_getD, Register.adoptStart]
      cases register.count? (Numbered.ofName name).stem with
      | none => exact toInt_number_sub_one name
      | some count => rfl

theorem handle (h : words.Represents register) {request : Request}
    (hb : ∀ stem number, (register.handle request).2.count? stem = some number →
      number < 0x8000000000000000) :
    ∃ next, words.handle? request = some ((register.handle request).1, next) ∧
      next.Represents (register.handle request).2 := by
  cases request with
  | reserve name => exact h.reserve name
  | issue stem => exact h.issue (hb stem)
  | adopt name => exact h.adopt hb

theorem run (h : words.Represents register) (hf : register.Filled) {requests : List Request}
    (hb : greatestNumber + (register.names.length + requests.length) < 0x8000000000000000) :
    ∃ last, words.run? requests = some (register.history requests, last) ∧
      last.Represents (register.after requests) := by
  induction requests generalizing words register with
  | nil => exact ⟨words, rfl, h⟩
  | cons request requests ih =>
    rw [List.length_cons] at hb
    have hlength := register.length_names_handle request
    have hfilled := hf.handle request
    obtain ⟨next, hnext, hrep⟩ := @handle words register h request (by
      intro stem number hc
      have hle := hfilled.count_le stem
      rw [hc, Option.getD_some] at hle
      omega)
    obtain ⟨last, hlast, hrep'⟩ := ih hrep hfilled (by omega)
    refine ⟨last, ?_, hrep'⟩
    rw [run?, hnext, Option.bind_some, hlast, Option.map_some, Register.history]

end Represents

theorem represents_empty : ({} : WordRegister).Represents {} :=
  ⟨fun _ => rfl, rfl⟩

theorem counts_fit_in_words (requests : List Request) :
    (∀ stem count, (({} : Register).after requests).count? stem = some count →
      count ≤ 2147483647 + requests.length) ∧
    (∀ earlier request later name, requests = earlier ++ request :: later →
      ((({} : Register).after earlier).handle request).1 = .given name →
      ∃ number, ((({} : Register).after earlier).handle request).2.count?
          ((({} : Register).after earlier).stemOf request) = some number ∧
        name = spell ((({} : Register).after earlier).stemOf request) number ∧
        number ≤ 2147483647 + requests.length) ∧
    (∀ earlier later stem count, requests = earlier ++ later →
      (({} : Register).after earlier).count? stem = some count →
      ∃ grown, (({} : Register).after requests).count? stem = some grown ∧ count ≤ grown) ∧
    (requests.length < 0x8000000000000000 - 0x80000000 →
      ∃ words, ({} : WordRegister).run? requests =
          some (({} : Register).history requests, words) ∧
        words.Represents (({} : Register).after requests) ∧
        ∀ stem word, words.counts stem = some word →
          0 ≤ word.toInt ∧ word.toInt ≤ 2147483647 + requests.length) := by
  have hlimit : greatestNumber = 2147483647 := rfl
  have hnames : ({} : Register).names.length = 0 := rfl
  have hcount (stem : String) (count : Nat)
      (hc : (({} : Register).after requests).count? stem = some count) :
      count ≤ 2147483647 + requests.length := by
    have hle := (Register.filled_empty.after requests).count_le stem
    have hlength := ({} : Register).length_names_after requests
    rw [hc, Option.getD_some] at hle
    omega
  refine ⟨hcount, ?_, ?_, ?_⟩
  · rintro earlier request later name rfl hg
    obtain ⟨number, hc, hn, hle⟩ := (Register.filled_empty.after earlier).given_le hg
    have hlength := ({} : Register).length_names_after earlier
    refine ⟨number, hc, hn, ?_⟩
    rw [List.length_append, List.length_cons]
    omega
  · rintro earlier later stem count rfl hc
    rw [Register.after_append]
    exact Register.count?_after hc later
  · intro hb
    obtain ⟨words, hrun, hrep⟩ := @Represents.run _ _ represents_empty Register.filled_empty requests
      (by omega)
    refine ⟨words, hrun, hrep, ?_⟩
    intro stem word hw
    have hc := hrep.counts stem
    rw [hw, Option.map_some] at hc
    obtain ⟨count, hcount', hcast⟩ := Option.map_eq_some_iff.mp hc.symm
    have hle := hcount stem count hcount'
    omega

-- Two numbers at the limit are reserved, and the second is too great to be split off.
def pastLimit : List Request :=
  [.reserve "obj2147483647", .reserve "obj2147483648", .issue "obj", .adopt "x0"]

theorem counts_fit_in_words_past_limit :
    ({} : Register).history pastLimit = [.reserved "obj2147483647", .reserved "obj2147483648",
      .given "obj2147483649", .given "x0"] ∧
    ((({} : Register).after pastLimit).count? "obj" = some 2147483649 ∧
      2147483649 ≤ 2147483647 + pastLimit.length) ∧
    (((({} : Register).after (pastLimit.take 2)).handle (.issue "obj")).1 = .given "obj2147483649" ∧
      ∃ number, ((({} : Register).after (pastLimit.take 2)).handle (.issue "obj")).2.count? "obj" =
          some number ∧
        "obj2147483649" = spell "obj" number ∧ number ≤ 2147483647 + pastLimit.length) ∧
    ((({} : Register).after (pastLimit.take 1)).count? "obj" = some 2147483647 ∧
      ∃ grown, (({} : Register).after pastLimit).count? "obj" = some grown ∧ 2147483647 ≤ grown) ∧
    pastLimit.length < 0x8000000000000000 - 0x80000000 ∧
    ∃ words, ({} : WordRegister).run? pastLimit =
        some (({} : Register).history pastLimit, words) ∧
      words.Represents (({} : Register).after pastLimit) ∧
      ∀ stem word, words.counts stem = some word →
        0 ≤ word.toInt ∧ word.toInt ≤ 2147483647 + pastLimit.length := by
  have hcount : (({} : Register).after pastLimit).count? "obj" = some 2147483649 := by
    decide +kernel
  have hgiven : ((({} : Register).after (pastLimit.take 2)).handle (.issue "obj")).1 =
      .given "obj2147483649" := by decide +kernel
  have hfirst : (({} : Register).after (pastLimit.take 1)).count? "obj" = some 2147483647 := by
    decide +kernel
  have hlength : pastLimit.length < 0x8000000000000000 - 0x80000000 := by decide
  obtain ⟨hle, hspelled, hgrows, hwords⟩ := counts_fit_in_words pastLimit
  exact ⟨by decide +kernel, ⟨hcount, hle _ _ hcount⟩,
    ⟨hgiven, hspelled (pastLimit.take 2) (.issue "obj") [.adopt "x0"] _ rfl hgiven⟩,
    ⟨hfirst, hgrows _ _ _ _ (List.take_append_drop 1 pastLimit).symm hfirst⟩, hlength, hwords hlength⟩

end WordRegister

end Nomen
