import Mathlib.Logic.Function.Basic
import Nomen.Proofs.Freshness

namespace Nomen

def greatestReserved (reserved : List String) (stem : String) : Nat :=
  ((((reserved.filter (· ≠ "")).map Numbered.ofName).filter (·.stem = stem)).map
    (·.number)).max?.getD 0

theorem greatestReserved_le {reserved : List String} {stem : String} {n : Nat} :
    greatestReserved reserved stem ≤ n ↔
      ∀ name ∈ reserved, name ≠ "" → (Numbered.ofName name).stem = stem →
        (Numbered.ofName name).number ≤ n := by
  rw [greatestReserved, getD_max?_le]
  simp only [List.mem_filter, List.mem_map, decide_eq_true_eq]
  grind

namespace Register

/-- Each stem without digits at its end is in use up to its last number and not beyond. -/
structure Tallied (register : Register) (last : String → Nat) : Prop where
  count : ∀ stem, endsInDigit stem = false → (register.count? stem).getD 0 = last stem
  free : ∀ stem, endsInDigit stem = false → ∀ n, last stem < n → spell stem n ∉ register.names

namespace Tallied

variable {register : Register} {last : String → Nat}

theorem issue_eq (h : register.Tallied last) {stem : String} (hs : endsInDigit stem = false) :
    register.issue stem = (spell stem (last stem + 1),
      register.enter ⟨spell stem (last stem + 1), stem, last stem + 1⟩) := by
  obtain ⟨k, -, he, htaken, -⟩ := register.enterFrom_spec stem (last stem + 1)
  have hzero : k = 0 := by
    by_contra hk
    exact h.free stem hs _ (by omega) (htaken 0 (by omega))
  rw [issue, h.count stem hs, he, hzero, Nat.add_zero]

theorem issue (h : register.Tallied last) {stem : String} (hs : endsInDigit stem = false) :
    (register.issue stem).2.Tallied (Function.update last stem (last stem + 1)) := by
  rw [h.issue_eq hs]
  constructor
  · intro other ho
    rw [getD_count?_enter, h.count other ho]
    by_cases he : stem = other
    · subst he
      simp
    · simp [he, Ne.symm he]
  · intro other ho n hn
    rw [names_enter, List.mem_cons, not_or]
    by_cases he : stem = other
    · subst he
      rw [Function.update_self] at hn
      refine ⟨?_, h.free stem hs n (by omega)⟩
      intro hspell
      have := spell_injective stem hspell
      omega
    · rw [Function.update_of_ne (Ne.symm he)] at hn
      exact ⟨fun hspell => he (Numbered.stem_eq_of_spell ho hs hspell).symm, h.free other ho n hn⟩

theorem history_issue (h : register.Tallied last) {stems : List String}
    (hs : ∀ stem ∈ stems, endsInDigit stem = false) :
    register.history (stems.map .issue) = stems.mapIdx fun index stem =>
      .given (spell stem (last stem + (stems.take (index + 1)).count stem)) := by
  induction stems generalizing register last with
  | nil => rfl
  | cons stem stems ih =>
    have hstem := hs stem List.mem_cons_self
    have hrest := ih (h.issue hstem) fun other ho => hs other (List.mem_cons_of_mem stem ho)
    rw [List.map_cons, history, handle, hrest, h.issue_eq hstem, List.mapIdx_cons]
    congr 1
    · simp
    · apply List.mapIdx_eq_mapIdx_iff.mpr
      intro index hi
      rw [List.take_succ_cons (i := index + 1), List.count_cons]
      by_cases he : stem = stems[index]
      · rw [← he, Function.update_self, beq_self_eq_true, if_pos rfl]
        congr 2
        omega
      · rw [Function.update_of_ne (Ne.symm he)]
        simp [he]

end Tallied

theorem tallied_reserveAll {reserved : List String}
    (hr : ∀ name ∈ reserved, Nat.ofDigitChars 10 (Numbered.endDigits name) 0 ≤ greatestNumber) :
    (({} : Register).reserveAll reserved).Tallied (greatestReserved reserved) := by
  have hempty (entry : Entry) : entry ∉ ({} : Register).entries := List.not_mem_nil
  constructor
  · intro stem _
    have hle (n : Nat) : ((({} : Register).reserveAll reserved).count? stem).getD 0 ≤ n ↔
        greatestReserved reserved stem ≤ n := by
      simp only [getD_count?_le, greatestReserved_le, mem_entries_reserveAll, hempty, or_false]
      constructor
      · intro h name hname hne
        exact h _ ⟨name, hname, hne, rfl⟩
      · rintro h entry ⟨name, hname, hne, rfl⟩
        exact h name hname hne
    exact Nat.le_antisymm ((hle _).mpr (Nat.le_refl _)) ((hle _).mp (Nat.le_refl _))
  · intro stem hs n hn hm
    obtain ⟨hname, hne⟩ := (mem_names_reserveAll.mp hm).resolve_right List.not_mem_nil
    have hle : n ≤ greatestNumber := by
      by_cases h1 : n = 1
      · rw [h1]
        decide
      · have hvalue := hr _ hname
        rwa [spell_of_ne_one stem h1, Numbered.endDigits_append hs (repr_all_isDigit n),
          ofDigitChars_repr] at hvalue
    have hreserved := greatestReserved_le.mp (Nat.le_refl (greatestReserved reserved stem)) _ hname hne
    rw [Numbered.ofName_spell hs hle] at hreserved
    have hnumber : n ≤ greatestReserved reserved stem := hreserved rfl
    omega

theorem issued_numbers_run_on (reserved stems : List String)
    (hr : ∀ name ∈ reserved, Nat.ofDigitChars 10 (Numbered.endDigits name) 0 ≤ greatestNumber)
    (hs : ∀ stem ∈ stems, endsInDigit stem = false) :
    ({} : Register).history (reserved.map .reserve ++ stems.map .issue) =
      reserved.map .reserved ++ stems.mapIdx fun index stem =>
        .given (spell stem
          (greatestReserved reserved stem + (stems.take (index + 1)).count stem)) := by
  rw [history_reserve, (tallied_reserveAll hr).history_issue hs]

theorem issued_numbers_run_on_mixed :
    (∀ name ∈ ["x5", "x007", "y00", "", "x"],
      Nat.ofDigitChars 10 (Numbered.endDigits name) 0 ≤ greatestNumber) ∧
    (∀ stem ∈ ["x", "y", "z", "x", "y"], endsInDigit stem = false) ∧
    ({} : Register).history (["x5", "x007", "y00", "", "x"].map .reserve ++
        ["x", "y", "z", "x", "y"].map .issue) =
      ["x5", "x007", "y00", "", "x"].map .reserved ++
        ["x8", "y", "z", "x9", "y2"].map .given := by
  have hr : ∀ name ∈ ["x5", "x007", "y00", "", "x"],
      Nat.ofDigitChars 10 (Numbered.endDigits name) 0 ≤ greatestNumber := by decide +kernel
  have hs : ∀ stem ∈ ["x", "y", "z", "x", "y"], endsInDigit stem = false := by decide +kernel
  refine ⟨hr, hs, ?_⟩
  rw [issued_numbers_run_on _ _ hr hs]
  decide +kernel

end Register

end Nomen
