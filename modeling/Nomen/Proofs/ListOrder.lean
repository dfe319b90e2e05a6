import Mathlib.Data.List.Induction
import Mathlib.Logic.Function.Basic
import Nomen.Proofs.Proposals
import Nomen.Proofs.Register
import Nomen.TypeUnit.Naming

namespace Nomen

/-- The signatures of methods; an entry replaces what was said of its method before. -/
def signatures (methods : List ResolvedMethod) : MethodRef → Option Signature :=
  methods.foldl (fun table entry => Function.update table entry.method (some entry.signature))
    fun _ => none

theorem resolve_eq_signatures (methods : List ResolvedMethod) :
    resolve methods = signatures methods := by
  induction methods using List.reverseRecOn with
  | nil => rfl
  | append_singleton methods entry ih =>
    funext method
    rw [signatures, List.foldl_concat, ← signatures, ← ih, resolve, List.reverse_concat,
      List.find?_cons]
    by_cases h : entry.method = method
    · simp [h]
    · rw [Function.update_of_ne (Ne.symm h), beq_false_of_ne h, resolve]

namespace Register

def SameEntries (a b : Register) : Prop :=
  ∀ entry, entry ∈ a.entries ↔ entry ∈ b.entries

namespace SameEntries

variable {a b : Register}

theorem enter (h : a.SameEntries b) (entry : Entry) : (a.enter entry).SameEntries (b.enter entry) := by
  intro other
  rw [Register.enter, Register.enter, List.mem_cons, List.mem_cons, h other]

theorem mem_names (h : a.SameEntries b) {name : String} : name ∈ a.names ↔ name ∈ b.names := by
  simp only [Register.mem_names, h _]

theorem count?_eq (h : a.SameEntries b) (stem : String) : a.count? stem = b.count? stem := by
  have hmem (n : Nat) : n ∈ (a.entries.filter (·.stem == stem)).map (·.number) ↔
      n ∈ (b.entries.filter (·.stem == stem)).map (·.number) := by
    simp only [List.mem_map, List.mem_filter, h _]
  apply Option.ext
  intro n
  rw [count?, count?, List.max?_eq_some_iff, List.max?_eq_some_iff]
  simp only [hmem]

theorem freeLetter?_eq (h : a.SameEntries b) : a.freeLetter? = b.freeLetter? := by
  simp only [freeLetter?, knows, h.count?_eq]

theorem enterFrom (h : a.SameEntries b) (stem : String) (start : Nat) :
    ∃ entry : Entry, a.enterFrom stem start = (entry.name, a.enter entry) ∧
      b.enterFrom stem start = (entry.name, b.enter entry) := by
  obtain ⟨k, -, ha, htaken, hfree⟩ := a.enterFrom_spec stem start
  obtain ⟨k', -, hb, htaken', hfree'⟩ := b.enterFrom_spec stem start
  have hk : k = k' := by
    rcases Nat.lt_trichotomy k k' with hlt | he | hgt
    · exact absurd (h.mem_names.mpr (htaken' k hlt)) hfree
    · exact he
    · exact absurd (h.mem_names.mp (htaken k' hgt)) hfree'
  subst hk
  exact ⟨⟨spell stem (start + k), stem, start + k⟩, ha, hb⟩

theorem issue (h : a.SameEntries b) (stem : String) :
    ∃ entry : Entry, a.issue stem = (entry.name, a.enter entry) ∧
      b.issue stem = (entry.name, b.enter entry) := by
  rw [Register.issue, Register.issue, h.count?_eq]
  exact h.enterFrom stem _

theorem adopt (h : a.SameEntries b) (name : String) :
    ∃ entry : Entry, a.adopt name = (entry.name, a.enter entry) ∧
      b.adopt name = (entry.name, b.enter entry) := by
  rw [Register.adopt, Register.adopt, h.freeLetter?_eq]
  split
  · next letter _ => exact ⟨⟨letter, letter, 1⟩, rfl, rfl⟩
  · simp only [h.count?_eq]
    exact h.enterFrom _ _

theorem serve (h : a.SameEntries b) (wish : Wish) :
    ∃ (entry : Entry) (source : Source), a.serve wish = ((entry.name, source), a.enter entry) ∧
      b.serve wish = ((entry.name, source), b.enter entry) := by
  cases wish with
  | adopt debugName =>
    obtain ⟨entry, ha, hb⟩ := h.adopt debugName
    exact ⟨entry, .debugSymbol, by rw [Register.serve, ha], by rw [Register.serve, hb]⟩
  | counter stem =>
    simp only [Register.serve, h.freeLetter?_eq]
    cases b.freeLetter? with
    | some letter =>
      obtain ⟨entry, ha, hb⟩ := h.issue letter
      exact ⟨entry, .loopCounter, by simp only [ha], by simp only [hb]⟩
    | none =>
      obtain ⟨entry, ha, hb⟩ := h.issue stem
      exact ⟨entry, .type, by simp only [ha], by simp only [hb]⟩
  | stem stem source =>
    obtain ⟨entry, ha, hb⟩ := h.issue stem
    exact ⟨entry, source, by rw [Register.serve, ha], by rw [Register.serve, hb]⟩

theorem serveAll_eq (h : a.SameEntries b) (wishes : List (Nat × Wish)) :
    a.serveAll wishes = b.serveAll wishes := by
  induction wishes generalizing a b with
  | nil => rfl
  | cons head wishes ih =>
    obtain ⟨entry, source, ha, hb⟩ := h.serve head.2
    simp only [serveAll, ha, hb, ih (h.enter entry)]

theorem reserveAll (h : a.SameEntries b) {names others : List String}
    (hn : ∀ name, name ≠ "" → (name ∈ names ↔ name ∈ others)) :
    (a.reserveAll names).SameEntries (b.reserveAll others) := by
  intro entry
  rw [mem_entries_reserveAll, mem_entries_reserveAll, h entry]
  apply or_congr_left
  apply exists_congr
  intro name
  by_cases he : name = ""
  · simp [he]
  · rw [hn name he]

end SameEntries

end Register

theorem Procedure.report_of_same_lists (procedure : Procedure) {scope other : Scope}
    (hf : ∀ field, field ∈ scope.fields ↔ field ∈ other.fields)
    (hr : ∀ name, name ≠ "" → (name ∈ scope.reserved ↔ name ∈ other.reserved))
    (hs : scope.settings = other.settings) (hm : scope.resolve = other.resolve) :
    procedure.report scope = procedure.report other := by
  have hopen : (procedure.openRegister scope).SameEntries (procedure.openRegister other) := by
    apply Register.SameEntries.reserveAll
    · apply Register.SameEntries.reserveAll
      · exact fun _ => Iff.rfl
      · exact hr
    · exact fun _ _ => Iff.rfl
  have hadopted : scope.adopted? = other.adopted? := by
    funext slot
    rw [Scope.adopted?, Scope.adopted?, hs]
  have hwish : scope.wish = other.wish := by
    funext body index slot
    have hstore : storeName? scope.fields body index = storeName? other.fields body index :=
      agreed_congr hf fun _ => Iff.rfl
    have hload : loadName? scope.fields scope.resolve body index =
        loadName? other.fields other.resolve body index := by
      rw [hm]
      exact agreed_congr hf fun _ => Iff.rfl
    rw [Scope.wish, Scope.wish, hadopted, Scope.synthesis, Scope.synthesis, hstore, hload]
  rw [report, report, hopen.serveAll_eq, Scope.order, Scope.order, hadopted, hwish]

theorem naming_ignores_list_order {unit other : TypeUnit} (hp : unit.procedures = other.procedures)
    (hf : ∀ field, field ∈ unit.fields ↔ field ∈ other.fields)
    (hr : ∀ name, name ≠ "" → (name ∈ unit.reservedNames ↔ name ∈ other.reservedNames))
    (hm : signatures unit.methods = signatures other.methods) (settings : Settings)
    (withKeywords : Bool) :
    unit.reports settings withKeywords = other.reports settings withKeywords ∧
      (unit.nameSlots settings withKeywords).procedures =
        (other.nameSlots settings withKeywords).procedures := by
  have hreport (procedure : Procedure) :
      procedure.report (unit.scope settings withKeywords) =
        procedure.report (other.scope settings withKeywords) := by
    apply procedure.report_of_same_lists hf
    · intro name hne
      simp only [TypeUnit.scope, List.mem_append, hr name hne]
    · rfl
    · simp only [TypeUnit.scope, resolve_eq_signatures, hm]
  constructor
  · simp only [TypeUnit.reports, hp, hreport]
  · simp only [TypeUnit.nameSlots, Procedure.nameSlots, hp, hreport]

section Filling

open Node

def fillRef : MethodRef := { declaringType := "Tank", name := "Fill", parameterCount := 2 }

def drainRef : MethodRef := { declaringType := "Tank", name := "Drain", parameterCount := 1 }

def filling (fields reservedNames : List String) (methods : List ResolvedMethod) : TypeUnit where
  typeName := "Tank"
  fields := fields
  reservedNames := reservedNames
  methods := methods
  procedures := [
    { name := "Top"
      slots := [{ kind := .localVariable, type := .builtin .int32 },
        { kind := .localVariable, type := .builtin .int32 }]
      body := block [invoke .call fillRef [loadLocal 0, loadLocal 1],
        invoke .call drainRef [loadLocal 0]] }]

theorem naming_ignores_list_order_filling :
    let shuffled := filling ["rest", "level"] ["amount3", "", "unit"]
      [⟨fillRef, { parameters := ["old", "older"] }⟩, ⟨drainRef, { parameters := ["rest"] }⟩,
        ⟨fillRef, { parameters := ["amount", "unit"] }⟩]
    let plain := filling ["level", "rest", "level"] ["unit", "amount3", "amount3"]
      [⟨fillRef, { parameters := ["amount", "unit"] }⟩, ⟨drainRef, { parameters := ["rest"] }⟩]
    signatures shuffled.methods = signatures plain.methods ∧
    shuffled.reports {} false = plain.reports {} false ∧
    plain.reports {} false =
      [⟨"Top", [⟨0, "amount4", .consumer⟩, ⟨1, "unit2", .consumer⟩]⟩] := by
  intro shuffled plain
  have hm : signatures shuffled.methods = signatures plain.methods := by
    have hne : fillRef ≠ drainRef := by decide
    simp only [shuffled, plain, filling, signatures, List.foldl_cons, List.foldl_nil]
    rw [Function.update_comm hne, Function.update_idem, Function.update_comm hne]
  have hp : shuffled.procedures = plain.procedures := rfl
  refine ⟨hm, ?_, by decide +kernel⟩
  apply (naming_ignores_list_order hp ?_ ?_ hm {} false).1
  · intro field
    simp only [shuffled, plain, filling, List.mem_cons, List.not_mem_nil]
    grind
  · intro name hne
    simp only [shuffled, plain, filling, List.mem_cons, List.not_mem_nil]
    grind

end Filling

end Nomen
