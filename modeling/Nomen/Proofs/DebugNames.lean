import Nomen.Proofs.Stability

namespace Nomen

namespace Settings

inductive Refuses (settings : Settings) (debugName : String) : Prop where
  | disabled (h : settings.useDebugSymbols = false)
  | empty (h : debugName = "")
  | placeholder (hm : settings.placeholderMark ≠ "")
      (h : ∃ rest, debugName = settings.placeholderMark ++ rest)
  | notIdentifier (h : isIdentifier debugName = false)

theorem isPlaceholder_eq_true {settings : Settings} {name : String} :
    settings.isPlaceholder name = true ↔
      settings.placeholderMark ≠ "" ∧ ∃ rest, name = settings.placeholderMark ++ rest := by
  rw [isPlaceholder, Bool.and_eq_true, bne_iff_ne, List.isPrefixOf_iff_prefix]
  apply and_congr_right
  intro _
  constructor
  · rintro ⟨rest, h⟩
    exact ⟨String.ofList rest, String.toList_injective (by simp [← h])⟩
  · rintro ⟨rest, rfl⟩
    exact ⟨rest.toList, by simp⟩

theorem refuses_iff {settings : Settings} {debugName : String} :
    settings.Refuses debugName ↔
      (settings.useDebugSymbols && !settings.isPlaceholder debugName && isIdentifier debugName) =
        false := by
  rw [Bool.and_eq_false_iff, Bool.and_eq_false_iff, Bool.not_eq_false', isPlaceholder_eq_true]
  constructor
  · rintro (h | rfl | ⟨hm, h⟩ | h)
    · exact Or.inl (Or.inl h)
    · exact Or.inr (by decide)
    · exact Or.inl (Or.inr ⟨hm, h⟩)
    · exact Or.inr h
  · rintro ((h | ⟨hm, h⟩) | h)
    · exact .disabled h
    · exact .placeholder hm h
    · exact .notIdentifier h

theorem usable?_eq_none_iff {settings : Settings} {debugName : Option String} :
    settings.usable? debugName = none ↔ ∀ name, debugName = some name → settings.Refuses name := by
  simp only [usable?, Option.filter_eq_none_iff, Bool.not_eq_true, refuses_iff]

end Settings

namespace Slot

inductive PassesOverDebugName (settings : Settings) (slot : Slot) : Prop where
  | generated (h : slot.isGenerated = true)
  | named (hk : slot.kind = .parameter) (h : ∃ name, slot.name = some name ∧ name ≠ "")
  | refused (h : ∀ name, slot.debugName = some name → settings.Refuses name)

def withoutDebugName (slot : Slot) : Slot :=
  { slot with debugName := none }

end Slot

namespace Scope

def Adopts (scope : Scope) (slot : Slot) : Prop :=
  slot.keepsName = false ∧ (scope.adopted? slot).isSome = true

instance (scope : Scope) (slot : Slot) : Decidable (scope.Adopts slot) :=
  inferInstanceAs (Decidable (_ ∧ _))

theorem adopted?_eq_none_iff {scope : Scope} {slot : Slot} :
    scope.adopted? slot = none ↔
      slot.isGenerated = true ∨
        ∀ name, slot.debugName = some name → scope.settings.Refuses name := by
  rw [adopted?, ← Settings.usable?_eq_none_iff]
  split
  · next hg => simp [hg]
  · next hg => simp [hg]

theorem not_adopts_iff {scope : Scope} {slot : Slot} :
    ¬ scope.Adopts slot ↔ slot.PassesOverDebugName scope.settings := by
  have hnamed : slot.givenName?.isSome = true ↔ ∃ name, slot.name = some name ∧ name ≠ "" := by
    cases hn : slot.name <;> simp [Slot.givenName?, hn]
  rw [Adopts, not_and_or, Bool.not_eq_false, Option.not_isSome_iff_eq_none, Slot.keepsName,
    Bool.and_eq_true, Bool.or_eq_true, Slot.isParameter_eq_true, hnamed, adopted?_eq_none_iff]
  constructor
  · rintro (⟨hk | hg, h⟩ | hg | h)
    · exact .named hk h
    · exact .generated hg
    · exact .generated hg
    · exact .refused h
  · rintro (hg | ⟨hk, h⟩ | h)
    · exact Or.inr (Or.inl hg)
    · exact Or.inl ⟨Or.inl hk, h⟩
    · exact Or.inr (Or.inr h)

theorem adopted?_withoutDebugName (scope : Scope) (slot : Slot) :
    scope.adopted? slot.withoutDebugName = none :=
  adopted?_eq_none_iff.mpr (Or.inr fun _ h => absurd h (by simp [Slot.withoutDebugName]))

theorem treatsAlike_withoutDebugName {scope : Scope} {slot : Slot} (h : ¬ scope.Adopts slot) :
    scope.TreatsAlike slot slot.withoutDebugName := by
  cases hk : slot.keepsName with
  | true => exact Or.inl ⟨hk, hk, rfl⟩
  | false =>
    have ha : scope.adopted? slot = none := by simpa [Adopts, hk] using h
    exact Or.inr ⟨hk, hk, rfl, rfl, ha.trans (scope.adopted?_withoutDebugName slot).symm⟩

end Scope

namespace Procedure

def eraseDebugNames (procedure : Procedure) (chosen : Nat → Bool) : Procedure :=
  { procedure with
    slots := procedure.slots.mapIdx fun index slot =>
      if chosen index then slot.withoutDebugName else slot }

variable {procedure : Procedure} {scope : Scope} {chosen : Nat → Bool}

theorem getElem?_eraseDebugNames {index : Nat} (hc : chosen index = true) {slot : Slot}
    (hs : procedure.slots[index]? = some slot) :
    (procedure.eraseDebugNames chosen).slots[index]? = some slot.withoutDebugName := by
  rw [eraseDebugNames, List.getElem?_mapIdx, hs, Option.map_some, if_pos hc]

theorem report_eraseDebugNames
    (h : ∀ index slot, chosen index = true → procedure.slots[index]? = some slot →
      ¬ scope.Adopts slot) :
    (procedure.eraseDebugNames chosen).report scope = procedure.report scope := by
  have halike : List.Forall₂ scope.TreatsAlike procedure.slots
      (procedure.eraseDebugNames chosen).slots := by
    rw [eraseDebugNames, List.forall₂_iff_get]
    refine ⟨List.length_mapIdx.symm, ?_⟩
    intro index hlt _
    simp only [List.get_eq_getElem, List.getElem_mapIdx]
    split
    · next hc =>
      exact Scope.treatsAlike_withoutDebugName (h index _ hc (List.getElem?_eq_getElem hlt))
    · exact Scope.TreatsAlike.refl scope _
  exact (report_congr halike rfl rfl).symm

theorem names_eraseDebugNames
    (h : (procedure.eraseDebugNames chosen).report scope = procedure.report scope) :
    ((procedure.eraseDebugNames chosen).nameSlots scope).slots.map (·.name) =
      (procedure.nameSlots scope).slots.map (·.name) := by
  apply List.ext_getElem?
  intro index
  rw [nameSlots, h, nameSlots]
  simp only [withNames, eraseDebugNames, List.getElem?_map, List.getElem?_mapIdx, Option.map_map]
  congr 1
  funext slot
  simp only [Function.comp_apply]
  cases (procedure.report scope).nameFor? index with
  | some name => rfl
  | none => cases chosen index <;> rfl

theorem not_adopts_of_report_eraseDebugNames
    (h : (procedure.eraseDebugNames chosen).report scope = procedure.report scope) {index : Nat}
    (hc : chosen index = true) {slot : Slot} (hs : procedure.slots[index]? = some slot) :
    ¬ scope.Adopts slot := by
  rintro ⟨hk, ha⟩
  -- The name would be reported as one from the debug symbols, and without a debug name it is not.
  obtain ⟨assignment, hm, rfl⟩ := exists_mem_report.mpr ⟨slot, hs, Slot.needsName_iff.mpr hk⟩
  have hsource := (source_eq_debugSymbol_iff hm hs).mpr ha
  rw [← h] at hm
  have hnone := (source_eq_debugSymbol_iff hm (getElem?_eraseDebugNames hc hs)).mp hsource
  rw [scope.adopted?_withoutDebugName] at hnone
  exact absurd hnone (by decide)

end Procedure

theorem unused_debug_names_leave_no_trace (procedure : Procedure) (scope : Scope)
    (chosen : Nat → Bool) :
    (∀ index slot, chosen index = true → procedure.slots[index]? = some slot →
      slot.PassesOverDebugName scope.settings) ↔
    (procedure.eraseDebugNames chosen).report scope = procedure.report scope ∧
      ((procedure.eraseDebugNames chosen).nameSlots scope).slots.map (·.name) =
        (procedure.nameSlots scope).slots.map (·.name) := by
  simp only [← Scope.not_adopts_iff]
  constructor
  · intro h
    have hreport := Procedure.report_eraseDebugNames h
    exact ⟨hreport, Procedure.names_eraseDebugNames hreport⟩
  · rintro ⟨hreport, -⟩ index slot hc hs
    exact Procedure.not_adopts_of_report_eraseDebugNames hreport hc hs

-- The last slot is the only one with a debug name to use.
def tracing : Procedure where
  name := "Trace"
  slots := [{ kind := .localVariable, type := .builtin .int32, debugName := some "V_0" },
    { kind := .parameter, type := .builtin .string, debugName := some "num", name := some "line" },
    { kind := .localVariable, type := .builtin .int32, isGenerated := true,
      debugName := some "num" },
    { kind := .localVariable, type := .builtin .int32, debugName := some "4th" },
    { kind := .localVariable, type := .builtin .int32, debugName := some "num" }]
  body := Node.block []

theorem unused_debug_names_leave_no_trace_tracing :
    (∀ index slot, decide (index < 4) = true → tracing.slots[index]? = some slot →
      slot.PassesOverDebugName {}) ∧
    (tracing.eraseDebugNames (· < 4)).report {} = ⟨"Trace", [⟨4, "num", .debugSymbol⟩,
      ⟨0, "num2", .type⟩, ⟨2, "num3", .type⟩, ⟨3, "num4", .type⟩]⟩ := by
  have h : ∀ index slot, decide (index < 4) = true → tracing.slots[index]? = some slot →
      slot.PassesOverDebugName {} := by
    intro index slot hlt hs
    rw [decide_eq_true_iff] at hlt
    obtain rfl | rfl | rfl | rfl : index = 0 ∨ index = 1 ∨ index = 2 ∨ index = 3 := by omega
    all_goals obtain rfl := Option.some.inj hs
    · refine .refused fun name hn => ?_
      obtain rfl := Option.some.inj hn
      exact .placeholder (by decide) ⟨"0", rfl⟩
    · exact .named rfl ⟨"line", rfl, by decide⟩
    · exact .generated rfl
    · refine .refused fun name hn => ?_
      obtain rfl := Option.some.inj hn
      exact .notIdentifier (by decide +kernel)
  refine ⟨h, ?_⟩
  rw [((unused_debug_names_leave_no_trace tracing {} (· < 4)).mp h).1]
  decide +kernel

end Nomen
