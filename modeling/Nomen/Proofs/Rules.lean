import Nomen.Proofs.Letters

namespace Nomen

theorem Scope.adopted?_isSome {scope : Scope} {slot : Slot} :
    (scope.adopted? slot).isSome = true ↔
      slot.isGenerated = false ∧ (scope.settings.usable? slot.debugName).isSome = true := by
  rw [adopted?]
  cases slot.isGenerated <;> simp

/-- How an assignment follows from its slot. The names given earlier matter to counters alone. -/
structure FollowsRule (procedure : Procedure) (scope : Scope) (earlier : List Assignment)
    (assignment : Assignment) (slot : Slot) : Prop where
  debugSymbol : assignment.source = .debugSymbol ↔
    slot.isGenerated = false ∧ (scope.settings.usable? slot.debugName).isSome = true
  counter : assignment.source ≠ .debugSymbol →
    isCounter procedure.body assignment.slot slot.type = true →
      assignment.source = .loopCounter ∧ assignment.name ∈ counterLetters ∨
      assignment.source = .type ∧ OfStem assignment.name (typeStem slot.type) ∧
        ∀ letter ∈ counterLetters, letter ∈ procedure.stemsInUse scope earlier
  other : assignment.source ≠ .debugSymbol →
    isCounter procedure.body assignment.slot slot.type = false →
      let rule := firstAccepted scope.fields scope.resolve procedure.body assignment.slot slot.type
      assignment.source = rule.2 ∧ OfStem assignment.name rule.1

namespace Procedure

theorem report_followsRule {procedure : Procedure} {scope : Scope}
    {earlier later : List Assignment} {assignment : Assignment}
    (h : (procedure.report scope).assignments = earlier ++ assignment :: later) {slot : Slot}
    (hslot : procedure.slots[assignment.slot]? = some slot) :
    FollowsRule procedure scope earlier assignment slot := by
  obtain ⟨other, ho, hcases⟩ := report_cases h
  rw [hslot, Option.some.injEq] at ho
  subst ho
  have hm : assignment ∈ (procedure.report scope).assignments := by simp [h]
  constructor
  · rw [← Scope.adopted?_isSome, source_eq_debugSymbol_iff hm hslot]
  · intro hne hc
    rcases hcases with ⟨-, hs⟩ | ⟨-, -, ⟨hs, hl⟩ | ⟨hs, -, hstem⟩⟩ | ⟨-, hc', -⟩
    · exact absurd hs hne
    · exact Or.inl ⟨hs, List.mem_of_find?_eq_some hl⟩
    · exact Or.inr ⟨hs, hstem, letters_in_use_of_type h hslot hc hs⟩
    · exact absurd (hc.symm.trans hc') (by decide)
  · intro hne hc
    rcases hcases with ⟨-, hs⟩ | ⟨-, hc', -⟩ | ⟨-, -, hrule⟩
    · exact absurd hs hne
    · exact absurd (hc.symm.trans hc') (by decide)
    · exact hrule

theorem find?_of_followsRule {procedure : Procedure} {scope : Scope} {index : Nat} {slot : Slot}
    (hslot : procedure.slots[index]? = some slot) (hneeds : slot.NeedsName)
    (ha : scope.adopted? slot = none) (hc : isCounter procedure.body index slot.type = false) :
    ∃ name, (procedure.report scope).find? index = some ⟨index, name,
        (firstAccepted scope.fields scope.resolve procedure.body index slot.type).2⟩ ∧
      OfStem name (firstAccepted scope.fields scope.resolve procedure.body index slot.type).1 := by
  obtain ⟨assignment, hm, rfl⟩ := exists_mem_report.mpr ⟨slot, hslot, hneeds⟩
  obtain ⟨earlier, later, h⟩ := List.append_of_mem hm
  have hrule := report_followsRule h hslot
  have hne : assignment.source ≠ .debugSymbol := by
    rw [Ne, hrule.debugSymbol, ← Scope.adopted?_isSome, ha]
    decide
  obtain ⟨hsource, hstem⟩ := hrule.other hne hc
  refine ⟨assignment.name, ?_, hstem⟩
  rw [← hsource]
  exact Report.find?_of_mem (procedure.report_nodup scope) hm

end Procedure

theorem rule_fixes_stem_and_source (procedure : Procedure) (scope : Scope) :
    (∀ earlier assignment later,
      (procedure.report scope).assignments = earlier ++ assignment :: later →
      ∃ slot, procedure.slots[assignment.slot]? = some slot ∧
        FollowsRule procedure scope earlier assignment slot) ∧
    ∀ (other : Procedure) (reserved : List String) (index : Nat) (slot : Slot),
      other.body = procedure.body → procedure.slots[index]? = some slot →
      other.slots[index]? = some slot → slot.NeedsName → scope.adopted? slot = none →
      isCounter procedure.body index slot.type = false →
        let rule := firstAccepted scope.fields scope.resolve procedure.body index slot.type
        ∃ name name', (procedure.report scope).find? index = some ⟨index, name, rule.2⟩ ∧
          (other.report { scope with reserved := reserved }).find? index =
            some ⟨index, name', rule.2⟩ ∧
          OfStem name rule.1 ∧ OfStem name' rule.1 := by
  constructor
  · intro earlier assignment later h
    obtain ⟨slot, -, hslot, -⟩ := Procedure.report_reached h
    exact ⟨slot, hslot, Procedure.report_followsRule h hslot⟩
  · intro other reserved index slot hbody hslot hother hneeds ha hc
    obtain ⟨name, hfind, hstem⟩ := Procedure.find?_of_followsRule hslot hneeds ha hc
    have ha' : { scope with reserved := reserved }.adopted? slot = none := ha
    obtain ⟨name', hfind', hstem'⟩ :=
      Procedure.find?_of_followsRule hother hneeds ha' (hbody ▸ hc)
    rw [hbody] at hfind' hstem'
    exact ⟨name, name', hfind, hfind', hstem, hstem'⟩

section Summing

open Node

def summing (others : List Slot) : Procedure where
  name := "Sum"
  slots := { kind := .localVariable, type := .builtin .int32 } :: others
  body := block [storeLocal 0 (loadStaticField { name := "m_total" })]

theorem rule_fixes_stem_and_source_summing :
    FollowsRule (summing []) {} [] ⟨0, "total", .storedValue⟩
      { kind := .localVariable, type := .builtin .int32 } ∧
    ∃ name name', ((summing []).report {}).find? 0 = some ⟨0, name, .storedValue⟩ ∧
      ((summing [{ kind := .parameter, type := .builtin .int32, name := some "total3" }]).report
        { reserved := ["total"] }).find? 0 = some ⟨0, name', .storedValue⟩ ∧
      OfStem name "total" ∧ OfStem name' "total" := by
  have hrule : firstAccepted [] (fun _ => none) (summing []).body 0 (.builtin .int32) =
      ("total", .storedValue) := by decide +kernel
  constructor
  · obtain ⟨slot, hslot, hfollows⟩ := (rule_fixes_stem_and_source (summing []) {}).1 []
      ⟨0, "total", .storedValue⟩ [] (by decide +kernel)
    obtain rfl := Option.some.inj hslot
    exact hfollows
  · have h := (rule_fixes_stem_and_source (summing []) {}).2
      (summing [{ kind := .parameter, type := .builtin .int32, name := some "total3" }]) ["total"] 0
      { kind := .localVariable, type := .builtin .int32 } rfl rfl rfl (Or.inl ⟨rfl, rfl⟩) rfl
      (by decide +kernel)
    simpa only [hrule] using h

end Summing

end Nomen
