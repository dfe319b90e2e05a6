import Mathlib.Data.List.Forall2
import Mathlib.Logic.Function.Iterate
import Nomen.Proofs.Uniqueness

/-!
Naming again. A report depends on which names are kept and on what the other slots wish for, so the
names that locals carry make no difference to it. Once the parameters and the generated slots have
names, another run changes nothing but such locals, and it finds the same names for them.
-/

namespace Nomen

namespace Scope

/-- Slots that naming treats alike: both keep one name, or both are named by one rule. -/
def TreatsAlike (scope : Scope) (a b : Slot) : Prop :=
  (a.keepsName = true ∧ b.keepsName = true ∧ a.givenName? = b.givenName?) ∨
    a.keepsName = false ∧ b.keepsName = false ∧ a.isParameter = b.isParameter ∧ a.type = b.type ∧
      scope.adopted? a = scope.adopted? b

theorem TreatsAlike.refl (scope : Scope) (slot : Slot) : scope.TreatsAlike slot slot := by
  cases hk : slot.keepsName with
  | true => exact Or.inl ⟨hk, hk, rfl⟩
  | false => exact Or.inr ⟨hk, hk, rfl, rfl, rfl⟩

def unnamed (slots : List Slot) (p : Slot → Bool) : List (Slot × Nat) :=
  slots.zipIdx.filter fun x => p x.1 && !x.1.keepsName

theorem order_eq (scope : Scope) (procedure : Procedure) :
    scope.order procedure =
      unnamed procedure.slots (fun slot => (scope.adopted? slot).isSome) ++
        unnamed procedure.slots (fun slot => slot.isParameter && (scope.adopted? slot).isNone) ++
        unnamed procedure.slots (fun slot => !slot.isParameter && (scope.adopted? slot).isNone) := by
  simp only [order, unnamed, List.filter_filter, Bool.and_assoc]

end Scope

theorem map_filter_congr {α β γ : Type} {R : α → β → Prop} {p : α → Bool} {q : β → Bool} {f : α → γ}
    {g : β → γ} {xs : List α} {ys : List β} (h : List.Forall₂ R xs ys)
    (hr : ∀ x y, R x y → p x = q y ∧ (p x = true → f x = g y)) :
    (xs.filter p).map f = (ys.filter q).map g := by
  induction h with
  | nil => rfl
  | @cons x y xs ys hxy _ ih =>
    obtain ⟨hpq, hfg⟩ := hr x y hxy
    rw [List.filter_cons, List.filter_cons, ← hpq]
    split
    · next hp => rw [List.map_cons, List.map_cons, ih, hfg hp]
    · exact ih

theorem forall₂_zipIdx {α β : Type} {R : α → β → Prop} {xs : List α} {ys : List β}
    (h : List.Forall₂ R xs ys) (start : Nat) :
    List.Forall₂ (fun x y => R x.1 y.1 ∧ x.2 = y.2) (xs.zipIdx start) (ys.zipIdx start) := by
  induction h generalizing start with
  | nil => exact List.Forall₂.nil
  | cons hxy _ ih => exact List.Forall₂.cons ⟨hxy, rfl⟩ (ih (start + 1))

namespace Procedure

theorem report_congr {procedure other : Procedure} {scope : Scope}
    (h : List.Forall₂ scope.TreatsAlike procedure.slots other.slots)
    (hname : procedure.name = other.name) (hbody : procedure.body = other.body) :
    procedure.report scope = other.report scope := by
  have hkept : procedure.keptNames = other.keptNames := by
    have hmap : (procedure.slots.filter (·.keepsName)).map (·.givenName?) =
        (other.slots.filter (·.keepsName)).map (·.givenName?) := by
      apply map_filter_congr h
      rintro a b (⟨ha, hb, hg⟩ | ⟨ha, hb, -⟩)
      · exact ⟨ha.trans hb.symm, fun _ => hg⟩
      · exact ⟨ha.trans hb.symm, fun hk => absurd (ha.symm.trans hk) (by decide)⟩
    have hid := congrArg (List.filterMap id) hmap
    rwa [List.filterMap_map, List.filterMap_map] at hid
  have hgroup (p : Slot → Bool)
      (hp : ∀ a b, scope.TreatsAlike a b → a.keepsName = false → p a = p b) :
      (Scope.unnamed procedure.slots p).map (fun x => (x.2, scope.wish procedure.body x.2 x.1)) =
        (Scope.unnamed other.slots p).map fun x => (x.2, scope.wish other.body x.2 x.1) := by
    apply map_filter_congr (forall₂_zipIdx h 0)
    rintro ⟨a, i⟩ ⟨b, j⟩ ⟨hab, rfl : i = j⟩
    have hpab := hp a b hab
    rcases hab with ⟨ha, hb, -⟩ | ⟨ha, hb, -, ht, hd⟩
    · simp [ha, hb]
    · refine ⟨by simp [ha, hb, hpab ha], fun _ => ?_⟩
      rw [Scope.wish, Scope.wish, hd, ht, hbody]
  have hwishes : (scope.order procedure).map (fun x => (x.2, scope.wish procedure.body x.2 x.1)) =
      (scope.order other).map fun x => (x.2, scope.wish other.body x.2 x.1) := by
    have hrule {a b : Slot} (hab : scope.TreatsAlike a b) (hk : a.keepsName = false) :
        a.isParameter = b.isParameter ∧ scope.adopted? a = scope.adopted? b := by
      rcases hab with ⟨ha, -⟩ | ⟨-, -, hi, -, hd⟩
      · exact absurd (ha.symm.trans hk) (by decide)
      · exact ⟨hi, hd⟩
    simp only [Scope.order_eq, List.map_append]
    refine congrArg₂ _ (congrArg₂ _ (hgroup _ ?_) (hgroup _ ?_)) (hgroup _ ?_)
    · intro a b hab hk
      rw [(hrule hab hk).2]
    · intro a b hab hk
      rw [(hrule hab hk).1, (hrule hab hk).2]
    · intro a b hab hk
      rw [(hrule hab hk).1, (hrule hab hk).2]
  rw [report, report, openRegister, openRegister, hname, hkept]
  exact congrArg _ (congrArg _ hwishes)

end Procedure

def Slot.forgetLocalName (slot : Slot) : Slot :=
  if slot.isParameter || slot.isGenerated then slot else { slot with name := none }

def Procedure.forgetLocalNames (procedure : Procedure) : Procedure :=
  { procedure with slots := procedure.slots.map Slot.forgetLocalName }

namespace Slot

theorem forgetLocalName_withName {slot : Slot}
    (h : ¬ (slot.kind = .parameter ∨ slot.isGenerated = true)) (name : Option String) :
    { slot with name := name }.forgetLocalName = slot.forgetLocalName := by
  rw [← isParameter_eq_true, ← Bool.or_eq_true] at h
  rw [forgetLocalName, forgetLocalName, if_neg h]
  exact if_neg h

theorem forgetLocalName_of_not_needsName {slot : Slot} (h : ¬ slot.NeedsName) :
    slot.forgetLocalName = slot := by
  rw [needsName_iff, Bool.not_eq_false, keepsName, Bool.and_eq_true] at h
  exact if_pos h.1

theorem treatsAlike_forgetLocalName (scope : Scope) (slot : Slot) :
    scope.TreatsAlike slot slot.forgetLocalName := by
  rw [forgetLocalName]
  split
  · exact Scope.TreatsAlike.refl scope slot
  · next h =>
    rw [Bool.not_eq_true] at h
    have hk : slot.keepsName = false := by rw [keepsName, h, Bool.false_and]
    exact Or.inr ⟨hk, by simp [keepsName, givenName?], rfl, rfl, rfl⟩

end Slot

namespace Procedure

theorem report_forgetLocalNames (procedure : Procedure) (scope : Scope) :
    procedure.forgetLocalNames.report scope = procedure.report scope := by
  have halike : List.Forall₂ scope.TreatsAlike procedure.slots procedure.forgetLocalNames.slots := by
    rw [forgetLocalNames, List.forall₂_map_right_iff, List.forall₂_same]
    intro slot _
    exact slot.treatsAlike_forgetLocalName scope
  exact (report_congr halike rfl rfl).symm

theorem nameSlots_forgetLocalNames (procedure : Procedure) (scope : Scope) :
    procedure.forgetLocalNames.nameSlots scope = procedure.nameSlots scope := by
  have hslots : (procedure.forgetLocalNames.nameSlots scope).slots =
      (procedure.nameSlots scope).slots := by
    apply List.ext_getElem?
    intro index
    have hforget : procedure.forgetLocalNames.slots[index]? =
        procedure.slots[index]?.map Slot.forgetLocalName := List.getElem?_map
    cases hs : procedure.slots[index]? with
    | none => simp [nameSlots, withNames, hforget, hs]
    | some slot =>
      rw [hs, Option.map_some] at hforget
      by_cases hneeds : slot.NeedsName
      · obtain ⟨assignment, ha, rfl⟩ := exists_mem_report.mpr ⟨slot, hs, hneeds⟩
        rw [nameSlots_of_mem ha hs]
        rw [← report_forgetLocalNames] at ha
        rw [nameSlots_of_mem ha hforget, Slot.forgetLocalName]
        split <;> rfl
      · rw [Slot.forgetLocalName_of_not_needsName hneeds] at hforget
        rw [nameSlots_of_not_needsName scope hs hneeds,
          nameSlots_of_not_needsName scope hforget hneeds]
  calc procedure.forgetLocalNames.nameSlots scope
      = { procedure with slots := (procedure.forgetLocalNames.nameSlots scope).slots } := rfl
    _ = { procedure with slots := (procedure.nameSlots scope).slots } := by rw [hslots]
    _ = procedure.nameSlots scope := rfl

/-- The names that are kept by right are there: those of parameters and of generated slots. -/
def FixedNamed (procedure : Procedure) : Prop :=
  ∀ slot ∈ procedure.slots, slot.kind = .parameter ∨ slot.isGenerated = true →
    ∃ name, slot.name = some name ∧ name ≠ ""

theorem fixedNamed_nameSlots (procedure : Procedure) (scope : Scope) :
    (procedure.nameSlots scope).FixedNamed :=
  fun _ hs _ => nameSlots_named hs

theorem FixedNamed.not_needsName {procedure : Procedure} (h : procedure.FixedNamed) {slot : Slot}
    (hs : slot ∈ procedure.slots) (hk : slot.kind = .parameter ∨ slot.isGenerated = true) :
    ¬ slot.NeedsName := by
  obtain ⟨name, hn, hne⟩ := h slot hs hk
  rw [Slot.NeedsName, hn]
  grind

theorem FixedNamed.forgetLocalNames_nameSlots {procedure : Procedure} (h : procedure.FixedNamed)
    (scope : Scope) :
    (procedure.nameSlots scope).forgetLocalNames = procedure.forgetLocalNames := by
  have hslots : (procedure.nameSlots scope).slots.map Slot.forgetLocalName =
      procedure.slots.map Slot.forgetLocalName := by
    apply List.ext_getElem?
    intro index
    rw [List.getElem?_map, List.getElem?_map]
    cases hs : procedure.slots[index]? with
    | none => simp [nameSlots, withNames, hs]
    | some slot =>
      by_cases hneeds : slot.NeedsName
      · have hlocal : ¬ (slot.kind = .parameter ∨ slot.isGenerated = true) :=
          fun hk => h.not_needsName (List.mem_of_getElem? hs) hk hneeds
        obtain ⟨assignment, ha, rfl⟩ := exists_mem_report.mpr ⟨slot, hs, hneeds⟩
        rw [nameSlots_of_mem ha hs, Option.map_some, Option.map_some,
          Slot.forgetLocalName_withName hlocal]
      · rw [nameSlots_of_not_needsName scope hs hneeds]
  calc (procedure.nameSlots scope).forgetLocalNames
      = { procedure with slots := (procedure.nameSlots scope).slots.map Slot.forgetLocalName } := rfl
    _ = procedure.forgetLocalNames := by rw [hslots, forgetLocalNames]

theorem naming_of_forgetLocalNames_eq {procedure other : Procedure} (scope : Scope)
    (h : other.forgetLocalNames = procedure.forgetLocalNames) :
    other.report scope = procedure.report scope ∧
      other.nameSlots scope = procedure.nameSlots scope := by
  constructor
  · rw [← report_forgetLocalNames, h, report_forgetLocalNames]
  · rw [← nameSlots_forgetLocalNames, h, nameSlots_forgetLocalNames]

def afterRuns (procedure : Procedure) (scope : Scope) (runs : Nat) : Procedure :=
  (fun p => p.nameSlots scope)^[runs] procedure

theorem FixedNamed.afterRuns_eq {procedure : Procedure} (h : procedure.FixedNamed) (scope : Scope)
    (runs : Nat) :
    procedure.afterRuns scope (runs + 1) = procedure.afterRuns scope 1 ∧
      (procedure.afterRuns scope runs).report scope = procedure.report scope := by
  obtain ⟨hreport, hname⟩ := naming_of_forgetLocalNames_eq scope (h.forgetLocalNames_nameSlots scope)
  have hfixed (runs : Nat) : procedure.afterRuns scope (runs + 1) = procedure.nameSlots scope :=
    Function.iterate_fixed hname runs
  refine ⟨by rw [hfixed, hfixed], ?_⟩
  cases runs with
  | zero => rfl
  | succ runs => rw [hfixed, hreport]

end Procedure

theorem naming_stabilises (procedure : Procedure) (scope : Scope) :
    (∀ other : Procedure, other.forgetLocalNames = procedure.forgetLocalNames →
      other.report scope = procedure.report scope ∧
        other.nameSlots scope = procedure.nameSlots scope) ∧
    (∀ runs, procedure.afterRuns scope (runs + 2) = procedure.afterRuns scope 2 ∧
      (procedure.afterRuns scope (runs + 1)).report scope =
        (procedure.afterRuns scope 1).report scope) ∧
    (procedure.FixedNamed → ∀ runs,
      procedure.afterRuns scope (runs + 1) = procedure.afterRuns scope 1 ∧
        (procedure.afterRuns scope runs).report scope = procedure.report scope) := by
  refine ⟨fun other => Procedure.naming_of_forgetLocalNames_eq scope, ?_, ?_⟩
  · exact (procedure.fixedNamed_nameSlots scope).afterRuns_eq scope
  · exact fun h => h.afterRuns_eq scope

def copying (localName : Option String) : Procedure where
  name := "Copy"
  slots := [{ kind := .parameter, type := .builtin .string, name := some "text" },
    { kind := .localVariable, type := .builtin .string, name := localName }]
  body := Node.block [Node.storeLocal 1 (Node.loadLocal 0)]

theorem naming_stabilises_copying :
    (copying none).forgetLocalNames = (copying (some "old")).forgetLocalNames ∧
    (copying (some "old")).FixedNamed ∧
    (copying none).nameSlots {} = (copying (some "old")).nameSlots {} ∧
    (copying (some "old")).afterRuns {} 2 = (copying (some "old")).afterRuns {} 1 ∧
    ((copying (some "old")).afterRuns {} 2).slots.map (·.name) = [some "text", some "text2"] := by
  have hsame : (copying none).forgetLocalNames = (copying (some "old")).forgetLocalNames := rfl
  have hnamed : (copying (some "old")).FixedNamed := by
    simp [Procedure.FixedNamed, copying]
  obtain ⟨htwo, -, hagain⟩ := naming_stabilises (copying (some "old")) {}
  have honce := (hagain hnamed 1).1
  exact ⟨hsame, hnamed, (htwo _ hsame).2, honce, by rw [honce]; decide +kernel⟩

-- One run is not enough where a parameter comes without a name: its new name is kept in the second
-- run, and the local, which had the bare name of the debug symbols, gives way.
example :
    let procedure : Procedure :=
      { slots := [{ kind := .parameter, type := .builtin .int32 },
          { kind := .localVariable, type := .builtin .int32, debugName := some "num" }]
        body := Node.block [] }
    (procedure.nameSlots {}).slots.map (·.name) = [some "num2", some "num"] ∧
    ((procedure.nameSlots {}).nameSlots {}).slots.map (·.name) = [some "num2", some "num3"] := by
  decide +kernel

end Nomen
