import Nomen.TypeSig

/-!
Modifiers and the stem of a type. Names see through modifiers at every depth, and so does the stem,
with one exception: a modifier between a nullable type and an array, a pointer or a reference hides
what is under it, and the stem is made of its name.
-/

namespace Nomen

namespace TypeSig

mutual

def eraseModifiers : TypeSig → TypeSig
  | builtin type => builtin type
  | named space name arguments => named space name (eraseAllModifiers arguments)
  | array element => array element.eraseModifiers
  | pointer target => pointer target.eraseModifiers
  | byRef target => byRef target.eraseModifiers
  | modified inner => inner.eraseModifiers

def eraseAllModifiers : List TypeSig → List TypeSig
  | [] => []
  | type :: types => type.eraseModifiers :: eraseAllModifiers types

end

def held (type : TypeSig) : TypeSig :=
  type.unmodified.nullable?.getD type.unmodified

def kindStem? : TypeSig → Option String
  | array _ => some "array"
  | pointer _ | byRef _ => some "ptr"
  | _ => none

theorem stem_eq (type : TypeSig) : type.stem = type.held.kindStem?.getD type.held.nameStem := by
  rw [stem, held]
  cases type.unmodified.nullable?.getD type.unmodified <;> rfl

@[simp]
theorem kindStem?_modified (inner : TypeSig) : (modified inner).kindStem? = none := rfl

@[simp]
theorem nameStem_modified (inner : TypeSig) : (modified inner).nameStem = inner.nameStem := by
  rw [nameStem, nameStem, name, fullName]

theorem unmodified_eraseModifiers :
    ∀ type : TypeSig, type.eraseModifiers.unmodified = type.eraseModifiers
  | builtin _ | named _ _ _ | array _ | pointer _ | byRef _ => by
    simp only [eraseModifiers, unmodified]
  | modified inner => by rw [eraseModifiers, unmodified_eraseModifiers inner]

theorem name_eraseModifiers : ∀ type : TypeSig, type.eraseModifiers.name = type.name
  | builtin _ | named _ _ _ => by simp only [eraseModifiers, name]
  | array type | pointer type | byRef type | modified type => by
    simp only [eraseModifiers, name, name_eraseModifiers type]

theorem fullName_eraseModifiers : ∀ type : TypeSig, type.eraseModifiers.fullName = type.fullName
  | builtin _ | named _ _ _ => by simp only [eraseModifiers, fullName]
  | array type | pointer type | byRef type | modified type => by
    simp only [eraseModifiers, fullName, fullName_eraseModifiers type]

theorem nameStem_eraseModifiers (type : TypeSig) :
    type.eraseModifiers.nameStem = type.nameStem := by
  rw [nameStem, nameStem, name_eraseModifiers, fullName_eraseModifiers]

theorem nullable?_eraseModifiers : ∀ type : TypeSig,
    type.eraseModifiers.nullable? = type.unmodified.nullable?.map eraseModifiers
  | builtin _ | array _ | pointer _ | byRef _ => by
    simp only [eraseModifiers, unmodified, nullable?, Option.map_none]
  | named space name arguments => by
    match arguments with
    | [] => simp only [eraseModifiers, eraseAllModifiers, unmodified, nullable?, Option.map_none]
    | [argument] =>
      simp only [eraseModifiers, eraseAllModifiers, unmodified, nullable?]
      split <;> rfl
    | _ :: _ :: _ =>
      simp only [eraseModifiers, eraseAllModifiers, unmodified, nullable?, Option.map_none]
  | modified inner => by rw [eraseModifiers, nullable?_eraseModifiers inner, unmodified]

theorem kindStem?_eraseModifiers : ∀ type : TypeSig,
    type.eraseModifiers.kindStem? = type.unmodified.kindStem?
  | builtin _ | named _ _ _ | array _ | pointer _ | byRef _ => by
    simp only [eraseModifiers, unmodified, kindStem?]
  | modified inner => by rw [eraseModifiers, kindStem?_eraseModifiers inner, unmodified]

theorem eraseModifiers_unmodified : ∀ type : TypeSig,
    type.unmodified.eraseModifiers = type.eraseModifiers
  | builtin _ | named _ _ _ | array _ | pointer _ | byRef _ => by simp only [unmodified]
  | modified inner => by rw [unmodified, eraseModifiers, eraseModifiers_unmodified inner]

theorem held_eraseModifiers (type : TypeSig) :
    type.eraseModifiers.held = type.held.eraseModifiers := by
  rw [held, held, unmodified_eraseModifiers, nullable?_eraseModifiers,
    ← eraseModifiers_unmodified type, Option.getD_map]

theorem stem_eraseModifiers (type : TypeSig) :
    type.eraseModifiers.stem = type.held.unmodified.kindStem?.getD type.held.nameStem := by
  rw [stem_eq, held_eraseModifiers, kindStem?_eraseModifiers, nameStem_eraseModifiers]

theorem unmodified_ne_modified (inner : TypeSig) :
    ∀ type : TypeSig, type.unmodified ≠ modified inner
  | builtin _ | named _ _ _ | array _ | pointer _ | byRef _ => by simp [unmodified]
  | modified type => by
    rw [unmodified]
    exact unmodified_ne_modified inner type

theorem held_eq_modified_iff {type inner : TypeSig} :
    type.held = modified inner ↔ type.unmodified.nullable? = some (modified inner) := by
  rw [held]
  cases type.unmodified.nullable? with
  | none => simp [unmodified_ne_modified inner type]
  | some held => simp

/-- A nullable type holds a modified type, and under the modifiers there is one of a kind with a
stem of its own. -/
structure Hides (type inner : TypeSig) (kind : String) : Prop where
  nullable : type.unmodified.nullable? = some (modified inner)
  kind : inner.unmodified.kindStem? = some kind

theorem Hides.stems {type inner : TypeSig} {kind : String} (h : type.Hides inner kind) :
    type.eraseModifiers.stem = kind ∧ type.stem = inner.nameStem := by
  have hheld := held_eq_modified_iff.mpr h.nullable
  constructor
  · rw [stem_eraseModifiers, hheld, unmodified, h.kind, Option.getD_some]
  · rw [stem_eq, hheld, kindStem?_modified, Option.getD_none, nameStem_modified]

theorem stem_eraseModifiers_of_not_hides {type : TypeSig} (h : ∀ inner kind, ¬ type.Hides inner kind) :
    type.eraseModifiers.stem = type.stem := by
  rw [stem_eraseModifiers, stem_eq]
  cases hheld : type.held with
  | builtin | named | array | pointer | byRef => simp only [unmodified]
  | modified inner =>
    have hnone : inner.unmodified.kindStem? = none := by
      rw [Option.eq_none_iff_forall_ne_some]
      exact fun kind hk => h inner kind ⟨held_eq_modified_iff.mp hheld, hk⟩
    rw [unmodified, hnone, kindStem?_modified]

theorem modifiers_change_stem_only_where_kind_is_hidden (type : TypeSig) :
    (type.eraseModifiers.stem = type.stem ↔
      ∀ inner kind, type.Hides inner kind → inner.nameStem = kind) ∧
    ∀ inner kind, type.Hides inner kind →
      type.eraseModifiers.stem = kind ∧ type.stem = inner.nameStem := by
  refine ⟨⟨?_, ?_⟩, fun _ _ h => h.stems⟩
  · intro h inner kind hides
    rw [← hides.stems.1, ← hides.stems.2, h]
  · intro h
    by_cases hides : ∃ inner kind, type.Hides inner kind
    · obtain ⟨inner, kind, hides⟩ := hides
      rw [hides.stems.1, hides.stems.2, h inner kind hides]
    · exact stem_eraseModifiers_of_not_hides fun inner kind hk => hides ⟨inner, kind, hk⟩

theorem modifiers_change_stem_only_where_kind_is_hidden_pinned :
    (modified (nullable (modified (pointer (builtin .int32))))).Hides
      (pointer (builtin .int32)) "ptr" ∧
    (modified (nullable (modified (pointer (builtin .int32))))).eraseModifiers.stem = "ptr" ∧
    (modified (nullable (modified (pointer (builtin .int32))))).stem = "int32*" := by
  have hides : (modified (nullable (modified (pointer (builtin .int32))))).Hides
      (pointer (builtin .int32)) "ptr" := ⟨rfl, rfl⟩
  obtain ⟨herased, hstem⟩ :=
    (modifiers_change_stem_only_where_kind_is_hidden _).2 _ _ hides
  exact ⟨hides, herased, hstem.trans (by decide +kernel)⟩

theorem modifiers_may_change_stem :
    (nullable (modified (array (builtin .byte)))).eraseModifiers.stem = "array" ∧
      (nullable (modified (array (builtin .byte)))).stem = "byte[]" := by
  decide +kernel

end TypeSig

end Nomen
