import Nomen.Document.Procedure
import Nomen.Proofs.Json.Reading

namespace Nomen

open Json

namespace FieldRef

def render? (ref : FieldRef) : Field → Option Value
  | .declaringType => some (.text ref.declaringType)
  | .name => some (.text ref.name)

theorem renders_toJson {depth : Nat} {ref : FieldRef} (h : Yields (readAt depth) ref) :
    Renders (readAt depth) ref.toJson ref := by
  obtain ⟨read, content, hdepth, rfl, -⟩ := h.of_record
  cases depth with
  | zero => cases hdepth
  | succ inner =>
    apply renders_record content (build content).render?
    rintro (_ | _)
    · apply renders_text
    · apply renders_text

end FieldRef

namespace MethodRef

def render? (ref : MethodRef) : Field → Option Value
  | .declaringType => some (.text ref.declaringType)
  | .name => some (.text ref.name)
  | .parameterCount => some (.int ref.parameterCount)

theorem renders_toJson {depth : Nat} {ref : MethodRef} (h : Yields (readAt depth) ref) :
    Renders (readAt depth) ref.toJson ref := by
  obtain ⟨read, content, hdepth, rfl, hfields⟩ := h.of_record
  cases depth with
  | zero => cases hdepth
  | succ inner =>
    cases hdepth
    have hcount : content .parameterCount < Decimal.wordCount := by
      rcases hfields .parameterCount with hdefault | hyields
      · rw [← Option.some.inj hdefault]
        decide
      · exact hyields.nat_lt
    apply renders_record content (build content).render?
    rintro (_ | _ | _)
    · apply renders_text
    · apply renders_text
    · exact renders_nat hcount

end MethodRef

namespace Literal

instance : LawfulVocabulary Tag where
  ofWord?_word tag := by cases tag <;> rfl

theorem renders_toJson {depth : Nat} {literal : Literal} (h : Yields (readAt depth) literal)
    (hfloat : ∀ x, literal ≠ float x) : Renders (readAt depth) literal.toJson literal := by
  obtain ⟨payload, hdepth, tag, hpayload⟩ := h.of_variant
  cases depth with
  | zero => cases hdepth
  | succ inner =>
    cases hdepth
    cases tag with
    | bool =>
      obtain ⟨value, -, rfl⟩ := hpayload.of_map
      exact renders_variant Tag.bool ((renders_bool value).map _)
    | int =>
      obtain ⟨value, hvalue, rfl⟩ := hpayload.of_map
      exact renders_variant Tag.int ((renders_int hvalue.int_bounds).map _)
    | float =>
      obtain ⟨value, -, rfl⟩ := hpayload.of_map
      exact absurd rfl (hfloat value)
    | string =>
      obtain ⟨value, -, rfl⟩ := hpayload.of_map
      exact renders_variant Tag.string ((renders_text value).map _)

end Literal

namespace Operand

instance : LawfulVocabulary Tag where
  ofWord?_word tag := by cases tag <;> rfl

theorem toJson_ne_null (operand : Operand) : operand.toJson ≠ .null := by
  cases operand <;> simp [toJson, Tree.record]

theorem renders_toJson {depth : Nat} {operand : Operand} (h : Yields (readAt depth) operand)
    (hfloat : ∀ x, operand ≠ literal (.float x)) :
    Renders (readAt depth) operand.toJson operand := by
  obtain ⟨payload, hdepth, tag, hpayload⟩ := h.of_variant
  cases depth with
  | zero => cases hdepth
  | succ inner =>
    cases hdepth
    cases tag with
    | slot =>
      obtain ⟨index, hindex, rfl⟩ := hpayload.of_map
      exact renders_variant Tag.slot ((renders_nat hindex.nat_lt).map _)
    | field =>
      obtain ⟨ref, href, rfl⟩ := hpayload.of_map
      exact renders_variant Tag.field ((FieldRef.renders_toJson href).map _)
    | method =>
      obtain ⟨ref, href, rfl⟩ := hpayload.of_map
      exact renders_variant Tag.method ((MethodRef.renders_toJson href).map _)
    | literal =>
      obtain ⟨value, hvalue, rfl⟩ := hpayload.of_map
      refine renders_variant Tag.literal ((Literal.renders_toJson hvalue ?_).map _)
      rintro x rfl
      exact hfloat x rfl

end Operand

instance : LawfulVocabulary Operation where
  ofWord?_word code := by cases code <;> rfl

namespace Node

def FloatFree (node : Node) : Prop :=
  ∀ sub ∈ node.subnodes, ∀ x, sub.operand ≠ some (.literal (.float x))

theorem FloatFree.operand {node : Node} (h : node.FloatFree) (x : Float) :
    node.operand ≠ some (.literal (.float x)) :=
  h node (mem_subnodes.mpr (Or.inl rfl)) x

theorem FloatFree.arg {node arg : Node} (h : node.FloatFree) (ha : arg ∈ node.args) :
    arg.FloatFree :=
  fun sub hs => h sub (mem_subnodes.mpr (Or.inr ⟨arg, ha, hs⟩))

theorem allToJson_eq (nodes : List Node) : allToJson nodes = .ofList (nodes.map toJson) := by
  induction nodes with
  | nil => rfl
  | cons node nodes ih => rw [allToJson, ih, List.map_cons, Tree.ofList]

def render? (node : Node) : Field → Option Value
  | .code => some (.text node.code.name)
  | .operand => node.operand.map Operand.toJson
  | .args => if node.args = [] then none else some (.list (node.args.map toJson))

theorem toJson_eq_write (node : Node) : node.toJson = layout.write node.render? := by
  obtain ⟨code, operand, args⟩ := node
  rw [toJson, allToJson_eq]
  cases operand <;> cases args <;> rfl

theorem renders_toJson {depth : Nat} {node : Node} (h : Yields (readAt depth) node)
    (hfloat : node.FloatFree) : Renders (readAt depth) node.toJson node := by
  -- The arguments are two brackets further down than the node.
  induction depth using Nat.strongRecOn generalizing node with
  | _ depth ih =>
    rw [toJson_eq_write]
    rw [readAt.eq_def] at h ⊢
    obtain ⟨read, content, hdepth, rfl, hfields⟩ := h.of_record
    cases depth with
    | zero => cases hdepth
    | succ inner =>
      cases hdepth
      apply renders_record content (build content).render?
      rintro (_ | _ | _)
      · apply renders_word
      · refine keeps_option Operand.toJson_ne_null fun operand hoperand => ?_
        have hyields : Yields (Operand.readAt inner) operand := by
          rcases hfields .operand with hdefault | hyields
          · cases hdefault.trans (congrArg some hoperand)
          · exact (hoperand ▸ hyields).of_option
        exact Operand.renders_toJson hyields fun x hx => hfloat.operand x (hx ▸ hoperand)
      · refine keeps_list (hfields .args) fun read hinner arg ha hread => ?_
        cases inner with
        | zero => cases hinner
        | succ below =>
          cases hinner
          exact ih below (by omega) hread (hfloat.arg ha)

end Node

instance : LawfulVocabulary Builtin where
  ofWord?_word type := by cases type <;> rfl

namespace TypeSig

instance : LawfulVocabulary Tag where
  ofWord?_word tag := by cases tag <;> rfl

theorem allToJson_eq (types : List TypeSig) : allToJson types = .ofList (types.map toJson) := by
  induction types with
  | nil => rfl
  | cons type types ih => rw [allToJson, ih, List.map_cons, Tree.ofList]

def renderNamed? (content : (field : NamedField) → field.Content) : NamedField → Option Value
  | .space => some (.text (content .space))
  | .name => some (.text (content .name))
  | .arguments =>
    if content .arguments = [] then none else some (.list ((content .arguments).map toJson))

theorem toJson_buildNamed (content : (field : NamedField) → field.Content) :
    (buildNamed content).toJson =
      .record [("Named", namedLayout.write (renderNamed? content))] := by
  unfold buildNamed
  cases harguments : content .arguments with
  | nil => simp [toJson, Layout.write, namedLayout, renderNamed?, harguments]
  | cons type types =>
    simp [toJson, allToJson_eq, Layout.write, namedLayout, renderNamed?, harguments, Tree.list,
      Tree.ofList]

theorem renders_toJson {depth : Nat} {type : TypeSig} (h : Yields (readAt depth) type) :
    Renders (readAt depth) type.toJson type := by
  induction depth using Nat.strongRecOn generalizing type with
  | _ depth ih =>
    rw [readAt.eq_def] at h ⊢
    obtain ⟨payload, hdepth, tag, hpayload⟩ := h.of_variant
    cases depth with
    | zero => cases hdepth
    | succ inner =>
      cases hdepth
      cases tag with
      | builtin =>
        obtain ⟨builtin, -, rfl⟩ := hpayload.of_map
        rw [toJson]
        exact renders_variant Tag.builtin ((renders_word inner builtin).map _)
      | named =>
        obtain ⟨read, content, hinner, rfl, hfields⟩ := hpayload.of_record
        rw [toJson_buildNamed]
        apply renders_variant Tag.named
        cases inner with
        | zero => cases hinner
        | succ within =>
          cases hinner
          apply renders_record content
          rintro (_ | _ | _)
          · apply renders_text
          · apply renders_text
          · refine keeps_list (hfields .arguments) fun read hwithin argument _ hread => ?_
            cases within with
            | zero => cases hwithin
            | succ below =>
              cases hwithin
              exact ih below (by omega) hread
      | array =>
        obtain ⟨element, helement, rfl⟩ := hpayload.of_map
        rw [toJson]
        exact renders_variant Tag.array ((ih inner (by omega) helement).map _)
      | pointer =>
        obtain ⟨target, htarget, rfl⟩ := hpayload.of_map
        rw [toJson]
        exact renders_variant Tag.pointer ((ih inner (by omega) htarget).map _)
      | byRef =>
        obtain ⟨target, htarget, rfl⟩ := hpayload.of_map
        rw [toJson]
        exact renders_variant Tag.byRef ((ih inner (by omega) htarget).map _)
      | modified =>
        obtain ⟨target, htarget, rfl⟩ := hpayload.of_map
        rw [toJson]
        exact renders_variant Tag.modified ((ih inner (by omega) htarget).map _)

end TypeSig

end Nomen
