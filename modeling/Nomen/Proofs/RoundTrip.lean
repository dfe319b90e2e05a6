import Nomen.Document.TypeUnit
import Nomen.Proofs.Document
import Nomen.TypeUnit.Naming

namespace Nomen

open Json

instance : LawfulVocabulary SlotKind where
  ofWord?_word kind := by cases kind <;> rfl

namespace Slot

def render? (slot : Slot) : Field → Option Value
  | .kind => some (.text (Vocabulary.word slot.kind))
  | .type => some slot.type.toJson
  | .isGenerated => some (.bool slot.isGenerated)
  | .debugName => slot.debugName.map .text
  | .name => slot.name.map .text

theorem toJson_eq_write (slot : Slot) : slot.toJson = layout.write slot.render? := by
  obtain ⟨kind, type, isGenerated, debugName, name⟩ := slot
  cases debugName <;> cases name <;> rfl

theorem renders_toJson {depth : Nat} {slot : Slot}
    (h : Renders (TypeSig.readAt depth) slot.type.toJson slot.type) :
    Renders (readAt (depth + 1)) slot.toJson slot := by
  rw [toJson_eq_write]
  obtain ⟨content, rfl⟩ : ∃ content, build content = slot :=
    ⟨fun field => field.rec slot.kind slot.type slot.isGenerated slot.debugName slot.name, rfl⟩
  apply renders_record content (build content).render?
  rintro (_ | _ | _ | _ | _)
  · apply renders_word
  · exact h
  · apply renders_bool
  · exact keeps_option Tree.text_ne_null fun text _ => renders_text text
  · exact keeps_option Tree.text_ne_null fun text _ => renders_text text

theorem renders_renamed {depth : Nat} {slot : Slot} (h : Yields (readAt depth) slot)
    (name : Option String) :
    Renders (readAt depth) { slot with name := name }.toJson { slot with name := name } := by
  obtain ⟨read, content, hdepth, rfl, hfields⟩ := h.of_record
  cases depth with
  | zero => cases hdepth
  | succ inner =>
    cases hdepth
    apply renders_toJson
    rcases hfields .type with hdefault | hyields
    · cases hdefault
    · exact TypeSig.renders_toJson hyields

end Slot

namespace Procedure

def render? (procedure : Procedure) : Field → Option Value
  | .name => some (.text procedure.name)
  | .slots => some (.list (procedure.slots.map Slot.toJson))
  | .body => some procedure.body.toJson

structure RenamedFrom (renamed procedure : Procedure) : Prop where
  name : renamed.name = procedure.name
  body : renamed.body = procedure.body
  slots : ∀ slot ∈ renamed.slots, ∃ old ∈ procedure.slots, slot = { old with name := slot.name }

theorem RenamedFrom.refl (procedure : Procedure) : procedure.RenamedFrom procedure :=
  ⟨rfl, rfl, fun slot hs => ⟨slot, hs, rfl⟩⟩

theorem nameSlots_renamedFrom (procedure : Procedure) (scope : Scope) :
    (procedure.nameSlots scope).RenamedFrom procedure := by
  refine ⟨rfl, rfl, ?_⟩
  intro slot hs
  obtain ⟨index, hi, rfl⟩ := List.mem_mapIdx.mp hs
  refine ⟨procedure.slots[index], List.getElem_mem hi, ?_⟩
  split <;> rfl

theorem renders_toJson {depth : Nat} {procedure : Procedure}
    (hslots : ∀ slot ∈ procedure.slots, Renders (Slot.readAt depth) slot.toJson slot)
    (hbody : Renders (Node.readAt (depth + 1)) procedure.body.toJson procedure.body) :
    Renders (readAt (depth + 2)) procedure.toJson procedure := by
  obtain ⟨content, rfl⟩ : ∃ content, build content = procedure :=
    ⟨fun field => field.rec procedure.name procedure.slots procedure.body, rfl⟩
  apply renders_record content (build content).render?
  rintro (_ | _ | _)
  · apply renders_text
  · exact renders_list hslots
  · exact hbody

theorem renders_renamed {depth : Nat} {procedure renamed : Procedure}
    (h : Yields (readAt depth) procedure) (hfloat : procedure.body.FloatFree)
    (hr : renamed.RenamedFrom procedure) : Renders (readAt depth) renamed.toJson renamed := by
  obtain ⟨read, content, hdepth, rfl, hfields⟩ := h.of_record
  cases depth with
  | zero => cases hdepth
  | succ inner =>
    cases hdepth
    have hslots := (hfields .slots).resolve_left (by simp [layout])
    have hbody := (hfields .body).resolve_left (by simp [layout])
    obtain ⟨read, hinner, hread⟩ := hslots.of_list
    cases inner with
    | zero => cases hinner
    | succ below =>
      cases hinner
      apply renders_toJson
      · intro slot hs
        obtain ⟨old, ho, heq⟩ := hr.slots slot hs
        rw [heq]
        exact Slot.renders_renamed (hread old ho) slot.name
      · rw [hr.body]
        exact Node.renders_toJson hbody hfloat

end Procedure

namespace Signature

def render? (signature : Signature) : Field → Option Value
  | .hasThis => some (.bool signature.hasThis)
  | .parameters => some (.list (signature.parameters.map .text))

/-- The list of parameters is written even if there are none, so one bracket more is needed than
for reading a signature without it. -/
theorem renders_toJson (depth : Nat) (signature : Signature) :
    Renders (readAt (depth + 2)) signature.toJson signature := by
  obtain ⟨content, rfl⟩ : ∃ content, build content = signature :=
    ⟨fun field => field.rec signature.hasThis signature.parameters, rfl⟩
  apply renders_record content (build content).render?
  rintro (_ | _)
  · apply renders_bool
  · exact renders_list fun name _ => renders_text name

end Signature

namespace ResolvedMethod

def render? (resolved : ResolvedMethod) : Field → Option Value
  | .method => some resolved.method.toJson
  | .signature => some resolved.signature.toJson

theorem renders_toJson {depth : Nat} {resolved : ResolvedMethod}
    (h : Yields (readAt (depth + 3)) resolved) :
    Renders (readAt (depth + 3)) resolved.toJson resolved := by
  obtain ⟨read, content, hdepth, rfl, hfields⟩ := h.of_record
  cases hdepth
  apply renders_record content (build content).render?
  rintro (_ | _)
  · rcases hfields .method with hdefault | hyields
    · cases hdefault
    · exact MethodRef.renders_toJson hyields
  · exact Signature.renders_toJson depth (content .signature)

end ResolvedMethod

namespace TypeUnit

def render? (unit : TypeUnit) : Field → Option Value
  | .typeName => some (.text unit.typeName)
  | .fields => some (.list (unit.fields.map .text))
  | .reservedNames => some (.list (unit.reservedNames.map .text))
  | .methods => some (.list (unit.methods.map ResolvedMethod.toJson))
  | .procedures => some (.list (unit.procedures.map Procedure.toJson))

def FloatFree (unit : TypeUnit) : Prop :=
  ∀ procedure ∈ unit.procedures, procedure.body.FloatFree

theorem yields_parts {depth : Nat} {unit : TypeUnit} (h : Yields (readAt (depth + 2)) unit) :
    (∀ resolved ∈ unit.methods, Yields (ResolvedMethod.readAt depth) resolved) ∧
      ∀ procedure ∈ unit.procedures, Yields (Procedure.readAt depth) procedure := by
  obtain ⟨read, content, hdepth, rfl, hfields⟩ := h.of_record
  cases hdepth
  constructor
  · rcases hfields .methods with hdefault | hyields
    · have hnone : content .methods = [] := (Option.some.inj hdefault).symm
      simp [build, hnone]
    · obtain ⟨read, hread, hmethods⟩ := hyields.of_list
      cases hread
      exact hmethods
  · obtain ⟨read, hread, hprocedures⟩ :=
      ((hfields .procedures).resolve_left (by simp [layout])).of_list
    cases hread
    exact hprocedures

theorem renders_toJson {depth : Nat} {unit : TypeUnit}
    (hmethods : ∀ resolved ∈ unit.methods,
      Renders (ResolvedMethod.readAt depth) resolved.toJson resolved)
    (hprocedures : ∀ procedure ∈ unit.procedures,
      Renders (Procedure.readAt depth) procedure.toJson procedure) :
    Renders (readAt (depth + 2)) unit.toJson unit := by
  obtain ⟨content, rfl⟩ : ∃ content, build content = unit :=
    ⟨fun field => field.rec unit.typeName unit.fields unit.reservedNames unit.methods
      unit.procedures, rfl⟩
  apply renders_record content (build content).render?
  rintro (_ | _ | _ | _ | _)
  · apply renders_text
  · exact renders_list fun name _ => renders_text name
  · exact renders_list fun name _ => renders_text name
  · exact renders_list hmethods
  · exact renders_list hprocedures

theorem ofText_toText_renamed {text : String} {unit : TypeUnit} (h : ofText text = .ok unit)
    (hfloat : unit.FloatFree) {procedures : List Procedure}
    (hr : ∀ renamed ∈ procedures, ∃ procedure ∈ unit.procedures, renamed.RenamedFrom procedure) :
    ofText { unit with procedures := procedures }.toText =
      .ok { unit with procedures := procedures } := by
  obtain ⟨hmethods, hprocedures⟩ := yields_parts (Yields.of_text h)
  apply Renders.of_pretty
  apply renders_toJson
  · exact fun resolved hresolved => ResolvedMethod.renders_toJson (hmethods resolved hresolved)
  · intro renamed hrenamed
    obtain ⟨procedure, hp, hr⟩ := hr renamed hrenamed
    exact Procedure.renders_renamed (hprocedures procedure hp) (hfloat procedure hp) hr

theorem written_types_are_read_back {text : String} {unit : TypeUnit}
    (h : ofText text = .ok unit) (hfloat : unit.FloatFree) :
    ofText unit.toText = .ok unit ∧
      ∀ (settings : Settings) (withKeywords : Bool),
        ofText (unit.nameSlots settings withKeywords).toText =
          .ok (unit.nameSlots settings withKeywords) := by
  constructor
  · exact ofText_toText_renamed h hfloat fun procedure hp => ⟨procedure, hp, .refl procedure⟩
  · intro settings withKeywords
    apply ofText_toText_renamed h hfloat
    intro renamed hrenamed
    obtain ⟨procedure, hp, rfl⟩ := List.mem_map.mp hrenamed
    exact ⟨procedure, hp, procedure.nameSlots_renamedFrom _⟩

-- Records in brackets, and fields that are left out or out of order.
def tickingDocument : Value :=
  .record [("procedures", .list [.record [
      ("slots", .list [.list [.text "Local", .record [("Builtin", .text "Int64")]]]),
      ("body", .list [.text "Call",
        .record [("Method", .list [.text "", .text "Add", .int 18446744073709551615])]])]]),
    ("type_name", .text "\x07ü")]

def ticking : TypeUnit where
  typeName := "\x07ü"
  procedures := [{
    name := ""
    slots := [{ kind := .localVariable, type := .builtin .int64 }]
    body := .invoke .call ⟨"", "Add", 18446744073709551615⟩ [] }]

theorem written_types_are_read_back_ticking :
    ofText tickingDocument.pretty = .ok ticking ∧ ticking.FloatFree ∧
      ofText ticking.toText = .ok ticking ∧
      ∀ (settings : Settings) (withKeywords : Bool),
        ofText (ticking.nameSlots settings withKeywords).toText =
          .ok (ticking.nameSlots settings withKeywords) := by
  have hread : ofText tickingDocument.pretty = .ok ticking :=
    Renders.of_pretty
      ⟨by simp [tickingDocument, Tree.int, Tree.Writable, Number.Fits, Decimal.wordCount], by cbv⟩
  have hfloat : ticking.FloatFree := by
    simp [FloatFree, ticking, Node.FloatFree, Node.subnodes_eq_preorder, Node.invoke,
      Node.preorder, Node.preorderAll]
  exact ⟨hread, hfloat, written_types_are_read_back hread hfloat⟩

end TypeUnit

end Nomen
