import Nomen.Proofs.Json.Rearranging
import Nomen.Proofs.RoundTrip

namespace Nomen

open Json

inductive RecordName where
  | unit | resolvedMethod | signature | procedure | slot | node | fieldRef | methodRef | namedType

inductive ChoiceName where
  | type | operand

def unitSchema : Schema RecordName ChoiceName where
  fields
    | .unit => [("type_name", .plain), ("fields", .list .plain), ("reserved_names", .list .plain),
        ("methods", .list (.record .resolvedMethod)), ("procedures", .list (.record .procedure))]
    | .resolvedMethod => [("method", .record .methodRef), ("signature", .record .signature)]
    | .signature => [("has_this", .plain), ("parameters", .list .plain)]
    | .procedure => [("name", .plain), ("slots", .list (.record .slot)), ("body", .record .node)]
    | .slot => [("kind", .plain), ("type", .choice .type), ("is_generated", .plain),
        ("debug_name", .plain), ("name", .plain)]
    | .node => [("code", .plain), ("operand", .choice .operand), ("args", .list (.record .node))]
    | .fieldRef => [("declaring_type", .plain), ("name", .plain)]
    | .methodRef => [("declaring_type", .plain), ("name", .plain), ("parameter_count", .plain)]
    | .namedType => [("namespace", .plain), ("name", .plain),
        ("generic_args", .list (.choice .type))]
  variants
    | .type => [("Builtin", .plain), ("Named", .record .namedType), ("Array", .choice .type),
        ("Pointer", .choice .type), ("ByReference", .choice .type), ("Modified", .choice .type)]
    | .operand => [("Slot", .plain), ("Field", .record .fieldRef), ("Method", .record .methodRef),
        ("Literal", .plain)]

theorem steady_below {α : Type} {form : Form RecordName ChoiceName} {read : Nat → Reader α}
    (h : ∀ depth, Steady unitSchema form (read depth)) (depth : Nat) :
    Steady unitSchema (.list form) (readList (below depth read)) := by
  apply Steady.list
  intro reader hreader
  cases depth with
  | zero => cases hreader
  | succ inner =>
    cases hreader
    exact h inner

theorem FieldRef.steady (depth : Nat) : Steady unitSchema (.record .fieldRef) (readAt depth) := by
  refine Layout.steady rfl (fun _ => .plain) rfl fun read hread => ?_
  cases depth with
  | zero => cases hread
  | succ inner =>
    cases hread
    rintro (_ | _)
    · exact readString_whole.steady
    · exact readString_whole.steady

theorem MethodRef.steady (depth : Nat) :
    Steady unitSchema (.record .methodRef) (readAt depth) := by
  refine Layout.steady rfl (fun _ => .plain) rfl fun read hread => ?_
  cases depth with
  | zero => cases hread
  | succ inner =>
    cases hread
    rintro (_ | _ | _)
    · exact readString_whole.steady
    · exact readString_whole.steady
    · exact readNat_whole.steady

theorem Literal.readAt_whole (depth : Nat) : ReadsWhole (readAt depth) := by
  refine readVariant_whole fun payload hpayload => ?_
  cases depth with
  | zero => cases hpayload
  | succ inner =>
    cases hpayload
    rintro (_ | _ | _ | _)
    · exact readBool_whole.map _
    · exact readInt_whole.map _
    · exact readFloat_whole.map _
    · exact readString_whole.map _

namespace Operand

def Tag.form : Tag → Form RecordName ChoiceName
  | slot => .plain
  | field => .record .fieldRef
  | method => .record .methodRef
  | literal => .plain

theorem steady (depth : Nat) : Steady unitSchema (.choice .operand) (readAt depth) := by
  refine Steady.variant Tag.form rfl fun payload hpayload => ?_
  cases depth with
  | zero => cases hpayload
  | succ inner =>
    cases hpayload
    rintro (_ | _ | _ | _)
    · exact readNat_whole.steady.map _
    · exact (FieldRef.steady inner).map _
    · exact (MethodRef.steady inner).map _
    · exact (Literal.readAt_whole inner).steady.map _

end Operand

namespace Node

def Field.form : Field → Form RecordName ChoiceName
  | code => .plain
  | operand => .choice .operand
  | args => .list (.record .node)

theorem steady (depth : Nat) : Steady unitSchema (.record .node) (readAt depth) := by
  induction depth using Nat.strongRecOn with
  | _ depth ih =>
    rw [readAt.eq_def]
    refine Layout.steady rfl Field.form rfl fun read hread => ?_
    cases depth with
    | zero => cases hread
    | succ inner =>
      cases hread
      rintro (_ | _ | _)
      · exact (readWord_whole inner).steady
      · exact (Operand.steady inner).option
      · refine Steady.list fun read hread => ?_
        cases inner with
        | zero => cases hread
        | succ below =>
          cases hread
          exact ih below (by omega)

end Node

namespace TypeSig

def NamedField.form : NamedField → Form RecordName ChoiceName
  | space => .plain
  | name => .plain
  | arguments => .list (.choice .type)

def Tag.form : Tag → Form RecordName ChoiceName
  | builtin => .plain
  | named => .record .namedType
  | array | pointer | byRef | modified => .choice .type

theorem steady (depth : Nat) : Steady unitSchema (.choice .type) (readAt depth) := by
  induction depth using Nat.strongRecOn with
  | _ depth ih =>
    rw [readAt.eq_def]
    refine Steady.variant Tag.form rfl fun payload hpayload => ?_
    cases depth with
    | zero => cases hpayload
    | succ inner =>
      cases hpayload
      have hinner := ih inner (by omega)
      rintro (_ | _ | _ | _ | _ | _)
      · exact (readWord_whole inner).steady.map _
      · refine Layout.steady rfl NamedField.form rfl fun read hread => ?_
        cases inner with
        | zero => cases hread
        | succ within =>
          cases hread
          rintro (_ | _ | _)
          · exact readString_whole.steady
          · exact readString_whole.steady
          · refine Steady.list fun read hread => ?_
            cases within with
            | zero => cases hread
            | succ below =>
              cases hread
              exact ih below (by omega)
      · exact hinner.map _
      · exact hinner.map _
      · exact hinner.map _
      · exact hinner.map _

end TypeSig

namespace Slot

def Field.form : Field → Form RecordName ChoiceName
  | type => .choice .type
  | kind | isGenerated | debugName | name => .plain

theorem steady (depth : Nat) : Steady unitSchema (.record .slot) (readAt depth) := by
  refine Layout.steady rfl Field.form rfl fun read hread => ?_
  cases depth with
  | zero => cases hread
  | succ inner =>
    cases hread
    rintro (_ | _ | _ | _ | _)
    · exact (readWord_whole inner).steady
    · exact TypeSig.steady inner
    · exact readBool_whole.steady
    · exact readString_whole.option.steady
    · exact readString_whole.option.steady

end Slot

namespace Procedure

def Field.form : Field → Form RecordName ChoiceName
  | name => .plain
  | slots => .list (.record .slot)
  | body => .record .node

theorem steady (depth : Nat) : Steady unitSchema (.record .procedure) (readAt depth) := by
  refine Layout.steady rfl Field.form rfl fun read hread => ?_
  cases depth with
  | zero => cases hread
  | succ inner =>
    cases hread
    rintro (_ | _ | _)
    · exact readString_whole.steady
    · exact steady_below Slot.steady inner
    · exact Node.steady inner

end Procedure

namespace Signature

def Field.form : Field → Form RecordName ChoiceName
  | hasThis => .plain
  | parameters => .list .plain

theorem steady (depth : Nat) : Steady unitSchema (.record .signature) (readAt depth) := by
  refine Layout.steady rfl Field.form rfl fun read hread => ?_
  cases depth with
  | zero => cases hread
  | succ inner =>
    cases hread
    rintro (_ | _)
    · exact readBool_whole.steady
    · exact steady_below (fun _ => readString_whole.steady) inner

end Signature

namespace ResolvedMethod

def Field.form : Field → Form RecordName ChoiceName
  | method => .record .methodRef
  | signature => .record .signature

theorem steady (depth : Nat) : Steady unitSchema (.record .resolvedMethod) (readAt depth) := by
  refine Layout.steady rfl Field.form rfl fun read hread => ?_
  cases depth with
  | zero => cases hread
  | succ inner =>
    cases hread
    rintro (_ | _)
    · exact MethodRef.steady inner
    · exact Signature.steady inner

end ResolvedMethod

namespace TypeUnit

def Field.form : Field → Form RecordName ChoiceName
  | typeName => .plain
  | fields | reservedNames => .list .plain
  | methods => .list (.record .resolvedMethod)
  | procedures => .list (.record .procedure)

theorem steady (depth : Nat) : Steady unitSchema (.record .unit) (readAt depth) := by
  refine Layout.steady rfl Field.form rfl fun read hread => ?_
  cases depth with
  | zero => cases hread
  | succ inner =>
    cases hread
    rintro (_ | _ | _ | _ | _)
    · exact readString_whole.steady
    · exact steady_below (fun _ => readString_whole.steady) inner
    · exact steady_below (fun _ => readString_whole.steady) inner
    · exact steady_below ResolvedMethod.steady inner
    · exact steady_below Procedure.steady inner

theorem rearranged_texts_are_read_alike (text : String) :
    (∀ unit, ofText text = .ok unit → ∃ value : Value, value.SpelledBy text.toList) ∧
    ∀ value : Value, value.SpelledBy text.toList →
      ∀ (rearranged : Value) (other : String),
        Relation.EqvGen (Rearranged unitSchema (.record .unit)) value rearranged →
        rearranged.SpelledBy other.toList →
          ∀ unit, ofText text = .ok unit ↔ ofText other = .ok unit := by
  constructor
  · intro unit h
    exact (steady depthLimit).whole.exists_spelledBy h
  · intro value hvalue rearranged other hgen hother unit
    rw [ofText, ofText, readText_of_spelledBy hvalue, readText_of_spelledBy hother]
    exact (steady depthLimit).eqvGen hgen unit

section Polling

def pollingMembers (type node : List (String × Value)) : List (String × Value) :=
  [("type_name", .text "T"),
    ("procedures", .list [.list [.text "Poll",
      .list [.record [("kind", .text "Local"), ("type", .record [("Array",
        .record [("Named", .record type)])])]],
      .record [("code", .text "Block"), ("args", .list [.record node])]]])]

def pollingDocument : Value :=
  .record (pollingMembers [("namespace", .text "System"), ("name", .text "Text")]
    [("code", .text "Nop")])

-- All members are in another order, and the node has a member that would be a slot's.
def rearrangedDocument : Value :=
  .record (pollingMembers [("name", .text "Text"), ("namespace", .text "System")]
    [("kind", .list [.null, .record [("code", .bool true)]]), ("code", .text "Nop")]).reverse

def polling : TypeUnit where
  typeName := "T"
  procedures := [{
    name := "Poll"
    slots := [{ kind := .localVariable, type := .array (.named "System" "Text" []) }]
    body := .block [⟨.nop, none, []⟩] }]

theorem rearranged_texts_are_read_alike_polling :
    ofText pollingDocument.pretty = .ok polling ∧
    pollingDocument.SpelledBy pollingDocument.pretty.toList ∧
    Relation.EqvGen (Rearranged unitSchema (.record .unit)) pollingDocument rearrangedDocument ∧
    rearrangedDocument.SpelledBy rearrangedDocument.pretty.toList ∧
    ofText rearrangedDocument.pretty = .ok polling := by
  have hpolling : pollingDocument.Writable := by
    simp [pollingDocument, pollingMembers]
  have hrearranged : rearrangedDocument.Writable := by
    simp [rearrangedDocument, pollingMembers, Tree.Writable]
  have hread : ofText pollingDocument.pretty = .ok polling :=
    Renders.of_pretty ⟨hpolling, by cbv⟩
  have hspelled := hpolling.spelledBy_pretty
  have hother := hrearranged.spelledBy_pretty
  have htype : Rearranged unitSchema (.record .namedType)
      (.record [("namespace", .text "System"), ("name", .text "Text")])
      (.record [("name", .text "Text"), ("namespace", .text "System")]) :=
    .reorder (.swap _ _ [])
  have hnode : Rearranged unitSchema (.record .node) (.record [("code", .text "Nop")])
      (.record [("kind", .list [.null, .record [("code", .bool true)]]), ("code", .text "Nop")]) :=
    .insert [] (by simp [unitSchema]) rfl
  have hgen : Relation.EqvGen (Rearranged unitSchema (.record .unit)) pollingDocument
      rearrangedDocument := by
    have hprocedures : ("procedures", .list (.record .procedure)) ∈ unitSchema.fields .unit := by
      simp [unitSchema]
    have hslotType : ("type", .choice .type) ∈ unitSchema.fields .slot := by simp [unitSchema]
    have harray : ("Array", .choice .type) ∈ unitSchema.variants .type := by simp [unitSchema]
    have hnamed : ("Named", .record .namedType) ∈ unitSchema.variants .type := by
      simp [unitSchema]
    have hargs : ("args", .list (.record .node)) ∈ unitSchema.fields .node := by simp [unitSchema]
    refine .trans _ _ _ (.rel _ _ (.member [_] hprocedures (.item [] (.position [_] rfl
      (.item [] (.member [_] hslotType (.payload harray (.payload hnamed htype)))))))) ?_
    refine .trans _ _ _ (.rel _ _ (.member [_] hprocedures (.item [] (.position [_, _] rfl
      (.member [_] hargs (.item [] hnode)))))) ?_
    exact .rel _ _ (.reorder (List.reverse_perm _).symm)
  refine ⟨hread, hspelled, hgen, hother, ?_⟩
  exact ((rearranged_texts_are_read_alike _).2 _ hspelled _ _ hgen hother polling).mp hread

end Polling

end TypeUnit

end Nomen
