import Mathlib.Data.List.Nodup
import Nomen.Json.Reader
import Nomen.Proofs.Json.Parsing

/-!
What a reader can yield, and how it is written so that the reader gets it back. For each way to
build a reader from others there are two lemmas. The first says what the parts of something are
that the reader yields. The second says that something is read back if its parts are.
-/

namespace Nomen.Json

section Results

variable {ε α β : Type}

theorem bind_eq_ok {x : Except ε α} {f : α → Except ε β} {b : β} :
    x >>= f = .ok b ↔ ∃ a, x = .ok a ∧ f a = .ok b := by
  cases x with
  | error e => simp [bind, Except.bind]
  | ok a => simp [bind, Except.bind]

theorem bind_eq_error {x : Except ε α} {f : α → Except ε β} {e : ε} :
    x >>= f = .error e ↔ x = .error e ∨ ∃ a, x = .ok a ∧ f a = .error e := by
  cases x with
  | error e => simp [bind, Except.bind]
  | ok a => simp [bind, Except.bind]

theorem map_eq_ok {x : Except ε α} {f : α → β} {b : β} :
    x.map f = .ok b ↔ ∃ a, x = .ok a ∧ f a = b := by
  cases x with
  | error e => simp [Except.map]
  | ok a => simp [Except.map]

end Results

section Writing

@[simp]
theorem Tree.list_writable {values : List Value} :
    (Tree.list values).Writable ↔ ∀ value ∈ values, value.Writable := by
  rw [Tree.list, Tree.Writable]
  induction values with
  | nil => simp [Tree.ofList, Tree.Writable]
  | cons value values ih => simp [Tree.ofList, Tree.Writable, ih]

@[simp]
theorem Tree.record_writable {members : List (String × Value)} :
    (Tree.record members).Writable ↔ ∀ member ∈ members, member.2.Writable := by
  rw [Tree.record, Tree.Writable]
  induction members with
  | nil => simp [Tree.ofMembers, Tree.Writable]
  | cons member members ih => simp [Tree.ofMembers, Tree.Writable, ih]

@[simp]
theorem Tree.text_writable (text : String) : (Tree.text text).Writable :=
  rfl

theorem Tree.text_ne_null (text : String) : Tree.text text ≠ .null := by
  simp [Tree.text]

end Writing

section Readers

variable {α β : Type}

def Yields (read : Reader α) (a : α) : Prop :=
  ∃ value : Value, value.InRange ∧ read value = .ok a

structure Renders (read : Reader α) (value : Value) (a : α) : Prop where
  writable : value.Writable
  reads : read value = .ok a

variable {read : Reader α} {value : Value} {a : α}

theorem Yields.of_text {text : String} (h : readText read text = .ok a) : Yields read a := by
  obtain ⟨b, hb, hended⟩ := bind_eq_ok.mp h
  refine ⟨_, Document.ofText_inRange text, ?_⟩
  split at hended
  · cases hended
    exact hb
  · cases hended

theorem Renders.of_pretty (h : Renders read value a) : readText read value.pretty = .ok a := by
  simp only [readText, Document.ofText_pretty h.writable, h.reads]
  rfl

theorem Yields.of_map {f : α → β} {b : β} (h : Yields (fun value => (read value).map f) b) :
    ∃ a, Yields read a ∧ f a = b := by
  obtain ⟨value, hv, hread⟩ := h
  obtain ⟨a, ha, rfl⟩ := map_eq_ok.mp hread
  exact ⟨a, ⟨value, hv, ha⟩, rfl⟩

theorem Renders.map (h : Renders read value a) (f : α → β) :
    Renders (fun value => (read value).map f) value (f a) :=
  ⟨h.writable, map_eq_ok.mpr ⟨a, h.reads, rfl⟩⟩

theorem renders_text (text : String) : Renders readString (.text text) text :=
  ⟨Tree.text_writable text, rfl⟩

theorem renders_bool (b : Bool) : Renders readBool (.bool b) b :=
  ⟨trivial, rfl⟩

theorem Yields.nat_lt {n : Nat} (h : Yields readNat n) : n < Decimal.wordCount := by
  obtain ⟨value, hv, hread⟩ := h
  unfold readNat at hread
  split at hread
  · split at hread
    · cases hread
      have := hv.2
      omega
    · cases hread
  · cases hread

theorem renders_nat {n : Nat} (hn : n < Decimal.wordCount) : Renders readNat (.int n) n :=
  ⟨⟨by omega, by omega⟩, by simp [Tree.int, readNat]⟩

theorem Yields.int_bounds {n : Int} (h : Yields readInt n) :
    -(Decimal.signWord : Int) ≤ n ∧ n < Decimal.signWord := by
  obtain ⟨value, hv, hread⟩ := h
  unfold readInt at hread
  split at hread
  · split at hread
    · next hlt =>
      cases hread
      exact ⟨hv.1, hlt⟩
    · cases hread
  · cases hread

theorem renders_int {n : Int} (hn : -(Decimal.signWord : Int) ≤ n ∧ n < Decimal.signWord) :
    Renders readInt (.int n) n := by
  have hword : (Decimal.signWord : Int) ≤ Decimal.wordCount := by decide
  exact ⟨⟨hn.1, by omega⟩, by simp [Tree.int, readInt, hn.2]⟩

theorem Yields.of_option (h : Yields (readOption read) (some a)) : Yields read a := by
  obtain ⟨value, hv, hread⟩ := h
  unfold readOption at hread
  split at hread
  · cases hread
  · obtain ⟨b, hb, heq⟩ := map_eq_ok.mp hread
    cases heq
    exact ⟨value, hv, hb⟩

theorem Renders.option (h : Renders read value a) (hv : value ≠ .null) :
    Renders (readOption read) value (some a) := by
  refine ⟨h.writable, ?_⟩
  rw [readOption, h.reads]
  · rfl
  · exact hv

theorem yields_of_readItems {items : Items} (hi : items.InRange) {as : List α}
    (h : readItems read items = .ok as) : ∀ a ∈ as, Yields read a := by
  induction as generalizing items with
  | nil => simp
  | cons a as ih =>
    unfold readItems at h
    split at h
    · cases h
    · obtain ⟨b, hb, h⟩ := bind_eq_ok.mp h
      obtain ⟨bs, hbs, h⟩ := bind_eq_ok.mp h
      cases h
      exact List.forall_mem_cons.mpr ⟨⟨_, hi.1, hb⟩, ih hi.2 hbs⟩
    · cases h

theorem Yields.of_list {inside : Option (Reader α)} {as : List α}
    (h : Yields (readList inside) as) : ∃ read, inside = some read ∧ ∀ a ∈ as, Yields read a := by
  obtain ⟨value, hv, hread⟩ := h
  unfold readList at hread
  split at hread
  · split at hread
    · exact ⟨_, rfl, yields_of_readItems hv hread⟩
    · cases hread
  · cases hread

theorem renders_list {write : α → Value} {as : List α} (h : ∀ a ∈ as, Renders read (write a) a) :
    Renders (readList (some read)) (.list (as.map write)) as := by
  have hread : readItems read (.ofList (as.map write)) = .ok as := by
    induction as with
    | nil => simp [Tree.ofList, readItems]
    | cons a as ih =>
      rw [List.forall_mem_cons] at h
      rw [List.map_cons, Tree.ofList, readItems, h.1.reads, ih h.2]
      rfl
  refine ⟨?_, by rw [Tree.list, readList, hread]⟩
  rw [Tree.list_writable, List.forall_mem_map]
  exact fun a ha => (h a ha).writable

/-- Something is rendered, or it is left out because it is what is read then. -/
def Keeps (read : Reader α) (default? : Option α) (a : α) : Option Value → Prop
  | some value => Renders read value a
  | none => default? = some a

theorem keeps_option {write : α → Value} (hnull : ∀ a, write a ≠ .null) {a? : Option α}
    (h : ∀ a, a? = some a → Renders read (write a) a) :
    Keeps (readOption read) (some none) a? (a?.map write) := by
  cases a? with
  | none => exact rfl
  | some a => exact (h a rfl).option (hnull a)

theorem keeps_list {inside : Option (Reader α)} {write : α → Value} {as : List α}
    (h : some [] = some as ∨ Yields (readList inside) as)
    (hwrite : ∀ read, inside = some read → ∀ a ∈ as, Yields read a → Renders read (write a) a) :
    Keeps (readList inside) (some []) as
      (if as = [] then none else some (.list (as.map write))) := by
  split
  · next hempty =>
    rw [hempty]
    exact rfl
  · next hempty =>
    rcases h with hdefault | hyields
    · exact absurd (Option.some.inj hdefault).symm hempty
    · obtain ⟨read, rfl, hread⟩ := hyields.of_list
      exact renders_list fun a ha => hwrite read rfl a ha (hread a ha)

end Readers

section Variants

variable {τ α : Type} [Vocabulary τ]

class LawfulVocabulary (τ : Type) [Vocabulary τ] : Prop where
  ofWord?_word (tag : τ) : Vocabulary.ofWord? (Vocabulary.word tag) = some tag

theorem readTag_word [LawfulVocabulary τ] (tag : τ) : readTag (Vocabulary.word tag) = .ok tag := by
  rw [readTag, LawfulVocabulary.ofWord?_word tag]

theorem Yields.of_variant {inside : Option (τ → Reader α)} {a : α}
    (h : Yields (readVariant inside) a) : ∃ payload, inside = some payload ∧
      ∃ tag, Yields (payload tag) a := by
  obtain ⟨value, hv, hread⟩ := h
  unfold readVariant at hread
  split at hread
  · obtain ⟨tag, -, hread⟩ := bind_eq_ok.mp hread
    cases hread
  · split at hread
    · next members _ payload =>
      refine ⟨payload, rfl, ?_⟩
      unfold readMember at hread
      split at hread
      · obtain ⟨tag, -, hread⟩ := bind_eq_ok.mp hread
        obtain ⟨b, hb, hread⟩ := bind_eq_ok.mp hread
        obtain ⟨-, -, hread⟩ := bind_eq_ok.mp hread
        cases hread
        exact ⟨tag, _, hv.1, hb⟩
      · cases hread
    · cases hread
  · cases hread

variable [LawfulVocabulary τ]

theorem renders_word (depth : Nat) (tag : τ) :
    Renders (readWord depth) (.text (Vocabulary.word tag)) tag :=
  ⟨rfl, by rw [Tree.text, readWord, readTag_word]⟩

theorem renders_variant {payload : τ → Reader α} (tag : τ) {value : Value} {a : α}
    (h : Renders (payload tag) value a) :
    Renders (readVariant (some payload)) (.record [(Vocabulary.word tag, value)]) a := by
  refine ⟨by simpa using h.writable, ?_⟩
  rw [Tree.record, readVariant, Tree.ofMembers, readMember]
  exact bind_eq_ok.mpr ⟨tag, readTag_word tag, bind_eq_ok.mpr ⟨a, h.reads, rfl⟩⟩

end Variants

section Records

variable {φ : Type} {β : φ → Type}

theorem Layout.assemble_eq_ok {ρ : Type} {layout : Layout φ β} {build : ((field : φ) → β field) → ρ}
    {parts : Parts φ β} {record : ρ} : layout.assemble build parts = .ok record ↔
      ∃ content, (∀ field, layout.filled parts field = some (content field)) ∧
        build content = record := by
  unfold Layout.assemble
  split
  · next field hmissing =>
    constructor
    · intro h
      cases h
    · rintro ⟨content, hcontent, -⟩
      have hnone := List.find?_some hmissing
      rw [hcontent field] at hnone
      cases hnone
  · constructor
    · intro h
      cases h
      exact ⟨_, fun field => (Option.some_get _).symm, rfl⟩
    · rintro ⟨content, hcontent, rfl⟩
      simp only [hcontent, Option.get_some]

variable [DecidableEq φ]

def Parts.Yielded (parts : Parts φ β) (inside : (field : φ) → Reader (β field)) : Prop :=
  ∀ field part, parts field = some part → Yields (inside field) part

namespace Layout

variable {layout : Layout φ β} {inside : (field : φ) → Reader (β field)} {parts found : Parts φ β}

theorem put_self (parts : Parts φ β) (field : φ) (part : β field) :
    put parts field part field = some part := by
  simp [put]

theorem put_of_ne (parts : Parts φ β) {field other : φ} (part : β field) (h : field ≠ other) :
    put parts field part other = parts other := by
  simp [put, h]

theorem put_yielded (hparts : parts.Yielded inside) {field : φ} {part : β field}
    (hpart : Yields (inside field) part) : (put parts field part).Yielded inside := by
  intro other content h
  by_cases heq : field = other
  · subst heq
    rw [put_self] at h
    cases h
    exact hpart
  · rw [put_of_ne parts part heq] at h
    exact hparts other content h

theorem readMembers_yielded (hparts : parts.Yielded inside) {members : Members}
    (hm : members.InRange) (h : layout.readMembers inside parts members = .ok found) :
    found.Yielded inside := by
  fun_induction layout.readMembers inside parts members with
  | case1 parts =>
    cases h
    exact hparts
  | case2 parts key value tail field hfield hsome => cases h
  | case3 parts key value tail field hfield hsome ih =>
    obtain ⟨part, hpart, h⟩ := bind_eq_ok.mp h
    exact ih part (put_yielded hparts ⟨value, hm.1, hpart⟩) hm.2 h
  | case4 parts key value tail hfield hstrict => cases h
  | case5 parts key value tail hfield hstrict hwhole ih => exact ih hparts hm.2 h
  | case6 parts key value tail hfield hstrict hwhole => cases h
  | case7 => cases h

theorem readInOrder_yielded {count : Nat} {fields : List φ} (hparts : parts.Yielded inside)
    {items : Items} (hi : items.InRange)
    (h : layout.readInOrder inside count fields parts items = .ok found) :
    found.Yielded inside := by
  fun_induction layout.readInOrder inside count fields parts items with
  | case1 =>
    cases h
    exact hparts
  | case2 count parts field fields hdefault ih => exact ih hparts hi h
  | case3 => cases h
  | case4 count field fields parts head tail ih =>
    obtain ⟨part, hpart, h⟩ := bind_eq_ok.mp h
    exact ih part (put_yielded hparts ⟨head, hi.1, hpart⟩) hi.2 h
  | case5 => cases h

theorem read_yielded {inside : Option ((field : φ) → Reader (β field))} {value : Value}
    (hv : value.InRange) (h : layout.read inside value = .ok found) :
    ∃ read, inside = some read ∧ found.Yielded read := by
  have hnone {read : (field : φ) → Reader (β field)} :
      Parts.Yielded (fun _ => none) read := by
    intro field part h
    cases h
  unfold Layout.read at h
  split at h
  · split at h
    · exact ⟨_, rfl, readMembers_yielded hnone hv h⟩
    · cases h
  · split at h
    · exact ⟨_, rfl, readInOrder_yielded hnone hv h⟩
    · cases h
  · cases h

def write (layout : Layout φ β) (render? : (field : φ) → Option Value) : Value :=
  .record (layout.fields.filterMap fun field =>
    (render? field).map fun value => (layout.key field, value))

theorem readMembers_member {key : String} {field : φ}
    (hkey : layout.fields.find? (layout.key · == key) = some field) (hparts : parts field = none)
    {value : Value} {part : β field} (hread : inside field value = .ok part) (tail : Members) :
    layout.readMembers inside parts (.member (some key) value tail) =
      layout.readMembers inside (put parts field part) tail := by
  simp only [readMembers, hkey, hparts, hread, Option.isSome_none, Bool.false_eq_true, if_false]
  rfl

theorem readMembers_write {render? : (field : φ) → Option Value} {content : (field : φ) → β field}
    (hread : ∀ field value, render? field = some value → inside field value = .ok (content field))
    {fields : List φ} (hnodup : fields.Nodup) (hparts : ∀ field ∈ fields, parts field = none) :
    layout.readMembers inside parts (.ofMembers (fields.filterMap fun field =>
        (render? field).map fun value => (layout.key field, value))) =
      .ok fun field =>
        if field ∈ fields ∧ (render? field).isSome then some (content field) else parts field := by
  -- What was found before the fields that are still to come must not be one of them.
  induction fields generalizing parts with
  | nil => simp [Tree.ofMembers, readMembers]
  | cons field fields ih =>
    rw [List.forall_mem_cons] at hparts
    rw [List.nodup_cons] at hnodup
    cases hvalue : render? field with
    | none =>
      rw [List.filterMap_cons_none (by rw [hvalue, Option.map_none]), ih hnodup.2 hparts.2]
      congr
      funext other
      by_cases heq : other = field
      · subst heq
        simp [hvalue]
      · simp [heq]
    | some value =>
      have hput : ∀ other ∈ fields, put parts field (content field) other = none := by
        intro other ho
        rw [put_of_ne parts _ (by rintro rfl; exact hnodup.1 ho)]
        exact hparts.2 other ho
      rw [List.filterMap_cons_some (by rw [hvalue, Option.map_some]), Tree.ofMembers,
        readMembers_member (layout.find_key field) hparts.1 (hread field value hvalue), ih hnodup.2 hput]
      congr
      funext other
      by_cases heq : field = other
      · subst heq
        simp [hvalue, put_self, hnodup.1]
      · rw [put_of_ne parts _ heq]
        simp [Ne.symm heq]

end Layout

variable {ρ : Type} {layout : Layout φ β} {build : ((field : φ) → β field) → ρ}

theorem Yields.of_record {inside : Option ((field : φ) → Reader (β field))} {record : ρ}
    (h : Yields (layout.readRecord build inside) record) :
    ∃ read content, inside = some read ∧ build content = record ∧
      ∀ field, layout.default? field = some (content field) ∨
        Yields (read field) (content field) := by
  obtain ⟨value, hv, h⟩ := h
  obtain ⟨parts, hparts, hrecord⟩ := bind_eq_ok.mp h
  obtain ⟨read, rfl, hyield⟩ := Layout.read_yielded hv hparts
  obtain ⟨content, hcontent, rfl⟩ := Layout.assemble_eq_ok.mp hrecord
  refine ⟨read, content, rfl, rfl, ?_⟩
  intro field
  have hfield := hcontent field
  rw [Layout.filled] at hfield
  cases hpart : parts field with
  | none =>
    left
    simpa [hpart] using hfield
  | some part =>
    right
    rw [hpart] at hfield
    cases hfield
    exact hyield field _ hpart

theorem renders_record {inside : (field : φ) → Reader (β field)} (content : (field : φ) → β field)
    (render? : (field : φ) → Option Value)
    (h : ∀ field, Keeps (inside field) (layout.default? field) (content field) (render? field)) :
    Renders (layout.readRecord build (some inside)) (layout.write render?) (build content) := by
  have hrender {field : φ} {value : Value} (hvalue : render? field = some value) :
      Renders (inside field) value (content field) := by
    have := h field
    rwa [hvalue] at this
  refine ⟨?_, bind_eq_ok.mpr ⟨_, Layout.readMembers_write
    (fun field value hvalue => (hrender hvalue).reads) layout.fields_nodup (fun _ _ => rfl), ?_⟩⟩
  · rw [Layout.write, Tree.record_writable]
    intro member hm
    obtain ⟨field, -, hfield⟩ := List.mem_filterMap.mp hm
    obtain ⟨value, hvalue, rfl⟩ := Option.map_eq_some_iff.mp hfield
    exact (hrender hvalue).writable
  · refine Layout.assemble_eq_ok.mpr ⟨content, ?_, rfl⟩
    intro field
    rw [Layout.filled]
    have hfield := h field
    cases hvalue : render? field with
    | some value => simp [layout.mem_fields field]
    | none =>
      rw [hvalue] at hfield
      simpa [Keeps] using hfield

end Records

end Nomen.Json
