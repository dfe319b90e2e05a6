import Mathlib.Logic.Relation
import Nomen.Proofs.Json.Grammar
import Nomen.Proofs.Json.Reading

namespace Nomen.Json

section Whole

variable {α β : Type}

def ReadsWhole (read : Reader α) : Prop :=
  ∀ ⦃value : Value⦄ ⦃a : α⦄, read value = .ok a → value.isWhole = true

variable {read : Reader α}

theorem readText_of_spelledBy {value : Value} {text : String} (h : value.SpelledBy text.toList) :
    readText read text = read value := by
  simp only [readText, (Document.ofText_eq_iff.mpr h).1]
  cases read value <;> rfl

theorem ReadsWhole.exists_spelledBy (hread : ReadsWhole read) {text : String} {a : α}
    (h : readText read text = .ok a) : ∃ value : Value, value.SpelledBy text.toList := by
  obtain ⟨b, hb, hended⟩ := bind_eq_ok.mp h
  split at hended
  · next htrue =>
    refine ⟨_, Document.ofText_eq_iff.mp ⟨?_, hread hb⟩⟩
    rw [← htrue]
  · cases hended

theorem readsWhole_of_scalar (harray : ∀ items a, read (.array items) ≠ .ok a)
    (hobject : ∀ members a, read (.object members) ≠ .ok a)
    (hbroken : ∀ fault a, read (.broken fault) ≠ .ok a) : ReadsWhole read := by
  intro value a h
  cases value with
  | null | bool _ | number _ | string _ => rfl
  | array items => exact absurd h (harray items a)
  | object members => exact absurd h (hobject members a)
  | broken fault => exact absurd h (hbroken fault a)

theorem readString_whole : ReadsWhole readString := readsWhole_of_scalar nofun nofun nofun

theorem readBool_whole : ReadsWhole readBool := readsWhole_of_scalar nofun nofun nofun

theorem readNat_whole : ReadsWhole readNat := readsWhole_of_scalar nofun nofun nofun

theorem readInt_whole : ReadsWhole readInt := readsWhole_of_scalar nofun nofun nofun

theorem readFloat_whole : ReadsWhole readFloat := readsWhole_of_scalar nofun nofun nofun

theorem readUnit_whole : ReadsWhole readUnit := readsWhole_of_scalar nofun nofun nofun

theorem ReadsWhole.map (h : ReadsWhole read) (f : α → β) :
    ReadsWhole fun value => (read value).map f := by
  intro value b hb
  obtain ⟨a, ha, -⟩ := map_eq_ok.mp hb
  exact h ha

theorem ReadsWhole.option (h : ReadsWhole read) : ReadsWhole (readOption read) := by
  intro value a ha
  unfold readOption at ha
  split at ha
  · rfl
  · obtain ⟨b, hb, -⟩ := map_eq_ok.mp ha
    exact h hb

theorem readItems_whole (h : ReadsWhole read) {items : Items} {as : List α}
    (has : readItems read items = .ok as) : items.isWhole = true := by
  fun_induction readItems read items generalizing as with
  | case1 => rfl
  | case2 head tail ih =>
    obtain ⟨b, hb, has⟩ := bind_eq_ok.mp has
    obtain ⟨bs, hbs, -⟩ := bind_eq_ok.mp has
    simp [h hb, ih hbs]
  | case3 => cases has

theorem readList_whole {inside : Option (Reader α)}
    (h : ∀ read, inside = some read → ReadsWhole read) : ReadsWhole (readList inside) := by
  intro value as has
  unfold readList at has
  split at has
  · split at has
    · exact readItems_whole (h _ rfl) has
    · cases has
  · cases has

end Whole

section Variants

variable {τ α : Type} [Vocabulary τ]

theorem readMember_whole {payload : τ → Reader α} (h : ∀ tag, ReadsWhole (payload tag))
    {members : Members} {a : α} (ha : readMember payload members = .ok a) :
    members.isWhole = true := by
  unfold readMember at ha
  split at ha
  · next key value tail =>
    obtain ⟨tag, -, ha⟩ := bind_eq_ok.mp ha
    obtain ⟨b, hb, ha⟩ := bind_eq_ok.mp ha
    obtain ⟨_, hclosing, -⟩ := bind_eq_ok.mp ha
    unfold closing at hclosing
    split at hclosing
    · simp [h tag hb]
    · cases hclosing
  · cases ha

theorem readWord_whole (depth : Nat) : ReadsWhole (readWord depth : Reader τ) := by
  intro value a ha
  unfold readWord at ha
  split at ha
  · rfl
  · split at ha
    · cases ha
    · exact readMember_whole (fun _ => readUnit_whole.map _) ha
  · cases ha

theorem readVariant_whole {inside : Option (τ → Reader α)}
    (h : ∀ payload, inside = some payload → ∀ tag, ReadsWhole (payload tag)) :
    ReadsWhole (readVariant inside) := by
  intro value a ha
  unfold readVariant at ha
  split at ha
  · rfl
  · split at ha
    · exact readMember_whole (h _ rfl) ha
    · cases ha
  · cases ha

end Variants

namespace Layout

variable {φ : Type} [DecidableEq φ] {β : φ → Type} {layout : Layout φ β}
  {inside : (field : φ) → Reader (β field)} {parts found : Parts φ β}

theorem readMembers_whole (h : ∀ field, ReadsWhole (inside field)) {members : Members}
    (hfound : layout.readMembers inside parts members = .ok found) :
    members.isWhole = true := by
  fun_induction layout.readMembers inside parts members with
  | case1 => rfl
  | case2 => cases hfound
  | case3 parts key value tail field _ _ ih =>
    obtain ⟨part, hpart, hfound⟩ := bind_eq_ok.mp hfound
    simp [h field hpart, ih part hfound]
  | case4 => cases hfound
  | case5 parts key value tail _ _ hwhole ih => simp [hwhole, ih hfound]
  | case6 => cases hfound
  | case7 => cases hfound

theorem readInOrder_whole (h : ∀ field, ReadsWhole (inside field)) {count : Nat} {fields : List φ}
    {items : Items} (hfound : layout.readInOrder inside count fields parts items = .ok found) :
    items.isWhole = true := by
  fun_induction layout.readInOrder inside count fields parts items with
  | case1 => rfl
  | case2 => rfl
  | case3 => cases hfound
  | case4 count field fields parts head tail ih =>
    obtain ⟨part, hpart, hfound⟩ := bind_eq_ok.mp hfound
    simp [h field hpart, ih part hfound]
  | case5 => cases hfound

theorem read_whole {inside : Option ((field : φ) → Reader (β field))}
    (h : ∀ read, inside = some read → ∀ field, ReadsWhole (read field)) :
    ReadsWhole (layout.read inside) := by
  intro value parts hparts
  unfold Layout.read at hparts
  split at hparts
  · split at hparts
    · exact readMembers_whole (h _ rfl) hparts
    · cases hparts
  · split at hparts
    · exact readInOrder_whole (h _ rfl) hparts
    · cases hparts
  · cases hparts

end Layout

inductive Form (ρ κ : Type) where
  | plain
  | list (item : Form ρ κ)
  | record (name : ρ)
  | choice (name : κ)

structure Schema (ρ κ : Type) where
  fields : ρ → List (String × Form ρ κ)
  variants : κ → List (String × Form ρ κ)

variable {ρ κ : Type} {schema : Schema ρ κ}

/-- One rearrangement: the members of a record in another order, or one more member with a key of no
field, at the place or within it. -/
inductive Rearranged (schema : Schema ρ κ) : Form ρ κ → Value → Value → Prop where
  | reorder {name : ρ} {members others : List (String × Value)} (h : members.Perm others) :
      Rearranged schema (.record name) (.record members) (.record others)
  | insert {name : ρ} (before : List (String × Value)) {after : List (String × Value)}
      {key : String} {value : Value} (hkey : ∀ form, (key, form) ∉ schema.fields name)
      (hvalue : value.isWhole = true) :
      Rearranged schema (.record name) (.record (before ++ after))
        (.record (before ++ (key, value) :: after))
  | member {name : ρ} (before : List (String × Value)) {after : List (String × Value)}
      {key : String} {form : Form ρ κ} {value other : Value}
      (hkey : (key, form) ∈ schema.fields name) (h : Rearranged schema form value other) :
      Rearranged schema (.record name) (.record (before ++ (key, value) :: after))
        (.record (before ++ (key, other) :: after))
  | position {name : ρ} (before : List Value) {after : List Value} {key : String}
      {form : Form ρ κ} {value other : Value}
      (hkey : (schema.fields name)[before.length]? = some (key, form))
      (h : Rearranged schema form value other) :
      Rearranged schema (.record name) (.list (before ++ value :: after))
        (.list (before ++ other :: after))
  | item {form : Form ρ κ} (before : List Value) {after : List Value} {value other : Value}
      (h : Rearranged schema form value other) :
      Rearranged schema (.list form) (.list (before ++ value :: after))
        (.list (before ++ other :: after))
  | payload {name : κ} {key : String} {form : Form ρ κ} {value other : Value}
      (hkey : (key, form) ∈ schema.variants name) (h : Rearranged schema form value other) :
      Rearranged schema (.choice name) (.record [(key, value)]) (.record [(key, other)])

def SameRead {α : Type} (read : Reader α) (value other : Value) : Prop :=
  ∀ a, read value = .ok a ↔ read other = .ok a

/-- The reader accepts only whole documents, and it does not see how they are arranged. -/
structure Steady {α : Type} (schema : Schema ρ κ) (form : Form ρ κ) (read : Reader α) : Prop where
  whole : ReadsWhole read
  same {value other : Value} : Rearranged schema form value other → SameRead read value other

theorem Rearranged.ne_null {form : Form ρ κ} {value other : Value}
    (h : Rearranged schema form value other) : value ≠ .null ∧ other ≠ .null := by
  cases h <;> simp [Tree.record, Tree.list]

section Steady

variable {α β : Type} {form : Form ρ κ} {read : Reader α}

theorem Steady.eqvGen (h : Steady schema form read) {value other : Value}
    (hgen : Relation.EqvGen (Rearranged schema form) value other) : SameRead read value other := by
  induction hgen with
  | rel value other hstep => exact h.same hstep
  | refl value => exact fun a => Iff.rfl
  | symm value other _ ih => exact fun a => (ih a).symm
  | trans value middle other _ _ ih ih' => exact fun a => (ih a).trans (ih' a)

theorem ReadsWhole.steady (h : ReadsWhole read) : Steady schema .plain read where
  whole := h
  same := nofun

theorem Steady.map (h : Steady schema form read) (f : α → β) :
    Steady schema form fun value => (read value).map f where
  whole := h.whole.map f
  same hstep b := by simp only [map_eq_ok, h.same hstep _]

theorem Steady.option (h : Steady schema form read) : Steady schema form (readOption read) where
  whole := h.whole.option
  same {value other} hstep a := by
    obtain ⟨hvalue, hother⟩ := hstep.ne_null
    rw [readOption, readOption, map_eq_ok, map_eq_ok]
    · simp only [h.same hstep _]
    · exact hother
    · exact hvalue

theorem readItems_same {value other : Value} (h : SameRead read value other)
    (before after : List Value) (as : List α) :
    readItems read (.ofList (before ++ value :: after)) = .ok as ↔
      readItems read (.ofList (before ++ other :: after)) = .ok as := by
  induction before generalizing as with
  | nil => simp only [List.nil_append, Tree.ofList, readItems, bind_eq_ok, h _]
  | cons head before ih => simp only [List.cons_append, Tree.ofList, readItems, bind_eq_ok, ih]

theorem Steady.list {inside : Option (Reader α)}
    (h : ∀ read, inside = some read → Steady schema form read) :
    Steady schema (.list form) (readList inside) where
  whole := readList_whole fun read hread => (h read hread).whole
  same {value other} hstep as := by
    cases hstep with
    | @item _ before after _ _ hstep =>
      cases inside with
      | none => simp [Tree.list, readList]
      | some read => exact readItems_same ((h read rfl).same hstep) before after as

theorem Steady.variant {τ : Type} [Vocabulary τ] [LawfulVocabulary τ] {name : κ}
    (formOf : τ → Form ρ κ) (hvariants : schema.variants name =
      (Vocabulary.all : List τ).map fun tag => (Vocabulary.word tag, formOf tag))
    {inside : Option (τ → Reader α)}
    (h : ∀ payload, inside = some payload → ∀ tag, Steady schema (formOf tag) (payload tag)) :
    Steady schema (.choice name) (readVariant inside) where
  whole := readVariant_whole fun payload hpayload tag => (h payload hpayload tag).whole
  same {value other} hstep a := by
    cases hstep with
    | payload hkey hstep =>
      rw [hvariants, List.mem_map] at hkey
      obtain ⟨tag, -, heq⟩ := hkey
      cases heq
      cases inside with
      | none => simp [Tree.record, readVariant]
      | some payload =>
        have hsame := (h payload rfl tag).same hstep
        simp only [Tree.record, Tree.ofMembers, readVariant, readMember, readTag_word tag,
          bind_eq_ok, Except.ok.injEq, exists_eq_left', hsame _]

end Steady

section Folds

variable {ε σ α : Type} (step : σ → α → Except ε σ)

theorem foldlM_of_perm
    (hcomm : ∀ {s r x y}, step s x >>= (step · y) = .ok r → step s y >>= (step · x) = .ok r)
    {xs ys : List α} (h : xs.Perm ys) {s r : σ} (hr : xs.foldlM step s = .ok r) :
    ys.foldlM step s = .ok r := by
  induction h generalizing s with
  | nil => exact hr
  | cons x _ ih =>
    rw [List.foldlM_cons, bind_eq_ok] at hr ⊢
    obtain ⟨t, ht, hr⟩ := hr
    exact ⟨t, ht, ih hr⟩
  | swap x y xs =>
    simp only [List.foldlM_cons, ← bind_assoc] at hr ⊢
    obtain ⟨t, ht, hr⟩ := bind_eq_ok.mp hr
    exact bind_eq_ok.mpr ⟨t, hcomm ht, hr⟩
  | trans _ _ ih ih' => exact ih' (ih hr)

theorem foldlM_congr_at {x y : α} (h : ∀ s r, step s x = .ok r ↔ step s y = .ok r)
    (before after : List α) (s r : σ) :
    (before ++ x :: after).foldlM step s = .ok r ↔
      (before ++ y :: after).foldlM step s = .ok r := by
  simp only [List.foldlM_append, List.foldlM_cons, bind_eq_ok, h]

end Folds

namespace Layout

variable {φ : Type} [DecidableEq φ] {β : φ → Type} {layout : Layout φ β}
  {inside : (field : φ) → Reader (β field)} {parts found : Parts φ β}

theorem put_comm (parts : Parts φ β) {field other : φ} (hne : field ≠ other) (part : β field)
    (content : β other) :
    put (put parts field part) other content = put (put parts other content) field part := by
  funext third
  by_cases hfield : field = third
  · subst hfield
    rw [put_of_ne _ _ (Ne.symm hne), put_self, put_self]
  · by_cases hother : other = third
    · subst hother
      rw [put_self, put_of_ne _ _ hne, put_self]
    · rw [put_of_ne _ _ hother, put_of_ne _ _ hfield, put_of_ne _ _ hfield, put_of_ne _ _ hother]

def readOne (layout : Layout φ β) (inside : (field : φ) → Reader (β field)) (parts : Parts φ β)
    (member : String × Value) : Except Misfit (Parts φ β) :=
  layout.readMembers inside parts (.member (some member.1) member.2 .noMembers)

theorem readOne_eq_ok_iff {key : String} {value : Value} :
    layout.readOne inside parts (key, value) = .ok found ↔
      (∃ field part, layout.fields.find? (layout.key · == key) = some field ∧
        parts field = none ∧ inside field value = .ok part ∧ put parts field part = found) ∨
      (layout.fields.find? (layout.key · == key) = none ∧ layout.strict = false ∧
        value.isWhole = true ∧ parts = found) := by
  rw [readOne, readMembers]
  cases layout.fields.find? (layout.key · == key) with
  | none =>
    cases layout.strict <;> cases value.isWhole <;> simp [readMembers]
  | some field =>
    cases hfield : parts field with
    | some part => simp [hfield]
    | none => simp [hfield, bind_eq_ok, readMembers]

theorem readMembers_cons (key : String) (value : Value) (tail : Members) :
    layout.readMembers inside parts (.member (some key) value tail) =
      layout.readOne inside parts (key, value) >>= fun parts =>
        layout.readMembers inside parts tail := by
  simp only [readOne, readMembers]
  cases layout.fields.find? (layout.key · == key) with
  | none => cases layout.strict <;> cases value.isWhole <;> rfl
  | some field =>
    cases hfield : parts field with
    | some part =>
      simp only [hfield, Option.isSome_some, if_true]
      rfl
    | none =>
      simp only [hfield, Option.isSome_none, Bool.false_eq_true, if_false]
      cases inside field value <;> rfl

theorem readMembers_ofMembers (members : List (String × Value)) :
    layout.readMembers inside parts (.ofMembers members) =
      members.foldlM (layout.readOne inside) parts := by
  induction members generalizing parts with
  | nil => rw [Tree.ofMembers, readMembers, List.foldlM_nil]; rfl
  | cons member members ih =>
    rw [Tree.ofMembers, readMembers_cons, List.foldlM_cons]
    simp only [ih]

theorem readOne_comm {first second : String × Value} {result : Parts φ β}
    (h : layout.readOne inside parts first >>= (layout.readOne inside · second) = .ok result) :
    layout.readOne inside parts second >>= (layout.readOne inside · first) = .ok result := by
  obtain ⟨middle, hfirst, hsecond⟩ := bind_eq_ok.mp h
  rw [bind_eq_ok]
  rcases readOne_eq_ok_iff.mp hfirst with
    ⟨field, part, hfield, hnone, hpart, rfl⟩ | ⟨hunknown, hstrict, hwhole, rfl⟩
  · rcases readOne_eq_ok_iff.mp hsecond with
      ⟨other, content, hother, hempty, hcontent, rfl⟩ | ⟨hunknown, hstrict, hwhole, rfl⟩
    · -- The second field was not filled by the first, so they are two.
      have hne : field ≠ other := by
        rintro rfl
        rw [put_self] at hempty
        cases hempty
      rw [put_of_ne parts part hne] at hempty
      refine ⟨put parts other content,
        readOne_eq_ok_iff.mpr (.inl ⟨other, content, hother, hempty, hcontent, rfl⟩),
        readOne_eq_ok_iff.mpr (.inl ⟨field, part, hfield, ?_, hpart, ?_⟩)⟩
      · rw [put_of_ne parts content (Ne.symm hne), hnone]
      · rw [put_comm parts hne]
    · exact ⟨parts, readOne_eq_ok_iff.mpr (.inr ⟨hunknown, hstrict, hwhole, rfl⟩), hfirst⟩
  · exact ⟨result, hsecond, readOne_eq_ok_iff.mpr (.inr ⟨hunknown, hstrict, hwhole, rfl⟩)⟩

theorem readMembers_perm {members others : List (String × Value)} (hperm : members.Perm others)
    (h : layout.readMembers inside parts (.ofMembers members) = .ok found) :
    layout.readMembers inside parts (.ofMembers others) = .ok found := by
  rw [readMembers_ofMembers] at h ⊢
  exact foldlM_of_perm (layout.readOne inside) readOne_comm hperm h

theorem readOne_same {key : String} {field : φ}
    (hkey : layout.fields.find? (layout.key · == key) = some field) {value other : Value}
    (h : SameRead (inside field) value other) (parts found : Parts φ β) :
    layout.readOne inside parts (key, value) = .ok found ↔
      layout.readOne inside parts (key, other) = .ok found := by
  rw [readOne_eq_ok_iff, readOne_eq_ok_iff, hkey]
  constructor
  · rintro (⟨field, part, ⟨⟩, hnone, hpart, rfl⟩ | ⟨hunknown, -⟩)
    · exact .inl ⟨field, part, rfl, hnone, (h part).mp hpart, rfl⟩
    · cases hunknown
  · rintro (⟨field, part, ⟨⟩, hnone, hpart, rfl⟩ | ⟨hunknown, -⟩)
    · exact .inl ⟨field, part, rfl, hnone, (h part).mpr hpart, rfl⟩
    · cases hunknown

theorem readInOrder_same {fields : List φ} {field : φ} {before : List Value}
    (hfield : fields[before.length]? = some field) {value other : Value}
    (h : SameRead (inside field) value other) (after : List Value) (count : Nat)
    (parts found : Parts φ β) :
    layout.readInOrder inside count fields parts (.ofList (before ++ value :: after)) = .ok found ↔
      layout.readInOrder inside count fields parts (.ofList (before ++ other :: after)) =
        .ok found := by
  induction before generalizing fields count parts with
  | nil =>
    cases fields with
    | nil => cases hfield
    | cons first fields =>
      cases hfield
      simp only [List.nil_append, Tree.ofList, readInOrder, bind_eq_ok, h _]
  | cons head before ih =>
    cases fields with
    | nil => cases hfield
    | cons first fields =>
      simp only [List.cons_append, Tree.ofList, readInOrder, bind_eq_ok, ih hfield]

theorem read_none (value : Value) (parts : Parts φ β) : layout.read none value ≠ .ok parts := by
  unfold Layout.read
  split <;> simp

theorem steady {α : Type} {build : ((field : φ) → β field) → α} (hstrict : layout.strict = false)
    {name : ρ} (formOf : φ → Form ρ κ)
    (hfields : schema.fields name = layout.fields.map fun field => (layout.key field, formOf field))
    {inside : Option ((field : φ) → Reader (β field))}
    (h : ∀ read, inside = some read → ∀ field, Steady schema (formOf field) (read field)) :
    Steady schema (.record name) (layout.readRecord build inside) where
  whole value a ha := by
    obtain ⟨parts, hparts, -⟩ := bind_eq_ok.mp ha
    exact read_whole (fun read hread field => (h read hread field).whole) hparts
  same {value other} hstep a := by
    suffices hsame : SameRead (layout.read inside) value other by
      simp only [readRecord, bind_eq_ok, hsame _]
    intro found
    cases inside with
    | none => simp only [read_none]
    | some inside =>
      cases hstep with
      | @reorder _ members others hperm =>
        exact ⟨readMembers_perm hperm, readMembers_perm hperm.symm⟩
      | @insert _ before after key value hkey hvalue =>
        have hunknown : layout.fields.find? (layout.key · == key) = none := by
          rw [List.find?_eq_none]
          intro field hfield hmatch
          apply hkey (formOf field)
          rw [hfields, ← eq_of_beq hmatch]
          exact List.mem_map_of_mem hfield
        have hone (parts : Parts φ β) : layout.readOne inside parts (key, value) = .ok parts :=
          readOne_eq_ok_iff.mpr (.inr ⟨hunknown, hstrict, hvalue, rfl⟩)
        simp only [Tree.record, Layout.read, readMembers_ofMembers, List.foldlM_append,
          List.foldlM_cons, bind_eq_ok, hone, Except.ok.injEq, exists_eq_left']
      | @member _ before after key form value other hkey hstep =>
        rw [hfields, List.mem_map] at hkey
        obtain ⟨field, -, heq⟩ := hkey
        cases heq
        simp only [Tree.record, Layout.read, readMembers_ofMembers]
        exact foldlM_congr_at _
          (readOne_same (layout.find_key field) ((h inside rfl field).same hstep)) before after _ found
      | @position _ before after key form value other hkey hstep =>
        rw [hfields, List.getElem?_map, Option.map_eq_some_iff] at hkey
        obtain ⟨field, hfield, heq⟩ := hkey
        cases heq
        simp only [Tree.list, Layout.read]
        exact readInOrder_same hfield ((h inside rfl field).same hstep) after 0 _ found

end Layout

end Nomen.Json
