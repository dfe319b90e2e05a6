import Nomen.Proofs.Proposals

namespace Nomen

namespace Node

inductive Occurs (node : Node) : Node → Prop where
  | here : Occurs node node
  | deeper {root arg : Node} (ha : arg ∈ root.args) (h : Occurs node arg) : Occurs node root

theorem Occurs.mem_subnodes {node root : Node} (h : node.Occurs root) : node ∈ root.subnodes := by
  induction h with
  | here => exact Node.mem_subnodes.mpr (Or.inl rfl)
  | deeper ha _ ih => exact Node.mem_subnodes.mpr (Or.inr ⟨_, ha, ih⟩)

theorem occurs_of_mem_subnodes {node : Node} :
    ∀ root : Node, node ∈ root.subnodes → node.Occurs root
  | ⟨code, operand, args⟩, h => by
    rcases Node.mem_subnodes.mp h with rfl | ⟨arg, ha, h⟩
    · exact .here
    · exact .deeper ha (occurs_of_mem_subnodes arg h)
termination_by root => sizeOf root
decreasing_by
  have hlt : sizeOf arg < sizeOf args := List.sizeOf_lt_of_mem ha
  simp only [Node.mk.sizeOf_spec]
  omega

theorem mem_subnodes_iff_occurs {node root : Node} : node ∈ root.subnodes ↔ node.Occurs root :=
  ⟨occurs_of_mem_subnodes root, Occurs.mem_subnodes⟩

theorem writes_eq_true {slot : Nat} {node : Node} :
    node.writes slot = true ↔ node.code = .storeLocal ∧ node.operand = some (.slot slot) := by
  rw [writes, slot?]
  split <;> simp_all

theorem reads_eq_true {slot : Nat} {node : Node} :
    node.reads slot = true ↔ node.code = .loadLocal ∧ node.operand = some (.slot slot) := by
  rw [reads, slot?]
  split <;> simp_all

end Node

inductive WriteProposes (body : Node) (slot : Nat) : Option String → Prop where
  | empty (h : Node.Occurs ⟨.storeLocal, some (.slot slot), []⟩ body) : WriteProposes body slot none
  | value {value : Node} {rest : List Node}
      (h : Node.Occurs ⟨.storeLocal, some (.slot slot), value :: rest⟩ body) :
      WriteProposes body slot (valueName? value)

inductive ReadProposes (resolve : MethodRef → Option Signature) (body : Node) (slot : Nat) :
    Option String → Prop where
  | argument {node : Node} {index : Nat} {args : List Node} (h : node.Occurs body)
      (hc : node.code.isContainer = false)
      (ha : node.args[index]? = some ⟨.loadLocal, some (.slot slot), args⟩) :
      ReadProposes resolve body slot (argumentName? resolve node index)

theorem mem_storeProposals_iff {body : Node} {slot : Nat} {proposal : Option String} :
    proposal ∈ storeProposals body slot ↔ WriteProposes body slot proposal := by
  rw [mem_storeProposals]
  constructor
  · rintro ⟨⟨code, operand, args⟩, hm, hw, rfl⟩
    obtain ⟨rfl, rfl⟩ := Node.writes_eq_true.mp hw
    rw [Node.mem_subnodes_iff_occurs] at hm
    cases args with
    | nil => exact .empty hm
    | cons value rest => exact .value hm
  · rintro (h | h)
    · exact ⟨_, h.mem_subnodes, Node.writes_eq_true.mpr ⟨rfl, rfl⟩, rfl⟩
    · exact ⟨_, h.mem_subnodes, Node.writes_eq_true.mpr ⟨rfl, rfl⟩, rfl⟩

theorem mem_loadProposals_iff {resolve : MethodRef → Option Signature} {body : Node} {slot : Nat}
    {proposal : Option String} :
    proposal ∈ loadProposals resolve body slot ↔ ReadProposes resolve body slot proposal := by
  simp only [mem_loadProposals, mem_readProposals, List.getElem?_map, Option.map_eq_some_iff]
  constructor
  · rintro ⟨node, hm, hc, index, ⟨⟨code, operand, args⟩, ha, hr⟩, rfl⟩
    obtain ⟨rfl, rfl⟩ := Node.reads_eq_true.mp hr
    exact .argument (Node.mem_subnodes_iff_occurs.mp hm) hc ha
  · rintro ⟨h, hc, ha⟩
    exact ⟨_, h.mem_subnodes, hc, _, ⟨_, ha, Node.reads_eq_true.mpr ⟨rfl, rfl⟩⟩, rfl⟩

/-- A name that is no field and that some site proposes, where all sites propose it or a field. -/
def Agrees (fields : List String) (proposes : Option String → Prop) (name : String) : Prop :=
  name ∉ fields ∧ proposes (some name) ∧
    ∀ proposal, proposes proposal → proposal = some name ∨ ∃ field ∈ fields, proposal = some field

theorem Agrees.not_none {fields : List String} {proposes : Option String → Prop} {name : String}
    (h : Agrees fields proposes name) : ¬ proposes none := by
  intro hn
  rcases h.2.2 none hn with he | ⟨field, -, he⟩
  · exact absurd he (by simp)
  · exact absurd he (by simp)

theorem storeName?_eq_some_iff {fields : List String} {body : Node} {slot : Nat} {name : String} :
    storeName? fields body slot = some name ↔ Agrees fields (WriteProposes body slot) name := by
  simp only [storeName?, agreed_eq_some_iff, mem_storeProposals_iff, Agrees]

theorem loadName?_eq_some_iff {fields : List String} {resolve : MethodRef → Option Signature}
    {body : Node} {slot : Nat} {name : String} :
    loadName? fields resolve body slot = some name ↔
      Agrees fields (ReadProposes resolve body slot) name := by
  simp only [loadName?, agreed_eq_some_iff, mem_loadProposals_iff, Agrees]

theorem names_from_usage_are_agreed_on (fields : List String)
    (resolve : MethodRef → Option Signature) (body : Node) (slot : Nat) :
    (∀ name, storeName? fields body slot = some name ↔
      Agrees fields (WriteProposes body slot) name) ∧
    (∀ name, loadName? fields resolve body slot = some name ↔
      Agrees fields (ReadProposes resolve body slot) name) ∧
    (∀ other place,
      (∀ proposal, WriteProposes body slot proposal ↔ WriteProposes other place proposal) →
        storeName? fields body slot = storeName? fields other place) ∧
    (∀ lookup other place,
      (∀ proposal, ReadProposes resolve body slot proposal ↔
        ReadProposes lookup other place proposal) →
        loadName? fields resolve body slot = loadName? fields lookup other place) ∧
    (WriteProposes body slot none → storeName? fields body slot = none) ∧
    (ReadProposes resolve body slot none → loadName? fields resolve body slot = none) := by
  refine ⟨fun _ => storeName?_eq_some_iff, fun _ => loadName?_eq_some_iff, ?_, ?_, ?_, ?_⟩
  · intro other place h
    apply agreed_congr fun _ => Iff.rfl
    simpa only [mem_storeProposals_iff] using h
  · intro lookup other place h
    apply agreed_congr fun _ => Iff.rfl
    simpa only [mem_loadProposals_iff] using h
  · intro h
    apply Option.eq_none_iff_forall_ne_some.mpr
    intro name hn
    exact (storeName?_eq_some_iff.mp hn).not_none h
  · intro h
    apply Option.eq_none_iff_forall_ne_some.mpr
    intro name hn
    exact (loadName?_eq_some_iff.mp hn).not_none h

section Moving

open Node

-- The slot is filled from two fields and moved on to two fields; as a condition it has no site.
def moving : Node :=
  whileLoop (loadLocal 0) [
    storeLocal 0 (loadStaticField { name := "m_total" }),
    storeLocal 0 (loadStaticField { name := "count" }),
    block [storeStaticField { name := "Sum" } (loadLocal 0),
      storeStaticField { name := "count" } (loadLocal 0)]]

-- Two more sites propose nothing: a write without a value, and a use in a comparison.
def comparing : Node :=
  block [moving, ⟨.storeLocal, some (.slot 0), []⟩,
    binary .compareLessThan (loadLocal 1) (loadLocal 0)]

theorem names_from_usage_are_agreed_on_moving :
    ((∀ proposal, WriteProposes moving 0 proposal ↔
        WriteProposes (block [moving, moving]) 0 proposal) ∧
      storeName? ["count"] (block [moving, moving]) 0 = some "total") ∧
    ((∀ proposal, ReadProposes (fun _ => none) moving 0 proposal ↔
        ReadProposes (fun _ => none) (block [moving, moving]) 0 proposal) ∧
      loadName? ["count"] (fun _ => none) (block [moving, moving]) 0 = some "sum") ∧
    (WriteProposes comparing 0 none ∧ storeName? ["count"] comparing 0 = none) ∧
    (ReadProposes (fun _ => none) comparing 0 none ∧
      loadName? ["count"] (fun _ => none) comparing 0 = none) := by
  have hwrites : ∀ proposal, WriteProposes moving 0 proposal ↔
      WriteProposes (block [moving, moving]) 0 proposal := by
    have hone : storeProposals moving 0 = [some "total", some "count"] := by decide +kernel
    have htwo : storeProposals (block [moving, moving]) 0 =
        [some "total", some "count", some "total", some "count"] := by decide +kernel
    intro proposal
    rw [← mem_storeProposals_iff, ← mem_storeProposals_iff, hone, htwo]
    grind
  have hreads : ∀ proposal, ReadProposes (fun _ => none) moving 0 proposal ↔
      ReadProposes (fun _ => none) (block [moving, moving]) 0 proposal := by
    have hone : loadProposals (fun _ => none) moving 0 = [some "sum", some "count"] := by
      decide +kernel
    have htwo : loadProposals (fun _ => none) (block [moving, moving]) 0 =
        [some "sum", some "count", some "sum", some "count"] := by decide +kernel
    intro proposal
    rw [← mem_loadProposals_iff, ← mem_loadProposals_iff, hone, htwo]
    grind
  have hempty : WriteProposes comparing 0 none := .empty (.deeper (by simp [comparing, block]) .here)
  have hcompared : ReadProposes (fun _ => none) comparing 0 none :=
    @ReadProposes.argument _ _ _ (binary .compareLessThan (loadLocal 1) (loadLocal 0)) 1 []
      (.deeper (by simp [comparing, block]) .here) rfl rfl
  obtain ⟨hstore, hload, hwrites', hreads', -, -⟩ :=
    names_from_usage_are_agreed_on ["count"] (fun _ => none) moving 0
  obtain ⟨-, -, -, -, hnoStore, hnoLoad⟩ :=
    names_from_usage_are_agreed_on ["count"] (fun _ => none) comparing 0
  refine ⟨⟨hwrites, ?_⟩, ⟨hreads, ?_⟩, ⟨hempty, hnoStore hempty⟩, hcompared, hnoLoad hcompared⟩
  · rw [← hwrites' _ _ hwrites]
    decide +kernel
  · rw [← hreads' _ _ _ hreads]
    decide +kernel

end Moving

end Nomen
