import Mathlib.Data.List.Basic
import Nomen.Usage

namespace Nomen

theorem eraseDups_eq_singleton_iff {α : Type} [BEq α] [LawfulBEq α] {xs : List α} {a : α} :
    xs.eraseDups = [a] ↔ a ∈ xs ∧ ∀ x ∈ xs, x = a := by
  cases xs with
  | nil => simp
  | cons b xs =>
    have hrest : (xs.filter fun x => !x == b).eraseDups = [] ↔ ∀ x ∈ xs, x = b := by
      rw [List.eq_nil_iff_forall_not_mem]
      simp only [List.mem_eraseDups, List.mem_filter]
      simp
    rw [List.eraseDups_cons, List.cons.injEq, hrest]
    constructor
    · rintro ⟨rfl, hall⟩
      exact ⟨List.mem_cons_self, by simpa using hall⟩
    · rintro ⟨-, hall⟩
      obtain rfl := hall b List.mem_cons_self
      exact ⟨rfl, fun x hx => hall x (List.mem_cons_of_mem b hx)⟩

theorem agreed_eq_some_iff {fields : List String} {proposals : List (Option String)}
    {name : String} :
    agreed fields proposals = some name ↔
      name ∉ fields ∧ some name ∈ proposals ∧
        ∀ proposal ∈ proposals, proposal = some name ∨ ∃ field ∈ fields, proposal = some field := by
  let remaining := proposals.filter fun proposal => !proposal.any (· ∈ fields)
  have hsingle : agreed fields proposals = some name ↔ remaining.eraseDups = [some name] := by
    rw [agreed]
    split
    · next proposal he => simp [remaining, he]
    · next hne => simpa using hne (some name)
  have hmem (proposal : Option String) :
      proposal ∈ remaining ↔ proposal ∈ proposals ∧ ∀ field ∈ fields, proposal ≠ some field := by
    rw [List.mem_filter]
    cases proposal with
    | none => simp
    | some other => simp [List.forall_mem_ne]
  rw [hsingle, eraseDups_eq_singleton_iff]
  simp only [hmem]
  grind

theorem agreed_congr {fields others : List String} {xs ys : List (Option String)}
    (hf : ∀ field, field ∈ fields ↔ field ∈ others) (h : ∀ proposal, proposal ∈ xs ↔ proposal ∈ ys) :
    agreed fields xs = agreed others ys := by
  apply Option.ext
  intro name
  simp only [agreed_eq_some_iff, hf, h]

theorem mem_storeProposals {body : Node} {slot : Nat} {proposal : Option String} :
    proposal ∈ storeProposals body slot ↔
      ∃ node ∈ body.subnodes, node.writes slot = true ∧ node.args.head?.bind valueName? = proposal := by
  rw [storeProposals, List.mem_map]
  simp only [List.mem_filter, and_assoc]

theorem mem_loadProposals {resolve : MethodRef → Option Signature} {body : Node} {slot : Nat}
    {proposal : Option String} :
    proposal ∈ loadProposals resolve body slot ↔
      ∃ node ∈ body.subnodes, proposal ∈ readProposals resolve slot node := by
  rw [loadProposals, List.mem_flatMap]

theorem mem_readProposals {resolve : MethodRef → Option Signature} {slot : Nat} {node : Node}
    {proposal : Option String} :
    proposal ∈ readProposals resolve slot node ↔
      node.code.isContainer = false ∧ ∃ index, (node.args.map (·.reads slot))[index]? = some true ∧
        argumentName? resolve node index = proposal := by
  rw [readProposals]
  split
  · next hc => simp [hc]
  · next hc =>
    rw [Bool.not_eq_true] at hc
    simp only [hc, true_and, List.mem_map, List.mem_filter, Prod.exists,
      List.mk_mem_zipIdx_iff_getElem?, List.getElem?_map, Option.map_eq_some_iff]
    grind

end Nomen
