import Mathlib.Logic.Relation
import Nomen.Naming
import Nomen.Proofs.Proposals

/-!
The order of statements makes no difference to names. Statements of a block may change places, be
repeated or be taken out of an inner block. A rule looks for nodes of some kind in the whole body,
and it is enough that blocks are not of that kind and that a change below a node keeps its kind.
-/

namespace Nomen

namespace Node

/-- One change in the order of statements, in one block of a tree. -/
inductive Rearranged : Node → Node → Prop where
  | permute {operand : Option Operand} {statements others : List Node}
      (h : statements.Perm others) :
      Rearranged ⟨.block, operand, statements⟩ ⟨.block, operand, others⟩
  | duplicate {operand : Option Operand} {before after : List Node} {statement : Node}
      (h : statement ∈ before ++ after) :
      Rearranged ⟨.block, operand, before ++ after⟩ ⟨.block, operand, before ++ statement :: after⟩
  | splice {operand inner : Option Operand} {before statements after : List Node} :
      Rearranged ⟨.block, operand, before ++ ⟨.block, inner, statements⟩ :: after⟩
        ⟨.block, operand, before ++ statements ++ after⟩
  | within {code : Operation} {operand : Option Operand} {before after : List Node}
      {node other : Node} (h : Rearranged node other) :
      Rearranged ⟨code, operand, before ++ node :: after⟩ ⟨code, operand, before ++ other :: after⟩

theorem exists_mem_subnodes {P : Node → Prop} {code : Operation} {operand : Option Operand}
    {args : List Node} :
    (∃ node ∈ (⟨code, operand, args⟩ : Node).subnodes, P node) ↔
      P ⟨code, operand, args⟩ ∨ ∃ arg ∈ args, ∃ node ∈ arg.subnodes, P node := by
  simp only [subnodes_eq_preorder, preorder, List.mem_cons, mem_preorderAll]
  grind

theorem exists_mem_subnodes_within {P : Node → Prop} {code : Operation} {operand : Option Operand}
    {before after : List Node} {node other : Node}
    (hroot : P ⟨code, operand, before ++ node :: after⟩ ↔ P ⟨code, operand, before ++ other :: after⟩)
    (h : (∃ n ∈ node.subnodes, P n) ↔ ∃ n ∈ other.subnodes, P n) :
    (∃ n ∈ (⟨code, operand, before ++ node :: after⟩ : Node).subnodes, P n) ↔
      ∃ n ∈ (⟨code, operand, before ++ other :: after⟩ : Node).subnodes, P n := by
  rw [exists_mem_subnodes, exists_mem_subnodes, hroot]
  simp only [List.mem_append, List.mem_cons, or_and_right, exists_or, exists_eq_left, h]

/-- A kind of node that no block is of and that does not change with the order of statements below
a node. -/
structure OrderFree (P : Node → Prop) : Prop where
  block (operand : Option Operand) (args : List Node) : ¬ P ⟨.block, operand, args⟩
  within {node other : Node} (h : Rearranged node other) (code : Operation)
    (operand : Option Operand) (before after : List Node) :
    P ⟨code, operand, before ++ node :: after⟩ ↔ P ⟨code, operand, before ++ other :: after⟩

theorem OrderFree.exists_iff {P : Node → Prop} (hp : OrderFree P) {node other : Node}
    (h : Rearranged node other) : (∃ n ∈ node.subnodes, P n) ↔ ∃ n ∈ other.subnodes, P n := by
  have hblock (operand : Option Operand) (args : List Node) :
      (∃ n ∈ (⟨.block, operand, args⟩ : Node).subnodes, P n) ↔
        ∃ arg ∈ args, ∃ n ∈ arg.subnodes, P n := by
    rw [exists_mem_subnodes, or_iff_right (hp.block operand args)]
  induction h with
  | permute h =>
    rw [hblock, hblock]
    simp only [h.mem_iff]
  | @duplicate operand before after statement h =>
    rw [hblock, hblock]
    have hmem (n : Node) : n ∈ before ++ statement :: after ↔ n ∈ before ++ after := by
      simp only [List.mem_append, List.mem_cons] at h ⊢
      grind
    simp only [hmem]
  | @splice operand inner before statements after =>
    rw [hblock, hblock]
    simp only [List.mem_append, List.mem_cons, or_and_right, exists_or, exists_eq_left, hblock,
      or_assoc]
  | within h ih => exact exists_mem_subnodes_within (hp.within h _ _ _ _) ih

theorem reads_congr {slot : Nat} {node other : Node} (hcode : node.code = other.code)
    (hoperand : node.operand = other.operand) : node.reads slot = other.reads slot := by
  rw [reads, reads, slot?, slot?, hcode, hoperand]

namespace Rearranged

theorem head_eq {node other : Node} (h : Rearranged node other) :
    node.code = other.code ∧ node.operand = other.operand := by
  cases h <;> exact ⟨rfl, rfl⟩

theorem reads_eq {node other : Node} (h : Rearranged node other) (slot : Nat) :
    node.reads slot = other.reads slot :=
  reads_congr h.head_eq.1 h.head_eq.2

theorem valueName?_eq {node other : Node} (h : Rearranged node other) :
    valueName? node = valueName? other := by
  rw [valueName?, valueName?, field?, field?, method?, method?, h.head_eq.1, h.head_eq.2]

end Rearranged

theorem compares_logicNot {slot : Nat} {operand : Option Operand} {node : Node} {nodes : List Node} :
    compares slot ⟨.logicNot, operand, node :: nodes⟩ = compares slot node := by
  rw [compares, compares, negated?]

theorem compares_of_ne {slot : Nat} {code : Operation} (hc : code ≠ .logicNot)
    {operand : Option Operand} {args : List Node} :
    compares slot ⟨code, operand, args⟩ = (code.isOrdering && args.head?.any (·.reads slot)) := by
  rw [compares, negated?]
  · rfl
  · intro operand h
    exact hc (congrArg Node.code h)
  · intro operand node nodes h
    exact hc (congrArg Node.code h)

theorem compares_within {slot : Nat} {node other : Node} (hcode : node.code = other.code)
    (hoperand : node.operand = other.operand) (h : compares slot node = compares slot other)
    (code : Operation) (operand : Option Operand) (before after : List Node) :
    compares slot ⟨code, operand, before ++ node :: after⟩ =
      compares slot ⟨code, operand, before ++ other :: after⟩ := by
  by_cases hc : code = .logicNot
  · subst hc
    cases before with
    | nil => rw [List.nil_append, List.nil_append, compares_logicNot, compares_logicNot, h]
    | cons first before =>
      rw [List.cons_append, List.cons_append, compares_logicNot, compares_logicNot]
  · rw [compares_of_ne hc, compares_of_ne hc]
    cases before with
    | nil => simp [reads_congr hcode hoperand]
    | cons first before => rfl

theorem any_condition?_within {slot : Nat} {node other : Node}
    (h : compares slot node = compares slot other) (code : Operation) (operand : Option Operand)
    (before after : List Node) :
    (⟨code, operand, before ++ node :: after⟩ : Node).condition?.any (compares slot) =
      (⟨code, operand, before ++ other :: after⟩ : Node).condition?.any (compares slot) := by
  cases before with
  | nil => cases code <;> simp [condition?, h]
  | cons first before => cases code <;> simp [condition?]

theorem Rearranged.compares_eq {node other : Node} (h : Rearranged node other) (slot : Nat) :
    compares slot node = compares slot other := by
  induction h with
  | permute | duplicate | splice =>
    rw [compares_of_ne (by decide), compares_of_ne (by decide)]
    rfl
  | within h ih => exact compares_within h.head_eq.1 h.head_eq.2 ih _ _ _ _

theorem orderFree_writes (slot : Nat) (proposal : Option String) :
    OrderFree fun node => node.writes slot = true ∧ node.args.head?.bind valueName? = proposal where
  block operand args := by simp [writes]
  within h code operand before after := by
    cases before with
    | nil => simp [writes, slot?, h.valueName?_eq]
    | cons first before => simp [writes, slot?]

theorem argumentName?_congr (resolve : MethodRef → Option Signature) (code : Operation)
    (operand : Option Operand) {args others : List Node} (h : args.length = others.length)
    (index : Nat) :
    argumentName? resolve ⟨code, operand, args⟩ index =
      argumentName? resolve ⟨code, operand, others⟩ index := by
  simp only [argumentName?, field?, method?, h]

theorem orderFree_reads (resolve : MethodRef → Option Signature) (slot : Nat)
    (proposal : Option String) :
    OrderFree fun node => proposal ∈ readProposals resolve slot node where
  block operand args := by simp [readProposals, Operation.isContainer]
  within {node other} h code operand before after := by
    have hreads : (before ++ node :: after).map (·.reads slot) =
        (before ++ other :: after).map (·.reads slot) := by
      simp [h.reads_eq slot]
    have hname (index : Nat) := argumentName?_congr resolve code operand
      (show (before ++ node :: after).length = (before ++ other :: after).length by simp) index
    simp only [mem_readProposals, hreads, hname]

theorem orderFree_loops (slot : Nat) :
    OrderFree fun node => node.code = .whileLoop ∧ node.condition?.any (compares slot) = true where
  block operand args := by simp
  within h code operand before after := by
    rw [any_condition?_within (h.compares_eq slot)]

theorem countsBy_iff {body : Node} {slot : Nat} :
    body.countsBy slot = true ↔
      ∃ node ∈ body.subnodes, node.code = .whileLoop ∧ node.condition?.any (compares slot) = true := by
  rw [countsBy, List.any_eq_true, subnodesWith]
  simp only [List.mem_filter, beq_iff_eq, and_assoc]

end Node

namespace Scope

theorem wish_of_rearranged (scope : Scope) {body other : Node} (h : body.Rearranged other)
    (index : Nat) (slot : Slot) : scope.wish body index slot = scope.wish other index slot := by
  have hcounter : isCounter body index slot.type = isCounter other index slot.type := by
    have hcounts := (Node.orderFree_loops index).exists_iff h
    rw [← Node.countsBy_iff, ← Node.countsBy_iff, ← Bool.eq_iff_iff] at hcounts
    rw [isCounter, isCounter, hcounts]
  have hstore : storeName? scope.fields body index = storeName? scope.fields other index := by
    apply agreed_congr fun _ => Iff.rfl
    intro proposal
    rw [mem_storeProposals, mem_storeProposals]
    exact (Node.orderFree_writes index proposal).exists_iff h
  have hload : loadName? scope.fields scope.resolve body index =
      loadName? scope.fields scope.resolve other index := by
    apply agreed_congr fun _ => Iff.rfl
    intro proposal
    rw [mem_loadProposals, mem_loadProposals]
    exact (Node.orderFree_reads scope.resolve index proposal).exists_iff h
  rw [wish, wish, synthesis, synthesis, hcounter, hstore, hload]

theorem wish_of_eqvGen (scope : Scope) {body other : Node}
    (h : Relation.EqvGen Node.Rearranged body other) (index : Nat) (slot : Slot) :
    scope.wish body index slot = scope.wish other index slot := by
  induction h with
  | rel body other h => exact scope.wish_of_rearranged h index slot
  | refl body => rfl
  | symm body other _ ih => exact ih.symm
  | trans body middle other _ _ first second => exact first.trans second

end Scope

theorem naming_ignores_statement_order (procedure : Procedure) (scope : Scope) {body : Node}
    (h : Relation.EqvGen Node.Rearranged procedure.body body) :
    { procedure with body := body }.report scope = procedure.report scope ∧
      ({ procedure with body := body }.nameSlots scope).slots = (procedure.nameSlots scope).slots := by
  have hreport : { procedure with body := body }.report scope = procedure.report scope := by
    simp only [Procedure.report, scope.wish_of_eqvGen h]
    rfl
  refine ⟨hreport, ?_⟩
  rw [Procedure.nameSlots, Procedure.nameSlots, hreport]
  rfl

section Tally

open Node

def storeTotal : Node := storeLocal 0 (loadStaticField { name := "m_total" })

def countUp : Node := storeLocal 1 (binary .add (loadLocal 1) (constant (.int 1)))

def countTo (statements : List Node) : Node :=
  whileLoop (binary .compareLessThan (loadLocal 1) (loadLocal 0)) statements

def tally (statements : List Node) : Procedure where
  name := "Tally"
  slots := List.replicate 2 { kind := .localVariable, type := .builtin .int32 }
  body := block statements

theorem naming_ignores_statement_order_tally :
    Relation.EqvGen Rearranged (tally [storeTotal, countTo [block [block [countUp]]]]).body
      (block [countTo [block [countUp]], storeTotal, storeTotal]) ∧
    ((tally [countTo [block [countUp]], storeTotal, storeTotal]).report {}).assignments =
      [⟨0, "total", .storedValue⟩, ⟨1, "i", .loopCounter⟩] := by
  have hspliced : Rearranged (block [storeTotal, countTo [block [block [countUp]]]])
      (block [storeTotal, countTo [block [countUp]]]) :=
    @Rearranged.within .block none [storeTotal] [] _ _
      (@Rearranged.within .whileLoop none [_] [] _ _ (@Rearranged.splice none none [] [countUp] []))
  have hswapped : Rearranged (block [storeTotal, countTo [block [countUp]]])
      (block [countTo [block [countUp]], storeTotal]) :=
    Rearranged.permute (List.Perm.swap _ _ [])
  have hrepeated : Rearranged (block [countTo [block [countUp]], storeTotal])
      (block [countTo [block [countUp]], storeTotal, storeTotal]) :=
    @Rearranged.duplicate none [countTo [block [countUp]], storeTotal] [] storeTotal (by simp)
  have h : Relation.EqvGen Rearranged (tally [storeTotal, countTo [block [block [countUp]]]]).body
      (block [countTo [block [countUp]], storeTotal, storeTotal]) :=
    .trans _ _ _ (.rel _ _ hspliced) (.trans _ _ _ (.rel _ _ hswapped) (.rel _ _ hrepeated))
  refine ⟨h, ?_⟩
  have hsame := (naming_ignores_statement_order _ {} h).1
  exact (congrArg Report.assignments hsame).trans (by decide +kernel)

end Tally

end Nomen
