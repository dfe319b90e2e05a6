import Mathlib.Data.List.Basic
import Nomen.Proofs.Sites
import Nomen.Proofs.StatementOrder

namespace Nomen

theorem qualify_eq_int32_iff {space name : String} :
    qualify space name = "System.Int32" ↔
      space = "System" ∧ name = "Int32" ∨ space = "" ∧ name = "System.Int32" := by
  rw [qualify]
  split
  · next h => simp [h]
  · next h =>
    have hlists : space ++ "." ++ name = "System.Int32" ↔
        "System".toList ++ '.' :: "Int32".toList = space.toList ++ '.' :: name.toList := by
      rw [← String.toList_inj, eq_comm]
      simp
    rw [hlists, List.append_cons_inj_of_notMem (by decide) (by decide)]
    simp only [String.toList_inj, true_and, h, false_and, or_false, eq_comm]

namespace TypeSig

inductive IsInt32 : TypeSig → Prop where
  | builtin : IsInt32 (builtin .int32)
  | inNamespace : IsInt32 (named "System" "Int32" [])
  | qualified : IsInt32 (named "" "System.Int32" [])

theorem isInt32_iff {type : TypeSig} : type.isInt32 = true ↔ type.IsInt32 := by
  constructor
  · intro h
    unfold isInt32 at h
    split at h
    · exact .builtin
    · rw [beq_iff_eq, qualify_eq_int32_iff] at h
      rcases h with ⟨rfl, rfl⟩ | ⟨rfl, rfl⟩
      · exact .inNamespace
      · exact .qualified
    · cases h
  · rintro (_ | _ | _) <;> decide +kernel

end TypeSig

namespace Operation

def orderings : List Operation :=
  [compareLessThan, compareLessThanUnsigned, compareGreaterThan, compareGreaterThanUnsigned,
    compareLessOrEqual, compareLessOrEqualUnsigned, compareGreaterOrEqual,
    compareGreaterOrEqualUnsigned]

theorem isOrdering_iff {code : Operation} : code.isOrdering = true ↔ code ∈ orderings := by
  cases code <;> decide

end Operation

namespace Node

/-- A comparison with a read of the slot on its left, or a negation of such a test. -/
inductive Tests (slot : Nat) : Node → Prop where
  | ordering {code : Operation} {operand : Option Operand} {args rest : List Node}
      (hc : code ∈ Operation.orderings) :
      Tests slot ⟨code, operand, ⟨.loadLocal, some (.slot slot), args⟩ :: rest⟩
  | negation {operand : Option Operand} {condition : Node} {rest : List Node}
      (h : Tests slot condition) : Tests slot ⟨.logicNot, operand, condition :: rest⟩

theorem Tests.compares {slot : Nat} {condition : Node} (h : condition.Tests slot) :
    compares slot condition = true := by
  induction h with
  | @ordering code operand args rest hc =>
    have hne : code ≠ .logicNot := by
      rintro rfl
      exact absurd hc (by decide)
    rw [compares_of_ne hne, Operation.isOrdering_iff.mpr hc]
    simp [reads_eq_true]
  | negation _ ih => rw [compares_logicNot, ih]

theorem tests_of_compares {slot : Nat} :
    ∀ condition : Node, compares slot condition = true → condition.Tests slot
  | ⟨code, operand, args⟩, h => by
    by_cases hc : code = .logicNot
    · subst hc
      cases args with
      | nil => simp [Node.compares, negated?] at h
      | cons condition rest =>
        rw [compares_logicNot] at h
        exact .negation (tests_of_compares condition h)
    · rw [compares_of_ne hc, Bool.and_eq_true, Operation.isOrdering_iff] at h
      cases args with
      | nil => simp at h
      | cons first rest =>
        obtain ⟨left, given, inner⟩ := first
        obtain ⟨rfl, rfl⟩ := reads_eq_true.mp h.2
        exact .ordering h.1

theorem compares_iff {slot : Nat} {condition : Node} :
    compares slot condition = true ↔ condition.Tests slot :=
  ⟨tests_of_compares condition, Tests.compares⟩

theorem countsBy_iff_tests {body : Node} {slot : Nat} :
    body.countsBy slot = true ↔ ∃ operand condition statements,
      Occurs ⟨.whileLoop, operand, condition :: statements⟩ body ∧ condition.Tests slot := by
  rw [countsBy_iff]
  constructor
  · rintro ⟨⟨code, operand, args⟩, hm, rfl, hc⟩
    match args with
    | [] => simp [condition?] at hc
    | condition :: statements =>
      exact ⟨operand, condition, statements, mem_subnodes_iff_occurs.mp hm, compares_iff.mp hc⟩
  · rintro ⟨operand, condition, statements, ho, ht⟩
    exact ⟨_, ho.mem_subnodes, rfl, ht.compares⟩

inductive Negated : Node → Node → Prop where
  | condition {operand given : Option Operand} {condition : Node} {statements : List Node} :
      Negated ⟨.whileLoop, operand, condition :: statements⟩
        ⟨.whileLoop, operand, ⟨.logicNot, given, [condition]⟩ :: statements⟩
  | within {code : Operation} {operand : Option Operand} {before after : List Node}
      {node other : Node} (h : Negated node other) :
      Negated ⟨code, operand, before ++ node :: after⟩ ⟨code, operand, before ++ other :: after⟩

namespace Negated

theorem head_eq {node other : Node} (h : Negated node other) :
    node.code = other.code ∧ node.operand = other.operand := by
  cases h <;> exact ⟨rfl, rfl⟩

theorem compares_eq {node other : Node} (h : Negated node other) (slot : Nat) :
    compares slot node = compares slot other := by
  induction h with
  | condition =>
    rw [compares_of_ne (by decide), compares_of_ne (by decide)]
    rfl
  | within h ih => exact compares_within h.head_eq.1 h.head_eq.2 ih _ _ _ _

theorem countsBy_eq {node other : Node} (h : Negated node other) (slot : Nat) :
    node.countsBy slot = other.countsBy slot := by
  rw [Bool.eq_iff_iff, countsBy_iff, countsBy_iff]
  induction h with
  | @condition operand given condition statements =>
    -- The negation is no loop itself, and the loop compares as it did without it.
    simp only [exists_mem_subnodes, List.exists_mem_cons_iff, condition?, List.head?_cons,
      Option.any_some, compares_logicNot, reduceCtorEq, false_and, false_or, List.not_mem_nil,
      exists_false, or_false]
  | within h ih =>
    apply exists_mem_subnodes_within _ ih
    rw [any_condition?_within (h.compares_eq slot)]

end Negated

theorem countsBy_of_eqvGen {node other : Node} (h : Relation.EqvGen Negated node other) (slot : Nat) :
    node.countsBy slot = other.countsBy slot := by
  induction h with
  | rel _ _ h => exact h.countsBy_eq slot
  | refl => rfl
  | symm _ _ _ ih => exact ih.symm
  | trans _ _ _ _ _ first second => exact first.trans second

end Node

theorem counters_are_compared_in_loop_tests (body : Node) (slot : Nat) (type : TypeSig) :
    (isCounter body slot type = true ↔ type.IsInt32 ∧ ∃ operand condition statements,
      Node.Occurs ⟨.whileLoop, operand, condition :: statements⟩ body ∧ condition.Tests slot) ∧
    ∀ other, Relation.EqvGen Node.Negated body other →
      isCounter other slot type = isCounter body slot type := by
  constructor
  · rw [isCounter, Bool.and_eq_true, TypeSig.isInt32_iff, Node.countsBy_iff_tests]
  · intro other h
    rw [isCounter, isCounter, Node.countsBy_of_eqvGen h]

section Spinning

open Node

-- The loop stands in an argument of a call.
def spinning (condition : Node) : Node :=
  block [invoke .call { name := "Wait" } [whileLoop condition []]]

def reached : Node := binary .compareGreaterOrEqual (loadLocal 1) (loadLocal 2)

theorem counters_are_compared_in_loop_tests_spinning :
    Relation.EqvGen Negated (spinning (logicNot reached)) (spinning reached) ∧
      isCounter (spinning reached) 1 (.named "System" "Int32" []) = true ∧
      isCounter (spinning reached) 2 (.named "System" "Int32" []) = false := by
  have hnegated : Negated (spinning reached) (spinning (logicNot reached)) :=
    @Negated.within .block none [] [] _ _ (@Negated.within .call _ [] [] _ _ .condition)
  have h : Relation.EqvGen Negated (spinning (logicNot reached)) (spinning reached) :=
    .symm _ _ (.rel _ _ hnegated)
  refine ⟨h, ?_, ?_⟩
  · exact ((counters_are_compared_in_loop_tests _ 1 _).2 _ h).trans (by decide +kernel)
  · exact ((counters_are_compared_in_loop_tests _ 2 _).2 _ h).trans (by decide +kernel)

end Spinning

end Nomen
