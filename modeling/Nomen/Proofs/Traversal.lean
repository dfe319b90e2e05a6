import Mathlib.Data.List.Basic
import Mathlib.Data.Prod.Basic
import Nomen.Body

namespace Nomen

structure Traversal where
  stack : Array Node

namespace Traversal

def start (root : Node) : Traversal :=
  ⟨#[root]⟩

def next? (traversal : Traversal) : Option (Node × Traversal) :=
  traversal.stack.back?.map fun node => (node, ⟨traversal.stack.pop ++ node.args.reverse⟩)

/-- What the calls give out, one node to a call, up to the first call without a node. -/
inductive Yields : Traversal → List Node → Prop where
  | done {traversal : Traversal} (h : traversal.next? = none) : Yields traversal []
  | more {traversal rest : Traversal} {node : Node} {nodes : List Node}
      (h : traversal.next? = some (node, rest)) (hr : rest.Yields nodes) :
      Yields traversal (node :: nodes)

def pending (traversal : Traversal) : List Node :=
  traversal.stack.toList.reverse

variable {traversal : Traversal}

theorem next?_of_pending_nil (h : traversal.pending = []) : traversal.next? = none := by
  have hstack : traversal.stack = #[] := by simpa [pending] using h
  rw [next?, hstack]
  rfl

theorem next?_of_pending_cons {node : Node} {nodes : List Node}
    (h : traversal.pending = node :: nodes) :
    ∃ rest, traversal.next? = some (node, rest) ∧ rest.pending = node.args ++ nodes := by
  have hlist : traversal.stack.toList = nodes.reverse ++ [node] := by
    rw [← List.reverse_reverse traversal.stack.toList, ← pending, h, List.reverse_cons]
  have hstack : traversal.stack = nodes.reverse.toArray.push node := by
    rw [← Array.toList_inj, hlist, Array.toList_push]
  refine ⟨⟨nodes.reverse.toArray ++ node.args.reverse⟩, ?_, ?_⟩
  · rw [next?, hstack, Array.back?_push, Option.map_some, Array.pop_push]
  · simp [pending]

theorem Yields.unique {nodes others : List Node} (h : traversal.Yields nodes)
    (ho : traversal.Yields others) : nodes = others := by
  induction h generalizing others with
  | done h =>
    cases ho with
    | done => rfl
    | more h' => exact absurd (h.symm.trans h') (by simp)
  | more h _ ih =>
    cases ho with
    | done h' => exact absurd (h.symm.trans h') (by simp)
    | more h' hr =>
      obtain ⟨rfl, rfl⟩ := Prod.mk.inj (Option.some.inj (h.symm.trans h'))
      rw [ih hr]

theorem yields_walk (traversal : Traversal) : traversal.Yields (Node.walk traversal.pending) := by
  -- A call replaces the node on top by its arguments, and so there is one node less to visit.
  generalize hp : traversal.pending = pending
  induction pending using Node.walk.induct generalizing traversal with
  | case1 =>
    rw [Node.walk]
    exact .done (next?_of_pending_nil hp)
  | case2 node pending ih =>
    obtain ⟨rest, hn, hpending⟩ := next?_of_pending_cons hp
    rw [Node.walk]
    exact .more hn (ih rest hpending)

theorem yields_iff {nodes : List Node} :
    traversal.Yields nodes ↔ nodes = Node.walk traversal.pending := by
  constructor
  · intro h
    exact h.unique traversal.yields_walk
  · rintro rfl
    exact traversal.yields_walk

end Traversal

namespace Node

/-- The node to which a path leads. A path says at each node on the way which argument comes next. -/
def follow? : List Nat → Node → Option Node
  | [], root => some root
  | index :: path, root => root.args[index]?.bind (follow? path)

mutual

def located : Node → List (List Nat × Node)
  | ⟨code, operand, args⟩ => ([], ⟨code, operand, args⟩) :: locatedFrom 0 args

def locatedFrom (index : Nat) : List Node → List (List Nat × Node)
  | [] => []
  | node :: nodes => node.located.map (Prod.map (index :: ·) id) ++ locatedFrom (index + 1) nodes

end

mutual

theorem map_snd_located : ∀ root : Node, root.located.map Prod.snd = root.preorder
  | ⟨_, _, args⟩ => by
    rw [located, preorder, List.map_cons, map_snd_locatedFrom 0 args]

theorem map_snd_locatedFrom : ∀ (index : Nat) (nodes : List Node),
    (locatedFrom index nodes).map Prod.snd = preorderAll nodes
  | _, [] => by
    rw [locatedFrom, preorderAll, List.map_nil]
  | index, node :: nodes => by
    rw [locatedFrom, preorderAll, List.map_append, List.map_map, Prod.map_snd', Function.id_comp,
      map_snd_located node, map_snd_locatedFrom (index + 1) nodes]

end

theorem mem_locatedFrom {index : Nat} {nodes : List Node} {path : List Nat} {sub : Node} :
    (path, sub) ∈ locatedFrom index nodes ↔
      ∃ place tail node, path = (index + place) :: tail ∧ nodes[place]? = some node ∧
        (tail, sub) ∈ node.located := by
  induction nodes generalizing index with
  | nil => simp [locatedFrom]
  | cons node nodes ih =>
    rw [locatedFrom, List.mem_append, ih, List.mem_map]
    constructor
    · rintro (⟨⟨tail, sub⟩, hm, he⟩ | ⟨place, tail, other, rfl, ho, hm⟩)
      · obtain ⟨rfl, rfl⟩ := Prod.mk.inj he
        exact ⟨0, tail, node, rfl, rfl, hm⟩
      · exact ⟨place + 1, tail, other, by rw [Nat.add_right_comm, Nat.add_assoc], ho, hm⟩
    · rintro ⟨_ | place, tail, other, rfl, ho, hm⟩
      · obtain rfl : node = other := by simpa using ho
        exact Or.inl ⟨(tail, sub), hm, rfl⟩
      · exact Or.inr ⟨place, tail, other, by rw [Nat.add_right_comm, Nat.add_assoc], ho, hm⟩

theorem mem_located {path : List Nat} {root sub : Node} :
    (path, sub) ∈ root.located ↔ root.follow? path = some sub := by
  -- The paths get shorter on the way down, so the tree itself need not be followed.
  induction path generalizing root with
  | nil =>
    cases root
    simp [located, follow?, mem_locatedFrom, eq_comm]
  | cons index path ih =>
    cases root
    simp [located, follow?, mem_locatedFrom, Option.bind_eq_some_iff, ih]

-- No path comes after itself or after a path that goes on from it.
mutual

theorem located_pairwise : ∀ root : Node,
    root.located.Pairwise fun earlier later => ¬ later.1 <+: earlier.1
  | ⟨_, _, args⟩ => by
    rw [located, List.pairwise_cons]
    refine ⟨?_, locatedFrom_pairwise 0 args⟩
    rintro ⟨path, sub⟩ hm
    obtain ⟨place, tail, -, rfl, -⟩ := mem_locatedFrom.mp hm
    simp

theorem locatedFrom_pairwise : ∀ (index : Nat) (nodes : List Node),
    (locatedFrom index nodes).Pairwise fun earlier later => ¬ later.1 <+: earlier.1
  | _, [] => by
    rw [locatedFrom]
    exact .nil
  | index, node :: nodes => by
    rw [locatedFrom, List.pairwise_append]
    refine ⟨?_, locatedFrom_pairwise (index + 1) nodes, ?_⟩
    · rw [List.pairwise_map]
      exact (located_pairwise node).imp fun h => by simpa using h
    · rintro earlier he ⟨later, other⟩ hl hprefix
      obtain ⟨⟨path, sub⟩, -, rfl⟩ := List.mem_map.mp he
      obtain ⟨place, tail, -, rfl, -⟩ := mem_locatedFrom.mp hl
      have hindex := (List.cons_prefix_cons.mp hprefix).1
      omega

end

theorem traversal_lists_occurrences_in_preorder (root : Node) :
    (∀ nodes, (Traversal.start root).Yields nodes ↔ nodes = root.preorder) ∧
    root.subnodes = root.preorder ∧
    (root.located.map Prod.snd = root.preorder ∧
      (∀ path sub, (path, sub) ∈ root.located ↔ root.follow? path = some sub) ∧
      root.located.Pairwise fun earlier later => ¬ later.1 <+: earlier.1) ∧
    ∀ code, root.subnodesWith code = root.preorder.filter fun sub => sub.code = code := by
  refine ⟨?_, root.subnodes_eq_preorder,
    ⟨root.map_snd_located, fun _ _ => mem_located, root.located_pairwise⟩, ?_⟩
  · intro nodes
    rw [Traversal.yields_iff, ← subnodes_eq_preorder]
    rfl
  · intro code
    rw [subnodesWith, subnodes_eq_preorder]
    rfl

end Node

end Nomen
