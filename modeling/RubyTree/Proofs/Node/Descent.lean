/-
Descent from a node.

A path of child indices leads from a node to the nodes below it. `Node.atPath?_append` says that
descent goes step by step, and `Node.Holds.exists_atPath?` that every node which a field of a node
holds is below it. What holds of a node as soon as it holds of the nodes in its fields holds of all
nodes (`Node.induction_holds`).
-/

import RubyTree.Field.Size

namespace RubyTree.Node

theorem atPath?_cons (n : Node) (i : Nat) (path : List Nat) :
    n.atPath? (i :: path) =
      (n.children[i]?).bind (fun c => c.node?.bind (fun m => m.atPath? path)) := by
  rw [atPath?]

/-- A path leads on from where its first part ends. -/
theorem atPath?_append (n : Node) (p q : List Nat) :
    n.atPath? (p ++ q) = (n.atPath? p).bind (fun m => m.atPath? q) := by
  induction p generalizing n with
  | nil => simp [atPath?]
  | cons i p ih =>
    simp only [List.cons_append, atPath?_cons, Option.bind_assoc]
    congr 1
    funext c
    congr 1
    funext m
    exact ih m

/-- A step down leads to the node at a child index. -/
theorem atPath?_singleton {n m : Node} {i : Nat} :
    n.atPath? [i] = some m ↔ n.children[i]? = some (.node m) := by
  rw [atPath?_cons]
  cases n.children[i]? with
  | none => simp
  | some c => cases c <;> simp [Child.node?, atPath?]

/-- A node among the children is at one of the indices. -/
theorem exists_atPath?_of_mem {n m : Node} (h : .node m ∈ n.children) :
    ∃ i, n.atPath? [i] = some m := by
  obtain ⟨i, hi⟩ := List.mem_iff_getElem?.mp h
  exact ⟨i, atPath?_singleton.mpr hi⟩

/-- A node that another one holds is below it. -/
theorem Holds.exists_atPath? {n m : Node} (h : n.Holds (.node m)) :
    ∃ path, n.atPath? path = some m := by
  cases h with
  | own h =>
    obtain ⟨i, hi⟩ := exists_atPath?_of_mem h
    exact ⟨[i], hi⟩
  | @inner k _ hk h =>
    obtain ⟨i, hi⟩ := exists_atPath?_of_mem hk
    obtain ⟨j, hj⟩ := exists_atPath?_of_mem h
    refine ⟨[i] ++ [j], ?_⟩
    rw [atPath?_append, hi]
    exact hj

/-- Induction through the fields of nodes. -/
theorem induction_holds {P : Node → Prop} (step : ∀ n, (∀ m, n.Holds (.node m) → P m) → P n)
    (n : Node) : P n :=
  step n fun m hm =>
    have : sizeOf m < sizeOf n := Nat.lt_trans (Child.sizeOf_node_lt m) hm.sizeOf_lt
    induction_holds step m
termination_by sizeOf n

end RubyTree.Node
