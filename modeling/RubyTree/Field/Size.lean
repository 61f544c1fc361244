/-
What a field holds is smaller than the node.

The children that a node holds are below it, so recursion through fields ends.
-/

import RubyTree.Field.Origin

namespace RubyTree

theorem Child.sizeOf_nil_lt (n : Node) : sizeOf Child.nil < sizeOf n := by
  cases n with
  | mk id type children span =>
    have : 0 < sizeOf children := by cases children <;> simp only [List.nil.sizeOf_spec,
      List.cons.sizeOf_spec] <;> omega
    simp only [Child.nil.sizeOf_spec, Node.mk.sizeOf_spec]
    omega

theorem Child.sizeOf_node_lt (n : Node) : sizeOf n < sizeOf (Child.node n) := by
  simp only [Child.node.sizeOf_spec]
  omega

theorem Node.sizeOf_lt_of_mem {n : Node} {c : Child} (h : c ∈ n.children) :
    sizeOf c < sizeOf n := by
  cases n with
  | mk id type children span =>
    have := List.sizeOf_lt_of_mem h
    simp only [Node.children, Node.mk.sizeOf_spec] at this ⊢
    omega

/-- A child that a node holds is smaller than the node. -/
theorem Node.Holds.sizeOf_lt {n : Node} {c : Child} (h : n.Holds c) : sizeOf c < sizeOf n := by
  cases h with
  | absent => exact Child.sizeOf_nil_lt n
  | own h => exact Node.sizeOf_lt_of_mem h
  | @inner m _ hm h =>
    calc sizeOf c < sizeOf m := Node.sizeOf_lt_of_mem h
      _ < sizeOf (Child.node m) := Child.sizeOf_node_lt m
      _ < sizeOf n := Node.sizeOf_lt_of_mem hm

/-- A child in a field of a node is smaller than the node. -/
theorem Node.sizeOf_field_lt {n : Node} {name : String} {r : Reading} {c : Child}
    (h : n.field name = .ok r) (hc : c ∈ r.children) : sizeOf c < sizeOf n :=
  (Node.holds_of_field h hc).sizeOf_lt

end RubyTree
