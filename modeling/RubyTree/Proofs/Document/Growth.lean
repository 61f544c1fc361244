/-
What a reading leaves in the forest.

`Forest.Grows f f' nodes links` says how a forest becomes another: the nodes take the next free
identities, one each, and the links stand in front of the parents written before. One construction
grows a forest by a node (`Forest.Grows.construct`), growth goes on step by step
(`Forest.Grows.trans`), and so a reading grows it by exactly the nodes and the links of the tree
that it returns (`readers_grow`). The nodes take their identities in the order of their construction
(`readers_order`).
-/

import RubyTree.Proofs.Document.Grammar
import RubyTree.Proofs.Node.Construction

namespace RubyTree

/-- A forest becomes another by nodes that take the next identities, in whatever order, and by
links. -/
structure Forest.Grows (f f' : Forest) (nodes : List Node) (links : List (Nat × Option Node)) :
    Prop where
  next : f'.next = f.next + nodes.length
  parents : f'.parents = links ++ f.parents
  ids : (nodes.map Node.id).Perm (List.range' f.next nodes.length)

namespace Forest.Grows

variable {f f' f'' : Forest} {ns ms : List Node} {ks ls : List (Nat × Option Node)}

theorem refl (f : Forest) : f.Grows f [] [] :=
  ⟨rfl, rfl, .refl _⟩

theorem trans (h : f.Grows f' ns ks) (h' : f'.Grows f'' ms ls) :
    f.Grows f'' (ns ++ ms) (ls ++ ks) where
  next := by
    rw [h'.next, h.next, List.length_append, Nat.add_assoc]
  parents := by
    rw [h'.parents, h.parents, List.append_assoc]
  ids := by
    have later := h'.ids
    rw [h.next] at later
    rw [List.map_append, List.length_append, ← List.range'_append_1]
    exact h.ids.append later

/-- A node that is constructed from what has grown completes a tree. -/
theorem construct {cs : List Child} (type : NodeType) (span : Option Span)
    (h : f.Grows f' (cs.flatMap Child.subnodes) (Child.linksList cs)) :
    f.Grows (f'.construct type cs span).2 (f'.construct type cs span).1.subnodes
      (f'.construct type cs span).1.links where
  next := by
    rw [Node.subnodes_eq, List.length_cons, ← Nat.add_assoc]
    exact congrArg (· + 1) h.next
  parents := by
    simp only [Forest.construct, Node.links]
    rw [h.parents, List.append_assoc]
  ids := by
    have children : (f'.construct type cs span).1.children = cs := rfl
    rw [Node.subnodes_eq, children, List.length_cons, List.range'_concat, Nat.one_mul, ← h.next]
    exact (h.ids.cons f'.next).trans (List.perm_append_singleton f'.next _).symm

/-- The new nodes have the identities between the two forests. -/
theorem mem_ids (h : f.Grows f' ns ls) {n : Node} (hn : n ∈ ns) :
    f.next ≤ n.id ∧ n.id < f'.next := by
  have taken := h.ids.mem_iff.mp (List.mem_map_of_mem hn)
  rw [List.mem_range'_1] at taken
  rw [h.next]
  exact taken

theorem nodup_ids (h : f.Grows f' ns ls) : (ns.map Node.id).Nodup :=
  h.ids.nodup_iff.mpr List.nodup_range'

end Forest.Grows

namespace Document

/-- A reading grows the forest by the nodes and the links of what it returns. -/
theorem readers_grow :
    (∀ v, ∀ {b n b'}, Yields (readNode v) b n b' → b.forest.Grows b'.forest n.subnodes n.links) ∧
      (∀ parent i vs, ∀ {b cs b'}, Yields (readChildren parent i vs) b cs b' →
        b.forest.Grows b'.forest (cs.flatMap Child.subnodes) (Child.linksList cs)) ∧
      (∀ parent v, ∀ {b c b'}, Yields (readChild parent v) b c b' →
        b.forest.Grows b'.forest c.subnodes c.links) := by
  refine ReadingCases.all ⟨?node, ?nil, ?cons, ?child⟩
  case node =>
    intro v ih b n b' h
    obtain ⟨type, span, children, items, c, head, hc, hn⟩ := yields_readNode_iff.mp h
    obtain ⟨rfl, rfl⟩ := yields_construct_iff.mp hn
    rw [← head.slots_eq] at hc
    exact (ih type hc).construct type span
  case nil =>
    intro parent i b cs b' h
    obtain ⟨rfl, rfl⟩ := yields_readChildren_nil_iff.mp h
    exact .refl _
  case cons =>
    intro parent i v rest first others b cs b' h
    obtain ⟨c, cs, d, hc, hcs, rfl⟩ := yields_readChildren_cons_iff.mp h
    obtain ⟨e, he, rfl⟩ := yields_atIndex_iff.mp hc
    rw [List.flatMap_cons, Child.linksList]
    have later := others hcs
    exact (first he).trans later
  case child =>
    intro parent v ih b c b' h
    cases shape : isNodeShaped v with
    | true =>
      obtain ⟨n, hn, rfl⟩ := (yields_readChild_node_iff shape).mp h
      rw [Child.links]
      exact ih shape hn
    | false =>
      rw [readChild, if_neg (by simp [shape])] at h
      obtain ⟨denoted, rfl⟩ := readScalar_sound h shape
      cases c with
      | node n =>
        cases n
        cases denoted
      | _ => exact .refl _

/-- A forest grows by the nodes of the tree that was read and by their links. -/
theorem grows_of_build {v : Json} {source : Option Buffer} {f : Forest} {root : Node} {b : Builder}
    (h : build v source f = (.ok root, b)) : f.Grows b.forest root.subnodes root.links := by
  have run : Yields (readNode v) ⟨source, [], f, []⟩ root b := h
  exact readers_grow.1 v run

/-- A reading gives the next identities in the order of construction. -/
theorem readers_order :
    (∀ v, ∀ {b n b'}, Yields (readNode v) b n b' → n.constructions.map Node.id =
        (List.range' b.forest.next n.constructions.length).reverse) ∧
      (∀ parent i vs, ∀ {b cs b'}, Yields (readChildren parent i vs) b cs b' →
        (Child.constructionsList cs).map Node.id =
          (List.range' b.forest.next (Child.constructionsList cs).length).reverse) ∧
      (∀ parent v, ∀ {b c b'}, Yields (readChild parent v) b c b' → c.constructions.map Node.id =
        (List.range' b.forest.next c.constructions.length).reverse) := by
  refine ReadingCases.all ⟨?node, ?nil, ?cons, ?child⟩
  case node =>
    intro v ih b n b' h
    obtain ⟨type, span, children, items, c, head, hc, hn⟩ := yields_readNode_iff.mp h
    obtain ⟨rfl, -⟩ := yields_construct_iff.mp hn
    rw [← head.slots_eq] at hc
    have grown := (readers_grow.2.1 type 0 (slots v) hc).next
    rw [← (Child.perm_constructionsList children).length_eq] at grown
    -- the children took the first identities of the range, the node takes its last one
    rw [Forest.construct, Node.constructions, List.map_cons, ih type hc, List.length_cons,
      List.range'_concat, List.reverse_append, Nat.one_mul, ← grown]
    rfl
  case nil =>
    intro parent i b cs b' h
    obtain ⟨rfl, -⟩ := yields_readChildren_nil_iff.mp h
    rfl
  case cons =>
    intro parent i v rest first others b cs b' h
    obtain ⟨c, cs, d, hc, hcs, rfl⟩ := yields_readChildren_cons_iff.mp h
    obtain ⟨e, he, rfl⟩ := yields_atIndex_iff.mp hc
    have grown : e.forest.next = b.forest.next + c.constructions.length := by
      rw [(Child.perm_constructions c).length_eq]
      exact (readers_grow.2.2 parent v he).next
    have later := others hcs
    have earlier := first he
    simp only at later earlier
    rw [Child.constructionsList, List.map_append, later, earlier, grown, List.length_append,
      Nat.add_comm (Child.constructionsList cs).length, ← List.range'_append_1,
      List.reverse_append]
  case child =>
    intro parent v ih b c b' h
    cases c with
    | node n =>
      cases shape : isNodeShaped v with
      | true =>
        obtain ⟨_, hn, heq⟩ := (yields_readChild_node_iff shape).mp h
        cases heq
        rw [Child.constructions]
        exact ih shape hn
      | false =>
        rw [readChild, if_neg (by simp [shape])] at h
        cases n
        cases (readScalar_sound h shape).1
    -- a scalar constructs nothing
    | _ => rfl

end Document

end RubyTree
