/-
The order in which a tree is constructed.

A node is constructed after its children, and these from the first on. `Node.constructions` lists
the nodes of a tree in that order, the newest first: they are the nodes of the tree, each once for
each of its places (`Node.perm_constructions`), and every child node stands behind its parent
(`Node.constructions_split`).
-/

import RubyTree.Proofs.Node.Links

namespace RubyTree

mutual

/-- The nodes of a tree in the order of their construction, the newest first: a node is constructed
after its children, and these from the first on. -/
def Node.constructions : Node → List Node
  | .mk id type cs span => .mk id type cs span :: Child.constructionsList cs

def Child.constructionsList : List Child → List Node
  | [] => []
  | c :: cs => Child.constructionsList cs ++ Child.constructions c

def Child.constructions : Child → List Node
  | .node n => Node.constructions n
  | _ => []

end

mutual

/-- Every node of a tree is constructed once. -/
theorem Node.perm_constructions : ∀ n : Node, n.constructions.Perm n.subnodes
  | .mk id type cs span => by
    rw [Node.subnodes_eq, Node.constructions]
    exact (Child.perm_constructionsList cs).cons _

theorem Child.perm_constructionsList :
    ∀ cs : List Child, (Child.constructionsList cs).Perm (cs.flatMap Child.subnodes)
  | [] => .refl _
  | c :: cs => by
    rw [Child.constructionsList, List.flatMap_cons]
    exact List.perm_append_comm.trans
      ((Child.perm_constructions c).append (Child.perm_constructionsList cs))

theorem Child.perm_constructions : ∀ c : Child, c.constructions.Perm c.subnodes
  | .node n => by
    rw [Child.constructions]
    exact Node.perm_constructions n
  | .nil | .sym _ | .str _ | .int _ | .float _ | .bool _ => .refl _

end

mutual

/-- In a tree, every child node stands behind its parent, that is, it was constructed before it. -/
theorem Node.constructions_split {m c : Node} (hc : .node c ∈ m.children) :
    ∀ n : Node, m ∈ n.subnodes →
      ∃ later earlier, n.constructions = later ++ m :: earlier ∧ c ∈ earlier
  | .mk id type cs span, h => by
    rw [Node.subnodes_eq, List.mem_cons] at h
    rw [Node.constructions]
    rcases h with rfl | h
    · refine ⟨[], _, rfl, (Child.perm_constructionsList cs).mem_iff.mpr ?_⟩
      exact List.mem_flatMap.mpr ⟨.node c, hc, c.self_mem_subnodes⟩
    · obtain ⟨later, earlier, split, hmem⟩ := Child.constructionsList_split hc cs h
      exact ⟨_ :: later, earlier, congrArg _ split, hmem⟩

theorem Child.constructionsList_split {m c : Node} (hc : .node c ∈ m.children) :
    ∀ cs : List Child, m ∈ cs.flatMap Child.subnodes →
      ∃ later earlier, Child.constructionsList cs = later ++ m :: earlier ∧ c ∈ earlier
  | [], h => by simp at h
  | d :: cs, h => by
    rw [List.flatMap_cons, List.mem_append] at h
    rw [Child.constructionsList]
    rcases h with h | h
    · obtain ⟨later, earlier, split, hmem⟩ := Child.constructions_split hc d h
      exact ⟨Child.constructionsList cs ++ later, earlier, by rw [split, List.append_assoc], hmem⟩
    · obtain ⟨later, earlier, split, hmem⟩ := Child.constructionsList_split hc cs h
      refine ⟨later, earlier ++ Child.constructions d, ?_, List.mem_append_left _ hmem⟩
      rw [split, List.append_assoc, List.cons_append]

theorem Child.constructions_split {m c : Node} (hc : .node c ∈ m.children) :
    ∀ d : Child, m ∈ d.subnodes →
      ∃ later earlier, d.constructions = later ++ m :: earlier ∧ c ∈ earlier
  | .node n, h => by
    rw [Child.constructions]
    exact Node.constructions_split hc n h
  | .nil, h | .sym _, h | .str _, h | .int _, h | .float _, h | .bool _, h => by
    simp [Child.subnodes] at h

end

end RubyTree
