/-
The links of a tree that was read.

`Store.Linked s root` says that the parents in a store are the tree below a node, read upwards: the
root is nobody's child, every other node has as its parent the node one step up on its path, and the
siblings behind it are the children behind its index there. Nodes are told apart by identity, so
equal nodes at different places do not matter.

* `lastParent?_of_grows` — once a tree has grown, the parent written last for a child is the node
  that holds it.
* `step_of_grows` — the parent of a node is the one before it on its path, and its siblings are the
  children behind its index.
* `ancestors_of_steps` — following parents goes up the path, one index at a time.
-/

import Mathlib.Data.List.Induction
import RubyTree.Proofs.Json.KeyOrder
import RubyTree.Proofs.Store.Reachable

namespace RubyTree

/-! ### The parents written last -/

namespace Forest

variable {f f' : Forest} {root : Node}

/-- After a tree has grown, its nodes are the last parents of their child nodes. -/
theorem lastParent?_of_grows (grows : f.Grows f' root.subnodes root.links) {m n : Node}
    (hm : m ∈ root.subnodes) (hn : .node n ∈ m.children) : f'.lastParent? n = some m := by
  have keys := root.perm_links.nodup_iff.mp grows.nodup_ids
  have written := lookup_eq_some_of_mem (List.nodup_cons.mp keys).2 (Node.mem_links hn root hm)
  rw [lastParent?, grows.parents, List.lookup_append, written]
  rfl

/-- No parent is written for the root of a tree that has grown. -/
theorem lastParent?_root_of_grows (grows : f.Grows f' root.subnodes root.links)
    (fresh : ∀ e ∈ f.parents, e.1 < f.next) : f'.lastParent? root = none := by
  have keys := root.perm_links.nodup_iff.mp grows.nodup_ids
  have unwritten : f'.parents.lookup root.id = none := by
    rw [List.lookup_eq_none_iff, grows.parents]
    intro e he
    rw [bne_iff_ne]
    rcases List.mem_append.mp he with he | he
    · intro same
      rw [same] at keys
      exact (List.nodup_cons.mp keys).1 (List.mem_map_of_mem he)
    · have old := fresh e he
      have new := (grows.mem_ids root.self_mem_subnodes).1
      omega
  rw [lastParent?, unwritten]
  rfl

end Forest

namespace Store

/-- The children behind a node are those behind its index, when no node before it is the same. -/
theorem after?_eq {n : Node} {cs : List Child} {i : Nat} (h : cs[i]? = some (.node n))
    (first : ∀ j m, j < i → cs[j]? = some (.node m) → m.same n = false) :
    after? n cs = some (cs.drop (i + 1)) := by
  induction cs generalizing i with
  | nil => simp at h
  | cons c cs ih =>
    cases i with
    | zero =>
      obtain rfl : c = .node n := by simpa using h
      rw [after?, if_pos (Node.same_iff.mpr rfl)]
      rfl
    | succ i =>
      have below : after? n cs = some (cs.drop (i + 1)) := by
        refine ih (by simpa using h) fun j m hj hm => ?_
        exact first (j + 1) m (Nat.succ_lt_succ hj) (by simpa using hm)
      rw [List.drop_succ_cons, ← below]
      cases c with
      | node m =>
        have other := first 0 m (Nat.zero_lt_succ i) rfl
        rw [after?, other]
        rfl
      | _ =>
        rw [after?]
        simp

/-! ### Linked trees -/

/-- The parents in a store are the tree below a node, read upwards. -/
structure Linked (s : Store) (root : Node) : Prop where
  /-- The root has no parent and no siblings. -/
  top : s.parent? root = none ∧ s.siblings? root = none
  /-- Different paths lead to different nodes. -/
  distinct : ∀ p q m m', root.atPath? p = some m → root.atPath? q = some m' → p ≠ q →
    m.same m' = false
  /-- The parent of a node is the one before it on its path, and its siblings are the children
  behind its index. -/
  step : ∀ p i n, root.atPath? (p ++ [i]) = some n →
    ∃ m, root.atPath? p = some m ∧ s.parent? n = some m ∧
      s.siblings? n = some (m.children.drop (i + 1))
  /-- The ancestors of a node are the nodes at the proper prefixes of its path, the longest first;
  there are as many as the path has indices, and the last one is the root. -/
  chain : ∀ p n limit, root.atPath? p = some n → p.length ≤ limit →
    (s.ancestors limit n).map some =
        (List.range p.length).reverse.map (fun k => root.atPath? (p.take k)) ∧
      (s.ancestors limit n).length = p.length ∧
        (n :: s.ancestors limit n).getLast? = some root

/-- Following parents from a node goes up its path to the root. -/
theorem ancestors_of_steps {s : Store} {root : Node} (top : s.parent? root = none)
    (step : ∀ p i n, root.atPath? (p ++ [i]) = some n →
      ∃ m, root.atPath? p = some m ∧ s.parent? n = some m)
    {p : List Nat} {n : Node} {limit : Nat} (h : root.atPath? p = some n)
    (enough : p.length ≤ limit) :
    (s.ancestors limit n).map some =
        (List.range p.length).reverse.map (fun k => root.atPath? (p.take k)) ∧
      (n :: s.ancestors limit n).getLast? = some root := by
  induction p using List.reverseRecOn generalizing n limit with
  | nil =>
    obtain rfl : root = n := by simpa [Node.atPath?] using h
    cases limit with
    | zero => exact ⟨rfl, rfl⟩
    | succ limit =>
      rw [Store.ancestors, top]
      exact ⟨rfl, rfl⟩
  | append_singleton p i ih =>
    obtain ⟨m, hm, parent⟩ := step p i n h
    rw [List.length_append, List.length_singleton] at enough
    obtain ⟨limit, rfl⟩ : ∃ k, limit = k + 1 := ⟨limit - 1, by omega⟩
    obtain ⟨above, last⟩ := ih hm (Nat.le_of_succ_le_succ enough)
    have prefixes : ∀ k ∈ (List.range p.length).reverse,
        root.atPath? ((p ++ [i]).take k) = root.atPath? (p.take k) := by
      intro k hk
      rw [List.mem_reverse, List.mem_range] at hk
      rw [List.take_append_of_le_length (Nat.le_of_lt hk)]
    simp only [Store.ancestors, parent]
    refine ⟨?_, ?_⟩
    · rw [List.length_append, List.length_singleton, List.range_succ, List.reverse_append,
        List.reverse_singleton, List.singleton_append, List.map_cons, List.map_cons, above,
        List.take_left, hm, List.map_congr_left prefixes]
    · rw [List.getLast?_cons_cons]
      exact last

/-- After a tree was read, a node below the root has its parent and the siblings behind it. -/
theorem step_of_grows {f : Forest} {s : Store} {root : Node}
    (grows : f.Grows s.forest root.subnodes root.links) (held : s.Reaches root)
    {p : List Nat} {i : Nat} {n : Node} (h : root.atPath? (p ++ [i]) = some n) :
    ∃ m, root.atPath? p = some m ∧ s.parent? n = some m ∧
      s.siblings? n = some (m.children.drop (i + 1)) := by
  have above := h
  rw [Node.atPath?_append] at above
  obtain ⟨m, hm, hn⟩ := Option.bind_eq_some_iff.mp above
  have slot := Node.atPath?_singleton.mp hn
  have below := Node.mem_subnodes_of_atPath? hm
  have parent : s.parent? n = some m := by
    have last := Forest.lastParent?_of_grows grows below (List.mem_of_getElem? slot)
    have live := isLive_of_reaches (held.below below)
    rw [parent?, last, Option.filter_some, if_pos live]
  refine ⟨m, hm, parent, ?_⟩
  rw [siblings?, parent]
  refine after?_eq slot fun j k hj hk => ?_
  rw [Bool.eq_false_iff]
  intro same
  have hk' : root.atPath? (p ++ [j]) = some k := by
    rw [Node.atPath?_append, hm]
    exact Node.atPath?_singleton.mpr hk
  have paths := Node.path_eq_of_id_eq grows.nodup_ids hk' h (Node.same_iff.mp same)
  have : j = i := by simpa using paths
  omega

/-- **A tree that was just read is linked.** Whatever was done before, in every store that has the
forest of the reading and holds the root, parents, siblings and ancestors are those of the paths of
the tree. -/
theorem linked_of_build {before s : Store} (reachable : before.Reachable) {v : Json}
    {source : Option Buffer} {root : Node} {b : Document.Builder}
    (read : Document.build v source before.forest = (.ok root, b)) (forest : s.forest = b.forest)
    (held : s.Reaches root) : s.Linked root := by
  have grows := Document.grows_of_build read
  rw [← forest] at grows
  have top : s.parent? root = none := by
    rw [parent?, Forest.lastParent?_root_of_grows grows reachable.fresh.written]
    rfl
  refine ⟨⟨top, ?siblings⟩, ?distinct, fun p i n => step_of_grows grows held, ?chain⟩
  case siblings =>
    rw [siblings?, top]
    rfl
  case distinct =>
    intro p q m m' hp hq different
    rw [Bool.eq_false_iff]
    intro same
    exact different (Node.path_eq_of_id_eq grows.nodup_ids hp hq (Node.same_iff.mp same))
  case chain =>
    intro p n limit h enough
    have parents : ∀ p i n, root.atPath? (p ++ [i]) = some n →
        ∃ m, root.atPath? p = some m ∧ s.parent? n = some m := by
      intro p i n hn
      obtain ⟨m, hm, parent, -⟩ := step_of_grows grows held hn
      exact ⟨m, hm, parent⟩
    obtain ⟨above, last⟩ := ancestors_of_steps top parents h enough
    refine ⟨above, ?_, last⟩
    simpa using congrArg List.length above

/-- Two equal nodes below one parent are linked as different ones. -/
theorem linked_twins :
    let v : Json := .arr [.str "begin", .arr [.str "lvar", .str "a"], .arr [.str "lvar", .str "a"]]
    let twin (id : Nat) : Child := .node (.mk id .lvar [.sym "a"] none)
    let root : Node := .mk 2 .beginSeq [twin 0, twin 1] none
    ∃ b, Document.build v none Forest.empty = (.ok root, b) ∧
      Linked ⟨[("root", root)], b.forest, 0⟩ root := by
  intro v twin root
  have result : (Document.build v none empty.forest).1 = .ok root := by
    simp only [v, Document.build, Document.readNode, Document.readChildren, Document.readChild,
      Document.slots, Document.isNodeShaped]
    rfl
  have read : Document.build v none empty.forest = (.ok root, _) := Prod.ext result rfl
  refine ⟨_, read, linked_of_build .empty read rfl ?_⟩
  exact ⟨("root", root), List.mem_cons_self, root.self_mem_subnodes⟩

end Store

end RubyTree
