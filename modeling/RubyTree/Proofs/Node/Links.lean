/-
The nodes of a tree and the links between them.

`Node.subnodes` lists a node and those below it, and every path leads to one of them
(`Node.mem_walk_of_atPath?`). `Node.links` is the entries that the construction of a tree writes,
the newest first: each node, when it is constructed, is written as the parent of the nodes among
its children.

* `Node.mem_links` — every node of the tree is written as the parent of all its child nodes.
* `Node.perm_links` — the tree writes one parent for each of its nodes except the root, and none
  for anything else.
-/

import Mathlib.Data.List.Nodup
import RubyTree.Proofs.Node.Descent

namespace RubyTree

theorem Node.same_iff {a b : Node} : a.same b = true ↔ a.id = b.id :=
  beq_iff_eq

/-! ### The nodes of a tree -/

def Child.subnodes : Child → List Node
  | .node n => n.subnodes
  | _ => []

mutual

theorem Node.walk_nodes (p q : List Nat) :
    ∀ n : Node, (n.walk p).map Prod.snd = (n.walk q).map Prod.snd
  | .mk id type cs span => by
    simp only [Node.walk, List.map_cons]
    rw [Child.walkList_nodes p q 0 0 cs]

theorem Child.walkList_nodes (p q : List Nat) (i j : Nat) : ∀ cs : List Child,
    (Child.walkList p i cs).map Prod.snd = (Child.walkList q j cs).map Prod.snd
  | [] => rfl
  | c :: cs => by
    simp only [Child.walkList, List.map_append]
    rw [Child.walk_nodes (p ++ [i]) (q ++ [j]) c, Child.walkList_nodes p q (i + 1) (j + 1) cs]

theorem Child.walk_nodes (p q : List Nat) :
    ∀ c : Child, (Child.walk p c).map Prod.snd = (Child.walk q c).map Prod.snd
  | .node n => by
    simp only [Child.walk]
    exact Node.walk_nodes p q n
  | .nil | .sym _ | .str _ | .int _ | .float _ | .bool _ => rfl

end

theorem Child.nodes_of_walk (p : List Nat) (c : Child) :
    (Child.walk p c).map Prod.snd = c.subnodes := by
  cases c with
  | node n => exact Node.walk_nodes p [] n
  | _ => rfl

theorem Child.nodes_of_walkList (p : List Nat) (i : Nat) (cs : List Child) :
    (Child.walkList p i cs).map Prod.snd = cs.flatMap Child.subnodes := by
  induction cs generalizing i with
  | nil => rfl
  | cons c cs ih =>
    rw [Child.walkList, List.map_append, Child.nodes_of_walk, ih, List.flatMap_cons]

namespace Node

theorem walk_eq (n : Node) (p : List Nat) :
    n.walk p = (p, n) :: Child.walkList p 0 n.children := by
  cases n
  rw [walk]
  rfl

/-- The nodes of a tree are its root and those of its children. -/
theorem subnodes_eq (n : Node) : n.subnodes = n :: n.children.flatMap Child.subnodes := by
  rw [subnodes, walk_eq, List.map_cons, Child.nodes_of_walkList]

theorem self_mem_subnodes (n : Node) : n ∈ n.subnodes := by
  rw [subnodes_eq]
  exact List.mem_cons_self

end Node

theorem Child.mem_walkList {p : List Nat} {k i : Nat} {cs : List Child} {c : Child}
    {e : List Nat × Node} (hc : cs[i]? = some c) (he : e ∈ Child.walk (p ++ [k + i]) c) :
    e ∈ Child.walkList p k cs := by
  induction cs generalizing k i with
  | nil => simp at hc
  | cons d cs ih =>
    rw [Child.walkList, List.mem_append]
    cases i with
    | zero =>
      obtain rfl : d = c := by simpa using hc
      exact .inl he
    | succ i =>
      have hd : cs[i]? = some c := by simpa using hc
      refine .inr (ih hd ?_)
      rwa [Nat.add_right_comm, Nat.add_assoc]

namespace Node

/-- A path that leads to a node is met on the walk, with the node. -/
theorem mem_walk_of_atPath? {n m : Node} {q : List Nat} (p : List Nat)
    (h : n.atPath? q = some m) : (p ++ q, m) ∈ n.walk p := by
  induction q generalizing n p with
  | nil =>
    obtain rfl : n = m := by simpa [atPath?] using h
    rw [List.append_nil, walk_eq]
    exact List.mem_cons_self
  | cons i q ih =>
    rw [← List.singleton_append, atPath?_append] at h
    obtain ⟨k, hk, h⟩ := Option.bind_eq_some_iff.mp h
    have below := ih (p ++ [i]) h
    rw [List.append_assoc, List.singleton_append] at below
    rw [walk_eq]
    refine List.mem_cons_of_mem _ (Child.mem_walkList (atPath?_singleton.mp hk) ?_)
    rw [Nat.zero_add, Child.walk]
    exact below

/-- A node at a path is a node of the tree. -/
theorem mem_subnodes_of_atPath? {n m : Node} {p : List Nat} (h : n.atPath? p = some m) :
    m ∈ n.subnodes := by
  have visited := mem_walk_of_atPath? [] h
  exact List.mem_map_of_mem visited

/-- The nodes of a tree are those that paths lead to. -/
theorem mem_subnodes_iff {n m : Node} : m ∈ n.subnodes ↔ ∃ p, n.atPath? p = some m := by
  constructor
  · induction n using induction_holds with
    | step n ih =>
      intro h
      rw [subnodes_eq, List.mem_cons, List.mem_flatMap] at h
      rcases h with rfl | ⟨c, hc, h⟩
      · exact ⟨[], rfl⟩
      · cases c with
        | node k =>
          obtain ⟨i, hi⟩ := exists_atPath?_of_mem hc
          obtain ⟨p, hp⟩ := ih k (.own hc) h
          refine ⟨[i] ++ p, ?_⟩
          rw [atPath?_append, hi]
          exact hp
        | _ => cases h
  · rintro ⟨p, h⟩
    exact mem_subnodes_of_atPath? h

theorem mem_subnodes_trans {n k m : Node} (hk : k ∈ n.subnodes) (hm : m ∈ k.subnodes) :
    m ∈ n.subnodes := by
  obtain ⟨p, hp⟩ := mem_subnodes_iff.mp hk
  obtain ⟨q, hq⟩ := mem_subnodes_iff.mp hm
  refine mem_subnodes_iff.mpr ⟨p ++ q, ?_⟩
  rw [atPath?_append, hp]
  exact hq

/-- In a tree whose nodes have different identities, different paths lead to different nodes. -/
theorem path_eq_of_id_eq {n m m' : Node} {p q : List Nat} (nodup : (n.subnodes.map id).Nodup)
    (hp : n.atPath? p = some m) (hq : n.atPath? q = some m') (same : m.id = m'.id) : p = q := by
  have visited := mem_walk_of_atPath? [] hp
  have visited' := mem_walk_of_atPath? [] hq
  rw [subnodes, List.map_map] at nodup
  have entry := List.inj_on_of_nodup_map nodup visited visited' same
  simpa using congrArg Prod.fst entry

end Node

/-! ### The links -/

mutual

/-- The entries that the construction of a tree writes, the newest first. -/
def Node.links : Node → List (Nat × Option Node)
  | .mk id type cs span =>
    (cs.filterMap Child.node?).map (fun c => (c.id, some (.mk id type cs span)))
      ++ Child.linksList cs

/-- The entries of a list of children, which are constructed from the first on. -/
def Child.linksList : List Child → List (Nat × Option Node)
  | [] => []
  | c :: cs => Child.linksList cs ++ Child.links c

def Child.links : Child → List (Nat × Option Node)
  | .node n => Node.links n
  | _ => []

end

mutual

/-- Every node of a tree is written as the parent of the nodes among its children. -/
theorem Node.mem_links {m c : Node} (hc : .node c ∈ m.children) :
    ∀ n : Node, m ∈ n.subnodes → (c.id, some m) ∈ n.links
  | .mk id type cs span, h => by
    rw [Node.subnodes_eq, List.mem_cons] at h
    rw [Node.links, List.mem_append]
    rcases h with rfl | h
    · refine .inl (List.mem_map.mpr ⟨c, ?_, rfl⟩)
      exact List.mem_filterMap.mpr ⟨.node c, hc, rfl⟩
    · exact .inr (Child.mem_linksList hc cs h)

theorem Child.mem_linksList {m c : Node} (hc : .node c ∈ m.children) :
    ∀ cs : List Child, m ∈ cs.flatMap Child.subnodes → (c.id, some m) ∈ Child.linksList cs
  | [], h => by simp at h
  | d :: cs, h => by
    rw [List.flatMap_cons, List.mem_append] at h
    rw [Child.linksList, List.mem_append]
    rcases h with h | h
    · exact .inr (Child.mem_links hc d h)
    · exact .inl (Child.mem_linksList hc cs h)

theorem Child.mem_links {m c : Node} (hc : .node c ∈ m.children) :
    ∀ d : Child, m ∈ d.subnodes → (c.id, some m) ∈ d.links
  | .node n, h => by
    rw [Child.links]
    exact Node.mem_links hc n h
  | .nil, h | .sym _, h | .str _, h | .int _, h | .float _, h | .bool _, h => by
    simp [Child.subnodes] at h

end

mutual

/-- A tree writes the parents of its nodes except the root, once for each place of a node. -/
theorem Node.perm_links :
    ∀ n : Node, (n.subnodes.map Node.id).Perm (n.id :: n.links.map Prod.fst)
  | .mk id type cs span => by
    rw [Node.subnodes_eq, Node.links, List.map_cons, List.map_append, List.map_map]
    exact (Child.perm_linksList cs).cons id

theorem Child.perm_linksList : ∀ cs : List Child,
    ((cs.flatMap Child.subnodes).map Node.id).Perm
      ((cs.filterMap Child.node?).map Node.id ++ (Child.linksList cs).map Prod.fst)
  | [] => .refl _
  | c :: cs => by
    -- The entries of the first child stand behind those of the others, so counts are compared.
    rw [List.perm_iff_count]
    intro a
    have first := (Child.perm_links c).count_eq a
    have others := (Child.perm_linksList cs).count_eq a
    have own : (c :: cs).filterMap Child.node? = c.node?.toList ++ cs.filterMap Child.node? := by
      cases c <;> rfl
    rw [own, Child.linksList]
    simp only [List.flatMap_cons, List.map_append, List.count_append] at first others ⊢
    omega

theorem Child.perm_links : ∀ c : Child,
    (c.subnodes.map Node.id).Perm (c.node?.toList.map Node.id ++ c.links.map Prod.fst)
  | .node n => by
    rw [Child.links]
    exact Node.perm_links n
  | .nil | .sym _ | .str _ | .int _ | .float _ | .bool _ => .refl _

end

namespace Node

/-- A tree writes parents for its own nodes only. -/
theorem exists_of_mem_links {n : Node} {e : Nat × Option Node} (h : e ∈ n.links) :
    ∃ m ∈ n.subnodes, m.id = e.1 := by
  have key : e.1 ∈ n.id :: n.links.map Prod.fst :=
    List.mem_cons_of_mem _ (List.mem_map_of_mem h)
  exact List.mem_map.mp (n.perm_links.mem_iff.mpr key)

end Node

end RubyTree
