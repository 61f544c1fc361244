/-
Parents along a run.

The parent of a node is the one written last, by a construction or on its own, as long as it is
reached (`Records.parent?_eq_some_iff`). Parents do not keep nodes, so writing one changes nothing
that a node shows of itself and no other node's parent (`setParent_differs`), and the children of a
store never lead in a circle (`Records.not_childOf_cycle`).

As long as no parent is written on its own, the parent of a node has it among its children and was
constructed after it (`Records.mem_children_of_parent?`). The way up from a node, `Store.Climbs`,
then goes through ever later constructions and ends (`ancestors_ascend`, `ancestors_end`).
-/

import Mathlib.Logic.Relation
import RubyTree.Literal
import RubyTree.Outline
import RubyTree.Proofs.Store.History

namespace RubyTree.Store

/-- The node under a name is reached. -/
theorem reaches_of_node? {s : Store} (name : String) {n : Node} (h : s.node? name = some n) :
    s.Reaches n := by
  obtain ⟨before, after, split, -⟩ := List.lookup_eq_some_iff.mp h
  refine ⟨(name, n), ?_, n.self_mem_subnodes⟩
  rw [split]
  exact List.mem_append_right _ List.mem_cons_self

/-! ### The last write -/

namespace Records

variable {h : List Event} {s : Store}

/-- Whatever was written last was constructed. -/
theorem constructed_of_lastWrite? (r : Records h s) {n p : Node}
    (written : lastWrite? h n = some (some p)) : .constructed p ∈ h := by
  obtain ⟨e, he, write⟩ := List.exists_of_findSome?_eq_some written
  rcases Event.write?_eq_some_iff.mp write with ⟨m, rfl, -, hm⟩ | ⟨k, rfl, -⟩
  · cases hm
    exact he
  · exact r.targets k p he

/-- The parent of a node is the one written last, while it is reached. -/
theorem parent?_eq_some_iff (r : Records h s) {n p : Node} :
    s.parent? n = some p ↔ lastWrite? h n = some (some p) ∧ s.Reaches p := by
  rw [parent?, Option.filter_eq_some_iff, Forest.lastParent?, r.parents, Option.join_eq_some_iff]
  constructor
  · rintro ⟨written, live⟩
    exact ⟨written, (r.isLive_iff (r.constructed_of_lastWrite? written)).mp live⟩
  · rintro ⟨written, reached⟩
    exact ⟨written, isLive_of_reaches reached⟩

end Records

/-! ### The child relation -/

/-- The child relation of a store, on identities: a node that is reached has the second one, and a
node among its children the first. -/
def ChildOf (s : Store) (i j : Nat) : Prop :=
  ∃ p c, s.Reaches p ∧ .node c ∈ p.children ∧ c.id = i ∧ p.id = j

theorem Reaches.child {s : Store} {p c : Node} (hp : s.Reaches p) (hc : .node c ∈ p.children) :
    s.Reaches c := by
  refine hp.below ?_
  rw [Node.subnodes_eq]
  refine List.mem_cons_of_mem _ (List.mem_flatMap.mpr ⟨.node c, hc, c.self_mem_subnodes⟩)

/-- The children of a node were constructed before it, so no way down comes back. -/
theorem Records.not_childOf_cycle {h : List Event} {s : Store} (r : Records h s) (i : Nat) :
    ¬ Relation.TransGen s.ChildOf i i := by
  have later : ∀ i j, Relation.TransGen s.ChildOf i j → i < j := by
    intro i j path
    have step : ∀ i j, s.ChildOf i j → i < j := by
      rintro _ _ ⟨p, c, hp, hc, rfl, rfl⟩
      exact r.id_lt (r.children p c (r.reached p hp) hc)
    induction path with
    | single first => exact step _ _ first
    | tail _ last ih => exact Nat.lt_trans ih (step _ _ last)
  intro cycle
  exact Nat.lt_irrefl i (later i i cycle)

/-! ### Writing a parent -/

/-- A store differs from another at most in the parent of one node. -/
structure DiffersAtParent (s' s : Store) (n : Node) : Prop where
  /-- The same nodes are live. -/
  live : ∀ m, s'.Reaches m ↔ s.Reaches m
  /-- A node has the same type, children, span, s-expression, outline and value in both. -/
  nodes : ∀ m m', s.Reaches m → s'.Reaches m' → m'.same m = true →
    m'.type = m.type ∧ m'.children = m.children ∧ m'.span = m.span ∧ m'.sexp = m.sexp ∧
      m'.outline = m.outline ∧ m'.literal = m.literal
  /-- All other nodes have the same parent and the same siblings in both. -/
  others : ∀ m, m.same n = false → s'.parent? m = s.parent? m ∧ s'.siblings? m = s.siblings? m

/-- Writing a parent leaves the parents of other nodes. -/
theorem parent?_setParent {s : Store} {n m : Node} (parent : Option Node)
    (other : m.same n = false) : (s.setParent n parent).parent? m = s.parent? m := by
  have skip : ((n.id, parent) :: s.forest.parents).lookup m.id = s.forest.parents.lookup m.id := by
    rw [List.lookup_cons, show (m.id == n.id) = false from other]
  show ((((n.id, parent) :: s.forest.parents).lookup m.id).join).filter s.isLive = _
  rw [skip]
  rfl

/-- Writing a parent changes one slot of the store and nothing else. -/
theorem setParent_differs {h : List Event} {s : Store} (r : Records h s) (n : Node)
    (parent : Option Node) : (s.setParent n parent).DiffersAtParent s n where
  live _ := Iff.rfl
  nodes m m' hm hm' same := by
    obtain rfl := r.eq_of_same (r.reached m' hm') (r.reached m hm) same
    exact ⟨rfl, rfl, rfl, rfl, rfl, rfl⟩
  others m other := by
    have kept := parent?_setParent (s := s) parent other
    exact ⟨kept, by rw [siblings?, siblings?, kept]⟩

/-- **Parents along a run.** After any run, the parent of a live node is the one written last, if
that is still live. Every child was constructed before its parent, so the child relation has no
cycle. And writing a parent changes nothing but the parent of that node. -/
theorem Run.parents_follow_history {h : List Event} {s : Store} (run : Run h s) :
    (∀ n p, s.Reaches n →
        (s.parent? n = some p ↔ lastWrite? h n = some (some p) ∧ s.Reaches p)) ∧
      (∀ p c, s.Reaches p → .node c ∈ p.children → s.Reaches c ∧ ConstructedBefore h c p) ∧
        (∀ i, ¬ Relation.TransGen s.ChildOf i i) ∧
          ∀ n parent, (s.setParent n parent).DiffersAtParent s n := by
  have r := run.records
  refine ⟨fun n p _ => r.parent?_eq_some_iff, ?_, r.not_childOf_cycle, setParent_differs r⟩
  intro p c hp hc
  exact ⟨hp.child hc, r.children p c (r.reached p hp) hc⟩

/-- A node that stands twice below a parent and is then made its own parent. -/
theorem own_parent_acyclic :
    let a : Node := .mk 0 .lvar [.sym "a"] none
    let p : Node := .mk 1 .arrayLit [.node a, .node a] none
    let leaf := (Store.empty.construct "a" .lvar [.sym "a"] none).2
    let s := (leaf.construct "p" .arrayLit [.node a, .node a] none).2.setParent a (some a)
    let h : List Event := [.parentSet a (some a), .constructed p, .constructed a]
    Run h s ∧ s.Reaches a ∧ s.parent? a = some a ∧ ¬ Relation.TransGen s.ChildOf 0 0 := by
  intro a p leaf s h
  have held : s.Reaches a := reaches_of_node? "a" rfl
  have run : Run h s := by
    refine ((Run.empty.act (.construct "a" .lvar none fun n hn => ?_)).act
      (.construct "p" .arrayLit none fun n hn => ?_)).act (.setParent held fun n hn => ?_)
    · simp at hn
    · obtain rfl : a = n := by simpa [a, eq_comm] using hn
      exact reaches_of_node? "a" rfl
    · cases hn
      exact held
  obtain ⟨parents, -, acyclic, -⟩ := run.parents_follow_history
  exact ⟨run, held, (parents a a held).mpr ⟨rfl, held⟩, acyclic 0⟩

/-! ### The way up -/

/-- The way up from a node through its parents. -/
structure Climbs (h : List Event) (s : Store) (n : Node) : Prop where
  /-- The parent has the node among its children and was constructed after it. -/
  parent : ∀ p, s.parent? n = some p → .node n ∈ p.children ∧ ConstructedBefore h n p
  /-- The way up meets no node twice. -/
  distinct : ∀ limit, ((n :: s.ancestors limit n).map Node.id).Nodup
  /-- The way up ends at a node without a parent, after at most as many steps as there are nodes. -/
  ends : ∀ limit, s.forest.next ≤ limit →
    ∃ top, (n :: s.ancestors limit n).getLast? = some top ∧ s.parent? top = none
  /-- A node has siblings exactly when it has a parent. -/
  siblings : (s.siblings? n).isSome = true ↔ (s.parent? n).isSome = true
  /-- The siblings are the children of the parent behind the node's first place there. -/
  split : ∀ p cs, s.parent? n = some p → s.siblings? n = some cs →
    ∃ pre, p.children = pre ++ .node n :: cs ∧ ∀ m, .node m ∈ pre → m.same n = false

/-- Without parents written on their own, the parent of a node has the node among its children. -/
theorem Records.mem_children_of_parent? {h : List Event} {s : Store} (r : Records h s)
    (unset : ∀ k parent, .parentSet k parent ∉ h) {n p : Node} (live : s.Reaches n)
    (parent : s.parent? n = some p) :
    .node n ∈ p.children ∧ ConstructedBefore h n p := by
  obtain ⟨written, hp⟩ := r.parent?_eq_some_iff.mp parent
  obtain ⟨e, he, write⟩ := List.exists_of_findSome?_eq_some written
  have lists : p.lists n = true := by
    rcases Event.write?_eq_some_iff.mp write with ⟨m, rfl, lists, hm⟩ | ⟨k, rfl, -⟩
    · cases hm
      exact lists
    · exact absurd he (unset k _)
  -- the parent lists the node by identity only; both are constructed, so they are equal
  obtain ⟨k, hk, same⟩ := Node.lists_iff.mp lists
  have hkn : k = n := r.eq_of_same (r.reached k (hp.child hk)) (r.reached n live) same
  rw [hkn] at hk
  exact ⟨hk, r.children p n (r.reached p hp) hk⟩

section Climbing

variable {s : Store} (up : ∀ n p, s.Reaches n → s.parent? n = some p → s.Reaches p ∧ n.id < p.id)

include up

/-- When parents are later nodes, the way up goes through ever later ones. -/
theorem ancestors_ascend (limit : Nat) {n : Node} (live : s.Reaches n) :
    (n :: s.ancestors limit n).Pairwise (fun a b => a.id < b.id) := by
  induction limit generalizing n with
  | zero => exact List.pairwise_singleton _ n
  | succ limit ih =>
    rw [ancestors]
    cases parent : s.parent? n with
    | none => exact List.pairwise_singleton _ n
    | some p =>
      obtain ⟨hp, lt⟩ := up n p live parent
      have above := ih hp
      refine List.pairwise_cons.mpr ⟨fun a ha => ?_, above⟩
      rcases List.mem_cons.mp ha with rfl | ha
      · exact lt
      · exact Nat.lt_trans lt ((List.pairwise_cons.mp above).1 a ha)

/-- When parents are later nodes, the way up ends before the nodes are used up. -/
theorem ancestors_end (bound : ∀ n, s.Reaches n → n.id < s.forest.next) (limit : Nat) {n : Node}
    (live : s.Reaches n) (enough : s.forest.next ≤ n.id + limit) :
    ∃ top, (n :: s.ancestors limit n).getLast? = some top ∧ s.parent? top = none := by
  -- each step up raises the identity, which stays below the next free one
  induction limit generalizing n with
  | zero =>
    have := bound n live
    omega
  | succ limit ih =>
    rw [ancestors]
    cases parent : s.parent? n with
    | none => exact ⟨n, rfl, parent⟩
    | some p =>
      obtain ⟨hp, lt⟩ := up n p live parent
      obtain ⟨top, last, root⟩ := ih hp (by omega)
      exact ⟨top, by rw [List.getLast?_cons_cons, last], root⟩

end Climbing

/-! ### Siblings -/

/-- The children behind a node are those behind its first place. -/
theorem split_of_after? {n : Node} {cs rest : List Child} (h : after? n cs = some rest) :
    ∃ pre m, cs = pre ++ .node m :: rest ∧ m.same n = true ∧
      ∀ k, .node k ∈ pre → k.same n = false := by
  fun_induction after? n cs with
  | case1 => cases h
  | case2 m cs same =>
    cases h
    exact ⟨[], m, rfl, same, fun k hk => absurd hk List.not_mem_nil⟩
  | case3 m cs other ih =>
    obtain ⟨pre, k, rfl, same, before⟩ := ih h
    refine ⟨.node m :: pre, k, rfl, same, fun j hj => ?_⟩
    rcases List.mem_cons.mp hj with hj | hj
    · cases hj
      exact Bool.eq_false_iff.mpr other
    · exact before j hj
  | case4 c cs scalar ih =>
    obtain ⟨pre, k, rfl, same, before⟩ := ih h
    refine ⟨c :: pre, k, rfl, same, fun j hj => ?_⟩
    rcases List.mem_cons.mp hj with hj | hj
    · exact absurd hj.symm (scalar j)
    · exact before j hj

/-- The children behind a node are found, be there any or none, wherever the node stands. -/
theorem isSome_after?_of_mem {n : Node} {cs : List Child} (h : .node n ∈ cs) :
    (after? n cs).isSome = true := by
  fun_induction after? n cs with
  | case1 => cases h
  | case2 => rfl
  | case3 m cs other ih =>
    rcases List.mem_cons.mp h with h | h
    · cases h
      exact absurd (Node.same_iff.mpr rfl) other
    · exact ih h
  | case4 c cs scalar ih =>
    rcases List.mem_cons.mp h with h | h
    · exact absurd h.symm (scalar n)
    · exact ih h

/-- **The way up without parents written on their own.** After any run without such writes, however
nodes are shared and dropped, the parent of a live node has it among its children and was
constructed after it; the way up meets no node twice and ends; and the siblings of a node are there
exactly when its parent is, and stand behind its first place among the parent's children. -/
theorem Run.climbs {h : List Event} {s : Store} (run : Run h s)
    (unset : ∀ k parent, .parentSet k parent ∉ h) {n : Node} (live : s.Reaches n) :
    Climbs h s n := by
  have r := run.records
  have up : ∀ n p, s.Reaches n → s.parent? n = some p → s.Reaches p ∧ n.id < p.id := by
    intro n p hn parent
    have above := r.mem_children_of_parent? unset hn parent
    exact ⟨(r.parent?_eq_some_iff.mp parent).2, r.id_lt above.2⟩
  refine ⟨fun p => r.mem_children_of_parent? unset live, ?distinct, ?ends, ?siblings, ?split⟩
  case distinct =>
    intro limit
    have ascend := ancestors_ascend up limit live
    exact List.pairwise_map.mpr (ascend.imp Nat.ne_of_lt)
  case ends =>
    intro limit enough
    have fresh := (reachable_iff_exists_run.mpr ⟨h, run⟩).fresh
    exact ancestors_end up fresh.reached limit live (Nat.le_add_left_of_le enough)
  case siblings =>
    rw [siblings?]
    cases parent : s.parent? n with
    | none => rfl
    | some p =>
      have member := (r.mem_children_of_parent? unset live parent).1
      exact iff_of_true (isSome_after?_of_mem member) rfl
  case split =>
    intro p cs parent siblings
    rw [siblings?, parent] at siblings
    obtain ⟨pre, m, split, same, before⟩ := split_of_after? siblings
    have hm : .node m ∈ p.children := by
      rw [split]
      exact List.mem_append_right _ List.mem_cons_self
    have hp := (up n p live parent).1
    have hmn : m = n := r.eq_of_same (r.reached m (hp.child hm)) (r.reached n live) same
    rw [hmn] at split
    exact ⟨pre, split, before⟩

/-- A node that two parents share, and that the later one has twice, climbs to the later one. -/
theorem shared_node_climbs :
    let a : Node := .mk 0 .lvar [.sym "a"] none
    let p : Node := .mk 1 .arrayLit [.node a] none
    let q : Node := .mk 2 .arrayLit [.nil, .node a, .node a] none
    let leaf := (Store.empty.construct "a" .lvar [.sym "a"] none).2
    let s := ((leaf.construct "p" .arrayLit [.node a] none).2.construct "q" .arrayLit
      [.nil, .node a, .node a] none).2
    let h : List Event := [.constructed q, .constructed p, .constructed a]
    Run h s ∧ (∀ k parent, .parentSet k parent ∉ h) ∧ s.Reaches a ∧ s.parent? a = some q ∧
      Climbs h s a := by
  intro a p q leaf s h
  have held : s.Reaches a := reaches_of_node? "a" rfl
  have run : Run h s := by
    refine ((Run.empty.act (.construct "a" .lvar none fun n hn => ?_)).act
      (.construct "p" .arrayLit none fun n hn => ?_)).act
        (.construct "q" .arrayLit none fun n hn => ?_)
    · simp at hn
    · obtain rfl : a = n := by simpa [a, eq_comm] using hn
      exact reaches_of_node? "a" rfl
    · obtain rfl : a = n := by simpa [a, eq_comm] using hn
      exact reaches_of_node? "a" rfl
  have unset : ∀ k parent, .parentSet k parent ∉ h := by
    intro k parent hk
    simp [h] at hk
  exact ⟨run, unset, held, rfl, run.climbs unset held⟩

end RubyTree.Store
