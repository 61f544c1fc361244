/-
Reachable stores.

`Store.Act` is one operation on a store with its events: a node is constructed from nodes that are
reached, a document is read, a node that is reached is bound to a name, a name is dropped, a parent
is written, or a buffer is made. `Store.Step` is an operation without its events, and
`Store.Reachable` is the stores that any number of them lead to from the empty one.

In a reachable store the next identity is free (`Reachable.fresh`): no node that is reached has it
or a later one, and no parent is written for such a node.
-/

import RubyTree.Proofs.Document.Growth
import RubyTree.Store

namespace RubyTree.Store

/-- A node is reached from a held one through children. -/
def Reaches (s : Store) (n : Node) : Prop :=
  ∃ h ∈ s.handles, n ∈ h.2.subnodes

theorem isLive_of_reaches {s : Store} {n : Node} (h : s.Reaches n) : s.isLive n = true := by
  obtain ⟨handle, held, hn⟩ := h
  exact List.any_eq_true.mpr ⟨handle, held, List.any_eq_true.mpr ⟨n, hn, Node.same_iff.mpr rfl⟩⟩

theorem Reaches.below {s : Store} {n m : Node} (h : s.Reaches n) (hm : m ∈ n.subnodes) :
    s.Reaches m := by
  obtain ⟨handle, held, hn⟩ := h
  exact ⟨handle, held, Node.mem_subnodes_trans hn hm⟩

/-- Dropping a name reaches nothing new. -/
theorem Reaches.of_drop {s : Store} {name : String} {n : Node} (h : (s.drop name).Reaches n) :
    s.Reaches n := by
  obtain ⟨handle, held, hn⟩ := h
  exact ⟨handle, List.mem_of_mem_filter held, hn⟩

/-- Binding a node reaches what is at and below it and what was reached before. -/
theorem Reaches.of_bind {s : Store} {name : String} {n m : Node} (h : (s.bind name n).Reaches m) :
    m ∈ n.subnodes ∨ s.Reaches m := by
  obtain ⟨handle, held, hm⟩ := h
  rcases List.mem_cons.mp held with rfl | held
  · exact .inl hm
  · exact .inr (Reaches.of_drop ⟨handle, held, hm⟩)

/-- Constructing a node from nodes that are reached reaches nothing new but the node. -/
theorem Reaches.of_construct {s : Store} {name : String} {type : NodeType} {children : List Child}
    {span : Option Span} {m : Node} (h : (s.construct name type children span).2.Reaches m)
    (hc : ∀ n, .node n ∈ children → s.Reaches n) :
    m = (s.construct name type children span).1 ∨ s.Reaches m := by
  rcases h.of_bind with hm | hm
  · rw [Node.subnodes_eq, List.mem_cons, List.mem_flatMap] at hm
    rcases hm with rfl | ⟨c, hmem, hm⟩
    · exact .inl rfl
    · cases c with
      | node k => exact .inr ((hc k hmem).below hm)
      | _ => cases hm
  · exact .inr hm

/-! ### Operations -/

/-- What an operation does to nodes and their parents. -/
inductive Event where
  /-- A node is constructed, and becomes the parent of the nodes among its children. -/
  | constructed (n : Node)
  /-- The parent of a node is written. -/
  | parentSet (n : Node) (parent : Option Node)

/-- One operation on a store with its events, the newest first. The nodes that it is given are
reached. -/
inductive Act (s : Store) : List Event → Store → Prop where
  | construct (name : String) (type : NodeType) {children : List Child} (span : Option Span)
      (h : ∀ n, .node n ∈ children → s.Reaches n) :
      Act s [.constructed (s.construct name type children span).1]
        (s.construct name type children span).2
  | read (name : String) {v : Json} {source : Option Buffer} {root : Node} {b : Document.Builder}
      (h : Document.build v source s.forest = (.ok root, b)) :
      Act s (root.constructions.map .constructed) ({ s with forest := b.forest }.bind name root)
  | bind (name : String) {n : Node} (h : s.Reaches n) : Act s [] (s.bind name n)
  | drop (name : String) : Act s [] (s.drop name)
  | setParent {n : Node} {parent : Option Node} (hn : s.Reaches n)
      (hp : ∀ p, parent = some p → s.Reaches p) :
      Act s [.parentSet n parent] (s.setParent n parent)
  | buffer (text : String) : Act s [] (s.buffer text).2

/-- One operation on a store, whatever its events are. -/
def Step (s s' : Store) : Prop :=
  ∃ es, Act s es s'

/-- The stores that operations lead to from the empty one. -/
inductive Reachable : Store → Prop where
  | empty : Reachable Store.empty
  | step {s s' : Store} (h : Reachable s) (hs : Step s s') : Reachable s'

/-- A text that is read holds a value that a tree is built from. -/
theorem build_of_readText {text : String} {source : Option Buffer} {f f' : Forest} {root : Node}
    (h : (Document.readText text source f).1 = .ok (root, f')) :
    ∃ v b, Document.build v source f = (.ok root, b) ∧ b.forest = f' := by
  unfold Document.readText at h
  split at h
  · cases h
  · rename_i v _
    rcases hb : Document.build v source f with ⟨fault | n, b⟩ <;> rw [hb] at h
    · cases h
    · cases h
      exact ⟨v, b, hb, rfl⟩

/-- Reading a text is making a buffer for its source, if there is one, and reading a document. -/
theorem Reachable.load {s s' : Store} {name text : String} {source : Option String} {root : Node}
    (h : s.Reachable) (hload : s.load name text source = .ok (root, s')) : s'.Reachable := by
  have read : ∀ {t : Store} {buffer : Option Buffer} {n : Node} {f : Forest}, t.Reachable →
      (Document.readText text buffer t.forest).1 = .ok (n, f) →
        Reachable ({ t with forest := f }.bind name n) := by
    intro t buffer n f ht hread
    obtain ⟨v, b, hb, rfl⟩ := build_of_readText hread
    exact ht.step ⟨_, .read name hb⟩
  unfold Store.load at hload
  cases source with
  | none =>
    simp only at hload
    split at hload
    · cases hload
    · rename_i n f hread
      cases hload
      exact read h hread
  | some sourceText =>
    simp only at hload
    split at hload
    · cases hload
    · rename_i n f hread
      cases hload
      exact read (h.step ⟨_, .buffer sourceText⟩) hread

/-! ### Fresh identities -/

/-- The identities that are not given yet are free. -/
structure Fresh (s : Store) : Prop where
  reached : ∀ n, s.Reaches n → n.id < s.forest.next
  written : ∀ e ∈ s.forest.parents, e.1 < s.forest.next

/-- Construction gives an identity away and keeps those above it free. -/
theorem fresh_construct {s : Store} {name : String} {type : NodeType} {children : List Child}
    {span : Option Span} (h : s.Fresh) (hc : ∀ n, .node n ∈ children → s.Reaches n) :
    (s.construct name type children span).2.Fresh where
  reached := by
    intro m hm
    rcases hm.of_construct hc with rfl | hm
    · exact Nat.lt_succ_self _
    · exact Nat.lt_succ_of_lt (h.reached m hm)
  written := by
    intro e he
    refine Nat.lt_succ_of_lt ?_
    rcases List.mem_append.mp he with he | he
    · obtain ⟨k, hk, rfl⟩ := List.mem_map.mp he
      obtain ⟨c, hmem, hk⟩ := List.mem_filterMap.mp hk
      cases c with
      | node n =>
        obtain rfl : n = k := Option.some.inj hk
        exact h.reached n (hc n hmem)
      | _ => cases hk
    · exact h.written e he

/-- Reading a document into a store gives the nodes of its tree identities that were free. -/
theorem fresh_read {s : Store} {name : String} {v : Json} {source : Option Buffer} {root : Node}
    {b : Document.Builder} (h : s.Fresh)
    (hb : Document.build v source s.forest = (.ok root, b)) :
    Fresh ({ s with forest := b.forest }.bind name root) := by
  have grows := Document.grows_of_build hb
  have later : s.forest.next ≤ b.forest.next := by
    rw [grows.next]
    exact Nat.le_add_right _ _
  refine ⟨?reached, ?written⟩
  case reached =>
    intro m hm
    rcases hm.of_bind with hm | hm
    · exact (grows.mem_ids hm).2
    · exact Nat.lt_of_lt_of_le (h.reached m hm) later
  case written =>
    intro e he
    change e ∈ b.forest.parents at he
    rw [grows.parents, List.mem_append] at he
    rcases he with he | he
    · obtain ⟨m, hm, hid⟩ := Node.exists_of_mem_links he
      rw [← hid]
      exact (grows.mem_ids hm).2
    · exact Nat.lt_of_lt_of_le (h.written e he) later

/-- Every operation keeps the free identities free. -/
theorem Step.fresh {s s' : Store} (hs : Step s s') (h : s.Fresh) : s'.Fresh := by
  obtain ⟨es, ha⟩ := hs
  cases ha with
  | construct name type span hc => exact fresh_construct h hc
  | read name hb => exact fresh_read h hb
  | @bind name n hn =>
    refine ⟨fun m hm => ?_, h.written⟩
    rcases hm.of_bind with hm | hm
    · exact h.reached m (hn.below hm)
    · exact h.reached m hm
  | drop name => exact ⟨fun m hm => h.reached m hm.of_drop, h.written⟩
  | setParent hn _ =>
    refine ⟨h.reached, fun e he => ?_⟩
    rcases List.mem_cons.mp he with rfl | he
    · exact h.reached _ hn
    · exact h.written e he
  | buffer text => exact ⟨h.reached, h.written⟩

/-- In a store that operations lead to, the identities not given yet are free. -/
theorem Reachable.fresh {s : Store} (h : s.Reachable) : s.Fresh := by
  induction h with
  | empty =>
    refine ⟨?_, fun e he => absurd he List.not_mem_nil⟩
    rintro n ⟨handle, held, -⟩
    exact absurd held List.not_mem_nil
  | step _ hs ih => exact hs.fresh ih

end RubyTree.Store
