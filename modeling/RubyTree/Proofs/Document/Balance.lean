/-
What a reading leaves in its state.

While it runs, a reading moves the place, and it counts the nodes it builds. It gives the source and
the place back as they were, however it ends (`keeps_readers`). What it adds to the count is said
here without mentioning the reading: the nodes of the tree it returns, or, when it ends in a fault,
those of the trees it has passed. `Passed source v path ts` says that `ts` are the trees in front of
the way along `path` through the value `v`: at each step of the way, those that the items before the
step's own denote. The nodes on the way still wait for their other children and are not among them.

* `readers_count` — a reading that succeeds builds the nodes of what it returns.
* `readers_count_passed` — one that ends in a fault has built those of the trees it has passed.
-/

import RubyTree.Document.Load
import RubyTree.Proofs.Document.FirstFault
import RubyTree.Proofs.Node.Links

namespace RubyTree

/-! ### The number of nodes -/

mutual

/-- The number of nodes of a plain tree; a scalar has none. -/
def Plain.size : Plain → Nat
  | .node _ children _ => Plain.sizes children + 1
  | _ => 0

def Plain.sizes : List Plain → Nat
  | [] => 0
  | t :: ts => Plain.size t + Plain.sizes ts

end

def Child.size (c : Child) : Nat :=
  c.subnodes.length

mutual

theorem Node.size_plain : ∀ n : Node, n.plain.size = n.size
  | .mk id type cs span => by
    rw [Node.size, Node.subnodes_eq, List.length_cons, Node.plain, Plain.size]
    exact congrArg (· + 1) (Child.sizes_plains cs)

theorem Child.sizes_plains :
    ∀ cs : List Child, Plain.sizes (Child.plains cs) = (cs.flatMap Child.subnodes).length
  | [] => rfl
  | c :: cs => by
    rw [Child.plains, Plain.sizes, List.flatMap_cons, List.length_append, Child.size_plain c,
      Child.sizes_plains cs, Child.size]

theorem Child.size_plain : ∀ c : Child, c.plain.size = c.size
  | .node n => by
    rw [Child.plain]
    exact Node.size_plain n
  | .nil | .sym _ | .str _ | .int _ | .float _ | .bool _ => rfl

end

namespace Document

/-! ### The trees in front of a way -/

/-- The trees that the reading of a value has passed when it comes to the end of a path: those that
the items in front of each step denote. -/
inductive Passed (source : Option Buffer) : Json → List Nat → List Plain → Prop where
  | here (v : Json) : Passed source v [] []
  | step {v u : Json} {type : NodeType} {span : Option Span} {items : List Json} {i : Nat}
      {path : List Nat} {before within : List Plain}
      (head : DenotesHead source v type span items) (item : items[i]? = some u)
      (earlier : DenotesChildren source type (items.take i) before)
      (rest : Passed source u path within) : Passed source v (i :: path) (before ++ within)

/-- A way has one list of trees in front of it. -/
theorem Passed.unique {source : Option Buffer} {v : Json} {path : List Nat} {ts us : List Plain}
    (h : Passed source v path ts) (h' : Passed source v path us) : us = ts := by
  induction h generalizing us with
  | here v =>
    cases h'
    rfl
  | step head item earlier _ ih =>
    cases h' with
    | step head' item' earlier' rest' =>
      obtain rfl := head.type_unique head'
      obtain rfl := head.slots_eq.symm.trans head'.slots_eq
      obtain rfl := Option.some.inj (item.symm.trans item')
      rw [earlier'.unique earlier, ih rest']

/-! ### What a reading adds to the count -/

/-- What is left of the reading of a node when its own checks are done: its children, and then its
construction. -/
def readBody (type : NodeType) (items : List Json) (span : Option Span) : Build Node := do
  let children ← readChildren type 0 items
  construct type children span

/-- The reading of a node is its own checks and then its body. -/
theorem readNode_eq (v : Json) :
    readNode v = readHead v >>= fun head => readBody head.1 (slots v) head.2 := by
  rw [readNode]
  rfl

/-- A reading that succeeds builds the nodes of what it returns. -/
theorem readers_count :
    (∀ v, ∀ {b n b'}, Yields (readNode v) b n b' → b'.nodes = b.nodes + n.plain.size) ∧
      (∀ parent i vs, ∀ {b cs b'}, Yields (readChildren parent i vs) b cs b' →
        b'.nodes = b.nodes + Plain.sizes (Child.plains cs)) ∧
      (∀ parent v, ∀ {b c b'}, Yields (readChild parent v) b c b' →
        b'.nodes = b.nodes + c.plain.size) := by
  refine ReadingCases.all ⟨?node, ?nil, ?cons, ?child⟩
  case node =>
    intro v ih b n b' h
    obtain ⟨type, span, children, items, c, head, hc, hn⟩ := yields_readNode_iff.mp h
    obtain ⟨rfl, rfl⟩ := yields_construct_iff.mp hn
    rw [← head.slots_eq] at hc
    exact congrArg (· + 1) (ih type hc)
  case nil =>
    intro parent i b cs b' h
    obtain ⟨rfl, rfl⟩ := yields_readChildren_nil_iff.mp h
    rfl
  case cons =>
    intro parent i v rest first others b cs b' h
    obtain ⟨c, cs, d, hc, hcs, rfl⟩ := yields_readChildren_cons_iff.mp h
    obtain ⟨e, he, rfl⟩ := yields_atIndex_iff.mp hc
    have earlier : e.nodes = b.nodes + c.plain.size := (first he :)
    have later : b'.nodes = e.nodes + Plain.sizes (Child.plains cs) := (others hcs :)
    rw [later, earlier, Child.plains, Plain.sizes, Nat.add_assoc]
  case child =>
    intro parent v ih b c b' h
    cases shape : isNodeShaped v with
    | true =>
      obtain ⟨n, hn, rfl⟩ := (yields_readChild_node_iff shape).mp h
      exact ih shape hn
    | false =>
      rw [readChild, if_neg (by simp [shape])] at h
      obtain ⟨denoted, rfl⟩ := readScalar_sound h shape
      cases c with
      | node n =>
        cases n
        cases denoted
      | _ => rfl

/-- A reading that ends in a fault has built the nodes of the trees in front of the way to it. -/
theorem readers_count_passed :
    (∀ v, ∀ b fault, Stops (readNode v) b fault → ∃ p ts, fault.path = b.path.reverse ++ p ∧
        Passed b.source v p ts ∧ (outcome (readNode v) b).2.nodes = b.nodes + Plain.sizes ts) ∧
      (∀ parent i vs, ∀ b fault, Stops (readChildren parent i vs) b fault →
        ∃ j u p before within, fault.path = b.path.reverse ++ (i + j) :: p ∧ vs[j]? = some u ∧
          DenotesChildren b.source parent (vs.take j) before ∧ Passed b.source u p within ∧
            (outcome (readChildren parent i vs) b).2.nodes =
              b.nodes + Plain.sizes (before ++ within)) ∧
      (∀ parent v, ∀ b fault, Stops (readChild parent v) b fault →
        ∃ p ts, fault.path = b.path.reverse ++ p ∧ Passed b.source v p ts ∧
          (outcome (readChild parent v) b).2.nodes = b.nodes + Plain.sizes ts) := by
  refine ReadingCases.all ⟨?node, ?nil, ?cons, ?child⟩
  case node =>
    intro v ih b fault h
    obtain hhead | ⟨type, span, items, head, hc⟩ := stops_readNode_iff.mp h
    · -- the node's own checks build nothing
      obtain ⟨-, hp⟩ := stops_readHead_iff.mp hhead
      refine ⟨[], [], hp.trans (List.append_nil _).symm, .here v, ?_⟩
      rw [readNode_eq, hhead.outcome_bind, idle_readHead]
      rfl
    · rw [← head.slots_eq] at hc
      obtain ⟨j, u, p, before, within, hp, item, earlier, passed, count⟩ := ih type b fault hc
      rw [head.slots_eq] at item earlier
      refine ⟨j :: p, before ++ within, ?_, .step head item earlier passed, ?_⟩
      · rw [hp, Nat.zero_add]
      · have read : Yields (readHead v) b (type, span) b :=
          yields_readHead_iff.mpr ⟨⟨items, head⟩, rfl⟩
        rw [readNode_eq, read.outcome_bind, readBody, hc.outcome_bind]
        exact count
  case nil =>
    intro parent i b fault h
    rw [readChildren] at h
    exact absurd h not_stops_pure
  case cons =>
    intro parent i v rest first others b fault h
    obtain hv | ⟨c, d, hc, hrest⟩ := stops_readChildren_cons_iff.mp h
    · obtain ⟨p, ts, hp, passed, count⟩ := first _ fault hv
      refine ⟨0, v, p, [], ts, ?_, rfl, .nil, passed, ?_⟩
      · rw [hp, List.reverse_cons, List.append_assoc, List.singleton_append, Nat.add_zero]
      · rw [readChildren, (stops_atIndex_iff.mpr hv).outcome_bind, outcome_atIndex]
        exact count
    · -- the first item is read, so its tree stands in front of the way through the others
      have keeps : Keeps (atIndex i (readChild parent v)) := (keeps_readers.2.2 parent v).atIndex i
      obtain ⟨j, u, p, before, within, hp, item, earlier, passed, count⟩ := others d fault hrest
      rw [hc.source_eq keeps] at earlier passed
      rw [hc.path_eq keeps] at hp
      obtain ⟨e, he, rfl⟩ := yields_atIndex_iff.mp hc
      have denoted : DenotesChild b.source parent v c.plain := (readers_sound.2.2 parent v he :)
      have added : e.nodes = b.nodes + c.plain.size := (readers_count.2.2 parent v he :)
      refine ⟨j + 1, u, p, c.plain :: before, within, ?_, item, ?_, passed, ?_⟩
      · rw [hp, Nat.add_right_comm, Nat.add_assoc]
      · rw [List.take_succ_cons]
        exact .cons denoted earlier
      · rw [readChildren, hc.outcome_bind, hrest.outcome_bind, List.cons_append, Plain.sizes,
          ← Nat.add_assoc, ← added]
        exact count
  case child =>
    intro parent v ih b fault h
    cases shape : isNodeShaped v with
    | true =>
      have hn : Stops (readNode v) b fault := (stops_readChild_iff shape).mp h
      obtain ⟨p, ts, hp, passed, count⟩ := ih shape b fault hn
      refine ⟨p, ts, hp, passed, ?_⟩
      rw [readChild, if_pos shape, hn.outcome_bind]
      exact count
    | false =>
      rw [readChild, if_neg (by simp [shape])] at h ⊢
      obtain ⟨-, hp⟩ := (stops_readScalar_iff shape).mp h
      refine ⟨[], [], hp.trans (List.append_nil _).symm, .here v, ?_⟩
      rw [idle_readScalar]
      rfl

/-! ### The account of a step -/

/-- How a step that reads the value `v`, begun in the state `b`, leaves the state. A result has as
many nodes as `size` says, and `FaultAt` says what is wrong with which value below `v`. -/
structure Balanced {α : Type} (x : Build α) (b : Builder) (size : α → Nat) (v : Json)
    (FaultAt : Option Buffer → Json → List Nat → Cause → Prop) : Prop where
  /-- The source is the one that the step began with, also after a fault. -/
  source : (outcome x b).2.source = b.source
  /-- The place is the one where the step began, also after a fault. -/
  path : (outcome x b).2.path = b.path
  /-- A step that succeeds has built the nodes of its result. -/
  result : ∀ a, (outcome x b).1 = .ok a → (outcome x b).2.nodes = b.nodes + size a
  /-- A step that ends in a fault, which is at the first value that is wrong, has built the nodes of
  the trees in front of the way there. There is one list of such trees. -/
  fault : ∀ path cause, (outcome x b).1 = .error ⟨path, cause⟩ →
    ∃ p ts, path = b.path.reverse ++ p ∧ FaultAt b.source v p cause ∧
      (∀ us, Passed b.source v p us ↔ us = ts) ∧
        (outcome x b).2.nodes = b.nodes + Plain.sizes ts

section Balanced

variable {α : Type} {x : Build α} {b : Builder} {size : α → Nat} {v : Json}
  {FaultAt : Option Buffer → Json → List Nat → Cause → Prop}

/-- The way to a fault is told by its path, so where it leads and what is in front of it may be
found apart. -/
theorem Balanced.of_parts (keeps : Keeps x)
    (counts : ∀ {a b'}, Yields x b a b' → b'.nodes = b.nodes + size a)
    (stops : ∀ path cause, Stops x b ⟨path, cause⟩ →
      ∃ p, FaultAt b.source v p cause ∧ path = b.path.reverse ++ p)
    (passed : ∀ fault, Stops x b fault → ∃ p ts, fault.path = b.path.reverse ++ p ∧
      Passed b.source v p ts ∧ (outcome x b).2.nodes = b.nodes + Plain.sizes ts) :
    Balanced x b size v FaultAt where
  source := (keeps b).1
  path := (keeps b).2
  result a h := by
    have run : Yields x b a (outcome x b).2 := Prod.ext h rfl
    exact counts run
  fault path cause h := by
    obtain ⟨p, wrong, hp⟩ := stops path cause h
    obtain ⟨q, ts, hq, inFront, count⟩ := passed ⟨path, cause⟩ h
    obtain rfl : p = q := List.append_cancel_left (hp.symm.trans hq)
    refine ⟨p, ts, hp, wrong, fun us => ⟨inFront.unique, ?_⟩, count⟩
    rintro rfl
    exact inFront

end Balanced

/-- The reading of a node keeps the balance, with the faults of a root. -/
theorem balanced_readNode (v : Json) (b : Builder) :
    Balanced (readNode v) b Node.size v RootFaultAt := by
  refine .of_parts (keeps_readers.1 v) ?_ (fun path cause => (readers_stop.1 v b path cause).mp)
    (readers_count_passed.1 v b)
  intro n b' h
  rw [← n.size_plain]
  exact readers_count.1 v h

/-- The reading of a child keeps the balance, with the faults of a child. -/
theorem balanced_readChild (parent : NodeType) (v : Json) (b : Builder) :
    Balanced (readChild parent v) b Child.size v ChildFaultAt := by
  refine .of_parts (keeps_readers.2.2 parent v) ?_
    (fun path cause => (readers_stop.2.2 parent v b path cause).mp)
    (readers_count_passed.2.2 parent v b)
  intro c b' h
  rw [← c.size_plain]
  exact readers_count.2.2 parent v h

/-- A fault behind a node's own checks is met among its children, as in an array with the node's tag
and items; the span has no part in it. -/
theorem outcome_readBody_of_stops {type : NodeType} {items : List Json} {span : Option Span}
    {b : Builder} {fault : Fault} (h : Stops (readBody type items span) b fault) :
    outcome (readBody type items span) b =
      outcome (readNode (.arr (.str type.tag :: items))) b := by
  have read : Yields (readHead (.arr (.str type.tag :: items))) b (type, none) b :=
    yields_readHead_iff.mpr ⟨⟨items, .array⟩, rfl⟩
  obtain hc | ⟨_, _, -, rest⟩ := stops_bind_iff.mp h
  · rw [readNode_eq, read.outcome_bind, readBody, readBody, slots, hc.outcome_bind,
      hc.outcome_bind]
  · exact absurd rest not_stops_construct

/-- The body of a node keeps the balance like the array that has its items behind its tag. -/
theorem balanced_readBody (type : NodeType) (items : List Json) (span : Option Span)
    (b : Builder) :
    Balanced (readBody type items span) b Node.size (.arr (.str type.tag :: items))
      RootFaultAt := by
  have keeps : Keeps (readBody type items span) :=
    (keeps_readers.2.1 type 0 items).bind fun _ => keeps_construct _ _ _
  refine ⟨(keeps b).1, (keeps b).2, ?_, ?_⟩
  · intro n h
    have run : Yields (readBody type items span) b n (outcome (readBody type items span) b).2 :=
      Prod.ext h rfl
    obtain ⟨children, c, hc, hn⟩ := yields_bind_iff.mp run
    obtain ⟨rfl, built⟩ := yields_construct_iff.mp hn
    rw [built, ← Node.size_plain]
    exact congrArg (· + 1) (readers_count.2.1 type 0 items hc)
  · intro path cause h
    have run := outcome_readBody_of_stops h
    rw [run] at h ⊢
    exact (balanced_readNode (.arr (.str type.tag :: items)) b).fault path cause h

/-- The only tree that a reading logs is the one it returns, with the count at its end. -/
theorem treeRead_mem_events_iff {result : Except Fault Node} {b : Builder} {count : Nat}
    {type : NodeType} :
    .treeRead count type ∈ events result b ↔
      ∃ root, result = .ok root ∧ count = b.nodes ∧ type = root.type := by
  unfold events
  cases result <;> simp

/-- **A reading comes back to its place and counts exactly what it has built.** In every state, the
reading of a node, that of a child and that of what follows a node's own checks leave the source and
the place as they were, however they end. A result adds its nodes to the count. A fault, which is at
the first value that is wrong, adds the nodes of the trees in front of the way there, and none of
those on the way. So the count that is logged for a whole document is the size of its tree, and none
is logged for a document without one. -/
theorem readers_balanced (b : Builder) :
    (∀ v, Balanced (readNode v) b Node.size v RootFaultAt) ∧
      (∀ parent v, Balanced (readChild parent v) b Child.size v ChildFaultAt) ∧
      (∀ type items span, Balanced (readBody type items span) b Node.size
        (.arr (.str type.tag :: items)) RootFaultAt) ∧
      ∀ v source forest count type,
        .treeRead count type ∈ events (build v source forest).1 (build v source forest).2 ↔
          ∃ root, (build v source forest).1 = .ok root ∧ count = root.size ∧ type = root.type := by
  refine ⟨fun v => balanced_readNode v b, fun parent v => balanced_readChild parent v b,
    fun type items span => balanced_readBody type items span b, ?_⟩
  intro v source forest count type
  rw [treeRead_mem_events_iff]
  refine exists_congr fun root => and_congr_right fun read => ?_
  -- the count begins at nothing
  have size : (build v source forest).2.nodes = 0 + root.size :=
    (balanced_readNode v ⟨source, [], forest, []⟩).result root read
  rw [size, Nat.zero_add]

/-- Two nodes stand in front of the fault; the two on the way to it are not complete. -/
example :
    let v : Json := .arr [.str "begin", .arr [.str "lvar", .str "a"],
      .arr [.str "send", .arr [.str "self"], .arr [.str "bogus"], .arr [.str "nil"]]]
    let r := build v none .empty
    r.1 = .error ⟨[1, 1], .unknownTag "bogus"⟩ ∧ r.2.path = [] ∧ r.2.nodes = 2 := by
  cbv

end Document

end RubyTree
