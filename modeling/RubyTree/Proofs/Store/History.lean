/-
Histories of stores.

A run of operations on a store leaves a history: the nodes that were constructed and the parents
that were written, the newest first. `Store.Run h s` says that a run of operations (`Store.Act`)
with the history `h` leads to the store `s`, and `reachable_iff_exists_run` that the stores of runs
are the reachable ones.

`Store.Records` says what a history tells about its store:

* identities are given in the order of the history;
* every node that is reached was constructed, after all its children;
* the parent that is looked up for a node is the one that the history wrote last.

Each operation keeps this (`Act.records`), so it holds along every run (`Run.records`). Nodes of a
history with the same identity are therefore equal (`Records.eq_of_same`).
-/

import RubyTree.Proofs.Store.Reachable

namespace RubyTree

/-- Whether a node has another one, by identity, among its children. -/
def Node.lists (m n : Node) : Bool :=
  m.children.any (fun c => c.node?.any (fun k => k.same n))

/-- A node lists another one when a node of that identity is among its children. -/
theorem Node.lists_iff {m n : Node} :
    m.lists n = true ↔ ∃ k, .node k ∈ m.children ∧ k.same n = true := by
  rw [lists, List.any_eq_true]
  constructor
  · rintro ⟨c, hc, h⟩
    cases c with
    | node k => exact ⟨k, hc, h⟩
    | _ => cases h
  · rintro ⟨k, hk, h⟩
    exact ⟨.node k, hk, h⟩

namespace Store

/-! ### Events -/

namespace Event

/-- The node that an event constructs. -/
def node? : Event → Option Node
  | .constructed n => some n
  | .parentSet _ _ => none

/-- What an event writes into the parent slot of a node. -/
def write? (n : Node) : Event → Option (Option Node)
  | .constructed m => if m.lists n then some (some m) else none
  | .parentSet k parent => if k.same n then some parent else none

/-- A slot is written by the construction of a node that lists its owner, or on its own. -/
theorem write?_eq_some_iff {e : Event} {n : Node} {parent : Option Node} :
    e.write? n = some parent ↔
      (∃ m, e = .constructed m ∧ m.lists n = true ∧ parent = some m) ∨
        ∃ k, e = .parentSet k parent ∧ k.same n = true := by
  constructor
  · intro write
    cases e with
    | constructed m =>
      obtain ⟨lists, same⟩ := Option.ite_none_right_eq_some.mp write
      exact .inl ⟨m, rfl, lists, (Option.some.inj same).symm⟩
    | parentSet k other =>
      obtain ⟨same, heq⟩ := Option.ite_none_right_eq_some.mp write
      cases heq
      exact .inr ⟨k, rfl, same⟩
  · rintro (⟨m, rfl, lists, rfl⟩ | ⟨k, rfl, same⟩)
    · exact if_pos lists
    · exact if_pos same

end Event

/-- What a history, its newest event first, wrote last into the parent slot of a node. -/
def lastWrite? (h : List Event) (n : Node) : Option (Option Node) :=
  h.findSome? (Event.write? n)

/-- A history has the construction of one node before that of another. -/
def ConstructedBefore (h : List Event) (c p : Node) : Prop :=
  ∃ later earlier, h = later ++ .constructed p :: earlier ∧ .constructed c ∈ earlier

theorem ConstructedBefore.append {h : List Event} {c p : Node} (before : ConstructedBefore h c p)
    (es : List Event) : ConstructedBefore (es ++ h) c p := by
  obtain ⟨later, earlier, rfl, hc⟩ := before
  exact ⟨es ++ later, earlier, (List.append_assoc es later _).symm, hc⟩

theorem mem_map_constructed {ns : List Node} {n : Node} :
    Event.constructed n ∈ ns.map .constructed ↔ n ∈ ns :=
  List.mem_map_of_injective fun _ _ same => Event.constructed.inj same

theorem not_mem_map_constructed {ns : List Node} {n : Node} {parent : Option Node} :
    Event.parentSet n parent ∉ ns.map .constructed := by
  simp

/-! ### What constructions write -/

/-- The entries that the construction of a node writes are looked up as its event says. -/
theorem lookup_entries (m n : Node) :
    ((m.children.filterMap Child.node?).map (fun c => (c.id, some m))).lookup n.id =
      (Event.constructed m).write? n := by
  rw [Event.write?, Node.lists]
  -- the entries name `m` itself, so the induction is on its children as a list of their own
  generalize m.children = cs
  induction cs with
  | nil => rfl
  | cons c cs ih =>
    cases c with
    | node k =>
      have own : (Child.node k :: cs).filterMap Child.node? = k :: cs.filterMap Child.node? := rfl
      rw [own, List.map_cons, List.lookup_cons, ih, List.any_cons, Child.node?, Option.any_some,
        Node.same, Bool.beq_comm]
      cases k.id == n.id <;> rfl
    | _ => exact ih

mutual

/-- The links of a tree are looked up as the history of its construction says. -/
theorem lookup_links (k : Node) :
    ∀ n : Node, n.links.lookup k.id = lastWrite? (n.constructions.map .constructed) k
  | .mk id type cs span => by
    have own := lookup_entries (.mk id type cs span) k
    have others := lookup_linksList k cs
    simp only [Node.children] at own
    rw [Node.links, List.lookup_append, own, others, Node.constructions, List.map_cons, lastWrite?,
      lastWrite?, List.findSome?_cons]
    cases (Event.constructed _).write? k <;> rfl

theorem lookup_linksList (k : Node) : ∀ cs : List Child, (Child.linksList cs).lookup k.id =
    lastWrite? ((Child.constructionsList cs).map .constructed) k
  | [] => rfl
  | c :: cs => by
    rw [Child.linksList, Child.constructionsList, List.lookup_append, lookup_linksList k cs,
      lookup_childLinks k c, List.map_append, lastWrite?, lastWrite?, lastWrite?,
      List.findSome?_append]

theorem lookup_childLinks (k : Node) : ∀ c : Child,
    c.links.lookup k.id = lastWrite? (c.constructions.map .constructed) k
  | .node n => by
    rw [Child.links, Child.constructions]
    exact lookup_links k n
  | .nil | .sym _ | .str _ | .int _ | .float _ | .bool _ => rfl

end

/-! ### Runs with their histories -/

/-- The stores that operations lead to from the empty one, with the history of the operations. -/
inductive Run : List Event → Store → Prop where
  | empty : Run [] Store.empty
  | act {h es : List Event} {s s' : Store} (run : Run h s) (ha : Act s es s') : Run (es ++ h) s'

/-- The reachable stores are those of runs, whatever their history. -/
theorem reachable_iff_exists_run {s : Store} : s.Reachable ↔ ∃ h, Run h s := by
  constructor
  · intro reachable
    induction reachable with
    | empty => exact ⟨[], .empty⟩
    | step _ hs ih =>
      obtain ⟨h, run⟩ := ih
      obtain ⟨es, ha⟩ := hs
      exact ⟨es ++ h, run.act ha⟩
  · rintro ⟨h, run⟩
    induction run with
    | empty => exact .empty
    | act _ ha ih => exact ih.step ⟨_, ha⟩

/-! ### What a history records -/

/-- What a history tells about its store. -/
structure Records (h : List Event) (s : Store) : Prop where
  /-- Identities are given in the order of construction. -/
  ids : (h.filterMap Event.node?).map Node.id = (List.range s.forest.next).reverse
  /-- Every node that is reached was constructed. -/
  reached : ∀ n, s.Reaches n → .constructed n ∈ h
  /-- Children are constructed before their parents. -/
  children : ∀ p c, .constructed p ∈ h → .node c ∈ p.children → ConstructedBefore h c p
  /-- Only constructed nodes are written as parents. -/
  targets : ∀ n p, .parentSet n (some p) ∈ h → .constructed p ∈ h
  /-- The parent that is looked up is the one written last. -/
  parents : ∀ n, s.forest.parents.lookup n.id = lastWrite? h n

namespace Records

variable {h : List Event} {s s' : Store}

/-- Nodes that are constructed on top of a history, the newest first, extend it. -/
theorem construct (r : Records h s) (ns : List Node)
    (ids : ns.map Node.id = (List.range' s.forest.next ns.length).reverse)
    (next : s'.forest.next = s.forest.next + ns.length)
    (reached : ∀ n, s'.Reaches n → n ∈ ns ∨ s.Reaches n)
    (children : ∀ p ∈ ns, ∀ c, .node c ∈ p.children →
      ConstructedBefore (ns.map .constructed ++ h) c p)
    (parents : ∀ n, s'.forest.parents.lookup n.id =
      (lastWrite? (ns.map .constructed) n).or (s.forest.parents.lookup n.id)) :
    Records (ns.map .constructed ++ h) s' where
  ids := by
    have nodes : (ns.map Event.constructed).filterMap Event.node? = ns := by
      rw [List.filterMap_map]
      exact List.filterMap_some
    rw [List.filterMap_append, nodes, List.map_append, ids, r.ids, next, ← List.reverse_append,
      List.range_eq_range', List.range_eq_range', ← List.range'_append_1, Nat.zero_add]
  reached := by
    intro n hn
    rw [List.mem_append, mem_map_constructed]
    exact (reached n hn).imp_right (r.reached n)
  children := by
    intro p c hp hc
    rw [List.mem_append, mem_map_constructed] at hp
    rcases hp with hp | hp
    -- a new node may have children from before as well as new ones, hence the whole history
    · exact children p hp c hc
    · exact (r.children p c hp hc).append _
  targets := by
    intro n p hp
    rcases List.mem_append.mp hp with hp | hp
    · exact absurd hp not_mem_map_constructed
    · exact List.mem_append_right _ (r.targets n p hp)
  parents := by
    intro n
    rw [parents n, r.parents n, lastWrite?, lastWrite?, lastWrite?, List.findSome?_append]

/-- A history goes on to tell about a store with the same forest that reaches nothing new. -/
theorem of_reaches (r : Records h s) (forest : s'.forest = s.forest)
    (reached : ∀ n, s'.Reaches n → s.Reaches n) : Records h s' where
  ids := forest ▸ r.ids
  reached n hn := r.reached n (reached n hn)
  children := r.children
  targets := r.targets
  parents := forest ▸ r.parents

/-- Writing a parent keeps the records, with that event more. -/
theorem setParent (r : Records h s) (n : Node) {parent : Option Node}
    (hp : ∀ p, parent = some p → s.Reaches p) :
    Records (.parentSet n parent :: h) (s.setParent n parent) where
  ids := r.ids
  reached m hm := List.mem_cons_of_mem _ (r.reached m hm)
  children p c hc hmem := by
    rcases List.mem_cons.mp hc with hc | hc
    · cases hc
    · exact (r.children p c hc hmem).append [_]
  targets m p hm := by
    rcases List.mem_cons.mp hm with hm | hm
    · cases hm
      exact List.mem_cons_of_mem _ (r.reached p (hp p rfl))
    · exact List.mem_cons_of_mem _ (r.targets m p hm)
  parents m := by
    have older := r.parents m
    rw [lastWrite?] at older
    rw [lastWrite?, List.findSome?_cons, Event.write?, ← older, Node.same, Bool.beq_comm]
    show ((n.id, parent) :: s.forest.parents).lookup m.id = _
    rw [List.lookup_cons]
    cases m.id == n.id <;> rfl

end Records

/-- Construction keeps the records, with one node more. -/
theorem records_construct {h : List Event} {s : Store} (r : Records h s) (name : String)
    (type : NodeType) {children : List Child} (span : Option Span)
    (hc : ∀ n, .node n ∈ children → s.Reaches n) :
    Records ([.constructed (s.construct name type children span).1] ++ h)
      (s.construct name type children span).2 := by
  refine r.construct [(s.construct name type children span).1] rfl rfl ?reached ?children ?parents
  case reached =>
    intro m hm
    exact (hm.of_construct hc).imp_left List.mem_singleton.mpr
  case children =>
    intro p hp c hmem
    obtain rfl := List.mem_singleton.mp hp
    exact ⟨[], h, rfl, r.reached c (hc c hmem)⟩
  case parents =>
    intro n
    have own := lookup_entries (s.construct name type children span).1 n
    rw [List.map_singleton, lastWrite?, List.findSome?_singleton, ← own, ← List.lookup_append]
    rfl

/-- Reading a tree keeps the records, with all of its nodes more. -/
theorem records_read {h : List Event} {s : Store} (r : Records h s) (name : String) {v : Json}
    {source : Option Buffer} {root : Node} {b : Document.Builder}
    (hb : Document.build v source s.forest = (.ok root, b)) :
    Records (root.constructions.map .constructed ++ h)
      ({ s with forest := b.forest }.bind name root) := by
  have grows := Document.grows_of_build hb
  have run : Document.Yields (Document.readNode v) ⟨source, [], s.forest, []⟩ root b := hb
  refine r.construct _ (Document.readers_order.1 v run) ?next ?reached ?children ?parents
  case next =>
    rw [root.perm_constructions.length_eq]
    exact grows.next
  case reached =>
    intro m hm
    rw [root.perm_constructions.mem_iff]
    exact hm.of_bind
  case children =>
    intro p hp c hc
    rw [root.perm_constructions.mem_iff] at hp
    obtain ⟨later, earlier, split, hmem⟩ := Node.constructions_split hc root hp
    refine ⟨later.map .constructed, earlier.map .constructed ++ h, ?_, ?_⟩
    · rw [split, List.map_append, List.map_cons, List.append_assoc, List.cons_append]
    · exact List.mem_append_left _ (mem_map_constructed.mpr hmem)
  case parents =>
    intro n
    show b.forest.parents.lookup n.id = _
    rw [grows.parents, List.lookup_append, lookup_links]

/-- Every operation keeps what the history records. -/
theorem Act.records {h es : List Event} {s s' : Store} (ha : Act s es s') (r : Records h s) :
    Records (es ++ h) s' := by
  cases ha with
  | construct name type span hc => exact records_construct r name type span hc
  | read name hb => exact records_read r name hb
  | bind name hn =>
    refine r.of_reaches rfl fun m hm => ?_
    rcases hm.of_bind with hm | hm
    · exact hn.below hm
    · exact hm
  | drop name => exact r.of_reaches rfl fun m hm => hm.of_drop
  | setParent hn hp => exact r.setParent _ hp
  | buffer text => exact r.of_reaches rfl fun m hm => hm

/-- What the history of a run records holds of the store that it leads to. -/
theorem Run.records {h : List Event} {s : Store} (run : Run h s) : Records h s := by
  induction run with
  | empty =>
    refine ⟨rfl, ?_, ?_, ?_, fun n => rfl⟩
    · rintro n ⟨handle, held, -⟩
      exact absurd held List.not_mem_nil
    · intro p c hp
      exact absurd hp List.not_mem_nil
    · intro n p hp
      exact absurd hp List.not_mem_nil
  | act _ ha ih => exact ha.records ih

/-! ### Identity -/

namespace Records

variable {h : List Event} {s : Store}

/-- A node that was constructed before another has the smaller identity. -/
theorem id_lt (r : Records h s) {c p : Node} (before : ConstructedBefore h c p) : c.id < p.id := by
  obtain ⟨later, earlier, rfl, hc⟩ := before
  -- identities fall along a history, and the earlier construction stands further back
  have sorted : ((List.range s.forest.next).reverse).Pairwise (· > ·) :=
    List.pairwise_reverse.mpr List.pairwise_lt_range
  rw [← r.ids, List.filterMap_append, List.map_append, List.pairwise_append] at sorted
  refine (List.pairwise_cons.mp sorted.2.1).1 c.id (List.mem_map_of_mem ?_)
  exact List.mem_filterMap.mpr ⟨_, hc, rfl⟩

/-- Constructed nodes are the same one only if they are equal. -/
theorem eq_of_same (r : Records h s) {a b : Node} (ha : .constructed a ∈ h)
    (hb : .constructed b ∈ h) (same : a.same b = true) : a = b := by
  have nodup : ((h.filterMap Event.node?).map Node.id).Nodup := by
    rw [r.ids]
    exact List.nodup_reverse.mpr List.nodup_range
  refine List.inj_on_of_nodup_map nodup ?_ ?_ (Node.same_iff.mp same)
  · exact List.mem_filterMap.mpr ⟨_, ha, rfl⟩
  · exact List.mem_filterMap.mpr ⟨_, hb, rfl⟩

/-- A constructed node counts as live exactly when it is reached. -/
theorem isLive_iff (r : Records h s) {n : Node} (hn : .constructed n ∈ h) :
    s.isLive n = true ↔ s.Reaches n := by
  refine ⟨fun live => ?_, isLive_of_reaches⟩
  obtain ⟨handle, held, below⟩ := List.any_eq_true.mp live
  obtain ⟨m, hm, same⟩ := List.any_eq_true.mp below
  have reached : s.Reaches m := ⟨handle, held, hm⟩
  rwa [← r.eq_of_same (r.reached m reached) hn same]

end Records

end Store

end RubyTree
