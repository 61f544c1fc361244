/-
Nodes left in a value.

Coercion goes down through literals and stops at the first node that is none. `Literal.Contains`
says that a node is left somewhere in a value, and `Node.ClosedLiteral` that nothing but literals
stands where coercion goes.

* `Node.shape` — the shapes of nodes that coercion goes through; any other node stands for itself.
  The values of the shapes are the lemmas `Node.literal_of_last` to `Node.literal_of_group`.
* `Node.contains_cases` — one step: what is left of a node is the node itself, or is left of one of
  its children.
* `Node.ClosedLiteral.not_contains`, `Node.closedLiteral_of_not_contains` — no node is left exactly
  in the values of closed literals.
-/

import RubyTree.Literal
import RubyTree.Proofs.Node.Descent

namespace RubyTree

/-- A node is left in a value: as the value itself, in an item of an array, or in a bound of a
range. -/
inductive Literal.Contains (m : Node) : Literal → Prop where
  | here : Contains m (.node m)
  | item {v : Literal} {items : List Literal} (hv : v ∈ items) (h : Contains m v) :
      Contains m (.array items)
  | first {a b : Literal} {exclusive : Bool} (h : Contains m a) : Contains m (.range a b exclusive)
  | last {a b : Literal} {exclusive : Bool} (h : Contains m b) : Contains m (.range a b exclusive)

/-- A literal with nothing but scalars and closed literals where its value is taken from. -/
inductive Node.ClosedLiteral : Node → Prop where
  /-- A scalar literal has its value in the last child, and may have no children. -/
  | scalar {n : Node}
      (type : n.type ∈ [.intLit, .floatLit, .strLit, .symLit, .rationalLit, .complexLit])
      (last : ∀ m, n.children.getLast? = some (.node m) → m.ClosedLiteral) : n.ClosedLiteral
  | word {n : Node} (type : n.type ∈ [.trueLit, .falseLit, .nilLit]) : n.ClosedLiteral
  | array {n : Node} (type : n.type = .arrayLit)
      (items : ∀ m, .node m ∈ n.children → m.ClosedLiteral) : n.ClosedLiteral
  /-- A range has its bounds in the first two children, where it has them. -/
  | range {n : Node} (type : n.type ∈ [.irange, .erange])
      (bounds : ∀ i < 2, ∀ m, n.children[i]? = some (.node m) → m.ClosedLiteral) : n.ClosedLiteral
  | group {n : Node} {c : Child} (type : n.type ∈ [.beginSeq, .kwbegin]) (only : n.children = [c])
      (inner : ∀ m, c = .node m → m.ClosedLiteral) : n.ClosedLiteral

/-! ### Values by shape -/

theorem Child.literals_eq_map (cs : List Child) : Child.literals cs = cs.map Child.literal := by
  induction cs with
  | nil => rfl
  | cons c cs ih => rw [Child.literals, List.map_cons, ih]

namespace Node

theorem literal_eq (n : Node) : n.literal = n.literalOf (n.children.map Child.literal) := by
  cases n with
  | mk id type children span =>
    rw [literal, Child.literals_eq_map]
    rfl

theorem getLastD_map_literal (n : Node) :
    (n.children.map Child.literal).getLastD .nil = n.lastChild.literal := by
  rw [lastChild, List.getLastD_eq_getLast?, List.getLastD_eq_getLast?, List.getLast?_map]
  cases n.children.getLast? <;> rfl

theorem getD_map_literal (n : Node) (i : Nat) :
    (n.children.map Child.literal).getD i .nil = (n.child i).literal := by
  rw [child, List.getD_eq_getElem?_getD, List.getD_eq_getElem?_getD, List.getElem?_map]
  cases n.children[i]? <;> rfl

section Shapes

variable {n : Node}

/-- A scalar literal has the value of its last child. -/
theorem literal_of_last
    (type : n.type ∈ [.intLit, .floatLit, .strLit, .symLit, .rationalLit, .complexLit]) :
    n.literal = n.lastChild.literal := by
  rw [literal_eq, ← getLastD_map_literal]
  simp only [List.mem_cons, List.not_mem_nil, or_false] at type
  rcases type with type | type | type | type | type | type <;> simp only [literalOf, type]

theorem not_contains_word (type : n.type ∈ [.trueLit, .falseLit, .nilLit]) (m : Node) :
    ¬ n.literal.Contains m := by
  rw [literal_eq]
  simp only [List.mem_cons, List.not_mem_nil, or_false] at type
  rcases type with type | type | type <;> simp only [literalOf, type] <;> rintro ⟨⟩

theorem literal_of_array (type : n.type = .arrayLit) :
    n.literal = .array (n.children.map Child.literal) := by
  rw [literal_eq]
  simp only [literalOf, type]

theorem literal_of_range (type : n.type ∈ [.irange, .erange]) :
    ∃ exclusive, n.literal = .range (n.child 0).literal (n.child 1).literal exclusive := by
  rw [literal_eq, ← getD_map_literal, ← getD_map_literal]
  simp only [List.mem_cons, List.not_mem_nil, or_false] at type
  rcases type with type | type
  · exact ⟨false, by simp only [literalOf, type]⟩
  · exact ⟨true, by simp only [literalOf, type]⟩

/-- A group around a single child has the value of the child. -/
theorem literal_of_group {c : Child} (type : n.type ∈ [.beginSeq, .kwbegin])
    (only : n.children = [c]) : n.literal = c.literal := by
  rw [literal_eq, only]
  simp only [List.mem_cons, List.not_mem_nil, or_false] at type
  rcases type with type | type <;> simp only [literalOf, type, List.map_cons, List.map_nil]

/-- The shapes of nodes: five that coercion goes through, and nodes that stand for themselves. -/
inductive Shape (n : Node) : Prop where
  | last (type : n.type ∈ [.intLit, .floatLit, .strLit, .symLit, .rationalLit, .complexLit])
  | word (type : n.type ∈ [.trueLit, .falseLit, .nilLit])
  | array (type : n.type = .arrayLit)
  | range (type : n.type ∈ [.irange, .erange])
  | group {c : Child} (type : n.type ∈ [.beginSeq, .kwbegin]) (only : n.children = [c])
  | itself (h : n.literal = .node n)

theorem shape (n : Node) : n.Shape := by
  have value := n.literal_eq
  unfold literalOf at value
  split at value
  case h_1 type | h_2 type | h_3 type | h_4 type | h_5 type | h_6 type =>
    exact .last (by rw [type]; decide)
  case h_7 type | h_8 type | h_9 type => exact .word (by rw [type]; decide)
  case h_10 type => exact .array type
  case h_11 type | h_12 type => exact .range (by rw [type]; decide)
  case h_13 type | h_14 type =>
    split at value
    · rename_i v single
      obtain ⟨c, only, -⟩ := List.map_eq_singleton_iff.mp single
      exact .group (by rw [type]; decide) only
    · exact .itself value
  case h_15 => exact .itself value

end Shapes

end Node

/-! ### What is left of a node -/

/-- Scalars have values without nodes. -/
theorem Child.node_of_contains {c : Child} {m : Node} (h : c.literal.Contains m) :
    ∃ k, c = .node k ∧ k.literal.Contains m := by
  cases c with
  | node k =>
    rw [Child.literal] at h
    exact ⟨k, rfl, h⟩
  | _ =>
    rw [Child.literal] at h
    cases h

/-- Nothing is left of a node in a slot when nothing is left of the slot. -/
theorem Child.not_contains_node {c : Child} {m : Node} (empty : ∀ k, ¬ c.literal.Contains k)
    (h : c = .node m) (k : Node) : ¬ m.literal.Contains k := by
  have closed := empty k
  rw [h, Child.literal] at closed
  exact closed

namespace Node

variable {n m : Node}

theorem lastChild_eq_node_iff : n.lastChild = .node m ↔ n.children.getLast? = some (.node m) := by
  rw [lastChild, List.getLastD_eq_getLast?]
  cases n.children.getLast? <;> simp

theorem child_eq_node_iff {i : Nat} : n.child i = .node m ↔ n.children[i]? = some (.node m) := by
  rw [child, List.getD_eq_getElem?_getD]
  cases n.children[i]? <;> simp

/-- A node that is left of a node is that node, which then stands for itself, or it is left of one
of its children. -/
theorem contains_cases (h : n.literal.Contains m) :
    (m = n ∧ n.literal = .node n) ∨ ∃ k, .node k ∈ n.children ∧ k.literal.Contains m := by
  have below : ∀ {c : Child}, (∀ k, c = .node k → .node k ∈ n.children) → c.literal.Contains m →
      ∃ k, .node k ∈ n.children ∧ k.literal.Contains m := by
    intro c own hc
    obtain ⟨k, hk, left⟩ := Child.node_of_contains hc
    exact ⟨k, own k hk, left⟩
  have slot : ∀ i k, n.child i = .node k → .node k ∈ n.children := fun i k hk =>
    List.mem_of_getElem? (child_eq_node_iff.mp hk)
  cases n.shape with
  | last type =>
    rw [literal_of_last type] at h
    exact .inr (below (fun k hk => List.mem_of_getLast? (lastChild_eq_node_iff.mp hk)) h)
  | word type => exact absurd h (not_contains_word type m)
  | array type =>
    rw [literal_of_array type] at h
    cases h with
    | item hv left =>
      obtain ⟨c, hc, rfl⟩ := List.mem_map.mp hv
      exact .inr (below (fun k hk => hk ▸ hc) left)
  | range type =>
    obtain ⟨exclusive, value⟩ := literal_of_range type
    rw [value] at h
    cases h with
    | first left => exact .inr (below (slot 0) left)
    | last left => exact .inr (below (slot 1) left)
  | @group c type only =>
    rw [literal_of_group type only] at h
    refine .inr (below (fun k hk => ?_) h)
    rw [only, hk]
    exact List.mem_singleton_self _
  | itself value =>
    rw [value] at h
    cases h
    exact .inl ⟨rfl, value⟩

/-- A node that is left in a value is at or below the node with that value, and stands for
itself. -/
theorem below_of_contains (h : n.literal.Contains m) :
    (∃ path, n.atPath? path = some m) ∧ m.literal = .node m := by
  induction n using induction_holds with
  | step n ih =>
    rcases contains_cases h with ⟨rfl, value⟩ | ⟨k, hk, left⟩
    · exact ⟨⟨[], rfl⟩, value⟩
    · obtain ⟨⟨path, hp⟩, value⟩ := ih k (.own hk) left
      obtain ⟨i, hi⟩ := exists_atPath?_of_mem hk
      refine ⟨⟨[i] ++ path, ?_⟩, value⟩
      rw [atPath?_append, hi]
      exact hp

/-! ### Closed literals -/

/-- Nothing is left of a closed literal. -/
theorem ClosedLiteral.not_contains (closed : n.ClosedLiteral) (m : Node) :
    ¬ n.literal.Contains m := by
  induction closed with
  | scalar type last ih =>
    intro h
    rw [literal_of_last type] at h
    obtain ⟨k, hk, left⟩ := Child.node_of_contains h
    exact ih k (lastChild_eq_node_iff.mp hk) left
  | word type => exact not_contains_word type m
  | array type items ih =>
    intro h
    rw [literal_of_array type] at h
    cases h with
    | item hv left =>
      obtain ⟨c, hc, rfl⟩ := List.mem_map.mp hv
      obtain ⟨k, rfl, left⟩ := Child.node_of_contains left
      exact ih k hc left
  | range type bounds ih =>
    intro h
    obtain ⟨exclusive, value⟩ := literal_of_range type
    rw [value] at h
    cases h with
    | first left =>
      obtain ⟨k, hk, left⟩ := Child.node_of_contains left
      exact ih 0 (by decide) k (child_eq_node_iff.mp hk) left
    | last left =>
      obtain ⟨k, hk, left⟩ := Child.node_of_contains left
      exact ih 1 (by decide) k (child_eq_node_iff.mp hk) left
  | group type only inner ih =>
    intro h
    rw [literal_of_group type only] at h
    obtain ⟨k, hk, left⟩ := Child.node_of_contains h
    exact ih k hk left

/-- A node of which nothing is left is a closed literal. -/
theorem closedLiteral_of_not_contains (empty : ∀ m, ¬ n.literal.Contains m) :
    n.ClosedLiteral := by
  induction n using induction_holds with
  | step n ih =>
    cases n.shape with
    | last type =>
      rw [literal_of_last type] at empty
      refine .scalar type fun m hm => ih m (.own (List.mem_of_getLast? hm)) ?_
      exact Child.not_contains_node empty (lastChild_eq_node_iff.mpr hm)
    | word type => exact .word type
    | array type =>
      rw [literal_of_array type] at empty
      refine .array type fun m hm => ih m (.own hm) (Child.not_contains_node (fun k hk => ?_) rfl)
      exact empty k (.item (List.mem_map_of_mem hm) hk)
    | range type =>
      obtain ⟨exclusive, value⟩ := literal_of_range type
      rw [value] at empty
      refine .range type fun i two m hm => ih m (.own (List.mem_of_getElem? hm)) ?_
      refine Child.not_contains_node (fun k hk => ?_) (child_eq_node_iff.mpr hm)
      obtain rfl | rfl : i = 0 ∨ i = 1 := by omega
      · exact empty k (.first hk)
      · exact empty k (.last hk)
    | @group c type only =>
      rw [literal_of_group type only] at empty
      refine .group type only fun m hm => ih m (.own ?_) (Child.not_contains_node empty hm)
      rw [only, hm]
      exact List.mem_singleton_self _
    | itself value =>
      rw [value] at empty
      exact absurd .here (empty n)

/-- **Coercion stops at what is no literal, and only there.** Every node that is left anywhere in
the value of a node is that very node or one below it, and it stands for itself. No node is left
exactly in the values of closed literals. The value of an array has one item for each child, in
order. -/
theorem literal_stops (n : Node) :
    (∀ m, n.literal.Contains m → (∃ path, n.atPath? path = some m) ∧ m.literal = .node m) ∧
    ((∀ m, ¬ n.literal.Contains m) ↔ n.ClosedLiteral) ∧
    (n.type = .arrayLit → ∃ items, n.literal = .array items ∧
      items.length = n.children.length ∧
        ∀ (i : Nat) (c : Child), n.children[i]? = some c → items[i]? = some c.literal) := by
  refine ⟨fun m h => below_of_contains h, ⟨closedLiteral_of_not_contains, fun closed =>
    closed.not_contains⟩, fun type => ⟨_, literal_of_array type, List.length_map _, ?_⟩⟩
  intro i c hc
  rw [List.getElem?_map, hc, Option.map_some]

end Node

end RubyTree
