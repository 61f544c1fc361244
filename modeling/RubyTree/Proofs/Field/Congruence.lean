/-
Reading equal nodes.

What is read from a node depends on its type and its children alone, never on spans and identities.
So equal nodes have equal values and equal fields, refuse the same names, and find equal pairs under
every key.

* `Node.literal_equalBy` — values, by induction over both trees.
* `Node.list_equalBy`, `Node.resolve_equalBy`, `Node.field_equalBy` — lists, single slots and fields
  of either kind.
* `Node.findPair?_equalBy` — the pair of a key.
-/

import RubyTree.Field.Basic
import RubyTree.Proofs.Node.Equality
import RubyTree.Proofs.Outcome

namespace RubyTree

variable {eq : Float → Float → Bool}

/-! ### Values -/

/-- Values are equal when floating point numbers are compared by `eq`. -/
abbrev Literal.EqualBy (eq : Float → Float → Bool) (v w : Literal) : Prop :=
  v.beqBy eq w = true

theorem Literal.beqListBy_iff {vs ws : List Literal} :
    Literal.beqListBy eq vs ws = true ↔ List.Forall₂ (Literal.EqualBy eq) vs ws := by
  induction vs generalizing ws with
  | nil => cases ws <;> simp [beqListBy]
  | cons v vs ih => cases ws <;> simp [beqListBy, ih]

theorem Literal.equalBy_nil : Literal.nil.EqualBy eq .nil := by
  simp only [EqualBy, beqBy]

theorem Literal.equalBy_range {v v' w w' : Literal} {exclusive : Bool} (first : v.EqualBy eq v')
    (last : w.EqualBy eq w') :
    (Literal.range v w exclusive).EqualBy eq (.range v' w' exclusive) := by
  simp only [EqualBy, beqBy, first, last, beq_self_eq_true, Bool.and_self]

/-- The value of a node is made of the values of its children. -/
theorem Node.literalOf_equalBy {a b : Node} {vs ws : List Literal} (h : a.EqualBy eq b)
    (values : List.Forall₂ (Literal.EqualBy eq) vs ws) :
    (a.literalOf vs).EqualBy eq (b.literalOf ws) := by
  have self : (Literal.node a).EqualBy eq (.node b) := by
    simpa only [Literal.EqualBy, Literal.beqBy] using h
  have bound : ∀ i, (vs.getD i .nil).EqualBy eq (ws.getD i .nil) := by
    intro i
    rw [List.getD_eq_getElem?_getD, List.getD_eq_getElem?_getD]
    exact rel_getD (rel_getElem? values i) Literal.equalBy_nil
  have last : (vs.getLastD .nil).EqualBy eq (ws.getLastD .nil) := by
    rw [List.getLastD_eq_getLast?, List.getLastD_eq_getLast?]
    exact rel_getD (rel_getLast? values) Literal.equalBy_nil
  simp only [literalOf, (Node.equalBy_iff.mp h).1]
  split
  case h_1 | h_2 | h_3 | h_4 | h_5 | h_6 => exact last
  case h_7 | h_8 => simp [Literal.EqualBy, Literal.beqBy]
  case h_9 => exact Literal.equalBy_nil
  case h_10 => simpa only [Literal.EqualBy, Literal.beqBy] using Literal.beqListBy_iff.mpr values
  case h_11 | h_12 => exact Literal.equalBy_range (bound 0) (bound 1)
  case h_13 | h_14 =>
    cases values with
    | nil => exact self
    | cons first others =>
      cases others with
      | nil => exact first
      | cons => exact self
  case h_15 => exact self

mutual

/-- Equal nodes have equal values. -/
theorem Node.literal_equalBy : ∀ {a b : Node}, a.EqualBy eq b → a.literal.EqualBy eq b.literal
  | .mk _ _ _ _, .mk _ _ _ _, h => by
    rw [Node.literal, Node.literal]
    exact Node.literalOf_equalBy h (Child.literals_equalBy (Node.equalBy_iff.mp h).2)

theorem Child.literal_equalBy : ∀ {c d : Child}, c.EqualBy eq d → c.literal.EqualBy eq d.literal
  | .node a, d, h => by
    cases Child.equalBy_iff_paired.mp h with
    | node h =>
      rw [Child.literal, Child.literal]
      exact Node.literal_equalBy h
  | .nil, d, h | .sym _, d, h | .str _, d, h | .int _, d, h | .float _, d, h | .bool _, d, h => by
    cases Child.equalBy_iff_paired.mp h
    simp_all [Child.literal, Literal.EqualBy, Literal.beqBy]

theorem Child.literals_equalBy : ∀ {cs ds : List Child}, List.Forall₂ (Child.EqualBy eq) cs ds →
    List.Forall₂ (Literal.EqualBy eq) (Child.literals cs) (Child.literals ds)
  | [], _, h => by
    cases h
    exact .nil
  | c :: cs, _, h => by
    cases h with
    | cons first others =>
      exact .cons (Child.literal_equalBy first) (Child.literals_equalBy others)

end

/-! ### Lists -/

theorem Child.unwrap_equalBy {c d : Child} (h : c.EqualBy eq d) (wrapper : NodeType) :
    List.Forall₂ (Child.EqualBy eq) (c.unwrap wrapper) (d.unwrap wrapper) := by
  have single : List.Forall₂ (Child.EqualBy eq) [c] [d] := .cons h .nil
  cases Child.equalBy_iff_paired.mp h with
  | nil => exact .nil
  | node h =>
    obtain ⟨type, children⟩ := Node.equalBy_iff.mp h
    simp only [unwrap, type]
    split
    · exact children
    · exact single
  | _ => exact single

namespace Node

variable {a b : Node}

theorem statementsFrom_equalBy (h : a.EqualBy eq b) (slot : Nat) :
    List.Forall₂ (Child.EqualBy eq) (a.statementsFrom slot) (b.statementsFrom slot) := by
  have rest := List.forall₂_drop slot (equalBy_iff.mp h).2
  unfold statementsFrom
  generalize a.children.drop slot = cs, b.children.drop slot = ds at rest
  cases rest with
  | nil => exact .nil
  | cons first others =>
    cases Child.equalBy_iff_paired.mp first with
    | nil => exact .nil
    | node inner =>
      obtain ⟨type, children⟩ := equalBy_iff.mp inner
      simp only [type]
      split
      · exact children
      · exact .cons first others
    | _ => exact .cons first others

theorem clauses_equalBy (h : a.EqualBy eq b) :
    List.Forall₂ (Child.EqualBy eq) a.clauses b.clauses := by
  unfold clauses
  rw [← List.drop_one, ← List.drop_one]
  exact rel_dropLast (List.forall₂_drop 1 (equalBy_iff.mp h).2)

theorem pairSlots_equalBy (h : a.EqualBy eq b) :
    List.Forall₂ (Child.EqualBy eq) a.pairSlots b.pairSlots := by
  refine List.rel_filter (fun c d slot => ?_) (equalBy_iff.mp h).2
  simp only [Child.isType_eq slot]

theorem splatSlots_equalBy (h : a.EqualBy eq b) :
    List.Forall₂ (Child.EqualBy eq) a.splatSlots b.splatSlots := by
  refine List.rel_filter (fun c d slot => ?_) (equalBy_iff.mp h).2
  simp only [Child.isType_eq slot]

theorem pairNodes_equalBy (h : a.EqualBy eq b) :
    List.Forall₂ (Node.EqualBy eq) a.pairNodes b.pairNodes :=
  List.rel_filterMap (fun _ _ slot => Child.node?_equalBy slot) (pairSlots_equalBy h)

theorem pairChildren_equalBy (h : a.EqualBy eq b) (i : Nat) :
    List.Forall₂ (Child.EqualBy eq) (a.pairNodes.map fun pair => pair.child i)
      (b.pairNodes.map fun pair => pair.child i) := by
  have slots : Relator.LiftFun (Node.EqualBy eq) (Child.EqualBy eq) (fun pair => pair.child i)
      (fun pair => pair.child i) := fun _ _ pair => child_equalBy pair i
  exact List.rel_map slots (pairNodes_equalBy h)

theorem isHashLike_eq (h : a.EqualBy eq b) : a.isHashLike = b.isHashLike := by
  unfold isHashLike
  rw [(equalBy_iff.mp h).1]

/-- A list that only hashes have is refused by both of two equal nodes, or by neither. -/
theorem onHash_alike {α : Type} {R : α → α → Prop} {x y : α} (h : a.EqualBy eq b)
    (field : String) (values : R x y) :
    Outcome.Alike R (a.onHash field x) (b.onHash field y) := by
  unfold onHash
  rw [isHashLike_eq h]
  split
  · exact .ok values
  · exact .refused _ _

/-- Every list of equal nodes has equal children, or both nodes refuse it. -/
theorem list_equalBy (h : a.EqualBy eq b) (l : Listing) :
    Outcome.Alike (List.Forall₂ (Child.EqualBy eq)) (a.list l) (b.list l) := by
  obtain ⟨type, children⟩ := equalBy_iff.mp h
  cases l with
  | arguments =>
    simp only [list, arguments, type]
    split
    case h_1 | h_2 | h_3 => exact .ok (Child.unwrap_equalBy (child_equalBy h _) _)
    case h_4 | h_5 | h_6 => exact .ok (List.forall₂_drop _ children)
    case h_14 => exact .refused _ _
    all_goals exact .ok children
  | body =>
    simp only [list, body, type, children.length_eq]
    split
    case h_1 | h_2 => exact .ok children
    case h_18 | h_19 | h_20 | h_21 => exact .ok (Child.unwrap_equalBy (child_equalBy h _) _)
    case h_22 => exact .refused _ _
    all_goals exact .ok (statementsFrom_equalBy h _)
  | elements =>
    simp only [list, elements, type]
    split
    case h_12 => exact .ok (rel_dropLast children)
    case h_13 => exact .refused _ _
    all_goals exact .ok children
  | whenStatements | inStatements | rescueBodies =>
    simp only [list, whenStatements, inStatements, rescueBodies, type]
    split
    · exact .ok (clauses_equalBy h)
    · exact .refused _ _
  | ensureBody =>
    simp only [list, ensureBody, type]
    split
    · exact .ok (statementsFrom_equalBy h 1)
    · exact .refused _ _
  | exceptions =>
    simp only [list, exceptions, type]
    split
    · exact .ok (Child.unwrap_equalBy (child_equalBy h 0) _)
    · exact .refused _ _
  | pairs => exact onHash_alike h _ (pairSlots_equalBy h)
  | kwsplats => exact onHash_alike h _ (splatSlots_equalBy h)
  | keys => exact onHash_alike h _ (pairChildren_equalBy h 0)
  | values => exact onHash_alike h _ (pairChildren_equalBy h 1)

/-! ### Single slots -/

theorem positional_equalBy (h : a.EqualBy eq b) (name : String) :
    Outcome.Alike (Child.EqualBy eq) (a.positional name) (b.positional name) := by
  unfold positional
  rw [(equalBy_iff.mp h).1]
  split
  · split
    · exact .refused _ _
    · exact .ok (child_equalBy h _)
  · exact .refused _ _

theorem leftValue_equalBy (h : a.EqualBy eq b) :
    Outcome.Alike (Child.EqualBy eq) a.leftValue b.leftValue := by
  have first := child_equalBy h 0
  unfold leftValue
  rw [(equalBy_iff.mp h).1]
  split
  case h_4 => exact positional_equalBy h "left_value"
  all_goals
    generalize a.child 0 = c, b.child 0 = d at first
    cases Child.equalBy_iff_paired.mp first with
    | node target =>
      simp only [(equalBy_iff.mp target).1]
      split
      · exact .ok (child_equalBy target 0)
      · exact .ok first
    | _ => exact .ok first

/-- Every single slot of equal nodes holds equal children, or both nodes refuse it. -/
theorem resolve_equalBy (h : a.EqualBy eq b) (name : String) :
    Outcome.Alike (Child.EqualBy eq) (a.resolve name) (b.resolve name) := by
  unfold resolve
  split
  · exact leftValue_equalBy h
  split
  · unfold elseStatement
    rw [(equalBy_iff.mp h).1]
    split
    case h_4 => exact positional_equalBy h "else_statement"
    all_goals exact .ok (lastChild_equalBy h)
  split
  · unfold options
    rw [(equalBy_iff.mp h).1]
    split
    · exact .ok (lastChild_equalBy h)
    · exact .refused _ _
  · exact positional_equalBy h name

end Node

/-! ### Fields of either kind -/

/-- Readings of one kind that hold equal children. -/
inductive Reading.EqualBy (eq : Float → Float → Bool) : Reading → Reading → Prop where
  | one {c d : Child} (h : c.EqualBy eq d) : EqualBy eq (.one c) (.one d)
  | many {cs ds : List Child} (h : List.Forall₂ (Child.EqualBy eq) cs ds) :
      EqualBy eq (.many cs) (.many ds)

namespace Node

variable {a b : Node}

/-- Equal nodes have equal fields. -/
theorem field_equalBy (h : a.EqualBy eq b) (name : String) :
    Outcome.Alike (Reading.EqualBy eq) (a.field name) (b.field name) := by
  unfold field
  split
  · exact (list_equalBy h _).map fun _ _ => .many
  · exact (resolve_equalBy h name).map fun _ _ => .one

end Node

/-! ### Keys -/

/-- Equal children are the same key. -/
theorem Child.isKey_eq {c d : Child} (h : c.EqualBy eq d) (key : String) :
    c.isKey key = d.isKey key := by
  have values := Child.literal_equalBy h
  unfold isKey
  generalize c.literal = v, d.literal = w at values
  cases v <;> cases w <;> simp_all [Literal.EqualBy, Literal.beqBy]

/-- Equal nodes have equal pairs under every key, or none. -/
theorem Node.findPair?_equalBy {a b : Node} (h : a.EqualBy eq b) (key : String) :
    Option.Rel (Node.EqualBy eq) (a.findPair? key) (b.findPair? key) :=
  rel_find? (fun _ _ pair => Child.isKey_eq (child_equalBy pair 0) key) (pairNodes_equalBy h)

end RubyTree
