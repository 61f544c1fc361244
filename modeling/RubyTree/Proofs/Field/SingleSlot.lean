/-
Lists that are read from one slot.

`slotFields` are the lists whose node keeps them packed in one slot and has further children behind
it that do not belong to them. Such a list is what its slot unwraps to, so it depends on that slot
and on nothing else of the node (`Node.list_of_slotField`).

The statements of an `ensure` clause stand in one slot as well. They are read like a body at the end
of a node, though, and go on to the last child: they depend on their slot alone where it is `nil` or
a `begin` node, and else on all that follows it (`Node.statementsFrom_of_bare`).
-/

import Mathlib.Data.List.GetD
import RubyTree.Proofs.Field.Congruence
import RubyTree.Proofs.Field.Packing
import RubyTree.Proofs.Field.Support

namespace RubyTree

/-- A list that the nodes of a type keep packed in a slot. -/
structure SlotField where
  list : Listing
  type : NodeType
  slot : Nat
  /-- The type of the node that holds several items. -/
  wrapper : NodeType

/-- The lists that are read from one slot, whatever follows it. -/
def slotFields : List SlotField :=
  [⟨.body, .rescueClause, 0, .beginSeq⟩, ⟨.body, .ensureClause, 0, .beginSeq⟩,
   ⟨.body, .preexe, 0, .beginSeq⟩, ⟨.body, .postexe, 0, .beginSeq⟩,
   ⟨.exceptions, .resbody, 0, .arrayLit⟩, ⟨.arguments, .methodDef, 1, .args⟩,
   ⟨.arguments, .block, 1, .args⟩, ⟨.arguments, .singletonDef, 2, .args⟩]

/-- A slot that settles its list by itself: it is empty or holds a wrapper. -/
def Child.IsPacked (wrapper : NodeType) (c : Child) : Prop :=
  c = .nil ∨ c.isType wrapper = true

theorem Child.isPacked_node_iff {wrapper : NodeType} {m : Node} :
    (Child.node m).IsPacked wrapper ↔ m.type = wrapper := by
  simp [IsPacked, isType, type?, node?]

namespace Node

variable {n : Node}

/-- A list that is packed in a slot is what the slot unwraps to. -/
theorem list_of_slotField {f : SlotField} (h : f ∈ slotFields) (type : n.type = f.type) :
    n.list f.list = .ok ((n.child f.slot).unwrap f.wrapper) := by
  simp only [slotFields, List.mem_cons, List.not_mem_nil, or_false] at h
  rcases h with rfl | rfl | rfl | rfl | rfl | rfl | rfl | rfl <;>
    simp only [list, body, exceptions, arguments, type]

theorem field_of_slotField {f : SlotField} (h : f ∈ slotFields) (type : n.type = f.type) :
    n.field f.list.field = .ok (.many ((n.child f.slot).unwrap f.wrapper)) := by
  rw [n.field_of_listing (Listing.ofField?_eq_some_iff.mpr rfl), list_of_slotField h type]
  rfl

/-! ### Statements to the end of a node -/

/-- The child in a slot is the first one from the slot on. -/
theorem child_eq_headD (n : Node) (slot : Nat) :
    n.child slot = (n.children.drop slot).headD .nil := by
  rw [child, List.headD_eq_head?_getD, List.head?_drop, List.getD_eq_getElem?_getD]

/-- A slot that is not absent begins the children from it on. -/
theorem drop_eq_cons {slot : Nat} (present : n.child slot ≠ .nil) :
    n.children.drop slot = n.child slot :: n.children.drop (slot + 1) := by
  have inside : slot < n.children.length := by
    by_contra outside
    apply present
    rw [child, List.getD_eq_default _ _ (by omega)]
  rw [List.drop_eq_getElem_cons inside, child, List.getD_eq_getElem _ _ inside]

/-- A slot that is empty or holds a `begin` node settles the statements. -/
theorem statementsFrom_of_packed {slot : Nat} (packed : (n.child slot).IsPacked .beginSeq) :
    n.statementsFrom slot = (n.child slot).unwrap .beginSeq := by
  rw [child_eq_headD] at packed ⊢
  unfold statementsFrom
  generalize n.children.drop slot = rest at packed ⊢
  cases rest with
  | nil => rfl
  | cons c rest =>
    rw [List.headD_cons] at packed ⊢
    cases c with
    | nil => rfl
    | node m => simp [Child.unwrap, Child.isPacked_node_iff.mp packed]
    | _ => simp [Child.IsPacked, Child.isType, Child.type?, Child.node?] at packed

/-- From any other slot, the statements go on to the last child. -/
theorem statementsFrom_of_bare {slot : Nat} (bare : ¬ (n.child slot).IsPacked .beginSeq) :
    n.statementsFrom slot = n.child slot :: n.children.drop (slot + 1) := by
  have present : n.child slot ≠ .nil := fun absent => bare (.inl absent)
  unfold statementsFrom
  rw [drop_eq_cons present]
  cases hc : n.child slot with
  | nil => exact absurd hc present
  | node m =>
    rw [hc, Child.isPacked_node_iff] at bare
    simp [bare]
  | _ => rfl

/-- The field `ensure_body` has the statements from the second slot on. -/
theorem field_ensureBody (type : n.type = .ensureClause) :
    n.field "ensure_body" = .ok (.many (n.statementsFrom 1)) := by
  rw [n.field_of_listing (l := .ensureBody) rfl]
  simp only [list, ensureBody, type, Except.map]

/-- The statements from a slot on are what the slot unwraps to exactly when it is empty, holds a
`begin` node, or is the last one. -/
theorem statementsFrom_eq_unwrap_iff {slot : Nat} :
    n.statementsFrom slot = (n.child slot).unwrap .beginSeq ↔
      (n.child slot).IsPacked .beginSeq ∨ n.children.length ≤ slot + 1 := by
  by_cases packed : (n.child slot).IsPacked .beginSeq
  · exact iff_of_true (statementsFrom_of_packed packed) (.inl packed)
  · -- both sides begin with the child in the slot, and only the statements can go on behind it
    have present : n.child slot ≠ .nil := fun absent => packed (.inl absent)
    have bare : (n.child slot).isType .beginSeq = false :=
      Bool.eq_false_iff.mpr fun wrapped => packed (.inr wrapped)
    rw [statementsFrom_of_bare packed, Child.unwrap_single present bare]
    simp [packed]

/-- Two nodes with the same child in a slot have the same statements from it exactly when the slot
settles them or the same children follow. -/
theorem statementsFrom_eq_iff {a b : Node} {slot : Nat} (same : a.child slot = b.child slot) :
    a.statementsFrom slot = b.statementsFrom slot ↔
      (a.child slot).IsPacked .beginSeq ∨
        a.children.drop (slot + 1) = b.children.drop (slot + 1) := by
  by_cases packed : (a.child slot).IsPacked .beginSeq
  · refine iff_of_true ?_ (.inl packed)
    rw [statementsFrom_of_packed packed, statementsFrom_of_packed (same ▸ packed), same]
  · rw [statementsFrom_of_bare packed, statementsFrom_of_bare (same ▸ packed), same]
    simp [same ▸ packed]

/-! ### Nodes that agree on a slot -/

/-- **A list in one slot depends on that slot.** On every node of their types, the lists of
`slotFields` are what their slot unwraps to, so nodes with the same child in the slot have the same
list, and nodes with equal children in it have equal lists, whatever their other children are. The
statements of an `ensure` clause follow this rule exactly when their slot is empty, holds a `begin`
node or is the last one; nodes that agree on the slot have the same statements exactly when it is
empty or holds a `begin` node, or the same children follow it. -/
theorem fields_of_slot (a b : Node) :
    (∀ f ∈ slotFields, a.type = f.type → b.type = f.type →
      a.field f.list.field = .ok (.many ((a.child f.slot).unwrap f.wrapper)) ∧
      (a.child f.slot = b.child f.slot → a.field f.list.field = b.field f.list.field) ∧
      ∀ eq, (a.child f.slot).beqBy eq (b.child f.slot) = true →
        Outcome.Alike (Reading.EqualBy eq) (a.field f.list.field) (b.field f.list.field)) ∧
    (a.type = .ensureClause → b.type = .ensureClause →
      (a.field "ensure_body" = .ok (.many ((a.child 1).unwrap .beginSeq)) ↔
        (a.child 1).IsPacked .beginSeq ∨ a.children.length ≤ 2) ∧
      (a.child 1 = b.child 1 → (a.field "ensure_body" = b.field "ensure_body" ↔
        (a.child 1).IsPacked .beginSeq ∨ a.children.drop 2 = b.children.drop 2))) := by
  constructor
  · intro f hf ha hb
    rw [field_of_slotField hf ha, field_of_slotField hf hb]
    refine ⟨rfl, fun same => by rw [same], fun eq equal => ?_⟩
    exact .ok (.many (Child.unwrap_equalBy equal f.wrapper))
  · intro ha hb
    rw [field_ensureBody ha, field_ensureBody hb]
    simp only [Except.ok.injEq, Reading.many.injEq]
    exact ⟨statementsFrom_eq_unwrap_iff, statementsFrom_eq_iff⟩

/-- Two `ensure` clauses that agree on the slot of their statements and have different ones, because
a further child follows the slot of the second. -/
theorem ensure_statements_differ :
    let call (name : String) : Child := .node (.mk 0 .send [.nil, .sym name] none)
    let a : Node := .mk 1 .ensureClause [call "work", call "close"] none
    let b : Node := .mk 1 .ensureClause [call "work", call "close", call "flush"] none
    a.child 1 = b.child 1 ∧ a.field "ensure_body" = .ok (.many [call "close"]) ∧
      b.field "ensure_body" = .ok (.many [call "close", call "flush"]) ∧
        a.field "ensure_body" ≠ b.field "ensure_body" := by
  intro call a b
  have left : a.field "ensure_body" = .ok (.many [call "close"]) := rfl
  have right : b.field "ensure_body" = .ok (.many [call "close", call "flush"]) := rfl
  refine ⟨rfl, left, right, ?_⟩
  rw [left, right]
  simp

end Node

end RubyTree
