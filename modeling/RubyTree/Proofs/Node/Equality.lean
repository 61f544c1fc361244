/-
Equal nodes.

Equality of nodes compares types and children and looks at nothing else. `Child.Paired` lists what
equal children are, kind by kind; only floating point numbers are left to the equality that is
given, of which nothing is assumed. Equal nodes have equal children at every index
(`Node.child_equalBy`, `Node.lastChild_equalBy`) and equal nodes at every path
(`Node.atPath?_equalBy`).
-/

import Mathlib.Data.List.Forall2
import Mathlib.Data.Option.Basic
import RubyTree.Node.Basic

namespace RubyTree

/-- Nodes are equal when floating point numbers are compared by `eq`. -/
abbrev Node.EqualBy (eq : Float → Float → Bool) (a b : Node) : Prop :=
  a.beqBy eq b = true

/-- Children are equal when floating point numbers are compared by `eq`. -/
abbrev Child.EqualBy (eq : Float → Float → Bool) (c d : Child) : Prop :=
  c.beqBy eq d = true

/-- Two children of one kind with equal contents. -/
inductive Child.Paired (eq : Float → Float → Bool) : Child → Child → Prop where
  | nil : Paired eq .nil .nil
  | node {a b : Node} (h : a.EqualBy eq b) : Paired eq (.node a) (.node b)
  | sym (name : String) : Paired eq (.sym name) (.sym name)
  | str (text : String) : Paired eq (.str text) (.str text)
  | int (i : Int64) : Paired eq (.int i) (.int i)
  | float {x y : Float} (h : eq x y = true) : Paired eq (.float x) (.float y)
  | bool (b : Bool) : Paired eq (.bool b) (.bool b)

section

variable {eq : Float → Float → Bool}

/-- Children are equal when they are of one kind and have equal contents. -/
theorem Child.equalBy_iff_paired {c d : Child} : c.EqualBy eq d ↔ c.Paired eq d := by
  constructor
  · intro h
    cases c <;> cases d <;> simp only [EqualBy, beqBy, Bool.false_eq_true, beq_iff_eq] at h
    case nil.nil => exact .nil
    case node.node => exact .node h
    case float.float => exact .float h
    all_goals subst h
    case sym.sym => exact .sym _
    case str.str => exact .str _
    case int.int => exact .int _
    case bool.bool => exact .bool _
  · intro h
    cases h with
    | node h => simpa only [EqualBy, beqBy] using h
    | float h => simpa only [EqualBy, beqBy] using h
    | _ => simp [EqualBy, beqBy]

theorem Child.beqListBy_iff {cs ds : List Child} :
    Child.beqListBy eq cs ds = true ↔ List.Forall₂ (Child.EqualBy eq) cs ds := by
  induction cs generalizing ds with
  | nil => cases ds <;> simp [beqListBy]
  | cons c cs ih => cases ds <;> simp [beqListBy, ih]

/-- Nodes are equal when their types and their children are. -/
theorem Node.equalBy_iff {a b : Node} :
    a.EqualBy eq b ↔ a.type = b.type ∧ List.Forall₂ (Child.EqualBy eq) a.children b.children := by
  cases a with
  | mk id type children span =>
    cases b with
    | mk id' type' children' span' =>
      simp [EqualBy, beqBy, Child.beqListBy_iff, Node.type, Node.children]

end

/-! ### Lists of related items -/

section Related

variable {α β : Type} {R : α → β → Prop} {as : List α} {bs : List β}

theorem rel_getElem? (h : List.Forall₂ R as bs) (i : Nat) : Option.Rel R as[i]? bs[i]? := by
  induction h generalizing i with
  | nil => exact .none
  | cons first _ ih =>
    cases i with
    | zero => exact .some first
    | succ i => simpa only [List.getElem?_cons_succ] using ih i

theorem rel_getLast? (h : List.Forall₂ R as bs) : Option.Rel R as.getLast? bs.getLast? := by
  rw [List.getLast?_eq_getElem?, List.getLast?_eq_getElem?, h.length_eq]
  exact rel_getElem? h _

theorem rel_dropLast (h : List.Forall₂ R as bs) : List.Forall₂ R as.dropLast bs.dropLast := by
  rw [List.dropLast_eq_take, List.dropLast_eq_take, h.length_eq]
  exact List.forall₂_take _ h

theorem rel_getD {x : Option α} {y : Option β} {a : α} {b : β} (h : Option.Rel R x y)
    (default : R a b) : R (x.getD a) (y.getD b) := by
  cases h with
  | some h => exact h
  | none => exact default

theorem rel_isSome {x : Option α} {y : Option β} (h : Option.Rel R x y) :
    x.isSome = y.isSome := by
  cases h <;> rfl

theorem rel_bind {γ δ : Type} {S : γ → δ → Prop} {x : Option α} {y : Option β}
    {f : α → Option γ} {g : β → Option δ} (h : Option.Rel R x y)
    (step : ∀ a b, R a b → Option.Rel S (f a) (g b)) : Option.Rel S (x.bind f) (y.bind g) := by
  cases h with
  | some h => exact step _ _ h
  | none => exact .none

/-- Two searches that agree on related items find related items, or nothing. -/
theorem rel_find? {p : α → Bool} {q : β → Bool} (agree : ∀ a b, R a b → p a = q b)
    (h : List.Forall₂ R as bs) : Option.Rel R (as.find? p) (bs.find? q) := by
  induction h with
  | nil => exact .none
  | @cons a b as bs first _ ih =>
    rw [List.find?_cons, List.find?_cons, agree a b first]
    cases q b with
    | true => exact .some first
    | false => exact ih

/-- What is related to related items, one by one, is related when each single one is. -/
theorem rel_of_forall₂ {γ δ : Type} {S : γ → δ → Prop} {P : α → γ → Prop} {Q : β → δ → Prop}
    {cs : List γ} {ds : List δ} (h : List.Forall₂ R as bs) (left : List.Forall₂ P as cs)
    (right : List.Forall₂ Q bs ds) (each : ∀ a b c d, R a b → P a c → Q b d → S c d) :
    List.Forall₂ S cs ds := by
  induction h generalizing cs ds with
  | nil =>
    cases left
    cases right
    exact .nil
  | cons first _ ih =>
    cases left with
    | cons hc left =>
      cases right with
      | cons hd right => exact .cons (each _ _ _ _ first hc hd) (ih left right)

end Related

/-! ### Slots and paths -/

section

variable {eq : Float → Float → Bool} {a b : Node}

theorem Child.equalBy_nil : Child.nil.EqualBy eq .nil :=
  Child.equalBy_iff_paired.mpr .nil

theorem Child.node?_equalBy {c d : Child} (h : c.EqualBy eq d) :
    Option.Rel (Node.EqualBy eq) c.node? d.node? := by
  cases Child.equalBy_iff_paired.mp h with
  | node h => exact .some h
  | _ => exact .none

theorem Child.isType_eq {c d : Child} (h : c.EqualBy eq d) (type : NodeType) :
    c.isType type = d.isType type := by
  cases Child.equalBy_iff_paired.mp h with
  | node h => simp only [isType, type?, node?, Option.map_some, (Node.equalBy_iff.mp h).1]
  | _ => rfl

/-- Equal nodes have equal children at every index, also behind the last one. -/
theorem Node.child_equalBy (h : a.EqualBy eq b) (i : Nat) :
    (a.child i).EqualBy eq (b.child i) := by
  rw [child, child, List.getD_eq_getElem?_getD, List.getD_eq_getElem?_getD]
  exact rel_getD (rel_getElem? (Node.equalBy_iff.mp h).2 i) Child.equalBy_nil

theorem Node.lastChild_equalBy (h : a.EqualBy eq b) :
    a.lastChild.EqualBy eq b.lastChild := by
  rw [lastChild, lastChild, List.getLastD_eq_getLast?, List.getLastD_eq_getLast?]
  exact rel_getD (rel_getLast? (Node.equalBy_iff.mp h).2) Child.equalBy_nil

/-- Equal nodes have equal nodes at every path, or none. -/
theorem Node.atPath?_equalBy (h : a.EqualBy eq b) (path : List Nat) :
    Option.Rel (Node.EqualBy eq) (a.atPath? path) (b.atPath? path) := by
  induction path generalizing a b with
  | nil => exact .some h
  | cons i path ih =>
    rw [atPath?, atPath?]
    refine rel_bind (rel_getElem? (Node.equalBy_iff.mp h).2 i) fun c d slot => ?_
    exact rel_bind (Child.node?_equalBy slot) fun m k below => ih below

end

end RubyTree
