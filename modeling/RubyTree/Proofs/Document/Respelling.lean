/-
The two shapes of a node.

`Respelled v w` says that `w` is `v` with any of its nodes that are written as arrays, at whatever
depth, written as objects without a range instead. A respelled value makes the same checks of its
own in the same order, and its child positions hold respelled values (`Respelled.readHead_eq`,
`Respelled.slots`), so both are read by the same steps (`readers_respelled`): with the same tree and
the same spans, or with the same fault at the same place.
-/

import RubyTree.Proofs.Document.Independence
import RubyTree.Proofs.Outcome

namespace RubyTree.Document

mutual

/-- A value is another one with some of its array nodes written as objects. -/
inductive Respelled : Json → Json → Prop where
  /-- Nothing is rewritten. -/
  | same (v : Json) : Respelled v v
  /-- An array node stays, and the values behind its tag are respelled. -/
  | array (tag : Json) {items items' : List Json} (h : RespelledItems items items') :
      Respelled (.arr (tag :: items)) (.arr (tag :: items'))
  /-- An object node stays, and the values in its member `children` are respelled. -/
  | object {members members' : List (String × Json)} {items items' : List Json}
      (typed : (members.lookup "type").isSome = true)
      (others : ∀ key, key ≠ "children" → members'.lookup key = members.lookup key)
      (old : members.lookup "children" = some (.arr items))
      (new : members'.lookup "children" = some (.arr items')) (h : RespelledItems items items') :
      Respelled (.obj members) (.obj members')
  /-- An array node, whatever its tag is, becomes an object with the tag under `type`, the respelled
  values under `children`, and no range. -/
  | swap {tag : Json} {members : List (String × Json)} {items items' : List Json}
      (type : members.lookup "type" = some tag)
      (children : members.lookup "children" = some (.arr items'))
      (range : members.lookup "range" = none) (h : RespelledItems items items') :
      Respelled (.arr (tag :: items)) (.obj members)

/-- Values are respelled one by one. -/
inductive RespelledItems : List Json → List Json → Prop where
  | nil : RespelledItems [] []
  | cons {v w : Json} {vs ws : List Json} (first : Respelled v w) (others : RespelledItems vs ws) :
      RespelledItems (v :: vs) (w :: ws)

end

theorem RespelledItems.refl (vs : List Json) : RespelledItems vs vs := by
  induction vs with
  | nil => exact .nil
  | cons v vs ih => exact .cons (.same v) ih

/-- An array node may become the object of its tag and its children. -/
theorem Respelled.pair (tag : Json) {items items' : List Json} (h : RespelledItems items items') :
    Respelled (.arr (tag :: items)) (.obj [("type", tag), ("children", .arr items')]) :=
  .swap rfl rfl rfl h

namespace Respelled

variable {v w : Json}

/-- The values at the child positions are respelled. -/
theorem slots (h : Respelled v w) : RespelledItems (Document.slots v) (Document.slots w) := by
  cases h with
  | same => exact .refl _
  | array tag h => exact h
  | object typed others old new h => simpa only [Document.slots, old, new] using h
  | swap type children range h => simpa only [Document.slots, children] using h

/-- Both of a value and its respelling are written as nodes, or neither is. -/
theorem isNodeShaped_eq (h : Respelled v w) : isNodeShaped v = isNodeShaped w := by
  cases h with
  | same => rfl
  | array tag h => rfl
  | object typed others old new h =>
    rw [isNodeShaped, isNodeShaped, others "type" (by decide)]
  | swap type children range h => rw [isNodeShaped, isNodeShaped, type, Option.isSome_some]

/-- Only nodes are rewritten. -/
theorem eq_of_scalar (h : Respelled v w) (shape : isNodeShaped v = false) : v = w := by
  cases h with
  | same => rfl
  | array tag h => cases shape
  | object typed others old new h =>
    rw [isNodeShaped, typed] at shape
    cases shape
  | swap type children range h => cases shape

/-- A respelled node makes the same checks of its own. -/
theorem readHead_eq (h : Respelled v w) : readHead v = readHead w := by
  cases h with
  | same => rfl
  | array tag h => rfl
  | object typed others old new h =>
    simp only [readHead, checkChildren, readSpan, old, new, others "type" (by decide),
      others "range" (by decide)]
  | swap type children range h =>
    -- without a range and with a list of children, the object's further checks do nothing
    simp only [readHead, checkChildren, readSpan, type, children, range, pure_bind]

end Respelled

/-- A respelled value is read by the same steps. -/
theorem readers_respelled :
    (∀ v, ∀ w, Respelled v w → readNode v = readNode w) ∧
      (∀ parent i vs, ∀ ws, RespelledItems vs ws →
        readChildren parent i vs = readChildren parent i ws) ∧
      (∀ parent v, ∀ w, Respelled v w → readChild parent v = readChild parent w) := by
  refine ReadingCases.all ⟨?node, ?nil, ?cons, ?child⟩
  case node =>
    intro v ih w h
    have children : ∀ type, readChildren type 0 (slots v) = readChildren type 0 (slots w) :=
      fun type => ih type _ h.slots
    rw [readNode, readNode, h.readHead_eq]
    simp only [children]
  case nil =>
    intro parent i ws h
    cases h
    rfl
  case cons =>
    intro parent i v rest first others ws h
    cases h with
    | cons hv hrest => rw [readChildren, readChildren, first _ hv, others _ hrest]
  case child =>
    intro parent v ih w h
    cases shape : isNodeShaped v with
    | true =>
      have shape' : isNodeShaped w = true := h.isNodeShaped_eq ▸ shape
      rw [readChild, readChild, if_pos shape, if_pos shape', ih shape w h]
    | false => rw [h.eq_of_scalar shape]

/-- **The two shapes of a node are interchangeable.** A value and a respelled one, read with the
same source, give trees with the same types, scalars and spans, or the same fault at the same place,
whatever was read before either of them. -/
theorem build_respelled {v w : Json} (h : Respelled v w) (source : Option Buffer)
    (forest forest' : Forest) :
    (∃ n n', (build v source forest).1 = .ok n ∧ (build w source forest').1 = .ok n' ∧
        n.plain = n'.plain) ∨
      ∃ fault, (build v source forest).1 = .error fault ∧
        (build w source forest').1 = .error fault := by
  have steps : build w source forest' = build v source forest' := by
    rw [build, build, readers_respelled.1 v w h]
  rw [steps]
  exact Outcome.map_eq_map_iff.mp (build_agree v source forest forest')

/-- An unknown tag is met at the same place below a rewritten node. -/
theorem build_respelled_fault :
    let v : Json := .arr [.str "begin", .arr [.str "lvar", .str "a"], .arr [.str "bogus"]]
    let w : Json := .obj [("type", .str "begin"), ("children",
      .arr [.obj [("type", .str "lvar"), ("children", .arr [.str "a"])], .arr [.str "bogus"]])]
    let fault : Fault := ⟨[1], .unknownTag "bogus"⟩
    Respelled v w ∧ (build v none .empty).1 = .error fault ∧
      (build w none .empty).1 = .error fault := by
  intro v w fault
  have h : Respelled v w :=
    .pair _ (.cons (.pair _ (.refl _)) (.cons (.same _) .nil))
  have read : (build v none .empty).1 = .error fault := by
    simp only [v, build, readNode, readChildren, readChild, slots, isNodeShaped]
    rfl
  refine ⟨h, read, ?_⟩
  rcases build_respelled h none .empty .empty with ⟨n, _, hn, -⟩ | ⟨other, hv, hw⟩
  · rw [read] at hn
    cases hn
  · rw [read] at hv
    cases hv
    exact hw

end RubyTree.Document
