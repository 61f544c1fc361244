/-
Descent through a document.

`Leads v path w` follows child indices through a value: from a node to one of the items behind its
tag or in its member `children`, as long as each step lands on a value that is again written as a
node. It is stated on the two shapes of a node and mentions neither the reading nor the tree.

* `DenotesNode.agree_at_index` — one step: below a value that denotes a tree, an index leads to a
  node exactly where the tree has one, and there the value denotes the node.
* `DenotesNode.agree_along_path` — the same along a whole path.

What a value denotes depends on the source alone, not on the values around it. So a value below
another one is read by itself as the tree that stands at its place in the whole.
-/

import Mathlib.Data.List.Forall2
import RubyTree.Proofs.Document.Grammar
import RubyTree.Proofs.Node.Descent

namespace RubyTree

/-! ### Plain trees below a plain tree -/

def Plain.span : Plain → Option Span
  | .node _ _ span => span
  | _ => none

/-- The plain tree at a list of child indices; a scalar is none. -/
def Plain.atPath? : Plain → List Nat → Option Plain
  | .node type children span, [] => some (.node type children span)
  | .node _ children _, i :: path => children[i]?.bind (fun c => c.atPath? path)
  | _, _ => none

theorem Child.atPath?_plain (c : Child) (path : List Nat) :
    c.plain.atPath? path = (c.node?.bind (fun n => n.atPath? path)).map Node.plain := by
  induction path generalizing c with
  | nil =>
    cases c with
    | node n =>
      obtain ⟨id, type, children, span⟩ := n
      rfl
    | _ => rfl
  | cons i path ih =>
    cases c with
    | node n =>
      obtain ⟨id, type, children, span⟩ := n
      have item : (Child.plains children)[i]? = children[i]?.map Child.plain := by
        rw [Child.plains_eq_map, List.getElem?_map]
      show (Child.plains children)[i]?.bind (fun c => c.atPath? path) =
        (Node.atPath? (.mk id type children span) (i :: path)).map Node.plain
      rw [item, Node.atPath?_cons]
      simp only [Node.children]
      cases children[i]? with
      | none => rfl
      | some c => exact ih c
    | _ => rfl

/-- Descent commutes with forgetting identities. -/
theorem Node.atPath?_plain (n : Node) (path : List Nat) :
    n.plain.atPath? path = (n.atPath? path).map Node.plain :=
  Child.atPath?_plain (.node n) path

theorem Node.span_plain (n : Node) : n.plain.span = n.span := by
  obtain ⟨_, _, _, _⟩ := n
  rfl

/-- Nodes with the same plain tree have the same spans at every path. -/
theorem Node.map_span_atPath?_congr {a b : Node} (h : a.plain = b.plain) (path : List Nat) :
    (a.atPath? path).map Node.span = (b.atPath? path).map Node.span := by
  have spans : ∀ n : Node,
      (n.atPath? path).map Node.span = (n.plain.atPath? path).map Plain.span := by
    intro n
    rw [n.atPath?_plain, Option.map_map]
    exact congrArg (Option.map · (n.atPath? path)) (funext fun m => m.span_plain.symm)
  rw [spans a, spans b, h]

namespace Document

/-! ### The way through a value -/

/-- A value is written as a node: it is an array, or an object with the key `type`. -/
inductive NodeShaped : Json → Prop where
  | array (items : List Json) : NodeShaped (.arr items)
  | object {members : List (String × Json)} {tag : Json}
      (typed : members.lookup "type" = some tag) : NodeShaped (.obj members)

/-- A child index leads from a node to a node below it: to an item behind the tag of an array, or to
an item of the member `children` of an object. -/
inductive Enters : Json → Nat → Json → Prop where
  | array {tag u : Json} {items : List Json} {i : Nat} (item : items[i]? = some u)
      (shape : NodeShaped u) : Enters (.arr (tag :: items)) i u
  | object {members : List (String × Json)} {tag u : Json} {items : List Json} {i : Nat}
      (typed : members.lookup "type" = some tag)
      (children : members.lookup "children" = some (.arr items)) (item : items[i]? = some u)
      (shape : NodeShaped u) : Enters (.obj members) i u

/-- Child indices lead from a value to another one, step by step. -/
inductive Leads : Json → List Nat → Json → Prop where
  | here (v : Json) : Leads v [] v
  | step {v u w : Json} {i : Nat} {path : List Nat} (first : Enters v i u)
      (rest : Leads u path w) : Leads v (i :: path) w

theorem isNodeShaped_iff {v : Json} : isNodeShaped v = true ↔ NodeShaped v := by
  constructor
  · intro h
    cases v with
    | arr items => exact .array items
    | obj members =>
      obtain ⟨tag, typed⟩ := Option.isSome_iff_exists.mp h
      exact .object typed
    | _ => cases h
  · intro h
    cases h with
    | array items => rfl
    | object typed => simp only [isNodeShaped, typed, Option.isSome_some]

/-- Below a node that passes its own checks, an index leads to the items that are written as
nodes. -/
theorem DenotesHead.enters_iff {source : Option Buffer} {v u : Json} {type : NodeType}
    {span : Option Span} {items : List Json} {i : Nat}
    (h : DenotesHead source v type span items) :
    Enters v i u ↔ items[i]? = some u ∧ NodeShaped u := by
  constructor
  · intro enters
    cases enters with
    | array item shape =>
      cases h
      exact ⟨item, shape⟩
    | object typed children item shape =>
      have same := h.slots_eq
      simp only [slots, children] at same
      rw [← same]
      exact ⟨item, shape⟩
  · rintro ⟨item, shape⟩
    cases h with
    | array => exact .array item shape
    | object tag hitems hspan =>
      cases hitems with
      | absent => cases item
      | null => cases item
      | array children => exact .object tag children item shape

/-! ### One step and a whole path -/

section Descent

variable {source : Option Buffer}

/-- Values are written for children when each of them is written for the child at its place. -/
theorem denotesChildren_iff {parent : NodeType} {vs : List Json} {ts : List Plain} :
    DenotesChildren source parent vs ts ↔ List.Forall₂ (DenotesChild source parent) vs ts := by
  constructor
  · intro h
    induction vs generalizing ts with
    | nil =>
      cases h
      exact .nil
    | cons v vs ih =>
      cases h with
      | cons first others => exact .cons first (ih others)
  · intro h
    induction h with
    | nil => exact .nil
    | cons first _ ih => exact .cons first ih

/-- At a child position stands a node exactly when the value there is written as one, and the value
denotes the node whatever the type of the parent is. -/
theorem DenotesChild.agree_on_nodes {parent : NodeType} {u : Json} {c : Child}
    (h : DenotesChild source parent u c.plain) :
    (∀ n, c = .node n → NodeShaped u ∧ DenotesNode source u n.plain) ∧
      (NodeShaped u → ∃ n, c = .node n) := by
  cases h with
  | scalar h =>
    constructor
    · -- no scalar has the plain form of a node
      rintro ⟨_, _, _, _⟩ rfl
      cases h
    · intro shape
      have no := h.isNodeShaped
      rw [isNodeShaped_iff.mpr shape] at no
      cases no
  | node h =>
    obtain ⟨type, span, items, children, head, -, plain⟩ := denotesNode_iff.mp h
    constructor
    · rintro n rfl
      exact ⟨isNodeShaped_iff.mp head.isNodeShaped, h⟩
    · intro _
      cases c with
      | node n => exact ⟨n, rfl⟩
      | _ => cases plain

/-- Children denoted one by one stand at the indices of the values that denote them. -/
theorem DenotesChildren.agree_at_index {parent : NodeType} {items : List Json} {cs : List Child}
    (h : DenotesChildren source parent items (Child.plains cs)) (i : Nat) :
    (∀ c, cs[i]? = some c → ∃ u, items[i]? = some u ∧ DenotesChild source parent u c.plain) ∧
      ∀ u, items[i]? = some u → ∃ c, cs[i]? = some c ∧ DenotesChild source parent u c.plain := by
  rw [denotesChildren_iff, Child.plains_eq_map, List.forall₂_map_right_iff] at h
  obtain ⟨length, pointwise⟩ := List.forall₂_iff_get.mp h
  constructor
  · intro c hc
    obtain ⟨inside, rfl⟩ := List.getElem?_eq_some_iff.mp hc
    have inside' : i < items.length := length ▸ inside
    exact ⟨items[i], List.getElem?_eq_getElem inside', pointwise i inside' inside⟩
  · intro u hu
    obtain ⟨inside, rfl⟩ := List.getElem?_eq_some_iff.mp hu
    have inside' : i < cs.length := length ▸ inside
    exact ⟨cs[i], List.getElem?_eq_getElem inside', pointwise i inside inside'⟩

/-- One step: an index leads below a value that denotes a tree exactly when the tree has a node at
that index, and the value it leads to denotes that node. -/
theorem DenotesNode.agree_at_index {v : Json} {n : Node} (h : DenotesNode source v n.plain)
    (i : Nat) :
    (∀ m, n.children[i]? = some (.node m) → ∃ u, Enters v i u ∧ DenotesNode source u m.plain) ∧
      ∀ u, Enters v i u →
        ∃ m, n.children[i]? = some (.node m) ∧ DenotesNode source u m.plain := by
  obtain ⟨id, type, cs, span⟩ := n
  obtain ⟨_, _, items, _, head, below, plain⟩ := denotesNode_iff.mp h
  cases plain
  obtain ⟨values, children⟩ := below.agree_at_index i
  constructor
  · intro m hm
    obtain ⟨u, item, denoted⟩ := values (.node m) hm
    obtain ⟨shape, hu⟩ := denoted.agree_on_nodes.1 m rfl
    exact ⟨u, head.enters_iff.mpr ⟨item, shape⟩, hu⟩
  · intro u enters
    obtain ⟨item, shape⟩ := head.enters_iff.mp enters
    obtain ⟨c, hc, denoted⟩ := children u item
    obtain ⟨m, rfl⟩ := denoted.agree_on_nodes.2 shape
    exact ⟨m, hc, (denoted.agree_on_nodes.1 m rfl).2⟩

/-- A whole path leads below a value that denotes a tree exactly when the tree has a node there, and
the value at its end denotes that node. -/
theorem DenotesNode.agree_along_path {v : Json} {n : Node} (h : DenotesNode source v n.plain)
    (path : List Nat) :
    (∀ m, n.atPath? path = some m → ∃ w, Leads v path w ∧ DenotesNode source w m.plain) ∧
      ∀ w, Leads v path w → ∃ m, n.atPath? path = some m ∧ DenotesNode source w m.plain := by
  induction path generalizing v n with
  | nil =>
    constructor
    · intro m hm
      cases hm
      exact ⟨v, .here v, h⟩
    · intro w way
      cases way
      exact ⟨n, rfl, h⟩
  | cons i path ih =>
    have step : ∀ m, n.atPath? (i :: path) = some m ↔
        ∃ k, n.children[i]? = some (.node k) ∧ k.atPath? path = some m := by
      intro m
      rw [← List.singleton_append, Node.atPath?_append, Option.bind_eq_some_iff]
      simp only [Node.atPath?_singleton]
    constructor
    · intro m hm
      obtain ⟨k, hk, rest⟩ := (step m).mp hm
      obtain ⟨u, enters, hu⟩ := (h.agree_at_index i).1 k hk
      obtain ⟨w, way, hw⟩ := (ih hu).1 m rest
      exact ⟨w, .step enters way, hw⟩
    · intro w way
      cases way with
      | step enters rest =>
        obtain ⟨k, hk, hu⟩ := (h.agree_at_index i).2 _ enters
        obtain ⟨m, hm, hw⟩ := (ih hu).2 w rest
        exact ⟨m, (step m).mpr ⟨k, hk, hm⟩, hw⟩

end Descent

/-- **Reading commutes with descent.** A tree that is read from a value has a node at a path exactly
when the path leads through the value to values that are written as nodes. And reading the value at
its end alone, with the same source and into whatever forest, gives a tree with the same types and
scalars as that node, and with the same spans at every path below it. -/
theorem build_descends {v : Json} {source : Option Buffer} {forest : Forest} {t : Node}
    (h : (build v source forest).1 = .ok t) (path : List Nat) :
    ((∃ d, t.atPath? path = some d) ↔ ∃ w, Leads v path w) ∧
      ∀ d w, t.atPath? path = some d → Leads v path w → ∀ forest' : Forest,
        ∃ d', (build w source forest').1 = .ok d' ∧ d'.plain = d.plain ∧
          ∀ below, (d'.atPath? below).map Node.span = (d.atPath? below).map Node.span := by
  have run : Yields (readNode v) ⟨source, [], forest, []⟩ t (build v source forest).2 :=
    Prod.ext h rfl
  have denoted : DenotesNode source v t.plain := readers_sound.1 v run
  obtain ⟨down, up⟩ := denoted.agree_along_path path
  refine ⟨⟨?_, ?_⟩, ?_⟩
  · rintro ⟨d, hd⟩
    obtain ⟨w, way, -⟩ := down d hd
    exact ⟨w, way⟩
  · rintro ⟨w, way⟩
    obtain ⟨d, hd, -⟩ := up w way
    exact ⟨d, hd⟩
  · intro d w hd way forest'
    obtain ⟨m, hm, hw⟩ := up w way
    obtain rfl : m = d := Option.some.inj (hm.symm.trans hd)
    obtain ⟨d', b, read, plain⟩ := readers_complete.1 w ⟨source, [], forest', []⟩ _ hw
    exact ⟨d', congrArg Prod.fst read, plain, Node.map_span_atPath?_congr plain⟩

/-- An object with a range below an array: its place leads to it, and the string beside it, which is
no symbol under its parent, is passed by. -/
theorem build_descends_call :
    let b : Buffer := ⟨0, none, "é x"⟩
    let call : Json := .obj [("type", .str "send"), ("children", .arr [.null, .str "é",
      .arr [.str "lvar", .str "x"]]), ("range", .arr [.num (.int 0), .num (.int 4)])]
    let v : Json := .arr [.str "str", .str "s", call]
    let d : Node := .mk 1 .send [.nil, .sym "é", .node (.mk 0 .lvar [.sym "x"] none)]
      (some ⟨b, 0, 4, by decide⟩)
    let t : Node := .mk 2 .strLit [.str "s", .node d] none
    (build v (some b) .empty).1 = .ok t ∧ t.atPath? [1] = some d ∧ Leads v [1] call ∧
      (∃ d', (build call (some b) .empty).1 = .ok d' ∧ d'.plain = d.plain ∧
        ∀ below, (d'.atPath? below).map Node.span = (d.atPath? below).map Node.span) ∧
      ¬ ∃ w, Leads v [0] w := by
  intro b call v d t
  have read : (build v (some b) .empty).1 = .ok t := by
    -- the readers open only at slots that are lists already
    have vSlots : slots v = [.str "s", call] := rfl
    have callSlots : slots call = [.null, .str "é", .arr [.str "lvar", .str "x"]] := rfl
    have callShaped : isNodeShaped call = true := rfl
    have leafSlots : slots (.arr [.str "lvar", .str "x"]) = [.str "x"] := rfl
    have leafShaped : isNodeShaped (.arr [.str "lvar", .str "x"]) = true := rfl
    simp only [build, readNode, readChildren, readChild, vSlots, callSlots, callShaped, leafSlots,
      leafShaped]
    simp only [v, call, t, d, b]
    rfl
  have way : Leads v [1] call := .step (.array rfl (.object rfl)) (.here call)
  refine ⟨read, rfl, way, (build_descends read [1]).2 d call rfl way .empty, fun scalar => ?_⟩
  obtain ⟨m, hm⟩ := (build_descends read [0]).1.mpr scalar
  cases hm

end Document

end RubyTree
