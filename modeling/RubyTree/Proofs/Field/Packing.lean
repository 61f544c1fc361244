/-
Lists that stand packed in one slot.

A construct keeps a list in a single slot: nothing as `nil`, one item as it is, and several items in
a wrapper node (`Child.pack`). `PackedSlot` says where the slots are: bodies in `begin` wrappers,
parameters in `args`, exception classes in `array`, with the children that stand in front of the
slot and behind it.

* `Child.unwrap_pack` — unwrapping undoes packing, unless a single item is itself `nil` or a
  wrapper.
* `PackedSlot.list_eq` — on each of these nodes the list is what its slot unwraps to, whatever the
  other children are.
-/

import RubyTree.Field.Basic

namespace RubyTree

/-! ### Packing a list -/

namespace Child

/-- A list in one slot: `nil` for the empty one, a single item as it is, and else a wrapper with the
items as its children. -/
def pack (wrapper : NodeType) (id : Nat) (span : Option Span) : List Child → Child
  | [] => .nil
  | [c] => c
  | cs => .node (.mk id wrapper cs span)

/-- A list that can be told from its packed form: a single item is neither `nil` nor a wrapper. -/
def Packable (wrapper : NodeType) (cs : List Child) : Prop :=
  ∀ c, cs = [c] → c ≠ .nil ∧ c.isType wrapper = false

theorem unwrap_wrapper (wrapper : NodeType) (id : Nat) (cs : List Child) (span : Option Span) :
    (Child.node (.mk id wrapper cs span)).unwrap wrapper = cs := by
  simp only [unwrap, Node.type, Node.children, if_true]

/-- A child that is neither `nil` nor a wrapper stands for itself. -/
theorem unwrap_single {wrapper : NodeType} {c : Child} (present : c ≠ .nil)
    (bare : c.isType wrapper = false) : c.unwrap wrapper = [c] := by
  cases c with
  | nil => exact absurd rfl present
  | node n =>
    have other : n.type ≠ wrapper := by simpa [isType, type?, node?] using bare
    simp only [unwrap, if_neg other]
  | _ => rfl

/-- Unwrapping undoes packing. -/
theorem unwrap_pack {wrapper : NodeType} {cs : List Child} (h : Packable wrapper cs) (id : Nat)
    (span : Option Span) : (pack wrapper id span cs).unwrap wrapper = cs := by
  match cs with
  | [] => rfl
  | [c] =>
    obtain ⟨present, bare⟩ := h c rfl
    exact unwrap_single present bare
  | c :: d :: cs => exact unwrap_wrapper wrapper id (c :: d :: cs) span

end Child

/-! ### The slots -/

/-- The slot in which a list of a node of a type stands packed: the wrapper of several items, and
the children in front of the slot and behind it. A body behind other children is in the last slot of
its node, while a slot that is read by its index alone may have any children behind it. -/
inductive PackedSlot :
    Listing → (type wrapper : NodeType) → (before after : List Child) → Prop where
  | bodyThird {type : NodeType} (a b : Child)
      (h : type ∈ [.methodDef, .block, .numblock, .classDef, .forLoop, .inPattern, .resbody]) :
      PackedSlot .body type .beginSeq [a, b] []
  | bodySecond {type : NodeType} (a : Child)
      (h : type ∈ [.moduleDef, .singletonClass, .whileLoop, .untilLoop, .whilePost, .untilPost]) :
      PackedSlot .body type .beginSeq [a] []
  | bodyFourth (a b c : Child) : PackedSlot .body .singletonDef .beginSeq [a, b, c] []
  | bodyLast (conditions : List Child) : PackedSlot .body .whenClause .beginSeq conditions []
  | bodyFirst {type : NodeType} (others : List Child)
      (h : type ∈ [.rescueClause, .ensureClause, .preexe, .postexe]) :
      PackedSlot .body type .beginSeq [] others
  | ensureBody (a : Child) : PackedSlot .ensureBody .ensureClause .beginSeq [a] []
  | parameters {type : NodeType} (a : Child) (others : List Child)
      (h : type ∈ [.methodDef, .block]) : PackedSlot .arguments type .args [a] others
  | singletonParameters (a b : Child) (others : List Child) :
      PackedSlot .arguments .singletonDef .args [a, b] others
  | exceptions (others : List Child) : PackedSlot .exceptions .resbody .arrayLit [] others

namespace Node

theorem child_of_append {n : Node} {before after : List Child} {c : Child}
    (h : n.children = before ++ c :: after) : n.child before.length = c := by
  unfold child
  rw [h]
  simp

/-- From the last slot on, the statements are what this slot unwraps to. -/
theorem statementsFrom_of_append {n : Node} {before : List Child} {c : Child}
    (h : n.children = before ++ [c]) :
    n.statementsFrom before.length = c.unwrap .beginSeq := by
  unfold statementsFrom
  rw [h, List.drop_left]
  cases c <;> rfl

end Node

/-- A list that stands packed is what its slot unwraps to. -/
theorem PackedSlot.list_eq {n : Node} {l : Listing} {type wrapper : NodeType}
    {before after : List Child} {c : Child} (slot : PackedSlot l type wrapper before after)
    (ht : n.type = type) (hc : n.children = before ++ c :: after) :
    n.list l = .ok (c.unwrap wrapper) := by
  cases slot with
  | bodyThird a b h =>
    rw [← Node.statementsFrom_of_append hc]
    simp only [List.mem_cons, List.not_mem_nil, or_false] at h
    rcases h with rfl | rfl | rfl | rfl | rfl | rfl | rfl <;>
      simp only [Node.list, Node.body, ht, List.length_cons, List.length_nil]
  | bodySecond a h =>
    rw [← Node.statementsFrom_of_append hc]
    simp only [List.mem_cons, List.not_mem_nil, or_false] at h
    rcases h with rfl | rfl | rfl | rfl | rfl | rfl <;>
      simp only [Node.list, Node.body, ht, List.length_cons, List.length_nil]
  | bodyFourth a b c =>
    rw [← Node.statementsFrom_of_append hc]
    simp only [Node.list, Node.body, ht, List.length_cons, List.length_nil]
  | bodyLast conditions =>
    have last : n.children.length - 1 = before.length := by
      rw [hc]
      simp
    rw [← Node.statementsFrom_of_append hc]
    simp only [Node.list, Node.body, ht, last]
  | bodyFirst others h =>
    rw [← Node.child_of_append hc]
    simp only [List.mem_cons, List.not_mem_nil, or_false] at h
    rcases h with rfl | rfl | rfl | rfl <;>
      simp only [Node.list, Node.body, ht, List.length_nil]
  | ensureBody a =>
    rw [← Node.statementsFrom_of_append hc]
    simp only [Node.list, Node.ensureBody, ht, List.length_cons, List.length_nil]
  | parameters a others h =>
    rw [← Node.child_of_append hc]
    simp only [List.mem_cons, List.not_mem_nil, or_false] at h
    rcases h with rfl | rfl <;>
      simp only [Node.list, Node.arguments, ht, List.length_cons, List.length_nil]
  | singletonParameters a b others =>
    rw [← Node.child_of_append hc]
    simp only [Node.list, Node.arguments, ht, List.length_cons, List.length_nil]
  | exceptions others =>
    rw [← Node.child_of_append hc]
    simp only [Node.list, Node.exceptions, ht, List.length_nil]

/-- **Reading a list undoes packing it.** A node with a list packed in the slot of this list gives
the list back, whatever its other children are, as long as a single item is neither `nil` nor a
wrapper. A wrapper in the slot gives its children, however many there are. -/
theorem Node.list_of_packed {l : Listing} {type wrapper : NodeType} {before after : List Child}
    (slot : PackedSlot l type wrapper before after) (id : Nat) (span : Option Span)
    (items : List Child) (wrapperId : Nat) (wrapperSpan : Option Span) :
    (Child.Packable wrapper items →
      (Node.mk id type (before ++ Child.pack wrapper wrapperId wrapperSpan items :: after)
        span).list l = .ok items) ∧
    (Node.mk id type (before ++ .node (.mk wrapperId wrapper items wrapperSpan) :: after)
      span).list l = .ok items := by
  constructor
  · intro packable
    rw [slot.list_eq rfl rfl, Child.unwrap_pack packable]
  · rw [slot.list_eq rfl rfl, Child.unwrap_wrapper]

/-- A `when` with two conditions and one statement, and with an empty `begin` in place of it. -/
theorem Node.list_of_packed_when :
    let call (name : String) : Child := .node (.mk 0 .send [.nil, .sym name] none)
    (Node.mk 2 .whenClause [call "a", call "b", call "c"] none).body = .ok [call "c"] ∧
      (Node.mk 2 .whenClause [call "a", call "b", .node (.mk 1 .beginSeq [] none)] none).body =
        .ok [] := by
  intro call
  have slot := PackedSlot.bodyLast [call "a", call "b"]
  have packable : Child.Packable .beginSeq [call "c"] := by
    intro c hc
    cases hc
    exact ⟨nofun, rfl⟩
  exact ⟨(Node.list_of_packed slot 2 none [call "c"] 1 none).1 packable,
    (Node.list_of_packed slot 2 none [] 1 none).2⟩

end RubyTree
