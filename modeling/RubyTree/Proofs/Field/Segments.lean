/-
Lists as parts of a node.

`Node.Segment` says which part of a node a list is: nothing, a run of the node's own children
between two bounds in range, or all children of one child that is a wrapper. Every list that is cut
out of the children is such a part (`Node.segment_of_list`), so a list makes nothing up, repeats
nothing and keeps the order.

Where a list stands between single slots, the slots and the list together are all children of the
node, each once and in order (`Node.children_eq_clauses` and the lemmas beside it).
-/

import Mathlib.Data.List.Infix
import RubyTree.Field.Origin
import RubyTree.Proofs.Field.Support

namespace RubyTree

/-- The type of the wrapper whose children a list may be. -/
def Listing.wrapper? : Listing → Option NodeType
  | .arguments => some .args
  | .body | .ensureBody => some .beginSeq
  | .exceptions => some .arrayLit
  | _ => none

namespace Node

/-- A part of a node: nothing, a run of its children, or all children of a wrapper among them. -/
inductive Segment (n : Node) (wrapper : Option NodeType) : List Child → Prop where
  | empty : n.Segment wrapper []
  | run {start stop : Nat} (order : start ≤ stop) (inside : stop ≤ n.children.length) :
      n.Segment wrapper ((n.children.take stop).drop start)
  | inner {m : Node} (own : .node m ∈ n.children) (type : wrapper = some m.type) :
      n.Segment wrapper m.children

/-! ### Lists that are cut out -/

section Segment

variable {n : Node} {wrapper : Option NodeType} {cs : List Child}

theorem Segment.of_contiguous (h : cs <:+: n.children) : n.Segment wrapper cs := by
  obtain ⟨before, after, split⟩ := h
  have inside : before.length + cs.length ≤ n.children.length := by
    rw [← split]
    simp
  have cut : (n.children.take (before.length + cs.length)).drop before.length = cs := by
    rw [← split, ← List.length_append, List.take_left, List.drop_left]
  have run : n.Segment wrapper _ := .run (Nat.le_add_right before.length cs.length) inside
  rwa [cut] at run

theorem Segment.drop (slot : Nat) : n.Segment wrapper (n.children.drop slot) :=
  .of_contiguous (List.drop_suffix slot n.children).isInfix

theorem Segment.all : n.Segment wrapper n.children :=
  .of_contiguous (List.infix_refl n.children)

theorem Segment.dropLast : n.Segment wrapper n.children.dropLast := by
  have front : n.children.dropLast <+: n.children := List.dropLast_prefix n.children
  exact .of_contiguous front.isInfix

theorem segment_clauses : n.Segment wrapper n.clauses := by
  have front : n.clauses <+: n.children.tail := List.dropLast_prefix n.children.tail
  exact .of_contiguous (front.isInfix.trans (List.tail_suffix n.children).isInfix)

/-- A slot that is not empty is one of the children. -/
theorem mem_of_child_eq {i : Nat} {c : Child} (h : n.child i = c) (present : c ≠ .nil) :
    c ∈ n.children := by
  rcases n.child_eq_nil_or_mem i with absent | own
  · exact absurd (h.symm.trans absent) present
  · rwa [h] at own

theorem segment_unwrap {type : NodeType} (i : Nat) :
    n.Segment (some type) ((n.child i).unwrap type) := by
  have single : ∀ c, n.child i = c → c ≠ .nil → n.Segment (some type) [c] := fun c h present =>
    .of_contiguous ((List.singleton_infix_iff c n.children).mpr (mem_of_child_eq h present))
  unfold Child.unwrap
  split
  · exact .empty
  · rename_i m heq
    split
    · rename_i same
      exact .inner (mem_of_child_eq heq nofun) (congrArg some same.symm)
    · exact single _ heq nofun
  · rename_i absent _
    exact single _ rfl absent

theorem segment_statementsFrom (slot : Nat) :
    n.Segment (some .beginSeq) (n.statementsFrom slot) := by
  have rest : n.Segment (some .beginSeq) (n.children.drop slot) := .drop slot
  have own : ∀ c ∈ n.children.drop slot, c ∈ n.children := fun c => List.mem_of_mem_drop
  unfold statementsFrom
  split
  · exact .empty
  · exact .empty
  · rename_i m others heq
    rw [heq] at rest own
    split
    · rename_i same
      exact .inner (own _ List.mem_cons_self) (congrArg some same.symm)
    · exact rest
  · rename_i heq
    rwa [heq] at rest

/-- Every list that is cut out of the children is a part of the node. -/
theorem segment_of_list {l : Listing}
    (h : l ∈ [.arguments, .body, .elements, .whenStatements, .inStatements, .rescueBodies,
      .ensureBody, .exceptions]) (hl : n.list l = .ok cs) : n.Segment l.wrapper? cs := by
  cases l with
  | arguments =>
    simp only [list, arguments] at hl
    split at hl <;> cases hl
    -- definitions and blocks have a slot for their parameters, calls have arguments at their end
    case h_1 | h_2 | h_3 => exact segment_unwrap _
    case h_4 | h_5 | h_6 => exact .drop _
    all_goals exact .all
  | body =>
    simp only [list, body] at hl
    split at hl <;> cases hl
    -- a sequence is its own body, and the last four types have theirs in the first slot
    case h_1 | h_2 => exact .all
    case h_18 | h_19 | h_20 | h_21 => exact segment_unwrap _
    all_goals exact segment_statementsFrom _
  | elements =>
    simp only [list, elements] at hl
    split at hl <;> cases hl
    -- only a regular expression has a child that is no element
    case h_12 => exact .dropLast
    all_goals exact .all
  | whenStatements | inStatements | rescueBodies =>
    simp only [list, whenStatements, inStatements, rescueBodies] at hl
    split at hl <;> cases hl
    exact segment_clauses
  | ensureBody =>
    simp only [list, ensureBody] at hl
    split at hl <;> cases hl
    exact segment_statementsFrom 1
  | exceptions =>
    simp only [list, exceptions] at hl
    split at hl <;> cases hl
    exact segment_unwrap 0
  | pairs | kwsplats | keys | values => simp at h

end Segment

/-! ### Slots and lists that share the children -/

section Cover

variable {n : Node}

theorem children_eq_dropLast (h : n.children ≠ []) :
    n.children = n.children.dropLast ++ [n.lastChild] := by
  have last : n.lastChild = n.children.getLast h := by
    rw [lastChild, List.getLastD_eq_getLast?, List.getLast?_eq_some_getLast h, Option.getD_some]
  rw [last, List.dropLast_concat_getLast h]

theorem exists_two_children (h : 2 ≤ n.children.length) :
    ∃ a b rest, n.children = a :: b :: rest := by
  match hc : n.children with
  | [] | [_] => simp [hc] at h
  | a :: b :: rest => exact ⟨a, b, rest, rfl⟩

/-- Between the first and the last child stand the clauses. -/
theorem children_eq_clauses (h : 2 ≤ n.children.length) :
    n.children = [n.child 0] ++ n.clauses ++ [n.lastChild] := by
  obtain ⟨a, b, rest, hc⟩ := exists_two_children h
  have whole : n.children = n.children.dropLast ++ [n.lastChild] :=
    children_eq_dropLast (by rw [hc]; exact List.cons_ne_nil _ _)
  have inner : n.children.dropLast = [n.child 0] ++ n.clauses := by
    simp only [child, clauses, hc]
    rfl
  rw [← inner, ← whole]

/-- The first children, one by one, and then the others. -/
theorem children_eq_drop {count : Nat} (h : count ≤ n.children.length) :
    n.children = (List.range count).map n.child ++ n.children.drop count := by
  have front : n.children.take count = (List.range count).map n.child := by
    refine List.ext_getElem (by simp [h]) fun i inside _ => ?_
    have within : i < n.children.length := by
      rw [List.length_take] at inside
      omega
    simp [child, within]
  rw [← front, List.take_append_drop]

/-- **Lists lose nothing, repeat nothing and keep the order.** The slots and the list of a call, an
index, a `case`, a `rescue` and a regular expression are together all its children, in order. And on
every node, a list that is supported is empty, a run of the node's own children within its bounds,
or all children of one wrapper among them. -/
theorem lists_cover_children (n : Node) :
    (n.type ∈ [.send, .csend] → 2 ≤ n.children.length → ∃ receiver message arguments,
      n.get .receiver = .ok receiver ∧ n.get .message = .ok message ∧
        n.list .arguments = .ok arguments ∧ n.children = [receiver, message] ++ arguments) ∧
    (n.type = .indexCall → 1 ≤ n.children.length → ∃ receiver arguments,
      n.get .receiver = .ok receiver ∧ n.list .arguments = .ok arguments ∧
        n.children = [receiver] ++ arguments) ∧
    (∀ l, (n.type, l) ∈ [(.caseWhen, .whenStatements), (.caseMatch, .inStatements)] →
      2 ≤ n.children.length → ∃ expression clauses otherwise,
        n.get .expression = .ok expression ∧ n.list l = .ok clauses ∧
          n.get .elseStatement = .ok otherwise ∧
            n.children = [expression] ++ clauses ++ [otherwise]) ∧
    (n.type = .rescueClause → 2 ≤ n.children.length → ∃ first handlers otherwise,
      n.children[0]? = some first ∧ n.list .rescueBodies = .ok handlers ∧
        n.get .elseStatement = .ok otherwise ∧ n.children = [first] ++ handlers ++ [otherwise]) ∧
    (n.type = .regexpLit → n.children ≠ [] → ∃ elements options,
      n.list .elements = .ok elements ∧ n.get .options = .ok options ∧
        n.children = elements ++ [options]) ∧
    (∀ l ∈ [.arguments, .body, .elements, .whenStatements, .inStatements, .rescueBodies,
        .ensureBody, .exceptions],
      ∀ cs, n.list l = .ok cs → n.Segment l.wrapper? cs) := by
  have slot : ∀ {name i}, Schema.fieldIndex? n.type name = some i →
      Schema.isListField name = false → n.positional name = .ok (n.child i) :=
    fun index single => positional_eq_ok_iff.mpr ⟨_, index, single, rfl⟩
  refine ⟨?_, ?_, ?_, ?_, ?_, fun l hl cs h => segment_of_list hl h⟩
  · intro ht two
    simp only [List.mem_cons, List.not_mem_nil, or_false] at ht
    refine ⟨n.child 0, n.child 1, n.children.drop 2, ?_, ?_, ?_, children_eq_drop two⟩
    · rcases ht with ht | ht <;> exact slot (by rw [ht]; rfl) rfl
    · rcases ht with ht | ht <;> exact slot (by rw [ht]; rfl) rfl
    · rcases ht with ht | ht <;> simp only [list, arguments, ht]
  · intro ht one
    refine ⟨n.child 0, n.children.drop 1, slot (by rw [ht]; rfl) rfl, ?_, children_eq_drop one⟩
    simp only [list, arguments, ht]
  · intro l ht two
    simp only [List.mem_cons, Prod.mk.injEq, List.not_mem_nil, or_false] at ht
    refine ⟨n.child 0, n.clauses, n.lastChild, ?_, ?_, ?_, children_eq_clauses two⟩
    · rcases ht with ⟨ht, -⟩ | ⟨ht, -⟩ <;> exact slot (by rw [ht]; rfl) rfl
    · rcases ht with ⟨ht, rfl⟩ | ⟨ht, rfl⟩ <;> simp only [list, whenStatements, inStatements, ht]
    · rcases ht with ⟨ht, -⟩ | ⟨ht, -⟩ <;> simp only [get, elseStatement, ht]
  · intro ht two
    obtain ⟨a, b, rest, hc⟩ := exists_two_children two
    have first : n.children[0]? = some (n.child 0) := by simp [child, hc]
    refine ⟨n.child 0, n.clauses, n.lastChild, first, ?_, ?_, children_eq_clauses two⟩
    · simp only [list, rescueBodies, ht]
    · simp only [get, elseStatement, ht]
  · intro ht some
    refine ⟨n.children.dropLast, n.lastChild, ?_, ?_, children_eq_dropLast some⟩
    · simp only [list, elements, ht]
    · simp only [get, options, ht]

end Cover

end Node

end RubyTree
