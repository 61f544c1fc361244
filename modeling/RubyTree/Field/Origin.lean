/-
Where the children in a field come from.

Every child in a field is a child of the node, a child of one of its children, or the `nil` that
stands for a missing slot: readers skip at most one wrapper, and none makes a node up.
-/

import RubyTree.Field.Basic

namespace RubyTree

/-- The children that a field of a node may hold. -/
inductive Node.Holds (n : Node) : Child → Prop where
  | absent : n.Holds .nil
  | own {c : Child} (h : c ∈ n.children) : n.Holds c
  | inner {m : Node} {c : Child} (hm : .node m ∈ n.children) (h : c ∈ m.children) : n.Holds c

namespace Node

/-! ### Slots -/

theorem child_eq_nil_or_mem (n : Node) (i : Nat) : n.child i = .nil ∨ n.child i ∈ n.children := by
  unfold child
  rw [List.getD_eq_getElem?_getD]
  cases h : n.children[i]? with
  | none => exact .inl rfl
  | some c => exact .inr (List.mem_of_getElem? h)

theorem holds_child (n : Node) (i : Nat) : n.Holds (n.child i) := by
  rcases n.child_eq_nil_or_mem i with h | h
  · rw [h]
    exact .absent
  · exact .own h

theorem holds_lastChild (n : Node) : n.Holds n.lastChild := by
  unfold lastChild
  rw [List.getLastD_eq_getLast?]
  cases h : n.children.getLast? with
  | none => exact .absent
  | some c => exact .own (List.mem_of_getLast? h)

/-- The first-level child below a node among the children. -/
theorem holds_child_of_mem {n m : Node} (hm : .node m ∈ n.children) (i : Nat) :
    n.Holds (m.child i) := by
  rcases m.child_eq_nil_or_mem i with h | h
  · rw [h]
    exact .absent
  · exact .inner hm h

theorem holds_unwrap {n : Node} {i : Nat} {wrapper : NodeType} {c : Child}
    (h : c ∈ (n.child i).unwrap wrapper) : n.Holds c := by
  have slot := n.child_eq_nil_or_mem i
  unfold Child.unwrap at h
  split at h
  · cases h
  · rename_i m heq
    rw [heq] at slot
    have hm : .node m ∈ n.children := slot.resolve_left nofun
    split at h
    · exact .inner hm h
    · rw [List.mem_singleton.mp h]
      exact .own hm
  · rw [List.mem_singleton.mp h]
    exact n.holds_child i

/-! ### Lists -/

theorem holds_statementsFrom {n : Node} {slot : Nat} {c : Child} (h : c ∈ n.statementsFrom slot) :
    n.Holds c := by
  have own : ∀ d ∈ n.children.drop slot, d ∈ n.children := fun d => List.mem_of_mem_drop
  unfold statementsFrom at h
  split at h
  · cases h
  · cases h
  · rename_i m rest heq
    rw [heq] at own
    split at h
    · exact .inner (own _ List.mem_cons_self) h
    · exact .own (own c h)
  · rename_i heq
    rw [heq] at own
    exact .own (own c h)

theorem holds_clauses {n : Node} {c : Child} (h : c ∈ n.clauses) : n.Holds c :=
  .own (List.mem_of_mem_tail (List.dropLast_subset _ h))

theorem mem_children_of_mem_pairNodes {n pair : Node} (h : pair ∈ n.pairNodes) :
    .node pair ∈ n.children := by
  obtain ⟨c, hc, hn⟩ := List.mem_filterMap.mp h
  have hmem : c ∈ n.children := (List.mem_filter.mp hc).1
  cases c with
  | node m =>
    cases hn
    exact hmem
  | _ => cases hn

theorem holds_pairs {n : Node} {i : Nat} {c : Child}
    (h : c ∈ n.pairNodes.map (fun pair => pair.child i)) : n.Holds c := by
  obtain ⟨pair, hp, rfl⟩ := List.mem_map.mp h
  exact holds_child_of_mem (mem_children_of_mem_pairNodes hp) i

/-- A list that only hashes have is held when its children are. -/
theorem holds_onHash {n : Node} {field : String} {value cs : List Child} {c : Child}
    (h : n.onHash field value = .ok cs) (hc : c ∈ cs) (hv : ∀ d ∈ value, n.Holds d) :
    n.Holds c := by
  unfold onHash at h
  split at h
  · cases h
    exact hv c hc
  · cases h

/-- Every child in a list of a node is one that the node holds. -/
theorem holds_of_list {n : Node} {l : Listing} {cs : List Child} {c : Child}
    (h : n.list l = .ok cs) (hc : c ∈ cs) : n.Holds c := by
  cases l with
  | arguments =>
    simp only [list, arguments] at h
    split at h <;> cases h
    case h_1 | h_2 | h_3 => exact holds_unwrap hc
    case h_4 | h_5 | h_6 => exact .own (List.mem_of_mem_drop hc)
    all_goals exact .own hc
  | body =>
    simp only [list, body] at h
    split at h <;> cases h
    all_goals first
      | exact .own hc
      | exact holds_statementsFrom hc
      | exact holds_unwrap hc
  | elements =>
    simp only [list, elements] at h
    split at h <;> cases h
    all_goals first
      | exact .own hc
      | exact .own (List.dropLast_subset _ hc)
  | whenStatements =>
    simp only [list, whenStatements] at h
    split at h <;> cases h
    exact holds_clauses hc
  | inStatements =>
    simp only [list, inStatements] at h
    split at h <;> cases h
    exact holds_clauses hc
  | rescueBodies =>
    simp only [list, rescueBodies] at h
    split at h <;> cases h
    exact holds_clauses hc
  | ensureBody =>
    simp only [list, ensureBody] at h
    split at h <;> cases h
    exact holds_statementsFrom hc
  | exceptions =>
    simp only [list, exceptions] at h
    split at h <;> cases h
    exact holds_unwrap hc
  | pairs => exact holds_onHash h hc fun d hd => .own (List.mem_filter.mp hd).1
  | kwsplats => exact holds_onHash h hc fun d hd => .own (List.mem_filter.mp hd).1
  | keys => exact holds_onHash h hc fun d hd => holds_pairs hd
  | values => exact holds_onHash h hc fun d hd => holds_pairs hd

/-! ### Fields -/

theorem holds_of_positional {n : Node} {field : String} {c : Child}
    (h : n.positional field = .ok c) : n.Holds c := by
  unfold positional at h
  split at h
  · split at h <;> cases h
    exact n.holds_child _
  · cases h

/-- The target of an assignment is a child, also when an operator assignment looks into it. -/
theorem holds_of_leftValue {n : Node} {c : Child} (h : n.leftValue = .ok c) : n.Holds c := by
  have target : n.child 0 = .nil ∨ n.child 0 ∈ n.children := n.child_eq_nil_or_mem 0
  unfold leftValue at h
  split at h
  case h_4 => exact holds_of_positional h
  all_goals
    split at h
    · rename_i m heq
      rw [heq] at target
      have hm : .node m ∈ n.children := target.resolve_left nofun
      split at h <;> cases h
      · exact holds_child_of_mem hm 0
      · exact .own hm
    · cases h
      exact n.holds_child 0

/-- A child in a single slot is one that the node holds. -/
theorem holds_of_resolve {n : Node} {field : String} {c : Child} (h : n.resolve field = .ok c) :
    n.Holds c := by
  unfold resolve at h
  split at h
  · exact holds_of_leftValue h
  split at h
  · unfold elseStatement at h
    split at h
    case h_4 => exact holds_of_positional h
    all_goals
      cases h
      exact n.holds_lastChild
  split at h
  · unfold options at h
    split at h <;> cases h
    exact n.holds_lastChild
  · exact holds_of_positional h

/-- A child in a field is one that the node holds. -/
theorem holds_of_field {n : Node} {name : String} {r : Reading} {c : Child}
    (h : n.field name = .ok r) (hc : c ∈ r.children) : n.Holds c := by
  unfold field at h
  split at h
  · rename_i l _
    cases hl : n.list l with
    | error e => rw [hl] at h; cases h
    | ok cs =>
      rw [hl] at h
      cases h
      exact holds_of_list hl hc
  · cases hr : n.resolve name with
    | error e => rw [hr] at h; cases h
    | ok d =>
      rw [hr] at h
      cases h
      rw [List.mem_singleton.mp hc]
      exact holds_of_resolve hr

end Node

end RubyTree
