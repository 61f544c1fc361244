/-
What an outline shows of a tree.

The outline of a node shows the children in the fields of its type, or all children when the type
has no schema (`Node.shown`). Nothing else of the node gets into the outline: a map or a number
inside of it is the outline itself or stands inside the outline of a child that is shown
(`Node.occurs_outline_iff`). So a hash shows its pairs and none of its other entries, and a `when`
shows its first condition and its body.
-/

import RubyTree.Proofs.Field.Keys
import RubyTree.Proofs.Field.Packing
import RubyTree.Proofs.Outline.Provenance

namespace RubyTree

/-! ### Shown children -/

namespace Node

/-- The children in a field of a node, none when the node refuses the field. -/
def fieldChildren (n : Node) (name : String) : List Child :=
  match n.field name with
  | .ok r => r.children
  | .error _ => []

/-- The children that the outline of a node shows, field by field. -/
def shown (n : Node) : List Child :=
  match Schema.fields n.type with
  | some names => names.flatMap n.fieldChildren
  | none => n.children

variable {n : Node}

theorem fieldChildren_of_field {name : String} {r : Reading} (h : n.field name = .ok r) :
    n.fieldChildren name = r.children := by
  simp only [fieldChildren, h]

/-- What an outline shows is held by the node. -/
theorem holds_of_mem_shown {c : Child} (h : c ∈ n.shown) : n.Holds c := by
  unfold shown at h
  split at h
  · obtain ⟨name, -, hc⟩ := List.mem_flatMap.mp h
    unfold fieldChildren at hc
    split at hc
    · rename_i r hr
      exact holds_of_field hr hc
    · cases hc
  · exact .own h

/-- A hash shows its pairs. -/
theorem shown_of_hash (hash : n.type ∈ [.hashLit, .hashPattern, .kwargs]) :
    n.shown = n.pairSlots := by
  have served : n.pairs = .ok n.pairSlots := onHash_eq_ok (isHashLike_iff.mpr hash) _ _
  have field : n.field "pairs" = .ok (.many n.pairSlots) := by
    rw [n.field_of_listing (l := .pairs) rfl, list, served]
    rfl
  have schema : Schema.fields n.type = some ["pairs"] := by
    simp only [List.mem_cons, List.not_mem_nil, or_false] at hash
    rcases hash with type | type | type <;> rw [type] <;> rfl
  simp only [shown, schema, List.flatMap_cons, List.flatMap_nil, List.append_nil]
  exact fieldChildren_of_field field

/-- A `when` shows its first child and its body, which is the last one. -/
theorem shown_of_when {before : List Child} {body : Child} (type : n.type = .whenClause)
    (children : n.children = before ++ [body]) :
    n.shown = n.child 0 :: body.unwrap .beginSeq := by
  have statements : n.field "body" = .ok (.many (body.unwrap .beginSeq)) := by
    rw [n.field_of_listing (l := .body) rfl, (PackedSlot.bodyLast before).list_eq type children]
    rfl
  have expression : n.field "expression" = .ok (.one (n.child 0)) := by
    have slot : n.positional "expression" = .ok (n.child 0) :=
      positional_eq_ok_iff.mpr ⟨0, by rw [type]; rfl, rfl, rfl⟩
    rw [n.field_of_slot rfl, resolve_eq_positional, slot]
    · rfl
    · rw [type]
      decide
  have schema : Schema.fields n.type = some ["expression", "body"] := by
    rw [type]
    rfl
  simp only [shown, schema, List.flatMap_cons, List.flatMap_nil, List.append_nil,
    fieldChildren_of_field expression, fieldChildren_of_field statements]
  rfl

end Node

/-! ### Outlines of shown children -/

theorem Outline.Occurs.trans {x y z : Outline} (inner : x.Occurs y) (outer : y.Occurs z) :
    x.Occurs z := by
  induction outer with
  | here => exact inner
  | item hv _ ih => exact .item hv ih
  | entry hv _ ih => exact .entry hv ih

/-- An outline occurs in the outline of one of the children in a list. -/
def Outline.OccursAmong (x : Outline) (cs : List Child) : Prop :=
  ∃ c ∈ cs, ∃ o, c.outline = .ok o ∧ x.Occurs o

/-- An outline that stands for a child of its own. Lists and symbols may also come from a field as a
whole and from the type of a node. -/
def Outline.IsOwn : Outline → Prop
  | .list _ | .sym _ => False
  | _ => True

section Occurs

variable {x o : Outline}

/-- The outline of a child that a reading has occurs in the outline of the reading. -/
theorem Reading.occurs_of_mem {r : Reading} {c : Child} {v : Outline} (h : r.outline = .ok v)
    (hc : c ∈ r.children) (ho : c.outline = .ok o) : o.Occurs v := by
  cases r with
  | one d =>
    rw [List.mem_singleton.mp hc] at ho
    cases h.symm.trans ho
    exact .here
  | many cs =>
    obtain ⟨items, hi, rfl⟩ := Outcome.map_eq_ok_iff.mp h
    obtain ⟨o', mem, ho'⟩ :=
      Outcome.exists_left_of_forall₂ (Outcome.mapM_eq_ok_iff.mp hi).flip hc
    cases ho.symm.trans ho'
    exact .item mem .here

theorem Reading.occursAmong_of_occurs {r : Reading} {v : Outline} (h : r.outline = .ok v)
    (own : x.IsOwn) (hx : x.Occurs v) : x.OccursAmong r.children := by
  cases r with
  | one c => exact ⟨c, List.mem_cons_self, v, h, hx⟩
  | many cs =>
    obtain ⟨items, hi, rfl⟩ := Outcome.map_eq_ok_iff.mp h
    cases hx with
    | here => exact own.elim
    | @item o _ ho hx =>
      obtain ⟨c, hc, hco⟩ := Outcome.exists_left_of_forall₂ (Outcome.mapM_eq_ok_iff.mp hi) ho
      exact ⟨c, hc, o, hco, hx⟩

namespace Node

variable {n : Node}

/-- Behind its type, an outline has the outlines of readings that together hold the children that
are shown. -/
theorem entries_of_outline (h : n.outline = .ok o) :
    ∃ entries, o = .map (("type", .sym n.type.tag) :: entries) ∧
      (∀ e ∈ entries, ∃ r : Reading, r.outline = .ok e.2 ∧ ∀ c ∈ r.children, c ∈ n.shown) ∧
      ∀ c ∈ n.shown, ∃ e ∈ entries, ∃ r : Reading, r.outline = .ok e.2 ∧ c ∈ r.children := by
  obtain ⟨entries, rfl, each⟩ := outline_eq_ok_iff.mp h
  refine ⟨entries, rfl, ?_⟩
  unfold shown
  cases hf : Schema.fields n.type with
  | none =>
    rw [hf] at each
    obtain ⟨items, hi, rfl⟩ := each
    have all : (Reading.many n.children).outline = .ok (.list items) :=
      Outcome.map_eq_ok_iff.mpr ⟨items, Outcome.mapM_eq_ok_iff.mpr hi, rfl⟩
    constructor
    · intro e he
      cases List.mem_singleton.mp he
      exact ⟨.many n.children, all, fun c hc => hc⟩
    · intro c hc
      exact ⟨_, List.mem_singleton_self _, .many n.children, all, hc⟩
  | some names =>
    rw [hf] at each
    constructor
    · intro e he
      obtain ⟨name, hname, entry⟩ := Outcome.exists_left_of_forall₂ each he
      obtain ⟨r, v, hr, hv, rfl⟩ := entry_eq_ok_iff.mp entry
      refine ⟨r, hv, fun c hc => List.mem_flatMap.mpr ⟨name, hname, ?_⟩⟩
      rwa [fieldChildren_of_field hr]
    · intro c hc
      obtain ⟨name, hname, hc⟩ := List.mem_flatMap.mp hc
      obtain ⟨e, he, entry⟩ := Outcome.exists_left_of_forall₂ each.flip hname
      obtain ⟨r, v, hr, hv, rfl⟩ := entry_eq_ok_iff.mp entry
      rw [fieldChildren_of_field hr] at hc
      exact ⟨_, he, r, hv, hc⟩

/-- The outline of a child that is shown occurs in the outline of the node. -/
theorem occurs_of_mem_shown {c : Child} {v : Outline} (h : n.outline = .ok o) (hc : c ∈ n.shown)
    (hv : c.outline = .ok v) : v.Occurs o := by
  obtain ⟨entries, rfl, -, held⟩ := entries_of_outline h
  obtain ⟨e, he, r, hr, hcr⟩ := held c hc
  exact .entry (List.mem_cons_of_mem _ he) (Reading.occurs_of_mem hr hcr hv)

/-- An outline shows itself and what the outlines of the shown children show, and nothing else. -/
theorem occurs_outline_iff (h : n.outline = .ok o) (own : x.IsOwn) :
    x.Occurs o ↔ x = o ∨ x.OccursAmong n.shown := by
  constructor
  · intro hx
    obtain ⟨entries, rfl, readings, -⟩ := entries_of_outline h
    cases hx with
    | here => exact .inl rfl
    | @entry key v _ hv hx =>
      refine .inr ?_
      -- the type is a symbol, every other entry comes from a reading of shown children
      rcases List.mem_cons.mp hv with heq | hv
      · cases heq
        cases hx
        exact own.elim
      · obtain ⟨r, hr, shown⟩ := readings _ hv
        obtain ⟨c, hc, o, ho, hx⟩ := Reading.occursAmong_of_occurs hr own hx
        exact ⟨c, shown c hc, o, ho, hx⟩
  · rintro (rfl | ⟨c, hc, v, hv, hx⟩)
    · exact .here
    · exact hx.trans (occurs_of_mem_shown h hc hv)

/-- The outline of a node stands for a child of its own. -/
theorem isOwn_of_outline (h : n.outline = .ok o) : o.IsOwn := by
  obtain ⟨entries, rfl, -⟩ := entries_of_outline h
  exact trivial

/-- Nodes with one outline are of one type. -/
theorem type_eq_of_outline {m : Node} (h : n.outline = .ok o) (hm : m.outline = .ok o) :
    n.type = m.type := by
  obtain ⟨entries, rfl, -⟩ := entries_of_outline h
  obtain ⟨entries', heq, -⟩ := entries_of_outline hm
  injection heq with heq
  injection heq with heq
  injection heq with _ heq
  injection heq with tags
  exact NodeType.tag_inj tags

/-- A child that is not shown is missing from an outline when no shown child has it, and the two
nodes differ in type. -/
theorem not_occurs_of_shown {m : Node} {p : Outline} (h : n.outline = .ok o)
    (hm : m.outline = .ok p) (type : m.type ≠ n.type) (missing : ¬ p.OccursAmong n.shown) :
    ¬ p.Occurs o := by
  intro occurs
  rcases (occurs_outline_iff h (isOwn_of_outline hm)).mp occurs with rfl | among
  · exact type (type_eq_of_outline hm h)
  · exact missing among

end Node

end Occurs

/-! ### Hashes and `when` clauses -/

namespace Node

variable {n : Node}

/-- Among the conditions of a `when`, only the first one is shown. -/
theorem shown_of_conditions {conditions : List Node} {body : Child}
    (type : n.type = .whenClause) (children : n.children = conditions.map .node ++ [body])
    (some : conditions ≠ []) :
    n.shown = (conditions.take 1).map .node ++ body.unwrap .beginSeq := by
  rw [shown_of_when type children]
  cases conditions with
  | nil => exact absurd rfl some
  | cons first others =>
    have head : n.child 0 = .node first := by
      rw [child, children]
      rfl
    rw [head]
    rfl

/-- **An outline shows the pairs of a hash, and of a `when` its first condition and its body.** The
outline of a pair occurs in the outline of its hash, and so do the outlines of the first condition
of a `when` and of the statements of its body. Any other entry of a hash and any further condition
is left out: its outline occurs only where it happens to be the outline as a whole or to occur in
the outline of one of the children that are shown. -/
theorem outline_shows (n : Node) :
    ∃ o, n.outline = .ok o ∧
      (n.type ∈ [.hashLit, .hashPattern, .kwargs] → ∀ m, .node m ∈ n.children →
        ∃ p, m.outline = .ok p ∧ (m.type = .pair → p.Occurs o) ∧
          (p.Occurs o ↔ p = o ∨ p.OccursAmong (n.children.filter (·.isType .pair)))) ∧
      (n.type = .whenClause → ∀ (conditions : List Node) (body : Child),
        n.children = conditions.map .node ++ [body] →
        (∀ c ∈ body.unwrap .beginSeq, ∃ p, c.outline = .ok p ∧ p.Occurs o) ∧
        ∀ m ∈ conditions, ∃ p, m.outline = .ok p ∧ (conditions.head? = some m → p.Occurs o) ∧
          (p.Occurs o ↔ p = o ∨
            p.OccursAmong ((conditions.take 1).map .node ++ body.unwrap .beginSeq))) := by
  obtain ⟨o, ho⟩ := n.exists_outline
  refine ⟨o, ho, fun hash m own => ?_, fun type conditions body children => ⟨?_, ?_⟩⟩
  · obtain ⟨p, hp⟩ := m.exists_outline
    have shown := occurs_outline_iff ho (isOwn_of_outline hp)
    rw [shown_of_hash hash, pairSlots] at shown
    refine ⟨p, hp, fun pair => shown.mpr (.inr ⟨.node m, ?_, p, ?_, .here⟩), shown⟩
    · refine List.mem_filter.mpr ⟨own, ?_⟩
      simp only [Child.isType, Child.type?, Child.node?, Option.map_some, pair, beq_self_eq_true]
    · rwa [Child.outline]
  · intro c hc
    have shown : c ∈ n.shown := by
      rw [shown_of_when type children]
      exact List.mem_cons_of_mem _ hc
    obtain ⟨p, hp⟩ := Child.exists_outline (c := c) fun m _ => m.exists_outline
    exact ⟨p, hp, occurs_of_mem_shown ho shown hp⟩
  · intro m own
    obtain ⟨p, hp⟩ := m.exists_outline
    have shown := occurs_outline_iff ho (isOwn_of_outline hp)
    rw [shown_of_conditions type children (List.ne_nil_of_mem own)] at shown
    refine ⟨p, hp, fun first => shown.mpr (.inr ⟨.node m, ?_, p, ?_, .here⟩), shown⟩
    · obtain ⟨others, rfl⟩ := List.head?_eq_some_iff.mp first
      exact List.mem_append_left _ List.mem_cons_self
    · rwa [Child.outline]

/-- A double splat is missing from the outline of its hash, and so is the second condition from the
outline of a `when`. -/
theorem outline_omits :
    let splat : Node := .mk 1 .kwsplat [.node (.mk 0 .lvar [.sym "opts"] none)] none
    let hash : Node := .mk 2 .hashLit [.node splat] none
    let second : Node := .mk 1 .nilLit [] none
    let clause : Node :=
      .mk 2 .whenClause [.node (.mk 0 .selfRef [] none), .node second, .nil] none
    (∃ o p, hash.outline = .ok o ∧ splat.outline = .ok p ∧ ¬ p.Occurs o) ∧
      ∃ o p, clause.outline = .ok o ∧ second.outline = .ok p ∧ ¬ p.Occurs o := by
  intro splat hash second clause
  constructor
  · obtain ⟨o, ho⟩ := hash.exists_outline
    obtain ⟨p, hp⟩ := splat.exists_outline
    refine ⟨o, p, ho, hp, not_occurs_of_shown ho hp (by decide) ?_⟩
    have empty : hash.shown = [] := rfl
    rw [empty]
    rintro ⟨c, hc, -⟩
    cases hc
  · obtain ⟨o, ho⟩ := clause.exists_outline
    obtain ⟨p, hp⟩ := second.exists_outline
    refine ⟨o, p, ho, hp, not_occurs_of_shown ho hp (by decide) ?_⟩
    have first : clause.shown = [.node (.mk 0 .selfRef [] none)] := rfl
    rw [first]
    rintro ⟨c, hc, v, hv, occurs⟩
    rw [List.mem_singleton.mp hc, Child.outline] at hv
    refine not_occurs_of_shown hv hp (by decide) ?_ occurs
    rintro ⟨c, hc, -⟩
    cases hc

end Node

end RubyTree
