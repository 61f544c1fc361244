/-
The outline of a tree.

Every tree has an outline: the schema names no field that the node refuses. Its maps are the
outlines of the nodes at and below the root, and the keys of a map follow the schema of its node.

* `Node.outline_eq` — the outline, field by field, without the bookkeeping of the recursion.
* `Node.exists_outline` — outlines never fail.
* `Node.keys_of_outline` — the keys of the outline of a node.
* `Node.exists_atPath?_of_occurs` — a map inside an outline is the outline of a node below.
-/

import RubyTree.Outline
import RubyTree.Proofs.Field.Support
import RubyTree.Proofs.Node.Descent

namespace RubyTree

/-! ### Outlines field by field -/

/-- One entry of an outline: a field with the outline of what it holds. -/
def Node.entry (n : Node) (name : String) : Except Refusal (String × Outline) := do
  let reading ← n.field name
  let value ← reading.outline
  .ok (name, value)

/-- An entry is a field that the node has, with the outline of what it holds. -/
theorem Node.entry_eq_ok_iff {n : Node} {name : String} {e : String × Outline} :
    n.entry name = .ok e ↔
      ∃ r v, n.field name = .ok r ∧ r.outline = .ok v ∧ (name, v) = e := by
  unfold Node.entry
  simp only [Outcome.bind_eq_ok_iff, Except.ok.injEq]
  constructor
  · rintro ⟨r, hr, v, hv, he⟩
    exact ⟨r, v, hr, hv, he⟩
  · rintro ⟨r, v, hr, hv, he⟩
    exact ⟨r, hr, v, hv, he⟩

/-- The outline of a node of a registered type has its fields, and any other its children. -/
theorem Node.outline_eq (n : Node) :
    n.outline = match Schema.fields n.type with
      | some names =>
        (names.mapM n.entry).map (fun entries => .map (("type", .sym n.type.tag) :: entries))
      | none =>
        (n.children.mapM Child.outline).map (fun items =>
          .map [("type", .sym n.type.tag), ("children", .list items)]) := by
  have attached : ∀ cs : List Child,
      (cs.attach.mapM fun c => Child.outline c.1) = cs.mapM Child.outline := by
    intro cs
    rw [List.mapM_subtype (g := Child.outline) (fun _ _ => rfl), List.unattach_attach]
  rw [Node.outline]
  cases Schema.fields n.type with
  | none =>
    simp only [attached, Outcome.map_eq_bind]
  | some names =>
    simp only [attached, Outcome.map_eq_bind]
    congr 2
    funext name
    unfold Node.entry
    split
    · rename_i refusal h
      rw [h]
      rfl
    · rename_i c h
      rw [h]
      rfl
    · rename_i cs h
      rw [h]
      show _ = (cs.mapM Child.outline).map Outline.list >>= fun value => .ok (name, value)
      rw [Outcome.map_eq_bind]
      cases cs.mapM Child.outline <;> rfl

/-! ### Every tree has an outline -/

theorem Child.exists_outline {c : Child}
    (h : ∀ m, c = .node m → ∃ o, m.outline = .ok o) : ∃ o, c.outline = .ok o := by
  cases c with
  | node m =>
    rw [Child.outline]
    exact h m rfl
  | _ => exact ⟨_, by rw [Child.outline]⟩

theorem Reading.exists_outline {r : Reading} (h : ∀ c ∈ r.children, ∃ o, c.outline = .ok o) :
    ∃ o, r.outline = .ok o := by
  cases r with
  | one c => exact h c List.mem_cons_self
  | many cs =>
    obtain ⟨items, hi⟩ := Outcome.exists_mapM_eq_ok h
    exact ⟨.list items, Outcome.map_eq_ok_iff.mpr ⟨items, hi, rfl⟩⟩

/-- A node has an outline when the nodes that it holds have one: its schema names only fields that
it answers to. -/
theorem Node.exists_outline_of_holds {n : Node}
    (h : ∀ m, n.Holds (.node m) → ∃ o, m.outline = .ok o) : ∃ o, n.outline = .ok o := by
  have held : ∀ c, n.Holds c → ∃ o, c.outline = .ok o := by
    intro c hc
    refine Child.exists_outline fun m hm => h m ?_
    rw [← hm]
    exact hc
  rw [n.outline_eq]
  cases hf : Schema.fields n.type with
  | none =>
    obtain ⟨items, hi⟩ := Outcome.exists_mapM_eq_ok fun c hc => held c (.own hc)
    exact ⟨_, Outcome.map_eq_ok_iff.mpr ⟨items, hi, rfl⟩⟩
  | some names =>
    have entries : ∀ name ∈ names, ∃ e, n.entry name = .ok e := by
      intro name hname
      have answers : n.Answers name := .inl ⟨names, hf, hname⟩
      obtain ⟨r, hr⟩ := (n.field_settles name).exists_ok_iff.mpr answers
      obtain ⟨v, hv⟩ := Reading.exists_outline fun c hc => held c (Node.holds_of_field hr hc)
      exact ⟨(name, v), Node.entry_eq_ok_iff.mpr ⟨r, v, hr, hv, rfl⟩⟩
    obtain ⟨es, he⟩ := Outcome.exists_mapM_eq_ok entries
    exact ⟨_, Outcome.map_eq_ok_iff.mpr ⟨es, he, rfl⟩⟩

/-- Every node has an outline. -/
theorem Node.exists_outline (n : Node) : ∃ o, n.outline = .ok o :=
  Node.induction_holds (fun _ => Node.exists_outline_of_holds) n

/-! ### The entries of an outline -/

/-- An outline is a map. Its first entry is the type; the others are the entries of the fields of a
registered type, or the children of any other. -/
theorem Node.outline_eq_ok_iff {n : Node} {o : Outline} :
    n.outline = .ok o ↔ ∃ entries, o = .map (("type", .sym n.type.tag) :: entries) ∧
      match Schema.fields n.type with
      | some names => List.Forall₂ (fun name e => n.entry name = .ok e) names entries
      | none => ∃ items, List.Forall₂ (fun c v => c.outline = .ok v) n.children items ∧
          entries = [("children", .list items)] := by
  rw [n.outline_eq]
  cases Schema.fields n.type with
  | none =>
    simp only [Outcome.map_eq_ok_iff, Outcome.mapM_eq_ok_iff]
    constructor
    · rintro ⟨items, hi, rfl⟩
      exact ⟨_, rfl, items, hi, rfl⟩
    · rintro ⟨_, rfl, items, hi, rfl⟩
      exact ⟨items, hi, rfl⟩
  | some names =>
    simp only [Outcome.map_eq_ok_iff, Outcome.mapM_eq_ok_iff]
    constructor
    · rintro ⟨entries, he, rfl⟩
      exact ⟨entries, rfl, he⟩
    · rintro ⟨entries, rfl, he⟩
      exact ⟨entries, he, rfl⟩

/-- The keys of the outline of a node of a type. -/
def Schema.outlineKeys (type : NodeType) : List String :=
  "type" :: (Schema.fields type).getD ["children"]

/-- No key is written twice: the fields of a type are distinct, and none is called `type`. -/
theorem Schema.nodup_outlineKeys (type : NodeType) : (Schema.outlineKeys type).Nodup := by
  have table : ∀ type ∈ NodeType.all, (Schema.outlineKeys type).Nodup := by decide +kernel
  exact table type (NodeType.mem_all type)

/-- The outline of a node has the keys of its type. -/
theorem Node.keys_of_outline {n : Node} {entries : List (String × Outline)}
    (h : n.outline = .ok (.map entries)) : entries.map Prod.fst = Schema.outlineKeys n.type := by
  obtain ⟨rest, ho, hrest⟩ := Node.outline_eq_ok_iff.mp h
  cases ho
  unfold Schema.outlineKeys
  cases hf : Schema.fields n.type with
  | none =>
    rw [hf] at hrest
    obtain ⟨items, -, rfl⟩ := hrest
    rfl
  | some names =>
    rw [hf] at hrest
    have keys : rest.map Prod.fst = names := by
      clear h hf
      induction hrest with
      | nil => rfl
      | cons he _ ih =>
        obtain ⟨r, v, -, -, rfl⟩ := Node.entry_eq_ok_iff.mp he
        rw [List.map_cons, ih]
    rw [List.map_cons, keys]
    rfl

/-! ### Maps inside an outline -/

/-- An outline occurs in another one: it is that one, or it occurs in one of its items or
entries. -/
inductive Outline.Occurs (x : Outline) : Outline → Prop where
  | here : Occurs x x
  | item {v : Outline} {items : List Outline} (hv : v ∈ items) (h : Occurs x v) :
      Occurs x (.list items)
  | entry {key : String} {v : Outline} {entries : List (String × Outline)}
      (hv : (key, v) ∈ entries) (h : Occurs x v) : Occurs x (.map entries)

section Occurs

variable {entries : List (String × Outline)}

/-- Only nodes have maps in their outlines. -/
theorem Child.node_of_occurs {c : Child} {o : Outline} (h : c.outline = .ok o)
    (hx : Outline.Occurs (.map entries) o) : ∃ m, c = .node m ∧ m.outline = .ok o := by
  cases c with
  | node m =>
    rw [Child.outline] at h
    exact ⟨m, rfl, h⟩
  | _ =>
    rw [Child.outline] at h
    cases h
    cases hx

/-- A map in the outline of a reading comes from one of its children. -/
theorem Reading.exists_child_of_occurs {r : Reading} {v : Outline} (h : r.outline = .ok v)
    (hx : Outline.Occurs (.map entries) v) :
    ∃ c ∈ r.children, ∃ o, c.outline = .ok o ∧ Outline.Occurs (.map entries) o := by
  cases r with
  | one c => exact ⟨c, List.mem_cons_self, v, h, hx⟩
  | many cs =>
    obtain ⟨items, hi, rfl⟩ := Outcome.map_eq_ok_iff.mp h
    cases hx with
    | @item o _ ho hx =>
      obtain ⟨c, hc, hco⟩ := Outcome.exists_left_of_forall₂ (Outcome.mapM_eq_ok_iff.mp hi) ho
      exact ⟨c, hc, o, hco, hx⟩

/-- A map inside the outline of a node is that outline, or stands inside the outline of a node that
it holds. -/
theorem Node.occurs_outline_cases {n : Node} {o : Outline} (h : n.outline = .ok o)
    (hx : Outline.Occurs (.map entries) o) :
    o = .map entries ∨ ∃ m, n.Holds (.node m) ∧
      ∃ o', m.outline = .ok o' ∧ Outline.Occurs (.map entries) o' := by
  -- Every entry but the type is the outline of a reading whose children the node holds.
  have below : ∀ {r : Reading} {v : Outline}, (∀ c ∈ r.children, n.Holds c) →
      r.outline = .ok v → Outline.Occurs (.map entries) v →
      ∃ m, n.Holds (.node m) ∧ ∃ o', m.outline = .ok o' ∧ Outline.Occurs (.map entries) o' := by
    intro r v holds hv hx
    obtain ⟨c, hc, o', ho, hx⟩ := Reading.exists_child_of_occurs hv hx
    obtain ⟨m, rfl, hm⟩ := Child.node_of_occurs ho hx
    exact ⟨m, holds _ hc, o', hm, hx⟩
  obtain ⟨rest, rfl, hrest⟩ := Node.outline_eq_ok_iff.mp h
  cases hx with
  | here => exact .inl rfl
  | @entry key v _ hv hx =>
    refine .inr ?_
    rcases List.mem_cons.mp hv with heq | hv
    · cases heq
      cases hx
    cases hf : Schema.fields n.type with
    | none =>
      rw [hf] at hrest
      obtain ⟨items, hi, rfl⟩ := hrest
      cases List.mem_singleton.mp hv
      refine below (r := .many n.children) (fun c hc => .own hc) ?_ hx
      exact Outcome.map_eq_ok_iff.mpr ⟨items, Outcome.mapM_eq_ok_iff.mpr hi, rfl⟩
    | some names =>
      rw [hf] at hrest
      obtain ⟨name, -, he⟩ := Outcome.exists_left_of_forall₂ hrest hv
      obtain ⟨r, v', hr, hv, heq⟩ := Node.entry_eq_ok_iff.mp he
      cases heq
      exact below (fun c hc => Node.holds_of_field hr hc) hv hx

/-- Every map inside the outline of a node is the outline of a node at or below it. -/
theorem Node.exists_atPath?_of_occurs {n : Node} {o : Outline} (h : n.outline = .ok o)
    (hx : Outline.Occurs (.map entries) o) :
    ∃ path m, n.atPath? path = some m ∧ m.outline = .ok (.map entries) := by
  induction n using Node.induction_holds generalizing o with
  | step n ih =>
    rcases Node.occurs_outline_cases h hx with rfl | ⟨m, hm, o', ho, hx⟩
    · exact ⟨[], n, rfl, h⟩
    · obtain ⟨p, hp⟩ := hm.exists_atPath?
      obtain ⟨q, k, hq, hk⟩ := ih m hm ho hx
      refine ⟨p ++ q, k, ?_, hk⟩
      rw [Node.atPath?_append, hp]
      exact hq

end Occurs

/-- **Outlines are total and follow the schema.** Every node has an outline, which is a map with the
keys of the node's own type. Each map inside it, at any depth, is the outline of a node reached from
the root by child indices: its keys are `type` and the fields of that node's type in schema order,
or `type` and `children` for an unregistered type, each written once, and `type` is the tag of that
node. -/
theorem Node.outline_maps_follow_schema (n : Node) :
    ∃ own, n.outline = .ok (.map own) ∧
      own.map Prod.fst = "type" :: (Schema.fields n.type).getD ["children"] ∧
      ∀ entries, Outline.Occurs (.map entries) (.map own) →
        ∃ path m, n.atPath? path = some m ∧ m.outline = .ok (.map entries) ∧
          entries.map Prod.fst = "type" :: (Schema.fields m.type).getD ["children"] ∧
          (entries.map Prod.fst).Nodup ∧
          entries.lookup "type" = some (.sym m.type.tag) := by
  obtain ⟨o, ho⟩ := n.exists_outline
  obtain ⟨own, rfl, -⟩ := Node.outline_eq_ok_iff.mp ho
  refine ⟨_, ho, Node.keys_of_outline ho, fun entries hx => ?_⟩
  obtain ⟨path, m, hp, hm⟩ := Node.exists_atPath?_of_occurs ho hx
  have keys := Node.keys_of_outline hm
  refine ⟨path, m, hp, hm, keys, ?_, ?_⟩
  · rw [keys]
    exact Schema.nodup_outlineKeys m.type
  · obtain ⟨rest, heq, -⟩ := Node.outline_eq_ok_iff.mp hm
    cases heq
    rfl

end RubyTree
