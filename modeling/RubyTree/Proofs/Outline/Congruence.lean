/-
Outlines of equal nodes.

Equal nodes have fields with equal children under the same names, so their outlines have equal
entries one by one; as no key of an outline is written twice, each entry is found under its key
(`Outline.equalBy_map`), which is all that equality of maps asks for. With the values, fields and
keys of `RubyTree.Proofs.Field.Congruence`, this says that nothing that can be read from a node
tells it from an equal one (`Node.ReadsAlike`).
-/

import RubyTree.Proofs.Field.Congruence
import RubyTree.Proofs.Json.KeyOrder
import RubyTree.Proofs.Outline.Provenance

namespace RubyTree

variable {eq : Float → Float → Bool}

namespace Outline

/-- Outlines are equal when floating point numbers are compared by `eq`. -/
abbrev EqualBy (eq : Float → Float → Bool) (o p : Outline) : Prop :=
  o.beqBy eq p = true

theorem beqListBy_iff {os ps : List Outline} :
    beqListBy eq os ps = true ↔ List.Forall₂ (EqualBy eq) os ps := by
  induction os generalizing ps with
  | nil => cases ps <;> simp [beqListBy]
  | cons o os ih => cases ps <;> simp [beqListBy, ih]

/-- Entries are equal when each one has an equal one under its key. -/
theorem beqEntriesBy_iff {es fs : List (String × Outline)} :
    beqEntriesBy eq es fs = true ↔
      ∀ e ∈ es, ∃ p, fs.lookup e.1 = some p ∧ e.2.EqualBy eq p := by
  induction es with
  | nil => simp [beqEntriesBy]
  | cons e es ih =>
    obtain ⟨key, o⟩ := e
    rw [beqEntriesBy, Bool.and_eq_true, ih, List.forall_mem_cons]
    refine and_congr_left fun _ => ?_
    cases fs.lookup key <;> simp

theorem equalBy_list {os ps : List Outline} (h : List.Forall₂ (EqualBy eq) os ps) :
    (Outline.list os).EqualBy eq (.list ps) := by
  simpa only [EqualBy, beqBy] using beqListBy_iff.mpr h

/-- Maps with equal entries under the same keys, one by one, are equal when no key is repeated. -/
theorem equalBy_map {es fs : List (String × Outline)}
    (h : List.Forall₂ (fun e f => e.1 = f.1 ∧ e.2.EqualBy eq f.2) es fs)
    (nodup : (fs.map Prod.fst).Nodup) : (Outline.map es).EqualBy eq (.map fs) := by
  have entries : beqEntriesBy eq es fs = true := by
    refine beqEntriesBy_iff.mpr fun e he => ?_
    obtain ⟨f, hf, key, value⟩ := Outcome.exists_left_of_forall₂
      (List.Forall₂.flip (R := fun (f e : String × Outline) => e.1 = f.1 ∧ e.2.EqualBy eq f.2) h) he
    refine ⟨f.2, ?_, value⟩
    rw [key]
    exact lookup_eq_some_of_mem nodup hf
  simp only [EqualBy, beqBy, h.length_eq, beq_self_eq_true, entries, Bool.and_self]

end Outline

/-! ### Outlines of equal nodes -/

/-- The outlines of a node and of every node equal to it are equal. -/
def Node.OutlinesAlike (eq : Float → Float → Bool) (a : Node) : Prop :=
  ∀ b, a.EqualBy eq b → ∀ o p, a.outline = .ok o → b.outline = .ok p → o.EqualBy eq p

/-- Equal children have equal outlines when the nodes among them do. -/
theorem Child.outline_equalBy {c d : Child} {o p : Outline} (h : c.EqualBy eq d)
    (below : ∀ m, c = .node m → m.OutlinesAlike eq) (ho : c.outline = .ok o)
    (hp : d.outline = .ok p) : o.EqualBy eq p := by
  cases Child.equalBy_iff_paired.mp h with
  | node h =>
    rw [Child.outline] at ho hp
    exact below _ rfl _ h o p ho hp
  | _ =>
    rw [Child.outline] at ho hp
    cases ho
    cases hp
    simp_all [Outline.EqualBy, Outline.beqBy]

/-- Equal readings have equal outlines when the nodes in them do. -/
theorem Reading.outline_equalBy {r s : Reading} {o p : Outline} (h : r.EqualBy eq s)
    (below : ∀ m, .node m ∈ r.children → m.OutlinesAlike eq) (ho : r.outline = .ok o)
    (hp : s.outline = .ok p) : o.EqualBy eq p := by
  cases h with
  | one h => exact Child.outline_equalBy h (fun m hm => below m (hm ▸ List.mem_cons_self)) ho hp
  | @many cs ds h =>
    obtain ⟨items, hi, rfl⟩ := Outcome.map_eq_ok_iff.mp ho
    obtain ⟨others, hj, rfl⟩ := Outcome.map_eq_ok_iff.mp hp
    have own : List.Forall₂ (fun c d => (∀ m, c = .node m → m.OutlinesAlike eq) ∧ c.EqualBy eq d)
        cs ds := (List.forall₂_and_left _ _).mpr ⟨fun c hc m hm => below m (hm ▸ hc), h⟩
    refine Outline.equalBy_list (rel_of_forall₂ own (Outcome.mapM_eq_ok_iff.mp hi)
      (Outcome.mapM_eq_ok_iff.mp hj) fun c d u v hcd hu hv => ?_)
    exact Child.outline_equalBy hcd.2 hcd.1 hu hv

/-- Equal nodes have equal outlines when the nodes that they hold do. -/
theorem Node.outlinesAlike_of_holds {a : Node}
    (below : ∀ m, a.Holds (.node m) → m.OutlinesAlike eq) : a.OutlinesAlike eq := by
  intro b h o p ho hp
  have type := (Node.equalBy_iff.mp h).1
  obtain ⟨es, rfl, hes⟩ := Node.outline_eq_ok_iff.mp ho
  obtain ⟨fs, rfl, hfs⟩ := Node.outline_eq_ok_iff.mp hp
  have nodup := Schema.nodup_outlineKeys b.type
  rw [← Node.keys_of_outline hp] at nodup
  have tags : (Outline.sym a.type.tag).EqualBy eq (.sym b.type.tag) := by
    simp only [type, Outline.EqualBy, Outline.beqBy, beq_self_eq_true]
  refine Outline.equalBy_map (.cons ⟨rfl, tags⟩ ?_) nodup
  rw [← type] at hfs
  cases hf : Schema.fields a.type with
  | none =>
    rw [hf] at hes hfs
    obtain ⟨items, hi, rfl⟩ := hes
    obtain ⟨others, hj, rfl⟩ := hfs
    have children : Reading.EqualBy eq (.many a.children) (.many b.children) :=
      .many (Node.equalBy_iff.mp h).2
    refine .cons ⟨rfl, Reading.outline_equalBy children (fun m hm => below m (.own hm)) ?_ ?_⟩ .nil
    · exact Outcome.map_eq_ok_iff.mpr ⟨items, Outcome.mapM_eq_ok_iff.mpr hi, rfl⟩
    · exact Outcome.map_eq_ok_iff.mpr ⟨others, Outcome.mapM_eq_ok_iff.mpr hj, rfl⟩
  | some names =>
    rw [hf] at hes hfs
    have same : List.Forall₂ Eq names names := List.forall₂_same.mpr fun _ _ => rfl
    refine rel_of_forall₂ same hes hfs fun name name' e f hname he hf => ?_
    subst hname
    obtain ⟨r, u, hr, hu, rfl⟩ := Node.entry_eq_ok_iff.mp he
    obtain ⟨s, v, hs, hv, rfl⟩ := Node.entry_eq_ok_iff.mp hf
    have readings := Node.field_equalBy h name
    rw [hr, hs] at readings
    cases readings with
    | ok readings =>
      exact ⟨rfl, Reading.outline_equalBy readings
        (fun m hm => below m (Node.holds_of_field hr hm)) hu hv⟩

/-- Equal nodes have equal outlines. -/
theorem Node.outlinesAlike (a : Node) : a.OutlinesAlike eq :=
  Node.induction_holds (fun _ => Node.outlinesAlike_of_holds) a

/-! ### Everything that is read -/

/-- Two nodes are read alike, up to equality of what is read. -/
structure Node.ReadsAlike (eq : Float → Float → Bool) (a b : Node) : Prop where
  /-- A field is refused by both, or of one kind with equal children. -/
  field : ∀ name, Outcome.Alike (Reading.EqualBy eq) (a.field name) (b.field name)
  resolve : ∀ name, Outcome.Alike (Child.EqualBy eq) (a.resolve name) (b.resolve name)
  literal : a.literal.EqualBy eq b.literal
  outline : ∃ o p, a.outline = .ok o ∧ b.outline = .ok p ∧ o.EqualBy eq p
  /-- A path leads to equal nodes, or to none. -/
  atPath : ∀ path, Option.Rel (Node.EqualBy eq) (a.atPath? path) (b.atPath? path)
  hasKey : ∀ key, Outcome.Alike (· = ·) (a.hasKey key) (b.hasKey key)
  /-- A key is refused by both, or it has equal pairs, or none. -/
  hashPair : ∀ key,
    Outcome.Alike (Option.Rel (Node.EqualBy eq)) (a.hashPair key) (b.hashPair key)

/-- **Equal nodes are read alike.** Whatever equality floating point numbers are compared by, nodes
that are equal under it have equal fields, values, outlines, nodes at every path and pairs under
every key, and refuse the same names. -/
theorem Node.reads_of_equal {a b : Node} (h : a.beqBy eq b = true) : a.ReadsAlike eq b where
  field := Node.field_equalBy h
  resolve := Node.resolve_equalBy h
  literal := Node.literal_equalBy h
  outline := by
    obtain ⟨o, ho⟩ := a.exists_outline
    obtain ⟨p, hp⟩ := b.exists_outline
    exact ⟨o, p, ho, hp, a.outlinesAlike b h o p ho hp⟩
  atPath := Node.atPath?_equalBy h
  hasKey := fun key => Node.onHash_alike h _ (rel_isSome (Node.findPair?_equalBy h key))
  hashPair := fun key => Node.onHash_alike h _ (Node.findPair?_equalBy h key)

/-- Keyword arguments that were read twice, once without a source. -/
theorem Node.reads_of_equal_sourced :
    let pair (id : Nat) : Child :=
      .node (.mk (id + 1) .pair [.node (.mk id .symLit [.sym "a"] none), .int 1] none)
    let a : Node := .mk 2 .kwargs [pair 0] none
    let b : Node := .mk 9 .kwargs [pair 7] (Span.of? ⟨0, none, "a: 1"⟩ 0 4)
    (a == b) = true ∧ b.source? = some "a: 1" ∧ a.ReadsAlike (· == ·) b := by
  intro pair a b
  have equal : a.beqBy (· == ·) b = true := by decide
  exact ⟨equal, by decide, Node.reads_of_equal equal⟩

end RubyTree
