/-
The order of the entries in outlines.

Equality of outlines compares the entries of maps under their keys and does not look at their order;
`Outline.inOrderBy` does. On outlines of nodes the two come to the same. Every map inside of them
names a type and has the keys of that type in schema order (`Outline.Regular`), and no two types
share a tag, so equal maps have the same keys in the same order at every depth.

* `Outline.equalBy_map_iff` — between maps with one sequence of keys, equality goes entry by entry.
* `Outline.Regular.equalBy_iff` — equality with and without regard to the order coincide.
* `Outline.eq_of_inOrder` — apart from floating point numbers, outlines that are equal in order are
  the same.
-/

import RubyTree.Json.Printer
import RubyTree.Proofs.Outline.Congruence
import RubyTree.Proofs.Outline.Coverage
import RubyTree.Proofs.Outline.Rendering

namespace RubyTree

variable {eq : Float → Float → Bool}

namespace Outline

/-! ### Equality in order -/

mutual

/-- Equality of outlines that looks at the order of the entries as well, with floating point numbers
compared by `eq`. -/
def inOrderBy (eq : Float → Float → Bool) : Outline → Outline → Bool
  | .nil, .nil => true
  | .sym a, .sym b => a == b
  | .str a, .str b => a == b
  | .int a, .int b => a == b
  | .float a, .float b => eq a b
  | .bool a, .bool b => a == b
  | .list as, .list bs => itemsInOrderBy eq as bs
  | .map as, .map bs => entriesInOrderBy eq as bs
  | _, _ => false

/-- Equality of the items of two lists, one by one. -/
def itemsInOrderBy (eq : Float → Float → Bool) : List Outline → List Outline → Bool
  | [], [] => true
  | a :: as, b :: bs => inOrderBy eq a b && itemsInOrderBy eq as bs
  | _, _ => false

/-- Equality of the keys and values of two maps, one by one. -/
def entriesInOrderBy (eq : Float → Float → Bool) :
    List (String × Outline) → List (String × Outline) → Bool
  | [], [] => true
  | (key, a) :: as, (key', b) :: bs =>
    key == key' && inOrderBy eq a b && entriesInOrderBy eq as bs
  | _, _ => false

end

/-- Outlines are equal in order when floating point numbers are compared by `eq`. -/
abbrev InOrderBy (eq : Float → Float → Bool) (o p : Outline) : Prop :=
  o.inOrderBy eq p = true

theorem inOrderBy_list_iff {os ps : List Outline} :
    (Outline.list os).InOrderBy eq (.list ps) ↔ List.Forall₂ (InOrderBy eq) os ps := by
  rw [InOrderBy, inOrderBy]
  induction os generalizing ps with
  | nil => cases ps <;> simp [itemsInOrderBy]
  | cons o os ih => cases ps <;> simp [itemsInOrderBy, ih]

theorem inOrderBy_map_iff {es fs : List (String × Outline)} :
    (Outline.map es).InOrderBy eq (.map fs) ↔
      List.Forall₂ (fun e f => e.1 = f.1 ∧ e.2.InOrderBy eq f.2) es fs := by
  rw [InOrderBy, inOrderBy]
  induction es generalizing fs with
  | nil => cases fs <;> simp [entriesInOrderBy]
  | cons e es ih => cases fs <;> simp [entriesInOrderBy, ih, and_assoc]

/-! ### Equality under one sequence of keys -/

/-- What holds of related members holds of related lists. -/
theorem rel_imp_of_mem {α β : Type} {R S : α → β → Prop} {as : List α} {bs : List β}
    (h : List.Forall₂ R as bs) (each : ∀ a ∈ as, ∀ b ∈ bs, R a b → S a b) :
    List.Forall₂ S as bs := by
  refine List.forall₂_iff_zip.mpr ⟨h.length_eq, fun {a b} mem => ?_⟩
  obtain ⟨left, right⟩ := List.of_mem_zip mem
  exact each a left b right ((List.forall₂_iff_zip.mp h).2 mem)

/-- Between maps that have the same keys in the same order, each once, equality goes entry by
entry. -/
theorem equalBy_map_iff {es fs : List (String × Outline)}
    (keys : es.map Prod.fst = fs.map Prod.fst) (nodup : (fs.map Prod.fst).Nodup) :
    (Outline.map es).EqualBy eq (.map fs) ↔
      List.Forall₂ (fun e f => e.1 = f.1 ∧ e.2.EqualBy eq f.2) es fs := by
  have paired : List.Forall₂ (fun e f => e.1 = f.1) es fs := by
    rwa [← List.forall₂_eq_eq_eq, List.forall₂_map_left_iff, List.forall₂_map_right_iff] at keys
  constructor
  · intro h
    rw [EqualBy, beqBy, Bool.and_eq_true] at h
    refine rel_imp_of_mem paired fun e left f right key => ?_
    obtain ⟨p, hp, equal⟩ := beqEntriesBy_iff.mp h.2 e left
    -- the key is written once, so what is found under it is the entry at the same place
    rw [key, lookup_eq_some_of_mem nodup right] at hp
    cases hp
    exact ⟨key, equal⟩
  · intro h
    exact equalBy_map h nodup

/-! ### Outlines with the keys of their types -/

/-- Every map inside an outline names a type and has the keys of that type, in order. -/
def Regular (o : Outline) : Prop :=
  ∀ entries, Occurs (.map entries) o →
    ∃ type : NodeType, entries.map Prod.fst = Schema.outlineKeys type ∧
      ("type", .sym type.tag) ∈ entries

/-- The items of a list and the values of a map. -/
def parts : Outline → List Outline
  | .list items => items
  | .map entries => entries.map Prod.snd
  | _ => []

theorem occurs_of_mem_parts {x o : Outline} (h : x ∈ o.parts) : x.Occurs o := by
  cases o with
  | list items => exact .item h .here
  | map entries =>
    obtain ⟨e, he, rfl⟩ := List.mem_map.mp h
    exact .entry he .here
  | _ => cases h

theorem sizeOf_lt_of_mem_parts {x o : Outline} (h : x ∈ o.parts) : sizeOf x < sizeOf o := by
  cases o with
  | list items =>
    have : sizeOf x < sizeOf items := List.sizeOf_lt_of_mem h
    simp only [Outline.list.sizeOf_spec]
    omega
  | map entries =>
    obtain ⟨⟨key, v⟩, he, rfl⟩ := List.mem_map.mp h
    have := List.sizeOf_lt_of_mem he
    simp only [Prod.mk.sizeOf_spec] at this
    simp only [Outline.map.sizeOf_spec]
    omega
  | _ => cases h

/-- Induction over outlines: a property holds of all of them when it passes from the parts of an
outline to the outline. -/
theorem induction_parts {P : Outline → Prop} (step : ∀ o, (∀ x ∈ o.parts, P x) → P o)
    (o : Outline) : P o :=
  step o fun x h =>
    have := sizeOf_lt_of_mem_parts h
    induction_parts step x
termination_by sizeOf o

theorem Regular.part {o x : Outline} (h : o.Regular) (hx : x ∈ o.parts) : x.Regular := by
  intro entries occurs
  exact h entries (occurs.trans (occurs_of_mem_parts hx))

section Regular

variable {es fs : List (String × Outline)}

/-- A regular map has no key twice, because the keys of a type are distinct. -/
theorem Regular.nodup (h : (Outline.map es).Regular) : (es.map Prod.fst).Nodup := by
  obtain ⟨type, keys, -⟩ := h es .here
  rw [keys]
  exact Schema.nodup_outlineKeys type

/-- Equal maps name the same type, so they have the same keys in the same order. -/
theorem Regular.keys_eq (he : (Outline.map es).Regular) (hf : (Outline.map fs).Regular)
    (h : (Outline.map es).EqualBy eq (.map fs)) : es.map Prod.fst = fs.map Prod.fst := by
  obtain ⟨type, keys, named⟩ := he es .here
  obtain ⟨type', keys', named'⟩ := hf fs .here
  rw [EqualBy, beqBy, Bool.and_eq_true] at h
  obtain ⟨p, hp, equal⟩ := beqEntriesBy_iff.mp h.2 _ named
  rw [lookup_eq_some_of_mem hf.nodup named'] at hp
  cases hp
  have tags : type.tag = type'.tag := by simpa [EqualBy, beqBy] using equal
  rw [keys, keys', NodeType.tag_inj tags]

end Regular

/-- On outlines whose maps have the keys of their types, equality looks at the order of the entries
without asking for it. -/
theorem Regular.equalBy_iff {o p : Outline} (ho : o.Regular) (hp : p.Regular) :
    o.EqualBy eq p ↔ o.InOrderBy eq p := by
  induction o using induction_parts generalizing p with
  | step o ih =>
    cases o with
    | list os =>
      cases p with
      | list ps =>
        have each : ∀ o ∈ os, ∀ p ∈ ps, (o.EqualBy eq p ↔ o.InOrderBy eq p) :=
          fun o mem p mem' => ih o mem (ho.part mem) (hp.part mem')
        rw [inOrderBy_list_iff, EqualBy, beqBy, beqListBy_iff]
        constructor
        · intro h
          exact rel_imp_of_mem h fun o mem p mem' => (each o mem p mem').mp
        · intro h
          exact rel_imp_of_mem h fun o mem p mem' => (each o mem p mem').mpr
      | _ => simp [EqualBy, beqBy, InOrderBy, inOrderBy]
    | map es =>
      cases p with
      | map fs =>
        have each : ∀ e ∈ es, ∀ f ∈ fs, (e.2.EqualBy eq f.2 ↔ e.2.InOrderBy eq f.2) := by
          intro e mem f mem'
          have left : e.2 ∈ (Outline.map es).parts := List.mem_map_of_mem mem
          have right : f.2 ∈ (Outline.map fs).parts := List.mem_map_of_mem mem'
          exact ih e.2 left (ho.part left) (hp.part right)
        rw [inOrderBy_map_iff]
        constructor
        · intro h
          have entries := (equalBy_map_iff (ho.keys_eq hp h) hp.nodup).mp h
          exact rel_imp_of_mem entries fun e mem f mem' both =>
            ⟨both.1, (each e mem f mem').mp both.2⟩
        · intro h
          refine equalBy_map ?_ hp.nodup
          exact rel_imp_of_mem h fun e mem f mem' both =>
            ⟨both.1, (each e mem f mem').mpr both.2⟩
      | _ => simp [EqualBy, beqBy, InOrderBy, inOrderBy]
    | _ => cases p <;> simp [EqualBy, beqBy, InOrderBy, inOrderBy]

/-! ### Outlines without floating point numbers -/

/-- Outlines that are equal in order are the same when there is no floating point number in them. -/
theorem eq_of_inOrder {o p : Outline} (free : ∀ x, ¬ Occurs (.float x) o)
    (h : o.InOrderBy eq p) : o = p := by
  induction o using induction_parts generalizing p with
  | step o ih =>
    have below : ∀ v ∈ o.parts, ∀ {q : Outline}, v.InOrderBy eq q → v = q := fun v mem q hq =>
      ih v mem (fun x occurs => free x (occurs.trans (occurs_of_mem_parts mem))) hq
    cases o with
    | list os =>
      cases p with
      | list ps =>
        have same := rel_imp_of_mem (inOrderBy_list_iff.mp h) fun o mem p _ => below o mem
        rw [List.forall₂_eq_eq_eq] at same
        rw [same]
      | _ => simp [InOrderBy, inOrderBy] at h
    | map es =>
      cases p with
      | map fs =>
        have same : List.Forall₂ Eq es fs := by
          refine rel_imp_of_mem (inOrderBy_map_iff.mp h) fun e mem f _ both => ?_
          exact Prod.ext both.1 (below e.2 (List.mem_map_of_mem mem) both.2)
        rw [List.forall₂_eq_eq_eq] at same
        rw [same]
      | _ => simp [InOrderBy, inOrderBy] at h
    | float x => exact absurd .here (free x)
    | _ =>
      clear below ih free
      cases p <;> simp_all [InOrderBy, inOrderBy]

end Outline

/-! ### Outlines of nodes -/

namespace Node

/-- The outline of a node is regular all the way down. -/
theorem regular_of_outline {n : Node} {o : Outline} (h : n.outline = .ok o) : o.Regular := by
  intro entries occurs
  obtain ⟨path, m, -, hm⟩ := exists_atPath?_of_occurs h occurs
  obtain ⟨rest, heq, -⟩ := entries_of_outline hm
  refine ⟨m.type, keys_of_outline hm, ?_⟩
  cases heq
  exact List.mem_cons_self

/-- No node at or below a node has a floating point number among its children. -/
def FloatFree (n : Node) : Prop :=
  ∀ path m, n.atPath? path = some m → ∀ x : Float, .float x ∉ m.children

/-- What a node without floating point numbers holds has none either. -/
theorem FloatFree.of_holds {n m : Node} (free : n.FloatFree) (h : n.Holds (.node m)) :
    m.FloatFree := by
  obtain ⟨before, hm⟩ := h.exists_atPath?
  intro path k hk
  refine free (before ++ path) k ?_
  rw [atPath?_append, hm]
  exact hk

theorem FloatFree.not_holds {n : Node} (free : n.FloatFree) (x : Float) :
    ¬ n.Holds (.float x) := by
  intro h
  cases h with
  | own h => exact free [] n rfl x h
  | inner hm h =>
    obtain ⟨i, hi⟩ := exists_atPath?_of_mem hm
    exact free [i] _ hi x h

/-- The outline of a tree without floating point numbers has none. -/
theorem FloatFree.not_occurs {n : Node} {o : Outline} (free : n.FloatFree)
    (h : n.outline = .ok o) (x : Float) : ¬ Outline.Occurs (.float x) o := by
  induction n using induction_holds generalizing o with
  | step n ih =>
    intro occurs
    have own : (Outline.float x).IsOwn := trivial
    rcases (occurs_outline_iff h own).mp occurs with rfl | ⟨c, shown, v, hv, occurs⟩
    · obtain ⟨entries, heq, -⟩ := entries_of_outline h
      cases heq
    have held : n.Holds c := holds_of_mem_shown shown
    cases c with
    | node m =>
      rw [Child.outline] at hv
      exact ih m held (free.of_holds held) hv occurs
    | float y =>
      rw [Child.outline] at hv
      cases hv
      cases occurs
      exact free.not_holds _ held
    | _ =>
      rw [Child.outline] at hv
      cases hv
      cases occurs

/-- **Equal outlines are written alike.** Any two nodes have outlines on which equality with and
without regard to the order of entries coincide, whatever equality floating point numbers are
compared by. When the outline of a tree without floating point numbers equals another one, the two
are the same, with the same keys in the same order in every map, and are written as the same
text. -/
theorem equal_outlines_ordered (a b : Node) :
    ∃ o p, a.outline = .ok o ∧ b.outline = .ok p ∧
      (∀ eq, o.beqBy eq p = o.inOrderBy eq p) ∧
      (a.FloatFree → (o == p) = true → o = p ∧ o.toJson.compact = p.toJson.compact) := by
  obtain ⟨o, ho⟩ := a.exists_outline
  obtain ⟨p, hp⟩ := b.exists_outline
  have coincide : ∀ {eq}, o.EqualBy eq p ↔ o.InOrderBy eq p :=
    (regular_of_outline ho).equalBy_iff (regular_of_outline hp)
  refine ⟨o, p, ho, hp, fun eq => Bool.eq_iff_iff.mpr coincide, fun free equal => ?_⟩
  have same : o = p := Outline.eq_of_inOrder (free.not_occurs ho) (coincide.mp equal)
  exact ⟨same, by rw [same]⟩

end Node

end RubyTree
