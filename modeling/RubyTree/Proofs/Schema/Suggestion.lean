/-
Suggestions are the closest fields.

`Schema.IsClosest type name f` says which field is suggested for a name, in terms of the edit
distance alone: the first of the closest fields, other than the name itself, if it is at most two
edits away.

* `Schema.closest?_eq_some_iff`, `Schema.closest?_eq_none_iff` — the search for a suggestion gives
  that field, and nothing exactly when every other field is farther away.
* `Node.Refuses.eq_of` — whatever is asked of a node, a refusal is the one of the name that was
  asked for, so that it carries the suggestion for this name.

Only fields of the schema are suggested, and those a node answers to.
-/

import RubyTree.Proofs.Field.Support
import RubyTree.Proofs.Text.EditDistance

namespace RubyTree

open Text.EditDistance (distance)

/-! ### The closest field -/

namespace Schema

/-- The field `f` of a type is the first of those closest to `name`, which does not count itself,
and at most two edits away. -/
structure IsClosest (type : NodeType) (name f : String) : Prop where
  other : f ≠ name
  near : distance f name ≤ 2
  first : ∃ before after, fields type = some (before ++ f :: after) ∧
    (∀ g ∈ before, g ≠ name → distance f name < distance g name) ∧
      ∀ g ∈ after, g ≠ name → distance f name ≤ distance g name

theorem firstLeast_eq_none_iff {α : Type} {key : α → Nat} {l : List α} :
    firstLeast key l = none ↔ l = [] := by
  cases l with
  | nil => simp [firstLeast]
  | cons a l =>
    simp only [firstLeast, reduceCtorEq, iff_false]
    split
    · nofun
    · split <;> nofun

/-- The first element with the least key: those before it have greater keys, and those behind it no
smaller ones. -/
def IsFirstLeast {α : Type} (key : α → Nat) (l : List α) (a : α) : Prop :=
  ∃ before after, l = before ++ a :: after ∧ (∀ b ∈ before, key a < key b) ∧
    ∀ b ∈ after, key a ≤ key b

section FirstLeast

variable {α : Type} {key : α → Nat} {l : List α} {a b : α}

/-- No element has a smaller key than the first least one. -/
theorem IsFirstLeast.le (h : IsFirstLeast key l a) (mem : b ∈ l) : key a ≤ key b := by
  obtain ⟨before, after, rfl, smaller, least⟩ := h
  rcases List.mem_append.mp mem with mem | mem
  · exact Nat.le_of_lt (smaller b mem)
  · rcases List.mem_cons.mp mem with rfl | mem
    · exact Nat.le_refl _
    · exact least b mem

theorem isFirstLeast_cons_iff {c : α} :
    IsFirstLeast key (c :: l) a ↔
      (a = c ∧ ∀ b ∈ l, key c ≤ key b) ∨ (IsFirstLeast key l a ∧ key a < key c) := by
  constructor
  · rintro ⟨before, after, split, smaller, least⟩
    cases before with
    | nil =>
      cases split
      exact .inl ⟨rfl, least⟩
    | cons d before =>
      cases split
      obtain ⟨first, others⟩ := List.forall_mem_cons.mp smaller
      exact .inr ⟨⟨before, after, rfl, others, least⟩, first⟩
  · rintro (⟨rfl, least⟩ | ⟨⟨before, after, rfl, smaller, least⟩, first⟩)
    · exact ⟨[], l, rfl, nofun, least⟩
    · exact ⟨c :: before, after, rfl, List.forall_mem_cons.mpr ⟨first, smaller⟩, least⟩

/-- The search finds the first least element. -/
theorem firstLeast_eq_some_iff : firstLeast key l = some a ↔ IsFirstLeast key l a := by
  induction l generalizing a with
  | nil =>
    constructor
    · nofun
    · rintro ⟨before, after, split, -⟩
      cases before <;> cases split
  | cons c l ih =>
    rw [firstLeast, isFirstLeast_cons_iff]
    cases hl : firstLeast key l with
    | none =>
      obtain rfl := firstLeast_eq_none_iff.mp hl
      simp [← ih, hl, eq_comm]
    | some b =>
      have first := ih.mp hl
      have mem : b ∈ l := by
        obtain ⟨before, after, rfl, -⟩ := first
        exact List.mem_append_right _ List.mem_cons_self
      have least : (∀ d ∈ l, key c ≤ key d) ↔ key c ≤ key b :=
        ⟨fun h => h b mem, fun h d hd => Nat.le_trans h (first.le hd)⟩
      rw [← ih, hl, least, Option.some.injEq]
      simp only
      split
      · rename_i smaller
        constructor
        · intro h
          cases h
          exact .inr ⟨rfl, smaller⟩
        · rintro (⟨-, h⟩ | ⟨rfl, -⟩)
          · exact absurd smaller (Nat.not_lt.mpr h)
          · rfl
      · rename_i notSmaller
        constructor
        · intro h
          cases h
          exact .inl ⟨rfl, Nat.not_lt.mp notSmaller⟩
        · rintro (⟨rfl, -⟩ | ⟨rfl, smaller⟩)
          · rfl
          · exact absurd smaller notSmaller

end FirstLeast

/-- A field with its distance from a name, when it may be suggested for the name. -/
def candidate? (name field : String) : Option (String × Nat) :=
  if field == name then none
  else (Text.EditDistance.upTo? reach field name).map (fun edits => (field, edits))

theorem candidates_eq (type : NodeType) (name : String) :
    candidates type name = ((fields type).getD []).filterMap (candidate? name) :=
  rfl

/-- A field may be suggested for another name that is at most two edits away. -/
theorem candidate?_eq_some_iff {name field : String} {p : String × Nat} :
    candidate? name field = some p ↔
      field ≠ name ∧ distance field name ≤ 2 ∧ p = (field, distance field name) := by
  unfold candidate?
  split
  · rename_i same
    simp [beq_iff_eq.mp same]
  · rename_i other
    rw [beq_iff_eq] at other
    simp only [Option.map_eq_some_iff, Text.EditDistance.upTo?_eq_some_iff, reach]
    constructor
    · rintro ⟨_, ⟨rfl, near⟩, rfl⟩
      exact ⟨other, near, rfl⟩
    · rintro ⟨-, near, rfl⟩
      exact ⟨_, ⟨rfl, near⟩, rfl⟩

/-- A field that is other than the name is a candidate, or it is too far away. -/
theorem candidate?_cases {name field : String} (other : field ≠ name) :
    candidate? name field = some (field, distance field name) ∨
      candidate? name field = none ∧ 2 < distance field name := by
  by_cases near : distance field name ≤ 2
  · exact .inl (candidate?_eq_some_iff.mpr ⟨other, near, rfl⟩)
  · refine .inr ⟨?_, Nat.not_le.mp near⟩
    cases h : candidate? name field with
    | none => rfl
    | some p => exact absurd (candidate?_eq_some_iff.mp h).2.1 near

/-- What holds of the distances of all candidates, and beyond two edits, holds of the distances of
all fields. -/
theorem forall_candidates_iff {name : String} {names : List String} {P : Nat → Prop}
    (far : ∀ d, 2 < d → P d) :
    (∀ p ∈ names.filterMap (candidate? name), P p.2) ↔
      ∀ g ∈ names, g ≠ name → P (distance g name) := by
  constructor
  · intro h g mem other
    rcases candidate?_cases other with hc | ⟨-, beyond⟩
    · exact h _ (List.mem_filterMap.mpr ⟨g, mem, hc⟩)
    · exact far _ beyond
  · intro h p hp
    obtain ⟨g, mem, hc⟩ := List.mem_filterMap.mp hp
    obtain ⟨other, -, rfl⟩ := candidate?_eq_some_iff.mp hc
    exact h g mem other

/-- The suggestion for a name is the first of the closest fields. -/
theorem closest?_eq_some_iff {type : NodeType} {name f : String} :
    closest? type name = some f ↔ IsClosest type name f := by
  rw [closest?, candidates_eq, Option.map_eq_some_iff]
  constructor
  · rintro ⟨p, hp, rfl⟩
    obtain ⟨before, after, split, smaller, least⟩ := firstLeast_eq_some_iff.mp hp
    obtain ⟨l₁, l₂, names, rfl, hl₂⟩ := List.filterMap_eq_append_iff.mp split
    obtain ⟨l₃, g, l₄, rfl, skipped, hg, rfl⟩ := List.filterMap_eq_cons_iff.mp hl₂
    obtain ⟨other, near, rfl⟩ := candidate?_eq_some_iff.mp hg
    have registered : fields type = some (l₁ ++ l₃ ++ g :: l₄) := by
      cases hf : fields type with
      | none =>
        rw [hf] at names
        simp at names
      | some fields =>
        rw [hf, Option.getD_some] at names
        rw [names, List.append_assoc]
    have none : (l₁ ++ l₃).filterMap (candidate? name) = l₁.filterMap (candidate? name) := by
      rw [List.filterMap_append, List.filterMap_eq_nil_iff.mpr skipped, List.append_nil]
    rw [← none, forall_candidates_iff fun d far => Nat.lt_of_le_of_lt near far] at smaller
    rw [forall_candidates_iff fun d far => Nat.le_trans near (Nat.le_of_lt far)] at least
    exact ⟨other, near, l₁ ++ l₃, l₄, registered, smaller, least⟩
  · rintro ⟨other, near, before, after, names, smaller, least⟩
    rw [← forall_candidates_iff fun d far => Nat.lt_of_le_of_lt near far] at smaller
    rw [← forall_candidates_iff fun d far => Nat.le_trans near (Nat.le_of_lt far)] at least
    refine ⟨(f, distance f name), firstLeast_eq_some_iff.mpr ⟨_, _, ?_, smaller, least⟩, rfl⟩
    rw [names, Option.getD_some, List.filterMap_append,
      List.filterMap_cons_some (candidate?_eq_some_iff.mpr ⟨other, near, rfl⟩)]

/-- Nothing is suggested exactly when all other fields are too far away. -/
theorem closest?_eq_none_iff {type : NodeType} {name : String} :
    closest? type name = none ↔ ∀ f, Has type f → f ≠ name → 2 < distance f name := by
  have member : ∀ f, f ∈ (fields type).getD [] ↔ Has type f := by
    intro f
    unfold Has
    cases fields type <;> simp
  rw [closest?, candidates_eq, Option.map_eq_none_iff, firstLeast_eq_none_iff,
    List.filterMap_eq_nil_iff]
  simp only [member]
  constructor
  · intro h f has other
    rcases candidate?_cases other with hc | ⟨-, far⟩
    · rw [h f has] at hc
      cases hc
    · exact far
  · intro h f has
    cases hc : candidate? name f with
    | none => rfl
    | some p =>
      obtain ⟨other, near, -⟩ := candidate?_eq_some_iff.mp hc
      exact absurd (h f has other) (Nat.not_lt.mpr near)

end Schema

/-! ### Refusals -/

namespace Node

/-- What is asked of a node by a name, and refused: a field, a single slot or a list, by its name or
through its accessor, a question about a key of a hash, or a look-up by a derived name. -/
inductive Refuses (n : Node) : String → Refusal → Prop where
  | field {name : String} {r : Refusal} (h : n.field name = .error r) : Refuses n name r
  | resolve {name : String} {r : Refusal} (h : n.resolve name = .error r) : Refuses n name r
  | get {slot : Slot} {r : Refusal} (h : n.get slot = .error r) : Refuses n slot.field r
  | list {listing : Listing} {r : Refusal} (h : n.list listing = .error r) :
      Refuses n listing.field r
  | hasKey {key : String} {r : Refusal} (h : n.hasKey key = .error r) : Refuses n "has_key" r
  | hashPair {key : String} {r : Refusal} (h : n.hashPair key = .error r) : Refuses n "hash_pair" r
  | hashValue {key : String} {r : Refusal} (h : n.hashValue key = .error r) :
      Refuses n "hash_value" r
  | lookup {name : String} {r : Refusal} (h : n.lookup name = .error r) : Refuses n name r

/-- The accessor of a slot reads the field with its name. -/
theorem get_eq_resolve (n : Node) (slot : Slot) : n.get slot = n.resolve slot.field := by
  cases slot <;> rfl

theorem onHash_eq_error {α : Type} {n : Node} {name : String} {value : α} {r : Refusal}
    (h : n.onHash name value = .error r) : r = .of name n :=
  (n.onHash_settles name value value).eq_refusal h

/-- A refusal is the one of the name that was asked for. -/
theorem Refuses.eq_of {n : Node} {name : String} {r : Refusal} (h : n.Refuses name r) :
    r = .of name n := by
  cases h with
  | field h => exact (n.field_settles name).eq_refusal h
  | resolve h => exact (n.resolve_settles name).eq_refusal h
  | get h =>
    rw [get_eq_resolve] at h
    exact (n.resolve_settles _).eq_refusal h
  | list h => exact (n.list_settles _).eq_refusal h
  | hasKey h => exact onHash_eq_error h
  | hashPair h => exact onHash_eq_error h
  | hashValue h => exact onHash_eq_error h
  | lookup h =>
    unfold Node.lookup at h
    split at h
    · split at h
      · cases h
      · cases h
        rfl
    · cases h
      rfl

/-- **Suggestions are usable and closest.** Whatever is asked of a node and refused, the refusal
names what was asked for, and its suggestion is the first of the closest fields of the node's type,
other than that name and at most two edits away. There is none exactly when all other fields are
farther away. A suggested field can be read from the node. -/
theorem suggestion_closest {n : Node} {name : String} {r : Refusal} (h : n.Refuses name r) :
    r.field = name ∧
    (r.suggestion = none ↔ ∀ f, Schema.Has n.type f → f ≠ name → 2 < distance f name) ∧
    (∀ f, r.suggestion = some f ↔ Schema.IsClosest n.type name f) ∧
    ∀ f, r.suggestion = some f → ∃ reading, n.field f = .ok reading := by
  obtain rfl := h.eq_of
  refine ⟨rfl, Schema.closest?_eq_none_iff, fun f => Schema.closest?_eq_some_iff, ?_⟩
  intro f suggested
  obtain ⟨before, after, names, -⟩ := (Schema.closest?_eq_some_iff.mp suggested).first
  have has : Schema.Has n.type f :=
    ⟨_, names, List.mem_append_right _ List.mem_cons_self⟩
  exact (n.field_settles f).exists_ok_iff.mpr (.inl has)

/-- Both fields of a module are two edits away from the name, so the first one is suggested; a list
that is refused as a single slot is not suggested for itself. -/
theorem suggestion_closest_module :
    let n : Node := .mk 0 .moduleDef [.nil, .nil] none
    (∃ r, n.field "nady" = .error r ∧ r.suggestion = some "name" ∧
      Schema.IsClosest .moduleDef "nady" "name" ∧ ∃ reading, n.field "name" = .ok reading) ∧
    ∃ r, n.resolve "body" = .error r ∧ r.suggestion = none ∧
      ∀ f, Schema.Has .moduleDef f → f ≠ "body" → 2 < distance f "body" := by
  intro n
  have tie : Schema.closest? .moduleDef "nady" = some "name" := by decide +kernel
  have alone : Schema.closest? .moduleDef "body" = none := by decide +kernel
  have misspelt : n.Refuses "nady" (.of "nady" n) := .field rfl
  have list : n.Refuses "body" (.of "body" n) := .resolve rfl
  obtain ⟨-, -, closest, usable⟩ := suggestion_closest misspelt
  obtain ⟨-, none, -⟩ := suggestion_closest list
  exact ⟨⟨_, rfl, tie, (closest "name").mp tie, usable "name" tie⟩, _, rfl, alone, none.mp alone⟩

end Node

end RubyTree
