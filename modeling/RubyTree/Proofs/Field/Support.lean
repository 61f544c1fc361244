/-
Which fields a node answers to.

The schema, the list of list fields and the type sets of the readers in `RubyTree.Field.Listing` and
`RubyTree.Field.Entries` are separate tables. They agree: a node answers to a field exactly when
the schema of its type lists the field, hashes answer to three lists more, and every other name is
refused under that name.

* `Node.Settles` — the shape of all these statements: a value where the field is served, and the
  refusal of the asked name where it is not.
* `Node.list_settles`, `Node.resolve_settles`, `Node.field_settles` — lists, single slots and
  fields of either kind.
* `Node.resolve_eq_positional` — a single slot is the one at its schema position, except for
  `Schema.overrides`.
-/

import RubyTree.Field.Basic
import RubyTree.Proofs.Outcome
import RubyTree.Proofs.Tags

namespace RubyTree

/-! ### The tables -/

namespace Schema

/-- The schema of a type lists a field. -/
def Has (type : NodeType) (field : String) : Prop :=
  ∃ names ∈ fields type, field ∈ names

instance (type : NodeType) (field : String) : Decidable (Has type field) :=
  inferInstanceAs (Decidable (∃ names ∈ fields type, field ∈ names))

/-- The lists that hashes have beside the fields of their schema. -/
def hashLists : List String := ["keys", "values", "kwsplats"]

/-- The single slots that are not read at their schema position. -/
def overrides : List (NodeType × String) :=
  [(.orAsgn, "left_value"), (.andAsgn, "left_value"), (.opAsgn, "left_value"),
   (.caseWhen, "else_statement"), (.caseMatch, "else_statement"),
   (.rescueClause, "else_statement"), (.regexpLit, "options")]

/-- A field has a position when the schema lists it. -/
theorem fieldIndex?_isSome_iff {type : NodeType} {field : String} :
    (fieldIndex? type field).isSome = true ↔ Has type field := by
  unfold fieldIndex? Has
  cases fields type with
  | none => simp
  | some names => simp

end Schema

namespace Listing

theorem mem_all (l : Listing) : l ∈ all := by
  cases l <;> decide

/-- A list is found by the name of its field, and by no other. -/
theorem ofField?_eq_some_iff {name : String} {l : Listing} :
    ofField? name = some l ↔ l.field = name := by
  constructor
  · intro h
    have := List.find?_some h
    simpa using this
  · rintro rfl
    cases l <;> decide

/-- The names of the lists are the list fields of the schema. -/
theorem isListField_iff {name : String} :
    Schema.isListField name = true ↔ ∃ l, Listing.ofField? name = some l := by
  have forward : ∀ name ∈ Schema.listFields, (Listing.ofField? name).isSome = true := by decide
  have backward : ∀ l ∈ all, l.field ∈ Schema.listFields := by decide
  rw [Schema.isListField, List.contains_iff_mem]
  constructor
  · intro h
    exact Option.isSome_iff_exists.mp (forward name h)
  · rintro ⟨l, h⟩
    rw [← ofField?_eq_some_iff.mp h]
    exact backward l (mem_all l)

end Listing

namespace Node

/-- A node answers to a name: a field of its schema, or one of the lists that only hashes have. -/
def Answers (n : Node) (name : String) : Prop :=
  Schema.Has n.type name ∨ n.isHashLike = true ∧ name ∈ Schema.hashLists

instance (n : Node) (name : String) : Decidable (n.Answers name) :=
  inferInstanceAs (Decidable (_ ∨ _))

/-! ### Answers and refusals -/

/-- What asking for `name` comes to: a value when `served` holds, and otherwise the refusal of
`name`. -/
inductive Settles (n : Node) (name : String) (served : Prop) {α : Type} : Except Refusal α → Prop
  | value (a : α) (h : served) : Settles n name served (.ok a)
  | refusal (h : ¬ served) : Settles n name served (n.refuse name)

section Settles

variable {n : Node} {name : String} {served : Prop} {α : Type} {result : Except Refusal α}

/-- What is settled has a value exactly when the name is served. -/
theorem Settles.exists_ok_iff (h : n.Settles name served result) :
    (∃ a, result = .ok a) ↔ served := by
  cases h with
  | value a h => exact ⟨fun _ => h, fun _ => ⟨a, rfl⟩⟩
  | refusal h =>
    constructor
    · rintro ⟨a, ha⟩
      cases ha
    · intro hs
      exact absurd hs h

theorem Settles.eq_refusal (h : n.Settles name served result) {e : Refusal}
    (he : result = .error e) : e = .of name n := by
  cases h with
  | value a h => cases he
  | refusal h => cases he; rfl

theorem Settles.map {β : Type} (f : α → β) (h : n.Settles name served result) :
    n.Settles name served (result.map f) := by
  cases h with
  | value a h => exact .value (f a) h
  | refusal h => exact .refusal h

theorem Settles.congr {other : Prop} (h : n.Settles name served result) (iff : served ↔ other) :
    n.Settles name other result := by
  cases h with
  | value a h => exact .value a (iff.mp h)
  | refusal h => exact .refusal (fun ho => h (iff.mpr ho))

end Settles

/-! ### Lists -/

/-- The childless node of a type. -/
def bare (type : NodeType) : Node := .mk 0 type [] none

/-- Whether a list of hashes is served depends on the type alone, so a childless node decides it. -/
theorem onHash_settles {α β : Type} (n : Node) (field : String) (value : α) (other : β) :
    n.Settles field (((bare n.type).onHash field other).isOk = true) (n.onHash field value) := by
  have same : (bare n.type).isHashLike = n.isHashLike := rfl
  unfold onHash
  rw [same]
  cases n.isHashLike with
  | true => exact .value value rfl
  | false => exact .refusal nofun

/-- Whether a list is read or refused depends on the type alone: a node does as the childless node
of its type does. -/
theorem list_settles_bare (n : Node) (l : Listing) :
    n.Settles l.field (((bare n.type).list l).isOk = true) (n.list l) := by
  have type_bare : (bare n.type).type = n.type := rfl
  cases l
  case pairs | kwsplats | keys | values => exact n.onHash_settles _ _ _
  all_goals
    simp only [list, arguments, body, elements, whenStatements, inStatements, rescueBodies,
      ensureBody, exceptions, type_bare]
    split <;> first | exact .value _ rfl | exact .refusal nofun

/-- The readers of the lists know the same types as the schema. -/
theorem isOk_bare_list (type : NodeType) (l : Listing) :
    ((bare type).list l).isOk = decide ((bare type).Answers l.field) := by
  have table : ∀ type ∈ NodeType.all, ∀ l ∈ Listing.all,
      ((bare type).list l).isOk = decide ((bare type).Answers l.field) := by decide +kernel
  exact table type (NodeType.mem_all type) l (Listing.mem_all l)

/-- A list is read exactly on the nodes that answer to its field. -/
theorem list_settles (n : Node) (l : Listing) :
    n.Settles l.field (n.Answers l.field) (n.list l) := by
  refine (n.list_settles_bare l).congr ?_
  rw [isOk_bare_list, decide_eq_true_iff]
  exact Iff.rfl

/-! ### Single slots -/

/-- A single slot: a field of the schema that is no list. -/
def HasSlot (n : Node) (name : String) : Prop :=
  Schema.Has n.type name ∧ Schema.isListField name = false

/-- The plain reading of a slot takes the child at the schema position. -/
theorem positional_eq_ok_iff {n : Node} {name : String} {c : Child} :
    n.positional name = .ok c ↔
      ∃ i, Schema.fieldIndex? n.type name = some i ∧ Schema.isListField name = false ∧
        c = n.child i := by
  unfold positional
  cases Schema.fieldIndex? n.type name with
  | none => simp [refuse]
  | some i =>
    cases Schema.isListField name with
    | true => simp [refuse]
    | false => simp [eq_comm]

/-- A single slot of the schema is served at its position. -/
theorem positional_settles (n : Node) (name : String) :
    n.Settles name (n.HasSlot name) (n.positional name) := by
  unfold positional HasSlot
  rw [← Schema.fieldIndex?_isSome_iff]
  cases Schema.fieldIndex? n.type name with
  | none => exact .refusal (by simp)
  | some i =>
    cases Schema.isListField name with
    | true => exact .refusal (by simp)
    | false => exact .value _ (by simp)

/-- An overridden slot is a single slot of its type, and it is never refused. -/
theorem resolve_of_override {n : Node} {name : String}
    (h : (n.type, name) ∈ Schema.overrides) :
    n.HasSlot name ∧ ∃ c, n.resolve name = .ok c := by
  have table : ∀ o ∈ Schema.overrides, Schema.Has o.1 o.2 ∧ Schema.isListField o.2 = false := by
    decide
  refine ⟨table _ h, ?_⟩
  simp only [Schema.overrides, List.mem_cons, Prod.mk.injEq, List.not_mem_nil, or_false] at h
  rcases h with ⟨ht, rfl⟩ | ⟨ht, rfl⟩ | ⟨ht, rfl⟩ | ⟨ht, rfl⟩ | ⟨ht, rfl⟩ | ⟨ht, rfl⟩ | ⟨ht, rfl⟩
  case inr.inr.inr.inl | inr.inr.inr.inr.inl | inr.inr.inr.inr.inr.inl =>
    exact ⟨n.lastChild, by simp [resolve, elseStatement, ht]⟩
  case inr.inr.inr.inr.inr.inr => exact ⟨n.lastChild, by simp [resolve, options, ht]⟩
  all_goals
    simp only [resolve, leftValue, ht, if_true]
    split
    · split <;> exact ⟨_, rfl⟩
    · exact ⟨_, rfl⟩

/-- Only regular expressions have flags, so every other node refuses them. -/
theorem positional_options {n : Node} (h : n.type ≠ .regexpLit) :
    n.positional "options" = n.refuse "options" := by
  have table : ∀ type ∈ NodeType.all, Schema.Has type "options" → type = .regexpLit := by
    decide +kernel
  have none : ¬ n.HasSlot "options" := fun hs => h (table _ (NodeType.mem_all _) hs.1)
  cases hp : n.positional "options" with
  | ok c => exact absurd ((n.positional_settles _).exists_ok_iff.mp ⟨c, hp⟩) none
  | error e => rw [(n.positional_settles _).eq_refusal hp]; rfl

/-- A slot that is not overridden is read at its schema position. -/
theorem resolve_eq_positional {n : Node} {name : String}
    (h : (n.type, name) ∉ Schema.overrides) : n.resolve name = n.positional name := by
  unfold resolve
  split
  · rename_i left
    subst left
    unfold leftValue
    split
    case h_4 => rfl
    all_goals rename_i ht; exact absurd (by rw [ht]; decide) h
  split
  · rename_i orElse
    subst orElse
    unfold elseStatement
    split
    case h_4 => rfl
    all_goals rename_i ht; exact absurd (by rw [ht]; decide) h
  split
  · rename_i flags
    subst flags
    unfold options
    split
    · rename_i ht
      exact absurd (by rw [ht]; decide) h
    · rename_i ht
      exact (positional_options ht).symm
  · rfl

/-- A single slot is read exactly on the nodes whose schema has it. -/
theorem resolve_settles (n : Node) (name : String) :
    n.Settles name (n.HasSlot name) (n.resolve name) := by
  by_cases h : (n.type, name) ∈ Schema.overrides
  · obtain ⟨hs, c, hc⟩ := resolve_of_override h
    rw [hc]
    exact .value c hs
  · rw [resolve_eq_positional h]
    exact n.positional_settles name

/-! ### Any field -/

theorem isListField_of_mem_hashLists {name : String} (h : name ∈ Schema.hashLists) :
    Schema.isListField name = true := by
  have table : ∀ name ∈ Schema.hashLists, Schema.isListField name = true := by decide
  exact table name h

/-- A name that is no list is answered to as a single slot. -/
theorem answers_iff_hasSlot {n : Node} {name : String} (h : Schema.isListField name = false) :
    n.Answers name ↔ n.HasSlot name := by
  unfold Answers HasSlot
  constructor
  · rintro (hs | ⟨-, hl⟩)
    · exact ⟨hs, h⟩
    · rw [isListField_of_mem_hashLists hl] at h
      cases h
  · intro hs
    exact .inl hs.1

/-- A field that is a list is read through the list. -/
theorem field_of_listing (n : Node) {name : String} {l : Listing}
    (h : Listing.ofField? name = some l) : n.field name = (n.list l).map .many := by
  unfold field
  rw [h]

/-- A field that is no list is read as a single slot. -/
theorem field_of_slot (n : Node) {name : String} (h : Schema.isListField name = false) :
    n.field name = (n.resolve name).map .one := by
  have none : Listing.ofField? name = none := by
    cases hl : Listing.ofField? name with
    | none => rfl
    | some l =>
      rw [Listing.isListField_iff.mpr ⟨l, hl⟩] at h
      cases h
  unfold field
  rw [none]

/-- A field of either kind is read exactly on the nodes that answer to it. -/
theorem field_settles (n : Node) (name : String) :
    n.Settles name (n.Answers name) (n.field name) := by
  cases h : Schema.isListField name with
  | true =>
    obtain ⟨l, hl⟩ := Listing.isListField_iff.mp h
    rw [n.field_of_listing hl, ← Listing.ofField?_eq_some_iff.mp hl]
    exact (n.list_settles l).map _
  | false =>
    rw [n.field_of_slot h]
    exact ((n.resolve_settles name).map _).congr (answers_iff_hasSlot h).symm

/-- What a field holds is a list exactly for the list fields. -/
theorem field_many_iff {n : Node} {name : String} {r : Reading} (h : n.field name = .ok r) :
    (∃ cs, r = .many cs) ↔ Schema.isListField name = true := by
  cases hl : Schema.isListField name with
  | true =>
    obtain ⟨l, hl⟩ := Listing.isListField_iff.mp hl
    rw [n.field_of_listing hl] at h
    obtain ⟨cs, -, rfl⟩ := Outcome.map_eq_ok_iff.mp h
    exact ⟨fun _ => rfl, fun _ => ⟨cs, rfl⟩⟩
  | false =>
    rw [n.field_of_slot hl] at h
    obtain ⟨c, -, rfl⟩ := Outcome.map_eq_ok_iff.mp h
    simp

/-- **Fields and schema agree.** A field is served exactly when the schema of the type lists it, or
when it is one of the three further lists of a hash; it is a list exactly for the list fields. A
single slot is served exactly for the listed fields that are no lists, as the same child that the
field holds: the one at the schema position, or `nil` when the node is shorter, unless the slot is
overridden. All else is refused under the asked name, with the type and the s-expression of the
node. -/
theorem field_iff_schema (n : Node) (name : String) :
    ((∃ r, n.field name = .ok r) ↔
      Schema.Has n.type name ∨
        n.type ∈ [.hashLit, .hashPattern, .kwargs] ∧ name ∈ ["keys", "values", "kwsplats"]) ∧
    (∀ r, n.field name = .ok r →
      ((∃ cs, r = .many cs) ↔ Schema.isListField name = true)) ∧
    ((∃ c, n.resolve name = .ok c) ↔
      Schema.Has n.type name ∧ Schema.isListField name = false) ∧
    (∀ c, n.resolve name = .ok c → n.field name = .ok (.one c)) ∧
    (∀ c, n.resolve name = .ok c → (n.type, name) ∉ Schema.overrides →
      ∃ i, Schema.fieldIndex? n.type name = some i ∧ c = n.children[i]?.getD .nil) ∧
    (∀ e, n.field name = .error e ∨ n.resolve name = .error e →
      e = .of name n ∧ e.field = name ∧ e.type = n.type ∧ e.node = n.sexp) := by
  have hash : n.isHashLike = true ↔ n.type ∈ [.hashLit, .hashPattern, .kwargs] := by
    unfold isHashLike
    split <;> simp_all
  refine ⟨?_, fun r h => field_many_iff h, (n.resolve_settles name).exists_ok_iff, ?_, ?_, ?_⟩
  · rw [← hash]
    exact (n.field_settles name).exists_ok_iff
  · intro c h
    have slot := (n.resolve_settles name).exists_ok_iff.mp ⟨c, h⟩
    rw [n.field_of_slot slot.2, h]
    rfl
  · intro c h plain
    rw [resolve_eq_positional plain] at h
    obtain ⟨i, hi, -, hc⟩ := positional_eq_ok_iff.mp h
    exact ⟨i, hi, by rw [hc, child, List.getD_eq_getElem?_getD]⟩
  · intro e h
    have he : e = .of name n := by
      rcases h with h | h
      · exact (n.field_settles name).eq_refusal h
      · exact (n.resolve_settles name).eq_refusal h
    subst he
    exact ⟨rfl, rfl, rfl, rfl⟩

end Node

end RubyTree
