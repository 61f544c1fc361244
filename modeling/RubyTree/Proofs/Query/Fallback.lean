/-
Fields and hash entries under one name.

A name is first read as a field, and then, on a hash, as a derived name with a key. The two kinds of
names never meet: no field of a hash ends as a derived name does (`Node.field_append_ending`), so no
key is hidden by a field. Only the bare endings are derived names that cannot be selected, because
the key in them is empty.

* `derivedName?_eq_some_iff`, `isDerivedName_iff` — which names are derived from a key.
* `Found.toJson_eq_ok_iff` — how a look-up is shown, which never fails.
* `Node.select_of_refused` — what selecting comes to when the field is refused.
-/

import RubyTree.Proofs.Field.Keys
import RubyTree.Proofs.Query.Select

namespace RubyTree

/-! ### Derived names -/

/-- A name is derived from a key exactly when it is the key with an ending. -/
theorem derivedName?_eq_some_iff {name key : String} {a : Aspect} :
    derivedName? name = some (a, key) ↔ name = key ++ a.ending := by
  constructor
  · intro h
    obtain ⟨a', -, h⟩ := List.exists_of_findSome?_eq_some h
    obtain ⟨key', hkey, heq⟩ := Option.map_eq_some_iff.mp h
    cases heq
    exact Aspect.key?_eq_some_iff.mp hkey
  · rintro rfl
    exact derivedName?_append key a

/-- A name that ends as the names of entries do, with a key in front that is not empty. -/
def EntryName (name : String) : Prop :=
  ∃ key ending, key ≠ "" ∧ ending ∈ ["_pair", "_value", "_source"] ∧ name = key ++ ending

/-- The three suffixes are the endings of the aspects. -/
theorem mem_endings_iff {ending : String} :
    ending ∈ ["_pair", "_value", "_source"] ↔ ∃ a : Aspect, a.ending = ending := by
  constructor
  · intro h
    simp only [List.mem_cons, List.not_mem_nil, or_false] at h
    rcases h with rfl | rfl | rfl
    · exact ⟨.pair, rfl⟩
    · exact ⟨.value, rfl⟩
    · exact ⟨.source, rfl⟩
  · rintro ⟨a, rfl⟩
    cases a <;> decide

/-- Entries are selected by the derived names whose key is not empty. -/
theorem isDerivedName_iff {name : String} : isDerivedName name = true ↔ EntryName name := by
  unfold isDerivedName
  constructor
  · intro h
    split at h
    · rename_i a key derived
      exact ⟨key, a.ending, by simpa using h, mem_endings_iff.mpr ⟨a, rfl⟩,
        derivedName?_eq_some_iff.mp derived⟩
    · cases h
  · rintro ⟨key, ending, nonempty, hending, rfl⟩
    obtain ⟨a, rfl⟩ := mem_endings_iff.mp hending
    rw [derivedName?_append]
    simpa using nonempty

/-! ### What a look-up shows -/

/-- A JSON value shows what a look-up found: null for a missing key, the outline of a pair in key
order, a coerced value, or the source text. -/
inductive Found.Shown : Found → Json → Prop where
  | noPair : Shown (.pair none) .null
  | pair {n : Node} {o : Outline} (h : n.outline = .ok o) :
      Shown (.pair (some n)) o.toJson.sortKeys
  | noValue : Shown (.value none) .null
  | value (v : Literal) : Shown (.value (some v)) v.toJson.sortKeys
  | source (text : String) : Shown (.source text) (.str text)

/-- The JSON of what was found is what shows it. -/
theorem Found.toJson_eq_ok_iff {found : Found} {v : Json} :
    found.toJson = .ok v ↔ found.Shown v := by
  constructor
  · intro h
    unfold toJson at h
    split at h
    · obtain ⟨o, ho, rfl⟩ := Outcome.map_eq_ok_iff.mp h
      exact .pair ho
    all_goals cases h
    · exact .noPair
    · exact .value _
    · exact .noValue
    · exact .source _
  · intro h
    cases h with
    | pair ho => exact Outcome.map_eq_ok_iff.mpr ⟨_, ho, rfl⟩
    | _ => rfl

/-- Whatever a look-up found can be shown, as every pair has an outline. -/
theorem Found.exists_toJson (found : Found) : ∃ v, found.toJson = .ok v := by
  cases found with
  | pair n =>
    cases n with
    | none => exact ⟨_, rfl⟩
    | some n =>
      obtain ⟨o, ho⟩ := n.exists_outline
      exact ⟨_, Found.toJson_eq_ok_iff.mpr (.pair ho)⟩
  | value v => cases v <;> exact ⟨_, rfl⟩
  | source text => exact ⟨_, rfl⟩

namespace Node

/-! ### Fields and entries of a hash -/

/-- The fields of a hash are its pairs and the lists that only hashes have. -/
theorem answers_iff_of_hash {n : Node} (hash : n.isHashLike = true) {name : String} :
    n.Answers name ↔ name ∈ "pairs" :: Schema.hashLists := by
  have only : Schema.fields n.type = some ["pairs"] := by
    have type := isHashLike_iff.mp hash
    simp only [List.mem_cons, List.not_mem_nil, or_false] at type
    rcases type with type | type | type <;> rw [type] <;> rfl
  simp only [Answers, Schema.Has, only, hash, true_and, Option.mem_some_iff, exists_eq_left',
    List.mem_cons, List.not_mem_nil, or_false]

/-- A hash refuses every derived name as a field. -/
theorem field_append_ending {n : Node} (hash : n.isHashLike = true) (key : String) (a : Aspect) :
    n.field (key ++ a.ending) = .error (.of (key ++ a.ending) n) := by
  have fields : ∀ name ∈ "pairs" :: Schema.hashLists, derivedName? name = none := by decide
  cases h : n.field (key ++ a.ending) with
  | ok r =>
    have answers := (n.field_settles _).exists_ok_iff.mp ⟨r, h⟩
    have plain := fields _ ((answers_iff_of_hash hash).mp answers)
    rw [derivedName?_append] at plain
    cases plain
  | error e => rw [(n.field_settles _).eq_refusal h]

/-- On a hash, selecting a derived name shows what the look-up finds for its key. -/
theorem select_of_entry {n : Node} (hash : n.isHashLike = true) {key : String}
    (nonempty : key ≠ "") (a : Aspect) :
    ∃ v, n.lookup (key ++ a.ending) = .ok (n.aspect key a) ∧ (n.aspect key a).Shown v ∧
      n.select (key ++ a.ending) = .ok v := by
  have derived : isDerivedName (key ++ a.ending) = true :=
    isDerivedName_iff.mpr ⟨key, a.ending, nonempty, mem_endings_iff.mpr ⟨a, rfl⟩, rfl⟩
  obtain ⟨v, hv⟩ := (n.aspect key a).exists_toJson
  refine ⟨v, lookup_append hash key a, Found.toJson_eq_ok_iff.mp hv, ?_⟩
  unfold select
  rw [field_append_ending hash]
  simp only [derived, lookup_append hash, if_true, hv]

/-- The refusal of a field stays when the name is not looked up, or looked up in vain. -/
theorem select_of_refused {n : Node} {name : String} {e : Refusal} (h : n.field name = .error e)
    (vain : EntryName name → n.isHashLike = false) : n.select name = .error (.of name n) := by
  have refusal : e = .of name n := (n.field_settles name).eq_refusal h
  unfold select
  rw [h, refusal]
  simp only
  split
  · rename_i derived
    have elsewhere : n.lookup name = n.refuse name := by
      simp [lookup, vain (isDerivedName_iff.mp derived)]
    rw [elsewhere, refuse]
  · rfl

/-! ### Selecting and looking up -/

/-- Selecting a name and looking it up come to the same: the same refusal, or a value that shows
what was found. -/
inductive SelectsAsLookup (n : Node) (name : String) : Prop where
  | shown {found : Found} {v : Json} (lookup : n.lookup name = .ok found) (shown : found.Shown v)
      (select : n.select name = .ok v)
  | refused {e : Refusal} (lookup : n.lookup name = .error e) (select : n.select name = .error e)

/-- How a hash answers to a name that is none of its fields. -/
structure EntrySelection (n : Node) (name : String) : Prop where
  /-- Exactly the names of entries can be selected. -/
  served_iff : (∃ v, n.select name = .ok v) ↔ EntryName name
  /-- They show what the look-up finds. -/
  shown : EntryName name →
    ∃ found v, n.lookup name = .ok found ∧ found.Shown v ∧ n.select name = .ok v
  /-- All others are refused as fields. -/
  refused : ¬ EntryName name → n.select name = .error (.of name n)
  /-- So selecting and looking up differ on the three endings alone. -/
  differs_iff : ¬ n.SelectsAsLookup name ↔ name ∈ ["_pair", "_value", "_source"]
  /-- An ending is looked up with the empty key, and refused when it is selected. -/
  bare : ∀ a : Aspect, name = a.ending →
    n.lookup name = .ok (n.aspect "" a) ∧ n.select name = .error (.of name n)

/-- A hash answers to every name of an entry, with null for a missing key. -/
theorem exists_shown_of_entryName {n : Node} (hash : n.isHashLike = true) {name : String}
    (entry : EntryName name) :
    ∃ found v, n.lookup name = .ok found ∧ found.Shown v ∧ n.select name = .ok v := by
  obtain ⟨key, ending, nonempty, hending, rfl⟩ := entry
  obtain ⟨a, rfl⟩ := mem_endings_iff.mp hending
  exact ⟨n.aspect key a, select_of_entry hash nonempty a⟩

/-- An ending alone is no name of an entry. -/
theorem not_entryName_ending (a : Aspect) : ¬ EntryName a.ending := by
  rintro ⟨key, ending, nonempty, hending, heq⟩
  obtain ⟨a', rfl⟩ := mem_endings_iff.mp hending
  have derived := derivedName?_append key a'
  have bare := derivedName?_append "" a
  rw [String.empty_append, heq, derived] at bare
  cases bare
  exact nonempty rfl

/-- An ending alone looks the empty key up. -/
theorem lookup_ending {n : Node} (hash : n.isHashLike = true) (a : Aspect) :
    n.lookup a.ending = .ok (n.aspect "" a) := by
  have empty := lookup_append hash "" a
  rwa [String.empty_append] at empty

/-- A hash refuses to look a name up that is not derived from a key. -/
theorem lookup_of_not_derived {n : Node} (hash : n.isHashLike = true) {name : String}
    (plain : derivedName? name = none) : n.lookup name = .error (.of name n) := by
  unfold lookup
  rw [if_pos hash, plain]
  rfl

/-- Only the endings alone are selected and looked up with different results. -/
theorem selectsAsLookup_or_ending {n : Node} (hash : n.isHashLike = true) {name : String}
    (refused : ¬ EntryName name → n.select name = .error (.of name n)) :
    n.SelectsAsLookup name ∨ ∃ a : Aspect, a.ending = name := by
  cases derived : derivedName? name with
  | none =>
    refine .inl (.refused (lookup_of_not_derived hash derived) (refused ?_))
    rintro ⟨key, ending, -, hending, rfl⟩
    obtain ⟨a, rfl⟩ := mem_endings_iff.mp hending
    rw [derivedName?_append] at derived
    cases derived
  | some found =>
    obtain ⟨a, key⟩ := found
    obtain rfl := derivedName?_eq_some_iff.mp derived
    by_cases empty : key = ""
    · subst empty
      exact .inr ⟨a, String.empty_append.symm⟩
    · obtain ⟨v, hl, hv, hs⟩ := select_of_entry hash empty a
      exact .inl (.shown hl hv hs)

theorem not_selectsAsLookup_ending {n : Node} (hash : n.isHashLike = true) {a : Aspect}
    (rejected : n.select a.ending = .error (.of a.ending n)) : ¬ n.SelectsAsLookup a.ending := by
  intro same
  cases same with
  | shown _ _ hs =>
    rw [rejected] at hs
    cases hs
  | refused hl _ =>
    rw [lookup_ending hash] at hl
    cases hl

/-- A hash that refuses a field answers to it as an entry or not at all. -/
theorem entrySelection {n : Node} (hash : n.isHashLike = true) {name : String} {e : Refusal}
    (h : n.field name = .error e) : n.EntrySelection name := by
  have refused : ¬ EntryName name → n.select name = .error (.of name n) := fun other =>
    select_of_refused h fun entry => absurd entry other
  constructor
  case served_iff =>
    constructor
    · rintro ⟨v, hv⟩
      by_contra other
      rw [refused other] at hv
      cases hv
    · intro entry
      obtain ⟨-, v, -, -, hv⟩ := exists_shown_of_entryName hash entry
      exact ⟨v, hv⟩
  case shown => exact exists_shown_of_entryName hash
  case refused => exact refused
  case differs_iff =>
    rw [mem_endings_iff]
    constructor
    · exact (selectsAsLookup_or_ending hash refused).resolve_left
    · rintro ⟨a, rfl⟩
      exact not_selectsAsLookup_ending hash (refused (not_entryName_ending a))
  case bare =>
    rintro a rfl
    exact ⟨lookup_ending hash a, refused (not_entryName_ending a)⟩

/-! ### Selecting -/

theorem exists_select_of_field {n : Node} {name : String} {r : Reading}
    (h : n.field name = .ok r) :
    ∃ o, r.outline = .ok o ∧ n.select name = .ok o.toJson.sortKeys := by
  obtain ⟨o, ho⟩ := Reading.exists_outline fun c _ =>
    Child.exists_outline fun m (_ : c = .node m) => m.exists_outline
  refine ⟨o, ho, ?_⟩
  rw [select_of_field h, ho]
  rfl

/-- Selecting fails with the refusal of the name, and never otherwise. -/
theorem eq_refusal_of_select {n : Node} {name : String} {e : Refusal}
    (failed : n.select name = .error e) : e = .of name n := by
  cases h : n.field name with
  | ok r =>
    obtain ⟨o, -, served⟩ := exists_select_of_field h
    rw [served] at failed
    cases failed
  | error refusal =>
    have refused : n.select name = .error (.of name n) := by
      refine select_of_refused h fun entry => ?_
      by_contra hash
      obtain ⟨-, v, -, -, served⟩ :=
        exists_shown_of_entryName (eq_true_of_ne_false hash) entry
      rw [served] at failed
      cases failed
    rw [refused] at failed
    cases failed
    rfl

/-- **Selecting a name.** A field is shown as the JSON of its outline. A name that is no field is
refused under that name by every node that is no hash; a hash serves exactly the names of its
entries, as the look-up finds them (`EntrySelection`). No key of a hash is hidden by a field,
whatever the key is. And whenever selecting fails, it is with the refusal of that name by that
node. -/
theorem select_field_or_entry (n : Node) (name : String) :
    (∀ r, n.field name = .ok r →
      ∃ o, r.outline = .ok o ∧ n.select name = .ok o.toJson.sortKeys) ∧
    (∀ e, n.field name = .error e → n.type ∉ [.hashLit, .hashPattern, .kwargs] →
      n.select name = .error (.of name n)) ∧
    (∀ e, n.field name = .error e → n.type ∈ [.hashLit, .hashPattern, .kwargs] →
      n.EntrySelection name) ∧
    (n.type ∈ [.hashLit, .hashPattern, .kwargs] → ∀ key ≠ "", ∀ a : Aspect,
      ∃ v, n.lookup (key ++ a.ending) = .ok (n.aspect key a) ∧ (n.aspect key a).Shown v ∧
        n.select (key ++ a.ending) = .ok v) ∧
    (∀ e, n.select name = .error e → e = .of name n) := by
  refine ⟨fun r => exists_select_of_field, ?_, ?_, ?_, fun e => eq_refusal_of_select⟩
  · intro e h type
    have elsewhere : n.isHashLike = false :=
      Bool.eq_false_iff.mpr fun hash => type (isHashLike_iff.mp hash)
    exact select_of_refused h fun _ => elsewhere
  · intro e h type
    exact entrySelection (isHashLike_iff.mpr type) h
  · intro type key nonempty a
    exact select_of_entry (isHashLike_iff.mpr type) nonempty a

end Node

end RubyTree
