/-
Keys of hashes.

The queries of a hash filter and search the same children through different functions. They belong
together: keys and values stand beside the pairs they come from (`Node.EntryLists`), and every query
for a key answers from the first pair whose key coerces to that symbol or string
(`Node.KeyAnswers`).

* `derivedName?_append` — a derived name is taken apart into its key and its ending, also when the
  key itself has one of the endings.
* `Node.findPair?_eq_some_iff` — the pair of a key is the first one that names it.
-/

import Mathlib.Data.List.Basic
import RubyTree.Field.Entries

namespace RubyTree

/-! ### Derived names -/

namespace Aspect

/-- The key of a name is what stands in front of the ending. -/
theorem key?_eq_some_iff {a : Aspect} {name key : String} :
    a.key? name = some key ↔ name = key ++ a.ending := by
  unfold key?
  dsimp only
  constructor
  · intro h
    split at h
    · rename_i suffix
      obtain ⟨before, split⟩ := List.isSuffixOf_iff_suffix.mp suffix
      simp only [← split, List.length_append, Nat.add_sub_cancel, List.take_left,
        Option.some.injEq] at h
      rw [← String.toList_inj, String.toList_append, ← h, String.toList_ofList, split]
    · cases h
  · rintro rfl
    rw [String.toList_append, if_pos (List.isSuffixOf_iff_suffix.mpr (List.suffix_append _ _)),
      List.length_append, Nat.add_sub_cancel, List.take_left, String.ofList_toList]

/-- A name has at most one of the endings, which differ in their last two characters. -/
theorem eq_of_append_ending {a a' : Aspect} {key key' : String}
    (h : key ++ a.ending = key' ++ a'.ending) : a = a' := by
  have back : ∀ (a : Aspect) (key : String),
      (key ++ a.ending).toList.reverse.take 2 = a.ending.toList.reverse.take 2 := by
    intro a key
    rw [String.toList_append, List.reverse_append, List.take_append_of_le_length]
    cases a <;> decide
  have same := back a key
  rw [h, back a' key'] at same
  revert same
  cases a <;> cases a' <;> decide

end Aspect

/-- A derived name is taken apart into its aspect and its key, whatever the key is. -/
theorem derivedName?_append (key : String) (a : Aspect) :
    derivedName? (key ++ a.ending) = some (a, key) := by
  have own : a.key? (key ++ a.ending) = some key := Aspect.key?_eq_some_iff.mpr rfl
  have others : ∀ a', a' ≠ a → a'.key? (key ++ a.ending) = none := by
    intro a' different
    cases h : a'.key? (key ++ a.ending) with
    | none => rfl
    | some key' =>
      exact absurd (Aspect.eq_of_append_ending (Aspect.key?_eq_some_iff.mp h)).symm different
  unfold derivedName?
  cases a <;> simp [Aspect.all, own, others]

/-! ### The first entry -/

/-- The first index of a list at which an entry has a property. -/
def FirstAt {α : Type} (P : α → Prop) (as : List α) (i : Nat) : Prop :=
  (∃ a, as[i]? = some a ∧ P a) ∧ ∀ j < i, ∀ a, as[j]? = some a → ¬ P a

theorem firstAt_map {α β : Type} {f : α → β} {P : β → Prop} {as : List α} {i : Nat} :
    FirstAt P (as.map f) i ↔ FirstAt (fun a => P (f a)) as i := by
  unfold FirstAt
  simp only [List.getElem?_map]
  constructor
  · rintro ⟨⟨b, hb, holds⟩, earlier⟩
    obtain ⟨a, ha, rfl⟩ := Option.map_eq_some_iff.mp hb
    refine ⟨⟨a, ha, holds⟩, fun j hj a' ha' => earlier j hj (f a') ?_⟩
    rw [ha', Option.map_some]
  · rintro ⟨⟨a, ha, holds⟩, earlier⟩
    refine ⟨⟨f a, by rw [ha, Option.map_some], holds⟩, fun j hj b hb => ?_⟩
    obtain ⟨a', ha', rfl⟩ := Option.map_eq_some_iff.mp hb
    exact earlier j hj a' ha'

/-- Searching a list finds the entry at the first index with the property. -/
theorem find?_eq_some_iff_firstAt {α : Type} {p : α → Bool} {as : List α} {a : α} :
    as.find? p = some a ↔ ∃ i, as[i]? = some a ∧ FirstAt (fun a => p a = true) as i := by
  rw [List.find?_eq_some_iff_getElem]
  constructor
  · rintro ⟨ha, i, inside, rfl, earlier⟩
    refine ⟨i, List.getElem?_eq_getElem inside, ⟨_, List.getElem?_eq_getElem inside, ha⟩, ?_⟩
    intro j hj b hb
    obtain ⟨_, rfl⟩ := List.getElem?_eq_some_iff.mp hb
    simpa using earlier j hj
  · rintro ⟨i, item, ⟨b, hb, holds⟩, earlier⟩
    obtain rfl : a = b := Option.some.inj (item.symm.trans hb)
    obtain ⟨inside, rfl⟩ := List.getElem?_eq_some_iff.mp item
    refine ⟨holds, i, inside, rfl, fun j hj => ?_⟩
    simpa using earlier j hj _ (List.getElem?_eq_getElem (Nat.lt_trans hj inside))

/-! ### The entries of a hash -/

/-- A child names a key: it coerces to that symbol or to that string. -/
def Child.Names (key : String) (c : Child) : Prop :=
  c.literal = .sym key ∨ c.literal = .str key

/-- The code tests a key by what it coerces to. -/
theorem Child.isKey_iff {key : String} {c : Child} : c.isKey key = true ↔ c.Names key := by
  unfold isKey Names
  cases c.literal <;> simp

theorem Child.exists_node_of_isType {c : Child} {type : NodeType} (h : c.isType type = true) :
    ∃ m : Node, c = .node m := by
  cases c with
  | node m => exact ⟨m, rfl⟩
  | _ => cases h

/-- The source text of a value that was found: empty for a missing value, a scalar and a node
without a span. -/
def Child.sourceText : Option Child → String
  | some (.node m) =>
    match m.span with
    | some span => span.source
    | none => ""
  | _ => ""

namespace Node

theorem onHash_eq_ok {α : Type} {n : Node} (hash : n.isHashLike = true) (field : String)
    (value : α) : n.onHash field value = .ok value :=
  if_pos hash

/-- The slots of the pairs hold the pairs, one each. -/
theorem pairSlots_eq_map (n : Node) : n.pairSlots = n.pairNodes.map Child.node := by
  have nodes : ∀ c ∈ n.pairSlots, (c.node?.map Child.node) = some c := by
    intro c hc
    obtain ⟨m, rfl⟩ := Child.exists_node_of_isType (List.mem_filter.mp hc).2
    rfl
  rw [pairNodes, List.map_filterMap, List.filterMap_congr nodes, List.filterMap_some]

/-- The pair of a key is the first one that names it. -/
theorem findPair?_eq_some_iff {n p : Node} {key : String} :
    n.findPair? key = some p ↔ ∃ i, n.pairNodes[i]? = some p ∧
      FirstAt (fun pair => (pair.child 0).Names key) n.pairNodes i := by
  unfold findPair?
  rw [find?_eq_some_iff_firstAt]
  simp only [Child.isKey_iff]

/-- No pair is found for a key when the key slot of none names it. -/
theorem findPair?_eq_none_iff {n : Node} {key : String} :
    n.findPair? key = none ↔ ∀ pair ∈ n.pairNodes, ¬ (pair.child 0).Names key := by
  unfold findPair?
  rw [List.find?_eq_none]
  simp only [Child.isKey_iff]

/-- A hash looks up the aspect of the key that a derived name has. -/
theorem lookup_append {n : Node} (hash : n.isHashLike = true) (key : String) (a : Aspect) :
    n.lookup (key ++ a.ending) = .ok (n.aspect key a) := by
  unfold lookup
  rw [if_pos hash, derivedName?_append]

/-! ### The queries together -/

/-- How the lists of a hash belong together. -/
structure EntryLists (n : Node) (pairs splats keys values : List Child) : Prop where
  /-- The pairs are the children of type `pair`, in order. -/
  pairs_eq : pairs = n.children.filter (fun c => c.type? = some .pair)
  /-- The double splats are the children of the types `kwsplat` and `match_rest`, in order. -/
  splats_eq : splats =
    n.children.filter (fun c => c.type? = some .kwsplat ∨ c.type? = some .matchRest)
  /-- So both keep the order of the children, and no child is in both. -/
  sublists : pairs.Sublist n.children ∧ splats.Sublist n.children
  disjoint : ∀ c ∈ pairs, c ∉ splats
  length_keys : keys.length = pairs.length
  length_values : values.length = pairs.length
  /-- Beside each pair stand its first two children, `nil` for those it does not have. -/
  entry : ∀ (i : Nat) (c : Child), pairs[i]? = some c → ∃ pair : Node, c = .node pair ∧
    keys[i]? = some (pair.children[0]?.getD .nil) ∧
      values[i]? = some (pair.children[1]?.getD .nil)

/-- How the answers for a key belong together, given the pairs, keys and values of the hash. -/
structure KeyAnswers (n : Node) (key : String) (pairs keys values : List Child) (has : Bool)
    (pair : Option Node) (value : Option Child) : Prop where
  /-- The pair is the first one whose first child names the key. -/
  pair_iff : ∀ p, pair = some p ↔ ∃ i, pairs[i]? = some (.node p) ∧
    FirstAt (fun c => ∃ q : Node, c = .node q ∧ Child.Names key (q.children[0]?.getD .nil)) pairs i
  /-- There is none when no pair names the key. -/
  pair_none_iff : pair = none ↔
    ∀ q : Node, .node q ∈ pairs → ¬ Child.Names key (q.children[0]?.getD .nil)
  has_iff_pair : has = true ↔ ∃ p, pair = some p
  has_iff_value : has = true ↔ ∃ v, value = some v
  /-- The value stands at the index of the first entry of the keys that names the key. -/
  value_iff : ∀ v, value = some v ↔ ∃ i, FirstAt (Child.Names key) keys i ∧ values[i]? = some v
  lookup_pair : n.lookup (key ++ "_pair") = .ok (.pair pair)
  lookup_value : n.lookup (key ++ "_value") = .ok (.value (value.map Child.literal))
  lookup_source : n.lookup (key ++ "_source") = .ok (.source (Child.sourceText value))

theorem child_eq_getD (n : Node) (i : Nat) : n.child i = n.children[i]?.getD .nil := by
  rw [child, List.getD_eq_getElem?_getD]

/-- The lists of a node that is a hash belong together. -/
theorem entryLists (n : Node) :
    n.EntryLists n.pairSlots n.splatSlots (n.pairNodes.map (fun pair => pair.child 0))
      (n.pairNodes.map (fun pair => pair.child 1)) where
  pairs_eq := by
    unfold pairSlots
    refine List.filter_congr fun c _ => ?_
    simp [Child.isType, beq_eq_decide]
  splats_eq := by
    unfold splatSlots
    refine List.filter_congr fun c _ => ?_
    simp [Child.isType, beq_eq_decide]
  sublists := ⟨List.filter_sublist, List.filter_sublist⟩
  disjoint := by
    intro c hp hs
    have pair := (List.mem_filter.mp hp).2
    have splat := (List.mem_filter.mp hs).2
    simp only [Child.isType, beq_iff_eq, Bool.or_eq_true] at pair splat
    rw [pair] at splat
    simp at splat
  length_keys := by rw [pairSlots_eq_map, List.length_map, List.length_map]
  length_values := by rw [pairSlots_eq_map, List.length_map, List.length_map]
  entry := by
    intro i c hc
    rw [pairSlots_eq_map, List.getElem?_map, Option.map_eq_some_iff] at hc
    obtain ⟨pair, hpair, rfl⟩ := hc
    refine ⟨pair, rfl, ?_, ?_⟩
    · rw [List.getElem?_map, hpair, ← child_eq_getD]
      rfl
    · rw [List.getElem?_map, hpair, ← child_eq_getD]
      rfl

/-- The source of a key is the source text of its value. -/
theorem aspect_source (n : Node) (key : String) :
    n.aspect key .source =
      .source (Child.sourceText ((n.findPair? key).map (fun pair => pair.child 1))) := by
  simp only [aspect]
  cases n.findPair? key with
  | none => rfl
  | some pair =>
    simp only [Option.bind_some, Option.map_some]
    cases pair.child 1 with
    | node m =>
      simp only [Child.node?, Option.bind_some, source?, Child.sourceText]
      cases m.span <;> rfl
    | _ => rfl

/-- The answers of a hash for a key belong together. -/
theorem keyAnswers {n : Node} (hash : n.isHashLike = true) (key : String) :
    n.KeyAnswers key n.pairSlots (n.pairNodes.map (fun pair => pair.child 0))
      (n.pairNodes.map (fun pair => pair.child 1)) (n.findPair? key).isSome (n.findPair? key)
      ((n.findPair? key).map (fun pair => pair.child 1)) where
  pair_iff := by
    intro p
    simp only [findPair?_eq_some_iff, pairSlots_eq_map, firstAt_map, ← child_eq_getD]
    simp
  pair_none_iff := by
    simp only [findPair?_eq_none_iff, pairSlots_eq_map, ← child_eq_getD]
    simp
  has_iff_pair := Option.isSome_iff_exists
  has_iff_value := by
    rw [← Option.isSome_iff_exists, Option.isSome_map]
  value_iff := by
    intro v
    simp only [Option.map_eq_some_iff, findPair?_eq_some_iff, firstAt_map, List.getElem?_map]
    constructor
    · rintro ⟨p, ⟨i, hp, first⟩, rfl⟩
      exact ⟨i, first, p, hp, rfl⟩
    · rintro ⟨i, first, p, hp, rfl⟩
      exact ⟨p, ⟨i, hp, first⟩, rfl⟩
  lookup_pair := lookup_append hash key .pair
  lookup_value := by
    rw [Option.map_map]
    exact lookup_append hash key .value
  lookup_source := by
    rw [← aspect_source]
    exact lookup_append hash key .source

theorem isHashLike_iff {n : Node} :
    n.isHashLike = true ↔ n.type ∈ [.hashLit, .hashPattern, .kwargs] := by
  unfold isHashLike
  split <;> simp_all

/-- **The queries of a hash agree.** On a hash literal, a hash pattern and keyword arguments, with
whatever children, every query is answered; the lists belong together as `EntryLists` says, and for
every key the answers as `KeyAnswers` says. -/
theorem hash_queries_agree {n : Node} (hash : n.type ∈ [.hashLit, .hashPattern, .kwargs])
    (key : String) :
    ∃ pairs splats keys values has pair value,
      n.pairs = .ok pairs ∧ n.kwsplats = .ok splats ∧ n.keys = .ok keys ∧
        n.values = .ok values ∧ n.hasKey key = .ok has ∧ n.hashPair key = .ok pair ∧
          n.hashValue key = .ok value ∧ n.EntryLists pairs splats keys values ∧
            n.KeyAnswers key pairs keys values has pair value := by
  have served : ∀ {α : Type} (field : String) (value : α), n.onHash field value = .ok value :=
    fun field value => onHash_eq_ok (isHashLike_iff.mpr hash) field value
  exact ⟨_, _, _, _, _, _, _, served _ _, served _ _, served _ _, served _ _, served _ _,
    served _ _, served _ _, n.entryLists, keyAnswers (isHashLike_iff.mpr hash) key⟩

/-- A key that has an ending itself, as a symbol in parentheses behind a double splat and once more
as a string: the first pair answers. -/
theorem hash_queries_agree_ending :
    let key : Child := .node (.mk 1 .beginSeq [.node (.mk 0 .symLit [.sym "a_pair"] none)] none)
    let first : Node := .mk 2 .pair [key, .int 1] none
    let second : Node := .mk 3 .pair [.str "a_pair", .int 2] none
    let n : Node := .mk 5 .hashLit [.node (.mk 4 .kwsplat [] none), .node first, .node second] none
    n.keys = .ok [key, .str "a_pair"] ∧ n.lookup "a_pair_pair" = .ok (.pair (some first)) ∧
      n.lookup "a_pair_value" = .ok (.value (some (.int 1))) := by
  intro key first second n
  have named : n.hashPair "a_pair" = .ok (some first) := rfl
  have found : n.hashValue "a_pair" = .ok (some (.int 1)) := rfl
  have joined : "a_pair" ++ "_pair" = "a_pair_pair" ∧ "a_pair" ++ "_value" = "a_pair_value" := by
    decide
  obtain ⟨_, _, _, _, _, pair, value, -, -, -, -, -, hpair, hvalue, -, answers⟩ :=
    hash_queries_agree (n := n) (by decide) "a_pair"
  rw [named] at hpair
  rw [found] at hvalue
  cases hpair
  cases hvalue
  rw [← joined.1, ← joined.2]
  exact ⟨rfl, answers.lookup_pair, answers.lookup_value⟩

end Node

end RubyTree
