/-
Kinds of keys.

A key of a hash is found by the value of its node, so it is the kind of the node that decides
whether it can be found at all. Parentheses around a node do not count (`Node.literal_ungrouped`).
Of the scalar literals, symbols and strings have texts for values, and so have rational and complex
numbers, which are kept as they are written; an integer, a floating point number or a node that is
no scalar literal is found under no key (`Node.PlainKey.names_iff`).
-/

import RubyTree.Proofs.Field.Keys
import RubyTree.Proofs.Literal

namespace RubyTree.Node

/-! ### Parentheses -/

/-- A node without the parentheses around it, which are `begin` and `kwbegin` nodes with this node
as their only child. -/
def ungrouped : Node → Node
  | .mk _ .beginSeq [.node m] _ => m.ungrouped
  | .mk _ .kwbegin [.node m] _ => m.ungrouped
  | n => n

/-- Parentheses do not change the value of a node. -/
theorem literal_ungrouped (n : Node) : n.ungrouped.literal = n.literal := by
  fun_induction ungrouped n with
  | case1 id m span ih | case2 id m span ih =>
    refine ih.trans (Eq.symm ?_)
    exact literal_of_group (c := .node m) (by simp [type]) rfl
  | case3 => rfl

/-- Parentheses do not matter for the key that a node names. -/
theorem names_ungrouped_iff (n : Node) (key : String) :
    Child.Names key (.node n.ungrouped) ↔ Child.Names key (.node n) := by
  rw [Child.Names, Child.Names, Child.literal, Child.literal, literal_ungrouped]

/-! ### Scalar literals -/

/-- The types of literals that have a scalar for their value. -/
def scalarTypes : List NodeType :=
  [.intLit, .floatLit, .strLit, .symLit, .rationalLit, .complexLit]

/-- A node in the place of a key: a scalar literal with one scalar of its kind, or any other node
that stands without parentheses. -/
inductive PlainKey (m : Node) : Prop where
  | int (i : Int64) (type : m.type = .intLit) (only : m.children = [.int i])
  | float (x : Float) (type : m.type = .floatLit) (only : m.children = [.float x])
  | sym (name : String) (type : m.type = .symLit) (only : m.children = [.sym name])
  | text (text : String) (type : m.type ∈ [.strLit, .rationalLit, .complexLit])
      (only : m.children = [.str text])
  | other (type : m.type ∉ scalarTypes)
      (bare : m.type ∈ [.beginSeq, .kwbegin] → m.children.length ≠ 1)

/-- A literal of one of the given types with a text, as a symbol or as a string. -/
def HasText (types : List NodeType) (text : String) (m : Node) : Prop :=
  m.type ∈ types ∧ (m.children = [.sym text] ∨ m.children = [.str text])

variable {m : Node}

theorem literal_of_only {c : Child} (type : m.type ∈ scalarTypes) (only : m.children = [c]) :
    m.literal = c.literal := by
  rw [literal_of_last type, lastChild, only]
  rfl

/-- Apart from scalar literals and parentheses, no node has a text for its value. -/
theorem not_names_of_other (type : m.type ∉ scalarTypes)
    (bare : m.type ∈ [.beginSeq, .kwbegin] → m.children.length ≠ 1) (key : String) :
    ¬ Child.Names key (.node m) := by
  rw [Child.Names, Child.literal]
  cases m.shape with
  | last scalar => exact absurd scalar type
  | word type =>
    simp only [List.mem_cons, List.not_mem_nil, or_false] at type
    rcases type with type | type | type <;> simp [literal_eq, literalOf, type]
  | array type => simp [literal_of_array type]
  | range type =>
    obtain ⟨exclusive, value⟩ := literal_of_range type
    simp [value]
  -- a group takes its value from its only child, which is why groups with one child are left out
  | group type only => exact absurd (by rw [only]; rfl) (bare type)
  | itself value => simp [value]

/-- A key names a text exactly when it is a symbol, a string, or a rational or complex number that
is written so. -/
theorem PlainKey.names_iff (plain : m.PlainKey) (key : String) :
    Child.Names key (.node m) ↔
      m.HasText [.symLit, .strLit, .rationalLit, .complexLit] key := by
  cases plain with
  | int i type only =>
    have value : m.literal = .int i := literal_of_only (by rw [type]; decide) only
    simp [Child.Names, Child.literal, HasText, value, type]
  | float x type only =>
    have value : m.literal = .float x := literal_of_only (by rw [type]; decide) only
    simp [Child.Names, Child.literal, HasText, value, type]
  | sym name type only =>
    have value : m.literal = .sym name := literal_of_only (by rw [type]; decide) only
    simp [Child.Names, Child.literal, HasText, value, type, only]
  | text text type only =>
    have scalar : ∀ t ∈ [.strLit, .rationalLit, .complexLit], t ∈ scalarTypes := by decide
    have value : m.literal = .str text := literal_of_only (scalar _ type) only
    have listed : m.type ∈ [.symLit, .strLit, .rationalLit, .complexLit] :=
      List.mem_cons_of_mem _ type
    simp [Child.Names, Child.literal, HasText, value, listed, only]
  | other type bare =>
    have scalar : ∀ t ∈ [.symLit, .strLit, .rationalLit, .complexLit], t ∈ scalarTypes := by
      decide
    exact iff_of_false (not_names_of_other type bare key) fun text => type (scalar _ text.1)

/-! ### Keys that are found -/

/-- Every pair among the children has a key of a plain kind, in parentheses or not. -/
def HasPlainKeys (n : Node) : Prop :=
  ∀ q : Node, .node q ∈ n.children → q.type = .pair →
    ∃ key : Node, q.children[0]? = some (.node key) ∧ key.ungrouped.PlainKey

/-- A pair among the children has a key that is a literal of one of the given types with a text, in
parentheses or not. -/
def HasEntry (n : Node) (types : List NodeType) (text : String) : Prop :=
  ∃ q key : Node, .node q ∈ n.children ∧ q.type = .pair ∧
    q.children[0]? = some (.node key) ∧ key.ungrouped.HasText types text

/-- The pairs of a node are its children of that type. -/
theorem mem_pairNodes_iff {n q : Node} :
    q ∈ n.pairNodes ↔ .node q ∈ n.children ∧ q.type = .pair := by
  have slots : q ∈ n.pairNodes ↔ .node q ∈ n.pairSlots := by
    rw [pairSlots_eq_map]
    simp
  rw [slots, pairSlots, List.mem_filter]
  simp [Child.isType, Child.type?, Child.node?]

theorem HasEntry.mono {n : Node} {types others : List NodeType} {text : String}
    (entry : n.HasEntry types text) (sub : types ⊆ others) : n.HasEntry others text := by
  obtain ⟨q, key, own, pair, first, listed, spelled⟩ := entry
  exact ⟨q, key, own, pair, first, sub listed, spelled⟩

theorem hasEntry_append_iff {n : Node} {types others : List NodeType} {text : String} :
    n.HasEntry (types ++ others) text ↔ n.HasEntry types text ∨ n.HasEntry others text := by
  constructor
  · rintro ⟨q, key, own, pair, first, listed, spelled⟩
    rcases List.mem_append.mp listed with listed | listed
    · exact .inl ⟨q, key, own, pair, first, listed, spelled⟩
    · exact .inr ⟨q, key, own, pair, first, listed, spelled⟩
  · rintro (entry | entry)
    · exact entry.mono (List.subset_append_left types others)
    · exact entry.mono (List.subset_append_right types others)

/-- Among plain keys, a key is found exactly when it is the text of a symbol, a string, a rational
or a complex number. -/
theorem isSome_findPair?_iff {n : Node} (plain : n.HasPlainKeys) (key : String) :
    (n.findPair? key).isSome = true ↔
      n.HasEntry [.symLit, .strLit, .rationalLit, .complexLit] key := by
  rw [Option.isSome_iff_ne_none, Ne, findPair?_eq_none_iff]
  push Not
  constructor
  · rintro ⟨q, hq, names⟩
    obtain ⟨own, type⟩ := mem_pairNodes_iff.mp hq
    obtain ⟨k, hk, form⟩ := plain q own type
    rw [child_eq_node_iff.mpr hk, ← names_ungrouped_iff] at names
    exact ⟨q, k, own, type, hk, (form.names_iff key).mp names⟩
  · rintro ⟨q, k, own, type, hk, text⟩
    obtain ⟨k', hk', form⟩ := plain q own type
    obtain rfl : k = k' := by
      rw [hk] at hk'
      cases hk'
      rfl
    refine ⟨q, mem_pairNodes_iff.mpr ⟨own, type⟩, ?_⟩
    rw [child_eq_node_iff.mpr hk, ← names_ungrouped_iff]
    exact (form.names_iff key).mpr text

/-- **Keys are found by their texts.** On a hash literal, a hash pattern and keyword arguments with
plain keys, every query for a key finds an entry exactly when the key of some pair, without the
parentheses around it, is a symbol or a string with that text, or else a rational or a complex
number that is written so. No key of another kind is ever found. -/
theorem key_found_iff {n : Node} (hash : n.type ∈ [.hashLit, .hashPattern, .kwargs])
    (plain : n.HasPlainKeys) (key : String) :
    ∃ has pair value, n.hasKey key = .ok has ∧ n.hashPair key = .ok pair ∧
      n.hashValue key = .ok value ∧ n.lookup (key ++ "_pair") = .ok (.pair pair) ∧
        n.lookup (key ++ "_value") = .ok (.value (value.map Child.literal)) ∧
          n.lookup (key ++ "_source") = .ok (.source (Child.sourceText value)) ∧
            has = pair.isSome ∧ has = value.isSome ∧
              (has = true ↔ n.HasEntry [.symLit, .strLit] key ∨
                n.HasEntry [.rationalLit, .complexLit] key) := by
  have served : ∀ {α : Type} (field : String) (value : α), n.onHash field value = .ok value :=
    fun field value => onHash_eq_ok (isHashLike_iff.mpr hash) field value
  have answers := keyAnswers (isHashLike_iff.mpr hash) key
  refine ⟨_, _, _, served _ _, served _ _, served _ _, answers.lookup_pair, answers.lookup_value,
    answers.lookup_source, rfl, ?_, ?_⟩
  · rw [Option.isSome_map]
  · rw [isSome_findPair?_iff plain key, ← hasEntry_append_iff]
    rfl

/-- A symbol in two pairs of parentheses is found, and the integer beside it is not. -/
theorem key_found_iff_grouped :
    let key : Node := .mk 0 .symLit [.sym "a"] none
    let inner : Node := .mk 1 .kwbegin [.node key] none
    let grouped : Node := .mk 2 .beginSeq [.node inner] none
    let number : Node := .mk 3 .intLit [.int 7] none
    let n : Node := .mk 7 .kwargs [.node (.mk 4 .pair [.node number, .nil] none),
      .node (.mk 5 .pair [.node grouped, .nil] none), .node (.mk 6 .kwsplat [] none)] none
    n.HasPlainKeys ∧ n.hasKey "a" = .ok true ∧
      (n.HasEntry [.symLit, .strLit] "a" ∨ n.HasEntry [.rationalLit, .complexLit] "a") ∧
        ¬ (n.HasEntry [.symLit, .strLit] "7" ∨ n.HasEntry [.rationalLit, .complexLit] "7") := by
  intro key inner grouped number n
  have plain : n.HasPlainKeys := by
    intro q own type
    simp only [n, children, List.mem_cons, Child.node.injEq, List.not_mem_nil, or_false] at own
    rcases own with rfl | rfl | rfl
    · exact ⟨number, rfl, .int 7 rfl rfl⟩
    · exact ⟨grouped, rfl, .sym "a" rfl rfl⟩
    · cases type
  have found : n.hasKey "a" = .ok true := rfl
  have missing : n.hasKey "7" = .ok false := rfl
  obtain ⟨has, _, _, answer, -, -, -, -, -, -, -, iff⟩ := key_found_iff (by decide) plain "a"
  obtain ⟨has', _, _, answer', -, -, -, -, -, -, -, iff'⟩ := key_found_iff (by decide) plain "7"
  rw [found] at answer
  rw [missing] at answer'
  cases answer
  cases answer'
  exact ⟨plain, found, iff.mp rfl, fun entry => nomatch iff'.mpr entry⟩

/-- A rational and a complex number are found as keys, though no key is a symbol or a string. -/
theorem number_keys_found :
    let pair (type : NodeType) (text : String) : Node :=
      .mk 1 .pair [.node (.mk 0 type [.str text] none), .nil] none
    let n : Node :=
      .mk 2 .hashLit [.node (pair .rationalLit "1r"), .node (pair .complexLit "2i")] none
    n.HasPlainKeys ∧ n.hasKey "1r" = .ok true ∧ n.hasKey "2i" = .ok true ∧
      ∀ text, ¬ n.HasEntry [.symLit, .strLit] text := by
  intro pair n
  have own : ∀ {q : Node}, .node q ∈ n.children →
      q = pair .rationalLit "1r" ∨ q = pair .complexLit "2i" := by
    intro q own
    simpa [n, children] using own
  refine ⟨fun q mem _ => ?_, rfl, rfl, ?_⟩
  · rcases own mem with rfl | rfl
    · exact ⟨_, rfl, .text "1r" (by decide) rfl⟩
    · exact ⟨_, rfl, .text "2i" (by decide) rfl⟩
  · rintro text ⟨q, key, mem, -, first, type, -⟩
    rcases own mem with rfl | rfl <;>
    · cases first
      revert type
      decide

end RubyTree.Node
