/-
The grammar of documents.

`DenotesNode source v t` says that the value `v` is written for the plain tree `t`, by rules that
do not mention the reading: the two shapes of a node, the scalars under their parents, and the
ranges that fit the source.

* `readers_sound` — what is read is what the value denotes.
* `readers_complete` — what a value denotes is read, whatever was built before.
-/

import Mathlib.Algebra.Group.Nat.Defs
import RubyTree.Proofs.Document.Run
import RubyTree.Proofs.Node.Plain
import RubyTree.Proofs.Tags
import RubyTree.Proofs.Text.Cut

namespace RubyTree.Document

/-! ### The rules -/

/-- The items at the child positions of an object: none when the member `children` is absent or
null, and else those of the array in it. -/
inductive DenotesItems (members : List (String × Json)) : List Json → Prop where
  | absent (h : members.lookup "children" = none) : DenotesItems members []
  | null (h : members.lookup "children" = some .null) : DenotesItems members []
  | array {items : List Json} (h : members.lookup "children" = some (.arr items)) :
      DenotesItems members items

/-- The span of an object: none without the member `range`, and else the range of the source
between two unsigned words, which are in order, inside the text and between characters. -/
inductive DenotesSpan (source : Option Buffer) (members : List (String × Json)) :
    Option Span → Prop where
  | absent (h : members.lookup "range" = none) : DenotesSpan source members none
  | range {buffer : Buffer} {start stop : Nat} (hs : source = some buffer)
      (h : members.lookup "range" = some (.arr [.num (.int start), .num (.int stop)]))
      (words : start < 2 ^ 64 ∧ stop < 2 ^ 64) (order : start ≤ stop)
      (inside : stop ≤ buffer.text.utf8ByteSize)
      (first : String.Pos.Raw.IsValid buffer.text ⟨start⟩)
      (last : String.Pos.Raw.IsValid buffer.text ⟨stop⟩) :
      DenotesSpan source members
        (some ⟨buffer, start, stop, Text.isSome_cut?_iff.mpr ⟨order, inside, first, last⟩⟩)

/-- The scalars, below a parent of a type. -/
inductive DenotesScalar (parent : NodeType) : Json → Plain → Prop where
  | null : DenotesScalar parent .null .nil
  | bool (b : Bool) : DenotesScalar parent (.bool b) (.bool b)
  | int (i : Int64) : DenotesScalar parent (.num (.int i.toInt)) (.int i)
  | float {n : Json.Number} (h : ∀ i : Int64, n ≠ .int i.toInt) :
      DenotesScalar parent (.num n) (.float n.toFloat)
  | string {s : String} (h : parent ∈ [.strLit, .rationalLit, .complexLit]) :
      DenotesScalar parent (.str s) (.str s)
  | symbol {s : String} (h : parent ∉ [.strLit, .rationalLit, .complexLit]) :
      DenotesScalar parent (.str s) (.sym s)
  | markedSymbol {members : List (String × Json)} {name : String}
      (untyped : members.lookup "type" = none) (hsym : members.lookup "sym" = some (.str name))
      (hstr : members.lookup "str" = none) : DenotesScalar parent (.obj members) (.sym name)
  | markedString {members : List (String × Json)} {text : String}
      (untyped : members.lookup "type" = none) (hsym : members.lookup "sym" = none)
      (hstr : members.lookup "str" = some (.str text)) :
      DenotesScalar parent (.obj members) (.str text)

mutual

/-- The nodes: an array that begins with a tag, or an object with a tag under `type`. -/
inductive DenotesNode (source : Option Buffer) : Json → Plain → Prop where
  | array {type : NodeType} {items : List Json} {children : List Plain}
      (h : DenotesChildren source type items children) :
      DenotesNode source (.arr (.str type.tag :: items)) (.node type children none)
  | object {members : List (String × Json)} {type : NodeType} {items : List Json}
      {children : List Plain} {span : Option Span}
      (tag : members.lookup "type" = some (.str type.tag)) (hitems : DenotesItems members items)
      (hspan : DenotesSpan source members span)
      (h : DenotesChildren source type items children) :
      DenotesNode source (.obj members) (.node type children span)

/-- The children below a parent, in order. -/
inductive DenotesChildren (source : Option Buffer) : NodeType → List Json → List Plain → Prop where
  | nil {parent : NodeType} : DenotesChildren source parent [] []
  | cons {parent : NodeType} {v : Json} {c : Plain} {vs : List Json} {cs : List Plain}
      (first : DenotesChild source parent v c) (others : DenotesChildren source parent vs cs) :
      DenotesChildren source parent (v :: vs) (c :: cs)

/-- A child: a scalar or a node. -/
inductive DenotesChild (source : Option Buffer) : NodeType → Json → Plain → Prop where
  | scalar {parent : NodeType} {v : Json} {c : Plain} (h : DenotesScalar parent v c) :
      DenotesChild source parent v c
  | node {parent : NodeType} {v : Json} {t : Plain} (h : DenotesNode source v t) :
      DenotesChild source parent v t

end

/-! ### The parts of a value -/

theorem yields_readTag_iff {v : Json} {b b' : Builder} {type : NodeType} :
    Yields (readTag v) b type b' ↔ v = .str type.tag ∧ b' = b := by
  unfold readTag
  split
  · rename_i tag
    cases htag : NodeType.ofTag? tag with
    | none =>
      constructor
      · intro h
        exact absurd h not_yields_fail
      · rintro ⟨h, -⟩
        cases h
        rw [NodeType.ofTag?_tag] at htag
        cases htag
    | some t =>
      have ht : t.tag = tag := NodeType.ofTag?_eq_some_iff.mp htag
      simp only [yields_pure_iff]
      constructor
      · rintro ⟨rfl, hb⟩
        exact ⟨by rw [ht], hb⟩
      · rintro ⟨h, hb⟩
        cases h
        rw [NodeType.ofTag?_tag] at htag
        cases htag
        exact ⟨rfl, hb⟩
  · rename_i other
    constructor
    · intro h
      exact absurd h not_yields_fail
    · rintro ⟨rfl, -⟩
      exact absurd rfl (other _)

/-- A number is an unsigned word when it is a non-negative integer below `2 ^ 64`. -/
theorem unsigned?_eq_some_iff {n : Json.Number} {a : Nat} :
    n.unsigned? = some a ↔ n = .int a ∧ a < 2 ^ 64 := by
  cases n with
  | float x => simp [Json.Number.unsigned?]
  | int i =>
    rw [Json.Number.unsigned?, Json.Number.unsignedBound, Json.Number.int.injEq]
    split
    · rw [Option.some.injEq]
      omega
    · constructor
      · intro h
        cases h
      · omega

/-- A number is a signed word when it is the integer of that word. -/
theorem signed?_eq_some_iff {n : Json.Number} {i : Int64} :
    n.signed? = some i ↔ n = .int i.toInt := by
  cases n with
  | float x => simp [Json.Number.signed?]
  | int j =>
    rw [Json.Number.signed?, Json.Number.minSigned, Json.Number.signedBound,
      Json.Number.int.injEq]
    constructor
    · intro h
      split at h
      · rename_i fits
        cases h
        exact (Int64.toInt_ofInt_of_le fits.1 fits.2).symm
      · cases h
    · rintro rfl
      rw [if_pos ⟨i.le_toInt, i.toInt_lt⟩, Int64.ofInt_toInt]

/-- Bounds are an array of two unsigned words. -/
theorem bounds?_eq_some_iff {v : Json} {start stop : Nat} :
    bounds? v = some (start, stop) ↔
      v = .arr [.num (.int start), .num (.int stop)] ∧ start < 2 ^ 64 ∧ stop < 2 ^ 64 := by
  unfold bounds?
  split
  · rename_i m n
    constructor
    · intro h
      split at h
      · rename_i a b ha hb
        cases h
        obtain ⟨rfl, hstart⟩ := unsigned?_eq_some_iff.mp ha
        obtain ⟨rfl, hstop⟩ := unsigned?_eq_some_iff.mp hb
        exact ⟨rfl, hstart, hstop⟩
      · cases h
    · rintro ⟨h, ha, hb⟩
      cases h
      rw [unsigned?_eq_some_iff.mpr ⟨rfl, ha⟩, unsigned?_eq_some_iff.mpr ⟨rfl, hb⟩]
  · rename_i other
    constructor
    · intro h
      cases h
    · rintro ⟨rfl, -⟩
      exact absurd rfl (other _ _)

/-- The check of the member `children` passes when the grammar has items for the object. -/
theorem yields_checkChildren_iff {members : List (String × Json)} {b b' : Builder} {u : Unit} :
    Yields (checkChildren members) b u b' ↔ (∃ items, DenotesItems members items) ∧ b' = b := by
  unfold checkChildren
  split
  · rename_i h
    rw [yields_pure_iff]
    exact ⟨fun hb => ⟨⟨[], .absent h⟩, hb.2⟩, fun hb => ⟨rfl, hb.2⟩⟩
  · rename_i h
    rw [yields_pure_iff]
    exact ⟨fun hb => ⟨⟨[], .null h⟩, hb.2⟩, fun hb => ⟨rfl, hb.2⟩⟩
  · rename_i items h
    rw [yields_pure_iff]
    exact ⟨fun hb => ⟨⟨items, .array h⟩, hb.2⟩, fun hb => ⟨rfl, hb.2⟩⟩
  · rename_i notNull notArray h
    constructor
    · intro hf
      exact absurd hf not_yields_fail
    · rintro ⟨⟨items, hi⟩, -⟩
      cases hi with
      | absent hi => rw [h] at hi; cases hi
      | null hi => rw [h] at hi; cases hi; exact absurd rfl notNull
      | array hi => rw [h] at hi; cases hi; exact absurd rfl (notArray _)

/-- The items of an object stand in its slots. -/
theorem DenotesItems.slots_eq {members : List (String × Json)} {items : List Json}
    (h : DenotesItems members items) : slots (.obj members) = items := by
  cases h with
  | absent h => simp only [slots, h]
  | null h => simp only [slots, h]
  | array h => simp only [slots, h]

theorem of?_eq_some_iff {buffer : Buffer} {start stop : Nat} {span : Span} :
    Span.of? buffer start stop = some span ↔
      span.buffer = buffer ∧ span.start = start ∧ span.stop = stop := by
  unfold Span.of?
  constructor
  · intro h
    split at h
    · cases h
      exact ⟨rfl, rfl, rfl⟩
    · cases h
  · rintro ⟨rfl, rfl, rfl⟩
    rw [dif_pos span.fits]

/-- The reader gives the span of the grammar. -/
theorem yields_readSpan_iff {members : List (String × Json)} {b b' : Builder}
    {span : Option Span} :
    Yields (readSpan members) b span b' ↔ DenotesSpan b.source members span ∧ b' = b := by
  unfold readSpan
  constructor
  · intro h
    split at h
    · rename_i absent
      obtain ⟨rfl, hb⟩ := yields_pure_iff.mp h
      exact ⟨.absent absent, hb⟩
    · rename_i range present
      split at h
      · exact absurd h not_yields_fail
      · rename_i start stop hr
        obtain ⟨rfl, words⟩ := bounds?_eq_some_iff.mp hr
        obtain ⟨_, _, hget, rest⟩ := yields_bind_iff.mp h
        obtain ⟨rfl, rfl⟩ := yields_get_iff.mp hget
        split at rest
        · exact absurd rest not_yields_fail
        · rename_i buffer hs
          split at rest
          · exact absurd rest not_yields_fail
          · rename_i span hspan
            obtain ⟨rfl, hb⟩ := yields_pure_iff.mp rest
            obtain ⟨rfl, rfl, rfl⟩ := of?_eq_some_iff.mp hspan
            obtain ⟨order, inside, first, last⟩ := Text.isSome_cut?_iff.mp span.fits
            exact ⟨.range hs present words order inside first last, hb⟩
  · rintro ⟨h, rfl⟩
    cases h with
    | absent absent =>
      rw [absent]
      exact yields_pure_iff.mpr ⟨rfl, rfl⟩
    | @range buffer start stop hs present words order inside first last =>
      have fits := Text.isSome_cut?_iff.mpr ⟨order, inside, first, last⟩
      have span : Span.of? buffer start stop = some ⟨buffer, start, stop, fits⟩ :=
        of?_eq_some_iff.mpr ⟨rfl, rfl, rfl⟩
      rw [present]
      simp only [bounds?_eq_some_iff.mpr ⟨rfl, words⟩]
      refine yields_bind_iff.mpr ⟨b', b', yields_get_iff.mpr ⟨rfl, rfl⟩, ?_⟩
      simp only [hs, span]
      exact yields_pure_iff.mpr ⟨rfl, rfl⟩

/-! ### The head of a node -/

/-- A node's own part of a value: its type, its span and the items at its child positions. -/
inductive DenotesHead (source : Option Buffer) : Json → NodeType → Option Span → List Json → Prop
  | array {type : NodeType} {items : List Json} :
      DenotesHead source (.arr (.str type.tag :: items)) type none items
  | object {members : List (String × Json)} {type : NodeType} {items : List Json}
      {span : Option Span} (tag : members.lookup "type" = some (.str type.tag))
      (hitems : DenotesItems members items) (hspan : DenotesSpan source members span) :
      DenotesHead source (.obj members) type span items

/-- A node is its own part of a value and the children that its items are written for. -/
theorem denotesNode_iff {source : Option Buffer} {v : Json} {t : Plain} :
    DenotesNode source v t ↔ ∃ type span items children,
      DenotesHead source v type span items ∧ DenotesChildren source type items children ∧
        t = .node type children span := by
  constructor
  · intro h
    cases h with
    | array h => exact ⟨_, _, _, _, .array, h, rfl⟩
    | object tag hitems hspan h => exact ⟨_, _, _, _, .object tag hitems hspan, h, rfl⟩
  · rintro ⟨type, span, items, children, head, h, rfl⟩
    cases head with
    | array => exact .array h
    | object tag hitems hspan => exact .object tag hitems hspan h

/-- The items of the grammar are those that the reader goes through. -/
theorem DenotesHead.slots_eq {source : Option Buffer} {v : Json} {type : NodeType}
    {span : Option Span} {items : List Json} (h : DenotesHead source v type span items) :
    slots v = items := by
  cases h with
  | array => rfl
  | object _ hitems _ => exact hitems.slots_eq

theorem DenotesHead.isNodeShaped {source : Option Buffer} {v : Json} {type : NodeType}
    {span : Option Span} {items : List Json} (h : DenotesHead source v type span items) :
    isNodeShaped v = true := by
  cases h with
  | array => rfl
  | object tag _ _ => simp only [Document.isNodeShaped, tag, Option.isSome_some]

/-- Reading the head of a node gives its type and span and changes nothing. -/
theorem yields_readHead_iff {v : Json} {b b' : Builder} {type : NodeType} {span : Option Span} :
    Yields (readHead v) b (type, span) b' ↔
      (∃ items, DenotesHead b.source v type span items) ∧ b' = b := by
  unfold readHead
  constructor
  · intro h
    split at h
    · exact absurd h not_yields_fail
    · obtain ⟨t, c, htag, rest⟩ := yields_bind_iff.mp h
      obtain ⟨rfl, rfl⟩ := yields_readTag_iff.mp htag
      obtain ⟨heq, rfl⟩ := yields_pure_iff.mp rest
      cases heq
      exact ⟨⟨_, .array⟩, rfl⟩
    · split at h
      · exact absurd h not_yields_fail
      · rename_i tag present
        obtain ⟨t, c₁, htag, afterTag⟩ := yields_bind_iff.mp h
        obtain ⟨rfl, rfl⟩ := yields_readTag_iff.mp htag
        obtain ⟨_, c₂, hcheck, afterCheck⟩ := yields_bind_iff.mp afterTag
        obtain ⟨⟨items, hitems⟩, rfl⟩ := yields_checkChildren_iff.mp hcheck
        obtain ⟨s, c₃, hread, afterSpan⟩ := yields_bind_iff.mp afterCheck
        obtain ⟨hspan, rfl⟩ := yields_readSpan_iff.mp hread
        obtain ⟨heq, rfl⟩ := yields_pure_iff.mp afterSpan
        cases heq
        exact ⟨⟨items, .object present hitems hspan⟩, rfl⟩
    · exact absurd h not_yields_fail
  · rintro ⟨⟨items, h⟩, rfl⟩
    cases h with
    | array =>
      exact yields_bind_iff.mpr ⟨type, b', yields_readTag_iff.mpr ⟨rfl, rfl⟩,
        yields_pure_iff.mpr ⟨rfl, rfl⟩⟩
    | object tag hitems hspan =>
      simp only [tag]
      exact yields_bind_iff.mpr ⟨type, b', yields_readTag_iff.mpr ⟨rfl, rfl⟩,
        yields_bind_iff.mpr ⟨(), b', yields_checkChildren_iff.mpr ⟨⟨items, hitems⟩, rfl⟩,
          yields_bind_iff.mpr ⟨span, b', yields_readSpan_iff.mpr ⟨hspan, rfl⟩,
            yields_pure_iff.mpr ⟨rfl, rfl⟩⟩⟩⟩

/-- A node has one type. -/
theorem DenotesHead.type_unique {source : Option Buffer} {v : Json} {type type' : NodeType}
    {span span' : Option Span} {items items' : List Json}
    (h : DenotesHead source v type span items)
    (h' : DenotesHead source v type' span' items') : type = type' := by
  let b : Builder := ⟨source, [], .empty, []⟩
  have read : Yields (readHead v) b (type, span) b := yields_readHead_iff.mpr ⟨⟨items, h⟩, rfl⟩
  have read' : Yields (readHead v) b (type', span') b :=
    yields_readHead_iff.mpr ⟨⟨items', h'⟩, rfl⟩
  exact congrArg Prod.fst (read.unique read')

/-! ### Scalars -/

theorem keepsStrings_iff {type : NodeType} :
    keepsStrings type = true ↔ type ∈ [.strLit, .rationalLit, .complexLit] := by
  unfold keepsStrings
  split <;> simp_all

/-- A number is the integer or the floating point number that the reader takes it for. -/
theorem denotesScalar_ofNumber (parent : NodeType) (n : Json.Number) :
    DenotesScalar parent (.num n) (ofNumber n).plain := by
  unfold ofNumber
  split
  · rename_i i h
    rw [signed?_eq_some_iff.mp h]
    exact .int i
  · rename_i h
    refine .float fun i hi => ?_
    rw [signed?_eq_some_iff.mpr hi] at h
    cases h

/-- A value that is not written as a node is read as the scalar it denotes. -/
theorem readScalar_sound {parent : NodeType} {v : Json} {b b' : Builder} {c : Child}
    (h : Yields (readScalar parent v) b c b') (shape : isNodeShaped v = false) :
    DenotesScalar parent v c.plain ∧ b' = b := by
  unfold readScalar at h
  split at h
  · obtain ⟨rfl, rfl⟩ := yields_pure_iff.mp h
    exact ⟨.null, rfl⟩
  · rename_i x
    obtain ⟨rfl, rfl⟩ := yields_pure_iff.mp h
    exact ⟨.bool x, rfl⟩
  · rename_i n
    obtain ⟨rfl, rfl⟩ := yields_pure_iff.mp h
    exact ⟨denotesScalar_ofNumber parent n, rfl⟩
  · rename_i s
    obtain ⟨rfl, rfl⟩ := yields_pure_iff.mp h
    cases keeps : keepsStrings parent with
    | true => exact ⟨.string (keepsStrings_iff.mp keeps), rfl⟩
    | false =>
      refine ⟨.symbol fun hp => ?_, rfl⟩
      rw [keepsStrings_iff.mpr hp] at keeps
      cases keeps
  · exact absurd h not_yields_fail
  · rename_i members
    have untyped : members.lookup "type" = none := by
      simpa [isNodeShaped] using shape
    split at h
    · rename_i name hsym hstr
      obtain ⟨rfl, rfl⟩ := yields_pure_iff.mp h
      exact ⟨.markedSymbol untyped hsym hstr, rfl⟩
    · rename_i text hsym hstr
      obtain ⟨rfl, rfl⟩ := yields_pure_iff.mp h
      exact ⟨.markedString untyped hsym hstr, rfl⟩
    · exact absurd h not_yields_fail

/-- No scalar is written as a node. -/
theorem DenotesScalar.isNodeShaped {parent : NodeType} {v : Json} {t : Plain}
    (h : DenotesScalar parent v t) : isNodeShaped v = false := by
  cases h with
  | markedSymbol untyped => simp only [Document.isNodeShaped, untyped, Option.isSome_none]
  | markedString untyped => simp only [Document.isNodeShaped, untyped, Option.isSome_none]
  | _ => rfl

/-- Every scalar of the grammar is read. -/
theorem readScalar_complete {parent : NodeType} {v : Json} {t : Plain}
    (h : DenotesScalar parent v t) (b : Builder) :
    ∃ c, Yields (readScalar parent v) b c b ∧ c.plain = t := by
  unfold readScalar
  cases h with
  | null => exact ⟨.nil, yields_pure_iff.mpr ⟨rfl, rfl⟩, rfl⟩
  | bool x => exact ⟨.bool x, yields_pure_iff.mpr ⟨rfl, rfl⟩, rfl⟩
  | int i =>
    refine ⟨.int i, yields_pure_iff.mpr ⟨?_, rfl⟩, rfl⟩
    rw [ofNumber, signed?_eq_some_iff.mpr rfl]
  | @float n h =>
    refine ⟨.float n.toFloat, yields_pure_iff.mpr ⟨?_, rfl⟩, rfl⟩
    have none : n.signed? = none := by
      cases hn : n.signed? with
      | none => rfl
      | some i => exact absurd (signed?_eq_some_iff.mp hn) (h i)
    rw [ofNumber, none]
  | @string s h =>
    refine ⟨.str s, yields_pure_iff.mpr ⟨?_, rfl⟩, rfl⟩
    rw [if_pos (keepsStrings_iff.mpr h)]
  | @symbol s h =>
    refine ⟨.sym s, yields_pure_iff.mpr ⟨?_, rfl⟩, rfl⟩
    rw [if_neg fun hk => h (keepsStrings_iff.mp hk)]
  | @markedSymbol members name _ hsym hstr =>
    refine ⟨.sym name, ?_, rfl⟩
    simp only [hsym, hstr]
    exact yields_pure_iff.mpr ⟨rfl, rfl⟩
  | @markedString members text _ hsym hstr =>
    refine ⟨.str text, ?_, rfl⟩
    simp only [hsym, hstr]
    exact yields_pure_iff.mpr ⟨rfl, rfl⟩

/-! ### Trees -/

/-- A node is read when its own checks pass, its items are read, and it is constructed from them. -/
theorem yields_readNode_iff {v : Json} {b b' : Builder} {n : Node} :
    Yields (readNode v) b n b' ↔ ∃ type span children items c,
      DenotesHead b.source v type span items ∧
        Yields (readChildren type 0 items) b children c ∧
          Yields (construct type children span) c n b' := by
  rw [readNode]
  constructor
  · intro h
    obtain ⟨⟨type, span⟩, c, hhead, afterHead⟩ := yields_bind_iff.mp h
    obtain ⟨⟨items, head⟩, rfl⟩ := yields_readHead_iff.mp hhead
    obtain ⟨children, d, hc, afterChildren⟩ := yields_bind_iff.mp afterHead
    rw [head.slots_eq] at hc
    exact ⟨type, span, children, items, d, head, hc, afterChildren⟩
  · rintro ⟨type, span, children, items, c, head, hc, h⟩
    refine yields_bind_iff.mpr ⟨(type, span), b, yields_readHead_iff.mpr ⟨⟨items, head⟩, rfl⟩, ?_⟩
    rw [head.slots_eq]
    exact yields_bind_iff.mpr ⟨children, c, hc, h⟩

theorem yields_readChildren_nil_iff {parent : NodeType} {i : Nat} {b b' : Builder}
    {cs : List Child} : Yields (readChildren parent i []) b cs b' ↔ cs = [] ∧ b' = b := by
  rw [readChildren]
  exact yields_pure_iff

/-- Children are read one at a time, each at its own index. -/
theorem yields_readChildren_cons_iff {parent : NodeType} {i : Nat} {v : Json} {rest : List Json}
    {b b' : Builder} {cs : List Child} :
    Yields (readChildren parent i (v :: rest)) b cs b' ↔ ∃ c others d,
      Yields (atIndex i (readChild parent v)) b c d ∧
        Yields (readChildren parent (i + 1) rest) d others b' ∧ cs = c :: others := by
  rw [readChildren]
  constructor
  · intro h
    obtain ⟨c, d, hc, h⟩ := yields_bind_iff.mp h
    obtain ⟨others, e, ho, h⟩ := yields_bind_iff.mp h
    obtain ⟨rfl, rfl⟩ := yields_pure_iff.mp h
    exact ⟨c, others, d, hc, ho, rfl⟩
  · rintro ⟨c, others, d, hc, ho, rfl⟩
    exact yields_bind_iff.mpr ⟨c, d, hc, yields_bind_iff.mpr ⟨others, b', ho,
      yields_pure_iff.mpr ⟨rfl, rfl⟩⟩⟩

/-- A child that is written as a node is read as one. -/
theorem yields_readChild_node_iff {parent : NodeType} {v : Json} {b b' : Builder} {c : Child}
    (shape : isNodeShaped v = true) :
    Yields (readChild parent v) b c b' ↔ ∃ n, Yields (readNode v) b n b' ∧ c = .node n := by
  rw [readChild, if_pos shape]
  constructor
  · intro h
    obtain ⟨n, d, hn, h⟩ := yields_bind_iff.mp h
    obtain ⟨rfl, rfl⟩ := yields_pure_iff.mp h
    exact ⟨n, hn, rfl⟩
  · rintro ⟨n, hn, rfl⟩
    exact yields_bind_iff.mpr ⟨n, b', hn, yields_pure_iff.mpr ⟨rfl, rfl⟩⟩

/-- What is read is what the value denotes. -/
theorem readers_sound :
    (∀ v, ∀ {b n b'}, Yields (readNode v) b n b' → DenotesNode b.source v n.plain) ∧
      (∀ parent i vs, ∀ {b cs b'}, Yields (readChildren parent i vs) b cs b' →
        DenotesChildren b.source parent vs (Child.plains cs)) ∧
      (∀ parent v, ∀ {b c b'}, Yields (readChild parent v) b c b' →
        DenotesChild b.source parent v c.plain) := by
  refine ReadingCases.all ⟨?node, ?nil, ?cons, ?child⟩
  case node =>
    intro v ih b n b' h
    obtain ⟨type, span, children, items, c, head, hc, hn⟩ := yields_readNode_iff.mp h
    obtain ⟨rfl, -⟩ := yields_construct_iff.mp hn
    rw [← head.slots_eq] at hc
    have below := ih type hc
    rw [head.slots_eq] at below
    exact denotesNode_iff.mpr ⟨type, span, items, _, head, below, rfl⟩
  case nil =>
    intro parent i b cs b' h
    obtain ⟨rfl, -⟩ := yields_readChildren_nil_iff.mp h
    exact .nil
  case cons =>
    intro parent i v rest first others b cs b' h
    obtain ⟨c, cs, d, hc, hcs, rfl⟩ := yields_readChildren_cons_iff.mp h
    have hd : d.source = b.source := hc.source_eq ((keeps_readers.2.2 parent v).atIndex i)
    obtain ⟨e, he, -⟩ := yields_atIndex_iff.mp hc
    have denoted := first he
    refine .cons denoted ?_
    rw [← hd]
    exact others hcs
  case child =>
    intro parent v ih b c b' h
    cases shape : isNodeShaped v with
    | true =>
      obtain ⟨n, hn, rfl⟩ := (yields_readChild_node_iff shape).mp h
      exact .node (ih shape hn)
    | false =>
      rw [readChild, if_neg (by simp [shape])] at h
      exact .scalar (readScalar_sound h shape).1

/-- What a value denotes is read, whatever state the reading begins in. -/
theorem readers_complete :
    (∀ v, ∀ b t, DenotesNode b.source v t → ∃ n b', Yields (readNode v) b n b' ∧ n.plain = t) ∧
      (∀ parent i vs, ∀ b ts, DenotesChildren b.source parent vs ts →
        ∃ cs b', Yields (readChildren parent i vs) b cs b' ∧ Child.plains cs = ts) ∧
      (∀ parent v, ∀ b t, DenotesChild b.source parent v t →
        ∃ c b', Yields (readChild parent v) b c b' ∧ c.plain = t) := by
  refine ReadingCases.all ⟨?node, ?nil, ?cons, ?child⟩
  case node =>
    intro v ih b t h
    obtain ⟨type, span, items, ts, head, hts, rfl⟩ := denotesNode_iff.mp h
    rw [← head.slots_eq] at hts
    obtain ⟨children, c, hc, rfl⟩ := ih type b ts hts
    rw [head.slots_eq] at hc
    refine ⟨_, _, yields_readNode_iff.mpr ⟨type, span, children, items, c, head, hc,
      yields_construct_iff.mpr ⟨rfl, rfl⟩⟩, rfl⟩
  case nil =>
    intro parent i b ts h
    cases h
    exact ⟨[], b, yields_readChildren_nil_iff.mpr ⟨rfl, rfl⟩, rfl⟩
  case cons =>
    intro parent i v rest first others b ts h
    cases h with
    | @cons _ _ t _ ts ht hts =>
      obtain ⟨c, e, he, rfl⟩ := first { b with path := i :: b.path } t ht
      have hd := yields_atIndex_iff.mpr ⟨e, he, rfl⟩
      have source := hd.source_eq ((keeps_readers.2.2 parent v).atIndex i)
      obtain ⟨cs, b', hcs, rfl⟩ := others _ ts (source ▸ hts)
      exact ⟨c :: cs, b', yields_readChildren_cons_iff.mpr ⟨c, cs, _, hd, hcs, rfl⟩, rfl⟩
  case child =>
    intro parent v ih b t h
    cases h with
    | scalar h =>
      obtain ⟨c, hc, rfl⟩ := readScalar_complete h b
      refine ⟨c, b, ?_, rfl⟩
      rw [readChild, if_neg (by simp [h.isNodeShaped])]
      exact hc
    | node h =>
      obtain ⟨_, _, _, _, head, -⟩ := denotesNode_iff.mp h
      have shape := head.isNodeShaped
      obtain ⟨n, b', hn, rfl⟩ := ih shape b t h
      exact ⟨.node n, b', (yields_readChild_node_iff shape).mpr ⟨n, hn, rfl⟩, rfl⟩

/-- Values denote one list of children. -/
theorem DenotesChildren.unique {source : Option Buffer} {parent : NodeType} {vs : List Json}
    {ts ts' : List Plain} (h : DenotesChildren source parent vs ts)
    (h' : DenotesChildren source parent vs ts') : ts = ts' := by
  obtain ⟨cs, c, read, rfl⟩ := readers_complete.2.1 parent 0 vs ⟨source, [], .empty, []⟩ ts h
  obtain ⟨cs', c', read', rfl⟩ := readers_complete.2.1 parent 0 vs ⟨source, [], .empty, []⟩ ts' h'
  rw [read.unique read']

/-- **A document is read exactly as the grammar says.** Whatever forest it is read into, a value is
read as a tree with the plain form `t` exactly when it denotes `t`; and no value denotes two
trees. -/
theorem build_iff_denotes (v : Json) (source : Option Buffer) (forest : Forest) (t : Plain) :
    ((∃ n, (build v source forest).1 = .ok n ∧ n.plain = t) ↔ DenotesNode source v t) ∧
      ∀ t', DenotesNode source v t → DenotesNode source v t' → t = t' := by
  have adequate : ∀ t, (∃ n, (build v source forest).1 = .ok n ∧ n.plain = t) ↔
      DenotesNode source v t := by
    intro t
    constructor
    · rintro ⟨n, hn, rfl⟩
      have run : Yields (readNode v) ⟨source, [], forest, []⟩ n (build v source forest).2 :=
        Prod.ext hn rfl
      exact readers_sound.1 v run
    · intro h
      obtain ⟨n, b', hn, rfl⟩ := readers_complete.1 v ⟨source, [], forest, []⟩ t h
      exact ⟨n, congrArg Prod.fst hn, rfl⟩
  refine ⟨adequate t, fun t' h h' => ?_⟩
  obtain ⟨n, hn, rfl⟩ := (adequate t).mpr h
  obtain ⟨n', hn', rfl⟩ := (adequate t').mpr h'
  rw [hn] at hn'
  cases hn'
  rfl

end RubyTree.Document
