/-
Where a reading stops.

`Stops x b fault` says that the step `x`, begun in the state `b`, ends in a fault. The rules below
say what can be wrong with a value, without mentioning the reading: `NodeFault` with one that is
expected to be a node, `ChildFault` with one at a child position. A check of a node is only made
when those before it have passed, and they come in the order tag, children, range.

`Reaches source v path w` says that the reading of `v` comes to `w`: each value on the way there is
a node that passes its own checks, and the items in front of the way's next step denote children.

* `stops_readHead_iff` — a node's own checks and what they find.
* `readers_stop` — a reading stops at the first value it comes to with which something is wrong, and
  names the way to it.
-/

import RubyTree.Proofs.Document.Grammar

namespace RubyTree.Document

/-- A step ends in a fault. -/
def Stops {α : Type} (x : Build α) (b : Builder) (fault : Fault) : Prop :=
  (outcome x b).1 = .error fault

section Stops

variable {α β : Type} {b : Builder} {fault : Fault}

/-- A fault of two steps is one of the first, or one of the second behind a success of the first. -/
theorem stops_bind_iff {x : Build α} {f : α → Build β} :
    Stops (x >>= f) b fault ↔
      Stops x b fault ∨ ∃ a c, Yields x b a c ∧ Stops (f a) c fault := by
  unfold Stops Yields
  rw [outcome_bind]
  rcases outcome x b with ⟨e | a, c⟩
  · simp
  · simp only [reduceCtorEq, false_or, Prod.mk.injEq, Except.ok.injEq]
    constructor
    · intro h
      exact ⟨a, c, ⟨rfl, rfl⟩, h⟩
    · rintro ⟨_, _, ⟨rfl, rfl⟩, h⟩
      exact h

theorem Stops.outcome_bind {x : Build α} (h : Stops x b fault) (f : α → Build β) :
    outcome (x >>= f) b = (.error fault, (outcome x b).2) := by
  have run : outcome x b = (.error fault, (outcome x b).2) := Prod.ext h rfl
  rw [Document.outcome_bind, run]

/-- A fault at a child is one of the step at the place of that child. -/
theorem stops_atIndex_iff {i : Nat} {x : Build α} :
    Stops (atIndex i x) b fault ↔ Stops x { b with path := i :: b.path } fault :=
  Iff.rfl

theorem stops_fail_iff {cause cause' : Cause} {path : List Nat} :
    Stops (fail cause' : Build α) b ⟨path, cause⟩ ↔ cause = cause' ∧ path = b.path.reverse := by
  have run : (outcome (fail cause' : Build α) b).1 = .error ⟨b.path.reverse, cause'⟩ := rfl
  unfold Stops
  rw [run]
  simp [eq_comm, and_comm]

theorem not_stops_pure {a : α} : ¬ Stops (pure a) b fault := by
  intro h
  cases h

theorem not_stops_get : ¬ Stops get b fault := by
  intro h
  cases h

theorem not_stops_construct {type : NodeType} {children : List Child} {span : Option Span} :
    ¬ Stops (construct type children span) b fault := by
  intro h
  cases h

end Stops

/-! ### What can be wrong with a value -/

/-- What is wrong with a tag. -/
inductive TagFault : Json → Cause → Prop where
  | notString {v : Json} (h : ∀ tag, v ≠ .str tag) : TagFault v .tagNotString
  | unknown {tag : String} (h : ∀ type : NodeType, type.tag ≠ tag) :
      TagFault (.str tag) (.unknownTag tag)

/-- What is wrong with the range of an object: it is no pair of unsigned words, there is no source,
or it is out of order, ends outside the text or splits a character. -/
inductive RangeFault (source : Option Buffer) (members : List (String × Json)) : Cause → Prop where
  | shape {range : Json} (present : members.lookup "range" = some range)
      (h : ∀ start stop : Nat, start < 2 ^ 64 ∧ stop < 2 ^ 64 →
        range ≠ .arr [.num (.int start), .num (.int stop)]) :
      RangeFault source members .rangeShape
  | noSource {start stop : Nat}
      (present : members.lookup "range" = some (.arr [.num (.int start), .num (.int stop)]))
      (words : start < 2 ^ 64 ∧ stop < 2 ^ 64) (h : source = none) :
      RangeFault source members .noSource
  | outside {start stop : Nat} {buffer : Buffer}
      (present : members.lookup "range" = some (.arr [.num (.int start), .num (.int stop)]))
      (words : start < 2 ^ 64 ∧ stop < 2 ^ 64) (hs : source = some buffer)
      (h : ¬ (start ≤ stop ∧ stop ≤ buffer.text.utf8ByteSize ∧
        String.Pos.Raw.IsValid buffer.text ⟨start⟩ ∧ String.Pos.Raw.IsValid buffer.text ⟨stop⟩)) :
      RangeFault source members (.rangeOutside start stop)

/-- What is wrong with a value that is expected to be a node. The children of an object are looked
at when its tag is good, and its range when its children are good as well. -/
inductive NodeFault (source : Option Buffer) : Json → Cause → Prop where
  | notNode {v : Json} (h : isNodeShaped v = false) : NodeFault source v .notNode
  | emptyArray : NodeFault source (.arr []) .emptyArray
  | arrayTag {tag : Json} {items : List Json} {cause : Cause} (h : TagFault tag cause) :
      NodeFault source (.arr (tag :: items)) cause
  | objectTag {members : List (String × Json)} {tag : Json} {cause : Cause}
      (present : members.lookup "type" = some tag) (h : TagFault tag cause) :
      NodeFault source (.obj members) cause
  | children {members : List (String × Json)} {type : NodeType} {w : Json}
      (tag : members.lookup "type" = some (.str type.tag))
      (present : members.lookup "children" = some w) (notNull : w ≠ .null)
      (notArray : ∀ items, w ≠ .arr items) : NodeFault source (.obj members) .childrenNotArray
  | range {members : List (String × Json)} {type : NodeType} {items : List Json} {cause : Cause}
      (tag : members.lookup "type" = some (.str type.tag)) (hitems : DenotesItems members items)
      (h : RangeFault source members cause) : NodeFault source (.obj members) cause

/-- What is wrong with a value at a child position: with the node that it is written as, or with an
object without a type that does not hold one string under just one of `sym` and `str`. -/
inductive ChildFault (source : Option Buffer) : Json → Cause → Prop where
  | node {v : Json} {cause : Cause} (shape : isNodeShaped v = true)
      (h : NodeFault source v cause) : ChildFault source v cause
  | scalar {members : List (String × Json)} (untyped : members.lookup "type" = none)
      (notSymbol : ∀ name,
        ¬ (members.lookup "sym" = some (.str name) ∧ members.lookup "str" = none))
      (notString : ∀ text,
        ¬ (members.lookup "sym" = none ∧ members.lookup "str" = some (.str text))) :
      ChildFault source (.obj members) .scalarShape

/-- The reading of a value comes to another one along child indices. -/
inductive Reaches (source : Option Buffer) : Json → List Nat → Json → Prop where
  | here (v : Json) : Reaches source v [] v
  | step {v u w : Json} {type : NodeType} {span : Option Span} {items : List Json} {i : Nat}
      {path : List Nat} (head : DenotesHead source v type span items) (item : items[i]? = some u)
      (earlier : ∀ x ∈ items.take i, ∃ t, DenotesChild source type x t)
      (rest : Reaches source u path w) : Reaches source v (i :: path) w

/-! ### The checks of a node -/

section Checks

variable {b : Builder} {path : List Nat} {cause : Cause}

theorem stops_readTag_iff {v : Json} :
    Stops (readTag v) b ⟨path, cause⟩ ↔ TagFault v cause ∧ path = b.path.reverse := by
  unfold readTag
  split
  · rename_i tag
    cases htag : NodeType.ofTag? tag with
    | none =>
      have unknown : ∀ type : NodeType, type.tag ≠ tag := by
        intro type heq
        rw [NodeType.ofTag?_eq_some_iff.mpr heq] at htag
        cases htag
      rw [stops_fail_iff]
      constructor
      · rintro ⟨rfl, hp⟩
        exact ⟨.unknown unknown, hp⟩
      · rintro ⟨h, hp⟩
        cases h with
        | notString h => exact absurd rfl (h tag)
        | unknown => exact ⟨rfl, hp⟩
    | some type =>
      constructor
      · intro h
        exact absurd h not_stops_pure
      · rintro ⟨h, -⟩
        cases h with
        | notString h => exact absurd rfl (h tag)
        | unknown h => exact absurd (NodeType.ofTag?_eq_some_iff.mp htag) (h type)
  · rename_i other
    rw [stops_fail_iff]
    constructor
    · rintro ⟨rfl, hp⟩
      exact ⟨.notString other, hp⟩
    · rintro ⟨h, hp⟩
      cases h with
      | notString => exact ⟨rfl, hp⟩
      | unknown => exact absurd rfl (other _)

/-- The member `children` is at fault when it is there and is neither null nor an array. -/
theorem stops_checkChildren_iff {members : List (String × Json)} :
    Stops (checkChildren members) b ⟨path, cause⟩ ↔
      (∃ w, members.lookup "children" = some w ∧ w ≠ .null ∧ ∀ items, w ≠ .arr items) ∧
        cause = .childrenNotArray ∧ path = b.path.reverse := by
  unfold checkChildren
  split
  case h_4 =>
    rename_i w notNull notArray present
    rw [stops_fail_iff]
    constructor
    · intro h
      exact ⟨⟨w, present, notNull, notArray⟩, h⟩
    · rintro ⟨-, h⟩
      exact h
  all_goals
    rename_i present
    constructor
    · intro h
      exact absurd h not_stops_pure
    · rintro ⟨⟨w, hw, notNull, notArray⟩, -⟩
      simp_all

/-- A range does not fit a buffer when one of the four conditions on its ends fails. -/
theorem of?_eq_none_iff {buffer : Buffer} {start stop : Nat} :
    Span.of? buffer start stop = none ↔
      ¬ (start ≤ stop ∧ stop ≤ buffer.text.utf8ByteSize ∧
        String.Pos.Raw.IsValid buffer.text ⟨start⟩ ∧
          String.Pos.Raw.IsValid buffer.text ⟨stop⟩) := by
  rw [← Text.isSome_cut?_iff]
  unfold Span.of?
  split
  · rename_i fits
    simp [fits]
  · rename_i misfit
    simp [misfit]

theorem stops_readSpan_iff {members : List (String × Json)} :
    Stops (readSpan members) b ⟨path, cause⟩ ↔
      RangeFault b.source members cause ∧ path = b.path.reverse := by
  unfold readSpan
  constructor
  · intro h
    split at h
    · exact absurd h not_stops_pure
    · rename_i range present
      split at h
      · rename_i bad
        obtain ⟨rfl, hp⟩ := stops_fail_iff.mp h
        refine ⟨.shape present fun start stop words heq => ?_, hp⟩
        rw [bounds?_eq_some_iff.mpr ⟨heq, words⟩] at bad
        cases bad
      · rename_i start stop hr
        obtain ⟨rfl, words⟩ := bounds?_eq_some_iff.mp hr
        obtain hget | ⟨_, _, hget, rest⟩ := stops_bind_iff.mp h
        · exact absurd hget not_stops_get
        · obtain ⟨rfl, rfl⟩ := yields_get_iff.mp hget
          split at rest
          · rename_i hs
            obtain ⟨rfl, hp⟩ := stops_fail_iff.mp rest
            exact ⟨.noSource present words hs, hp⟩
          · rename_i buffer hs
            split at rest
            · rename_i misfit
              obtain ⟨rfl, hp⟩ := stops_fail_iff.mp rest
              exact ⟨.outside present words hs (of?_eq_none_iff.mp misfit), hp⟩
            · exact absurd rest not_stops_pure
  · rintro ⟨h, hp⟩
    have afterGet : ∀ {f : Builder → Build (Option Span)}, Stops (f b) b ⟨path, cause⟩ →
        Stops (get >>= f) b ⟨path, cause⟩ := fun h =>
      stops_bind_iff.mpr (.inr ⟨b, b, yields_get_iff.mpr ⟨rfl, rfl⟩, h⟩)
    cases h with
    | @shape range present bad =>
      have none : bounds? range = none := by
        cases hr : bounds? range with
        | none => rfl
        | some bounds =>
          obtain ⟨heq, words⟩ := bounds?_eq_some_iff.mp hr
          exact absurd heq (bad _ _ words)
      simp only [present, none]
      exact stops_fail_iff.mpr ⟨rfl, hp⟩
    | noSource present words hs =>
      simp only [present, bounds?_eq_some_iff.mpr ⟨rfl, words⟩]
      refine afterGet ?_
      simp only [hs]
      exact stops_fail_iff.mpr ⟨rfl, hp⟩
    | outside present words hs misfit =>
      simp only [present, bounds?_eq_some_iff.mpr ⟨rfl, words⟩]
      refine afterGet ?_
      simp only [hs, of?_eq_none_iff.mpr misfit]
      exact stops_fail_iff.mpr ⟨rfl, hp⟩

/-- A node's own checks stop at the first one that finds something, at the place of the node. -/
theorem stops_readHead_iff {v : Json} :
    Stops (readHead v) b ⟨path, cause⟩ ↔ NodeFault b.source v cause ∧ path = b.path.reverse := by
  unfold readHead
  constructor
  · intro h
    split at h
    · obtain ⟨rfl, hp⟩ := stops_fail_iff.mp h
      exact ⟨.emptyArray, hp⟩
    · obtain htag | ⟨_, _, -, rest⟩ := stops_bind_iff.mp h
      · obtain ⟨bad, hp⟩ := stops_readTag_iff.mp htag
        exact ⟨.arrayTag bad, hp⟩
      · exact absurd rest not_stops_pure
    · rename_i members
      split at h
      · rename_i absent
        obtain ⟨rfl, hp⟩ := stops_fail_iff.mp h
        exact ⟨.notNode (by simp [isNodeShaped, absent]), hp⟩
      · rename_i tag present
        obtain htag | ⟨type, _, htag, afterTag⟩ := stops_bind_iff.mp h
        · obtain ⟨bad, hp⟩ := stops_readTag_iff.mp htag
          exact ⟨.objectTag present bad, hp⟩
        obtain ⟨rfl, rfl⟩ := yields_readTag_iff.mp htag
        obtain hcheck | ⟨_, _, hcheck, afterCheck⟩ := stops_bind_iff.mp afterTag
        · obtain ⟨⟨w, hw, notNull, notArray⟩, rfl, hp⟩ := stops_checkChildren_iff.mp hcheck
          exact ⟨.children present hw notNull notArray, hp⟩
        obtain ⟨⟨items, hitems⟩, rfl⟩ := yields_checkChildren_iff.mp hcheck
        obtain hspan | ⟨_, _, -, afterSpan⟩ := stops_bind_iff.mp afterCheck
        · obtain ⟨bad, hp⟩ := stops_readSpan_iff.mp hspan
          exact ⟨.range present hitems bad, hp⟩
        · exact absurd afterSpan not_stops_pure
    · rename_i empty array object
      obtain ⟨rfl, hp⟩ := stops_fail_iff.mp h
      refine ⟨.notNode ?_, hp⟩
      cases v with
      | arr items =>
        cases items with
        | nil => exact absurd rfl empty
        | cons tag items => exact absurd rfl (array tag items)
      | obj members => exact absurd rfl (object members)
      | _ => rfl
  · rintro ⟨h, hp⟩
    cases h with
    | notNode shape =>
      cases v with
      | arr items => cases shape
      | obj members =>
        have absent : members.lookup "type" = none := by simpa [isNodeShaped] using shape
        simp only [absent]
        exact stops_fail_iff.mpr ⟨rfl, hp⟩
      | _ => exact stops_fail_iff.mpr ⟨rfl, hp⟩
    | emptyArray => exact stops_fail_iff.mpr ⟨rfl, hp⟩
    | arrayTag bad => exact stops_bind_iff.mpr (.inl (stops_readTag_iff.mpr ⟨bad, hp⟩))
    | objectTag present bad =>
      simp only [present]
      exact stops_bind_iff.mpr (.inl (stops_readTag_iff.mpr ⟨bad, hp⟩))
    | children tag present notNull notArray =>
      simp only [tag]
      refine stops_bind_iff.mpr (.inr ⟨_, b, yields_readTag_iff.mpr ⟨rfl, rfl⟩, ?_⟩)
      refine stops_bind_iff.mpr (.inl (stops_checkChildren_iff.mpr ?_))
      exact ⟨⟨_, present, notNull, notArray⟩, rfl, hp⟩
    | range tag hitems bad =>
      simp only [tag]
      refine stops_bind_iff.mpr (.inr ⟨_, b, yields_readTag_iff.mpr ⟨rfl, rfl⟩, ?_⟩)
      refine stops_bind_iff.mpr (.inr ⟨(), b, yields_checkChildren_iff.mpr ⟨⟨_, hitems⟩, rfl⟩, ?_⟩)
      exact stops_bind_iff.mpr (.inl (stops_readSpan_iff.mpr ⟨bad, hp⟩))

/-- A value that is not written as a node is at fault when it is no scalar either. -/
theorem stops_readScalar_iff {parent : NodeType} {v : Json} (shape : isNodeShaped v = false) :
    Stops (readScalar parent v) b ⟨path, cause⟩ ↔
      ChildFault b.source v cause ∧ path = b.path.reverse := by
  unfold readScalar
  constructor
  · intro h
    split at h
    case h_5 => cases shape
    case h_6 members =>
      have untyped : members.lookup "type" = none := by simpa [isNodeShaped] using shape
      split at h
      · exact absurd h not_stops_pure
      · exact absurd h not_stops_pure
      · rename_i notSymbol notString
        obtain ⟨rfl, hp⟩ := stops_fail_iff.mp h
        exact ⟨.scalar untyped (fun name hn => notSymbol name hn.1 hn.2)
          (fun text ht => notString text ht.1 ht.2), hp⟩
    all_goals exact absurd h not_stops_pure
  · rintro ⟨h, hp⟩
    cases h with
    | node shaped => rw [shape] at shaped; cases shaped
    | @scalar members untyped notSymbol notString =>
      dsimp only
      split
      · rename_i name hsym hstr
        exact absurd ⟨hsym, hstr⟩ (notSymbol name)
      · rename_i text hsym hstr
        exact absurd ⟨hsym, hstr⟩ (notString text)
      · exact stops_fail_iff.mpr ⟨rfl, hp⟩

end Checks

/-! ### The way to the fault -/

/-- Something is wrong with a value at a child position that the reading of a value at a child
position comes to. -/
def ChildFaultAt (source : Option Buffer) (v : Json) (path : List Nat) (cause : Cause) : Prop :=
  ∃ w, Reaches source v path w ∧ ChildFault source w cause

/-- Something is wrong with a value that the reading of a root comes to. Only the root itself has to
be a node. -/
def RootFaultAt (source : Option Buffer) (v : Json) (path : List Nat) (cause : Cause) : Prop :=
  ∃ w, Reaches source v path w ∧
    if path = [] then NodeFault source w cause else ChildFault source w cause

section Way

variable {source : Option Buffer} {v : Json} {path : List Nat} {cause : Cause}

theorem rootFaultAt_nil_iff : RootFaultAt source v [] cause ↔ NodeFault source v cause := by
  unfold RootFaultAt
  constructor
  · rintro ⟨w, way, h⟩
    cases way
    exact h
  · intro h
    exact ⟨v, .here v, h⟩

/-- A fault below a root is one of a child behind children that all can be read. -/
theorem rootFaultAt_cons_iff {i : Nat} :
    RootFaultAt source v (i :: path) cause ↔ ∃ type span items u,
      DenotesHead source v type span items ∧ items[i]? = some u ∧
        (∀ x ∈ items.take i, ∃ t, DenotesChild source type x t) ∧
          ChildFaultAt source u path cause := by
  unfold RootFaultAt ChildFaultAt
  constructor
  · rintro ⟨w, way, h⟩
    cases way with
    | step head item earlier rest =>
      rw [if_neg (List.cons_ne_nil i path)] at h
      exact ⟨_, _, _, _, head, item, earlier, w, rest, h⟩
  · rintro ⟨type, span, items, u, head, item, earlier, w, rest, h⟩
    refine ⟨w, .step head item earlier rest, ?_⟩
    rw [if_neg (List.cons_ne_nil i path)]
    exact h

/-- At and below a value that is written as a node, the same is wrong as if it were a root. -/
theorem childFaultAt_node_iff (shape : isNodeShaped v = true) :
    ChildFaultAt source v path cause ↔ RootFaultAt source v path cause := by
  unfold ChildFaultAt RootFaultAt
  cases path with
  | cons i path => simp only [if_neg (List.cons_ne_nil i path)]
  | nil =>
    simp only [if_true]
    constructor
    · rintro ⟨w, way, h⟩
      cases way
      cases h with
      | node _ h => exact ⟨v, .here v, h⟩
      | scalar untyped =>
        rw [isNodeShaped, untyped] at shape
        cases shape
    · rintro ⟨w, way, h⟩
      cases way
      exact ⟨v, .here v, .node shape h⟩

/-- The reading of a scalar comes to no other value. -/
theorem childFaultAt_scalar_iff (shape : isNodeShaped v = false) :
    ChildFaultAt source v path cause ↔ ChildFault source v cause ∧ path = [] := by
  unfold ChildFaultAt
  constructor
  · rintro ⟨w, way, h⟩
    cases way with
    | here => exact ⟨h, rfl⟩
    | step head =>
      rw [head.isNodeShaped] at shape
      cases shape
  · rintro ⟨h, rfl⟩
    exact ⟨v, .here v, h⟩

end Way

/-! ### Trees -/

/-- A node fails in its own checks or, behind them, in its children. -/
theorem stops_readNode_iff {v : Json} {b : Builder} {fault : Fault} :
    Stops (readNode v) b fault ↔ Stops (readHead v) b fault ∨ ∃ type span items,
      DenotesHead b.source v type span items ∧ Stops (readChildren type 0 items) b fault := by
  rw [readNode]
  constructor
  · intro h
    obtain hhead | ⟨⟨type, span⟩, c, hhead, afterHead⟩ := stops_bind_iff.mp h
    · exact .inl hhead
    obtain ⟨⟨items, head⟩, rfl⟩ := yields_readHead_iff.mp hhead
    rw [head.slots_eq] at afterHead
    obtain hc | ⟨_, _, -, rest⟩ := stops_bind_iff.mp afterHead
    · exact .inr ⟨type, span, items, head, hc⟩
    · exact absurd rest not_stops_construct
  · rintro (h | ⟨type, span, items, head, h⟩)
    · exact stops_bind_iff.mpr (.inl h)
    · refine stops_bind_iff.mpr (.inr ⟨(type, span), b, yields_readHead_iff.mpr
        ⟨⟨items, head⟩, rfl⟩, ?_⟩)
      rw [head.slots_eq]
      exact stops_bind_iff.mpr (.inl h)

/-- The children fail in the first of them or, behind it, in the others. -/
theorem stops_readChildren_cons_iff {parent : NodeType} {i : Nat} {v : Json} {rest : List Json}
    {b : Builder} {fault : Fault} :
    Stops (readChildren parent i (v :: rest)) b fault ↔
      Stops (readChild parent v) { b with path := i :: b.path } fault ∨ ∃ c d,
        Yields (atIndex i (readChild parent v)) b c d ∧
          Stops (readChildren parent (i + 1) rest) d fault := by
  rw [readChildren, stops_bind_iff, stops_atIndex_iff]
  refine or_congr_right ?_
  constructor
  · rintro ⟨c, d, hc, h⟩
    obtain h | ⟨_, _, -, h⟩ := stops_bind_iff.mp h
    · exact ⟨c, d, hc, h⟩
    · exact absurd h not_stops_pure
  · rintro ⟨c, d, hc, h⟩
    exact ⟨c, d, hc, stops_bind_iff.mpr (.inl h)⟩

theorem stops_readChild_iff {parent : NodeType} {v : Json} {b : Builder} {fault : Fault}
    (shape : isNodeShaped v = true) :
    Stops (readChild parent v) b fault ↔ Stops (readNode v) b fault := by
  rw [readChild, if_pos shape, stops_bind_iff]
  constructor
  · rintro (h | ⟨_, _, -, h⟩)
    · exact h
    · exact absurd h not_stops_pure
  · exact .inl

/-- A child is read exactly when its value denotes one, whatever its index is. -/
theorem exists_yields_atIndex_iff {parent : NodeType} {i : Nat} {v : Json} {b : Builder} :
    (∃ c d, Yields (atIndex i (readChild parent v)) b c d) ↔
      ∃ t, DenotesChild b.source parent v t := by
  constructor
  · rintro ⟨c, d, h⟩
    obtain ⟨e, he, -⟩ := yields_atIndex_iff.mp h
    have denoted := readers_sound.2.2 parent v he
    exact ⟨_, denoted⟩
  · rintro ⟨t, h⟩
    obtain ⟨c, e, he, -⟩ := readers_complete.2.2 parent v { b with path := i :: b.path } t h
    exact ⟨c, _, yields_atIndex_iff.mpr ⟨e, he, rfl⟩⟩

/-- A reading stops at the first value it comes to with which something is wrong, and names the way
to it behind the place where it began. -/
theorem readers_stop :
    (∀ v, ∀ b path cause, Stops (readNode v) b ⟨path, cause⟩ ↔
        ∃ p, RootFaultAt b.source v p cause ∧ path = b.path.reverse ++ p) ∧
      (∀ parent i vs, ∀ b path cause, Stops (readChildren parent i vs) b ⟨path, cause⟩ ↔
        ∃ j u p, vs[j]? = some u ∧ (∀ x ∈ vs.take j, ∃ t, DenotesChild b.source parent x t) ∧
          ChildFaultAt b.source u p cause ∧ path = b.path.reverse ++ (i + j) :: p) ∧
      (∀ parent v, ∀ b path cause, Stops (readChild parent v) b ⟨path, cause⟩ ↔
        ∃ p, ChildFaultAt b.source v p cause ∧ path = b.path.reverse ++ p) := by
  refine ReadingCases.all ⟨?node, ?nil, ?cons, ?child⟩
  case node =>
    intro v ih b path cause
    rw [stops_readNode_iff]
    constructor
    · rintro (h | ⟨type, span, items, head, h⟩)
      · obtain ⟨bad, rfl⟩ := stops_readHead_iff.mp h
        exact ⟨[], rootFaultAt_nil_iff.mpr bad, (List.append_nil _).symm⟩
      · rw [← head.slots_eq] at h
        obtain ⟨j, u, p, item, earlier, bad, rfl⟩ := (ih type b path cause).mp h
        rw [head.slots_eq] at item earlier
        refine ⟨j :: p, rootFaultAt_cons_iff.mpr ⟨_, _, _, u, head, item, earlier, bad⟩, ?_⟩
        rw [Nat.zero_add]
    · rintro ⟨p, bad, rfl⟩
      cases p with
      | nil =>
        refine .inl (stops_readHead_iff.mpr ⟨rootFaultAt_nil_iff.mp bad, ?_⟩)
        rw [List.append_nil]
      | cons j p =>
        obtain ⟨type, span, items, u, head, item, earlier, bad⟩ := rootFaultAt_cons_iff.mp bad
        refine .inr ⟨type, span, items, head, ?_⟩
        rw [← head.slots_eq] at item earlier ⊢
        exact (ih type b _ cause).mpr ⟨j, u, p, item, earlier, bad, by rw [Nat.zero_add]⟩
  case nil =>
    intro parent i b path cause
    rw [readChildren]
    constructor
    · intro h
      exact absurd h not_stops_pure
    · rintro ⟨j, u, p, item, -⟩
      cases item
  case cons =>
    intro parent i v rest first others b path cause
    have keeps : Keeps (atIndex i (readChild parent v)) := (keeps_readers.2.2 parent v).atIndex i
    rw [stops_readChildren_cons_iff]
    constructor
    · rintro (h | ⟨c, d, hc, h⟩)
      · obtain ⟨p, bad, rfl⟩ := (first _ path cause).mp h
        exact ⟨0, v, p, rfl, List.forall_mem_nil _, bad, by simp⟩
      · obtain ⟨j, u, p, item, earlier, bad, rfl⟩ := (others d path cause).mp h
        rw [hc.source_eq keeps] at earlier bad
        refine ⟨j + 1, u, p, item, ?_, bad, ?_⟩
        · rw [List.take_succ_cons]
          exact List.forall_mem_cons.mpr ⟨exists_yields_atIndex_iff.mp ⟨c, d, hc⟩, earlier⟩
        · rw [hc.path_eq keeps, Nat.add_right_comm, Nat.add_assoc]
    · rintro ⟨j, u, p, item, earlier, bad, rfl⟩
      cases j with
      | zero =>
        cases item
        exact .inl ((first _ _ cause).mpr ⟨p, bad, by simp⟩)
      | succ j =>
        rw [List.take_succ_cons] at earlier
        obtain ⟨denoted, earlier⟩ := List.forall_mem_cons.mp earlier
        obtain ⟨c, d, hc⟩ := exists_yields_atIndex_iff.mpr denoted
        rw [← hc.source_eq keeps] at earlier bad
        refine .inr ⟨c, d, hc, (others d _ cause).mpr ⟨j, u, p, item, earlier, bad, ?_⟩⟩
        rw [hc.path_eq keeps, Nat.add_right_comm, Nat.add_assoc]
  case child =>
    intro parent v ih b path cause
    cases shape : isNodeShaped v with
    | true =>
      rw [stops_readChild_iff shape, ih shape b path cause]
      simp only [childFaultAt_node_iff shape]
    | false =>
      rw [readChild, if_neg (by simp [shape]), stops_readScalar_iff shape]
      simp only [childFaultAt_scalar_iff shape]
      constructor
      · rintro ⟨bad, rfl⟩
        exact ⟨[], ⟨bad, rfl⟩, (List.append_nil _).symm⟩
      · rintro ⟨p, ⟨bad, rfl⟩, rfl⟩
        exact ⟨bad, List.append_nil _⟩

/-! ### The wording of a fault -/

/-- A location is `root` and each index behind a point. -/
theorem location_eq (path : List Nat) :
    location path = "root" ++ String.join (path.map fun i => "." ++ toString i) := by
  have behind : ∀ text : String, path.foldl (fun text i => text ++ "." ++ toString i) text =
      text ++ String.join (path.map fun i => "." ++ toString i) := by
    induction path with
    | nil => simp
    | cons i path ih =>
      intro text
      rw [List.foldl_cons, ih, List.map_cons, String.join_cons]
      simp only [String.append_assoc]
  exact behind "root"

/-- A fault says the same about every place. -/
theorem exists_wording (cause : Cause) : ∃ before after, ∀ path,
    Fault.message ⟨path, cause⟩ = before ++ location path ++ after := by
  have malformed : ∀ text : String, ∃ before after, ∀ path,
      "malformed node at " ++ location path ++ ": " ++ text = before ++ location path ++ after :=
    fun text => ⟨"malformed node at ", ": " ++ text, fun path => by rw [String.append_assoc]⟩
  cases cause with
  | unknownTag tag =>
    exact ⟨"unknown node type `" ++ tag ++ "` at ", "", fun path => String.append_empty.symm⟩
  | noSource => exact ⟨"node at ", " has a range but no source was supplied", fun path => rfl⟩
  | rangeOutside start stop =>
    exact ⟨"range " ++ toString start ++ ".." ++ toString stop ++ " at ",
      " does not fit the source", fun path => rfl⟩
  | _ => exact malformed _

/-- **A reading reports the first value that is wrong, at its place.** It fails at a path and for a
cause exactly when it comes to a value along that path, and something is wrong with that value for
that cause: on the way there every value is a node that passes its own checks of tag, children and
range, and every item in front of the way denotes a child. The wording of a fault depends on its
path only through the place that it names, which is `root` with a point and an index for each
step. -/
theorem build_fails_iff (v : Json) (source : Option Buffer) (forest : Forest) (cause : Cause) :
    (∀ path, (build v source forest).1 = .error ⟨path, cause⟩ ↔
      ∃ w, Reaches source v path w ∧
        if path = [] then NodeFault source w cause else ChildFault source w cause) ∧
    ∃ before after, ∀ path, Fault.message ⟨path, cause⟩ =
      before ++ ("root" ++ String.join (path.map fun i => "." ++ toString i)) ++ after := by
  constructor
  · intro path
    have stops := readers_stop.1 v ⟨source, [], forest, []⟩ path cause
    simp only [List.reverse_nil, List.nil_append, exists_eq_right'] at stops
    exact stops
  · simp only [← location_eq]
    exact exists_wording cause

end RubyTree.Document
