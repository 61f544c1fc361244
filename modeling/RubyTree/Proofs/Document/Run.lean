/-
Runs of the builder.

`outcome` runs a step in a state. `Yields x b a b'` says that the step `x`, begun in the state `b`,
succeeds with `a` in the state `b'`. A step made of others yields what they yield one after the
other, so a reader is described by the lemmas of its parts and is never unfolded down to its state.

`ReadingCases` is the recursion of the readers, stated once. `Idle x` says that the step changes
nothing, however it ends, as the checks of a node do. `Keeps x` says that it leaves the source and
the place as they were; every reader does (`keeps_readers`), because `atIndex` comes back even from
a fault.
-/

import RubyTree.Document.Builder

namespace RubyTree.Document

/-- The result of a step and the state behind it. -/
def outcome {α : Type} (x : Build α) (b : Builder) : Except Fault α × Builder :=
  x.run.run b

/-- A step succeeds with a value and leaves a state. -/
def Yields {α : Type} (x : Build α) (b : Builder) (a : α) (b' : Builder) : Prop :=
  outcome x b = (.ok a, b')

section Yields

variable {α β : Type} {b b' : Builder}

/-- Two steps run one after the other, the second when the first succeeds. -/
theorem outcome_bind (x : Build α) (f : α → Build β) (b : Builder) :
    outcome (x >>= f) b = match outcome x b with
      | (.ok a, c) => outcome (f a) c
      | (.error e, c) => (.error e, c) := by
  show (ExceptT.bindCont f (outcome x b).1 : StateM Builder (Except Fault β)).run
    (outcome x b).2 = _
  rcases outcome x b with ⟨e | a, c⟩ <;> rfl

/-- Two steps succeed when the second one does behind the first. -/
theorem yields_bind_iff {x : Build α} {f : α → Build β} {r : β} :
    Yields (x >>= f) b r b' ↔ ∃ a c, Yields x b a c ∧ Yields (f a) c r b' := by
  unfold Yields
  rw [outcome_bind]
  rcases outcome x b with ⟨e | a, c⟩
  · simp
  · simp only [Prod.mk.injEq, Except.ok.injEq]
    constructor
    · intro h
      exact ⟨a, c, ⟨rfl, rfl⟩, h⟩
    · rintro ⟨_, _, ⟨rfl, rfl⟩, h⟩
      exact h

theorem Yields.outcome_bind {x : Build α} {a : α} (h : Yields x b a b') (f : α → Build β) :
    outcome (x >>= f) b = outcome (f a) b' := by
  rw [Document.outcome_bind, h]

/-- A step has one result at most. -/
theorem Yields.unique {x : Build α} {a a' : α} {c : Builder} (h : Yields x b a b')
    (h' : Yields x b a' c) : a = a' := by
  cases h.symm.trans h'
  rfl

theorem outcome_atIndex (i : Nat) (x : Build α) (b : Builder) :
    outcome (atIndex i x) b =
      let p := outcome x { b with path := i :: b.path }
      (p.1, { p.2 with path := p.2.path.tail }) := rfl

/-- A step at a child succeeds when it does at the place of the child, which is left then. -/
theorem yields_atIndex_iff {i : Nat} {x : Build α} {r : α} :
    Yields (atIndex i x) b r b' ↔
      ∃ c, Yields x { b with path := i :: b.path } r c ∧ b' = { c with path := c.path.tail } := by
  unfold Yields
  rw [outcome_atIndex]
  rcases outcome x { b with path := i :: b.path } with ⟨e | a, c⟩
  · simp
  · simp only [Prod.mk.injEq, Except.ok.injEq]
    constructor
    · rintro ⟨ha, hb⟩
      exact ⟨c, ⟨ha, rfl⟩, hb.symm⟩
    · rintro ⟨_, ⟨ha, rfl⟩, hb⟩
      exact ⟨ha, hb.symm⟩

theorem yields_pure_iff {a r : α} : Yields (pure a) b r b' ↔ r = a ∧ b' = b := by
  have run : outcome (pure a) b = (.ok a, b) := rfl
  unfold Yields
  rw [run]
  simp [eq_comm]

theorem yields_get_iff {r : Builder} : Yields get b r b' ↔ r = b ∧ b' = b := by
  have run : outcome get b = (.ok b, b) := rfl
  unfold Yields
  rw [run]
  simp [eq_comm]

theorem not_yields_fail {cause : Cause} {r : α} : ¬ Yields (fail cause) b r b' := by
  intro h
  cases h

/-- Construction always succeeds, and takes note of the type and the number of children. -/
theorem yields_construct_iff {type : NodeType} {children : List Child} {span : Option Span}
    {n : Node} :
    Yields (construct type children span) b n b' ↔
      n = (b.forest.construct type children span).1 ∧
        b' = { b with
          forest := (b.forest.construct type children span).2
          built := (type, children.length) :: b.built } := by
  have run : outcome (construct type children span) b =
      (.ok (b.forest.construct type children span).1, { b with
        forest := (b.forest.construct type children span).2
        built := (type, children.length) :: b.built }) := rfl
  unfold Yields
  rw [run]
  simp [eq_comm]

end Yields

/-! ### Induction along the reading -/

/-- The cases of an induction along the reading: from the slots of a value to the value, from the
first of a list of values and the others to the list, and from a value that is written as a node to
the child. -/
structure ReadingCases (P : Json → Prop) (Q : NodeType → Nat → List Json → Prop)
    (R : NodeType → Json → Prop) : Prop where
  node : ∀ v, (∀ type, Q type 0 (slots v)) → P v
  nil : ∀ parent i, Q parent i []
  cons : ∀ parent i v rest, R parent v → Q parent (i + 1) rest → Q parent i (v :: rest)
  child : ∀ parent v, (isNodeShaped v = true → P v) → R parent v

namespace ReadingCases

variable {P : Json → Prop} {Q : NodeType → Nat → List Json → Prop} {R : NodeType → Json → Prop}

mutual

/-- What the cases show holds of every value. -/
theorem atNode (cases : ReadingCases P Q R) (v : Json) : P v :=
  cases.node v fun type => cases.atChildren type 0 (slots v)
termination_by (sizeOf v, 1)
decreasing_by
  rcases Nat.lt_or_eq_of_le (sizeOf_slots_le v) with h | h
  · exact Prod.Lex.left _ _ h
  · rw [h]
    exact Prod.Lex.right _ Nat.zero_lt_one

theorem atChildren (cases : ReadingCases P Q R) (parent : NodeType) (i : Nat) (vs : List Json) :
    Q parent i vs :=
  match vs with
  | [] => cases.nil parent i
  | v :: rest =>
    cases.cons parent i v rest (cases.atChild parent v) (cases.atChildren parent (i + 1) rest)
termination_by (sizeOf vs, 0)

theorem atChild (cases : ReadingCases P Q R) (parent : NodeType) (v : Json) : R parent v :=
  cases.child parent v fun _ => cases.atNode v
termination_by (sizeOf v, 2)

end

/-- Induction along the reading. -/
theorem all (cases : ReadingCases P Q R) :
    (∀ v, P v) ∧ (∀ parent i vs, Q parent i vs) ∧ (∀ parent v, R parent v) :=
  ⟨cases.atNode, cases.atChildren, cases.atChild⟩

end ReadingCases

/-! ### Steps that change nothing -/

/-- A step leaves the state as it was, also when it fails. -/
def Idle {α : Type} (x : Build α) : Prop :=
  ∀ b, (outcome x b).2 = b

section Idle

variable {α β : Type}

theorem Idle.bind {x : Build α} {f : α → Build β} (hx : Idle x) (hf : ∀ a, Idle (f a)) :
    Idle (x >>= f) := by
  intro b
  have first := hx b
  rw [outcome_bind]
  rcases hr : outcome x b with ⟨e | a, c⟩ <;> rw [hr] at first
  · exact first
  · exact (hf a c).trans first

theorem idle_pure (a : α) : Idle (pure a) :=
  fun _ => rfl

theorem idle_fail (cause : Cause) : Idle (fail cause : Build α) :=
  fun _ => rfl

theorem idle_get : Idle get :=
  fun _ => rfl

theorem idle_readTag (v : Json) : Idle (readTag v) := by
  unfold readTag
  split
  · split
    · exact idle_pure _
    · exact idle_fail _
  · exact idle_fail _

theorem idle_checkChildren (members : List (String × Json)) : Idle (checkChildren members) := by
  unfold checkChildren
  split
  case h_4 => exact idle_fail _
  all_goals exact idle_pure _

theorem idle_readSpan (members : List (String × Json)) : Idle (readSpan members) := by
  unfold readSpan
  split
  · exact idle_pure _
  · split
    · exact idle_fail _
    · refine idle_get.bind fun b => ?_
      split
      · exact idle_fail _
      · split
        · exact idle_fail _
        · exact idle_pure _

/-- A node's own checks change nothing. -/
theorem idle_readHead (v : Json) : Idle (readHead v) := by
  unfold readHead
  split
  · exact idle_fail _
  · exact (idle_readTag _).bind fun _ => idle_pure _
  · split
    · exact idle_fail _
    · exact (idle_readTag _).bind fun _ => (idle_checkChildren _).bind fun _ =>
        (idle_readSpan _).bind fun _ => idle_pure _
  · exact idle_fail _

theorem idle_readScalar (parent : NodeType) (v : Json) : Idle (readScalar parent v) := by
  unfold readScalar
  split
  case h_5 => exact idle_fail _
  case h_6 =>
    split
    · exact idle_pure _
    · exact idle_pure _
    · exact idle_fail _
  all_goals exact idle_pure _

end Idle

/-! ### The source and the place -/

/-- A step leaves the source and the place as they were, also when it fails. -/
def Keeps {α : Type} (x : Build α) : Prop :=
  ∀ b, (outcome x b).2.source = b.source ∧ (outcome x b).2.path = b.path

section Keeps

variable {α β : Type}

/-- A step that leaves the whole state leaves the source and the place. -/
theorem Idle.keeps {x : Build α} (hx : Idle x) : Keeps x :=
  fun b => ⟨congrArg Builder.source (hx b), congrArg Builder.path (hx b)⟩

theorem Keeps.bind {x : Build α} {f : α → Build β} (hx : Keeps x) (hf : ∀ a, Keeps (f a)) :
    Keeps (x >>= f) := by
  intro b
  have first := hx b
  rw [outcome_bind]
  rcases hr : outcome x b with ⟨e | a, c⟩ <;> rw [hr] at first
  · exact first
  · have second := hf a c
    exact ⟨second.1.trans first.1, second.2.trans first.2⟩

theorem keeps_construct (type : NodeType) (children : List Child) (span : Option Span) :
    Keeps (construct type children span) :=
  fun _ => ⟨rfl, rfl⟩

/-- A step at a child comes back to the place where it began. -/
theorem Keeps.atIndex {x : Build α} (hx : Keeps x) (i : Nat) : Keeps (atIndex i x) := by
  intro b
  obtain ⟨source, path⟩ := hx { b with path := i :: b.path }
  rw [outcome_atIndex]
  exact ⟨source, congrArg List.tail path⟩

/-- Readers keep the source and the place, on success and on every fault. -/
theorem keeps_readers :
    (∀ v, Keeps (readNode v)) ∧
      (∀ parent i vs, Keeps (readChildren parent i vs)) ∧
        (∀ parent v, Keeps (readChild parent v)) := by
  refine ReadingCases.all ⟨?node, ?nil, ?cons, ?child⟩
  case node =>
    intro v ih
    rw [readNode]
    exact (idle_readHead v).keeps.bind fun head => (ih head.1).bind fun _ => keeps_construct _ _ _
  case nil =>
    intro parent i
    rw [readChildren]
    exact (idle_pure _).keeps
  case cons =>
    intro parent i v rest first others
    rw [readChildren]
    exact (first.atIndex i).bind fun _ => others.bind fun _ => (idle_pure _).keeps
  case child =>
    intro parent v ih
    rw [readChild]
    split
    · rename_i shaped
      exact (ih shaped).bind fun _ => (idle_pure _).keeps
    · exact (idle_readScalar parent v).keeps

end Keeps

theorem Yields.source_eq {α : Type} {x : Build α} {b b' : Builder} {a : α} (h : Yields x b a b')
    (hx : Keeps x) : b'.source = b.source := by
  have := (hx b).1
  rw [h] at this
  exact this

theorem Yields.path_eq {α : Type} {x : Build α} {b b' : Builder} {a : α} (h : Yields x b a b')
    (hx : Keeps x) : b'.path = b.path := by
  have := (hx b).2
  rw [h] at this
  exact this

end RubyTree.Document
