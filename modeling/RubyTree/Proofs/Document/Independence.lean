/-
What a reading depends on.

Two readings of one value are compared step by step. A `View` says what is looked at of a tree; a
`Comparison` adds the sources of the two readings, and the causes of faults that are excused: one of
the readings may end in such a fault while the other goes on. `Agree c look x y` says that the steps
`x` and `y`, begun with these sources at the same place, end in values that look alike, in the same
fault, or one of them in an excused fault.

Every reader agrees with itself in this way as soon as the spans do that it reads on its way
(`readers_agree`). So with one source, what is read, and which fault is met where, does not depend
on the nodes that were built before (`build_agree`).
-/

import RubyTree.Proofs.Document.FirstFault

namespace RubyTree.Document

/-- What is looked at of a tree: something of each span, and of each child something that does not
depend on identities. -/
structure View (σ τ : Type) where
  span : Option Span → σ
  child : Child → τ
  /-- Nodes look alike when they have the same type and their children and spans look alike. -/
  child_node : ∀ {id id' : Nat} {type : NodeType} {cs cs' : List Child} {s s' : Option Span},
    cs.map child = cs'.map child → span s = span s' →
      child (.node (.mk id type cs s)) = child (.node (.mk id' type cs' s'))

/-- Two readings that are compared: their sources, what is looked at, and the causes that excuse
either of them. -/
structure Comparison (σ τ : Type) extends View σ τ where
  left : Option Buffer
  right : Option Buffer
  excused : Cause → Prop

section Agree

variable {σ τ α β γ δ : Type} {c : Comparison σ τ} {look : α → γ} {look' : β → δ}

/-- Two results that may stand side by side. -/
inductive Comparison.Beside (c : Comparison σ τ) (look : α → γ) :
    Except Fault α → Except Fault α → Prop where
  | values {a a' : α} (h : look a = look a') : c.Beside look (.ok a) (.ok a')
  | fault (e : Fault) : c.Beside look (.error e) (.error e)
  | excusedLeft {e : Fault} (h : c.excused e.cause) (r : Except Fault α) :
      c.Beside look (.error e) r
  | excusedRight {e : Fault} (h : c.excused e.cause) (r : Except Fault α) :
      c.Beside look r (.error e)

/-- Where nothing is excused, results side by side look the same. -/
theorem Comparison.Beside.map_eq {r r' : Except Fault α} (h : c.Beside look r r')
    (strict : ∀ cause, ¬ c.excused cause) : r.map look = r'.map look := by
  cases h with
  | values h => exact congrArg Except.ok h
  | fault e => rfl
  | excusedLeft h => exact absurd h (strict _)
  | excusedRight h => exact absurd h (strict _)

/-- Two steps, begun with the sources of a comparison at the same place, end side by side. -/
def Agree (c : Comparison σ τ) (look : α → γ) (x y : Build α) : Prop :=
  ∀ b b' : Builder, b.source = c.left → b'.source = c.right → b.path = b'.path →
    c.Beside look (outcome x b).1 (outcome y b').1

/-- Steps agree when their first parts do and what follows agrees for values that look alike. Of the
value on the left it may be used that it was read with the source on the left. -/
theorem Agree.bind {x y : Build α} {f g : α → Build β} (hx : Agree c look x y) (kx : Keeps x)
    (ky : Keeps y) (hf : ∀ a a', (∃ b d, b.source = c.left ∧ Yields x b a d) →
      look a = look a' → Agree c look' (f a) (g a')) :
    Agree c look' (x >>= f) (y >>= g) := by
  intro b b' left right path
  have results := hx b b' left right path
  have keptLeft := kx b
  have keptRight := ky b'
  rw [outcome_bind, outcome_bind]
  rcases hp : outcome x b with ⟨e | a, d⟩ <;> rcases hq : outcome y b' with ⟨e' | a', d'⟩ <;>
    rw [hp, hq] at results <;> rw [hp] at keptLeft <;> rw [hq] at keptRight
  · cases results with
    | fault => exact .fault e
    | excusedLeft h => exact .excusedLeft h _
    | excusedRight h => exact .excusedRight h _
  · cases results with
    | excusedLeft h => exact .excusedLeft h _
  · cases results with
    | excusedRight h => exact .excusedRight h _
  · cases results with
    | values same =>
      -- the second steps begin where the first ones end, with the source and place unchanged
      refine hf a a' ⟨b, d, left, hp⟩ same d d' ?_ ?_ ?_
      · exact keptLeft.1.trans left
      · exact keptRight.1.trans right
      · exact keptLeft.2.trans (path.trans keptRight.2.symm)

theorem agree_pure {a a' : α} (h : look a = look a') : Agree c look (pure a) (pure a') :=
  fun _ _ _ _ _ => .values h

theorem agree_fail (cause : Cause) : Agree c look (fail cause) (fail cause) := by
  intro b b' _ _ path
  have same : (⟨b.path.reverse, cause⟩ : Fault) = ⟨b'.path.reverse, cause⟩ := by rw [path]
  show c.Beside look (.error ⟨b.path.reverse, cause⟩) (.error ⟨b'.path.reverse, cause⟩)
  rw [same]
  exact .fault _

theorem Agree.atIndex {x y : Build α} (h : Agree c look x y) (i : Nat) :
    Agree c look (atIndex i x) (atIndex i y) :=
  fun _ _ left right path => h _ _ left right (congrArg (i :: ·) path)

/-- Two constructions from children and spans that look alike give nodes that look alike. -/
theorem agree_construct (type : NodeType) {cs cs' : List Child} {s s' : Option Span}
    (children : cs.map c.child = cs'.map c.child) (span : c.span s = c.span s') :
    Agree c (fun n => c.child (.node n)) (construct type cs s) (construct type cs' s') :=
  fun _ _ _ _ _ => .values (c.child_node children span)

theorem agree_readTag (v : Json) : Agree c id (readTag v) (readTag v) := by
  unfold readTag
  split
  · split
    · exact agree_pure rfl
    · exact agree_fail _
  · exact agree_fail _

theorem agree_checkChildren (members : List (String × Json)) :
    Agree c id (checkChildren members) (checkChildren members) := by
  unfold checkChildren
  split
  case h_4 => exact agree_fail _
  all_goals exact agree_pure rfl

/-- Scalars do not depend on the source. -/
theorem agree_readScalar (parent : NodeType) (v : Json) :
    Agree c c.child (readScalar parent v) (readScalar parent v) := by
  unfold readScalar
  split
  case h_5 => exact agree_fail _
  case h_6 =>
    split
    · exact agree_pure rfl
    · exact agree_pure rfl
    · exact agree_fail _
  all_goals exact agree_pure rfl

end Agree

/-! ### Trees -/

section Trees

variable {σ τ : Type}

/-- The spans agree that are read from the objects which the reading on the left comes to. -/
def Comparison.SpansAgree (c : Comparison σ τ) (v : Json) : Prop :=
  ∀ path members, Reaches c.left v path (.obj members) →
    (members.lookup "type").isSome = true → Agree c c.span (readSpan members) (readSpan members)

/-- The checks of a node agree when its spans do. -/
theorem agree_readHead {c : Comparison σ τ} {v : Json} (spans : c.SpansAgree v) :
    Agree c (fun head => (head.1, c.span head.2)) (readHead v) (readHead v) := by
  unfold readHead
  split
  · exact agree_fail _
  · refine (agree_readTag _).bind (idle_readTag _).keeps (idle_readTag _).keeps
      fun type type' _ same => ?_
    exact agree_pure (congrArg (·, _) same)
  · split
    · exact agree_fail _
    · rename_i members _ tag present
      have typed : (members.lookup "type").isSome = true := by rw [present]; rfl
      refine (agree_readTag _).bind (idle_readTag _).keeps (idle_readTag _).keeps
        fun type type' _ same => ?_
      refine (agree_checkChildren members).bind (idle_checkChildren _).keeps
        (idle_checkChildren _).keeps fun _ _ _ _ => ?_
      refine (spans [] members (.here _) typed).bind (idle_readSpan _).keeps
        (idle_readSpan _).keeps fun span span' _ same' => ?_
      exact agree_pure (Prod.ext same same')
  · exact agree_fail _

/-- Readers agree with themselves when the spans agree that they read on their way. -/
theorem readers_agree (c : Comparison σ τ) :
    (∀ v, c.SpansAgree v → Agree c (fun n => c.child (.node n)) (readNode v) (readNode v)) ∧
      (∀ parent i vs, (∀ j u, vs[j]? = some u →
          (∀ x ∈ vs.take j, ∃ t, DenotesChild c.left parent x t) → c.SpansAgree u) →
        Agree c (List.map c.child) (readChildren parent i vs) (readChildren parent i vs)) ∧
      (∀ parent v, c.SpansAgree v →
        Agree c c.child (readChild parent v) (readChild parent v)) := by
  obtain ⟨keepsNode, keepsChildren, keepsChild⟩ := keeps_readers
  refine ReadingCases.all ⟨?node, ?nil, ?cons, ?child⟩
  case node =>
    intro v ih spans
    rw [readNode]
    refine (agree_readHead spans).bind (idle_readHead v).keeps (idle_readHead v).keeps
      fun head head' read same => ?_
    obtain ⟨type, span⟩ := head
    obtain ⟨type', span'⟩ := head'
    obtain ⟨rfl, spanSame⟩ := Prod.mk.inj same
    -- below a head that was read, the reading comes to the items in turn
    obtain ⟨b, d, left, hhead⟩ := read
    obtain ⟨⟨items, head⟩, -⟩ := yields_readHead_iff.mp hhead
    rw [left] at head
    refine (ih type fun j u item earlier path members way => ?_).bind (keepsChildren _ _ _)
      (keepsChildren _ _ _) fun cs cs' _ children => agree_construct type children spanSame
    rw [head.slots_eq] at item earlier
    exact spans (j :: path) members (.step head item earlier way)
  case nil =>
    intro parent i _
    rw [readChildren]
    exact agree_pure rfl
  case cons =>
    intro parent i v rest first others spans
    have keeps := (keepsChild parent v).atIndex i
    rw [readChildren]
    have head := (first (spans 0 v rfl (List.forall_mem_nil _))).atIndex i
    refine head.bind keeps keeps fun a a' read same => ?_
    obtain ⟨b, d, left, hc⟩ := read
    have denoted := exists_yields_atIndex_iff.mp ⟨a, d, hc⟩
    rw [left] at denoted
    refine (others fun j u item earlier => spans (j + 1) u item ?_).bind (keepsChildren _ _ _)
      (keepsChildren _ _ _) fun cs cs' _ children => agree_pure ?_
    · rw [List.take_succ_cons]
      exact List.forall_mem_cons.mpr ⟨denoted, earlier⟩
    · rw [List.map_cons, List.map_cons, same, children]
  case child =>
    intro parent v ih spans
    rw [readChild]
    split
    · rename_i shaped
      exact (ih shaped spans).bind (keepsNode v) (keepsNode v) fun n n' _ same => agree_pure same
    · exact agree_readScalar parent v

/-- Two readings of a value end side by side, whatever was built before either of them. -/
theorem Comparison.build_beside (c : Comparison σ τ) {v : Json} (spans : c.SpansAgree v)
    (forest forest' : Forest) :
    c.Beside (fun n => c.child (.node n)) (build v c.left forest).1
      (build v c.right forest').1 :=
  (readers_agree c).1 v spans ⟨c.left, [], forest, []⟩ ⟨c.right, [], forest', []⟩ rfl rfl rfl

end Trees

/-! ### Plain trees -/

/-- Everything but the identities. -/
def View.plain : View (Option Span) Plain where
  span := id
  child := Child.plain
  child_node {_ _ _ _ _ s s'} children span := by
    have whole : s = s' := span
    rw [← Child.plains_eq_map, ← Child.plains_eq_map] at children
    rw [Child.plain, Child.plain, Node.plain, Node.plain, children, whole]

/-- The comparison of plain trees, which excuses nothing. -/
def Comparison.strict (left right : Option Buffer) : Comparison (Option Span) Plain where
  toView := .plain
  left := left
  right := right
  excused _ := False

/-- Two readings whose spans agree give the same plain tree or the same fault. -/
theorem map_plain_build_eq {v : Json} {left right : Option Buffer}
    (spans : (Comparison.strict left right).SpansAgree v) (forest forest' : Forest) :
    (build v left forest).1.map Node.plain = (build v right forest').1.map Node.plain :=
  ((Comparison.strict left right).build_beside spans forest forest').map_eq fun _ => id

/-- With one source, a range is read in the same way. -/
theorem agree_readSpan (source : Option Buffer) (members : List (String × Json)) :
    Agree (.strict source source) id (readSpan members) (readSpan members) := by
  have agree_get : Agree (.strict source source) Builder.source get get :=
    fun _ _ left right _ => .values (left.trans right.symm)
  unfold readSpan
  split
  · exact agree_pure rfl
  · split
    · exact agree_fail _
    · rename_i start stop _
      refine agree_get.bind idle_get.keeps idle_get.keeps fun b b' _ same => ?_
      rw [same]
      cases b'.source with
      | none => exact agree_fail _
      | some buffer =>
        cases h : Span.of? buffer start stop with
        | none => simpa only [h] using agree_fail _
        | some span => simpa only [h] using agree_pure rfl

/-- With one source, a value is read as the same plain tree or with the same fault, whatever was
built before. -/
theorem build_agree (v : Json) (source : Option Buffer) (forest forest' : Forest) :
    (build v source forest).1.map Node.plain = (build v source forest').1.map Node.plain :=
  map_plain_build_eq (fun _ members _ _ => agree_readSpan source members) forest forest'

end RubyTree.Document
