/-
What the source decides.

A value that is read with two sources is compared with itself. The source can only turn a range into
a span or into a fault of its own (`Cause.blamesSource`), so two trees that are read have the same
types, scalars and byte ranges everywhere (`Node.face`), and any other fault is met with both
sources, unless a range stops one of the readings earlier. Where the reading comes to no range, the
source decides nothing.
-/

import RubyTree.Proofs.Document.Independence
import RubyTree.Proofs.Node.Descent

namespace RubyTree

/-! ### Faces -/

/-- A child that is a scalar, and nothing for a node. -/
def Child.scalar? : Child → Option Child
  | .node _ => none
  | c => some c

/-- What a node has of its own: its type, the scalars at their positions and its byte range. -/
structure Face where
  type : NodeType
  scalars : List (Option Child)
  range : Option (Nat × Nat)

def Span.range (s : Span) : Nat × Nat :=
  (s.start, s.stop)

def Node.face (n : Node) : Face :=
  ⟨n.type, n.children.map Child.scalar?, n.span.map Span.range⟩

/-- A child by its scalar and by the faces of the nodes at and below it. -/
def Child.faces (c : Child) : Option Child × (List Nat → Option Face) :=
  (c.scalar?, fun path => (c.node?.bind fun n => n.atPath? path).map Node.face)

namespace Document

/-- The faces of all nodes, at their paths. -/
def View.faces : View (Option (Nat × Nat)) (Option Child × (List Nat → Option Face)) where
  span s := s.map Span.range
  child := Child.faces
  child_node {id id' type cs cs' s s'} children span := by
    have scalars : cs.map Child.scalar? = cs'.map Child.scalar? := by
      have firsts := congrArg (List.map Prod.fst) children
      rwa [List.map_map, List.map_map] at firsts
    refine Prod.ext rfl (funext fun path => ?_)
    cases path with
    | nil =>
      show some (Face.mk type (cs.map Child.scalar?) (s.map Span.range)) =
        some (Face.mk type (cs'.map Child.scalar?) (s'.map Span.range))
      rw [scalars, span]
    | cons i path =>
      have item : cs[i]?.map Child.faces = cs'[i]?.map Child.faces := by
        rw [← List.getElem?_map, ← List.getElem?_map, children]
      show (Node.atPath? (.mk id type cs s) (i :: path)).map Node.face =
        (Node.atPath? (.mk id' type cs' s') (i :: path)).map Node.face
      rw [Node.atPath?_cons, Node.atPath?_cons]
      cases hc : cs[i]? with
      | none =>
        cases hc' : cs'[i]? with
        | none => simp only [Node.children, hc, hc', Option.bind_none]
        | some c' => rw [hc, hc'] at item; cases item
      | some c =>
        cases hc' : cs'[i]? with
        | none => rw [hc, hc'] at item; cases item
        | some c' =>
          rw [hc, hc'] at item
          simp only [Node.children, hc, hc', Option.bind_some]
          exact congrFun (congrArg Prod.snd (Option.some.inj item)) path

/-! ### Two sources -/

/-- Whether a cause is about the source: it is missing, or a range does not fit it. -/
def Cause.blamesSource : Cause → Bool
  | .noSource | .rangeOutside _ _ => true
  | _ => false

/-- The comparison of readings with two sources, which excuses the faults about the source. -/
def Comparison.twoSources (left right : Option Buffer) :
    Comparison (Option (Nat × Nat)) (Option Child × (List Nat → Option Face)) where
  toView := .faces
  left := left
  right := right
  excused cause := cause.blamesSource = true

/-- A pair of words is read as the span between them or as a fault about the source. -/
theorem readSpan_of_words {members : List (String × Json)} {start stop : Nat}
    (present : members.lookup "range" = some (.arr [.num (.int start), .num (.int stop)]))
    (words : start < 2 ^ 64 ∧ stop < 2 ^ 64) (b : Builder) :
    (∃ span : Span, Yields (readSpan members) b (some span) b ∧ span.range = (start, stop)) ∨
      ∃ fault, Stops (readSpan members) b fault ∧ fault.cause.blamesSource = true := by
  cases hs : b.source with
  | none =>
    exact .inr ⟨_, stops_readSpan_iff.mpr ⟨.noSource present words hs, rfl⟩, rfl⟩
  | some buffer =>
    cases hspan : Span.of? buffer start stop with
    | none =>
      have misfit := of?_eq_none_iff.mp hspan
      exact .inr ⟨_, stops_readSpan_iff.mpr ⟨.outside present words hs misfit, rfl⟩, rfl⟩
    | some span =>
      obtain ⟨rfl, rfl, rfl⟩ := of?_eq_some_iff.mp hspan
      obtain ⟨order, inside, first, last⟩ := Text.isSome_cut?_iff.mp span.fits
      refine .inl ⟨span, yields_readSpan_iff.mpr ⟨?_, rfl⟩, rfl⟩
      exact .range hs present words order inside first last

/-- A range is read with both sources as a span with the same bounds, or does not fit one of
them. -/
theorem agree_readSpan_twoSources (left right : Option Buffer) (members : List (String × Json)) :
    Agree (.twoSources left right) (Option.map Span.range) (readSpan members)
      (readSpan members) := by
  cases present : members.lookup "range" with
  | none =>
    unfold readSpan
    rw [present]
    exact agree_pure rfl
  | some range =>
    cases hr : bounds? range with
    | none =>
      unfold readSpan
      simp only [present, hr]
      exact agree_fail _
    | some bounds =>
      obtain ⟨rfl, words⟩ := bounds?_eq_some_iff.mp hr
      intro b b' _ _ _
      rcases readSpan_of_words present words b with ⟨span, read, range⟩ | ⟨fault, stop, excuse⟩
      · rcases readSpan_of_words present words b' with
          ⟨span', read', range'⟩ | ⟨fault, stop, excuse⟩
        · rw [read, read']
          exact .values (congrArg some (range.trans range'.symm))
        · rw [stop]
          exact .excusedRight excuse _
      · rw [stop]
        exact .excusedLeft excuse _

/-- Without a range, nothing is read from the source. -/
theorem agree_readSpan_absent (left right : Option Buffer) {members : List (String × Json)}
    (h : members.lookup "range" = none) :
    Agree (.strict left right) id (readSpan members) (readSpan members) := by
  unfold readSpan
  rw [h]
  exact agree_pure rfl

/-- **The source decides spans and faults about ranges, and nothing else.** When a value is read
with two sources, the trees have the same types, scalars and byte ranges at every path. A fault that
is not about the source is met with the other source as well, unless that one ends in a fault about
the source. And when no object that is read as a node has a range, the results are the same. -/
theorem build_sources (v : Json) (left right : Option Buffer) (forest forest' : Forest) :
    (∀ n n', (build v left forest).1 = .ok n → (build v right forest').1 = .ok n' →
      ∀ path, (n.atPath? path).map Node.face = (n'.atPath? path).map Node.face) ∧
    (∀ fault, (build v left forest).1 = .error fault → fault.cause.blamesSource = false →
      ∃ fault', (build v right forest').1 = .error fault' ∧
        (fault' = fault ∨ fault'.cause.blamesSource = true)) ∧
    ((∀ path members, Reaches left v path (.obj members) →
        (members.lookup "type").isSome = true → members.lookup "range" = none) →
      (build v left forest).1.map Node.plain = (build v right forest').1.map Node.plain) := by
  have beside := (Comparison.twoSources left right).build_beside (v := v)
    (fun _ members _ _ => agree_readSpan_twoSources left right members) forest forest'
  simp only [Comparison.twoSources] at beside
  refine ⟨?_, ?_, ?_⟩
  · intro n n' hn hn' path
    rw [hn, hn'] at beside
    cases beside with
    | values same => exact congrFun (congrArg Prod.snd same) path
  · intro fault hf own
    rw [hf] at beside
    generalize (build v right forest').1 = result at beside
    cases beside with
    | fault => exact ⟨fault, rfl, .inl rfl⟩
    | excusedLeft excuse => exact absurd (own.symm.trans excuse) nofun
    | @excusedRight fault' excuse => exact ⟨fault', rfl, .inr excuse⟩
  · intro free
    exact map_plain_build_eq (fun path members way typed =>
      agree_readSpan_absent left right (free path members way typed)) forest forest'

end Document

end RubyTree
