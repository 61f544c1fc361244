/-
The source texts of nodes.

`Text.IsSlice text start stop mid` says that the text is divided into whole characters before
`start`, between the two offsets and behind `stop`, counted in UTF-8 bytes, and that `mid` stands in
the middle.

* `Span.exists_of?_iff_slice`, `Span.source_eq_iff` — a range has a span exactly when there is such
  a division, and the text of the span is its middle part.
* `Document.DenotesNode.source?_iff` — a node has a source text exactly when the value that it was
  read from has a range, and then the text is the slice of the source that the range says.

The checks of a range are those that make the slice exist, so nothing is left to fail later.
-/

import RubyTree.Proofs.Document.Descent

namespace RubyTree

/-! ### Slices -/

/-- The part of a text between two offsets in UTF-8 bytes, both of them between characters. -/
def Text.IsSlice (text : String) (start stop : Nat) (mid : String) : Prop :=
  ∃ pre post : String, text = pre ++ mid ++ post ∧
    pre.utf8ByteSize = start ∧ (pre ++ mid).utf8ByteSize = stop

namespace Span

variable {buffer : Buffer} {start stop : Nat}

theorem cut?_eq_source (span : Span) :
    Text.cut? span.buffer.text span.start span.stop = some span.source :=
  (Option.some_get span.fits).symm

/-- The text of a span is the slice between its offsets. -/
theorem source_eq_iff {span : Span} {mid : String} :
    span.source = mid ↔ Text.IsSlice span.buffer.text span.start span.stop mid := by
  rw [Text.IsSlice, ← Text.cut?_eq_some_iff, cut?_eq_source, Option.some.injEq]

/-- A span exists when the text can be cut at its offsets. -/
theorem exists_of?_iff_isSome :
    (∃ span, of? buffer start stop = some span) ↔
      (Text.cut? buffer.text start stop).isSome = true := by
  constructor
  · rintro ⟨span, h⟩
    obtain ⟨rfl, rfl, rfl⟩ := Document.of?_eq_some_iff.mp h
    exact span.fits
  · intro fits
    exact ⟨⟨buffer, start, stop, fits⟩, Document.of?_eq_some_iff.mpr ⟨rfl, rfl, rfl⟩⟩

/-- A range has a span exactly when it cuts a slice out of the text. -/
theorem exists_of?_iff_slice :
    (∃ span, of? buffer start stop = some span) ↔
      ∃ mid, Text.IsSlice buffer.text start stop mid := by
  rw [exists_of?_iff_isSome, Option.isSome_iff_exists]
  exact exists_congr fun mid => Text.cut?_eq_some_iff

end Span

/-! ### Nodes of documents -/

namespace Document

/-- A value has a range: it is an object with the member `range`. -/
inductive HasRange : Json → Prop where
  | member {members : List (String × Json)} {range : Json}
      (h : members.lookup "range" = some range) : HasRange (.obj members)

/-- A value has the range between two offsets. -/
inductive HasRangeAt : Json → Nat → Nat → Prop where
  | offsets {members : List (String × Json)} {start stop : Nat}
      (h : members.lookup "range" = some (.arr [.num (.int start), .num (.int stop)])) :
      HasRangeAt (.obj members) start stop

section Slices

variable {source : Option Buffer} {w : Json} {d : Node}

/-- A node without a span was read from a value without a range, and one with a span from a value
whose range the span is. -/
theorem DenotesNode.span_cases (h : DenotesNode source w d.plain) :
    (d.span = none ∧ ¬ HasRange w) ∨
      ∃ span, d.span = some span ∧ source = some span.buffer ∧
        HasRangeAt w span.start span.stop := by
  obtain ⟨id, type, children, span⟩ := d
  obtain ⟨_, _, _, _, head, -, plain⟩ := denotesNode_iff.mp h
  cases plain
  cases head with
  | array => exact .inl ⟨rfl, nofun⟩
  | object _ _ hspan =>
    cases hspan with
    | absent absent =>
      refine .inl ⟨rfl, ?_⟩
      rintro ⟨present⟩
      rw [absent] at present
      cases present
    | range hs present => exact .inr ⟨_, rfl, hs, .offsets present⟩

theorem HasRangeAt.hasRange {start stop : Nat} (h : HasRangeAt w start stop) : HasRange w := by
  cases h with
  | offsets h => exact .member h

/-- A node has a source text exactly when its value has a range, and then it is the slice of the
source at that range. -/
theorem DenotesNode.source?_iff (h : DenotesNode source w d.plain) :
    ((∃ text, d.source? = some text) ↔ HasRange w) ∧
      ∀ text, d.source? = some text → ∃ buffer start stop, source = some buffer ∧
        HasRangeAt w start stop ∧ Text.IsSlice buffer.text start stop text := by
  rcases h.span_cases with ⟨none, noRange⟩ | ⟨span, hspan, hsource, range⟩
  · have noText : d.source? = Option.none := by rw [Node.source?, none]; rfl
    rw [noText]
    refine ⟨⟨?_, fun has => absurd has noRange⟩, nofun⟩
    rintro ⟨text, h⟩
    cases h
  · have withText : d.source? = some span.source := by rw [Node.source?, hspan]; rfl
    rw [withText]
    refine ⟨⟨fun _ => range.hasRange, fun _ => ⟨_, rfl⟩⟩, ?_⟩
    intro text htext
    cases htext
    exact ⟨span.buffer, span.start, span.stop, hsource, range, Span.source_eq_iff.mp rfl⟩

end Slices

/-- **Source texts are slices.** A range of a buffer has a span exactly when the text is divided by
its offsets into whole characters; these are the ranges that are in order, inside the text and
between characters. The text of the span can then be cut out and is the part in the middle. So a
node of a tree that was read has a source text exactly when the value at its place in the document
has a range, and the text is the slice of the source at that range. -/
theorem source_iff_slice (buffer : Buffer) (start stop : Nat) :
    ((∃ span, Span.of? buffer start stop = some span) ↔
      ∃ mid, Text.IsSlice buffer.text start stop mid) ∧
    ((∃ span, Span.of? buffer start stop = some span) ↔
      start ≤ stop ∧ stop ≤ buffer.text.utf8ByteSize ∧
        String.Pos.Raw.IsValid buffer.text ⟨start⟩ ∧ String.Pos.Raw.IsValid buffer.text ⟨stop⟩) ∧
    (∀ span mid, Span.of? buffer start stop = some span →
      Text.IsSlice buffer.text start stop mid →
        Text.cut? span.buffer.text span.start span.stop = some mid ∧ span.source = mid) ∧
    ∀ v source forest t, (build v source forest).1 = .ok t → ∀ path d, t.atPath? path = some d →
      (∃ w, Leads v path w) ∧ ∀ w, Leads v path w →
        ((∃ text, d.source? = some text) ↔ HasRange w) ∧
          ∀ text, d.source? = some text → ∃ buffer start stop, source = some buffer ∧
            HasRangeAt w start stop ∧ Text.IsSlice buffer.text start stop text := by
  refine ⟨Span.exists_of?_iff_slice, ?_, ?_, ?_⟩
  · rw [Span.exists_of?_iff_isSome]
    exact Text.isSome_cut?_iff
  · intro span mid h slice
    obtain ⟨rfl, rfl, rfl⟩ := of?_eq_some_iff.mp h
    have source := Span.source_eq_iff.mpr slice
    exact ⟨source ▸ span.cut?_eq_source, source⟩
  · intro v source forest t read path d hd
    have run : Yields (readNode v) ⟨source, [], forest, []⟩ t (build v source forest).2 :=
      Prod.ext read rfl
    obtain ⟨down, up⟩ := (readers_sound.1 v run).agree_along_path path
    obtain ⟨w, way, -⟩ := down d hd
    refine ⟨⟨w, way⟩, ?_⟩
    intro w way
    obtain ⟨m, hm, denoted⟩ := up w way
    obtain rfl : m = d := Option.some.inj (hm.symm.trans hd)
    exact denoted.source?_iff

end Document

end RubyTree
