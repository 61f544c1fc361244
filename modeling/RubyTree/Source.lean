/-
Source texts and the ranges of nodes in them.

A buffer is a source text with an identity of its own: two buffers may have the same content and be
different ones. A span is a byte range of a buffer that splits no character, so its text always
exists.
-/

import RubyTree.Text.Cut

namespace RubyTree

/-- A source text. `serial` is its identity, and `name` the file that it was read from. -/
structure Buffer where
  serial : Nat
  name : Option String
  text : String

namespace Buffer

/-- The number of bytes of the text. -/
def size (b : Buffer) : Nat :=
  Text.byteLength b.text.toList

/-- Whether two buffers have the same name and the same text. -/
def sameContent (a b : Buffer) : Bool :=
  a.name == b.name && a.text == b.text

end Buffer

/-- A byte range of a buffer that begins and ends between characters. -/
structure Span where
  buffer : Buffer
  start : Nat
  stop : Nat
  fits : (Text.cut? buffer.text start stop).isSome

namespace Span

/-- The span of a range, when the range fits the buffer. -/
def of? (buffer : Buffer) (start stop : Nat) : Option Span :=
  if h : (Text.cut? buffer.text start stop).isSome then some ⟨buffer, start, stop, h⟩ else none

def source (s : Span) : String :=
  (Text.cut? s.buffer.text s.start s.stop).get s.fits

/-- Whether two spans are the same range of the same buffer. -/
def same (a b : Span) : Bool :=
  a.buffer.serial == b.buffer.serial && a.start == b.start && a.stop == b.stop

end Span

end RubyTree
