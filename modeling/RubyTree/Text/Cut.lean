/-
Cutting a text at byte offsets.

Offsets count UTF-8 bytes. A cut exists only where a character begins or the text ends, so an offset
inside a character, or behind the end, gives nothing.
-/

namespace RubyTree.Text

/-- The number of bytes that characters take in UTF-8. -/
def byteLength : List Char → Nat
  | [] => 0
  | c :: cs => c.utf8Size + byteLength cs

/-- The characters before and after a byte offset. -/
def splitAtByte? : List Char → Nat → Option (List Char × List Char)
  | cs, 0 => some ([], cs)
  | [], _ + 1 => none
  | c :: cs, n + 1 =>
    if c.utf8Size ≤ n + 1 then
      (splitAtByte? cs (n + 1 - c.utf8Size)).map (fun p => (c :: p.1, p.2))
    else none

/-- The part of a text from the byte offset `start` up to the byte offset `stop`. -/
def cut? (text : String) (start stop : Nat) : Option String :=
  if start ≤ stop then
    (splitAtByte? text.toList start).bind (fun p =>
      (splitAtByte? p.2 (stop - start)).map (fun q => String.ofList q.1))
  else none

end RubyTree.Text
