/-
Blanks and escapes in patterns.

In a spaced pattern white space means nothing, and neither does a comment, which goes from a `#` to
the end of its line. An escape is what a backslash begins.
-/

import RubyTree.Text.Blank
import RubyTree.Text.Hex

namespace RubyTree.Pattern

/-! ### Blanks -/

/-- The characters from the first one on that is neither blank nor in a comment. -/
def dropBlanks (inComment : Bool) : List Char → List Char
  | [] => []
  | c :: cs =>
    if inComment then dropBlanks (c != '\n') cs
    else if Text.isBlank c then dropBlanks false cs
    else if c = '#' then dropBlanks true cs
    else c :: cs

/-- The characters without the blanks in front that mean nothing. -/
def skip (spaced : Bool) (cs : List Char) : List Char :=
  if spaced then dropBlanks false cs else cs

/-- The character by which a hyphen in front of `cs` is judged. In a spaced pattern it is the first
one behind white space and the mark of a comment; if there is none, blanks are not passed over. -/
def judge? (spaced : Bool) (cs : List Char) : Option Char :=
  if spaced then
    let next? := match cs.dropWhile Text.isBlank with
      | '#' :: more => (more.dropWhile Text.isBlank).head?
      | more => more.head?
    next?.or cs.head?
  else cs.head?

/-! ### Escapes -/

/-- What an escape stands for. -/
inductive Escape where
  | literal (c : Char) (byte : Bool)
  | shorthand (negated : Bool)
  | anchor
  | wordEdge

namespace Escape

/-- Reads `count` hexadecimal digits, behind the value of those before. -/
def digits (spaced : Bool) (value : Nat) : Nat → List Char → Option (Nat × List Char)
  | 0, cs => some (value, cs)
  | count + 1, cs =>
    match skip spaced cs with
    | [] => none
    | c :: rest =>
      (Text.hexValue? c).bind (fun d => digits spaced (16 * value + d) count rest)

/-- Reads the character with a code of `count` hexadecimal digits. -/
def coded (spaced : Bool) (count : Nat) (cs : List Char) : Option (Escape × List Char) :=
  (digits spaced 0 count cs).bind (fun p =>
    if Nat.isValidChar p.1 then some (.literal (Char.ofNat p.1) (count == 2), p.2) else none)

/-- Whether a character stands for itself behind a backslash. -/
def isPlain (c : Char) : Bool :=
  decide (c.toNat < 0x80) && !c.isAlphanum && c != '<' && c != '>'

/-- What a single character behind a backslash stands for. -/
def single? (c : Char) : Option Escape :=
  if isPlain c then some (.literal c false)
  else
    match c with
    | 'a' => some (.literal '\x07' false)
    | 'f' => some (.literal '\x0c' false)
    | 't' => some (.literal '\t' false)
    | 'n' => some (.literal '\n' false)
    | 'r' => some (.literal '\r' false)
    | 'v' => some (.literal '\x0b' false)
    | 'd' | 's' | 'w' => some (.shorthand false)
    | 'D' | 'S' | 'W' => some (.shorthand true)
    | 'A' | 'z' => some .anchor
    | 'b' | 'B' | '<' | '>' => some .wordEdge
    | _ => none

/-- Reads an escape behind its backslash. -/
def read (spaced : Bool) : List Char → Option (Escape × List Char)
  | [] => none
  | 'x' :: rest => coded spaced 2 rest
  | 'u' :: rest => coded spaced 4 rest
  | 'U' :: rest => coded spaced 8 rest
  | c :: rest => (single? c).map (fun e => (e, rest))

end Escape

end RubyTree.Pattern
