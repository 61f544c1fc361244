/-
Faults of a JSON text.

A fault is placed by the text that was left when it was met and by the number of bytes looked at
since, so a reader never counts. `Fault.offset` turns that into a byte offset, at most the length of
the text, and `position` into a line and a column; columns count bytes.
-/

import RubyTree.Text.Cut

namespace RubyTree.Json

/-- Why a text is not JSON. -/
inductive Cause where
  | endInValue
  | endInList
  | endInObject
  | endInString
  | expectedValue
  | expectedIdent
  | expectedColon
  | expectedListEnd
  | expectedObjectEnd
  | trailingComma
  | trailingCharacters
  | keyNotString
  | invalidNumber
  | numberOutOfRange
  | invalidEscape
  | endOfHexEscape
  | loneSurrogate
  | controlCharacter
  | tooDeep
deriving DecidableEq

def Cause.text : Cause → String
  | .endInValue => "EOF while parsing a value"
  | .endInList => "EOF while parsing a list"
  | .endInObject => "EOF while parsing an object"
  | .endInString => "EOF while parsing a string"
  | .expectedValue => "expected value"
  | .expectedIdent => "expected ident"
  | .expectedColon => "expected `:`"
  | .expectedListEnd => "expected `,` or `]`"
  | .expectedObjectEnd => "expected `,` or `\x7d`"
  | .trailingComma => "trailing comma"
  | .trailingCharacters => "trailing characters"
  | .keyNotString => "key must be a string"
  | .invalidNumber => "invalid number"
  | .numberOutOfRange => "number out of range"
  | .invalidEscape => "invalid escape"
  | .endOfHexEscape => "unexpected end of hex escape"
  | .loneSurrogate => "lone leading surrogate in hex escape"
  | .controlCharacter => "control character (\\u0000-\\u001F) found while parsing a string"
  | .tooDeep => "recursion limit exceeded"

/-- A cause with its place: the rest of the text, and the bytes of it that were looked at. -/
structure Fault where
  cause : Cause
  rest : List Char
  seen : Nat

def Fault.offset (f : Fault) (text : List Char) : Nat :=
  min (Text.byteLength text) (Text.byteLength text - Text.byteLength f.rest + f.seen)

/-- The line, counted from one, and the column, in bytes, that a byte offset leads to from a given
line and column. -/
def position (line column : Nat) : List Char → Nat → Nat × Nat
  | _, 0 => (line, column)
  | [], _ + 1 => (line, column)
  | c :: cs, n + 1 =>
    if c = '\n' then position (line + 1) 0 cs n
    else position line (column + min c.utf8Size (n + 1)) cs (n + 1 - c.utf8Size)

def Fault.message (f : Fault) (text : String) : String :=
  let place := position 1 0 text.toList (f.offset text.toList)
  f.cause.text ++ " at line " ++ toString place.1 ++ " column " ++ toString place.2

end RubyTree.Json
