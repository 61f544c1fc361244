/-
Quoted text.

A quoted text stands between double quotes. Six characters have short escapes; any other character
that is unprintable or extends the grapheme before it is written by its code point in hexadecimal,
and the rest stand as they are.
-/

import RubyTree.Text.Extender
import RubyTree.Text.Hex
import RubyTree.Text.Unprintable

namespace RubyTree.Text

/-- Whether a character is written by its code point. -/
def needsCode (c : Char) : Bool :=
  if c.toNat < 0x7f then decide (c.toNat < 0x20)
  else Unprintable.isUnprintable c || Extender.isExtender c

/-- How a character is written inside a quoted text. -/
def quoteChar (c : Char) : List Char :=
  if c = Char.ofNat 0 then ['\\', '0']
  else if c = '\t' then ['\\', 't']
  else if c = '\r' then ['\\', 'r']
  else if c = '\n' then ['\\', 'n']
  else if c = '"' then ['\\', '"']
  else if c = '\\' then ['\\', '\\']
  else if needsCode c then ['\\', 'u', '\x7b'] ++ hexDigits c.toNat ++ ['\x7d']
  else [c]

/-- Characters as a quoted text. -/
def quoteChars (cs : List Char) : List Char :=
  '"' :: (cs.flatMap quoteChar ++ ['"'])

/-- A text between quotes, with its special characters escaped. -/
def quote (s : String) : String :=
  String.ofList (quoteChars s.toList)

end RubyTree.Text
