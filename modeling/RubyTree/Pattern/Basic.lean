/-
Patterns of texts.

A pattern has alternatives, and an alternative is a sequence of items: characters, sets of them,
places such as the end of the text, and groups, which hold a pattern again. Of an item that is kept
which decides whether a machine that looks for the pattern can be built. How often an item is
repeated, or which of the places an anchor is about, makes no difference to that.
-/

namespace RubyTree.Pattern

inductive CharSet where
  /-- The characters from one to another, both included. -/
  | range (first last : Char)
  /-- A set that has a name between colons, or all characters but those. -/
  | named (negated : Bool)
  /-- The digits, the white space or the characters of words, or all but those. -/
  | shorthand (negated : Bool)
  /-- What stands between two brackets, or all characters but that. -/
  | bracket (negated : Bool) (members : CharSet)
  | union (members : List CharSet)
  /-- Two sets with an operator between them. -/
  | combined (left right : CharSet)

/-- Letters of switches with whether they are turned on. -/
abbrev Switches : Type := List (Char × Bool)

/-- A part of an alternative. -/
inductive Item where
  /-- Switches that hold up to the end of the group. -/
  | switch (switches : Switches)
  /-- One character. Two hexadecimal digits may stand for a byte instead. -/
  | literal (c : Char) (byte : Bool)
  /-- Any character. -/
  | any
  /-- The begin or end of the text or a line. -/
  | anchor
  /-- A place where a word begins or ends, or where none does. -/
  | wordEdge
  /-- A character of a set that has a letter, or any other character. -/
  | shorthand (negated : Bool)
  /-- A character of a set. -/
  | set (s : CharSet)
  | repeated (item : Item)
  /-- Alternatives in parentheses, with the switches that hold in them. -/
  | group (switches : Switches) (name : Option String) (alternatives : List (List Item))

end RubyTree.Pattern

namespace RubyTree

/-- The alternatives of a pattern, each a sequence of items. -/
abbrev Pattern : Type := List (List Pattern.Item)

end RubyTree
