/-
Writing JSON.

A value is written on one line without blanks, or indented by two blanks a level. Members keep their
order. Strings escape the quote, the backslash and the controls below the blank, and nothing else.
-/

import RubyTree.Decimal.Style
import RubyTree.Json.Basic

namespace RubyTree.Json

/-- Floating point numbers are positional from `1e-5` up to `1e16`, an exponent always has a sign, a
tie goes to the even digit, and what is no number is null. -/
def numberStyle : Decimal.Style where
  lowest := -5
  highest := 15
  plus := true
  tie := .toEven
  nan := "null"
  infinite := "null"
  minusInfinite := "null"

def Number.text : Number → String
  | .int i => toString i
  | .float x => numberStyle.write x

/-- How a character is written inside a string. -/
def escapeChar (c : Char) : List Char :=
  if c = '"' then ['\\', '"']
  else if c = '\\' then ['\\', '\\']
  else if c = '\x08' then ['\\', 'b']
  else if c = '\t' then ['\\', 't']
  else if c = '\n' then ['\\', 'n']
  else if c = '\x0c' then ['\\', 'f']
  else if c = '\r' then ['\\', 'r']
  else if c.toNat < 0x20 then
    ['\\', 'u', '0', '0', Nat.digitChar (c.toNat / 16), Nat.digitChar (c.toNat % 16)]
  else [c]

def quote (s : String) : String :=
  String.ofList ('"' :: (s.toList.flatMap escapeChar ++ ['"']))

/-- The level of nesting of a value that is indented; nothing for a value on one line. -/
abbrev Level : Type := Option Nat

/-- What stands between two parts of a value at a level. -/
def Level.gap : Level → String
  | none => ""
  | some n => "\n" ++ String.ofList (List.replicate (2 * n) ' ')

def Level.next (level : Level) : Level :=
  level.map (· + 1)

/-- What stands between a key and its value. -/
def Level.colon : Level → String
  | none => ":"
  | some _ => ": "

mutual

def write (level : Level) : Json → String
  | .null => "null"
  | .bool b => if b then "true" else "false"
  | .num n => n.text
  | .str s => quote s
  | .arr [] => "[]"
  | .arr (v :: vs) =>
    "[" ++ level.next.gap ++ write level.next v ++ writeItems level.next vs ++ level.gap ++ "]"
  | .obj [] => "\x7b\x7d"
  | .obj ((k, v) :: ms) =>
    "\x7b" ++ level.next.gap ++ quote k ++ level.colon ++ write level.next v
      ++ writeMembers level.next ms ++ level.gap ++ "\x7d"

/-- The further items of an array. -/
def writeItems (level : Level) : List Json → String
  | [] => ""
  | v :: vs => "," ++ level.gap ++ write level v ++ writeItems level vs

/-- The further members of an object. -/
def writeMembers (level : Level) : List (String × Json) → String
  | [] => ""
  | (k, v) :: ms =>
    "," ++ level.gap ++ quote k ++ level.colon ++ write level v ++ writeMembers level ms

end

/-- A value on one line. -/
def compact (v : Json) : String :=
  write none v

/-- A value on indented lines. -/
def pretty (v : Json) : String :=
  write (some 0) v

end RubyTree.Json
