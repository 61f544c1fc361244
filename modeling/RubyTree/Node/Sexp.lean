/-
S-expressions.

A node is written `s(:type, child, …)`. An absent child is `nil`, a symbol is its bare name behind a
colon, and a string is quoted.
-/

import RubyTree.Decimal.Style
import RubyTree.Node.Basic
import RubyTree.Text.Quoted

namespace RubyTree

/-- Floating point numbers are positional from `1e-4` up to `1e16`, only a negative exponent has a
sign, and a tie goes up. -/
def Sexp.numberStyle : Decimal.Style where
  lowest := -4
  highest := 15
  plus := false
  tie := .up
  nan := "NaN"
  infinite := "inf"
  minusInfinite := "-inf"

mutual

def Node.sexpChars : Node → List Char
  | .mk _ t cs _ => ['s', '(', ':'] ++ t.tag.toList ++ Child.sexpTail cs

def Child.sexpChars : Child → List Char
  | .nil => ['n', 'i', 'l']
  | .node n => Node.sexpChars n
  | .sym name => ':' :: name.toList
  | .str text => Text.quoteChars text.toList
  | .int i => (toString i.toInt).toList
  | .float x => (Sexp.numberStyle.write x).toList
  | .bool b => if b then ['t', 'r', 'u', 'e'] else ['f', 'a', 'l', 's', 'e']

/-- The characters of the children behind a type, with the closing bracket. -/
def Child.sexpTail : List Child → List Char
  | [] => [')']
  | c :: cs => [',', ' '] ++ Child.sexpChars c ++ Child.sexpTail cs

end

def Node.sexp (n : Node) : String :=
  String.ofList n.sexpChars

def Child.sexp (c : Child) : String :=
  String.ofList c.sexpChars

end RubyTree
