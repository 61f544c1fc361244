/-
Written forms of floating point numbers.

A style says which numbers are written positionally, whether a positive exponent has a sign, and
which way an exact tie between two shortest forms goes. A positional form always has a digit behind
the point.
-/

import RubyTree.Decimal.Shortest

namespace RubyTree.Decimal

/-- How a number is written. The leading digits of the numbers written positionally have exponents
from `lowest` to `highest`. -/
structure Style where
  lowest : Int
  highest : Int
  plus : Bool
  tie : Tie
  nan : String
  infinite : String
  minusInfinite : String

/-- A floating point number taken apart. -/
inductive Parts where
  | nan
  | infinite (negative : Bool)
  | zero (negative : Bool)
  | finite (negative : Bool) (m : Nat) (q : Int) (dense : Bool)

/-- The parts of a double precision number, read off its bits. -/
def parts (x : Float) : Parts :=
  let bits : Nat := x.toBits.toNat
  let negative : Bool := bits / 0x8000000000000000 == 1
  let biased : Nat := bits / 0x10000000000000 % 0x800
  let fraction : Nat := bits % 0x10000000000000
  if biased = 2047 then
    if fraction = 0 then .infinite negative else .nan
  else if biased = 0 then
    if fraction = 0 then .zero negative else .finite negative fraction (-1074) false
  else
    .finite negative (0x10000000000000 + fraction) ((biased : Int) - 1075)
      (fraction == 0 && biased != 1)

/-- Digits with a point behind the first `point` of them, padded with zeros where there are none. -/
def positional (ds : List Char) (point : Int) : List Char :=
  if point ≤ 0 then ['0', '.'] ++ List.replicate (-point).toNat '0' ++ ds
  else if (ds.length : Int) ≤ point then
    ds ++ List.replicate (point.toNat - ds.length) '0' ++ ['.', '0']
  else ds.take point.toNat ++ '.' :: ds.drop point.toNat

/-- Digits with a point behind the first one, and an exponent. -/
def scientific (plus : Bool) (ds : List Char) (exponent : Int) : List Char :=
  let mantissa := match ds with
    | d :: e :: rest => d :: '.' :: e :: rest
    | short => short
  let sign := if exponent < 0 then ['-'] else if plus then ['+'] else []
  mantissa ++ 'e' :: (sign ++ Nat.toDigits 10 exponent.natAbs)

def Style.layout (style : Style) (d : Digits) : List Char :=
  let all := Nat.toDigits 10 d.digits
  let ds := (all.reverse.dropWhile (· == '0')).reverse
  let lead := (all.length : Int) - 1 + d.exponent
  if style.lowest ≤ lead ∧ lead ≤ style.highest then positional ds (lead + 1)
  else scientific style.plus ds lead

/-- The written form of a floating point number. -/
def Style.write (style : Style) (x : Float) : String :=
  let signed (negative : Bool) (cs : List Char) : String :=
    String.ofList (if negative then '-' :: cs else cs)
  match parts x with
  | .nan => style.nan
  | .infinite negative => if negative then style.minusInfinite else style.infinite
  | .zero negative => signed negative ['0', '.', '0']
  | .finite negative m q dense => signed negative (style.layout (shortest style.tie m q dense))

end RubyTree.Decimal
