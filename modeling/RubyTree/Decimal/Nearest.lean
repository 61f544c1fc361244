/-
The floating point number nearest to a decimal one.
-/

namespace RubyTree.Decimal

def ofDigits (ds : List Char) : Nat :=
  ds.foldl (fun n d => 10 * n + (d.toNat - '0'.toNat)) 0

/-- The number nearest to `mantissa · 10 ^ exponent`, when it is finite. Numbers far outside the
range are settled by their size alone. -/
def nearest? (negative : Bool) (mantissa : Nat) (exponent : Int) : Option Float :=
  let size := ((Nat.toDigits 10 mantissa).length : Int) + exponent
  let magnitude : Option Float :=
    if mantissa = 0 ∨ size < -400 then some 0.0
    else if 400 < size then none
    else
      let x := Float.ofScientific mantissa (decide (exponent < 0)) exponent.natAbs
      if x.isFinite then some x else none
  magnitude.map (fun x => if negative then -x else x)

end RubyTree.Decimal
