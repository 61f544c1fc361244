/-
Shortest decimal digits of a binary floating point number.

A positive number is `m · 2 ^ q`. The reals that round to it form an interval around it, whose ends
belong to it when `m` is even. The shortest digits are the fewest decimal digits of a number in that
interval, and of equally few the nearest to `m · 2 ^ q`. All comparisons are exact.
-/

namespace RubyTree.Decimal

/-- The choice between two equally near neighbours. -/
inductive Tie where
  | up
  | toEven
deriving DecidableEq

/-- A positive binary number in quarters of its last place: the number itself, the two ends of its
rounding interval, whether the ends belong to it, and the value `num / den` of a quarter. -/
structure Interval where
  value : Nat
  low : Nat
  high : Nat
  closed : Bool
  num : Nat
  den : Nat

/-- The rounding interval of `m · 2 ^ q`. At a power of two the numbers below are twice as dense, so
the interval reaches only half as far down; `dense` says that this is so. -/
def interval (m : Nat) (q : Int) (dense : Bool) : Interval where
  value := 4 * m
  low := if dense then 4 * m - 1 else 4 * m - 2
  high := 4 * m + 2
  closed := m % 2 == 0
  num := Nat.pow 2 (q - 2).toNat
  den := Nat.pow 2 (2 - q).toNat

/-- The quotient `10 ^ k` as a numerator and a denominator. -/
def powerOfTen (k : Int) : Nat × Nat :=
  (Nat.pow 10 k.toNat, Nat.pow 10 (-k).toNat)

/-- Whether `n · 10 ^ k` lies in the interval. -/
def Interval.holds (i : Interval) (k : Int) (n : Nat) : Bool :=
  let point := n * (powerOfTen k).1 * i.den
  let low := i.low * i.num * (powerOfTen k).2
  let high := i.high * i.num * (powerOfTen k).2
  if i.closed then decide (low ≤ point) && decide (point ≤ high)
  else decide (low < point) && decide (point < high)

/-- The multiple of `10 ^ k` nearest to the number among its two neighbours that lie in the
interval. -/
def Interval.nearest? (i : Interval) (tie : Tie) (k : Int) : Option Nat :=
  let scaled := i.value * i.num * (powerOfTen k).2
  let unit := (powerOfTen k).1 * i.den
  let below := scaled / unit
  let above := below + 1
  match i.holds k below && decide (0 < below), i.holds k above with
  | true, false => some below
  | false, true => some above
  | false, false => none
  | true, true =>
    let twice := 2 * (scaled % unit)
    if twice < unit then some below
    else if unit < twice then some above
    else match tie with
      | .up => some above
      | .toEven => if below % 2 == 0 then some below else some above

/-- The decimal exponent of the leading digit of `n / d`, for numbers above `10 ^ (-400)`. -/
def leadingExponent (n d : Nat) : Int :=
  if d ≤ n then ((Nat.toDigits 10 (n / d)).length : Int) - 1
  else -(((List.range 400).find? (fun t => decide (d ≤ n * Nat.pow 10 t))).getD 400 : Nat)

/-- A decimal number `digits · 10 ^ exponent`. -/
structure Digits where
  digits : Nat
  exponent : Int
deriving DecidableEq

/-- The fewest digits that read back as `m · 2 ^ q`; seventeen are always enough. -/
def shortest (tie : Tie) (m : Nat) (q : Int) (dense : Bool) : Digits :=
  let i := interval m q dense
  let lead := leadingExponent (i.value * i.num) i.den
  let found := (List.range 18).findSome? (fun (count : Nat) =>
    let k := lead - count
    (i.nearest? tie k).map (fun n => Digits.mk n k))
  found.getD ⟨0, 0⟩

end RubyTree.Decimal
