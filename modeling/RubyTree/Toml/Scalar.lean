/-
Unquoted TOML values: booleans, integers, floats, dates and times.
-/

import RubyTree.Decimal.Nearest
import RubyTree.Text.Hex
import RubyTree.Toml.Basic

namespace RubyTree.Toml.Scalar

/-! ### Numbers -/

/-- The digits of a number in which single underscores may stand between digits. -/
def digits? (isDigit : Char → Bool) : List Char → Option (List Char)
  | [] => none
  | [d] => if isDigit d then some [d] else none
  | d :: '_' :: rest => if isDigit d then (digits? isDigit rest).map (d :: ·) else none
  | d :: rest => if isDigit d then (digits? isDigit rest).map (d :: ·) else none

/-- The sign of a token, true when it is negative, and what is behind it. -/
def sign : List Char → Bool × List Char
  | '+' :: rest => (false, rest)
  | '-' :: rest => (true, rest)
  | cs => (false, cs)

/-- Decimal digits without a leading zero, unless that is all. -/
def wholeDigits? (cs : List Char) : Option (List Char) :=
  match cs with
  | ['0'] => some ['0']
  | '0' :: _ => none
  | _ => digits? Char.isDigit cs

/-- An integer that is a signed word. -/
def word? (i : Int) : Option Value :=
  if -0x8000000000000000 ≤ i ∧ i < 0x8000000000000000 then some (.int (Int64.ofInt i)) else none

/-- A number in another base behind the marker of the base. -/
def based? (base : Nat) (cs : List Char) : Option Value := do
  let isDigit := fun c => (Text.hexValue? c).any (fun v => decide (v < base))
  let ds ← digits? isDigit cs
  word? (ds.foldl (fun n d => base * n + (Text.hexValue? d).getD 0) 0)

def integer? : List Char → Option Value
  | '0' :: 'x' :: cs => based? 16 cs
  | '0' :: 'o' :: cs => based? 8 cs
  | '0' :: 'b' :: cs => based? 2 cs
  | cs => do
    let (negative, rest) := sign cs
    let ds ← wholeDigits? rest
    let n := Decimal.ofDigits ds
    word? (if negative then -n else n)

/-- The exponent of a float, behind its mark. -/
def exponent? (cs : List Char) : Option Int := do
  let (negative, rest) := sign cs
  let ds ← digits? Char.isDigit rest
  let n := Decimal.ofDigits ds
  some (if negative then -n else n)

/-- A float, which has a point or an exponent and is finite, or is one of the named ones. -/
def float? (cs : List Char) : Option Value := do
  let (_, rest) := sign cs
  let isMark := fun c => c == 'e' || c == 'E'
  if rest = ['i', 'n', 'f'] ∨ rest = ['n', 'a', 'n'] then some .float
  else if !rest.any (fun c => c == '.' || isMark c) then none
  else
    let mantissa := rest.takeWhile (fun c => !isMark c)
    let whole := mantissa.takeWhile (fun c => c != '.')
    let ds ← wholeDigits? whole
    let part ← match mantissa.dropWhile (fun c => c != '.') with
      | [] => some []
      | _ :: cs => digits? Char.isDigit cs
    let power ← match rest.dropWhile (fun c => !isMark c) with
      | [] => some 0
      | _ :: cs => exponent? cs
    let _ ← Decimal.nearest? false (Decimal.ofDigits (ds ++ part)) (power - part.length)
    some .float

/-! ### Dates and times -/

/-- The value of exactly `n` digits, and what is behind them. -/
def fixed? (n : Nat) (cs : List Char) : Option (Nat × List Char) :=
  let ds := cs.take n
  if ds.length = n ∧ ds.all Char.isDigit then some (Decimal.ofDigits ds, cs.drop n) else none

/-- What is behind the character `c`. -/
def mark? (c : Char) : List Char → Option (List Char)
  | d :: rest => if c = d then some rest else none
  | [] => none

def daysIn (year month : Nat) : Nat :=
  if month = 2 then
    if year % 4 = 0 ∧ (year % 100 ≠ 0 ∨ year % 400 = 0) then 29 else 28
  else if month = 4 ∨ month = 6 ∨ month = 9 ∨ month = 11 then 30
  else 31

/-- What is behind a date. -/
def date? (cs : List Char) : Option (List Char) := do
  let (year, cs) ← fixed? 4 cs
  let cs ← mark? '-' cs
  let (month, cs) ← fixed? 2 cs
  let cs ← mark? '-' cs
  let (day, cs) ← fixed? 2 cs
  if 1 ≤ month ∧ month ≤ 12 ∧ 1 ≤ day ∧ day ≤ daysIn year month then some cs else none

/-- What is behind the hours and minutes of a time or an offset. -/
def clock? (cs : List Char) : Option (List Char) := do
  let (hour, cs) ← fixed? 2 cs
  let cs ← mark? ':' cs
  let (minute, cs) ← fixed? 2 cs
  if hour < 24 ∧ minute < 60 then some cs else none

/-- What is behind a time, whose seconds may be left out. -/
def time? (cs : List Char) : Option (List Char) := do
  let cs ← clock? cs
  match cs with
  | ':' :: rest =>
    let (second, cs) ← fixed? 2 rest
    if 60 < second then none
    else
      match cs with
      | '.' :: d :: rest => if d.isDigit then some (rest.dropWhile Char.isDigit) else none
      | '.' :: [] => none
      | _ => some cs
  | _ => some cs

/-- Whether nothing or an offset from universal time is left. -/
def isOffset : List Char → Bool
  | [] | ['Z'] | ['z'] => true
  | '+' :: cs | '-' :: cs => clock? cs == some []
  | _ => false

/-- Whether a token is a date, a time, or both with or without an offset. -/
def isDate (cs : List Char) : Bool :=
  match date? cs with
  | some [] => true
  | some (c :: rest) =>
    (c == 'T' || c == 't' || c == ' ') && (time? rest).any isOffset
  | none => time? cs == some []

/-! ### Tokens -/

/-- Whether a character may stand in an unquoted value. -/
def isToken (c : Char) : Bool :=
  c.isAlphanum || c == '_' || c == '+' || c == '-' || c == '.' || c == ':'

/-- The unquoted value at the front of a text. A blank may stand between a date and a time. -/
def token (s : List Char) : List Char :=
  let first := s.takeWhile isToken
  match date? first, s.dropWhile isToken with
  | some [], ' ' :: d :: rest =>
    if d.isDigit then first ++ ' ' :: (d :: rest).takeWhile isToken else first
  | _, _ => first

def value? (cs : List Char) : Option Value :=
  if cs = ['t', 'r', 'u', 'e'] then some (.bool true)
  else if cs = ['f', 'a', 'l', 's', 'e'] then some (.bool false)
  else if isDate cs then some .date
  else (integer? cs).or (float? cs)

end RubyTree.Toml.Scalar
