/-
Texts that stand for numbers.

A number has a sign or none, and is one of the words for the numbers without digits or has digits
with a point, an exponent or neither.
-/

namespace RubyTree.Decimal

/-- The words for numbers without digits. -/
def numberWords : List String := ["inf", "infinity", "nan"]

/-- Characters without the sign in front. -/
def unsigned : List Char → List Char
  | '+' :: cs => cs
  | '-' :: cs => cs
  | cs => cs

/-- Whether characters are an exponent or nothing. -/
def isExponent : List Char → Bool
  | [] => true
  | c :: cs => (c == 'e' || c == 'E') && !(unsigned cs).isEmpty && (unsigned cs).all Char.isDigit

/-- Whether characters are digits, with at most one point among them, and an exponent or nothing. -/
def isPositional (cs : List Char) : Bool :=
  let digits := cs.takeWhile Char.isDigit
  match cs.dropWhile Char.isDigit with
  | '.' :: rest =>
    !(digits ++ rest.takeWhile Char.isDigit).isEmpty && isExponent (rest.dropWhile Char.isDigit)
  | rest => !digits.isEmpty && isExponent rest

/-- Whether characters stand for a number. -/
def isNumber (cs : List Char) : Bool :=
  let digits := unsigned cs
  numberWords.contains (String.ofList digits).toLower || isPositional digits

end RubyTree.Decimal
