/-
JSON values.

An object is a list of members. `Json.put` keeps members in ascending order of their keys with one
member a key, which is the form of every object that is read from a text; a written object keeps
the order that it was built in, and `Json.sortKeys` puts every object of a value into key order.
-/

namespace RubyTree

/-- A JSON number: an integer as it was written, or a floating point number. -/
inductive Json.Number where
  | int (i : Int)
  | float (x : Float)

inductive Json where
  | null
  | bool (b : Bool)
  | num (n : Json.Number)
  | str (s : String)
  | arr (items : List Json)
  | obj (members : List (String × Json))

namespace Json

/-- The value under a key of an object; nothing for any other value. -/
def get? (key : String) : Json → Option Json
  | .obj members => members.lookup key
  | _ => none

def text? : Json → Option String
  | .str s => some s
  | _ => none

def items? : Json → Option (List Json)
  | .arr items => some items
  | _ => none

/-- Members with one more, in key order; a member with the same key is replaced. -/
def put (key : String) (value : Json) : List (String × Json) → List (String × Json)
  | [] => [(key, value)]
  | (k, v) :: rest =>
    if key < k then (key, value) :: (k, v) :: rest
    else if key = k then (key, value) :: rest
    else (k, v) :: put key value rest

mutual

/-- A value with the members of every object in key order. -/
def sortKeys : Json → Json
  | .arr items => .arr (sortItems items)
  | .obj members => .obj (sortMembers members)
  | .null => .null
  | .bool b => .bool b
  | .num n => .num n
  | .str s => .str s

/-- The items of an array, each with its objects in key order. -/
def sortItems : List Json → List Json
  | [] => []
  | v :: rest => sortKeys v :: sortItems rest

/-- The members of an object in key order, each with its objects in key order. -/
def sortMembers : List (String × Json) → List (String × Json)
  | [] => []
  | (k, v) :: rest => put k (sortKeys v) (sortMembers rest)

end

end Json

namespace Json.Number

def minSigned : Int := -0x8000000000000000

/-- The least integer above the signed words. -/
def signedBound : Int := 0x8000000000000000

/-- The least integer above the unsigned words. -/
def unsignedBound : Nat := 0x10000000000000000

/-- The number as a signed word, when it is an integer in their range. -/
def signed? : Json.Number → Option Int64
  | .int i => if minSigned ≤ i ∧ i < signedBound then some (Int64.ofInt i) else none
  | .float _ => none

/-- The number as an unsigned word, when it is an integer in their range. -/
def unsigned? : Json.Number → Option Nat
  | .int i => if 0 ≤ i ∧ i.toNat < unsignedBound then some i.toNat else none
  | .float _ => none

def toFloat : Json.Number → Float
  | .int i => Float.ofInt i
  | .float x => x

end Json.Number

end RubyTree
