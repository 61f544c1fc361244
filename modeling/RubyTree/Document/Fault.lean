/-
Faults of a document.

A fault names the value that is no node or child where one is expected, by the child indices that
lead to it from the root, and says why.
-/

namespace RubyTree.Document

/-- Why a value is not a node or a child. -/
inductive Cause where
  | emptyArray
  | notNode
  | tagNotString
  | unknownTag (tag : String)
  | childrenNotArray
  | rangeShape
  | noSource
  | rangeOutside (start stop : Nat)
  | scalarShape
deriving DecidableEq

/-- A cause with the child indices of the value, from the root on. -/
structure Fault where
  path : List Nat
  cause : Cause
deriving DecidableEq

/-- The place of a value, as `root.0.2`. -/
def location (path : List Nat) : String :=
  path.foldl (fun text i => text ++ "." ++ toString i) "root"

def Fault.message (f : Fault) : String :=
  let place := location f.path
  let malformed (text : String) : String := "malformed node at " ++ place ++ ": " ++ text
  match f.cause with
  | .emptyArray => malformed "empty array"
  | .notNode => malformed "expected a node"
  | .tagNotString => malformed "node type must be a string"
  | .unknownTag tag => "unknown node type `" ++ tag ++ "` at " ++ place
  | .childrenNotArray => malformed "`children` must be an array"
  | .rangeShape => malformed "`range` must be [start, end]"
  | .noSource => "node at " ++ place ++ " has a range but no source was supplied"
  | .rangeOutside start stop =>
    "range " ++ toString start ++ ".." ++ toString stop ++ " at " ++ place
      ++ " does not fit the source"
  | .scalarShape => malformed "scalar object needs one `sym` or `str` string"

end RubyTree.Document
