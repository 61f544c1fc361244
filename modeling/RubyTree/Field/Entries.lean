/-
Entries of hash literals and hash patterns, and their look-up by key.

A key is looked up among the pairs by the value of its node, as a symbol or a string. A missing key
is no failure, because it depends on the data; asking a node that is no hash is one.
-/

import RubyTree.Field.Refusal
import RubyTree.Literal

namespace RubyTree

/-- Whether a slot holds the key `key`, as a symbol or a string. -/
def Child.isKey (key : String) (c : Child) : Bool :=
  match c.literal with
  | .sym name => name == key
  | .str text => text == key
  | _ => false

namespace Node

/-- Whether a node is a hash literal, a hash pattern or keyword arguments. -/
def isHashLike (n : Node) : Bool :=
  match n.type with
  | .hashLit | .hashPattern | .kwargs => true
  | _ => false

/-- The result `value` on a hash; other nodes refuse the field. -/
def onHash {α : Type} (n : Node) (field : String) (value : α) : Except Refusal α :=
  if n.isHashLike then .ok value else n.refuse field

def pairSlots (n : Node) : List Child :=
  n.children.filter (fun c => c.isType .pair)

def splatSlots (n : Node) : List Child :=
  n.children.filter (fun c => c.isType .kwsplat || c.isType .matchRest)

def pairNodes (n : Node) : List Node :=
  n.pairSlots.filterMap Child.node?

/-- The first pair with a key. -/
def findPair? (n : Node) (key : String) : Option Node :=
  n.pairNodes.find? (fun pair => (pair.child 0).isKey key)

/-- The pairs of a hash, in source order. -/
def pairs (n : Node) : Except Refusal (List Child) :=
  n.onHash "pairs" n.pairSlots

/-- The double splats of a hash, in source order. -/
def kwsplats (n : Node) : Except Refusal (List Child) :=
  n.onHash "kwsplats" n.splatSlots

def keys (n : Node) : Except Refusal (List Child) :=
  n.onHash "keys" (n.pairNodes.map (fun pair => pair.child 0))

def values (n : Node) : Except Refusal (List Child) :=
  n.onHash "values" (n.pairNodes.map (fun pair => pair.child 1))

def hasKey (n : Node) (key : String) : Except Refusal Bool :=
  n.onHash "has_key" (n.findPair? key).isSome

/-- The first pair with the key `key`. -/
def hashPair (n : Node) (key : String) : Except Refusal (Option Node) :=
  n.onHash "hash_pair" (n.findPair? key)

/-- The value of the first pair with the key `key`. -/
def hashValue (n : Node) (key : String) : Except Refusal (Option Child) :=
  n.onHash "hash_value" ((n.findPair? key).map (fun pair => pair.child 1))

end Node

/-! ### Look-up by derived names -/

/-- What a derived name asks for: the pair, its coerced value, or the source of its value. -/
inductive Aspect where
  | pair
  | value
  | source
deriving DecidableEq

namespace Aspect

/-- The aspects, in the order in which endings are tried. -/
def all : List Aspect := [.pair, .value, .source]

def ending : Aspect → String
  | .pair => "_pair"
  | .value => "_value"
  | .source => "_source"

/-- The key in a name that ends as the aspect says. -/
def key? (a : Aspect) (name : String) : Option String :=
  let cs := name.toList
  let tail := a.ending.toList
  if tail.isSuffixOf cs then some (String.ofList (cs.take (cs.length - tail.length))) else none

end Aspect

/-- The aspect and the key of a derived name. -/
def derivedName? (name : String) : Option (Aspect × String) :=
  Aspect.all.findSome? (fun a => (a.key? name).map (fun key => (a, key)))

/-- The answer to a derived name. Nothing stands for a missing key, and an empty source for a
missing key or a value without a span. -/
inductive Found where
  | pair (n : Option Node)
  | value (v : Option Literal)
  | source (text : String)

/-- What a key has for an aspect. -/
def Node.aspect (n : Node) (key : String) : Aspect → Found
  | .pair => .pair (n.findPair? key)
  | .value => .value ((n.findPair? key).map (fun pair => (pair.child 1).literal))
  | .source =>
    .source (((n.findPair? key).bind (fun pair =>
      (pair.child 1).node?.bind Node.source?)).getD "")

/-- Looks a hash entry up by a derived name: `foo_pair`, `foo_value` or `foo_source` for the key
`foo`. -/
def Node.lookup (n : Node) (name : String) : Except Refusal Found :=
  if n.isHashLike then
    match derivedName? name with
    | some (a, key) => .ok (n.aspect key a)
    | none => n.refuse name
  else n.refuse name

end RubyTree
