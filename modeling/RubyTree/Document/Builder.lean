/-
Building a tree from a JSON value.

A node is an array that begins with its tag, or an object with the key `type`; only the object can
carry a range. A string is a symbol, except directly below the types of `keepsStrings`; an object
with one of the keys `sym` and `str` says which of the two it is. A node's own checks (tag, shape of
the children, range) come before those of its children, and the first fault ends the reading.

The builder carries the place of the value that is being read, the nodes constructed so far, and the
forest they belong to. It survives a fault, so that what was built before one can be told.
-/

import RubyTree.Document.Fault
import RubyTree.Json.Basic
import RubyTree.Node.Forest

namespace RubyTree.Document

/-- The state of the reading: the source that ranges refer to, the child indices of the value being
read, the innermost first, the forest, and the types and arities of the nodes built, the latest
first. -/
structure Builder where
  source : Option Buffer
  path : List Nat
  forest : Forest
  built : List (NodeType × Nat)

def Builder.nodes (b : Builder) : Nat :=
  b.built.length

/-- A step of the reading, which may end in a fault and then still has a state. -/
abbrev Build : Type → Type :=
  ExceptT Fault (StateM Builder)

/-- Ends the reading with a fault at the current place. -/
def fail {α : Type} (cause : Cause) : Build α := do
  let b ← get
  throw ⟨b.path.reverse, cause⟩

/-- Runs a step one level deeper, at the child with the index `i`, and comes back however it
ends. -/
def atIndex {α : Type} (i : Nat) (step : Build α) : Build α :=
  ExceptT.mk (do
    modify (fun b => { b with path := i :: b.path })
    let result ← step.run
    modify (fun b => { b with path := b.path.tail })
    pure result)

def construct (type : NodeType) (children : List Child) (span : Option Span) : Build Node := do
  let b ← get
  let (n, forest) := b.forest.construct type children span
  set { b with forest := forest, built := (type, children.length) :: b.built }
  pure n

/-! ### The parts of a value -/

/-- Whether a value is written as a node: an array, or an object with the key `type`. -/
def isNodeShaped : Json → Bool
  | .arr _ => true
  | .obj members => (members.lookup "type").isSome
  | _ => false

/-- The values at the child positions of a node: the items behind the tag, or those of the member
`children`. -/
def slots : Json → List Json
  | .arr (_ :: items) => items
  | .obj members =>
    match members.lookup "children" with
    | some (.arr items) => items
    | _ => []
  | _ => []

/-- The types below which a string stays a string. -/
def keepsStrings : NodeType → Bool
  | .strLit | .rationalLit | .complexLit => true
  | _ => false

/-- A number as a child: an integer when it fits a signed word. -/
def ofNumber (n : Json.Number) : Child :=
  match n.signed? with
  | some i => .int i
  | none => .float n.toFloat

/-- The type with the tag that a value holds. -/
def readTag : Json → Build NodeType
  | .str tag =>
    match NodeType.ofTag? tag with
    | some type => pure type
    | none => fail (.unknownTag tag)
  | _ => fail .tagNotString

/-- The check that the member `children` is an array, null or absent. -/
def checkChildren (members : List (String × Json)) : Build Unit :=
  match members.lookup "children" with
  | none | some .null | some (.arr _) => pure ()
  | some _ => fail .childrenNotArray

/-- The bounds that the member `range` holds. -/
def bounds? : Json → Option (Nat × Nat)
  | .arr [.num start, .num stop] =>
    match start.unsigned?, stop.unsigned? with
    | some start, some stop => some (start, stop)
    | _, _ => none
  | _ => none

/-- The span of an object, when it has a range. -/
def readSpan (members : List (String × Json)) : Build (Option Span) :=
  match members.lookup "range" with
  | none => pure none
  | some range =>
    match bounds? range with
    | none => fail .rangeShape
    | some (start, stop) => do
      match (← get).source with
      | none => fail .noSource
      | some buffer =>
        match Span.of? buffer start stop with
        | none => fail (.rangeOutside start stop)
        | some span => pure (some span)

/-- A node's own checks: its type and its span. -/
def readHead : Json → Build (NodeType × Option Span)
  | .arr [] => fail .emptyArray
  | .arr (tag :: _) => do
    let type ← readTag tag
    pure (type, none)
  | .obj members =>
    match members.lookup "type" with
    | none => fail .notNode
    | some tag => do
      let type ← readTag tag
      checkChildren members
      let span ← readSpan members
      pure (type, span)
  | _ => fail .notNode

/-- A child that is no node. -/
def readScalar (parent : NodeType) : Json → Build Child
  | .null => pure .nil
  | .bool b => pure (.bool b)
  | .num n => pure (ofNumber n)
  | .str s => pure (if keepsStrings parent then .str s else .sym s)
  | .arr _ => fail .scalarShape
  | .obj members =>
    match members.lookup "sym", members.lookup "str" with
    | some (.str name), none => pure (.sym name)
    | none, some (.str text) => pure (.str text)
    | _, _ => fail .scalarShape

/-! ### Trees -/

theorem sizeOf_lookup_lt {members : List (String × Json)} {key : String} {v : Json}
    (h : members.lookup key = some v) : sizeOf v < sizeOf members := by
  induction members with
  | nil => simp at h
  | cons m rest ih =>
    obtain ⟨k, w⟩ := m
    rw [List.lookup_cons] at h
    split at h
    · simp only [Option.some.injEq] at h
      subst h
      simp only [List.cons.sizeOf_spec, Prod.mk.sizeOf_spec]
      omega
    · have := ih h
      simp only [List.cons.sizeOf_spec]
      omega

/-- The items of a node are no larger than the node, so the reading of a tree ends. -/
theorem sizeOf_slots_le (v : Json) : sizeOf (slots v) ≤ sizeOf v := by
  unfold slots
  split
  · simp only [Json.arr.sizeOf_spec, List.cons.sizeOf_spec]; omega
  · split
    · rename_i h
      have := sizeOf_lookup_lt h
      simp only [Json.arr.sizeOf_spec, Json.obj.sizeOf_spec] at this ⊢
      omega
    · simp only [List.nil.sizeOf_spec, Json.obj.sizeOf_spec]; omega
  · cases v <;> simp

mutual

/-- The tree that a value is written for. -/
def readNode (v : Json) : Build Node := do
  let (type, span) ← readHead v
  let children ← readChildren type 0 (slots v)
  construct type children span
termination_by (sizeOf v, 1)
decreasing_by
  rcases Nat.lt_or_eq_of_le (sizeOf_slots_le v) with h | h
  · exact Prod.Lex.left _ _ h
  · rw [h]; exact Prod.Lex.right _ Nat.zero_lt_one

/-- The children that values are written for, the first of them with the index `i`. -/
def readChildren (parent : NodeType) (i : Nat) (vs : List Json) : Build (List Child) :=
  match vs with
  | [] => pure []
  | v :: rest => do
    let c ← atIndex i (readChild parent v)
    let cs ← readChildren parent (i + 1) rest
    pure (c :: cs)
termination_by (sizeOf vs, 0)

/-- The child that a value is written for. -/
def readChild (parent : NodeType) (v : Json) : Build Child :=
  if isNodeShaped v then do
    let n ← readNode v
    pure (.node n)
  else readScalar parent v
termination_by (sizeOf v, 2)

end

/-- Reads a value with a source into a forest: the root or the first fault, and the state at the
end. -/
def build (v : Json) (source : Option Buffer) (forest : Forest) : Except Fault Node × Builder :=
  (readNode v).run.run ⟨source, [], forest, []⟩

def tree (v : Json) (source : Option Buffer) : Except Fault Node :=
  (build v source .empty).1

end RubyTree.Document
