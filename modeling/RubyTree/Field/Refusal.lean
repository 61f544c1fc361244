/-
Refusals: a field was asked of a node whose type does not have it.
-/

import RubyTree.Node.Sexp
import RubyTree.Schema.Suggestion

namespace RubyTree

/-- The name that was asked for, the type and the s-expression of the node, and the closest field
that the type has. -/
structure Refusal where
  field : String
  type : NodeType
  node : String
  suggestion : Option String
deriving DecidableEq

namespace Refusal

def of (field : String) (n : Node) : Refusal :=
  ⟨field, n.type, n.sexp, Schema.closest? n.type field⟩

def message (r : Refusal) : String :=
  let hint := match r.suggestion with
    | some name => " (did you mean `" ++ name ++ "`?)"
    | none => ""
  r.field ++ " is not supported for " ++ r.type.tag ++ " node " ++ r.node ++ hint

end Refusal

/-- The refusal of a field by a node, as a result. -/
def Node.refuse {α : Type} (n : Node) (field : String) : Except Refusal α :=
  .error (.of field n)

end RubyTree
