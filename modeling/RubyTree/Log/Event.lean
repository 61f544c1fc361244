/-
Log events.

An event records one thing that happened. Its level, target, message and fields say how it is shown
and which filters let it through.
-/

import RubyTree.NodeType

namespace RubyTree.Log

/-- The levels of events, the most important first. -/
inductive Level where
  | error
  | warn
  | info
  | debug
  | trace
deriving DecidableEq

/-- The rank of a level; a filter lets through what ranks at most as high as its own level. -/
def Level.rank : Level → Nat
  | .error => 1
  | .warn => 2
  | .info => 3
  | .debug => 4
  | .trace => 5

def Level.name : Level → String
  | .error => "ERROR"
  | .warn => "WARN"
  | .info => "INFO"
  | .debug => "DEBUG"
  | .trace => "TRACE"

/-- What happened. -/
inductive Event where
  | nodeBuilt (type : NodeType) (children : Nat)
  | treeRead (nodes : Nat) (root : NodeType)
  | fieldRefused (field : String) (type : NodeType)
  | queriesLoaded (name : String) (queries : Nat)
  | queryFailed (id : String) (error : String)
deriving DecidableEq

/-- The value of an event's field: a number, a bare text, or a text that is shown quoted. -/
inductive Value where
  | count (n : Nat)
  | bare (s : String)
  | quoted (s : String)

namespace Event

def level : Event → Level
  | .nodeBuilt _ _ => .trace
  | _ => .debug

/-- The part of the program that an event comes from. -/
def target : Event → String
  | .nodeBuilt _ _ | .treeRead _ _ => "parser_node_ext::ingest"
  | .fieldRefused _ _ => "parser_node_ext::errors"
  | .queriesLoaded _ _ => "parser_node_ext::config::loader"
  | .queryFailed _ _ => "parser_node_ext::config::runner"

def message : Event → String
  | .nodeBuilt _ _ => "built node"
  | .treeRead _ _ => "ingested tree"
  | .fieldRefused _ _ => "unsupported field"
  | .queriesLoaded _ _ => "loaded query file"
  | .queryFailed _ _ => "query failed"

def fields : Event → List (String × Value)
  | .nodeBuilt type children => [("node_type", .bare type.tag), ("children", .count children)]
  | .treeRead nodes root => [("nodes", .count nodes), ("root", .bare root.tag)]
  | .fieldRefused field type => [("field", .quoted field), ("node_type", .bare type.tag)]
  | .queriesLoaded name queries => [("name", .bare name), ("queries", .count queries)]
  | .queryFailed id error => [("id", .bare id), ("error", .bare error)]

/-- The names of all that an event records, its message included. -/
def fieldNames (e : Event) : List String :=
  "message" :: e.fields.map (fun f => f.1)

end Event

end RubyTree.Log
