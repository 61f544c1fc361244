/-
Commands: what the program can be asked to do.

Every command has a name, operands that have to be given in order, and options.
-/

namespace RubyTree

/-- The names of commands. -/
inductive Verb where
  | dump
  | get
  | value
  | run
  | types
deriving DecidableEq

/-- What is given by its position. -/
inductive Operand where
  | tree
  | field
  | queries
deriving DecidableEq

/-- What is given by its name. -/
inductive Switch where
  | source
  | path
  | all
  | help
  | version
deriving DecidableEq

namespace Verb

def all : List Verb := [.dump, .get, .value, .run, .types]

def word : Verb → String
  | .dump => "dump"
  | .get => "get"
  | .value => "value"
  | .run => "run"
  | .types => "types"

def ofWord? (word : String) : Option Verb :=
  all.find? (fun v => v.word = word)

def operands : Verb → List Operand
  | .dump => [.tree]
  | .get => [.tree, .field]
  | .value => [.tree]
  | .run => [.queries, .tree]
  | .types => []

def switches : Verb → List Switch
  | .dump => [.source, .path, .help]
  | .get => [.source, .path, .help]
  | .value => [.source, .path, .help]
  | .run => [.source, .help]
  | .types => [.all, .help]

end Verb

namespace Operand

def label : Operand → String
  | .tree => "<TREE>"
  | .field => "<FIELD>"
  | .queries => "<QUERIES>"

/-- Whether an operand names a file, so that it may not be empty. -/
def isFile : Operand → Bool
  | .field => false
  | _ => true

end Operand

namespace Switch

def long : Switch → String
  | .source => "source"
  | .path => "path"
  | .all => "all"
  | .help => "help"
  | .version => "version"

def short : Switch → Char
  | .source => 's'
  | .path => 'p'
  | .all => 'a'
  | .help => 'h'
  | .version => 'V'

def hasValue : Switch → Bool
  | .source => true
  | .path => true
  | _ => false

def label : Switch → String
  | .source => "--source <SOURCE>"
  | .path => "--path <PATH>"
  | s => "--" ++ s.long

end Switch

/-- A command with everything that it needs. -/
inductive Command where
  | dump (tree : String) (source : Option String) (path : List Nat)
  | get (tree : String) (field : String) (source : Option String) (path : List Nat)
  | value (tree : String) (source : Option String) (path : List Nat)
  | run (queries : String) (tree : String) (source : Option String)
  | types (all : Bool)
deriving DecidableEq

def Command.files : Command → List String
  | .dump tree source _ => tree :: source.toList
  | .get tree _ source _ => tree :: source.toList
  | .value tree source _ => tree :: source.toList
  | .run queries tree source => queries :: tree :: source.toList
  | .types _ => []

end RubyTree
