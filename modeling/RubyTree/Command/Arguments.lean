/-
Reading the arguments of the program.

An option has a long name, `--path`, and a short one, `-p`. Its value follows behind `=`, at once
behind the short name, or as the next argument unless that begins with a hyphen. Behind `--`
everything is an operand.

A value is judged when the argument behind it is read, or at the end; only a value in the same
argument as its option is judged at once. An argument that is unknown or too many is refused before
the value in front of it is judged.
-/

import RubyTree.ChildPath
import RubyTree.Command.Usage

namespace RubyTree.Command

/-- Why there is no command to run. -/
inductive Stop where
  | help (of : Option Verb)
  | version
  | refused (of : Option Verb) (c : Complaint)
deriving DecidableEq

/-- What a value is given for. -/
inductive Target where
  | operand (o : Operand)
  | switch (s : Switch)
deriving DecidableEq

/-- What is not judged yet: nothing, an option that has no value so far, or a value. -/
inductive Pending where
  | nothing
  | open (s : Switch)
  | value (target : Target) (text : String)
deriving DecidableEq

/-- What has been read of the arguments of a command. -/
structure Progress where
  operands : List String
  source : Option String
  path : Option (List Nat)
  all : Bool
  pending : Pending
  onlyOperands : Bool
deriving DecidableEq

namespace Progress

def start : Progress := ⟨[], none, none, false, .nothing, false⟩

/-! ### Judging -/

/-- A text as the name of a file. -/
def file (label text : String) : Except Complaint String :=
  if text = "" then .error (.noValue label) else .ok text

def takeSwitch (p : Progress) (s : Switch) (text : String) : Except Complaint Progress :=
  match s with
  | .source =>
    if p.source.isSome then .error (.repeated s)
    else (file s.label text).map (fun name => { p with source := some name })
  | .path =>
    if p.path.isSome then .error (.repeated s)
    else
      match ChildPath.parse text with
      | .ok path => .ok { p with path := some path }
      | .error part => .error (.badPath text part)
  | _ => .ok p

def takeOperand (p : Progress) (o : Operand) (text : String) : Except Complaint Progress :=
  let checked := if o.isFile then file o.label text else .ok text
  checked.map (fun t => { p with operands := p.operands ++ [t] })

def settle (p : Progress) : Except Complaint Progress :=
  let q := { p with pending := .nothing }
  match p.pending with
  | .nothing => .ok q
  | .open s => .error (.noValue s.label)
  | .value (.switch s) text => q.takeSwitch s text
  | .value (.operand o) text => q.takeOperand o text

/-! ### Arguments -/

/-- The number of operands read, judged or not. -/
def operandCount (p : Progress) : Nat :=
  match p.pending with
  | .value (.operand _) _ => p.operands.length + 1
  | _ => p.operands.length

def operand (v : Verb) (p : Progress) (text : String) : Except Stop Progress :=
  match v.operands[p.operandCount]? with
  | none => .error (.refused v (.unexpected text))
  | some o =>
    match p.settle with
    | .error c => .error (.refused v c)
    | .ok q => .ok { q with pending := .value (.operand o) text }

/-- Reads an option without a value. -/
def flag (v : Verb) (p : Progress) (s : Switch) : Except Stop Progress :=
  match p.settle with
  | .error c => .error (.refused v c)
  | .ok q =>
    match s with
    | .help => .error (.help v)
    | .all => if q.all then .error (.refused v (.repeated s)) else .ok { q with all := true }
    | _ => .ok q

/-- Reads an option that has a value, which may stand in the same argument. -/
def valued (v : Verb) (p : Progress) (s : Switch) (attached : Option String) :
    Except Stop Progress :=
  match p.settle with
  | .error c => .error (.refused v c)
  | .ok q =>
    match attached with
    | none => .ok { q with pending := .open s }
    | some text => (q.takeSwitch s text).mapError (.refused v)

/-- Reads the characters behind a hyphen, which are short names and perhaps a value. -/
def shorts (v : Verb) (argument : String) (p : Progress) : List Char → Except Stop Progress
  | [] => .ok p
  | c :: cs =>
    match v.switches.find? (fun s => s.short = c) with
    | none => .error (.refused v (.unexpected argument))
    | some s =>
      if s.hasValue then
        match cs with
        | [] => valued v p s none
        | '=' :: text => valued v p s (some (String.ofList text))
        | text => valued v p s (some (String.ofList text))
      else
        match flag v p s with
        | .error stop => .error stop
        | .ok q => shorts v argument q cs

/-- Reads what is behind two hyphens: a long name, and perhaps a value behind `=`. -/
def long (v : Verb) (argument : String) (p : Progress) (cs : List Char) : Except Stop Progress :=
  let name := String.ofList (cs.takeWhile (· != '='))
  let attached := match cs.dropWhile (· != '=') with
    | [] => none
    | _ :: text => some (String.ofList text)
  match v.switches.find? (fun s => s.long = name) with
  | none => .error (.refused v (.unexpected argument))
  | some s =>
    if s.hasValue then valued v p s attached
    else
      match attached with
      | some text => .error (.refused v (.surplusValue text s))
      | none => flag v p s

def step (v : Verb) (p : Progress) (argument : String) : Except Stop Progress :=
  if p.onlyOperands then operand v p argument
  else
    match argument.toList with
    | ['-', '-'] => .ok { p with onlyOperands := true }
    | '-' :: '-' :: name => long v argument p name
    | '-' :: c :: cs => shorts v argument p (c :: cs)
    | _ =>
      match p.pending with
      | .open s => .ok { p with pending := .value (.switch s) argument }
      | _ => operand v p argument

/-- The command that was read, if no operand is missing. -/
def finish (v : Verb) (p : Progress) : Except Complaint Command := do
  let p ← p.settle
  let path := p.path.getD []
  match v, p.operands with
  | .dump, [tree] => .ok (.dump tree p.source path)
  | .get, [tree, field] => .ok (.get tree field p.source path)
  | .value, [tree] => .ok (.value tree p.source path)
  | .run, [queries, tree] => .ok (.run queries tree p.source)
  | .types, [] => .ok (.types p.all)
  | _, given => .error (.missing (v.operands.drop given.length))

end Progress

/-- Reads the arguments of a command. -/
def ofArguments (v : Verb) (arguments : List String) : Except Stop Command := do
  let p ← arguments.foldlM (Progress.step v) Progress.start
  (p.finish v).mapError (.refused v)

/-- What the help is asked on. -/
def helpTopic (words : List String) : Stop :=
  match words with
  | [] => .help none
  | ["help"] => .help none
  | word :: rest =>
    match Verb.ofWord? word, rest with
    | some v, [] => .help v
    | some _, extra :: _ => .refused none (.unknownCommand extra)
    | none, _ => .refused none (.unknownCommand word)

/-- What an argument in the place of the command's name is, when it begins with a hyphen. -/
def leadingSwitch (argument : String) : Stop :=
  match argument.toList with
  | ['-', '-', 'h', 'e', 'l', 'p'] => .help none
  | ['-', '-', 'v', 'e', 'r', 's', 'i', 'o', 'n'] => .version
  | '-' :: '-' :: _ => .refused none (.unexpected argument)
  | '-' :: 'h' :: _ => .help none
  | '-' :: 'V' :: _ => .version
  | '-' :: _ :: _ => .refused none (.unexpected argument)
  | _ => .refused none (.unknownCommand argument)

/-- Reads the arguments of the program. -/
def parse : List String → Except Stop Command
  | [] => .error (.refused none .noCommand)
  | word :: rest =>
    match Verb.ofWord? word with
    | some v => ofArguments v rest
    | none => .error (if word = "help" then helpTopic rest else leadingSwitch word)

end RubyTree.Command
