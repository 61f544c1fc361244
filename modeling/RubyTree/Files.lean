/-
Text files.

A program reads files by name through `Files`, so that what it does depends only on their contents.
`Files.ofList` has the files of a working directory: a name leads over the parts between its
slashes, from one directory to the next, and what each directory holds is known from a list.
-/

namespace RubyTree

/-- Why a file could not be read as text. -/
inductive ReadError where
  | missing
  | denied
  | notDirectory
  | directory
  | longName
  | nullInName
  | notText
deriving DecidableEq

def ReadError.message : ReadError → String
  | .missing => "No such file or directory (os error 2)"
  | .denied => "Permission denied (os error 13)"
  | .notDirectory => "Not a directory (os error 20)"
  | .directory => "Is a directory (os error 21)"
  | .longName => "File name too long (os error 36)"
  | .nullInName => "file name contained an unexpected NUL byte"
  | .notText => "stream did not contain valid UTF-8"

/-- The files at hand: the text of a file, by its name. -/
abbrev Files : Type :=
  String → Except ReadError String

/-- What a name in a directory stands for. -/
inductive Content where
  | text (s : String)
  | bytes (bs : ByteArray)
  | directory

def Content.read : Content → Except ReadError String
  | .text s => .ok s
  | .bytes bs =>
    match String.fromUTF8? bs with
    | some s => .ok s
    | none => .error .notText
  | .directory => .error .directory

namespace Files

/-! ### Names -/

def maxNameBytes : Nat := 4095

def maxPartBytes : Nat := 255

/-- The parts of a name between its slashes. -/
def parts (name : String) : List String :=
  name.splitOn "/"

/-- Whether a part of a name leads to where one is. -/
def isHere (part : String) : Bool :=
  part == "" || part == "."

/-- The names from the working directory down to what an entry of a list stands for. -/
def route (name : String) : List String :=
  (parts name).filter (fun part => !isHere part)

/-! ### Places -/

/-- Where a name has led: to a directory below the working directory or to that itself, given by the
names on the way down, to a directory of which nothing is known, or to a file. -/
inductive Place where
  | inside (down : List String)
  | outside
  | file (content : Content)

/-- What a list of entries has at the end of a way down. A directory need not be listed if something
in it is. -/
def place (entries : List (String × Content)) (down : List String) : Except ReadError Place :=
  match entries.find? (fun e => route e.1 = down) with
  | some (_, .directory) => .ok (.inside down)
  | some (_, content) => .ok (.file content)
  | none =>
    if entries.any (fun e => down.isPrefixOf (route e.1)) then .ok (.inside down)
    else .error .missing

/-- The directory above one whose names on the way down are given. -/
def above (down : List String) : Place :=
  if down.isEmpty then .outside else .inside down.dropLast

/-- Where a part of a name leads from a place. -/
def enter (entries : List (String × Content)) (p : Place) (part : String) :
    Except ReadError Place :=
  match p with
  | .file _ => .error .notDirectory
  | .outside =>
    if isHere part || part == ".." then .ok .outside
    else .error (if maxPartBytes < part.utf8ByteSize then .longName else .missing)
  | .inside down =>
    if isHere part then .ok p
    else if part = ".." then .ok (above down)
    else if maxPartBytes < part.utf8ByteSize then .error .longName
    else place entries (down ++ [part])

def start (name : String) : Place :=
  if name.toList.head? = some '/' then .outside else .inside []

/-- The text of what is at a place. -/
def Place.read : Place → Except ReadError String
  | .file content => content.read
  | _ => .error .directory

/-- The files of a working directory, listed by name. -/
def ofList (entries : List (String × Content)) : Files := fun name =>
  if name.toList.contains '\x00' then .error .nullInName
  else if name = "" then .error .missing
  else if maxNameBytes < name.utf8ByteSize then .error .longName
  else
    match (parts name).foldlM (enter entries) (start name) with
    | .ok p => p.read
    | .error e => .error e

end Files

end RubyTree
