/-
Text styles of a terminal.

A styled text stands between the sequence of its style and the sequence that ends all styles. Where
a text ends all styles itself, its own style begins again.
-/

namespace RubyTree.Text

/-- How a text stands out. -/
inductive Style where
  | bold
  | dimmed
  | underlined
  | red
  | green
  | yellow
  | redBold
deriving DecidableEq

namespace Style

/-- The numbers that select a style. -/
def code : Style → String
  | .bold => "1"
  | .dimmed => "2"
  | .underlined => "4"
  | .red => "31"
  | .green => "32"
  | .yellow => "33"
  | .redBold => "1;31"

/-- The sequence that begins a style. -/
def start (s : Style) : List Char :=
  "\x1b[".toList ++ s.code.toList ++ ['m']

/-- The sequence that ends all styles. -/
def reset : List Char :=
  "\x1b[0m".toList

/-- A text in which `start` follows every reset. -/
def resume (start : List Char) : List Char → List Char
  | '\x1b' :: '[' :: '0' :: 'm' :: rest => reset ++ start ++ resume start rest
  | c :: rest => c :: resume start rest
  | [] => []

/-- A text in a style, when there are styles at all. -/
def paint (styled : Bool) (s : Style) (text : String) : String :=
  if styled then String.ofList (s.start ++ resume s.start text.toList ++ reset) else text

/-- A text as it is between the sequences of some styles and the reset. -/
def wrap (styles : List Style) (text : String) : String :=
  String.ofList (styles.flatMap start ++ text.toList ++ reset)

/-- Whether there are styles: a variable may force or forbid them, and else the output has to be a
terminal. -/
def enabled (isTerminal : Bool) (env : String → Option String) : Bool :=
  let on (name : String) : Option Bool := (env name).map (· != "0")
  if on "CLICOLOR_FORCE" = some true then true
  else if (env "NO_COLOR").isSome then false
  else (on "CLICOLOR").getD true && isTerminal

end Style

end RubyTree.Text
