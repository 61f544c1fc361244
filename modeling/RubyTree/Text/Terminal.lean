/-
What a terminal shows of a text.

Control characters are not shown, except for white space, and neither are the sequences that an
escape character begins. White space inside of a sequence is shown, and with it all that follows up
to the next control character, where the sequence goes on.
-/

namespace RubyTree.Text.Terminal

/-- What is being read: plain text, or a sequence.

* `escape`: what comes behind an escape character;
* `shift`: a short sequence with characters in front of its last one;
* `control`: a control sequence, such as one that selects a style;
* `header`, `parameters`, `selection`: the parts in front of a device string;
* `device`: a string that is not for reading, up to its terminator;
* `command`: a command to the system, up to a bell. -/
inductive Mode where
  | plain
  | escape
  | shift
  | control
  | header
  | parameters
  | selection
  | device
  | command
deriving DecidableEq

/-- Whether a character is white space that moves the place where text is shown. -/
def isLayout (c : Char) : Bool :=
  c == ' ' || c == '\t' || c == '\n' || c == '\x0c' || c == '\r'

/-- Whether the encoding of a character holds the byte that ends a device string. -/
def endsDevice (c : Char) : Bool :=
  (String.utf8EncodeChar c).contains 0x9c

/-- The mode behind a control character, and whether it is shown. -/
def afterControl (m : Mode) (c : Char) : Mode × Bool :=
  match m with
  | .plain | .escape | .shift | .control => (m, isLayout c)
  | .command => (if c = '\x07' then .plain else .command, false)
  | _ => (m, false)

/-- The mode behind an escape character and a printable one. -/
def afterEscape (c : Char) : Mode :=
  if c.toNat < 0x30 then .shift
  else
    match c with
    | '[' => .control
    | ']' => .command
    | 'P' => .header
    | 'X' | '^' | '_' => .device
    | _ => .plain

/-- The mode behind a printable character in a mode. -/
def afterPrintable (m : Mode) (c : Char) : Mode :=
  match m with
  | .plain => .plain
  | .escape => afterEscape c
  | .shift => if c.toNat < 0x30 then .shift else .plain
  | .control => if c.toNat < 0x40 then .control else .plain
  | .header =>
    if c.toNat < 0x30 then .selection else if c.toNat < 0x40 then .parameters else .device
  | .parameters =>
    if c.toNat < 0x30 then .selection else if c.toNat < 0x3c then .parameters else .device
  | .selection => if c.toNat < 0x30 then .selection else .device
  | .device => .device
  | .command => .command

/-- The mode behind a character, and whether it is shown. -/
def after (m : Mode) (c : Char) : Mode × Bool :=
  if c = '\x1b' then (.escape, false)
  else if c = '\x18' || c = '\x1a' then (.plain, false)
  else if c.toNat < 0x20 then afterControl m c
  else if c = '\x7f' then (m, false)
  else if c.toNat < 0x7f then (afterPrintable m c, m == .plain)
  else if m = .device && endsDevice c then (.plain, false)
  else (m, m == .plain)

/-- The characters that are shown. While they flow, whatever plain text shows is shown in any mode,
and a character beyond ASCII brings plain text back. -/
def shown (flowing : Bool) (m : Mode) : List Char → List Char
  | [] => []
  | c :: cs =>
    if flowing && (after .plain c).2 then
      c :: shown true (if c.toNat < 0x7f then m else .plain) cs
    else
      let next := after m c
      if next.2 then c :: shown true next.1 cs else shown false next.1 cs

/-- What a terminal shows of a text. -/
def visible (s : String) : String :=
  String.ofList (shown false .plain s.toList)

end RubyTree.Text.Terminal
