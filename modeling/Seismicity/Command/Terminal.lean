/-!
# Terminal Control Sequences

A log that is not shown on a terminal holds no control sequences: they are
taken out of it together with all other control characters but blanks.

Inside a sequence, a blank is still shown. The text after it then is text, but
the next control character takes up the sequence where it stood.

## Main definitions

* `Terminal.Mode`: Where in a control sequence a text stands.
* `Terminal.step`: What a character does there.
* `Terminal.strip`: A text without control sequences.
-/

namespace Seismicity

namespace Terminal

/-- Where in a control sequence a text stands. -/
inductive Mode where
  /-- In no sequence. -/
  | ground
  /-- After the escape character. -/
  | escape
  /-- In an escape sequence of several characters. -/
  | escapeIntermediate
  /-- In a sequence that sets how text is shown. -/
  | control
  /-- At the start of a device string. -/
  | deviceEntry
  /-- In the parameters of a device string. -/
  | deviceParameter
  /-- Between the parameters and the content of a device string. -/
  | deviceIntermediate
  /-- In a string that is not shown, up to its terminator. -/
  | content
  /-- In a command to the operating system, up to a bell. -/
  | command
  deriving DecidableEq, Repr

/-- The numbers of the control characters that are blanks. -/
def isBlankControl (n : Nat) : Bool := n = 9 || n = 10 || n = 12 || n = 13

/-- A character that is shown outside of sequences. -/
def isShown (c : Char) : Bool :=
  isBlankControl c.toNat || (32 ≤ c.toNat && c.toNat != 127)

/-- What the character after the escape character begins. -/
def introduced (c : Char) : Mode :=
  if c.toNat < 0x30 then .escapeIntermediate
  else if c = '[' then .control
  else if c = ']' then .command
  else if c = 'P' then .deviceEntry
  else if c = 'X' || c = '^' || c = '_' then .content
  else .ground

/-- A character within a sequence that only ASCII continues; blanks are
    shown. -/
def inSequence (mode next : Mode) (n : Nat) : Mode × Bool :=
  if n < 0x20 then (mode, isBlankControl n) else if 0x7F ≤ n then (mode, false) else (next, false)

/-- A character at the head of a device string, which only ASCII continues. -/
def inHead (mode next : Mode) (n : Nat) : Mode × Bool :=
  if n < 0x20 || 0x7F ≤ n then (mode, false) else (next, false)

/-- A character ends a string when the byte of the string terminator is in its
    encoding. -/
def endsString (c : Char) : Bool := (String.utf8EncodeChar c).contains 0x9C

/-- What a character does: where the text stands after it, and whether it is
    shown. Cancel and substitute end every sequence, and escape begins one. -/
def step (mode : Mode) (c : Char) : Mode × Bool :=
  let n := c.toNat
  if n = 0x18 || n = 0x1A then (.ground, false)
  else if n = 0x1B then (.escape, false)
  else
    match mode with
    | .ground => (.ground, isShown c)
    | .escape => inSequence .escape (introduced c) n
    | .escapeIntermediate =>
      inSequence .escapeIntermediate (if n < 0x30 then .escapeIntermediate else .ground) n
    | .control => inSequence .control (if n < 0x40 then .control else .ground) n
    | .deviceEntry =>
      inHead .deviceEntry
        (if n < 0x30 then .deviceIntermediate else if n < 0x40 then .deviceParameter
          else .content) n
    | .deviceParameter =>
      inHead .deviceParameter
        (if n < 0x30 then .deviceIntermediate else if n < 0x3C then .deviceParameter
          else .content) n
    | .deviceIntermediate =>
      inHead .deviceIntermediate (if n < 0x30 then .deviceIntermediate else .content) n
    | .content => (if endsString c then .ground else .content, false)
    | .command => (if n = 7 then .ground else .command, false)

/-- Takes control sequences out of characters. While `showing`, all that is
    shown outside of sequences is, and only a character beyond ASCII leaves the
    sequence at which the text still stands. -/
def stripFrom (showing : Bool) (mode : Mode) : List Char → List Char
  | [] => []
  | c :: rest =>
    if showing && isShown c then
      c :: stripFrom true (if c.toNat < 128 then mode else .ground) rest
    else
      let (mode, shown) := step mode c
      if shown then c :: stripFrom true mode rest else stripFrom false mode rest

/-- A text without control sequences. -/
def strip (text : String) : String := String.ofList (stripFrom false .ground text.toList)

end Terminal

end Seismicity
