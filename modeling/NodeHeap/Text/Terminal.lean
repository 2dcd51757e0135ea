import NodeHeap.Text.Utf8

/-!
# Text for terminals

A terminal takes some bytes for commands and shows the others. A command is a control character, or a
sequence that an escape begins: the escape alone with one character, a control sequence after `[`, or
a string of commands that runs to a mark of its end. `plain` is the text that is left when the commands
are taken out. Line breaks and tabs stay, except inside of a string of commands.

A sequence is read byte by byte. A character of more than one byte inside of it is passed over, save
that one of its bytes may be the mark at which a string of commands ends: what is left of the character
then is not shown either.

* `Sequence.next`: how far a sequence is read after one byte more.
* `plain`: the text without commands.
-/

namespace NodeHeap.Text.Terminal

/-- How far a sequence is read. -/
inductive Sequence where
  /-- Outside of any sequence. -/
  | outside
  /-- Inside of a character, of which so many bytes are left. -/
  | character (left : Nat)
  /-- After an escape. -/
  | escape
  /-- After an escape and characters that are not its last one. -/
  | longEscape
  /-- In a control sequence, which a letter or a sign from `@` to `~` ends. -/
  | control
  /-- At the head of a string of commands for a device, before any parameter. -/
  | device
  /-- In the parameters at the head of a string of commands for a device. -/
  | parameters
  /-- After the parameters at the head of a string of commands for a device. -/
  | longDevice
  /-- In a string of commands, which the byte `0x9C` ends. -/
  | string
  /-- In a string of commands, which a bell ends. -/
  | title
  deriving DecidableEq, Repr

/-- How many bytes follow the first byte of a character of more than one byte. -/
def followers? (b : UInt8) : Option Nat :=
  if 0xC2 ≤ b && b ≤ 0xDF then some 1
  else if 0xE0 ≤ b && b ≤ 0xEF then some 2
  else if 0xF0 ≤ b && b ≤ 0xF4 then some 3
  else none

/-- Whether a byte ends every sequence, without beginning one. -/
def isCancel (b : UInt8) : Bool := b = 0x18 || b = 0x1A

/-- What the byte after an escape leads to. -/
def afterEscape (b : UInt8) : Sequence :=
  if 0x20 ≤ b && b ≤ 0x2F then .longEscape
  else if b = 0x5B then .control
  else if b = 0x5D then .title
  else if b = 0x50 then .device
  else if b = 0x58 || b = 0x5E || b = 0x5F then .string
  else if 0x30 ≤ b && b ≤ 0x7E then .outside
  else .escape

/-- What a byte at the head of a string of commands for a device leads to, given where one that belongs
to a parameter leads. A letter or a sign from `@` to `~` ends the head, and the string itself begins. -/
def afterHead (s : Sequence) (parameter : Sequence) (b : UInt8) : Sequence :=
  if 0x20 ≤ b && b ≤ 0x2F then .longDevice
  else if 0x30 ≤ b && b ≤ 0x3F then parameter
  else if 0x40 ≤ b && b ≤ 0x7E then .string
  else s

/-- How far the sequence is read after a byte that is not shown. A parameter that stands where none may
spoils the head of a string for a device, and the rest of the head counts as the string. -/
def Sequence.next (s : Sequence) (b : UInt8) : Sequence :=
  if b = 0x1B then .escape
  else if isCancel b then .outside
  else match s with
    | .escape => afterEscape b
    | .longEscape => if 0x30 ≤ b && b ≤ 0x7E then .outside else s
    | .control => if 0x40 ≤ b && b ≤ 0x7E then .outside else s
    | .device => afterHead s .parameters b
    | .parameters => afterHead s (if b ≤ 0x3B then s else .string) b
    | .longDevice => afterHead s .string b
    | .string => if b = 0x9C then .outside else s
    | .title => if b = 0x07 then .outside else s
    | .outside | .character _ => s

/-- Whether a byte is a control character that only moves the place of the text after it. -/
def isSpacing (b : UInt8) : Bool := b = 0x09 || b = 0x0A || b = 0x0C || b = 0x0D

/-- Whether a byte is for showing. -/
def Sequence.shows (s : Sequence) (b : UInt8) : Bool :=
  match s with
  | .outside => (0x20 ≤ b && b ≤ 0x7E) || isSpacing b || (followers? b).isSome
  | .character _ => true
  | .escape | .longEscape | .control => isSpacing b
  | .device | .parameters | .longDevice | .string | .title => false

/-- How far the text is read, and whether the byte before was shown. -/
structure Reading where
  sequence : Sequence := .outside
  showing : Bool := false
  deriving DecidableEq, Repr

/-- Whether a byte is shown, and the reading after it. While bytes are shown, a sequence that was left
unfinished does not count. -/
def Reading.read (r : Reading) (b : UInt8) : Bool × Reading :=
  match r.sequence with
  | .character (left + 1) =>
    (true, { sequence := if left = 0 then .outside else .character left, showing := true })
  | s =>
    if (if r.showing then Sequence.outside else s).shows b then
      match followers? b with
      | some left => (true, { sequence := .character left, showing := true })
      | none => (true, { sequence := if r.showing then s else s.next b, showing := true })
    else (false, { sequence := s.next b, showing := false })

/-- The bytes that are shown. -/
def shown (r : Reading) : Bytes → Bytes
  | [] => []
  | b :: rest =>
    match r.read b with
    | (true, r) => b :: shown r rest
    | (false, r) => shown r rest

/-- The text without commands. -/
def plain (text : String) : String := Utf8.lossy (shown {} (Utf8.encode text))

/-- The text in colour, with the colour taken back after it. -/
def marked (text : String) : String := "\x1b[33m" ++ text ++ "\x1b[0m"

end NodeHeap.Text.Terminal
