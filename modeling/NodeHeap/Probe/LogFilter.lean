import NodeHeap.Error
import NodeHeap.Text.Alphanumeric
import NodeHeap.Text.Blank
import NodeHeap.Text.Decimal
import NodeHeap.Text.Pattern

/-!
# Filters of the log

A filter is a list of directives between commas. A directive is a level, or a target, or a target and
a level with `=` between them. A target is a name, which begins with a letter, a number or one of `-`,
`:` and `_`, and has neither `=` nor an opening bracket in it; a span in brackets, with a field in braces
behind its own name if there is one; or a name and a span. A field is a name, or a name and a value with
`=` between them, and the value is a number or a pattern. A directive that is anything else, or whose
level is none, is passed over, and the log is told so.

A directive is read without the blanks at its ends. Its parts, though, are cut out of what is written,
at as many bytes from the left as they have in front of them in what is read. Blanks in front of a
directive move the cuts to the left, then, and may move one into a character.

* `Directive.check`: whether a directive is followed.
* `LogFilter.read`: what is said of the directives of a filter that are passed over.
-/

namespace NodeHeap.Probe

/-- The names of the log levels. A level may also be left out. -/
def levelNames : List String := ["off", "error", "warn", "info", "debug", "trace", ""]

/-- Whether a text means a log level: a name in any case, or a number up to five. -/
def isLevel (text : List Char) : Bool :=
  levelNames.contains (String.ofList text).toLower ||
    (Text.Decimal.parse? wordLimit text).any fun n => n ≤ 5

/-- Why a directive is not followed. -/
inductive DirectiveFault where
  | malformed
  | unknownLevel
  /-- The value of a field is no pattern. -/
  | badValue (fault : Text.PatternFault)
  /-- A cut at this byte goes through a character. -/
  | splitCharacter (index : Nat)
  deriving DecidableEq, Repr

/-- The fault in words. -/
def DirectiveFault.message : DirectiveFault → String
  | malformed => "invalid filter directive"
  | unknownLevel =>
    "error parsing level filter: expected one of \"off\", \"error\", \"warn\", \"info\", \"debug\", " ++
      "\"trace\", or a number 0-5"
  | badValue fault => "invalid field filter: " ++ fault.message
  | splitCharacter index => (Halt.splitCharacter index).message

def byteLength (text : List Char) : Nat := text.foldr (fun c n => c.utf8Size + n) 0

/-- The text behind its first `index` bytes, if they are whole characters. -/
def dropBytes? : (index : Nat) → List Char → Option (List Char)
  | 0, text => some text
  | _ + 1, [] => none
  | index + 1, c :: rest =>
    if c.utf8Size ≤ index + 1 then dropBytes? (index + 1 - c.utf8Size) rest else none
  termination_by _ text => text.length

/-- A directive. -/
structure Directive where
  /-- As it is written. -/
  written : List Char

namespace Directive

def trimmed (d : Directive) : List Char := Text.trim d.written

/-- What is cut off in front of `rest`, which is an end of the directive as it is read. -/
def cut (d : Directive) (rest : List Char) : Except DirectiveFault (List Char) :=
  let index := byteLength d.trimmed - byteLength rest
  match dropBytes? index d.written with
  | some text => .ok text
  | none => .error (.splitCharacter index)

/-- The part between two ends of the directive. -/
def cutBetween (d : Directive) (first last : List Char) : Except DirectiveFault (List Char) := do
  let first ← d.cut first
  let last ← d.cut last
  return first.take (first.length - last.length)

def checkLevel (d : Directive) (level : List Char) : Except DirectiveFault Unit := do
  if isLevel (← d.cut level) then .ok () else .error .unknownLevel

/-- Checks what follows a span. -/
def checkEnd (d : Directive) : List Char → Except DirectiveFault Unit
  | [] => .ok ()
  | '=' :: level => d.checkLevel level
  | _ :: _ => .error .malformed

/-- Checks a field. Its value ends where a second value would begin. -/
def checkField (field : List Char) : Except DirectiveFault Unit :=
  match Text.pieces (· = '=') field with
  | _ :: value :: _ =>
    if Text.Decimal.isReal value then .ok ()
    else (Text.Pattern.check value).mapError .badValue
  | _ => .ok ()

/-- Checks the field of a span and what follows. -/
def checkBraces (d : Directive) (braces : List Char) : Except DirectiveFault Unit := do
  match braces.dropWhile (· ≠ '\x7d') with
  | [] => .error .malformed
  | brace :: rest =>
    let field ← d.cutBetween braces (brace :: rest)
    if braces = brace :: rest then .error .malformed
    checkField field
    match rest with
    | ']' :: rest => d.checkEnd rest
    | _ => .error .malformed

/-- Checks a span and what follows. -/
def checkSpan (d : Directive) (span : List Char) : Except DirectiveFault Unit := do
  match span.dropWhile fun c => c ≠ ']' && c ≠ '\x7b' with
  | [] => .error .malformed
  | mark :: rest =>
    let _ ← d.cutBetween span (mark :: rest)
    if mark = ']' then d.checkEnd rest else d.checkBraces rest

/-- Whether a name may begin with a character. -/
def beginsName (c : Char) : Bool := Text.isAlphanumeric c || c = '-' || c = ':' || c = '_'

/-- Checks a directive that begins with a name. -/
def checkName (d : Directive) (name : List Char) : Except DirectiveFault Unit := do
  match name.dropWhile fun c => c ≠ '=' && c ≠ '[' with
  | [] => .ok ()
  | mark :: rest =>
    let _ ← d.cutBetween name (mark :: rest)
    if mark = '=' then d.checkLevel rest else d.checkSpan rest

/-- Checks that a directive can be followed. -/
def check (d : Directive) : Except DirectiveFault Unit :=
  match d.trimmed with
  | '[' :: span => d.checkSpan span
  | c :: rest => if beginsName c then d.checkName (c :: rest) else .error .malformed
  | [] => .error .malformed

end Directive

/-- What is said of a directive that is passed over. -/
def ignoredLine (directive : List Char) (fault : DirectiveFault) : String :=
  "ignoring `" ++ String.ofList directive ++ "`: " ++ fault.message

/-- What comes of reading a filter. -/
structure LogFilter where
  /-- What is said of the directives that are passed over. -/
  complaints : List String := []
  /-- The halt that reading ended with, if it did not come to the end. -/
  halt : Option Halt := none
  deriving DecidableEq, Repr

/-- Reads directives up to one that halts. -/
def LogFilter.ofDirectives : List (List Char) → LogFilter
  | [] => {}
  | directive :: rest =>
    match (Directive.mk directive).check with
    | .ok () => ofDirectives rest
    | .error (.splitCharacter index) => { halt := some (.splitCharacter index) }
    | .error fault =>
      let filter := ofDirectives rest
      { filter with complaints := ignoredLine directive fault :: filter.complaints }

def LogFilter.read (filter : String) : LogFilter :=
  .ofDirectives ((Text.pieces (· = ',') filter.toList).filter fun directive => !directive.isEmpty)

end NodeHeap.Probe
