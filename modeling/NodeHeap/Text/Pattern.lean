import NodeHeap.Text.Alphanumeric
import NodeHeap.Text.Blank

/-!
# Patterns

A pattern is a regular expression that a matcher without tables of Unicode's classes and cases can be
built for, and that matches whole characters. `Pattern.check` says whether a text is one; nothing is
matched here.

A pattern is read from the left. Flags that are set on the way hold up to the end of the group they are
set in, and decide what may follow:

* with `u`, as at the start, there are no classes of letters, digits or blanks, and with `i` besides
  there are no single characters, as their cases would have to be known;
* without `u` no part of a pattern may match a byte that is not ASCII, and so neither a dot nor what is
  left over by a class may stand in it;
* with `x` blanks do not count, nor does what follows a hash up to the end of the line.

An edge of a word can be met in a pattern only without `u`. Of a text that is no pattern for this and for
another reason the other one is reported.

What is kept of a part of a pattern while it is read is how deep it is nested.
-/

namespace NodeHeap.Text

/-- Why a text is no pattern. -/
inductive PatternFault where
  | malformed
  /-- It asks for an edge of a word, and words are those of Unicode. -/
  | wordEdge
  deriving DecidableEq, Repr

/-- The fault in words. -/
def PatternFault.message : PatternFault → String
  | malformed => "error building NFA"
  | wordEdge =>
    "unsupported regex feature for DFAs: cannot build DFAs for regexes with Unicode word boundaries; " ++
      "switch to ASCII word boundaries, or heuristically enable Unicode word boundaries or use a " ++
      "different regex engine"

namespace Pattern

/-- How deep the parts of a pattern can be nested. -/
def nestingLimit : Nat := 250

/-- The flags that decide what a pattern can hold. -/
structure Mode where
  /-- Whether blanks and comments do not count. -/
  verbose : Bool := false
  /-- Whether the case of a character does not count. -/
  anyCase : Bool := false
  /-- Whether characters are those of Unicode, and not only those of ASCII. -/
  unicode : Bool := true
  deriving DecidableEq, Repr

/-- The letters of all flags. -/
def flagLetters : List Char := ['i', 'm', 's', 'U', 'u', 'R', 'x']

/-- The mode with a flag set or taken back. Other flags do not decide what a pattern can hold. -/
def Mode.set (m : Mode) (flag : Char) (on : Bool) : Mode :=
  if flag = 'x' then { m with verbose := on }
  else if flag = 'i' then { m with anyCase := on }
  else if flag = 'u' then { m with unicode := on }
  else m

/-- A text without the blanks and comments that it begins with. -/
def skipBlanks : (inComment : Bool) → List Char → List Char
  | _, [] => []
  | true, c :: rest => skipBlanks (c ≠ '\n') rest
  | false, c :: rest =>
    if isBlank c then skipBlanks false rest
    else if c = '#' then skipBlanks true rest
    else c :: rest

/-- What counts of a text. -/
def Mode.skip (m : Mode) (text : List Char) : List Char :=
  if m.verbose then skipBlanks false text else text

theorem length_skipBlanks_le (inComment : Bool) (text : List Char) :
    (skipBlanks inComment text).length ≤ text.length := by
  induction text generalizing inComment with
  | nil => simp [skipBlanks]
  | cons c rest ih =>
    cases inComment
    · simp only [skipBlanks]
      split
      · exact Nat.le_succ_of_le (ih false)
      · split
        · exact Nat.le_succ_of_le (ih true)
        · exact Nat.le_refl _
    · exact Nat.le_succ_of_le (ih _)

theorem length_skip_le (m : Mode) (text : List Char) : (m.skip text).length ≤ text.length := by
  unfold Mode.skip
  split
  · exact length_skipBlanks_le false text
  · exact Nat.le_refl _

/-- Whether a character may stand for itself, outside of a class; `byte` says whether it is given as a
byte. -/
def Mode.allows (m : Mode) (c : Char) (byte : Bool) : Bool :=
  if m.unicode then !m.anyCase else !byte || c.toNat < 0x80

/-- Whether a character may stand for itself in a class. -/
def Mode.allowsInClass (m : Mode) (c : Char) : Bool :=
  if m.unicode then !m.anyCase else c.toNat < 0x80

/-- The depth of what holds parts of the given depths together. A single part needs nothing around. -/
def joined : List Nat → Nat
  | [] => 0
  | [depth] => depth
  | depths => depths.foldl max 0 + 1

/-! ## Single characters -/

/-- What a backslash and what follows it stand for. -/
inductive Escape where
  | char (c : Char) (byte : Bool)
  /-- The letters, digits or blanks of ASCII. -/
  | kind
  /-- The start or the end of the text. -/
  | border
  | wordEdge
  deriving DecidableEq, Repr

/-- The value of a hexadecimal digit. -/
def hexDigit? (c : Char) : Option Nat :=
  if '0' ≤ c && c ≤ '9' then some (c.toNat - '0'.toNat)
  else if 'a' ≤ c && c ≤ 'f' then some (c.toNat - 'a'.toNat + 10)
  else if 'A' ≤ c && c ≤ 'F' then some (c.toNat - 'A'.toNat + 10)
  else none

/-- Reads a character given by so many hexadecimal digits, of which those before make `value`. -/
def readHex (m : Mode) (value : Nat) : (digits : Nat) → List Char → Option (Char × List Char)
  | 0, text => if value.isValidChar then some (Char.ofNat value, text) else none
  | digits + 1, text =>
    match m.skip text with
    | [] => none
    | c :: rest => do
      readHex m (value * 16 + (← hexDigit? c)) digits rest

/-- The character that a letter stands for behind a backslash. -/
def controlOf? (letter : Char) : Option Char :=
  match letter with
  | 'a' => some '\x07'
  | 'f' => some '\x0c'
  | 't' => some '\t'
  | 'n' => some '\n'
  | 'r' => some '\r'
  | 'v' => some '\x0b'
  | _ => none

/-- Whether a character stands for itself behind a backslash. -/
def isPlainEscape (c : Char) : Bool :=
  c.toNat < 0x80 && !c.isAlphanum && c ≠ '<' && c ≠ '>'

/-- Reads what follows a backslash. -/
def readEscape (m : Mode) : List Char → Option (Escape × List Char)
  | [] => none
  | c :: rest =>
    if isPlainEscape c then some (.char c false, rest)
    else match controlOf? c with
      | some control => some (.char control false, rest)
      | none =>
        if c = 'x' then (readHex m 0 2 rest).map fun read => (.char read.1 true, read.2)
        else if c = 'u' then (readHex m 0 4 rest).map fun read => (.char read.1 false, read.2)
        else if c = 'U' then (readHex m 0 8 rest).map fun read => (.char read.1 false, read.2)
        else if c = 'A' || c = 'z' then some (.border, rest)
        else if c = 'b' || c = 'B' || c = '<' || c = '>' then some (.wordEdge, rest)
        else if (c = 'd' || c = 's' || c = 'w') && !m.unicode then some (.kind, rest)
        else none

/-! ## Classes -/

/-- The names of classes. -/
def classNames : List String :=
  ["alnum", "alpha", "ascii", "blank", "cntrl", "digit", "graph", "lower", "print", "punct", "space",
    "upper", "word", "xdigit"]

/-- Reads the name of a class behind an opening bracket: whether the class is taken back, and what
follows. -/
def readName? : List Char → Option (Bool × List Char)
  | ':' :: text =>
    let (negated, text) := match text with
      | '^' :: rest => (true, rest)
      | _ => (false, text)
    match text.dropWhile (· ≠ ':') with
    | ':' :: ']' :: rest =>
      if classNames.contains (String.ofList (text.takeWhile (· ≠ ':'))) then some (negated, rest)
      else none
    | _ => none
  | _ => none

/-- Reads a character of a class: the character, unless it is the name of a kind. -/
def readMember (m : Mode) : List Char → Option (Option Char × List Char)
  | [] => none
  | '\\' :: text => do
    match ← readEscape m text with
    | (.char c _, rest) => if m.allowsInClass c then return (some c, rest) else none
    | (.kind, rest) => return (none, rest)
    | _ => none
  | c :: rest => if m.allowsInClass c then some (some c, rest) else none

/-- What a text shows to one who looks for the end of a range: it looks past blanks, and past the first
hash among them. -/
def Mode.lookAhead (m : Mode) (text : List Char) : List Char :=
  if m.verbose then
    match text.dropWhile isBlank with
    | '#' :: rest => rest.dropWhile isBlank
    | rest => rest
  else text

/-- Whether a hyphen stands for itself because of what follows it. -/
def isLoneHyphen (m : Mode) (rest : List Char) : Bool :=
  match m.lookAhead rest with
  | ']' :: _ | '-' :: _ => true
  | _ => false

/-- Reads a character, a range or a kind of characters in a class. -/
def readRange (m : Mode) (text : List Char) : Option (List Char) := do
  let (first, rest) ← readMember m text
  match m.skip rest with
  | [] => none
  | '-' :: more =>
    if isLoneHyphen m more then return '-' :: more
    else
      let (last, rest) ← readMember m (m.skip more)
      match first, last with
      | some first, some last => if first ≤ last then return rest else none
      | _, _ => none
  | rest => return rest

/-- Reads hyphens at the start of a class, and counts them. -/
def readHyphens (m : Mode) (count : Nat) (text : List Char) : Nat × List Char :=
  match text with
  | '-' :: rest => readHyphens m (count + 1) (m.skip rest)
  | _ => (count, text)
  termination_by text.length
  decreasing_by exact Nat.lt_succ_of_le (length_skip_le m rest)

/-- Reads the start of a class behind its opening bracket, and the hyphens or the closing bracket that
stand for themselves there. -/
def readOpening (m : Mode) (text : List Char) : Option (List Nat × List Char) :=
  let (negated, text) := match m.skip text with
    | '^' :: rest => (true, m.skip rest)
    | text => (false, text)
  if negated && !m.unicode then none
  else match readHyphens m 0 text with
    | (0, ']' :: rest) => if m.allowsInClass ']' then some ([0], rest) else none
    | (0, text) => some ([], text)
    | (count, text) => if m.allowsInClass '-' then some (List.replicate count 0, text) else none

/-- The depth of a class whose last members have the given depths, given that of what stands to the left
of the last operator. -/
def combined (left : Option Nat) (members : List Nat) : Nat :=
  match left with
  | none => joined members
  | some left => max left (joined members) + 1

/-- Reads the members of a class and its closing bracket, and gives the depth of the class. Classes in it
can be nested so many levels deep. -/
def readMembers (m : Mode) : (fuel levels : Nat) → (left : Option Nat) → (members : List Nat) →
    List Char → Option (Nat × List Char)
  | 0, _, _, _, _ => none
  | fuel + 1, levels, left, members, text =>
    match m.skip text with
    | [] => none
    | ']' :: rest => some (combined left members + 1, rest)
    | '[' :: rest =>
      match readName? rest with
      | some (negated, rest) =>
        if (if m.unicode then m.anyCase else negated) then none
        else readMembers m fuel levels left (0 :: members) rest
      | none =>
        match levels with
        | 0 => none
        | inner + 1 => do
          let (opening, rest) ← readOpening m rest
          let (depth, rest) ← readMembers m fuel inner none opening rest
          readMembers m fuel levels left (depth :: members) rest
    | '&' :: '&' :: rest | '-' :: '-' :: rest | '~' :: '~' :: rest =>
      readMembers m fuel levels (some (combined left members)) [] rest
    | text => do
      readMembers m fuel levels left (0 :: members) (← readRange m text)

/-- Reads a class behind its opening bracket, and gives its depth. -/
def readClass (m : Mode) (fuel levels : Nat) (text : List Char) : Option (Nat × List Char) := do
  let (opening, rest) ← readOpening m text
  readMembers m fuel levels none opening rest

/-! ## Groups -/

/-- What stands behind the opening bracket of a group. -/
inductive Head where
  /-- Flags that hold from here on, and no group. -/
  | flags (mode : Mode)
  /-- A group with flags of its own. -/
  | group (mode : Mode)
  | named (name : List Char)
  deriving DecidableEq, Repr

/-- Whether a text can name a group. -/
def isGroupName : List Char → Bool
  | [] => false
  | c :: rest =>
    (c = '_' || isAlphabetic c) &&
      rest.all fun c => c = '_' || c = '.' || c = '[' || c = ']' || isAlphanumeric c

/-- Reads flags up to their end; those read before are given, last first. A hyphen takes back the flags
behind it. -/
def readFlags (m : Mode) (before : List Char) : List Char → Option (Head × List Char)
  | [] => none
  | c :: rest =>
    if c = ':' || c = ')' then
      if before.head? = some '-' then none
      else if c = ':' then some (.group m, rest)
      else if before.isEmpty then none
      else some (.flags m, rest)
    else if before.contains c then none
    else if c = '-' then readFlags m (c :: before) rest
    else if flagLetters.contains c then
      readFlags (m.set c (!before.contains '-')) (c :: before) rest
    else none

/-- Reads the name of a group. -/
def readGroupName (text : List Char) : Option (Head × List Char) :=
  let name := text.takeWhile (· ≠ '>')
  match text.dropWhile (· ≠ '>') with
  | [] => none
  | _ :: rest => if isGroupName name then some (.named name, rest) else none

/-- Reads what stands behind the opening bracket of a group. -/
def readHead (m : Mode) (text : List Char) : Option (Head × List Char) :=
  match m.skip text with
  | '?' :: '=' :: _ | '?' :: '!' :: _ | '?' :: '<' :: '=' :: _ | '?' :: '<' :: '!' :: _ => none
  | '?' :: 'P' :: '<' :: rest | '?' :: '<' :: rest => readGroupName rest
  | '?' :: rest => readFlags m [] rest
  | rest => some (.group m, rest)

/-! ## Patterns -/

/-- A part of a pattern: one of some depth, or flags, which cannot be repeated. -/
inductive Part where
  | flags
  | piece (depth : Nat)
  deriving DecidableEq, Repr

/-- How deep a part is nested. -/
def Part.depth : Part → Nat
  | flags => 0
  | piece depth => depth

/-- How far a pattern is read. -/
structure Reading where
  mode : Mode := {}
  /-- The names of the groups so far. -/
  names : List (List Char) := []
  /-- Whether the edge of a word was asked for where words are those of Unicode. -/
  wordEdge : Bool := false
  deriving DecidableEq, Repr

/-- Reads a part that is neither a group nor a class. -/
def readSingle (r : Reading) : List Char → Option (Reading × List Char)
  | [] => none
  | '\\' :: text => do
    match ← readEscape r.mode text with
    | (.char c byte, rest) => if r.mode.allows c byte then return (r, rest) else none
    | (.wordEdge, rest) => return ({ r with wordEdge := r.wordEdge || r.mode.unicode }, rest)
    | (.kind, rest) | (.border, rest) => return (r, rest)
  | c :: rest =>
    if c = '^' || c = '$' then some (r, rest)
    else if c = '.' then if r.mode.unicode then some (r, rest) else none
    else if c = '\x7b' then none
    else if r.mode.allows c false then some (r, rest)
    else none

/-- The depths of the alternatives with that of one more, of which the parts are given. -/
def alternatives (parts : List Part) (others : List Nat) : List Nat :=
  joined (parts.map Part.depth) :: others

/-- The reading inside of a group, which may not have a name that was given before. -/
def Reading.enter? (r : Reading) : Head → Option Reading
  | .flags _ => none
  | .group mode => some { r with mode }
  | .named name => if r.names.contains name then none else some { r with names := name :: r.names }

/-- Reads parts up to the end of a text or of a group, and gives the depth of all of them. The parts
since the last bar are given, last first, and the depths of the alternatives in front of it. Groups and
classes in it can be nested so many levels deep. -/
def readParts : (fuel levels : Nat) → Reading → (before : List Part) → (others : List Nat) →
    List Char → Option (Nat × Reading × List Char)
  | 0, _, _, _, _, _ => none
  | fuel + 1, levels, r, before, others, text =>
    match r.mode.skip text with
    | [] => some (joined (alternatives before others), r, [])
    | ')' :: rest => some (joined (alternatives before others), r, ')' :: rest)
    | '|' :: rest => readParts fuel levels r [] (alternatives before others) rest
    | '[' :: rest => do
      let (depth, rest) ← readClass r.mode fuel levels rest
      readParts fuel levels r (.piece depth :: before) others rest
    | '(' :: rest => do
      match ← readHead r.mode rest with
      | (.flags mode, rest) => readParts fuel levels { r with mode } (.flags :: before) others rest
      | (head, rest) =>
        match levels with
        | 0 => none
        | inner + 1 =>
          let (depth, inside, rest) ← readParts fuel inner (← r.enter? head) [] [] rest
          match rest with
          | ')' :: rest =>
            readParts fuel levels { inside with mode := r.mode } (.piece (depth + 1) :: before) others
              rest
          | _ => none
    | c :: rest =>
      if c = '?' || c = '*' || c = '+' then
        match before, rest with
        | .piece depth :: before, '?' :: rest | .piece depth :: before, rest =>
          readParts fuel levels r (.piece (depth + 1) :: before) others rest
        | _, _ => none
      else do
        let (r, rest) ← readSingle r (c :: rest)
        readParts fuel levels r (.piece 0 :: before) others rest

/-- Whether a text is a pattern, and why it is none. -/
def check (text : List Char) : Except PatternFault Unit :=
  match readParts (text.length + 1) nestingLimit {} [] [] text with
  | some (depth, r, []) =>
    if nestingLimit < depth then .error .malformed
    else if r.wordEdge then .error .wordEdge
    else .ok ()
  | _ => .error .malformed

end Pattern

end NodeHeap.Text
