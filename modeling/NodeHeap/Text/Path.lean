import NodeHeap.Text.Blank

/-!
# Paths

Two spellings name the same place when their components agree: repeated and trailing slashes and
inner `.` components do not count; `..` is a component like any other. A spelling that is too long
names no place (`Path.room?`). Where it matters what is met on the way, no dot may be left out
(`Path.steps`).
-/

namespace NodeHeap.Text

/-- A path as its components. -/
structure Path where
  /-- Whether the path starts at the root. -/
  rooted : Bool
  parts : List String
  deriving DecidableEq, Repr

/-- The components of a path's spelling. A leading `.` of a relative path is kept. -/
def Path.ofString (spelling : String) : Path :=
  let rooted := spelling.toList.head? = some '/'
  let raw := (pieces (· = '/') spelling.toList).map String.ofList
  let leading := if ¬rooted ∧ raw.head? = some "." then ["."] else []
  ⟨rooted, leading ++ raw.filter fun part => part ≠ "" ∧ part ≠ "."⟩

/-- The steps of the way that a spelling describes: its names, and at last a dot if it ends in a slash,
which asks for a directory as the dot does. An empty spelling asks for what has no name. -/
def Path.steps (spelling : String) : List String :=
  let raw := (pieces (· = '/') spelling.toList).map String.ofList
  if raw = [""] then raw
  else raw.filter (· ≠ "") ++ (if raw.getLast? = some "" then ["."] else [])

/-- The most bytes that a path can have. -/
def Path.limit : Nat := 4095

/-- How many bytes can stand behind a path and a slash; none if the path is too long itself. -/
def Path.room? (spelling : String) : Option Nat :=
  let size := spelling.utf8ByteSize
  if limit < size then none
  else some (limit - (if spelling.toList.getLast? = some '/' then size else size + 1))

end NodeHeap.Text
