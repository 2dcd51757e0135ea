/-!
# Columns and lists in reports

Right-aligned columns and the bracketed form of a list of numbers.
-/

namespace NodeHeap.Text

/-- The number in decimal, with blanks in front up to `width`; a longer number is kept whole. -/
def column (width n : Nat) : String :=
  let digits := toString n
  "".pushn ' ' (width - digits.length) ++ digits

/-- Numbers in brackets, parted by a comma and a blank. -/
def bracketed (ns : List Nat) : String :=
  "[" ++ ", ".intercalate (ns.map fun n => toString n) ++ "]"

/-- An optional number, in words: `Some(n)` or `None`. -/
def optional : Option Nat → String
  | some n => s!"Some({n})"
  | none => "None"

end NodeHeap.Text
