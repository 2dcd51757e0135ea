/-!
# Blank characters

The characters of Unicode's `White_Space` property, and what is cut at them: `trim` drops them at
both ends, `words` are the runs between them. `pieces` cuts a list at every element of a kind and
keeps the empty pieces.
-/

namespace NodeHeap.Text

/-- First and last code point of each run of `White_Space` characters, ascending. -/
def blankRanges : List (Nat × Nat) :=
  [(0x09, 0x0D), (0x20, 0x20), (0x85, 0x85), (0xA0, 0xA0), (0x1680, 0x1680), (0x2000, 0x200A),
   (0x2028, 0x2029), (0x202F, 0x202F), (0x205F, 0x205F), (0x3000, 0x3000)]

/-- Whether a character has the property `White_Space`. -/
def isBlank (c : Char) : Bool :=
  blankRanges.any fun run => run.1 ≤ c.toNat && c.toNat ≤ run.2

/-- The text without the blanks at its ends. -/
def trim (text : List Char) : List Char :=
  ((text.dropWhile isBlank).reverse.dropWhile isBlank).reverse

/-- The pieces between the elements that satisfy `cut`; one more than there are such elements. -/
def pieces {α : Type} (cut : α → Bool) : List α → List (List α)
  | [] => [[]]
  | x :: rest =>
    if cut x then [] :: pieces cut rest
    else match pieces cut rest with
      | [] => [[x]]
      | piece :: more => (x :: piece) :: more

/-- The non-empty runs of characters between blanks. -/
def words (text : List Char) : List (List Char) :=
  (pieces isBlank text).filter fun word => !word.isEmpty

end NodeHeap.Text
