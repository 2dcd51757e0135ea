import NodeHeap.Error
import NodeHeap.Memory.Word

/-!
# Records of a program

What a program keeps in memory for itself, besides the blocks that it hands out. A list of records is
no longer than half the words of the machine can number its bytes, and the machine has to grant the memory
for it. A list that grows past its room moves to room for all of its records, and for twice as many as it
had room for before.
-/

namespace NodeHeap

/-- Whether a machine grants a piece of memory of so many bytes. -/
abbrev Grants := Nat → Bool

/-- The most bytes that a list of records takes. -/
def largestList : Nat := wordLimit / 2 - 1

/-- Whether the program gets room for `count` records of `width` bytes each. -/
def reserveRecords (grants : Grants) (count width : Nat) : Except Halt Unit :=
  if largestList < count * width then .error .capacityOverflow
  else if grants (count * width) then .ok ()
  else .error (.recordsExhausted (count * width))

/-- A list of records that grows. -/
structure RecordList where
  count : Nat := 0
  /-- How many records there is room for. -/
  room : Nat := 0
  deriving DecidableEq, Repr

/-- The list with a number of records more, of `width` bytes each. -/
def RecordList.extend (grants : Grants) (l : RecordList) (width more : Nat) : Except Halt RecordList := do
  let count := l.count + more
  if count ≤ l.room then return { l with count }
  else
    let room := max (max (2 * l.room) count) 4
    reserveRecords grants room width
    return { count, room }

end NodeHeap
