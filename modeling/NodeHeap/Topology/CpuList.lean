import NodeHeap.Memory.Records
import NodeHeap.Text.Blank
import NodeHeap.Text.Decimal

/-!
# Lists of processors

A list of processors is written as parts between commas. A part is a number, or a first and a last
number with a hyphen between them; blanks around a part do not count, and a part that is neither is
skipped without an effect on the others. A range from a larger to a smaller number has no members.

A list is kept as its ranges, and stands for the numbers in them (`toList`). Whoever takes a list up
makes a record of each number, though, so a list may have too many of them (`records`).

* `CpuList.parse`: the list that a text writes.
* `CpuList.length_toList`, `CpuList.mem_toList`: `length` and `contains` tell of the numbers themselves.
-/

namespace NodeHeap

/-- A processor's number. -/
abbrev CpuId := Nat

/-- The numbers from `first` to `last`, both included. -/
structure CpuRange where
  first : CpuId
  last : CpuId
  deriving DecidableEq, Repr

namespace CpuRange

/-- How many numbers the range has. -/
def size (r : CpuRange) : Nat := r.last + 1 - r.first

/-- The numbers of the range, ascending. -/
def toList (r : CpuRange) : List CpuId := List.range' r.first r.size

/-- Whether the range has a number. -/
def contains (r : CpuRange) (cpu : CpuId) : Bool := r.first ≤ cpu && cpu ≤ r.last

theorem length_toList (r : CpuRange) : r.toList.length = r.size := by simp [toList]

theorem mem_toList (r : CpuRange) (cpu : CpuId) : cpu ∈ r.toList ↔ r.contains cpu = true := by
  have bound (first last n : Nat) (h : first ≤ n) :
      n < first + (last + 1 - first) ↔ n ≤ last := by omega
  simp only [toList, size, contains, List.mem_range'_1, Bool.and_eq_true, decide_eq_true_eq]
  exact and_congr_right (bound r.first r.last cpu)

end CpuRange

/-- A list of processors, as ranges. -/
structure CpuList where
  ranges : List CpuRange := []
  deriving DecidableEq, Repr

namespace CpuList

/-- The processors in the order of the list. -/
def toList (l : CpuList) : List CpuId := l.ranges.flatMap CpuRange.toList

/-- How many processors are listed. -/
def length (l : CpuList) : Nat := l.ranges.foldr (fun r n => r.size + n) 0

/-- Whether a processor is listed. -/
def contains (l : CpuList) (cpu : CpuId) : Bool := l.ranges.any fun r => r.contains cpu

theorem length_toList (l : CpuList) : l.toList.length = l.length := by
  simp only [toList, length]
  induction l.ranges with
  | nil => rfl
  | cons r rest ih => simp [CpuRange.length_toList, ih]

theorem mem_toList (l : CpuList) (cpu : CpuId) : cpu ∈ l.toList ↔ l.contains cpu = true := by
  simp [toList, contains, CpuRange.mem_toList]

/-- The range that one part names, if it names one; the part has no blanks at its ends. -/
def ofPart (part : List Char) : Option CpuRange :=
  let first := part.takeWhile (· ≠ '-')
  match part.dropWhile (· ≠ '-') with
  | [] => (Text.Decimal.parse? wordLimit part).map fun cpu => ⟨cpu, cpu⟩
  | _ :: last =>
    match Text.Decimal.parse? wordLimit first, Text.Decimal.parse? wordLimit last with
    | some first, some last => some ⟨first, last⟩
    | _, _ => none

/-- The list that a text writes, in the order of the text. -/
def parse (text : List Char) : CpuList :=
  ⟨(Text.pieces (· = ',') (Text.trim text)).filterMap fun part => ofPart (Text.trim part)⟩

/-- The records that are made of the processors when the list is taken up, range by range. -/
def records (grants : Grants) (l : CpuList) : Except Halt RecordList :=
  l.ranges.foldlM (fun records r => records.extend grants Word.width r.size) {}

end CpuList

end NodeHeap
