import NodeHeap.Allocator.Header
import NodeHeap.Table

/-!
# Rows of blocks

The blocks that a worker has stand in a row, each under the name that it was born with, which it keeps when it
changes hands. A request that was refused stands there without a block, so that those who wait for the block learn
that there is none.

* `Birth`: the names of blocks.
* `BlockRow.push`, `BlockRow.take?`: a block more, and one less; `table_push`, `table_take?`: what that does to the
  blocks in order.
-/

namespace NodeHeap

/-- Which block one is, whoever has it: one that was there at the start, or the one that a worker asked for after
so many others. -/
inductive Birth where
  | given (block : BlockId)
  | asked (worker index : Nat)
  deriving DecidableEq, Repr

/-- Blocks in a row. -/
structure BlockRow where
  front : Table Birth (Option BlockId) := []
  /-- Those that came last, newest first. -/
  back : Table Birth (Option BlockId) := []
  deriving DecidableEq, Repr

namespace BlockRow

/-- The blocks in order, oldest first. -/
def table (row : BlockRow) : Table Birth (Option BlockId) := row.front ++ row.back.reverse

/-- The row with a block more, or with a refusal. -/
def push (row : BlockRow) (birth : Birth) (block : Option BlockId) : BlockRow :=
  { row with back := row.back.insert birth block }

/-- What stands in the row for a name, and the row without it. -/
def take? (row : BlockRow) (birth : Birth) : Option (Option BlockId × BlockRow) :=
  match row.front.find? birth with
  | some block => some (block, { row with front := row.front.erase birth })
  | none => (row.table.find? birth).map fun block => (block, { front := row.table.erase birth })

@[simp] theorem table_push (row : BlockRow) (birth : Birth) (block : Option BlockId) :
    (row.push birth block).table = row.table ++ [(birth, block)] := by
  simp [table, push, Table.insert]

theorem table_take? (row : BlockRow) (birth : Birth) :
    (row.take? birth).map (fun taken => (taken.1, taken.2.table)) =
      (row.table.find? birth).map fun block => (block, row.table.erase birth) := by
  unfold take?
  cases found : row.front.find? birth with
  | some block =>
    have there : row.table.find? birth = some block := Table.find?_append found _
    have rest : row.table.erase birth = row.front.erase birth ++ row.back.reverse := Table.erase_append found _
    rw [there, rest]
    rfl
  | none =>
    cases row.table.find? birth with
    | none => rfl
    | some block => simp [table]

end BlockRow

end NodeHeap
