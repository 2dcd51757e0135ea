import NodeHeap.Buffer.Basic
import NodeHeap.Text.Quoted
import NodeHeap.Text.Utf8

/-!
# Editing buffers in place

Changes of a buffer's content that need no more room than it has: cutting at both ends, cutting out a
range, letter case, single bytes. The part that stays is moved to the front of the block, and the zero
byte follows it.
-/

namespace NodeHeap

/-- An index that counts from the end if it is negative: `-1` is the last of `length` places. -/
def resolveIndex (length : Nat) (index : Int) : Nat :=
  if index < 0 then length - index.natAbs else index.natAbs

/-- How many places there are from one to another, both included. -/
def span (first last : Nat) : Except Halt Nat :=
  if last < first then .ok 0 else addWords (last - first) 1

/-- The first place and the number of places that the indices `start` to `stop`, both included, take
out of `length` places. Indices beyond the end mean the last place. The places are counted once, for whether there are
any, and once more when they are bounded by the last one that there is. -/
def rangeBounds (length : Nat) (start stop : Int64) : Except Halt (Nat × Nat) := do
  let first := resolveIndex length start.toInt
  let last := resolveIndex length stop.toInt
  let count ← span first last
  if count = 0 then return (0, 0)
  else
    let first := min first (length - 1)
    let count ← span first (min last (length - 1))
    let _ ← addWords first count
    return (first, count)

/-- The first place and the number of places left when bytes of a set are cut off at both ends. -/
def trimBounds (content set : Bytes) : Nat × Nat :=
  let first := content.findIdx fun b => !set.contains b
  let last := content.reverse.findIdx fun b => !set.contains b
  (first, content.length - last - first)

/-- An ASCII capital letter as a small one. -/
def lowerByte (b : UInt8) : UInt8 := if 0x41 ≤ b ∧ b ≤ 0x5A then b + 0x20 else b

/-- An ASCII small letter as a capital one. -/
def upperByte (b : UInt8) : UInt8 := if 0x61 ≤ b ∧ b ≤ 0x7A then b - 0x20 else b

namespace Buffer

variable {σ : Type}

/-- Keeps `count` bytes from `first` as the whole content. -/
def keep (b : Buffer) (a : Allocator σ) (first count : Nat) :
    Except Halt (Buffer × Allocator σ) := do
  let kept ← a.arena.readPayload b.block first count
  let a ← b.put a 0 kept
  b.setLength a count

/-- Cuts off the bytes of a set at both ends. -/
def trim (b : Buffer) (a : Allocator σ) (set : Bytes) : Except Halt (Buffer × Allocator σ) := do
  let content ← b.bytes a
  let (first, count) := trimBounds content set
  b.keep a first count

/-- Keeps the bytes from `start` to `stop`, both included. An empty buffer stays as it is. -/
def range (b : Buffer) (a : Allocator σ) (start stop : Int64) :
    Except Halt (Buffer × Allocator σ) :=
  if b.length = 0 then .ok (b, a)
  else do
    let (first, count) ← rangeBounds b.length start stop
    b.keep a first count

/-- Shortens the content to what comes before its first zero byte, if it has one. -/
def updateLength (b : Buffer) (a : Allocator σ) : Except Halt (Buffer × Allocator σ) := do
  let content ← b.bytes a
  let length := content.findIdx (· = 0)
  return ({ b with length, avail := b.capacity - length }, a)

/-- Changes the content by a function that keeps its length. -/
def mapContent (b : Buffer) (a : Allocator σ) (change : Bytes → Bytes) :
    Except Halt (Buffer × Allocator σ) := do
  let content ← b.bytes a
  let a ← b.put a 0 (change content)
  return (b, a)

def toLower (b : Buffer) (a : Allocator σ) : Except Halt (Buffer × Allocator σ) :=
  b.mapContent a (List.map lowerByte)

def toUpper (b : Buffer) (a : Allocator σ) : Except Halt (Buffer × Allocator σ) :=
  b.mapContent a (List.map upperByte)

def reverse (b : Buffer) (a : Allocator σ) : Except Halt (Buffer × Allocator σ) :=
  b.mapContent a List.reverse

/-- A byte of the content. -/
def get (b : Buffer) (a : Allocator σ) (index : Nat) : Except Halt UInt8 := do
  if index < b.length then
    return (← a.arena.readPayload b.block index 1).headD 0
  else .error (.indexOutOfBounds b.length index)

/-- Sets a byte of the content. -/
def set (b : Buffer) (a : Allocator σ) (index : Nat) (value : UInt8) :
    Except Halt (Buffer × Allocator σ) := do
  if index < b.length then
    return (b, ← b.put a index [value])
  else .error (.indexOutOfBounds b.length index)

/-- The content as text, with U+FFFD for what is no text. -/
def display (b : Buffer) (a : Allocator σ) : Except Halt String := do
  return Text.Utf8.lossy (← b.bytes a)

def describe (b : Buffer) (a : Allocator σ) : Except Halt String := do
  return "Sds \x7b content: " ++ Text.quoted (← b.display a) ++
    ", len: " ++ toString b.length ++ ", avail: " ++ toString b.avail ++ " \x7d"

end Buffer

end NodeHeap
