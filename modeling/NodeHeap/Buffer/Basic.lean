import NodeHeap.Allocator.Blocks

/-!
# Byte buffers

A buffer is a growable string of bytes in a block of an allocator. The block holds `length` bytes of
content, a zero byte right after them, and room for `avail` bytes more: `length + avail + 1` bytes in
all. Allocators of buffers do not refuse: where memory runs out, the operation halts.

* `Buffer.ofBytes`, `Buffer.zeros`, `Buffer.clone`, `Buffer.drop`: the life of a buffer.
* `Buffer.reserve`: growth. A buffer that has to grow doubles what it needs.
* `Buffer.append`, `Buffer.replace`: new content. `Buffer.appendPieces`: content that comes in pieces.
-/

namespace NodeHeap

/-- A string of bytes in a block. -/
structure Buffer where
  block : BlockId
  /-- Bytes of content. -/
  length : Nat
  /-- Bytes that can be appended without growth. -/
  avail : Nat
  deriving DecidableEq, Repr

/-- The sum of two words, or a halt where it is no word. -/
def addWords (m n : Nat) : Except Halt Nat :=
  if m + n < wordLimit then .ok (m + n) else .error .sumOverflow

namespace Buffer

variable {σ : Type}

/-- Bytes of content the buffer has room for. -/
def capacity (b : Buffer) : Nat := b.length + b.avail

def bytes (b : Buffer) (a : Allocator σ) : Except Halt Bytes :=
  a.arena.readPayload b.block 0 b.length

def bytesWithNul (b : Buffer) (a : Allocator σ) : Except Halt Bytes :=
  a.arena.readPayload b.block 0 (b.length + 1)

/-- Writes bytes into the buffer's block from `start`. -/
def put (b : Buffer) (a : Allocator σ) (start : Nat) (bytes : Bytes) :
    Except Halt (Allocator σ) := do
  let arena ← a.arena.writePayload b.block start bytes
  return { a with arena }

/-- The buffer cut or stretched to `length` bytes within its capacity. -/
def setLength (b : Buffer) (a : Allocator σ) (length : Nat) :
    Except Halt (Buffer × Allocator σ) := do
  let a ← b.put a length [0]
  return ({ b with length, avail := b.capacity - length }, a)

variable [Source σ]

/-- A new buffer with the given content and no room for more. -/
def ofBytes (a : Allocator σ) (bytes : Bytes) : Except Halt (Buffer × Allocator σ) := do
  let size ← addWords bytes.length 1
  let (block, a) ← a.allocate size none
  let b : Buffer := { block, length := bytes.length, avail := 0 }
  let a ← b.put a 0 bytes
  let a ← b.put a bytes.length [0]
  return (b, a)

/-- A new buffer of `length` zero bytes. -/
def zeros (a : Allocator σ) (length : Nat) : Except Halt (Buffer × Allocator σ) := do
  let size ← addWords length 1
  let (block, a) ← a.allocate size none
  let arena ← a.arena.fill block headerWidth size 0
  return ({ block, length, avail := 0 }, { a with arena })

def empty (a : Allocator σ) : Except Halt (Buffer × Allocator σ) := ofBytes a []

def clone (b : Buffer) (a : Allocator σ) : Except Halt (Buffer × Allocator σ) := do
  ofBytes a (← b.bytes a)

def drop (b : Buffer) (a : Allocator σ) : Except Halt (Allocator σ) := a.free (some b.block)

/-- Makes room for `more` bytes. A buffer without that room grows to twice what it needs; a capacity
that is no word halts. -/
def reserve (b : Buffer) (a : Allocator σ) (more : Nat) : Except Halt (Buffer × Allocator σ) :=
  if more ≤ b.avail then .ok (b, a)
  else
    let capacity := (b.length + more) * 2
    if capacity < wordLimit then do
      let (block, a) ← a.reallocate (some b.block) (capacity + 1) none
      return ({ b with block, avail := capacity - b.length }, a)
    else .error .capacityOverflow

/-- Appends bytes. -/
def append (b : Buffer) (a : Allocator σ) (bytes : Bytes) :
    Except Halt (Buffer × Allocator σ) := do
  let (b, a) ← b.reserve a bytes.length
  let a ← b.put a b.length bytes
  b.setLength a (b.length + bytes.length)

/-- What came of appending pieces. -/
structure Appended (σ : Type) where
  buffer : Buffer
  allocator : Allocator σ
  /-- How many pieces were appended. -/
  count : Nat := 0
  /-- Why the next piece was not appended. -/
  halt : Option Halt := none

/-- Appends pieces one after another, growing for each as needed. Where that halts, the pieces before stay
appended. -/
def appendPieces (b : Buffer) (a : Allocator σ) : List Bytes → Appended σ
  | [] => { buffer := b, allocator := a }
  | piece :: rest =>
    match b.append a piece with
    | .ok (b, a) =>
      let done := b.appendPieces a rest
      { done with count := done.count + 1 }
    | .error halt => { buffer := b, allocator := a, halt := some halt }

/-- Appends pieces one after another, all of them. -/
def appendAll (b : Buffer) (a : Allocator σ) (pieces : List Bytes) : Except Halt (Buffer × Allocator σ) :=
  let done := b.appendPieces a pieces
  match done.halt with
  | none => .ok (done.buffer, done.allocator)
  | some halt => .error halt

theorem appendAll_cons (b : Buffer) (a : Allocator σ) (piece : Bytes) (rest : List Bytes) :
    b.appendAll a (piece :: rest) = (do
      let (b, a) ← b.append a piece
      b.appendAll a rest) := by
  cases appended : b.append a piece with
  | error halt => simp only [appendAll, appendPieces, appended, bind, Except.bind]
  | ok given => simp only [appendAll, appendPieces, appended, bind, Except.bind]

/-- Replaces the content. -/
def replace (b : Buffer) (a : Allocator σ) (bytes : Bytes) :
    Except Halt (Buffer × Allocator σ) := do
  let (b, a) ←
    if b.capacity < bytes.length then b.reserve a (bytes.length - b.length) else .ok (b, a)
  let a ← b.put a 0 bytes
  b.setLength a bytes.length

end Buffer

end NodeHeap
