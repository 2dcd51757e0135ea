import NodeHeap.Allocator.Session
import NodeHeap.Buffer.Edit
import NodeHeap.Buffer.Tokens
import NodeHeap.Table

/-!
# Sessions with buffers

A buffer session is an allocator with numbered buffers. Its caller gives steps one after another and
gets an answer to each. A step that halts changes nothing, but for one that appends pieces: those before the
halt stay appended. A register that gets a new buffer gives the old one back after the new one is made.

* `BufferSession.step`: one step and its answer.
* `BufferSession.run`: the answers to a list of steps.
* `BufferSession.close`: the allocator when all buffers are given back.
-/

namespace NodeHeap

/-- The number of a buffer. -/
abbrev Register := Nat

/-- One step of a buffer session. -/
inductive BufferStep where
  | ofBytes (register : Register) (bytes : Bytes)
  | zeros (register : Register) (length : Nat)
  | empty (register : Register)
  | clone (register source : Register)
  | append (register : Register) (bytes : Bytes)
  /-- Appends the pieces that a format comes in. -/
  | appendAll (register : Register) (pieces : List Bytes)
  | replace (register : Register) (bytes : Bytes)
  | trim (register : Register) (set : Bytes)
  | range (register : Register) (start stop : Int64)
  | toLower (register : Register)
  | toUpper (register : Register)
  | updateLength (register : Register)
  | reserve (register : Register) (more : Nat)
  | set (register : Register) (index : Nat) (value : UInt8)
  | reverse (register : Register)
  | drop (register : Register)
  /-- Splits bytes into buffers and gives these back at once. -/
  | split (bytes separator : Bytes)
  | get (register : Register) (index : Nat)
  | content (register : Register)
  | compare (first second : Register)
  | equals (register : Register) (bytes : Bytes)
  /-- A block of `size` bytes from the buffer's allocator, given back at once. -/
  | borrow (register : Register) (size : Nat)
  | describe (register : Register)
  | display (register : Register)
  /-- Sorts all buffers by content and numbers them from zero. -/
  | sort

/-- What can be seen of a buffer. -/
structure BufferState where
  bytes : Bytes
  length : Nat
  avail : Nat
  /-- Whether the byte after the content is zero. -/
  terminated : Bool
  deriving DecidableEq, Repr

/-- The value that a step answers. -/
inductive BufferValue where
  | unit
  | state (state : BufferState)
  | tokens (tokens : Option (List BufferState))
  | flag (on : Bool)
  | byte (value : UInt8)
  | bytes (bytes : Bytes)
  | order (order : Ordering)
  | text (text : String)
  | contents (contents : List Bytes)
  | halted (halt : Halt)
  /-- So many pieces were appended before a halt. -/
  | interrupted (halt : Halt) (count : Nat)
  /-- The caller named a buffer that it does not have. -/
  | unknownRegister
  deriving DecidableEq, Repr

/-- The answer to a step. -/
structure BufferAnswer where
  value : BufferValue
  used : Nat
  /-- The calls to the source that the step made, oldest first. -/
  calls : List Call
  deriving DecidableEq, Repr

/-- An allocator and the buffers in use. -/
structure BufferSession (σ : Type) where
  allocator : Allocator σ
  buffers : Table Register Buffer := []

/-- A list with an element put in before the first one that has a larger key. -/
def insertByKey {α : Type} (key : Nat) (value : α) : Table Nat α → Table Nat α
  | [] => [(key, value)]
  | (k, v) :: rest =>
    if key < k then (key, value) :: (k, v) :: rest else (k, v) :: insertByKey key value rest

namespace Buffer

/-- What can be seen of the buffer. -/
def state {σ : Type} (b : Buffer) (a : Allocator σ) : Except Halt BufferState := do
  let bytes ← b.bytes a
  let withNul ← b.bytesWithNul a
  return { bytes, length := b.length, avail := b.avail, terminated := withNul.getLast? = some 0 }

/-- What can be seen of each buffer. -/
def states {σ : Type} (a : Allocator σ) : List Buffer → Except Halt (List BufferState)
  | [] => .ok []
  | b :: rest => do
    return (← b.state a) :: (← states a rest)

/-- The buffers with their contents. -/
def withContents {σ : Type} (a : Allocator σ) : List Buffer → Except Halt (List (Bytes × Buffer))
  | [] => .ok []
  | b :: rest => do
    return (← b.bytes a, b) :: (← withContents a rest)

end Buffer

namespace BufferSession

variable {σ : Type} [Source σ]

/-- What a step that looks at one buffer does. -/
def inspect (s : BufferSession σ) (register : Register)
    (look : Buffer → Allocator σ → Except Halt BufferValue) :
    Except Halt (BufferValue × BufferSession σ) :=
  match s.buffers.find? register with
  | none => .ok (.unknownRegister, s)
  | some b => do
    return (← look b s.allocator, s)

/-- What a step that changes one buffer does. -/
def change (s : BufferSession σ) (register : Register)
    (edit : Buffer → Allocator σ → Except Halt (Buffer × Allocator σ)) :
    Except Halt (BufferValue × BufferSession σ) :=
  match s.buffers.find? register with
  | none => .ok (.unknownRegister, s)
  | some b => do
    let (b, allocator) ← edit b s.allocator
    return (.state (← b.state allocator),
      { allocator, buffers := s.buffers.modify register fun _ => b })

/-- What a step that makes a new buffer for a register does. -/
def store (s : BufferSession σ) (register : Register)
    (made : Except Halt (Buffer × Allocator σ)) : Except Halt (BufferValue × BufferSession σ) := do
  let (b, a) ← made
  match s.buffers.find? register with
  | some old =>
    let allocator ← old.drop a
    return (.state (← b.state allocator),
      { allocator, buffers := s.buffers.modify register fun _ => b })
  | none =>
    return (.state (← b.state a), { allocator := a, buffers := insertByKey register b s.buffers })

/-- What a step that appends pieces to one buffer does. Unless the process ends, it keeps what it did before
it halted. -/
def appendTo (s : BufferSession σ) (register : Register) (pieces : List Bytes) :
    Except Halt (BufferValue × BufferSession σ) :=
  match s.buffers.find? register with
  | none => .ok (.unknownRegister, s)
  | some b =>
    let done := b.appendPieces s.allocator pieces
    let after : BufferSession σ :=
      { allocator := done.allocator, buffers := s.buffers.modify register fun _ => done.buffer }
    match done.halt with
    | none => do
      return (.state (← done.buffer.state done.allocator), after)
    | some halt => if halt.endsProcess then .error halt else .ok (.interrupted halt done.count, after)

/-- What a step does, unless it halts. -/
def perform (s : BufferSession σ) : BufferStep → Except Halt (BufferValue × BufferSession σ)
  | .ofBytes register bytes => s.store register (Buffer.ofBytes s.allocator bytes)
  | .zeros register length => s.store register (Buffer.zeros s.allocator length)
  | .empty register => s.store register (Buffer.empty s.allocator)
  | .clone register source =>
    match s.buffers.find? source with
    | none => .ok (.unknownRegister, s)
    | some b => s.store register (b.clone s.allocator)
  | .append register bytes => s.change register fun b a => b.append a bytes
  | .appendAll register pieces => s.appendTo register pieces
  | .replace register bytes => s.change register fun b a => b.replace a bytes
  | .trim register set => s.change register fun b a => b.trim a set
  | .range register start stop => s.change register fun b a => b.range a start stop
  | .toLower register => s.change register Buffer.toLower
  | .toUpper register => s.change register Buffer.toUpper
  | .updateLength register => s.change register Buffer.updateLength
  | .reserve register more => s.change register fun b a => b.reserve a more
  | .set register index value => s.change register fun b a => b.set a index value
  | .reverse register => s.change register Buffer.reverse
  | .drop register =>
    match s.buffers.find? register with
    | none => .ok (.flag false, s)
    | some b => do
      let allocator ← b.drop s.allocator
      return (.flag true, { allocator, buffers := s.buffers.erase register })
  | .split bytes separator => do
    let (tokens, a) ← Buffer.split s.allocator bytes separator
    match tokens with
    | none => return (.tokens none, { s with allocator := a })
    | some tokens =>
      let states ← Buffer.states a tokens
      return (.tokens (some states), { s with allocator := ← Buffer.dropAll a tokens })
  | .get register index => s.inspect register fun b a => do
    return .byte (← b.get a index)
  | .content register => s.inspect register fun b a => do
    return .bytes (← b.bytes a)
  | .compare first second =>
    match s.buffers.find? first, s.buffers.find? second with
    | some x, some y => do
      return (.order (compareBytes (← x.bytes s.allocator) (← y.bytes s.allocator)), s)
    | _, _ => .ok (.unknownRegister, s)
  | .equals register bytes => s.inspect register fun b a => do
    return .flag ((← b.bytes a) = bytes)
  | .borrow register size =>
    match s.buffers.find? register with
    | none => .ok (.unknownRegister, s)
    | some _ => do
      let (block, a) ← s.allocator.allocate size none
      return (.unit, { s with allocator := ← a.free (some block) })
  | .describe register => s.inspect register fun b a => do
    return .text (← b.describe a)
  | .display register => s.inspect register fun b a => do
    return .text (← b.display a)
  | .sort => do
    let held ← Buffer.withContents s.allocator (s.buffers.map Prod.snd)
    let sorted := held.mergeSort fun x y => compareBytes x.1 y.1 ≠ .gt
    return (.contents (sorted.map Prod.fst),
      { s with buffers := sorted.zipIdx.map fun entry => (entry.2, entry.1.2) })

/-- What a step does, unless it halts or the source breaks down. -/
def attempt (s : BufferSession σ) (step : BufferStep) :
    Except Halt (BufferValue × BufferSession σ) := do
  let (value, after) ← s.perform step
  after.allocator.unlessBroken (value, after)

/-- One step and its answer. A step that halts here has changed nothing by then: what it asks for is no word, or no
place in a buffer, which is found first. Or it takes the process with it. -/
def step (s : BufferSession σ) (step : BufferStep) : BufferAnswer × BufferSession σ :=
  match s.attempt step with
  | .ok (value, after) =>
    ({ value
       used := after.allocator.usedBytes
       calls := Session.since s.allocator.arena.calls after.allocator.arena.calls }, after)
  | .error halt => ({ value := .halted halt, used := s.allocator.usedBytes, calls := [] }, s)

/-- The answers to a list of steps, and the session after them. -/
def run (s : BufferSession σ) : List BufferStep → List BufferAnswer × BufferSession σ
  | [] => ([], s)
  | step :: rest =>
    let (answer, after) := s.step step
    let (answers, last) := after.run rest
    (answer :: answers, last)

def close (s : BufferSession σ) : Except Halt (Allocator σ) :=
  Buffer.dropAll s.allocator (s.buffers.map Prod.snd)

end BufferSession

end NodeHeap
