import NodeHeap.Allocator.Basic

/-!
# Blocks

Blocks are placed on the nodes to try, in order, and anywhere if none of them serves; they are resized
and released by what their header says.

* `allocateAt`, `reallocateAt`, `free`: the life of a block, for given nodes to try.
* `tryAllocate`, `tryReallocate`: the same for a hint. Refusals are answers.
* `allocate`, `reallocate`, `allocateCopy`: the same for callers that cannot do without the block;
  a refusal halts.

A refused request leaves every block as it is.
-/

namespace NodeHeap

namespace Allocator

variable {σ : Type}

/-- The size of a block's payload, as it was last asked for. -/
def usableSize (a : Allocator σ) (block : BlockId) : Except Halt Nat := do
  let header ← a.arena.header block
  return header.size

def blockNode (a : Allocator σ) (block : BlockId) : Except Halt (Option NodeId) := do
  let header ← a.arena.header block
  return header.node?

variable [Source σ]

/-- Asks for `total` bytes on each of the nodes until one serves. -/
def attempt (total : Nat) : List NodeId → Allocator σ → Option (RegionId × NodeId) × Allocator σ
  | [], a => (none, a)
  | node :: rest, a =>
    match a.arena.allocOnNode total node with
    | (some region, arena) => (some (region, node), { a with arena })
    | (none, arena) =>
      attempt total rest
        ({ a with arena, counters := a.counters.failedAttempt }.note (.attemptFailed total node))

/-- Asks for `total` bytes anywhere, after the nodes to try have failed. -/
def fallBack (a : Allocator σ) (total : Nat) (targets : List NodeId) :
    Option (RegionId × NodeSlot) × Allocator σ :=
  let a := if targets.isEmpty then a else a.note (.targetsExhausted total)
  match a.arena.alloc total with
  | (some region, arena) =>
    (some (region, .vacant), { a with arena, counters := a.counters.grantFallback })
  | (none, arena) => (none, { a with arena })

/-- Gets `total` bytes: on the first of the nodes that serves, or else anywhere. -/
def place (a : Allocator σ) (total : Nat) (targets : List NodeId) :
    Option (RegionId × NodeSlot) × Allocator σ :=
  match attempt total targets a with
  | (some (region, node), a) =>
    (some (region, .holding node), { a with counters := a.counters.grantTargeted })
  | (none, a) => a.fallBack total targets

/-- A new block of `size` bytes. -/
def allocateAt (a : Allocator σ) (size : Nat) (targets : List NodeId) :
    Except Halt (Except AllocError BlockId × Allocator σ) :=
  match totalFor? size with
  | none => .ok (.error (.outOfMemory size), a)
  | some total =>
    match a.place total targets with
    | (none, a) => .ok (.error (.outOfMemory size), a)
    | (some (region, origin), a) => do
      let arena ← a.arena.setHeader region { size, origin }
      return (.ok region, { a with arena, usage := a.usage.add total })

/-- Releases a block by what its header says. -/
def release (a : Allocator σ) (block : BlockId) : Except Halt (Allocator σ) := do
  let header ← a.arena.header block
  let arena := match header.node? with
    | some node => a.arena.freeOnNode block header.total node
    | none => a.arena.free block header.total
  return { a with arena, usage := a.usage.sub header.total, counters := a.counters.release }

/-- Releases a block, if one is given. -/
def free (a : Allocator σ) : Option BlockId → Except Halt (Allocator σ)
  | some block => a.release block
  | none => .ok a

/-- Resizes a block that was placed anywhere, through the source. -/
def resizeInPlace (a : Allocator σ) (block : BlockId) (old : Header) (size total : Nat) :
    Except Halt (Except AllocError BlockId × Allocator σ) := do
  let (resized, arena) ← a.arena.resize block old.total total
  match resized with
  | none => return (.error (.outOfMemory size), { a with arena })
  | some region =>
    let arena ← arena.setHeader region { size, origin := .vacant }
    let usage :=
      if old.total ≤ total then a.usage.add (total - old.total)
      else a.usage.sub (old.total - total)
    return (.ok region, { a with arena, usage })

/-- Replaces a block by a new one with the bytes that fit. -/
def moveBlock (a : Allocator σ) (block : BlockId) (old : Header) (size : Nat)
    (targets : List NodeId) : Except Halt (Except AllocError BlockId × Allocator σ) := do
  let (answer, a) ← a.allocateAt size targets
  match answer with
  | .error e => return (.error e, a)
  | .ok new =>
    let arena ← a.arena.copy block new headerWidth (min old.size size)
    let a ← { a with arena }.release block
    return (.ok new, a)

/-- Resizes a block, or makes a new one where none is given. A block that was placed anywhere is
resized by the source when there are no nodes to try; any other is replaced. -/
def reallocateAt (a : Allocator σ) (block : Option BlockId) (size : Nat) (targets : List NodeId) :
    Except Halt (Except AllocError BlockId × Allocator σ) :=
  match block, totalFor? size with
  | none, _ => a.allocateAt size targets
  | some _, none => .ok (.error (.outOfMemory size), a)
  | some block, some total => do
    let old ← a.arena.header block
    let a := { a with counters := a.counters.reallocation }
    if targets.isEmpty && old.node?.isNone then a.resizeInPlace block old size total
    else a.moveBlock block old size targets

/-- A new block of `size` bytes, placed by the hint or the policy. -/
def tryAllocate (a : Allocator σ) (size : Nat) (hint : Option NodeId) :
    Except Halt (Except AllocError BlockId × Allocator σ) := do
  let (targets, a) ← a.targets hint
  a.allocateAt size targets

/-- Resizes a block, or makes a new one where none is given, placed by the hint or the policy. -/
def tryReallocate (a : Allocator σ) (block : Option BlockId) (size : Nat) (hint : Option NodeId) :
    Except Halt (Except AllocError BlockId × Allocator σ) := do
  let (targets, a) ← a.targets hint
  a.reallocateAt block size targets

/-- The block, or a halt where it was refused. -/
def orHalt (size : Nat) : Except AllocError BlockId × Allocator σ → Except Halt (BlockId × Allocator σ)
  | (.ok block, a) => .ok (block, a)
  | (.error _, _) => .error (.exhausted size)

/-- A new block for a caller that cannot do without it. -/
def allocate (a : Allocator σ) (size : Nat) (hint : Option NodeId) :
    Except Halt (BlockId × Allocator σ) := do
  orHalt size (← a.tryAllocate size hint)

/-- A resized block for a caller that cannot do without it. -/
def reallocate (a : Allocator σ) (block : Option BlockId) (size : Nat) (hint : Option NodeId) :
    Except Halt (BlockId × Allocator σ) := do
  orHalt size (← a.tryReallocate block size hint)

/-- A new block that holds `bytes`. -/
def allocateCopy (a : Allocator σ) (bytes : Bytes) : Except Halt (BlockId × Allocator σ) := do
  let (block, a) ← a.allocate bytes.length none
  let arena ← a.arena.writePayload block 0 bytes
  return (block, { a with arena })

end Allocator

end NodeHeap
