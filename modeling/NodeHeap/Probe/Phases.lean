import NodeHeap.Buffer.Edit
import NodeHeap.Crew.Load
import NodeHeap.Memory.Records
import NodeHeap.Topology.NodeTree

/-!
# The phases of the probe

The probe looks at the topology and then uses an allocator in four phases: the life of a few blocks,
placement on a node, a crew of workers, and a number of blocks of one size. A phase prints lines and
stops early where memory runs out or where the bytes in use are not what they should be. What was
printed until then stays printed.

* `Moment`, `Occasion`: what the probe finds of its machine, and when it looks.
* `Phase`: what prints, uses the allocator and may stop.
* `topologyPhase`, `basicPhase`, `placementPhase`, `crewPhase`, `bulkPhase`: the phases.
-/

namespace NodeHeap.Probe

/-- What the probe finds of its machine at a moment. -/
structure Moment where
  /-- The processor that it runs on, if it is told. -/
  cpu : Option CpuId
  /-- The memory that it is granted for records of its own. -/
  grants : Grants

/-- The topology that a node tree shows at a moment. -/
def Moment.topology (moment : Moment) (tree : NodeTree) : Topology := tree.topology moment.grants moment.cpu

/-- When the probe looks at its machine: for the summary of the tree, for the ranking, which is kept, for its own
node, and for room for the records of its workers and of its blocks. -/
inductive Occasion where
  | summary
  | ranking
  | placement
  | workers
  | blocks
  deriving DecidableEq, Repr

/-- What the probe finds of its machine each time. The processor may be another one, and so may the memory that is
granted. -/
abbrev Moments := Occasion → Moment

/-- Why a run of the probe ends early. -/
inductive Stop where
  /-- A call did not return. -/
  | halted (halt : Halt)
  /-- The bytes in use inside of a phase are not those of its blocks. -/
  | unexpectedUsage (phase : String) (used expected : Nat)
  /-- A phase left bytes in use behind. -/
  | notRestored (phase : String) (used baseline : Nat)
  /-- A request was refused; `activity` says what for. -/
  | refused (activity : String) (error : AllocError)
  deriving DecidableEq, Repr

/-- The stop in words; of a refusal only what it was for. A halt that does not end the process itself is
set off by an empty line. -/
def Stop.message : Stop → String
  | halted halt => if halt.endsProcess then halt.message else "\n" ++ halt.message
  | unexpectedUsage phase used expected =>
    s!"Error: {phase}: used bytes {used}, expected {expected}"
  | notRestored phase used baseline =>
    s!"Error: {phase}: used bytes {used} after cleanup, expected {baseline}"
  | refused activity _ => "Error: " ++ activity

/-- What was printed, and the allocator in use. -/
structure Transcript (σ : Type) where
  allocator : Allocator σ
  lines : List String := []

/-- Something that prints, uses the allocator and may stop. -/
abbrev Phase (σ α : Type) := ExceptT Stop (StateM (Transcript σ)) α

namespace Phase

variable {σ α : Type}

def print (line : String) : Phase σ Unit :=
  modify fun t => { t with lines := t.lines ++ [line] }

def printAll (lines : List String) : Phase σ Unit :=
  modify fun t => { t with lines := t.lines ++ lines }

def allocator : Phase σ (Allocator σ) := do
  return (← get).allocator

def used : Phase σ Nat := do
  return (← allocator).usedBytes

/-- Looks at something through the allocator. -/
def inspect (look : Allocator σ → Except Halt α) : Phase σ α := do
  match look (← allocator) with
  | .ok value => return value
  | .error halt => throw (.halted halt)

/-- Calls an operation of the allocator that answers. -/
def call [Source σ] (operation : Allocator σ → Except Halt (α × Allocator σ)) : Phase σ α := do
  let (value, allocator) ← inspect fun a => do
    let (value, after) ← operation a
    after.unlessBroken (value, after)
  modify fun t => { t with allocator }
  return value

/-- Calls an operation of the allocator that gives no answer. -/
def perform [Source σ] (operation : Allocator σ → Except Halt (Allocator σ)) : Phase σ Unit :=
  call fun a => do
    return ((), ← operation a)

/-- Makes room for a list of records of the probe's own. -/
def reserve (grants : Grants) (count width : Nat) : Phase σ Unit :=
  inspect fun _ => reserveRecords grants count width

/-- Lets the allocator see another topology. -/
def reveal (topology : Topology) : Phase σ Unit :=
  modify fun t => { t with allocator := { t.allocator with topology } }

/-- Stops unless the bytes in use are those from before the phase. -/
def checkBaseline (phase : String) (baseline : Nat) : Phase σ Unit := do
  let now ← used
  if now ≠ baseline then throw (.notRestored phase now baseline)

end Phase

open Phase

variable {σ : Type} [Source σ]

/-- Where a block lies, as the probe prints it. -/
def address (block : BlockId) : String := "0x" ++ String.ofList (Nat.toDigits 16 block)

/-- Writes a text into the payload of a block. -/
def writeText (block : BlockId) (text : String) (a : Allocator σ) : Except Halt (Allocator σ) := do
  return { a with arena := ← a.arena.writePayload block 0 (Text.Utf8.encode text) }

/-- Prints what the node tree says, the policy and the ranking. -/
def topologyPhase (tree : NodeTree) (moments : Moments) : Phase σ Unit := do
  let summary ← inspect fun _ => tree.summaryLines (moments .summary).grants
  print "=== Topology ==="
  printAll summary
  let topology := (moments .summary).topology tree
  if topology.isAvailable then printAll topology.distanceLines
  reveal ((moments .ranking).topology tree)
  print s!"Policy: {(← allocator).policy.name}"
  let ranking ← call Allocator.epochRanking
  print s!"Ranking: {Text.bracketed ranking.order}"
  print ""

/-- What the probe copies into a block, without the zero byte at its end. -/
def greeting : String := "Hello, NUMA!"

/-- Gets, resizes and releases blocks and a buffer. -/
def basicPhase (baseline : Nat) : Phase σ Unit := do
  print "=== Basic ==="
  let block ← call fun a => a.allocate 100 none
  print s!"allocate(100): {address block}"
  let copy ← call fun a => a.allocateCopy (Text.Utf8.encode greeting ++ [0])
  let text ← inspect fun a => a.arena.readPayload copy 0 greeting.utf8ByteSize
  print s!"allocate_copy: {Text.Utf8.lossy text}"
  let block ← call fun a => a.reallocate (some block) 200 none
  print s!"reallocate to 200 bytes: {address block}"
  let expected := baseline + 200 + (greeting.utf8ByteSize + 1) + 2 * headerWidth
  let now ← used
  print s!"Used bytes: {now}"
  if now ≠ expected then throw (.unexpectedUsage "basic" now expected)
  let buffer ← call fun a => Buffer.ofBytes a (Text.Utf8.encode "sds on numalloc")
  let now ← used
  let buffer ← call fun a =>
    buffer.appendAll a ([", ", toString now, " bytes in use"].map Text.Utf8.encode)
  let shown ← inspect fun a => buffer.display a
  print shown
  perform fun a => buffer.drop a
  perform fun a => a.free (some block)
  perform fun a => a.free (some copy)
  perform fun a => a.free none
  print s!"After free: {← used} bytes"
  print ""
  checkBaseline "basic" baseline

/-- Gets a block on a node that is not the caller's, if there is one, and makes the caller's node the
default node. -/
def placementPhase (topology : Topology) (baseline : Nat) : Phase σ Unit := do
  print "=== Node placement ==="
  reveal topology
  match ← call Allocator.currentNode with
  | none =>
    print "Topology not available, all allocations are untargeted"
    print ""
  | some current =>
    print s!"Current node: {current}"
    let nodes := (← allocator).topology.nodes
    let target := (nodes.find? fun node => node ≠ current).getD current
    print s!"Allocating on node {target}"
    let block ← call fun a => a.allocate 512 (some target)
    perform (writeText block "Allocated on specific node\x00")
    let placed ← inspect fun a => a.blockNode block
    let backing := (← allocator).arena.origin? block
    print s!"Placed on: {Text.optional placed}, kernel reports: {Text.optional backing}"
    perform fun a => a.free (some block)
    match ← call fun a => a.setDefaultNode current with
    | .error e => throw (.refused "setting default node" e)
    | .ok () =>
      print s!"Default node set to: {current}"
      let counters := (← allocator).counters
      print (s!"Stats: {counters.targeted} targeted, {counters.fallbacks} untargeted, " ++
        s!"{counters.failedAttempts} failed attempts")
      print ""
      checkBaseline "placement" baseline

/-- The allocator after a crew of workers has used it. Worker `t` gets 1000 blocks of sizes from 32 on
and releases them in batches of 64. -/
def workCrew (workers : Nat) (schedule : List Nat) (a : Allocator σ) :
    Except Halt (Allocator σ) := do
  let crew := Crew.ofTasks a workers fun t => Task.batches t 64 (loadSizes 32 256 1 1000 t)
  return (← crew.work schedule).allocator

/-- The bytes of the record that the probe keeps of a worker. -/
def workerWidth : Nat := 3 * Word.width

/-- Lets a crew of workers use the allocator on a schedule. -/
def crewPhase (grants : Grants) (baseline workers : Nat) (schedule : List Nat) : Phase σ Unit := do
  print "=== Thread safety ==="
  perform fun a => .ok a.serialize
  print s!"Thread safety enabled, {workers} threads"
  reserve grants workers workerWidth
  perform (workCrew workers schedule)
  print s!"Used bytes after join: {← used}"
  print ""
  checkBaseline "thread safety" baseline

/-- Gets a block and labels it with a number. -/
def labelBlock (size number : Nat) (a : Allocator σ) : Except Halt (BlockId × Allocator σ) := do
  let (block, a) ← a.allocate size none
  let label := (Text.Utf8.encode s!"Block {number}").take size
  return (block, { a with arena := ← a.arena.writePayload block 0 label })

/-- Gets blocks of one size and labels them with the given numbers. The blocks are put in front of those
there are already. -/
def labelBlocks (size : Nat) (blocks : List BlockId) (a : Allocator σ) :
    List Nat → Except Halt (List BlockId × Allocator σ)
  | [] => .ok (blocks, a)
  | number :: rest => do
    let (block, a) ← labelBlock size number a
    labelBlocks size (block :: blocks) a rest

/-- Releases blocks in order. -/
def releaseAll (a : Allocator σ) : List BlockId → Except Halt (Allocator σ)
  | [] => .ok a
  | block :: rest => do
    let a ← a.free (some block)
    releaseAll a rest

/-- Gets a number of blocks of one size and releases them. -/
def bulkPhase (grants : Grants) (baseline count size : Nat) : Phase σ Unit := do
  print "=== Performance ==="
  print s!"Allocating {count} blocks of {size} bytes each"
  reserve grants count Word.width
  let blocks ← call fun a => labelBlocks size [] a (List.range count)
  print s!"Memory usage after allocation: {← used} bytes"
  perform fun a => releaseAll a blocks.reverse
  print s!"Memory usage after free: {← used} bytes"
  print ""
  checkBaseline "performance" baseline

end NodeHeap.Probe
