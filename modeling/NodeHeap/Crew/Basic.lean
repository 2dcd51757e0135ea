import NodeHeap.Allocator.Control
import NodeHeap.Crew.Row

/-!
# Crews

A crew is a number of workers that use one allocator at the same time. Each worker has a list of tasks
and a row of the blocks that it owns. Tasks name blocks by their birth, and a worker waits for a block that
it does not have yet. A task is not done at once: it takes steps, between which the other workers take
theirs. The steps of an allocation are the choice of the nodes to try, each call to the source, each change
of the counters, and the update of the usage word together with the header; those of a release are the
update of the usage word, the change of the counters, and the call to the source. A schedule says whose
step is next, so every way in which the tasks can overlap is a schedule. A worker that halts ends the work
of its crew, which learns no more than that (`Halt.ofWorker`).

* `Worker.advance`: one step of a worker.
* `Crew.step`, `Crew.run`: one step of the worker whose turn it is, and the steps of a schedule.
* `Worker.workAlone`: the tasks of a worker, up to one that another worker has a part in.
* `Crew.finish`: the crew when each worker in turn has done what it has left to do.
-/

namespace NodeHeap

/-- Something that a worker has to do. -/
inductive Task where
  /-- Gets a block. A `fatal` worker cannot do without it; any other goes on without a block that is
  refused. -/
  | allocate (fatal : Bool) (size : Nat)
  /-- Releases a block when the worker has it, unless it was refused. -/
  | free (birth : Birth)
  /-- Gives a block to another worker when the worker has it, or tells that it was refused. -/
  | handOver (birth : Birth) (receiver : Nat)
  deriving DecidableEq, Repr

/-- A block that a worker asks for. -/
structure Demand where
  fatal : Bool
  size : Nat
  /-- The size of the block, header included. -/
  total : Nat
  birth : Birth
  deriving DecidableEq, Repr

/-- How far a worker is with a task. -/
inductive Stage where
  /-- The worker can start a task. -/
  | ready
  /-- A block is asked for, first on the nodes and then anywhere. -/
  | asking (demand : Demand) (targets : List NodeId)
  /-- A node was tried in vain, which is not counted yet. -/
  | missed (demand : Demand) (targets : List NodeId)
  /-- A region was granted, on a node or anywhere, which is not counted yet. -/
  | granted (demand : Demand) (region : RegionId) (node : Option NodeId)
  /-- A region was granted and counted; it is no block yet. -/
  | counted (demand : Demand) (region : RegionId) (origin : NodeSlot)
  /-- A block is no longer in use, which is not counted yet. -/
  | dropped (block : BlockId) (header : Header)
  /-- A block is no longer in use, and its region can be given back. -/
  | uncounted (block : BlockId) (header : Header)
  deriving DecidableEq, Repr

/-- At most how many steps a worker needs until it can start a task. -/
def Stage.stepsLeft : Stage → Nat
  | .ready => 0
  | .asking _ targets => 2 * targets.length + 3
  | .missed _ targets => 2 * targets.length + 4
  | .granted .. | .dropped .. => 2
  | .counted .. | .uncounted .. => 1

/-- One of the users of an allocator. -/
structure Worker where
  tasks : List Task
  blocks : BlockRow := {}
  stage : Stage := .ready
  /-- How many blocks the worker has asked for. -/
  asked : Nat := 0
  deriving DecidableEq, Repr

/-- An allocator and its users. -/
structure Crew (σ : Type) where
  allocator : Allocator σ
  workers : List Worker

namespace Worker

variable {σ : Type} [Source σ]

/-- The end of a request that got no block. -/
def goWithout (w : Worker) (a : Allocator σ) (fatal : Bool) (size : Nat) (birth : Birth) :
    Except Halt (Worker × Allocator σ) :=
  if fatal then .error (.exhausted size)
  else .ok ({ w with stage := .ready, blocks := w.blocks.push birth none }, a)

/-- The first step of an allocation. -/
def startAllocate (w : Worker) (a : Allocator σ) (turn : Nat) (fatal : Bool) (size : Nat) :
    Except Halt (Worker × Allocator σ) := do
  let (targets, a) ← a.targets none
  let birth := .asked turn w.asked
  let w := { w with asked := w.asked + 1 }
  match totalFor? size with
  | none => w.goWithout a fatal size birth
  | some total => return ({ w with stage := .asking { fatal, size, total, birth } targets }, a)

/-- The first step of the release of a block. -/
def startFree (w : Worker) (a : Allocator σ) (block : BlockId) :
    Except Halt (Worker × Allocator σ) := do
  let header ← a.arena.header block
  return ({ w with stage := .dropped block header }, { a with usage := a.usage.sub header.total })

/-- One step of the worker that the crew knows as number `turn`. -/
def advance (w : Worker) (a : Allocator σ) (turn : Nat) : Except Halt (Worker × Allocator σ) :=
  match w.stage with
  | .ready =>
    match w.tasks with
    | .allocate fatal size :: tasks => { w with tasks }.startAllocate a turn fatal size
    | .free birth :: tasks =>
      match w.blocks.take? birth with
      | some (some block, blocks) => { w with tasks, blocks }.startFree a block
      | some (none, blocks) => .ok ({ w with tasks, blocks }, a)
      | none => .ok (w, a)
    | [] | .handOver .. :: _ => .ok (w, a)
  | .asking demand (node :: targets) =>
    match a.arena.allocOnNode demand.total node with
    | (some region, arena) =>
      .ok ({ w with stage := .granted demand region (some node) }, { a with arena })
    | (none, arena) =>
      .ok ({ w with stage := .missed demand targets },
        { a with arena }.note (.attemptFailed demand.total node))
  | .asking demand [] =>
    match a.arena.alloc demand.total with
    | (some region, arena) =>
      .ok ({ w with stage := .granted demand region none }, { a with arena })
    | (none, arena) => w.goWithout { a with arena } demand.fatal demand.size demand.birth
  | .missed demand targets =>
    .ok ({ w with stage := .asking demand targets },
      { a with counters := a.counters.failedAttempt })
  | .granted demand region node =>
    .ok ({ w with stage := .counted demand region (.ofOption node) },
      { a with
        counters := if node.isSome then a.counters.grantTargeted else a.counters.grantFallback })
  | .counted demand region origin => do
    let arena ← a.arena.setHeader region { size := demand.size, origin }
    return ({ w with stage := .ready, blocks := w.blocks.push demand.birth (some region) },
      { a with arena, usage := a.usage.add demand.total })
  | .dropped block header =>
    .ok ({ w with stage := .uncounted block header }, { a with counters := a.counters.release })
  | .uncounted block header =>
    .ok ({ w with stage := .ready },
      { a with
        arena := match header.node? with
          | some node => a.arena.freeOnNode block header.total node
          | none => a.arena.free block header.total })

/-- The worker when it has done its task, which takes at most so many steps. -/
def settle (w : Worker) (a : Allocator σ) (turn : Nat) : (steps : Nat) → Except Halt (Worker × Allocator σ)
  | 0 => .ok (w, a)
  | steps + 1 =>
    if w.stage = .ready then .ok (w, a)
    else do
      let (w, a) ← w.advance a turn
      w.settle a turn steps

/-- The worker when it has done its task and at most so many tasks more. It stops at a task that another
worker has a part in. -/
def workAlone (w : Worker) (a : Allocator σ) (turn : Nat) : (count : Nat) → Except Halt (Worker × Allocator σ)
  | 0 => w.settle a turn w.stage.stepsLeft
  | count + 1 => do
    let (w, a) ← w.settle a turn w.stage.stepsLeft
    match w.tasks with
    | [] | .handOver .. :: _ => return (w, a)
    | _ =>
      let (w, a) ← w.advance a turn
      w.workAlone a turn count

end Worker

namespace Crew

variable {σ : Type} [Source σ]

/-- The workers when one of them has given a block to another one. A block that is not there yet is waited for,
and one without a receiver stays where it is. -/
def handOver (workers : List Worker) (giver : Nat) (w : Worker) (tasks : List Task) (birth : Birth)
    (receiver : Nat) : List Worker :=
  match w.blocks.take? birth with
  | none => workers
  | some (block, blocks) =>
    if receiver < workers.length then
      (workers.set giver { w with tasks, blocks }).modify receiver fun v =>
        { v with blocks := v.blocks.push birth block }
    else workers.set giver { w with tasks }

/-- One step of the worker whose turn it is. -/
def step (c : Crew σ) (turn : Nat) : Except Halt (Crew σ) :=
  match c.workers[turn]? with
  | none => .ok c
  | some w =>
    match w.stage, w.tasks with
    | .ready, .handOver birth receiver :: tasks =>
      .ok { c with workers := handOver c.workers turn w tasks birth receiver }
    | _, _ => do
      let (w, allocator) ← (w.advance c.allocator turn).mapError Halt.ofWorker
      return { allocator, workers := c.workers.set turn w }

/-- The steps of a schedule. -/
def run (c : Crew σ) : List Nat → Except Halt (Crew σ)
  | [] => .ok c
  | turn :: rest => do
    let c ← c.step turn
    c.run rest

/-- The crew when a worker has worked alone, as far as it can. -/
def letWork (c : Crew σ) (turn : Nat) : Except Halt (Crew σ) :=
  match c.workers[turn]? with
  | none => .ok c
  | some w => do
    let (w, allocator) ← (w.workAlone c.allocator turn w.tasks.length).mapError Halt.ofWorker
    return { allocator, workers := c.workers.set turn w }

/-- The crew when a worker has nothing left to do, if it has at most so many tasks. -/
def finishOne (c : Crew σ) (turn : Nat) : (count : Nat) → Except Halt (Crew σ)
  | 0 => c.letWork turn
  | count + 1 => do
    let c ← c.letWork turn
    match c.workers[turn]?.map Worker.tasks with
    | none | some [] => return c
    | some (_ :: _) =>
      let c ← c.step turn
      c.finishOne turn count

/-- The crew when each of the given workers in turn has nothing left to do. -/
def finishEach (c : Crew σ) : List Nat → Except Halt (Crew σ)
  | [] => .ok c
  | turn :: rest => do
    let c ← c.finishOne turn (((c.workers[turn]?).map fun w => w.tasks.length).getD 0)
    c.finishEach rest

/-- The crew when each worker in turn has nothing left to do. -/
def finish (c : Crew σ) : Except Halt (Crew σ) := c.finishEach (List.range c.workers.length)

/-- The crew when its workers have done all tasks: first by the schedule, then one worker after the
other. -/
def work (c : Crew σ) (schedule : List Nat) : Except Halt (Crew σ) := do
  let c ← c.run schedule
  c.finish

end Crew

end NodeHeap
