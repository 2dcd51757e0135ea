import NodeHeap.Usage

/-!
# Usage that workers share

The workers of one allocator share its usage. An update of it is no single step: a worker looks whether updates are
serialized, waits for the lock if they are, loads the word, stores another one, and releases the lock; if they are not,
it loads and stores without the lock. The bytes in use are asked for in the same way. Between any two of these steps the
other workers take theirs. A schedule says whose step is next, so every way in which the tasks can overlap is a
schedule. A worker that has to wait, or has nothing left to do, lets its turn pass.

* `SharedUsage.Worker.advance?`: one step of a worker, if it can take one.
* `SharedUsage.step`, `SharedUsage.run`: one step of the worker whose turn it is, and the steps of a schedule.
-/

namespace NodeHeap

namespace SharedUsage

/-- Something that a worker does with the usage. -/
inductive Task where
  | add (n : Nat)
  | sub (n : Nat)
  /-- Asks for the bytes in use. -/
  | read
  | serialize
  deriving DecidableEq, Repr

/-- The word that is stored in place of one that was loaded. -/
def Task.update : Task → UInt64 → UInt64
  | add n, word => word + UInt64.ofNat n
  | sub n, word => word - UInt64.ofNat n
  | read, word | serialize, word => word

/-- How far a worker is with its first task. -/
inductive Phase where
  | idle
  /-- The lock is needed. -/
  | waiting
  /-- The lock is taken. -/
  | locked
  /-- The lock is taken, and a word was loaded. -/
  | loaded (word : UInt64)
  /-- The lock is taken, and there is nothing left to do but to release it. -/
  | settled
  /-- The task is done without the lock. -/
  | bare
  /-- A word was loaded without the lock. -/
  | bareLoaded (word : UInt64)
  deriving DecidableEq, Repr

/-- Whether the lock was taken and not released. -/
def Phase.inside : Phase → Bool
  | locked | loaded _ | settled => true
  | idle | waiting | bare | bareLoaded _ => false

/-- One of those who share the usage. -/
structure Worker where
  /-- The tasks that are not done yet. -/
  tasks : List Task
  phase : Phase := .idle
  /-- The tasks that are done, oldest first. -/
  done : List Task := []
  /-- What the worker was told of the bytes in use, oldest first. -/
  answers : List UInt64 := []
  deriving DecidableEq, Repr

namespace Worker

/-- The worker when it has done a task, with the others that it has. -/
def finish (w : Worker) (task : Task) (rest : List Task) : Worker :=
  { w with tasks := rest, phase := .idle, done := w.done ++ [task] }

/-- The worker when it was told the bytes in use. -/
def hear (w : Worker) (word : UInt64) : Worker := { w with answers := w.answers ++ [word] }

/-- One step of the worker whose turn it is, given who holds the lock; none if it has to wait or has nothing to do. To
switch serialization on takes the lock in any case. -/
def advance? (w : Worker) (turn : Nat) (holder : Option Nat) (usage : Usage) :
    Option (Worker × Option Nat × Usage) :=
  match w.tasks with
  | [] => none
  | task :: rest =>
    match w.phase, task with
    | .idle, .serialize => some ({ w with phase := .waiting }, holder, usage)
    | .idle, _ =>
      some ({ w with phase := if usage.serialized then .waiting else .bare }, holder, usage)
    | .waiting, _ =>
      if holder.isNone then some ({ w with phase := .locked }, some turn, usage) else none
    | .locked, .read => some ({ w.hear usage.used with phase := .settled }, holder, usage)
    | .locked, .serialize => some ({ w with phase := .settled }, holder, usage.serialize)
    | .locked, _ => some ({ w with phase := .loaded usage.used }, holder, usage)
    | .loaded word, _ =>
      some ({ w with phase := .settled }, holder, { usage with used := task.update word })
    | .settled, _ => some (w.finish task rest, none, usage)
    | .bare, .read => some ((w.hear usage.used).finish task rest, holder, usage)
    | .bare, _ => some ({ w with phase := .bareLoaded usage.used }, holder, usage)
    | .bareLoaded word, _ =>
      some (w.finish task rest, holder, { usage with used := task.update word })

end Worker

end SharedUsage

/-- A usage, the lock that serializes its updates, and the workers who share it. -/
structure SharedUsage where
  usage : Usage
  /-- Whose turn it was when the lock was taken. -/
  holder : Option Nat := none
  workers : List SharedUsage.Worker
  deriving DecidableEq, Repr

namespace SharedUsage

/-- A usage that is shared by one worker for each list of tasks. -/
def ofTasks (usage : Usage) (tasks : List (List Task)) : SharedUsage :=
  { usage, workers := tasks.map fun tasks => { tasks } }

/-- One step of the worker whose turn it is, if it can take one. -/
def advance? (s : SharedUsage) (turn : Nat) : Option SharedUsage := do
  let w ← s.workers[turn]?
  let (w, holder, usage) ← w.advance? turn s.holder s.usage
  return { usage, holder, workers := s.workers.set turn w }

/-- One step of the worker whose turn it is; nothing if it can take none. -/
def step (s : SharedUsage) (turn : Nat) : SharedUsage := (s.advance? turn).getD s

/-- The steps of a schedule. -/
def run (s : SharedUsage) (schedule : List Nat) : SharedUsage := schedule.foldl step s

end SharedUsage

end NodeHeap
