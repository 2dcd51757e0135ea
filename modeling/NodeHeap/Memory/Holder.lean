import NodeHeap.Memory.Arena

/-!
# Holders of one region

A holder uses a source of memory directly: it holds at most one region, with no header in it, and gets
an answer to each step.

* `Holder.step`: one step and its answer.
* `Holder.run`: the answers to a list of steps.
-/

namespace NodeHeap

/-- A source of memory and the region that is held, with its size. -/
structure Holder (σ : Type) where
  arena : Arena σ
  held : Option (RegionId × Nat) := none

/-- One step of a holder. -/
inductive HolderStep where
  | alloc (size : Nat)
  | allocOnNode (size : Nat) (node : NodeId)
  | resize (size : Nat)
  /-- Writes bytes from the region's start. -/
  | write (bytes : Bytes)
  /-- Reads bytes from the region's start, as many as there are. -/
  | read (length : Nat)
  | free
  /-- Asks for the node that backs a place where there is no region. -/
  | locateNowhere
  deriving DecidableEq, Repr

/-- The answer to a step of a holder. -/
inductive HolderAnswer where
  | unit
  | granted (yes : Bool)
  | bytes (bytes : Bytes)
  | node (node : Option NodeId)
  | halted (halt : Halt)
  deriving DecidableEq, Repr

namespace Holder

variable {σ : Type} [Source σ]

/-- The holder after a request for `size` bytes. A refused request changes what is held in nothing. -/
def take (h : Holder σ) (size : Nat) : Option RegionId × Arena σ → HolderAnswer × Holder σ
  | (some region, arena) => (.granted true, { arena, held := some (region, size) })
  | (none, arena) => (.granted false, { h with arena })

/-- What a step does, unless it halts. -/
def perform (h : Holder σ) : HolderStep → Except Halt (HolderAnswer × Holder σ)
  | .alloc size => .ok (h.take size (h.arena.alloc size))
  | .allocOnNode size node => .ok (h.take size (h.arena.allocOnNode size node))
  | .resize size =>
    match h.held with
    | none => .error .badAccess
    | some (region, old) => do
      return h.take size (← h.arena.resize region old size)
  | .write bytes =>
    match h.held with
    | none => .error .badAccess
    | some (region, _) => do
      return (.unit, { h with arena := ← h.arena.write region 0 bytes })
  | .read length =>
    match h.held with
    | none => .error .badAccess
    | some (region, size) => do
      return (.bytes (← h.arena.read region 0 (min length size)), h)
  | .free =>
    match h.held with
    | none => .ok (.unit, h)
    | some (region, size) =>
      .ok (.unit,
        { arena := match h.arena.origin? region with
            | some node => h.arena.freeOnNode region size node
            | none => h.arena.free region size
          held := none })
  | .locateNowhere => .ok (.node (h.arena.origin? h.arena.next), h)

/-- One step and its answer. A step that halts changes nothing. -/
def step (h : Holder σ) (step : HolderStep) : HolderAnswer × Holder σ :=
  match h.perform step with
  | .ok answered => answered
  | .error halt => (.halted halt, h)

def run (h : Holder σ) : List HolderStep → List HolderAnswer
  | [] => []
  | step :: rest => (h.step step).1 :: (h.step step).2.run rest

end Holder

end NodeHeap
