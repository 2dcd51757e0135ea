import NodeHeap.Error
import NodeHeap.Memory.Region

/-!
# Sources of memory

A source grants or refuses memory, bound to a node or anywhere, and takes it back. It is a state
machine: what it has seen so far decides its answers, and what is found in the memory that it grants. A
source may resize memory on its own; one that
does not leaves that to allocating, copying and releasing. A source may also break down, which ends the
process that called it.

`Call` records a call to a source, and `Call.line` words it.
-/

namespace NodeHeap

/-- A machine that grants memory. Every request names the region that a grant will become. -/
class Source (σ : Type) where
  /-- Asks for `size` bytes bound to `node`. -/
  allocOnNode : σ → (region : RegionId) → (size : Nat) → (node : NodeId) → Bool × σ
  /-- Asks for `size` bytes anywhere. -/
  alloc : σ → (region : RegionId) → (size : Nat) → Bool × σ
  /-- Asks for memory that was granted anywhere to be resized, if the source can do that. -/
  resize? : Option (σ → (region : RegionId) → (old new : Nat) → Bool × σ)
  /-- Takes back memory bound to `node`. -/
  freeOnNode : σ → (region : RegionId) → (size : Nat) → (node : NodeId) → σ
  /-- Takes back memory granted anywhere. -/
  free : σ → (region : RegionId) → (size : Nat) → σ
  /-- The bytes that are found in memory just granted, or added to a region, by their offset. -/
  found : σ → (region : RegionId) → Nat → UInt8
  /-- How the source broke down, if it did. -/
  breakdown? : σ → Option Halt := fun _ => none

/-- A call to a source, with the region it granted or was given. -/
inductive Call where
  | allocOnNode (node : NodeId) (size : Nat) (granted : Option RegionId)
  | alloc (size : Nat) (granted : Option RegionId)
  | resize (region : RegionId) (old new : Nat) (granted : Bool)
  | freeOnNode (node : NodeId) (size : Nat) (region : RegionId)
  | free (size : Nat) (region : RegionId)
  deriving DecidableEq, Repr

namespace Call

def outcome (granted : Bool) : String := if granted then "ok" else "fail"

/-- The call in words; regions are not shown. -/
def line : Call → String
  | allocOnNode node size granted => s!"node {node} {size} {outcome granted.isSome}"
  | alloc size granted => s!"alloc {size} {outcome granted.isSome}"
  | resize _ old new granted => s!"resize {old} {new} {outcome granted}"
  | freeOnNode node size _ => s!"free_node {node} {size}"
  | free size _ => s!"free {size}"

end Call

end NodeHeap
