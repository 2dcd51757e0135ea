/-!
# Placement counters

What an allocator counts: blocks granted and released, reallocation calls, and how the blocks were
placed. A block that is served counts once as targeted or once as a fallback.
-/

namespace NodeHeap

/-- The counters of an allocator. -/
structure Counters where
  allocations : Nat := 0
  frees : Nat := 0
  /-- Reallocation calls that were given a block. -/
  reallocations : Nat := 0
  /-- Blocks served on a node that was tried. -/
  targeted : Nat := 0
  /-- Blocks served without a node. -/
  fallbacks : Nat := 0
  /-- Nodes tried in vain. -/
  failedAttempts : Nat := 0
  deriving DecidableEq, Repr

namespace Counters

/-- Blocks granted and not released; none if more were released than granted. -/
def live (c : Counters) : Nat := c.allocations - c.frees

/-- One block more, served on a node. -/
def grantTargeted (c : Counters) : Counters :=
  { c with allocations := c.allocations + 1, targeted := c.targeted + 1 }

/-- One block more, served without a node. -/
def grantFallback (c : Counters) : Counters :=
  { c with allocations := c.allocations + 1, fallbacks := c.fallbacks + 1 }

def release (c : Counters) : Counters := { c with frees := c.frees + 1 }

def reallocation (c : Counters) : Counters := { c with reallocations := c.reallocations + 1 }

def failedAttempt (c : Counters) : Counters := { c with failedAttempts := c.failedAttempts + 1 }

end Counters

end NodeHeap
