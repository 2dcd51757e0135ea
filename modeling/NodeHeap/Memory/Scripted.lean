import NodeHeap.Memory.Source
import NodeHeap.Table

/-!
# A source that follows a script

A scripted source refuses what it was told to refuse: requests on failing nodes, requests anywhere
while those are failing, requests beyond the capacity of their origin, and very large ones. It has no
way of its own to resize memory. `Adjustment` changes the script while the source is in use.
-/

namespace NodeHeap

/-- Where memory is asked for: on a node, or anywhere. -/
abbrev Origin := Option NodeId

/-- A source that follows a script. -/
structure Scripted where
  failing : List NodeId := []
  failUntargeted : Bool := false
  /-- The most bytes that may be live at an origin; no bound for an origin that is not listed. -/
  capacity : Table Origin Nat := []
  /-- The bytes live at each origin. -/
  live : Table Origin Nat := []
  /-- The byte that fills memory as it is granted. -/
  litter : UInt8 := 0
  deriving DecidableEq, Repr

/-- A change of a script. What is left out stays as it is. -/
structure Adjustment where
  fail : List NodeId := []
  heal : List NodeId := []
  failUntargeted : Option Bool := none
  capacity : List (Origin × Nat) := []
  deriving DecidableEq, Repr

namespace Scripted

/-- The largest request that is granted. -/
def largestRequest : Nat := 16777216

def liveAt (s : Scripted) (origin : Origin) : Nat := (s.live.find? origin).getD 0

/-- Whether requests at an origin fail whatever their size. -/
def isFailing (s : Scripted) : Origin → Bool
  | some node => s.failing.contains node
  | none => s.failUntargeted

def grants (s : Scripted) (origin : Origin) (size : Nat) : Bool :=
  !s.isFailing origin && size ≤ largestRequest &&
    (s.capacity.find? origin).all fun bound => s.liveAt origin + size ≤ bound

/-- The source after a request. -/
def request (s : Scripted) (origin : Origin) (size : Nat) : Bool × Scripted :=
  if s.grants origin size then
    (true, { s with live := s.live.assign origin (s.liveAt origin + size) })
  else (false, s)

def release (s : Scripted) (origin : Origin) (size : Nat) : Scripted :=
  { s with live := s.live.assign origin (s.liveAt origin - size) }

/-- The source after a change of its script: failing nodes are added, then healed ones removed. -/
def adjust (s : Scripted) (change : Adjustment) : Scripted :=
  { s with
    failing := (s.failing ++ change.fail).filter fun node => !change.heal.contains node
    failUntargeted := change.failUntargeted.getD s.failUntargeted
    capacity := change.capacity.foldl (fun table entry => table.assign entry.1 entry.2) s.capacity }

instance : Source Scripted where
  allocOnNode s _ size node := s.request (some node) size
  alloc s _ size := s.request none size
  resize? := none
  freeOnNode s _ size node := s.release (some node) size
  free s _ size := s.release none size
  found s _ _ := s.litter

end Scripted

end NodeHeap
