import Std.Data.ExtTreeMap
import NodeHeap.Error
import NodeHeap.Memory.Source

/-!
# Arenas

An arena is a source of memory with the regions it has granted and not taken back, and the calls made
to it. Granted regions get fresh names. Bytes are read and written only inside outstanding regions;
any other access is a halt (`Halt.badAccess`).

* `allocOnNode`, `alloc`, `resize`, `freeOnNode`, `free`: the calls to the source.
* `read`, `write`, `fill`, `copy`: the accesses.
-/

namespace NodeHeap

/-- A source of memory and the regions outstanding at it. -/
structure Arena (σ : Type) where
  source : σ
  regions : Std.ExtTreeMap RegionId Region := ∅
  /-- The name of the next region. -/
  next : RegionId := 0
  /-- The calls made so far, newest first. -/
  calls : List Call := []

namespace Arena

variable {σ : Type}

/-- The arena with a new region and the call that granted it. -/
def enter (a : Arena σ) (region : Region) (call : Call) : Arena σ :=
  { a with
    regions := a.regions.insert a.next region
    next := a.next + 1
    calls := call :: a.calls }

/-- The arena with a call that changed no region. -/
def record (a : Arena σ) (call : Call) : Arena σ := { a with calls := call :: a.calls }

section Requests

variable [Source σ]

/-- Asks for `size` bytes bound to `node`. -/
def allocOnNode (a : Arena σ) (size : Nat) (node : NodeId) : Option RegionId × Arena σ :=
  match Source.allocOnNode a.source a.next size node with
  | (true, source) =>
    (some a.next,
      { a with source }.enter (.fresh (some node) size (Source.found source a.next))
        (.allocOnNode node size (some a.next)))
  | (false, source) => (none, { a with source }.record (.allocOnNode node size none))

/-- Asks for `size` bytes anywhere. -/
def alloc (a : Arena σ) (size : Nat) : Option RegionId × Arena σ :=
  match Source.alloc a.source a.next size with
  | (true, source) =>
    (some a.next,
      { a with source }.enter (.fresh none size (Source.found source a.next))
        (.alloc size (some a.next)))
  | (false, source) => (none, { a with source }.record (.alloc size none))

/-- Takes a region back that was bound to `node`. -/
def freeOnNode (a : Arena σ) (region : RegionId) (size : Nat) (node : NodeId) : Arena σ :=
  { a with
    source := Source.freeOnNode a.source region size node
    regions := a.regions.erase region }.record (.freeOnNode node size region)

/-- Takes a region back that was granted anywhere. -/
def free (a : Arena σ) (region : RegionId) (size : Nat) : Arena σ :=
  { a with
    source := Source.free a.source region size
    regions := a.regions.erase region }.record (.free size region)

end Requests

/-- The node that a region was asked for on; none where there is no such region. -/
def origin? (a : Arena σ) (region : RegionId) : Option NodeId :=
  a.regions[region]?.bind Region.origin

/-- The region of a name, if bytes `start` to `start + length` of it may be touched. -/
def touch (a : Arena σ) (region : RegionId) (start length : Nat) : Except Halt Region :=
  match a.regions[region]? with
  | some r => if r.covers start length then .ok r else .error .badAccess
  | none => .error .badAccess

def read (a : Arena σ) (region : RegionId) (start length : Nat) : Except Halt Bytes := do
  let r ← a.touch region start length
  return r.slice start length

/-- Writes bytes into a region from `start`. -/
def write (a : Arena σ) (region : RegionId) (start : Nat) (bytes : Bytes) :
    Except Halt (Arena σ) := do
  let r ← a.touch region start bytes.length
  return { a with regions := a.regions.modify region fun _ => (r.overwrite start bytes).packed }

/-- Sets bytes of a region to one value. -/
def fill (a : Arena σ) (region : RegionId) (start length : Nat) (value : UInt8) :
    Except Halt (Arena σ) := do
  let r ← a.touch region start length
  return { a with regions := a.regions.modify region fun _ => (r.fill start length value).packed }

/-- Copies bytes of one region to the same place in another. -/
def copy (a : Arena σ) (source target : RegionId) (start length : Nat) :
    Except Halt (Arena σ) := do
  let r ← a.touch source start length
  let t ← a.touch target start length
  return { a with regions := a.regions.modify target fun _ => (t.copyFrom r start length).packed }

/-- Resizes a region that was granted anywhere. A source that cannot do that is asked for a new
region, which takes over the bytes that fit, and gets the old one back. -/
def resize [Source σ] (a : Arena σ) (region : RegionId) (old new : Nat) :
    Except Halt (Option RegionId × Arena σ) :=
  match Source.resize? (σ := σ) with
  | some ask =>
    match ask a.source region old new with
    | (true, source) =>
      .ok (some region,
        { a with
          source
          regions := a.regions.modify region fun r =>
            (r.resized new (Source.found source region)).packed }.record (.resize region old new true))
    | (false, source) => .ok (none, { a with source }.record (.resize region old new false))
  | none =>
    match a.alloc new with
    | (none, a) => .ok (none, a)
    | (some target, a) => do
      let a ← a.copy region target 0 (min old new)
      return (some target, a.free region old)

end Arena

end NodeHeap
