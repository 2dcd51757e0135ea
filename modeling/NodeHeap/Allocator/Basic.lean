import NodeHeap.Config
import NodeHeap.Counters
import NodeHeap.Event
import NodeHeap.Ranking
import NodeHeap.Usage
import NodeHeap.Allocator.Header

/-!
# Allocators

An allocator places blocks on the nodes of a topology. It looks at the topology when it first needs
to and keeps what it saw as a `Snapshot` until it is reset; the time from one look to the next reset is
an epoch.

* `Allocator.survey`: the epoch's snapshot, with a look at the topology if the epoch has none yet.
* `Allocator.targets`: the nodes to try for a request, from the snapshot, the policy, the default node
  and the hint.
-/

namespace NodeHeap

/-- What an allocator saw of the topology. -/
structure Snapshot where
  availability : Availability
  /-- How many node ids are valid. -/
  addressable : Nat
  /-- The nodes as seen from the caller's node. -/
  ranking : Ranking
  deriving DecidableEq, Repr

/-- What there is to see of a topology. -/
def Topology.snapshot (t : Topology) : Except Halt Snapshot := do
  let ranking ← Ranking.forCaller t
  let addressable ← t.addressableNodes
  return { availability := t.availability, addressable, ranking }

/-- An allocator over a source of memory. -/
structure Allocator (σ : Type) where
  /-- What the topology answers now. -/
  topology : Topology
  arena : Arena σ
  /-- What the epoch's first look at the topology saw. -/
  snapshot : Option Snapshot := none
  /-- The byte that stands for the policy. -/
  policyByte : UInt8 := Policy.default.byte
  /-- The default node. -/
  defaultSlot : NodeSlot := .vacant
  /-- Whether the caller's node becomes the default node when there is none. -/
  localDefault : Bool := false
  usage : Usage := {}
  counters : Counters := {}
  /-- What the log was told, newest first. -/
  events : List Event := []

namespace Allocator

variable {σ : Type}

/-- An allocator with the default policy and no default node. -/
def new (topology : Topology) (source : σ) : Allocator σ :=
  { topology, arena := { source } }

/-- Tells the log. -/
def note (a : Allocator σ) (event : Event) : Allocator σ := { a with events := event :: a.events }

def policy (a : Allocator σ) : Policy := .ofByte a.policyByte

def defaultNode (a : Allocator σ) : Option NodeId := a.defaultSlot.node?

/-- The bytes of live blocks, headers included. -/
def usedBytes (a : Allocator σ) : Nat := a.usage.bytes

/-- Makes the reference node of a new snapshot the default node, where that is asked for and there
is none. -/
def adopt (a : Allocator σ) (snapshot : Snapshot) : Allocator σ :=
  match a.localDefault && a.defaultNode.isNone, snapshot.ranking.reference with
  | true, some node => { a with defaultSlot := .holding node }.note (.callerAdopted node)
  | _, _ => a

/-- Starts an epoch with what was seen of the topology. -/
def beginEpoch (a : Allocator σ) (snapshot : Snapshot) : Allocator σ :=
  { (a.note (.surveyed snapshot.availability snapshot.addressable snapshot.ranking.reference
        snapshot.ranking.order)).adopt snapshot with
    snapshot := some snapshot }

/-- The epoch's snapshot. The topology is looked at if the epoch has none yet. -/
def survey (a : Allocator σ) : Except Halt (Snapshot × Allocator σ) :=
  match a.snapshot with
  | some snapshot => .ok (snapshot, a)
  | none => do
    let snapshot ← a.topology.snapshot
    return (snapshot, a.beginEpoch snapshot)

/-- The hint if it is a valid node; any other hint is reported and dropped. -/
def checkHint (a : Allocator σ) (snapshot : Snapshot) :
    Option NodeId → Option NodeId × Allocator σ
  | some node =>
    if node < snapshot.addressable then (some node, a)
    else (none, a.note (.hintIgnored node snapshot.addressable))
  | none => (none, a)

/-- What is known about a request in an epoch. -/
def context (a : Allocator σ) (snapshot : Snapshot) (hint : Option NodeId) : PlacementContext :=
  { hint
    available := snapshot.availability.isAvailable
    defaultNode := a.defaultNode
    ranking := snapshot.ranking.order }

/-- The nodes to try for a request, in order. -/
def targets (a : Allocator σ) (hint : Option NodeId) :
    Except Halt (List NodeId × Allocator σ) := do
  let (snapshot, a) ← a.survey
  let (hint, a) := a.checkHint snapshot hint
  return (a.policy.targets (a.context snapshot hint), a)

/-- A value that was got with the allocator, unless the source of memory broke down meanwhile. -/
def unlessBroken {α : Type} [Source σ] (a : Allocator σ) (value : α) : Except Halt α :=
  match Source.breakdown? a.arena.source with
  | some halt => .error halt
  | none => .ok value

theorem survey_of_snapshot {a : Allocator σ} {snapshot : Snapshot}
    (h : a.snapshot = some snapshot) : a.survey = .ok (snapshot, a) := by
  simp [survey, h]

end Allocator

end NodeHeap
