import NodeHeap.Allocator.Blocks

/-!
# Control of an allocator

Policy, default node, epochs and accounting of an allocator, and allocators made from a
configuration. Among these only `setDefaultNode`, `currentNode`, `epochAvailability` and
`epochRanking` look at the topology, and `ofConfig` if it is given a default node.
-/

namespace NodeHeap

namespace Allocator

variable {σ : Type}

/-- Places by another policy from now on. -/
def setPolicy (a : Allocator σ) (policy : Policy) : Allocator σ :=
  let changed := { a with policyByte := policy.byte }
  if a.policy = policy then changed else changed.note (.policyChanged a.policy policy)

/-- Makes a valid node the default node. Any other node is refused. -/
def setDefaultNode (a : Allocator σ) (node : NodeId) :
    Except Halt (Except AllocError Unit × Allocator σ) := do
  let (snapshot, a) ← a.survey
  if node < snapshot.addressable then
    return (.ok (), { a with defaultSlot := .holding node }.note (.defaultSet node))
  else
    return (.error (.invalidNode node snapshot.addressable),
      a.note (.defaultRejected node snapshot.addressable))

def clearDefaultNode (a : Allocator σ) : Allocator σ := { a with defaultSlot := .vacant }

/-- The caller's node now, if the epoch's topology is available. -/
def currentNode (a : Allocator σ) : Except Halt (Option NodeId × Allocator σ) := do
  let (snapshot, a) ← a.survey
  if snapshot.availability.isAvailable then return (← a.topology.callerNode, a)
  else return (none, a)

def epochAvailability (a : Allocator σ) : Except Halt (Availability × Allocator σ) := do
  let (snapshot, a) ← a.survey
  return (snapshot.availability, a)

def epochRanking (a : Allocator σ) : Except Halt (Ranking × Allocator σ) := do
  let (snapshot, a) ← a.survey
  return (snapshot.ranking, a)

/-- Ends the epoch. -/
def resetTopology (a : Allocator σ) : Allocator σ :=
  { a with snapshot := none }.note .topologyReset

/-- Ends the epoch, and reports the bytes that are still in use. Blocks stay as they are. -/
def shutdown (a : Allocator σ) : Allocator σ :=
  let a := if a.usedBytes = 0 then a else a.note (.bytesOutstanding a.usedBytes)
  { a with snapshot := none }.note .shutDown

def serialize (a : Allocator σ) : Allocator σ :=
  { a with usage := a.usage.serialize }.note .serialized

/-- The allocator that a configuration asks for, and its answer to the configuration. -/
def ofConfig (topology : Topology) (source : σ) (config : Config) :
    Except Halt (Except AllocError Unit × Allocator σ) :=
  let fresh := Allocator.new topology source
  match config.validate with
  | .error e => .ok (.error e, fresh)
  | .ok config =>
    let a :=
      { fresh with
        localDefault := config.localDefault
        policyByte := config.policy.byte
        usage := if config.threadSafe then fresh.usage.serialize else fresh.usage }
    match config.defaultNode with
    | some node => a.setDefaultNode node
    | none => .ok (.ok (), a)

/-- Makes `config` that of the process-wide allocator, which can be done only while there is none. -/
def install (installed : Option (Allocator σ)) (topology : Topology) (source : σ)
    (config : Config) : Except Halt (Except AllocError Unit × Option (Allocator σ)) :=
  match installed with
  | some a => .ok (.error .alreadyInstalled, some a)
  | none => do
    let (answer, a) ← ofConfig topology source config
    return (answer, match answer with
      | .ok () => some a
      | .error _ => none)

end Allocator

end NodeHeap
