import NodeHeap.Policy
import NodeHeap.Topology.NodeTree

/-!
# Log events

What an allocator and a node tree tell a log, as data. `Event.line` is the event's level and wording.
-/

namespace NodeHeap

/-- How much an event matters. -/
inductive Level where
  | debug
  | info
  | warn
  deriving DecidableEq, Repr

/-- The level in words. -/
def Level.name : Level → String
  | .debug => "DEBUG"
  | .info => "INFO"
  | .warn => "WARN"

/-- Something that a log is told. -/
inductive Event where
  /-- The topology was looked at. -/
  | surveyed (availability : Availability) (addressable : Nat) (reference : Option NodeId)
      (order : List NodeId)
  /-- The caller's node became the default node. -/
  | callerAdopted (node : NodeId)
  | defaultSet (node : NodeId)
  | defaultRejected (node : NodeId) (available : Nat)
  | hintIgnored (node : NodeId) (available : Nat)
  | policyChanged (old new : Policy)
  | serialized
  | topologyReset
  | bytesOutstanding (bytes : Nat)
  | shutDown
  /-- A node that was tried could not serve a request. -/
  | attemptFailed (size : Nat) (node : NodeId)
  /-- No node that was tried could serve a request. -/
  | targetsExhausted (size : Nat)
  /-- A node tree was listed. -/
  | treeListed (root : String) (availability : Availability) (count : Nat)
  | nodeListed (node : NodeId) (cpus : Nat) (distances : List Nat)
  deriving DecidableEq, Repr

namespace Event

/-- The event's level. -/
def level : Event → Level
  | defaultRejected _ _ | hintIgnored _ _ | bytesOutstanding _ => .warn
  | serialized | topologyReset | attemptFailed _ _ | targetsExhausted _ => .debug
  | _ => .info

/-- The event in words. -/
def message : Event → String
  | surveyed availability addressable reference order =>
    s!"Topology initialized: {availability.name}, {addressable} addressable nodes, " ++
      s!"reference node {Text.optional reference}, ranking {Text.bracketed order}"
  | callerAdopted node => s!"Default node set to caller's node {node}"
  | defaultSet node => s!"Default node set to {node}"
  | defaultRejected node available =>
    (AllocError.invalidNode node available).message ++ ", default node unchanged"
  | hintIgnored node available =>
    (AllocError.invalidNode node available).message ++ ", ignoring node hint"
  | policyChanged old new => s!"Placement policy changed: {old.name} -> {new.name}"
  | serialized => "Usage accounting is now lock-serialized"
  | topologyReset => "Topology state reset"
  | bytesOutstanding bytes => s!"Shutting down with {bytes} bytes still allocated"
  | shutDown => "Allocator shut down"
  | attemptFailed size node => s!"Allocation of {size} bytes on node {node} failed"
  | targetsExhausted size =>
    s!"No candidate node could serve {size} bytes, falling back to untargeted allocation"
  | treeListed root availability count =>
    s!"Topology at {root}: {availability.name} ({count} nodes)"
  | nodeListed node cpus distances =>
    s!"  Node {node}: {cpus} CPUs, distances {Text.bracketed distances}"

def line (event : Event) : String := event.level.name ++ " " ++ event.message

end Event

/-- What the log is told when the tree at `root` is listed. -/
def NodeTree.events (tree : NodeTree) (grants : Grants) (root : String) : Except Halt (List Event) := do
  let nodes ← tree.nodes.mapM fun node => do
    let cpus ← tree.cpusOfNode grants node
    return .nodeListed node cpus.length (tree.distanceRow node)
  return .treeListed root tree.availability tree.nodes.length :: nodes

end NodeHeap
