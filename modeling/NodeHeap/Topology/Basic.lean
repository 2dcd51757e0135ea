import NodeHeap.Error
import NodeHeap.Text.Column

/-!
# Topologies

A `Topology` is what a machine tells about its memory nodes at one moment: whether nodes can be used,
the largest node id, the nodes present, the caller's node and the distance between two nodes. Only an
available topology has valid nodes (`isValidNode`); they are the ids below `addressableNodes`.
-/

namespace NodeHeap

/-- How much a machine tells about its nodes. -/
inductive Availability where
  /-- Nodes are listed, and blocks can be placed on them. -/
  | available
  /-- Nodes could be listed, but there are none. -/
  | degraded
  /-- Nodes cannot be listed. -/
  | unavailable
  deriving DecidableEq, Repr

namespace Availability

/-- Whether blocks can be placed on nodes. -/
def isAvailable : Availability → Bool
  | available => true
  | _ => false

/-- The state in words. -/
def name : Availability → String
  | available => "available"
  | degraded => "degraded"
  | unavailable => "unavailable"

end Availability

/-- Distance of a node to itself where nothing else is known. -/
def localDistance : Nat := 10

/-- Distance between two nodes where nothing else is known. -/
def remoteDistance : Nat := 20

/-- The node that stands in for a caller whose node is not known. -/
def fallbackReference : NodeId := 0

/-- A machine's answers about its nodes at one moment. -/
structure Topology where
  availability : Availability
  /-- The largest id a node can have. -/
  maxNode : Option NodeId
  /-- The nodes present. -/
  nodes : List NodeId
  /-- The node the caller runs on, if it is known. To look for it may halt. -/
  callerNode : Except Halt (Option NodeId)
  distance : NodeId → NodeId → Nat

namespace Topology

/-- Whether blocks can be placed on nodes. -/
def isAvailable (t : Topology) : Bool := t.availability.isAvailable

/-- Whether a block can be asked for on `node`. -/
def isValidNode (t : Topology) (node : NodeId) : Bool :=
  t.isAvailable && t.maxNode.any fun max => node ≤ max

/-- How many node ids are valid: one more than the largest, or none. The count has to fit a word. -/
def addressableNodes (t : Topology) : Except Halt Nat :=
  match t.isAvailable, t.maxNode with
  | true, some max => if max + 1 < wordLimit then .ok (max + 1) else .error .sumOverflow
  | _, _ => .ok 0

/-- The lines of the distance table: a head line with the nodes present, and a line for each of them
with its distances. -/
def distanceLines (t : Topology) : List String :=
  ("node" ++ String.join (t.nodes.map (Text.column 5))) ::
    t.nodes.map fun source =>
      Text.column 4 source ++
        String.join (t.nodes.map fun target => Text.column 5 (t.distance source target))

/-- The distance table as a text. -/
def distanceTable (t : Topology) : String := "\n".intercalate t.distanceLines

theorem isValidNode_iff_lt {t : Topology} {count : Nat} (h : t.addressableNodes = .ok count)
    (node : NodeId) : t.isValidNode node = true ↔ node < count := by
  unfold addressableNodes at h
  unfold isValidNode
  cases ha : t.isAvailable <;> cases hm : t.maxNode <;> simp only [ha, hm] at h
  · cases h; simp
  · cases h; simp
  · cases h; simp
  · split at h <;> cases h
    simp only [Bool.true_and, Option.any_some, decide_eq_true_eq]
    exact Nat.lt_add_one_iff.symm

end Topology

end NodeHeap
