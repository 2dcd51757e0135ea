import NodeHeap.Topology.Basic
import NodeHeap.Topology.Bisection

/-!
# Topologies given by a distance matrix

The row and column of a square matrix are node ids, its entries the distances. Nodes may be marked
absent: they keep their id and their distances and are not listed. The absent ids are kept strictly
ascending by every change (`withAbsent`), whatever their order and number in the argument; so they can
be searched by halving (`nodes`).
-/

namespace NodeHeap

/-- The distance between two ids of which one is outside the matrix. -/
def outsideDistance : Nat := (1 <<< 32) - 1

/-- A topology given by its distances. -/
structure MatrixTopology where
  /-- The state while some node is listed. -/
  state : Availability
  rows : List (List Nat)
  /-- The ids that are not listed, ascending. -/
  absent : List NodeId := []
  /-- The caller's node. -/
  caller : NodeSlot := .vacant
  deriving DecidableEq, Repr

namespace MatrixTopology

/-- The first row whose length is not the number of rows. -/
def raggedRow? (rows : List (List Nat)) : Option (Nat × List Nat) :=
  (rows.zipIdx.find? fun entry => entry.1.length ≠ rows.length).map fun entry => (entry.2, entry.1)

/-- The topology of a matrix that is square and not empty. -/
def ofRows (rows : List (List Nat)) : Except AllocError MatrixTopology :=
  if rows.isEmpty then .error (.topology .emptyMatrix)
  else match raggedRow? rows with
    | some (row, entries) => .error (.topology (.raggedRow row entries.length rows.length))
    | none => .ok { state := .available, rows }

/-- The matrix of `n` nodes that are all equally far from one another. -/
def symmetricRows (n : Nat) : List (List Nat) :=
  (List.range n).map fun a => (List.range n).map fun b =>
    if a = b then localDistance else remoteDistance

/-- The topology of `n` nodes that are all equally far from one another. -/
def symmetric (n : Nat) : Except AllocError MatrixTopology := ofRows (symmetricRows n)

/-- A machine that cannot list nodes. -/
def unavailable : MatrixTopology := { state := .unavailable, rows := [] }

/-- A machine that lists no nodes. -/
def degraded : MatrixTopology := { state := .degraded, rows := [] }

/-- The topology with the caller's node set, or unknown. -/
def withCaller (m : MatrixTopology) (caller : Option NodeId) : MatrixTopology :=
  { m with caller := .ofOption caller }

/-- The topology with more nodes marked absent. -/
def withAbsent (m : MatrixTopology) (nodes : List NodeId) : MatrixTopology :=
  { m with absent := ((m.absent ++ nodes).mergeSort (· ≤ ·)).eraseReps }

/-- The ids of the matrix that are not marked absent, ascending. -/
def nodes (m : MatrixTopology) : List NodeId :=
  (List.range m.rows.length).filter fun node => !bisects m.absent node

/-- The state reported: with no node left to list, an available topology is degraded. -/
def availability (m : MatrixTopology) : Availability :=
  if m.state.isAvailable && m.nodes.isEmpty then .degraded else m.state

/-- The largest id of the matrix, absent or not. -/
def maxNode (m : MatrixTopology) : Option NodeId :=
  if m.state.isAvailable ∧ m.rows.length ≠ 0 then some (m.rows.length - 1) else none

/-- The entry of the matrix. -/
def distance (m : MatrixTopology) (source target : NodeId) : Nat :=
  ((m.rows[source]?).bind fun row => row[target]?).getD outsideDistance

/-- What the matrix says about the machine. -/
def topology (m : MatrixTopology) : Topology where
  availability := m.availability
  maxNode := m.maxNode
  nodes := m.nodes
  callerNode := .ok m.caller.node?
  distance := m.distance

end MatrixTopology

end NodeHeap
