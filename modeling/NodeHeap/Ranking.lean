import NodeHeap.Topology.Basic

/-!
# Node rankings

A ranking lists the nodes present by their distance from a reference node, equal distances by id.
Without an available topology, or without nodes, there is no ranking and no reference.
-/

namespace NodeHeap

/-- The nodes in the order in which they are tried. -/
structure Ranking where
  /-- The node that distances are measured from. -/
  reference : Option NodeId := none
  order : List NodeId := []
  deriving DecidableEq, Repr

namespace Ranking

/-- Whether `a` is not farther from `reference` than `b`, equal distances going by id. -/
def nearerOrEqual (t : Topology) (reference a b : NodeId) : Bool :=
  t.distance reference a < t.distance reference b ∨
    t.distance reference a = t.distance reference b ∧ a ≤ b

/-- The ranking from a reference node. -/
def build (t : Topology) (reference : NodeId) : Ranking :=
  if t.isAvailable && !t.nodes.isEmpty then
    { reference := some reference, order := t.nodes.mergeSort (nearerOrEqual t reference) }
  else {}

/-- The ranking from the caller's node. -/
def forCaller (t : Topology) : Except Halt Ranking := do
  let caller ← t.callerNode
  return build t (caller.getD fallbackReference)

/-- The node that is tried first. -/
def nearest (r : Ranking) : Option NodeId := r.order.head?

/-- How many nodes are ranked. -/
def size (r : Ranking) : Nat := r.order.length

/-- Whether no node is ranked. -/
def isEmpty (r : Ranking) : Bool := r.order.isEmpty

theorem build_of_not_available {t : Topology} (h : t.isAvailable = false) (reference : NodeId) :
    build t reference = {} := by
  simp [build, h]

theorem order_perm {t : Topology} {reference : NodeId} (h : t.isAvailable = true) :
    (build t reference).order.Perm t.nodes := by
  unfold build
  cases hn : t.nodes with
  | nil => simp [h]
  | cons node rest => simpa [h] using List.mergeSort_perm _ _

end Ranking

end NodeHeap
