/-!
# Machine words and node slots

Sizes, counts, CPU numbers and node ids are natural numbers. Where one of them has to fit a machine
word, `wordLimit` is the bound. `NodeSlot` is the one-word form of an optional node id: the largest
word stands for "no node", so every id but that one is kept apart from it (`node?_holding`).
-/

namespace NodeHeap

/-- The number of values of a machine word. -/
def wordLimit : Nat := 1 <<< 64

/-- Bytes in the order in which they are stored. -/
abbrev Bytes := List UInt8

/-- Identifier of a memory node. -/
abbrev NodeId := Nat

/-- A node id or nothing, kept in one machine word. -/
structure NodeSlot where
  word : Nat
  deriving DecidableEq, Repr

namespace NodeSlot

/-- The word that stands for no node: the largest one. -/
def vacantWord : Nat := wordLimit - 1

/-- The slot that holds no node. -/
def vacant : NodeSlot := ⟨vacantWord⟩

/-- The slot that holds `node`. A node whose id is the vacant word is lost in it. -/
def holding (node : NodeId) : NodeSlot := ⟨node⟩

/-- The slot for an optional node. -/
def ofOption : Option NodeId → NodeSlot
  | some node => holding node
  | none => vacant

/-- The node in the slot. -/
def node? (slot : NodeSlot) : Option NodeId :=
  if slot.word = vacantWord then none else some slot.word

@[simp] theorem node?_vacant : vacant.node? = none := by simp [node?, vacant]

theorem node?_holding {node : NodeId} (h : node ≠ vacantWord) : (holding node).node? = some node := by
  simp [node?, holding, h]

end NodeSlot

end NodeHeap
