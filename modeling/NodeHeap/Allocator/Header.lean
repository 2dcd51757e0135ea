import NodeHeap.Memory.Arena
import NodeHeap.Memory.Word

/-!
# Block headers

A block is a region with a header of `headerWidth` bytes in front of the payload: the payload's size
and the node the block was placed on, each as a word.
-/

namespace NodeHeap

/-- The name of a block: that of the region it lies in. -/
abbrev BlockId := RegionId

/-- Bytes in front of every payload. -/
def headerWidth : Nat := 16

/-- Every block starts at a multiple of this. -/
def blockAlign : Nat := 16

/-- The largest block, header included. -/
def maxTotal : Nat := (1 <<< 63) - 1 - (blockAlign - 1)

/-- The size of the block around a payload, if there can be such a block. -/
def totalFor? (size : Nat) : Option Nat :=
  if size + headerWidth ≤ maxTotal then some (size + headerWidth) else none

/-- What is written in front of a payload. -/
structure Header where
  /-- The size of the payload as it was last asked for. -/
  size : Nat
  /-- The node the block was placed on. -/
  origin : NodeSlot
  deriving DecidableEq, Repr

namespace Header

/-- The node the block was placed on; none if it was placed anywhere. -/
def node? (h : Header) : Option NodeId := h.origin.node?

def total (h : Header) : Nat := h.size + headerWidth

/-- The header as it lies in memory. -/
def bytes (h : Header) : Bytes := Word.ofNat h.size ++ Word.ofNat h.origin.word

def ofBytes (bytes : Bytes) : Header :=
  ⟨Word.toNat (bytes.take Word.width), ⟨Word.toNat (bytes.drop Word.width)⟩⟩

@[simp] theorem length_bytes (h : Header) : h.bytes.length = headerWidth := by
  simp [bytes, headerWidth, Word.width]

end Header

namespace Arena

variable {σ : Type}

def header (a : Arena σ) (block : RegionId) : Except Halt Header := do
  let bytes ← a.read block 0 headerWidth
  return .ofBytes bytes

def setHeader (a : Arena σ) (block : RegionId) (header : Header) : Except Halt (Arena σ) :=
  a.write block 0 header.bytes

def readPayload (a : Arena σ) (block : RegionId) (start length : Nat) : Except Halt Bytes :=
  a.read block (headerWidth + start) length

def writePayload (a : Arena σ) (block : RegionId) (start : Nat) (bytes : Bytes) :
    Except Halt (Arena σ) :=
  a.write block (headerWidth + start) bytes

end Arena

end NodeHeap
