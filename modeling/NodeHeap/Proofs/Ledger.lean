import Mathlib.Data.List.Perm.Basic
import NodeHeap.Proofs.Sharing

/-!
# The books of buffers

A buffer owns one block, which has room for its capacity and a zero byte, and the books of the allocator show
just that, besides the blocks of others.

* `Allocator.RewritesOnly`, `Buffer.InPlace` — edits that leave the books alone.
* `Shared.Ledger` — what the allocator shows of the blocks of the buffers, and what is left of it when the
  buffers are given back.
* `run_ledger` — so it is after every run.
-/

namespace NodeHeap

variable {σ : Type}

/-- Nothing of an allocator became another but bytes in the payload of one block. -/
structure Allocator.RewritesOnly (a : Allocator σ) (block : BlockId) (b : Allocator σ) : Prop where
  only : ∃ r, b = a.rewritten block r
  writes : a.Writes block b
  size : b.usableSize block = a.usableSize block
  node : b.blockNode block = a.blockNode block

/-- The edits of a buffer that need no more room than it has. -/
inductive Buffer.InPlace : (Buffer → Allocator σ → Except Halt (Buffer × Allocator σ)) → Prop
  | trim (ends : Bytes) : InPlace fun b a => b.trim a ends
  | range (start stop : Int64) : InPlace fun b a => b.range a start stop
  | updateLength : InPlace Buffer.updateLength
  | toLower : InPlace Buffer.toLower
  | toUpper : InPlace Buffer.toUpper

namespace Filled

variable {f : Filled} {a : Allocator σ} {rest : List Holding}
  {edit : Buffer → Allocator σ → Except Halt (Buffer × Allocator σ)}

theorem edits_inPlace (h : a.Holds (f.holding :: rest)) (inPlace : Buffer.InPlace edit) :
    ∃ content, f.Edits a rest content (edit f.buffer a) := by
  cases inPlace with
  | trim ends => exact ⟨_, edits_trim h ends⟩
  | range start stop => exact ⟨_, edits_range h start stop⟩
  | updateLength => exact ⟨_, edits_updateLength h⟩
  | toLower => exact ⟨_, edits_mapContent h fun _ => List.length_map _⟩
  | toUpper => exact ⟨_, edits_mapContent h fun _ => List.length_map _⟩

/-- An edit in place leaves the block and the capacity, and the allocator but for bytes of the block. -/
theorem Edits.rewritesOnly {content : Bytes} {done : Except Halt (Buffer × Allocator σ)}
    (h : a.Holds (f.holding :: rest)) (edits : f.Edits a rest content done) :
    ∃ b later, done = .ok (b, later) ∧ a.RewritesOnly f.buffer.block later ∧
      b.block = f.buffer.block ∧ b.capacity = f.buffer.capacity := by
  obtain ⟨g, b, rfl, edited⟩ := edits
  have size : g.cell.size = f.cell.size := by rw [g.sized, f.sized, edited.capacity]
  have there : (f.buffer.block, g.cell) ∈ g.holding :: rest := by
    rw [← edited.block]
    exact List.mem_cons_self
  refine ⟨_, _, rfl, ⟨edited.rewritten, edited.writes, ?_, ?_⟩, edited.block, edited.capacity⟩
  · rw [h.usableSize List.mem_cons_self, edited.holds.usableSize there, size]
  · rw [h.blockNode List.mem_cons_self, edited.holds.blockNode there, edited.node]

end Filled

/-- What buffers take up: their capacities, with a zero byte and a header each. -/
def Buffer.footprint (buffers : Table Register Buffer) : Nat :=
  buffers.foldr (fun entry n => entry.2.length + entry.2.avail + 1 + headerWidth + n) 0

theorem Fills.total_holdings (fills : Fills) :
    Holding.total fills.holdings = Buffer.footprint (fills.mapValues Filled.buffer) := by
  induction fills with
  | nil => rfl
  | cons entry rest ih =>
    have sized : entry.2.cell.size = entry.2.buffer.length + entry.2.buffer.avail + 1 := entry.2.sized
    show entry.2.cell.size + headerWidth + Holding.total (Fills.holdings rest) = _
    rw [sized, ih]
    rfl

namespace Shared

variable [Source σ]

/-- The books show the buffers as what they are: each has a block of its own, with room for just its capacity and
a zero byte, and what is in use are these blocks and those of the heap, and no others. Edits in place leave the
books and the capacity alone, and when the buffers are given back, in any order, what is in use are the blocks of
the heap. -/
structure Ledger (s : Shared σ) (heap : Heap) : Prop where
  blocks : heap.Describes s.blockSession.contents
  room : ∀ entry ∈ s.buffers,
    s.allocator.usableSize entry.2.block = .ok (entry.2.length + entry.2.avail + 1)
  apart : (s.blocks.map Prod.snd ++ s.buffers.map fun entry => entry.2.block).Nodup
  used : s.allocator.usedBytes = (heap.total + Buffer.footprint s.buffers) % wordLimit
  live : s.allocator.counters.live = s.blocks.length + s.buffers.length
  inPlace : ∀ entry ∈ s.buffers, ∀ edit, Buffer.InPlace edit → ∃ b later,
    edit entry.2 s.allocator = .ok (b, later) ∧ s.allocator.RewritesOnly entry.2.block later ∧
      b.block = entry.2.block ∧ b.length + b.avail = entry.2.length + entry.2.avail
  closes : ∀ order, order.Perm (s.buffers.map Prod.snd) → ∃ later,
    Buffer.dropAll s.allocator order = .ok later ∧ later.usedBytes = heap.total % wordLimit ∧
      later.counters.live = s.blocks.length

variable {s : Shared σ} {plain : Plain}

theorem Models.ledger (h : s.Models plain) : s.Ledger plain.heap := by
  have room := h.room
  have describes := h.describes
  obtain ⟨raw, fills, blocks, buffers, told, holds⟩ := h
  have total : Holding.total (raw.map Prod.snd) = Heap.total _ := (Cells.total_eq raw).symm.trans told.total_eq
  have owners : (s.buffers.map fun entry => entry.2.block) = fills.holdings.map Prod.fst := by
    rw [buffers, Fills.holdings, Table.mapValues, List.map_map, List.map_map]
    rfl
  have names : s.blocks.map Prod.snd = (raw.map Prod.snd).map Prod.fst := by
    rw [blocks, Table.map_snd_mapValues]
  refine ⟨describes, room, ?_, ?_, ?_, ?_, ?_⟩
  · rw [owners, names, ← List.map_append]
    exact holds.apart
  · rw [holds.usedBytes_eq, Holding.total_append, total, Fills.total_holdings, buffers]
  · rw [holds.balanced.live_eq, blocks, buffers]
    simp only [Fills.holdings, List.length_append, List.length_map, Table.mapValues]
  · rw [buffers]
    intro entry mem edit inPlace
    obtain ⟨filled, inside, rfl⟩ := List.mem_map.1 mem
    obtain ⟨rest, focused⟩ := holds.focus (holding_mem_append raw inside)
    obtain ⟨content, edits⟩ := Filled.edits_inPlace focused inPlace
    exact edits.rewritesOnly focused
  · intro order same
    rw [buffers, Table.map_snd_mapValues] at same
    obtain ⟨closed, rfl, perm⟩ : ∃ closed : List Filled, order = closed.map Filled.buffer ∧
        closed.Perm (fills.map Prod.snd) :=
      (congrFun (congrFun (List.eq_map_comp_perm Filled.buffer) order) _).mpr same
    have held : s.allocator.Holds (closed.map Filled.holding ++ raw.map Prod.snd) := by
      refine holds.perm (List.perm_append_comm.trans (List.Perm.append_right _ ?_))
      rw [Fills.holdings_eq]
      exact (perm.map _).symm
    obtain ⟨later, dropped, left, -⟩ := Filled.dropAll_eq closed held
    refine ⟨later, dropped, ?_, ?_⟩
    · rw [left.usedBytes_eq, total]
    · rw [left.balanced.live_eq, blocks]
      simp only [List.length_map, Table.mapValues]

/-- **The books show the blocks of buffers and of others**, and no more, after every run of steps of both. -/
theorem run_ledger (a : Allocator σ) (made : Session.Initial { allocator := a })
    (steps : List (SharedStep σ)) :
    Ledger (Shared.run { allocator := a } steps).2
      (Plain.after {} steps (Shared.run { allocator := a } steps).1).heap :=
  ((models_of_initial made).run steps).ledger

/-- A block of two bytes, a buffer of two bytes with room for two more, and a copy of it without that room. -/
theorem ledger_with_copy :
    Session.Initial Session.onPair ∧
      (Shared.run { allocator := Session.onPair.allocator } [.block (.allocate false 7 2 none),
        .buffer (.ofBytes 1 [97]), .buffer (.append 1 [98]),
        .buffer (.clone 2 1)]).2.allocator.usedBytes = 18 + 21 + 19 := by
  have made : Session.Initial Session.onPair := .new _ _
  refine ⟨made, ?_⟩
  rw [(run_ledger Session.onPair.allocator made _).used]
  rfl

end Shared

end NodeHeap
