import NodeHeap.Proofs.Leases
import NodeHeap.Proofs.Resizing

/-!
# Blocks that are asked to move to a node

Who asks for another size of a block on a node gets a new block, and the old one is released, wherever it was and
whatever the node is, as long as there is some node to try. There is none where the topology is not available, and for
a node that is not a valid one where neither the policy nor the default node proposes another. Then a block that was
placed anywhere is resized by the source like any other.

* `Allocator.Undirected` — there is no node to try; `Allocator.candidates_eq_nil_iff` — that is what it says.
* `Allocator.Moved` — a new block took the place of another; `Reallocates.moved_of_apart` — when it does.
* `Session.directed_requests_move` — so does every directed request that has a node to try.
* `Session.directed_request_resizes` — one that has none.
-/

namespace NodeHeap

variable {σ : Type}

namespace Allocator

/-! ## No node to try -/

/-- A hint at a node leads to no node to try. -/
def Undirected (a : Allocator σ) (snapshot : Snapshot) (node : NodeId) : Prop :=
  snapshot.availability ≠ .available ∨
    snapshot.addressable ≤ node ∧ a.defaultNode = none ∧
      (a.policy = .distanceFirst → snapshot.ranking.order = [])

theorem candidates_eq_nil_iff {a : Allocator σ} {snapshot : Snapshot} {node : NodeId} :
    a.candidates snapshot (some node) = [] ↔ a.Undirected snapshot node := by
  unfold candidates Undirected
  split
  · rename_i off
    simp [off]
  · rename_i available
    rw [ne_eq, Decidable.not_not] at available
    by_cases valid : node < snapshot.addressable
    · -- A valid node is the one to try.
      simp [Option.filter, valid, available, Nat.not_le.2 valid]
    · simp only [Option.filter, valid, decide_false, Bool.false_eq_true, if_false, available]
      split
      · rename_i ranked
        simp [ranked]
      · rename_i unranked
        have silent : a.policy = .distanceFirst → snapshot.ranking.order = [] := by
          intro nearest
          exact Decidable.not_not.1 fun listed => unranked ⟨nearest, listed⟩
        simpa [Nat.le_of_not_lt valid] using fun _ => silent

/-! ## A new block in the place of another -/

/-- A request for another size of a block was granted by a new block: it was asked for and the old one then released,
one block each is counted, the old block is gone, and what fits of its bytes is in the new one. -/
structure Moved (a : Allocator σ) (block : BlockId) (head : Header) (size : Nat) (nodes : List NodeId) (new : BlockId)
    (b : Allocator σ) : Prop where
  fresh : new = a.arena.next ∧ new ≠ block
  gone : b.arena.regions[block]? = none
  counters : b.counters.allocations = a.counters.allocations + 1 ∧ b.counters.frees = a.counters.frees + 1
  calls : ∃ asked origin, Asks a.arena.next (size + headerWidth) nodes asked (some origin) ∧
    b.arena.calls = (asked ++ [releaseOf block head]).reverse ++ a.arena.calls
  /-- The source is not asked to resize memory itself. -/
  plain : b.arena.calls.countP Call.isResize = a.arena.calls.countP Call.isResize
  sized : b.usableSize new = .ok size
  front : ∃ bytes, a.arena.readPayload block 0 (min head.size size) = .ok bytes ∧
    b.arena.readPayload new 0 (min head.size size) = .ok bytes

/-- A look at the topology before the request does not matter. -/
theorem Moved.congr {a a' b : Allocator σ} {block new : BlockId} {head : Header} {size : Nat} {nodes : List NodeId}
    (moved : a.Moved block head size nodes new b) (arena : a.arena = a'.arena) (counters : a.counters = a'.counters) :
    a'.Moved block head size nodes new b := by
  obtain ⟨fresh, gone, counted, calls, plain, sized, front⟩ := moved
  rw [arena] at fresh calls plain front
  rw [counters] at counted
  exact ⟨fresh, gone, counted, calls, plain, sized, front⟩

/-- To ask for a block is not to ask for another size of one. -/
theorem countP_isResize_of_asks {next : RegionId} {total : Nat} {nodes : List NodeId} {calls : List Call}
    {served : Option (Option NodeId)} (asks : Asks next total nodes calls served) :
    calls.countP Call.isResize = 0 := by
  have refused (tried : List NodeId) : (vain total tried).countP Call.isResize = 0 := countP_vain (fun _ => rfl) tried
  cases asks with
  | onNode => rw [List.countP_append, refused]; rfl
  | anywhere => rw [List.countP_append, refused]; rfl
  | nowhere => rw [List.countP_append, refused]; rfl

theorem isResize_releaseOf (block : BlockId) (head : Header) : (releaseOf block head).isResize = false := by
  unfold releaseOf
  split
  · rfl
  · rfl

variable [Source σ] {a b : Allocator σ} {block new : BlockId} {head : Header} {payload : Bytes} {r : Region}
  {size live : Nat} {nodes : List NodeId} {calls : List Call}

/-- A request that is granted asks for a new block and releases the old one, unless there is no node to try and the
block was placed anywhere. -/
theorem Reallocates.calls_of_apart (h : a.Reallocates block head r size nodes (.ok new) b calls)
    (apart : ¬(nodes = [] ∧ head.node? = none)) :
    new = a.arena.next ∧ ∃ asked origin, Asks a.arena.next (size + headerWidth) nodes asked (some origin) ∧
      calls = asked ++ [releaseOf block head] := by
  cases h with
  | resized bounded still => exact absurd still apart
  | exchanged bounded still => exact absurd still apart
  | @moved calls origin source arena events bounded apart asks => exact ⟨rfl, calls, origin, asks, rfl⟩

/-- **Where there is a node to try, or the block is on one, a block that gets another size is moved.** -/
theorem Reallocates.moved_of_apart (h : a.Reallocates block head r size nodes (.ok new) b calls)
    (hr : a.arena.regions[block]? = some r) (hb : r.IsBlock head payload) (other : block ≠ a.arena.next)
    (balanced : a.counters.Balanced live) (apart : ¬(nodes = [] ∧ head.node? = none)) :
    a.Moved block head size nodes new b := by
  obtain ⟨origin, -, replaces⟩ := h.replaces hb other
  obtain ⟨fresh, asked, served, asks, rfl⟩ := h.calls_of_apart apart
  have recorded := h.heard.recorded
  have shifted := h.shifts balanced
  rw [shift, if_pos ⟨rfl, apart⟩] at shifted
  have distinct : new ≠ block := by
    rw [fresh]
    exact Ne.symm other
  constructor
  · exact ⟨fresh, distinct⟩
  · obtain ⟨r', fitting, regions, -⟩ := replaces.region
    rw [regions, Regions.getElem?_insert_of_ne _ _ _ (Ne.symm distinct)]
    exact Std.ExtTreeMap.getElem?_erase_self
  · exact shifted
  · exact ⟨asked, served, asks, recorded⟩
  · rw [recorded, List.countP_append, List.countP_reverse, List.countP_append, countP_isResize_of_asks asks,
      List.countP_singleton, isResize_releaseOf]
    simp
  · obtain ⟨fitting, has, -⟩ := replaces.isBlock
    unfold usableSize
    rw [has.header_eq]
    rfl
  · have inside : 0 + min head.size size ≤ head.size := by omega
    have has : a.arena.HasBlock block head payload := ⟨r, hr, hb⟩
    refine ⟨payload.take (min head.size size), ?_, replaces.front hb.length_payload⟩
    rw [has.readPayload_eq inside, List.drop_zero]

end Allocator

/-! ## The result -/

namespace Session

variable [Source σ] {s : Session σ}

/-- **Directed requests move the block, if they have a node to try.** After every run, whatever block is live, a
request for another size of it on a node that is granted is granted by a new block, and the old one is released,
unless there is no node to try and the block was placed anywhere. In that case the source resizes it, and no block is
counted as granted or released. -/
theorem directed_requests_move (made : Initial s) (steps : List (Step σ)) {entry : BlockName × BlockId}
    (live : entry ∈ (s.run steps).2.blocks) {size : Nat} {node : NodeId} {new : BlockId} {b : Allocator σ}
    (granted : (s.run steps).2.allocator.tryReallocate (some entry.2) size (some node) = .ok (.ok new, b)) :
    ∃ snapshot c nodes a head, (s.run steps).2.allocator.survey = .ok (snapshot, c) ∧
      (s.run steps).2.allocator.targets (some node) = .ok (nodes, a) ∧ (nodes = [] ↔ c.Undirected snapshot node) ∧
      (s.run steps).2.allocator.arena.header entry.2 = .ok head ∧
      (¬(c.Undirected snapshot node ∧ head.node? = none) →
        (s.run steps).2.allocator.Moved entry.2 head size nodes new b) ∧
      (c.Undirected snapshot node ∧ head.node? = none →
        a.counted.resizeInPlace entry.2 head size (size + headerWidth) = .ok (.ok new, b) ∧
          b.counters = (s.run steps).2.allocator.counters.reallocation) := by
  have sound := (made.stored.run steps).toSound
  obtain ⟨head, payload, r, hr, hb⟩ := sound.live entry live
  have other := Nat.ne_of_lt (sound.named entry live)
  obtain ⟨nodes, a, calls, targets, ends⟩ := Allocator.tryReallocate_cases granted hr hb other
  obtain ⟨snapshot, c, events, surveyed, listed, same⟩ := Allocator.survey_of_targets targets
  have undirected : nodes = [] ↔ c.Undirected snapshot node := by
    rw [listed]
    exact Allocator.candidates_eq_nil_iff
  have arena : a.arena = (s.run steps).2.allocator.arena := by rw [Allocator.targets_spec targets]
  have counters : a.counters = (s.run steps).2.allocator.counters := (Allocator.idle_targets targets).counters
  have there : a.arena.regions[entry.2]? = some r := by rw [arena, hr]
  refine ⟨snapshot, c, nodes, a, head, surveyed, targets, undirected, Arena.HasBlock.header_eq ⟨r, hr, hb⟩, ?_, ?_⟩
  · intro directed
    rw [← undirected] at directed
    have balanced := (made.counted.run made.stored steps).balanced
    rw [← counters] at balanced
    have next : entry.2 ≠ a.arena.next := by rwa [arena]
    exact (ends.moved_of_apart there hb next balanced directed).congr arena counters
  · intro still
    rw [← undirected] at still
    have way := Allocator.tryReallocate_eq targets ⟨r, there, hb⟩ ends.bounded
    rw [if_pos still, granted] at way
    refine ⟨way.symm, ?_⟩
    rw [← counters]
    exact (ends.told_of_still still).2

/-- Two blocks beside each other, of which one was placed anywhere and the other one was asked for on a node. -/
def settling : List (Step SystemMemory) :=
  [.allocate false 7 2 none, .allocate false 8 4 (some 0), .write 7 0 [1, 2]]

/-- The first one is moved where it is asked for on a valid node. -/
theorem settled_block_moves :
    Initial onSystem ∧ (7, 0) ∈ (onSystem.run settling).2.blocks ∧
      ∃ b head, (onSystem.run settling).2.allocator.tryReallocate (some 0) 8 (some 1) = .ok (.ok 2, b) ∧
        head.node? = none ∧ (onSystem.run settling).2.allocator.Moved 0 head 8 [1] 2 b := by
  have made : Initial onSystem := .new _ _
  have live : (7, 0) ∈ (onSystem.run settling).2.blocks := by decide +kernel
  obtain ⟨b, granted⟩ : ∃ b,
      (onSystem.run settling).2.allocator.tryReallocate (some 0) 8 (some 1) = .ok (.ok 2, b) := ⟨_, rfl⟩
  obtain ⟨snapshot, c, nodes, a, head, surveyed, targets, undirected, header, moved, -⟩ :=
    directed_requests_move made settling live granted
  cases targets
  cases header
  refine ⟨made, live, b, _, granted, rfl, moved ?_⟩
  rintro ⟨none, -⟩
  cases undirected.2 none

/-- **A directed request can resize a block where it is**: the node is not there, and no other one is proposed. -/
theorem directed_request_resizes :
    Initial onSystem ∧ (7, 0) ∈ (onSystem.run [.allocate false 7 2 none]).2.blocks ∧
      (onSystem.run [.allocate false 7 2 none]).2.allocator.counters.allocations = 1 ∧
      ∃ b, (onSystem.run [.allocate false 7 2 none]).2.allocator.tryReallocate (some 0) 8 (some 5) =
          .ok (.ok 0, b) ∧
        b.counters.allocations = 1 ∧ b.counters.frees = 0 ∧ b.arena.calls.countP Call.isResize = 1 := by
  refine ⟨.new _ _, ?_, rfl, _, rfl, rfl, rfl, rfl⟩
  decide +kernel

end Session

end NodeHeap
