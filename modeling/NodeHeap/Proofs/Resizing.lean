import NodeHeap.Memory.System
import NodeHeap.Proofs.CallCounts

/-!
# Two ways to another size

A block that was placed anywhere can get another size in two ways, as long as there are no nodes to try: the
source resizes it, or a new block takes over what fits and the old one is released.

* `Allocator.counted` — an allocator that has counted a request for another size: both ways begin there.
* `Replaces.isBlock`, `Replaces.front`, `Replaces.spares` — what can be read after either of them.
* `Allocator.tryReallocate_eq` — which of the two a request goes.
* `Allocator.SameOutcome` — the two ways come to the same; `SameOutcome.of_paths` — they do.
* `Session.resize_in_place_agrees` — so it is after every run, and a request goes the first way just where it may.
-/

namespace NodeHeap

variable {σ : Type}

namespace Allocator

def counted (a : Allocator σ) : Allocator σ := { a with counters := a.counters.reallocation }

/-- A block that got another size by being resized is `new` at `b`, and by being moved it is `new'` at `b'`. The
two ways come to the same books, the same size, no node, the same bytes as far as they fit in both sizes, and the
same of all other blocks. What places blocks is the same too, and so are the events. A block that is moved is
one more that was granted, as a fallback, and one more that was released; nothing else is counted otherwise. -/
structure SameOutcome (a : Allocator σ) (block : BlockId) (old size : Nat)
    (others : Table BlockName BlockId) (new : BlockId) (b : Allocator σ) (new' : BlockId)
    (b' : Allocator σ) : Prop where
  used : b'.usedBytes = b.usedBytes
  sized : b.usableSize new = .ok size ∧ b'.usableSize new' = .ok size
  nowhere : b.blockNode new = .ok none ∧ b'.blockNode new' = .ok none
  front : ∃ bytes, a.arena.readPayload block 0 (min old size) = .ok bytes ∧
    b.arena.readPayload new 0 (min old size) = .ok bytes ∧
    b'.arena.readPayload new' 0 (min old size) = .ok bytes
  spared : ∀ entry ∈ others, entry.2 ≠ new ∧ entry.2 ≠ new' ∧
    b.cell entry.2 = a.cell entry.2 ∧ b'.cell entry.2 = a.cell entry.2
  agrees : b.Agrees b'
  events : b'.events = b.events
  counters : b'.counters = { b.counters with
    allocations := b.counters.allocations + 1
    frees := b.counters.frees + 1
    fallbacks := b.counters.fallbacks + 1 }

section Replaces

variable {a b : Allocator σ} {block new : BlockId} {head : Header} {payload : Bytes} {size : Nat}
  {nodes : List NodeId} {origin : Option NodeId} {calls : List Call}

/-- The block that took the place of another has what fits of its payload. -/
theorem Replaces.isBlock (h : a.Replaces block head payload size nodes origin new b calls) :
    ∃ fitting, b.arena.HasBlock new ⟨size, (NodeSlot.ofOption origin).stored⟩ fitting ∧
      Bytes.Fitted size payload fitting := by
  obtain ⟨r, fitting, regions, hb, fitted⟩ := h.region
  exact ⟨fitting, ⟨r, by rw [regions, Std.ExtTreeMap.getElem?_insert_self], hb⟩, fitted⟩

/-- What fits of the payload can be read of it. -/
theorem Replaces.front (h : a.Replaces block head payload size nodes origin new b calls)
    (length : payload.length = head.size) :
    b.arena.readPayload new 0 (min head.size size) = .ok (payload.take (min head.size size)) := by
  have inside : 0 + min head.size size ≤ size := by omega
  obtain ⟨fitting, has, fitted⟩ := h.isBlock
  rw [has.readPayload_eq inside, List.drop_zero, fitted.take (by omega) (by omega)]

/-- The other blocks of a session are other blocks still, and have the cells that they had. -/
theorem Replaces.spares {s : Session σ} {name : BlockName} (sound : s.Sound) (kept : s.allocator.Idle a)
    (found : s.blocks.find? name = some block)
    (h : a.Replaces block head payload size nodes origin new b calls) :
    ∀ entry ∈ s.blocks.erase name, entry.2 ≠ new ∧ b.cell entry.2 = a.cell entry.2 := by
  intro entry mem
  obtain ⟨r, fitting, regions, -⟩ := h.region
  have other := sound.ne_new kept found h mem
  refine ⟨other, cell_congr ?_⟩
  rw [regions, Regions.getElem?_insert_of_ne _ _ _ other,
    Regions.getElem?_erase_of_ne _ _ (sound.ne_of_mem_erase found mem)]

end Replaces

variable [Source σ] {a b : Allocator σ} {block new : BlockId} {head : Header} {payload : Bytes} {size : Nat}
  {r : Region}

theorem events_of_allocateAt_nil {answer : Except AllocError BlockId}
    (done : a.allocateAt size [] = .ok (answer, b)) : b.events = a.events := by
  unfold allocateAt at done
  cases sum : totalFor? size with
  | none =>
    rw [sum] at done
    cases done
    rfl
  | some total =>
    rw [sum] at done
    simp only [place, attempt, fallBack, List.isEmpty_nil, if_true] at done
    generalize a.arena.alloc total = asked at done
    obtain ⟨given, arena⟩ := asked
    cases given with
    | none =>
      cases done
      rfl
    | some region =>
      obtain ⟨entered, -, done⟩ := bind_ok done
      cases done
      rfl

/-- What becomes of a block that is moved where there are no nodes to try. -/
theorem replaces_of_moveBlock (hr : a.arena.regions[block]? = some r) (hb : r.IsBlock head payload)
    (other : block ≠ a.arena.next) (moved : a.counted.moveBlock block head size [] = .ok (.ok new, b)) :
    size + headerWidth ≤ maxTotal ∧ (∃ calls, a.Replaces block head payload size [] none new b calls) ∧
      a.Agrees b ∧ b.events = a.events ∧
      b.counters = a.counters.reallocation.grantFallback.release := by
  obtain ⟨answer, c, calls, allocated, allocates⟩ := allocateAt_spec a.counted size []
  have told := events_of_allocateAt_nil allocated
  cases allocates with
  | tooLarge large =>
    simp only [moveBlock, allocated, bind, Except.bind] at moved
    cases moved
  | refused events bounded asks heard =>
    simp only [moveBlock, allocated, bind, Except.bind] at moved
    cases moved
  | @granted calls origin source events bounded asks heard =>
    rw [moveBlock_of_granted (a := a.counted) hr hb other allocated] at moved
    cases moved
    obtain ⟨rfl, rfl⟩ : calls = [.alloc (size + headerWidth) (some a.arena.next)] ∧ origin = none := by
      cases asks with
      | onNode split => simp at split
      | anywhere => exact ⟨rfl, rfl⟩
    obtain ⟨fitting, moved, fitted⟩ :=
      isBlock_movedBlock hb bounded none (Source.found source a.arena.next)
    refine ⟨bounded, ⟨_, ⟨_, _, ?_, moved, fitted⟩, .inr ⟨rfl, ?_, _, asks, rfl⟩, rfl⟩,
      ⟨rfl, rfl, rfl, rfl, rfl⟩, told, rfl⟩
    · simp only [replacing, Arena.regions_released, Arena.entered]
      exact Regions.erase_insert_of_ne _ _ _ other
    · simp only [replacing, Arena.next_released, Arena.entered]
      rfl

/-- Where a block is not moved, nothing is told and nothing is counted but the request. -/
theorem Reallocates.told_of_still {nodes : List NodeId} {calls : List Call}
    (h : a.Reallocates block head r size nodes (.ok new) b calls) (still : nodes = [] ∧ head.node? = none) :
    b.events = a.events ∧ b.counters = a.counters.reallocation := by
  cases h with
  | resized => exact ⟨rfl, rfl⟩
  | exchanged => exact ⟨rfl, rfl⟩
  | moved events bounded apart => exact absurd still apart

/-- What becomes of a block that is resized by the source. -/
theorem replaces_of_resizeInPlace (hr : a.arena.regions[block]? = some r) (hb : r.IsBlock head payload)
    (other : block ≠ a.arena.next) (bounded : size + headerWidth ≤ maxTotal)
    (untargeted : head.node? = none)
    (resized : a.counted.resizeInPlace block head size (size + headerWidth) = .ok (.ok new, b)) :
    (∃ calls, a.Replaces block head payload size [] none new b calls) ∧
      a.Agrees b ∧ b.events = a.events ∧ b.counters = a.counters.reallocation := by
  have still : ([] : List NodeId) = [] ∧ head.node? = none := ⟨rfl, untargeted⟩
  obtain ⟨answer, c, calls, done, ends⟩ := resizeInPlace_spec hr hb other bounded still
  rw [show a.counted.resizeInPlace block head size (size + headerWidth) = _ from done] at resized
  cases resized
  obtain ⟨origin, among, replaces⟩ := ends.replaces hb other
  obtain rfl : origin = none := by
    cases origin with
    | none => rfl
    | some node => exact absurd (among node rfl) List.not_mem_nil
  exact ⟨⟨calls, replaces⟩, ends.agrees, ends.told_of_still still⟩

/-- A request for a size that a block can have goes the first way just where there are no nodes to try and the block was
placed anywhere. -/
theorem tryReallocate_eq {c : Allocator σ} {hint : Option NodeId} {nodes : List NodeId}
    (targets : a.targets hint = .ok (nodes, c)) (has : c.arena.HasBlock block head payload)
    (bounded : size + headerWidth ≤ maxTotal) :
    a.tryReallocate (some block) size hint =
      if nodes = [] ∧ head.node? = none then c.counted.resizeInPlace block head size (size + headerWidth)
      else c.counted.moveBlock block head size nodes := by
  have total : totalFor? size = some (size + headerWidth) := totalFor?_eq_some.2 ⟨bounded, rfl⟩
  simp only [tryReallocate, targets, bind, Except.bind, reallocateAt, total, has.header_eq]
  by_cases still : nodes = [] ∧ head.node? = none
  · rw [if_pos still, if_pos (by simp [still])]
    rfl
  · rw [if_neg still, if_neg (by simpa using still)]
    rfl

omit [Source σ] in
/-- **Resized or moved, a block comes to the same.** -/
theorem SameOutcome.of_replaces {b' : Allocator σ} {new' : BlockId} {calls calls' : List Call} {s : Session σ}
    {name : BlockName} (sound : s.Sound) (kept : s.allocator.Idle a)
    (found : s.blocks.find? name = some block) (has : a.arena.HasBlock block head payload)
    (resized : a.Replaces block head payload size [] none new b calls)
    (moved : a.Replaces block head payload size [] none new' b' calls')
    (agrees : a.Agrees b ∧ a.Agrees b') (events : b.events = a.events ∧ b'.events = a.events)
    (counters : b.counters = a.counters.reallocation ∧
      b'.counters = a.counters.reallocation.grantFallback.release) :
    a.SameOutcome block head.size size (s.blocks.erase name) new b new' b' := by
  have length : payload.length = head.size := by
    obtain ⟨r, -, hb⟩ := has
    exact hb.length_payload
  have inside : 0 + min head.size size ≤ head.size := by omega
  have front : a.arena.readPayload block 0 (min head.size size) = .ok (payload.take (min head.size size)) := by
    rw [has.readPayload_eq inside, List.drop_zero]
  obtain ⟨fitting, resizes, -⟩ := resized.isBlock
  obtain ⟨fitting', moves, -⟩ := moved.isBlock
  refine ⟨?_, ⟨?_, ?_⟩, ⟨?_, ?_⟩, ⟨_, front, resized.front length, moved.front length⟩, ?_, ?_, ?_, ?_⟩
  · rw [usedBytes, usedBytes, resized.used, moved.used]
  · simp only [usableSize, resizes.header_eq, bind, Except.bind]
    rfl
  · simp only [usableSize, moves.header_eq, bind, Except.bind]
    rfl
  · simp only [blockNode, resizes.header_eq, bind, Except.bind]
    rfl
  · simp only [blockNode, moves.header_eq, bind, Except.bind]
    rfl
  · intro entry mem
    obtain ⟨other, same⟩ := resized.spares sound kept found entry mem
    obtain ⟨other', same'⟩ := moved.spares sound kept found entry mem
    exact ⟨other, other', same, same'⟩
  · exact ⟨agrees.2.topology.trans agrees.1.topology.symm, agrees.2.snapshot.trans agrees.1.snapshot.symm,
      agrees.2.policy.trans agrees.1.policy.symm, agrees.2.defaultSlot.trans agrees.1.defaultSlot.symm,
      agrees.2.localDefault.trans agrees.1.localDefault.symm⟩
  · rw [events.1, events.2]
  · rw [counters.1, counters.2]
    rfl

end Allocator

namespace Session

variable [Source σ] {s : Session σ}

/-- **A block gets another size in two ways that come to the same.** After every run, where a live block that was
placed anywhere can both be resized by the source and be moved with no nodes to try, the two ways agree in the
books, in the block's size, node and bytes as far as they fit in both sizes, and in all other blocks; a moved
block is counted as one more that was granted, as a fallback, and one more that was released. A request for a size
that a block can have goes the first way just where there are no nodes to try and the block was placed anywhere:
then, if it is granted, no block is counted as granted besides. -/
theorem resize_in_place_agrees (made : Initial s) (steps : List (Step σ)) {name : BlockName}
    {block : BlockId} (found : (s.run steps).2.blocks.find? name = some block) (size : Nat)
    {hint : Option NodeId} {nodes : List NodeId} {a : Allocator σ}
    (targets : (s.run steps).2.allocator.targets hint = .ok (nodes, a)) :
    ∃ head, a.arena.header block = .ok head ∧
      (head.node? = none → ∀ new b new' b',
        a.counted.resizeInPlace block head size (size + headerWidth) = .ok (.ok new, b) →
        a.counted.moveBlock block head size [] = .ok (.ok new', b') →
        a.SameOutcome block head.size size ((s.run steps).2.blocks.erase name) new b new' b') ∧
      (size + headerWidth ≤ maxTotal →
        ((s.run steps).2.allocator.tryReallocate (some block) size hint =
          if nodes = [] ∧ head.node? = none then
            a.counted.resizeInPlace block head size (size + headerWidth)
          else a.counted.moveBlock block head size nodes) ∧
        ∀ new b, (s.run steps).2.allocator.tryReallocate (some block) size hint = .ok (.ok new, b) →
          (b.counters.allocations = a.counters.allocations ↔ nodes = [] ∧ head.node? = none)) := by
  have sound := (made.stored.run steps).toSound
  have kept := Allocator.idle_targets targets
  obtain ⟨head, payload, r, there, hb⟩ := sound.live _ (Table.mem_of_find? found)
  have other := sound.ne_next kept found
  have hr : a.arena.regions[block]? = some r := by rw [kept.regions, there]
  have has : a.arena.HasBlock block head payload := ⟨r, hr, hb⟩
  refine ⟨head, has.header_eq, ?_, ?_⟩
  · intro untargeted new b new' b' resized moved
    obtain ⟨bounded, ⟨calls', replaced'⟩, agrees', events', counters'⟩ :=
      Allocator.replaces_of_moveBlock hr hb other moved
    obtain ⟨⟨calls, replaced⟩, agrees, events, counters⟩ :=
      Allocator.replaces_of_resizeInPlace hr hb other bounded untargeted resized
    exact .of_replaces sound kept found has replaced replaced' ⟨agrees, agrees'⟩
      ⟨events, events'⟩ ⟨counters, counters'⟩
  · intro bounded
    have way := Allocator.tryReallocate_eq targets has bounded
    refine ⟨way, fun new b granted => ?_⟩
    obtain ⟨answer, c, calls, done, ends⟩ := Allocator.reallocateAt_spec size nodes hr hb other
    have same : (s.run steps).2.allocator.tryReallocate (some block) size hint = .ok (answer, c) := by
      simp only [Allocator.tryReallocate, targets, bind, Except.bind, done]
    rw [same] at granted
    cases granted
    have balanced := (made.counted.run made.stored steps).balanced
    rw [← kept.counters] at balanced
    rw [(ends.shifts balanced).1, Allocator.shift]
    by_cases still : nodes = [] ∧ head.node? = none
    · simp [still]
    · rw [if_pos ⟨rfl, still⟩]
      constructor
      · intro same
        omega
      · intro yes
        exact absurd yes still

/-- Two nodes, with the memory of a system that resizes it in place. -/
def onSystem : Session SystemMemory := { allocator := .new pair {} }

/-- A block of two bytes beside another one, given three bytes in both ways. -/
theorem resize_agrees_beside_block :
    Initial onSystem ∧ ∃ a head new b new' b',
      (onSystem.run [.allocate false 7 2 none, .allocate false 8 4 none,
        .write 7 0 [1, 2]]).2.allocator.targets none = .ok ([], a) ∧
      a.counted.resizeInPlace 0 head 3 (3 + headerWidth) = .ok (.ok new, b) ∧
      a.counted.moveBlock 0 head 3 [] = .ok (.ok new', b') ∧ new ≠ new' ∧
      b.cell 1 = a.cell 1 ∧ b'.cell 1 = a.cell 1 ∧ b'.usedBytes = b.usedBytes ∧
      b'.counters.allocations = b.counters.allocations + 1 := by
  have made : Initial onSystem := .new _ _
  refine ⟨made, ?_⟩
  obtain ⟨a, head, new, b, new', b', targets, header, untargeted, resized, moved, ne⟩ :
      ∃ a head new b new' b',
        (onSystem.run [.allocate false 7 2 none, .allocate false 8 4 none,
          .write 7 0 [1, 2]]).2.allocator.targets none = .ok ([], a) ∧
        a.arena.header 0 = .ok head ∧ head.node? = none ∧
        a.counted.resizeInPlace 0 head 3 (3 + headerWidth) = .ok (.ok new, b) ∧
        a.counted.moveBlock 0 head 3 [] = .ok (.ok new', b') ∧ new ≠ new' :=
    ⟨_, _, _, _, _, _, rfl, rfl, rfl, rfl, rfl, by decide⟩
  obtain ⟨head', header', agrees, -⟩ := resize_in_place_agrees made _
    (show (onSystem.run [.allocate false 7 2 none, .allocate false 8 4 none,
      .write 7 0 [1, 2]]).2.blocks.find? 7 = some 0 from rfl) 3 targets
  obtain rfl : head = head' := Except.ok.inj (header.symm.trans header')
  have outcome := agrees untargeted new b new' b' resized moved
  obtain ⟨-, -, same, same'⟩ := outcome.spared (8, 1) List.mem_cons_self
  refine ⟨a, head, new, b, new', b', targets, resized, moved, ne, same, same', outcome.used, ?_⟩
  rw [outcome.counters]

end Session

end NodeHeap
