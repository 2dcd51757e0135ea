import NodeHeap.Proofs.Buffers
import NodeHeap.Proofs.CrewWork

/-!
# Requests that nobody serves

Who cannot do without a block and asks for one that there can be gets it, unless the source denies it: the last call
of the request was for memory anywhere, and was refused. Nothing else ends a request once the topology was looked at.

* `Ask`, `Call.isDenial`, `Allocator.Denied` — a request that halts because the source denied it.
* `Allocator.InEpoch` — an allocator in an epoch, with the blocks that are live.
* `InEpoch.allocate`, `InEpoch.reallocate`, `InEpoch.allocateCopy` — requests give a block, or are denied.
* `Filled.ends_ofBytes_given`, `Filled.ends_append_grown`, `Filled.ends_appendAll_grown` — so it is with what a buffer
  asks for.
-/

namespace NodeHeap

variable {σ : Type}

def Call.isDenial : Call → Bool
  | .alloc _ none | .resize _ _ _ false => true
  | _ => false

/-- What is asked for: a new block, or another size for a block. -/
inductive Ask where
  | block (size : Nat) (hint : Option NodeId)
  | resize (block : BlockId) (size : Nat) (hint : Option NodeId)

namespace Allocator

variable {a b : Allocator σ} {t : Topology} {s : Snapshot} {held rest : List Holding} {block : BlockId}
  {cell : Cell} {size : Nat} {hint : Option NodeId}

theorem Agrees.refl (a : Allocator σ) : a.Agrees a := ⟨rfl, rfl, rfl, rfl, rfl⟩

theorem Agrees.trans {c : Allocator σ} (h : a.Agrees b) (later : b.Agrees c) : a.Agrees c :=
  ⟨later.topology.trans h.topology, later.snapshot.trans h.snapshot, later.policy.trans h.policy,
    later.defaultSlot.trans h.defaultSlot, later.localDefault.trans h.localDefault⟩

theorem Writes.agrees (h : a.Writes block b) : a.Agrees b := by
  induction h with
  | refl => exact .refl a
  | write _ _ ih => exact ih.trans ⟨rfl, rfl, rfl, rfl, rfl⟩
  | fill _ _ ih => exact ih.trans ⟨rfl, rfl, rfl, rfl, rfl⟩

/-- An allocator in an epoch: what it saw of its topology, and the blocks that are live. -/
structure InEpoch (a : Allocator σ) (t : Topology) (s : Snapshot) (held : List Holding) : Prop where
  holds : a.Holds held
  topology : a.topology = t
  snapshot : a.snapshot = some s

theorem InEpoch.agrees {other : List Holding} (h : a.InEpoch t s held) (same : a.Agrees b)
    (holds : b.Holds other) : b.InEpoch t s other :=
  ⟨holds, same.topology.trans h.topology, same.snapshot.trans h.snapshot⟩

theorem InEpoch.perm {other : List Holding} (h : a.InEpoch t s held) (same : held.Perm other) :
    a.InEpoch t s other :=
  ⟨h.holds.perm same, h.topology, h.snapshot⟩

theorem InEpoch.idle (h : a.InEpoch t s held) (idle : a.Idle b) (topology : b.topology = a.topology)
    (snapshot : b.snapshot = a.snapshot) : b.InEpoch t s held :=
  ⟨h.holds.idle idle, topology.trans h.topology, snapshot.trans h.snapshot⟩

theorem InEpoch.targets (h : a.InEpoch t s held) (hint : Option NodeId) :
    ∃ nodes b, a.targets hint = .ok (nodes, b) ∧ b.InEpoch t s held := by
  obtain ⟨events, given⟩ := targets_eq_candidates (survey_of_snapshot h.snapshot) hint
  exact ⟨_, _, given, h.idle (idle_targets given) rfl rfl⟩

variable [Source σ]

/-- What is asked at an allocator halts because the source denied it. -/
inductive Denied (a : Allocator σ) : Ask → Halt → Prop
  | block {size : Nat} {hint : Option NodeId} {error : AllocError} {b : Allocator σ}
    (refused : a.tryAllocate size hint = .ok (.error error, b))
    (denial : b.arena.calls.head?.any Call.isDenial = true) : Denied a (.block size hint) (.exhausted size)
  | resize {block : BlockId} {size : Nat} {hint : Option NodeId} {error : AllocError} {b : Allocator σ}
    (refused : a.tryReallocate (some block) size hint = .ok (.error error, b))
    (denial : b.arena.calls.head?.any Call.isDenial = true) :
    Denied a (.resize block size hint) (.exhausted size)

omit [Source σ] in
theorem denial_of_asks {next : RegionId} {total : Nat} {nodes : List NodeId} {calls : List Call}
    (asks : Asks next total nodes calls none) (earlier : List Call) :
    (calls.reverse ++ earlier).head?.any Call.isDenial = true := by
  cases asks with
  | nowhere =>
    rw [List.reverse_append]
    rfl

/-- A request for a block that there can be is refused because the source denies it. -/
theorem Allocates.denial {nodes : List NodeId} {error : AllocError} {calls : List Call}
    (h : a.Allocates size nodes (.error error) b calls) (fits : size + headerWidth ≤ maxTotal) :
    b.arena.calls.head?.any Call.isDenial = true := by
  cases h with
  | tooLarge large => exact absurd fits (Nat.not_le.2 large)
  | refused events bounded asks heard => exact denial_of_asks asks a.arena.calls

theorem Reallocates.denial {head : Header} {r : Region} {nodes : List NodeId} {error : AllocError}
    {calls : List Call} (h : a.Reallocates block head r size nodes (.error error) b calls)
    (fits : size + headerWidth ≤ maxTotal) : b.arena.calls.head?.any Call.isDenial = true := by
  cases h with
  | tooLarge large => exact absurd fits (Nat.not_le.2 large)
  | notResized bounded still heard asks =>
    rcases asks with rfl | rfl
    · rfl
    · rfl
  | notMoved bounded apart refused => exact refused.denial bounded

/-- **A request for a block that there can be** gives it, whatever it holds, or is denied. -/
theorem InEpoch.allocate (h : a.InEpoch t s held) (hint : Option NodeId)
    (fits : size + headerWidth ≤ maxTotal) :
    Ends (a.Denied (.block size hint)) (fun given => ∃ node bytes,
        given.2.InEpoch t s ((given.1, ⟨size, node, bytes⟩) :: held))
      (a.allocate size hint) := by
  obtain ⟨nodes, b, targets, epoch⟩ := h.targets hint
  obtain ⟨answer, c, calls, allocated, allocates⟩ := allocateAt_spec b size nodes
  have tried : a.tryAllocate size hint = .ok (answer, c) := by
    simp only [tryAllocate, targets, bind, Except.bind, allocated]
  simp only [Allocator.allocate, tried, bind, Except.bind]
  cases answer with
  | error error => exact .error (.block tried (allocates.denial fits))
  | ok new =>
    obtain ⟨node, bytes, holds⟩ := epoch.holds.granted allocates
    exact .ok ⟨node, bytes, epoch.agrees allocates.agrees holds⟩

theorem InEpoch.allocate_of_large (h : a.InEpoch t s held) (hint : Option NodeId)
    (large : maxTotal < size + headerWidth) : a.allocate size hint = .error (.exhausted size) := by
  obtain ⟨nodes, b, targets, -⟩ := h.targets hint
  simp only [Allocator.allocate, tryAllocate, targets, bind, Except.bind, allocateAt,
    totalFor?_eq_none.2 large, orHalt]

/-- **A request for another size that a block can have** gives it, with what fits of the payload, or is denied. -/
theorem InEpoch.reallocate (h : a.InEpoch t s ((block, cell) :: rest)) (hint : Option NodeId)
    (fits : size + headerWidth ≤ maxTotal) :
    Ends (a.Denied (.resize block size hint)) (fun given => ∃ node bytes, Bytes.Fitted size cell.bytes bytes ∧
        given.2.InEpoch t s ((given.1, ⟨size, node, bytes⟩) :: rest))
      (a.reallocate (some block) size hint) := by
  obtain ⟨nodes, b, targets, epoch⟩ := h.targets hint
  obtain ⟨head, ⟨r, hr, hb⟩, -, -⟩ := epoch.holds.live _ List.mem_cons_self
  have other : block ≠ b.arena.next := Nat.ne_of_lt (epoch.holds.named _ List.mem_cons_self)
  obtain ⟨answer, c, calls, done, reallocates⟩ := reallocateAt_spec size nodes hr hb other
  have tried : a.tryReallocate (some block) size hint = .ok (answer, c) := by
    simp only [tryReallocate, targets, bind, Except.bind, done]
  simp only [Allocator.reallocate, tried, bind, Except.bind]
  cases answer with
  | error error => exact .error (.resize tried (reallocates.denial fits))
  | ok new =>
    obtain ⟨node, bytes, fitted, holds⟩ := epoch.holds.replaced hr hb reallocates
    exact .ok ⟨node, bytes, fitted, epoch.agrees reallocates.agrees holds⟩

theorem InEpoch.release (h : a.InEpoch t s ((block, cell) :: rest)) :
    ∃ b, a.release block = .ok b ∧ b.InEpoch t s rest := by
  obtain ⟨b, released, holds, -⟩ := h.holds.release
  refine ⟨b, released, h.agrees ?_ holds⟩
  obtain ⟨header, -, done⟩ := bind_ok released
  cases done
  exact ⟨rfl, rfl, rfl, rfl, rfl⟩

omit [Source σ] in
theorem InEpoch.write (h : a.InEpoch t s ((block, cell) :: rest)) {start : Nat} {bytes : Bytes}
    (inside : start + bytes.length ≤ cell.size) :
    ∃ arena, a.arena.writePayload block start bytes = .ok arena ∧ arena.source = a.arena.source ∧
      InEpoch { a with arena } t s ((block, { cell with bytes := Bytes.patch start bytes cell.bytes }) :: rest) := by
  obtain ⟨r, wrote, writes, holds⟩ := h.holds.write inside
  exact ⟨_, wrote, rfl, h.agrees writes.agrees holds⟩

/-- A request for a block with these bytes. -/
theorem InEpoch.allocateCopy (h : a.InEpoch t s held) {bytes : Bytes}
    (fits : bytes.length + headerWidth ≤ maxTotal) :
    Ends (a.Denied (.block bytes.length none))
      (fun given => ∃ node, given.2.InEpoch t s ((given.1, ⟨bytes.length, node, bytes⟩) :: held))
      (a.allocateCopy bytes) := by
  refine (h.allocate none fits).bind fun given allocated => ?_
  obtain ⟨new, b⟩ := given
  obtain ⟨node, found, epoch⟩ := allocated
  have long := epoch.holds.length_bytes List.mem_cons_self
  obtain ⟨arena, wrote, -, epoch⟩ := epoch.write (show 0 + bytes.length ≤ bytes.length by omega)
  rw [Bytes.patch_whole long.symm] at epoch
  simp only [wrote]
  exact .ok ⟨node, epoch⟩

omit [Source σ] in
theorem InEpoch.usedBytes_eq (h : a.InEpoch t s held) : a.usedBytes = Holding.total held % wordLimit :=
  h.holds.usedBytes_eq

/-! ## Looks at the topology -/

omit [Source σ] in
/-- The first look at the topology begins an epoch, or halts. -/
theorem ends_epochRanking {reason : Halt → Prop} {post : Snapshot → Prop} (h : a.Holds held) (unseen : a.snapshot = none)
    (ends : Ends reason post a.topology.snapshot) :
    Ends reason
      (fun given => given.2.arena = a.arena ∧ ∃ s, post s ∧ given.2.InEpoch a.topology s held) a.epochRanking := by
  cases seen : a.topology.snapshot with
  | error halt =>
    rw [seen] at ends
    cases ends with
    | error because =>
      simp only [epochRanking, survey, unseen, seen, bind, Except.bind]
      exact .error because
  | ok s =>
    rw [seen] at ends
    cases ends with
    | ok holds =>
      have surveyed : a.survey = .ok (s, a.beginEpoch s) := by
        simp only [survey, unseen, seen]
        rfl
      have spec := survey_spec surveyed
      have ranked : a.epochRanking = .ok (s.ranking, a.beginEpoch s) := by
        simp only [epochRanking, surveyed]
        rfl
      rw [ranked]
      refine .ok ⟨?_, s, holds, h.idle (idle_survey surveyed), ?_, snapshot_of_survey surveyed⟩
      · rw [spec]
      · rw [spec]

omit [Source σ] in
/-- The caller's node is looked for in an epoch whose topology is available, and in no other. -/
theorem InEpoch.currentNode_eq (h : a.InEpoch t s held) :
    a.currentNode = if s.availability.isAvailable then t.callerNode.map (·, a) else .ok (none, a) := by
  simp only [Allocator.currentNode, survey_of_snapshot h.snapshot, h.topology, bind, Except.bind]
  cases t.callerNode with
  | error halt => rfl
  | ok caller => rfl

omit [Source σ] in
theorem InEpoch.setDefaultNode (h : a.InEpoch t s held) {node : NodeId} (valid : node < s.addressable) :
    ∃ b, a.setDefaultNode node = .ok (.ok (), b) ∧ b.arena = a.arena ∧ b.InEpoch t s held := by
  have set : a.setDefaultNode node =
      .ok (.ok (), { a with defaultSlot := .holding node }.note (.defaultSet node)) := by
    simp only [Allocator.setDefaultNode, survey_of_snapshot h.snapshot, bind, Except.bind, if_pos valid]
    rfl
  exact ⟨_, set, rfl, h.idle (controls_setDefaultNode set).idle rfl rfl⟩

end Allocator

/-! ## Buffers -/

namespace Filled

variable {f : Filled} {a b : Allocator σ} {t : Topology} {s : Snapshot} {held rest : List Holding}
  {bytes : Bytes}

/-- What was done gave a buffer with this content and this capacity, and nothing else has changed. -/
def Given (t : Topology) (s : Snapshot) (rest : List Holding) (content : Bytes) (capacity : Nat)
    (given : Buffer × Allocator σ) : Prop :=
  ∃ g : Filled, g.buffer = given.1 ∧ g.content = content ∧ g.buffer.capacity = capacity ∧
    given.2.InEpoch t s (g.holding :: rest)

/-- Bytes are put at the end of a buffer that has room for them. -/
theorem given_put (h : a.InEpoch t s (f.holding :: rest)) (room : bytes.length ≤ f.buffer.avail) :
    ∃ given, (do
        let a ← f.buffer.put a f.buffer.length bytes
        f.buffer.setLength a (f.buffer.length + bytes.length)) = .ok given ∧
      Given t s rest (f.content ++ bytes) f.buffer.capacity given := by
  obtain ⟨g, b, done, edited⟩ := edits_end h.holds (Nat.le_refl _) (Nat.add_le_add_left room _)
  have content := edited.content
  rw [← f.measured, List.take_length] at content
  exact ⟨(g.buffer, b), done, g, rfl, content, edited.capacity, h.agrees edited.writes.agrees edited.holds⟩

variable [Source σ]

theorem given_append (h : a.InEpoch t s (f.holding :: rest)) (room : bytes.length ≤ f.buffer.avail) :
    ∃ given, f.buffer.append a bytes = .ok given ∧ Given t s rest (f.content ++ bytes) f.buffer.capacity given := by
  obtain ⟨given, done, holds⟩ := given_put h room
  refine ⟨given, ?_, holds⟩
  simp only [Buffer.append, Buffer.reserve, if_pos room]
  exact done

/-- A buffer takes pieces that it has room for without asking for memory. -/
theorem given_appendAll (pieces : List Bytes) {a : Allocator σ} {f : Filled}
    (h : a.InEpoch t s (f.holding :: rest)) (room : pieces.flatten.length ≤ f.buffer.avail) :
    ∃ given, f.buffer.appendAll a pieces = .ok given ∧
      Given t s rest (f.content ++ pieces.flatten) f.buffer.capacity given := by
  induction pieces generalizing a f with
  | nil =>
    refine ⟨(f.buffer, a), rfl, f, rfl, ?_, rfl, h⟩
    rw [List.flatten_nil, List.append_nil]
  | cons piece pieces ih =>
    rw [List.flatten_cons, List.length_append] at room
    obtain ⟨⟨buffer, b⟩, appended, g, same, content, capacity, epoch⟩ :=
      given_append h (show piece.length ≤ f.buffer.avail by omega)
    obtain rfl : g.buffer = buffer := same
    have grown := congrArg List.length content
    rw [List.length_append, f.measured, g.measured] at grown
    obtain ⟨given, done, holds⟩ := ih epoch (by
      simp only [Buffer.capacity] at capacity
      omega)
    refine ⟨given, ?_, ?_⟩
    · rw [Buffer.appendAll_cons, appended]
      exact done
    · rw [content, capacity, List.append_assoc] at holds
      exact holds

/-- **A buffer that has to grow** asks for twice what it needs, and may be denied. -/
theorem ends_append_grown (h : a.InEpoch t s (f.holding :: rest)) (short : f.buffer.avail < bytes.length)
    (fits : (f.buffer.length + bytes.length) * 2 + 1 + headerWidth ≤ maxTotal) :
    Ends (a.Denied (.resize f.buffer.block ((f.buffer.length + bytes.length) * 2 + 1) none))
      (Given t s rest (f.content ++ bytes) ((f.buffer.length + bytes.length) * 2)) (f.buffer.append a bytes) := by
  have word : (f.buffer.length + bytes.length) * 2 < wordLimit := by
    simp only [maxTotal, wordLimit, headerWidth] at fits ⊢
    omega
  -- Only the reservation asks for memory; once there is room the bytes are put in place.
  have reserved : Ends (a.Denied (.resize f.buffer.block ((f.buffer.length + bytes.length) * 2 + 1) none))
      (Given t s rest f.content ((f.buffer.length + bytes.length) * 2)) (f.buffer.reserve a bytes.length) := by
    unfold Buffer.reserve
    rw [if_neg (Nat.not_le.2 short)]
    simp only [if_pos word]
    refine (Allocator.InEpoch.reallocate h none fits).bind fun given resized => ?_
    obtain ⟨node, bytes, fitted, epoch⟩ := resized
    obtain ⟨g, same, content, holds⟩ := grow h.holds fitted epoch.holds (by omega)
    refine .ok ⟨g, same, content, ?_, holds, epoch.topology, epoch.snapshot⟩
    rw [same]
    simp only [Buffer.capacity]
    omega
  refine reserved.bind fun given grown => ?_
  obtain ⟨buffer, b⟩ := given
  obtain ⟨g, same, content, capacity, epoch⟩ := grown
  obtain rfl : g.buffer = buffer := same
  have length : g.buffer.length = f.buffer.length := by rw [← g.measured, content, f.measured]
  simp only [Buffer.capacity, length] at capacity
  obtain ⟨given, done, holds⟩ := given_put epoch (show bytes.length ≤ g.buffer.avail by omega)
  rw [content] at holds
  simp only [done]
  refine .ok ?_
  have same : g.buffer.capacity = (f.buffer.length + bytes.length) * 2 := by
    simp only [Buffer.capacity, length, capacity]
  exact same ▸ holds

/-- **So does one that takes pieces**, if there is room for the others after the first. -/
theorem ends_appendAll_grown {pieces : List Bytes} (h : a.InEpoch t s (f.holding :: rest))
    (short : f.buffer.avail < bytes.length)
    (fits : (f.buffer.length + bytes.length) * 2 + 1 + headerWidth ≤ maxTotal)
    (room : pieces.flatten.length ≤ f.buffer.length + bytes.length) :
    Ends (a.Denied (.resize f.buffer.block ((f.buffer.length + bytes.length) * 2 + 1) none))
      (Given t s rest (f.content ++ (bytes :: pieces).flatten) ((f.buffer.length + bytes.length) * 2))
      (f.buffer.appendAll a (bytes :: pieces)) := by
  rw [Buffer.appendAll_cons]
  refine (ends_append_grown h short fits).bind fun given appended => ?_
  obtain ⟨buffer, b⟩ := given
  obtain ⟨g, same, content, capacity, epoch⟩ := appended
  obtain rfl : g.buffer = buffer := same
  have length := congrArg List.length content
  rw [List.length_append, f.measured, g.measured] at length
  obtain ⟨given, done, holds⟩ := given_appendAll pieces epoch (by
    simp only [Buffer.capacity] at capacity
    omega)
  rw [content, List.append_assoc, capacity] at holds
  simp only [done]
  exact .ok holds

/-- **A new buffer** is given, or denied. -/
theorem ends_ofBytes_given (h : a.InEpoch t s held) (fits : bytes.length + 1 + headerWidth ≤ maxTotal) :
    Ends (a.Denied (.block (bytes.length + 1) none)) (Given t s held bytes bytes.length) (Buffer.ofBytes a bytes) := by
  have word : bytes.length + 1 < wordLimit := by
    simp only [maxTotal, wordLimit, headerWidth] at fits ⊢
    omega
  unfold Buffer.ofBytes addWords
  rw [if_pos word]
  refine (h.allocate none fits).bind fun given allocated => ?_
  obtain ⟨block, b⟩ := given
  obtain ⟨node, found, epoch⟩ := allocated
  obtain ⟨g, c, done, content, full, writes, holds⟩ := filled_of_fresh epoch.holds
  simp only [done]
  refine .ok ⟨g, rfl, content, ?_, epoch.agrees writes.agrees holds⟩
  have measured := g.measured
  simp only [Buffer.capacity, full, ← measured, content, Nat.add_zero]

end Filled

end NodeHeap
