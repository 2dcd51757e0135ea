import NodeHeap.Proofs.Refinement

/-!
# Refused requests

A request that is refused leaves no trace but the ones that it has to leave: the calls it made in vain,
their count, and what a first look at the topology began.

* `Allocator.Looked` — what a look at the topology does to the snapshot and the default node.
* `Allocator.Rebuffed` — what a refused request leaves as it was, and what it counts.
* `Allocates.rebuffed`, `Reallocates.rebuffed` — the requests of `Placement` and `Replacement` that are
  refused are rebuffed.
* `run_refused` — so are all requests after every run, and every live block is what it was.
-/

namespace NodeHeap

variable {σ : Type}

def Call.asksNode : Call → Bool
  | .allocOnNode .. => true
  | _ => false

/-- A call that got nothing and gave nothing back. -/
def Call.InVain (call : Call) : Prop :=
  (∃ node size, call = .allocOnNode node size none) ∨ (∃ size, call = .alloc size none) ∨
    ∃ region old new, call = .resize region old new false

namespace Allocator

/-- What a look at the topology does: nothing in an epoch that has a snapshot, else the snapshot is what
there is to see, and its reference node becomes the default node where that is asked for and there is
none. -/
inductive Looked (a b : Allocator σ) : Prop
  | again (snapshot : Snapshot) (held : a.snapshot = some snapshot) (kept : b.snapshot = some snapshot)
    (same : b.defaultSlot = a.defaultSlot)
  | first (snapshot : Snapshot) (unseen : a.snapshot = none) (seen : a.topology.snapshot = .ok snapshot)
    (begun : b.snapshot = some snapshot) (adopted : b.defaultSlot = (a.adopt snapshot).defaultSlot)

variable {a b c : Allocator σ} {hint : Option NodeId} {nodes : List NodeId} {size : Nat}
  {error : AllocError} {calls : List Call}

theorem looked_survey {snapshot : Snapshot} (h : a.survey = .ok (snapshot, b)) : a.Looked b := by
  rcases survey_cases h with ⟨held, rfl⟩ | ⟨unseen, seen, rfl⟩
  · exact .again snapshot held held rfl
  · refine .first snapshot unseen seen rfl ?_
    -- The log does not matter to the adoption.
    simp only [beginEpoch, adopt, note, defaultNode]
    split
    · rfl
    · rfl

/-- What a look does is not undone by what keeps the snapshot and the default node. -/
theorem Looked.agrees (h : a.Looked b) (same : b.Agrees c) : a.Looked c := by
  cases h with
  | again snapshot held kept slot =>
    exact .again snapshot held (same.snapshot.trans kept) (same.defaultSlot.trans slot)
  | first snapshot unseen seen begun adopted =>
    exact .first snapshot unseen seen (same.snapshot.trans begun) (same.defaultSlot.trans adopted)

theorem looked_targets (h : a.targets hint = .ok (nodes, b)) : a.Looked b := by
  obtain ⟨snapshot, c, events, surveyed, -, rfl⟩ := survey_of_targets h
  exact (looked_survey surveyed).agrees ⟨rfl, rfl, rfl, rfl, rfl⟩

variable [Source σ]

/-- What a refused request with these calls leaves: blocks and books as they were, no call that was
granted or gave something back, and one more failed attempt for each node that was tried. A reallocation is
counted at most once. -/
structure Rebuffed (a b : Allocator σ) (calls : List Call) : Prop extends Spared a b where
  heard : a.arena.Heard calls b.arena
  inVain : ∀ call ∈ calls, call.InVain
  kept : b = { a with
    arena := b.arena
    snapshot := b.snapshot
    defaultSlot := b.defaultSlot
    counters := b.counters
    events := b.events }
  counted : ∃ moves ≤ 1, b.counters = { a.counters with
    failedAttempts := a.counters.failedAttempts + calls.countP Call.asksNode
    reallocations := a.counters.reallocations + moves }

theorem Rebuffed.refl (a : Allocator σ) : a.Rebuffed a [] :=
  ⟨⟨rfl, rfl, rfl⟩, ⟨rfl, rfl⟩, fun _ mem => (List.not_mem_nil mem).elim, rfl, 0, Nat.zero_le _, rfl⟩

theorem Rebuffed.of_targets (targets : a.targets hint = .ok (nodes, b)) (h : b.Rebuffed c calls) :
    a.Rebuffed c calls := by
  have kept := h.kept
  rw [targets_spec targets] at h kept
  exact ⟨⟨h.regions, h.next, h.used⟩, h.heard, h.inVain, kept, h.counted⟩

omit [Source σ] in
theorem inVain_of_asks {next : RegionId} {total : Nat} (h : Asks next total nodes calls none) :
    ∀ call ∈ calls, call.InVain := by
  cases h with
  | nowhere =>
    intro call mem
    rcases List.mem_append.1 mem with mem | mem
    · obtain ⟨node, -, rfl⟩ := List.mem_map.1 mem
      exact .inl ⟨node, total, rfl⟩
    · obtain rfl := List.mem_singleton.1 mem
      exact .inr (.inl ⟨total, rfl⟩)

omit [Source σ] in
/-- Calls that got nothing count as failed attempts, as far as they were made on nodes. -/
theorem count_inVain (counters : Counters) (inVain : ∀ call ∈ calls, call.InVain) :
    calls.foldl Counters.count counters =
      { counters with
        failedAttempts := counters.failedAttempts + calls.countP Call.asksNode } := by
  induction calls generalizing counters with
  | nil => rfl
  | cons call rest ih =>
    have later := ih (counters.count call) fun other mem => inVain other (List.mem_cons_of_mem _ mem)
    rw [List.foldl_cons, later]
    rcases inVain call List.mem_cons_self with ⟨node, size, rfl⟩ | ⟨size, rfl⟩ | ⟨region, old, new, rfl⟩
    · simp only [Counters.count, Counters.failedAttempt, List.countP_cons, Call.asksNode, if_true]
      rw [Nat.add_right_comm, Nat.add_assoc]
    · simp [Counters.count, Call.asksNode]
    · simp [Counters.count, Call.asksNode]

/-- **A refused request for a block is rebuffed**, and the refusal tells the size that was asked for. -/
theorem Allocates.rebuffed (h : a.Allocates size nodes (.error error) b calls) :
    error = .outOfMemory size ∧ a.Rebuffed b calls := by
  cases h with
  | tooLarge => exact ⟨rfl, .refl a⟩
  | refused events bounded asks heard =>
    have inVain := inVain_of_asks asks
    exact ⟨rfl, ⟨rfl, rfl, rfl⟩, heard, inVain, rfl, 0, Nat.zero_le _, count_inVain a.counters inVain⟩

/-- **So is a refused request for another size.** -/
theorem Reallocates.rebuffed {block : BlockId} {head : Header} {r : Region}
    (h : a.Reallocates block head r size nodes (.error error) b calls) :
    error = .outOfMemory size ∧ a.Rebuffed b calls := by
  cases h with
  | tooLarge => exact ⟨rfl, .refl a⟩
  | @notResized call source bounded still heard asks =>
    have inVain : ∀ other ∈ [call], other.InVain := by
      intro other mem
      obtain rfl := List.mem_singleton.1 mem
      rcases asks with rfl | rfl
      · exact .inr (.inr ⟨_, _, _, rfl⟩)
      · exact .inr (.inl ⟨_, rfl⟩)
    have anywhere : [call].countP Call.asksNode = 0 := by
      rcases asks with rfl | rfl
      · rfl
      · rfl
    refine ⟨rfl, ⟨rfl, rfl, rfl⟩, heard, inVain, rfl, 1, Nat.le_refl _, ?_⟩
    rw [anywhere]
    rfl
  | notMoved bounded apart refused =>
    -- The move was counted before the new block was asked for.
    obtain ⟨told, rebuffed⟩ := refused.rebuffed
    have kept := rebuffed.kept
    refine ⟨told, ⟨rebuffed.regions, rebuffed.next, rebuffed.used⟩,
      ⟨rebuffed.heard.recorded, rebuffed.heard.answered⟩, rebuffed.inVain, kept, 1, Nat.le_refl _, ?_⟩
    cases refused with
    | tooLarge large => exact absurd bounded (Nat.not_le.2 large)
    | refused events _ asks _ => exact count_inVain _ (inVain_of_asks asks)

end Allocator

namespace Session

variable {s : Session σ} [Source σ]

/-- **A refused request changes nothing.** After every run, when a request for a block, or for another size
of a live one, is refused, the refusal tells the size that was asked for; all live blocks have the size, the
node and the bytes that they had, and the same regions are outstanding at the source; the books, the policy
and all counters but two are as they were. A node that was tried counts as a failed attempt, a reallocation
counts at most once, and a first look at the topology leaves its snapshot and the default node that it
adopted. -/
theorem run_refused (made : Initial s) (steps : List (Step σ)) (size : Nat) (hint : Option NodeId)
    {error : AllocError} {b : Allocator σ}
    (refused : (s.run steps).2.allocator.tryAllocate size hint = .ok (.error error, b) ∨
      ∃ block, (∀ id, block = some id → id ∈ (s.run steps).2.blocks.map Prod.snd) ∧
        (s.run steps).2.allocator.tryReallocate block size hint = .ok (.error error, b)) :
    error = .outOfMemory size ∧
      (∃ calls, (s.run steps).2.allocator.Rebuffed b calls) ∧
      (s.run steps).2.allocator.Looked b ∧
      Session.contents ⟨b, (s.run steps).2.blocks⟩ = (s.run steps).2.contents := by
  have sound := (made.stored.run steps).toSound
  generalize (s.run steps).2 = t at sound refused
  obtain ⟨nodes, a, calls, targets, told, rebuffed, agrees⟩ : ∃ nodes a calls,
      t.allocator.targets hint = .ok (nodes, a) ∧ error = .outOfMemory size ∧ a.Rebuffed b calls ∧
        a.Agrees b := by
    -- Without a block the second request is the first one.
    have afresh : t.allocator.tryReallocate none size hint = t.allocator.tryAllocate size hint := rfl
    rcases refused with tried | ⟨_ | block, live, tried⟩
    · obtain ⟨nodes, a, calls, targets, ends⟩ := Allocator.tryAllocate_cases tried
      exact ⟨nodes, a, calls, targets, ends.rebuffed.1, ends.rebuffed.2, ends.agrees⟩
    · obtain ⟨nodes, a, calls, targets, ends⟩ := Allocator.tryAllocate_cases (afresh ▸ tried)
      exact ⟨nodes, a, calls, targets, ends.rebuffed.1, ends.rebuffed.2, ends.agrees⟩
    · obtain ⟨entry, mem, rfl⟩ := List.mem_map.1 (live block rfl)
      obtain ⟨head, payload, r, hr, hb⟩ := sound.live entry mem
      obtain ⟨nodes, a, calls, targets, ends⟩ :=
        Allocator.tryReallocate_cases tried hr hb (Nat.ne_of_lt (sound.named entry mem))
      exact ⟨nodes, a, calls, targets, ends.rebuffed.1, ends.rebuffed.2, ends.agrees⟩
  have whole := rebuffed.of_targets targets
  refine ⟨told, ⟨calls, whole⟩, ?_, ?_⟩
  · exact (Allocator.looked_targets targets).agrees agrees
  · exact Table.mapValues_congr fun entry _ => Allocator.cell_congr (by rw [whole.regions])

/-- A block that was placed anywhere, and a request to move it to a node when there is no memory left, there
or anywhere else. -/
theorem refused_move_of_block :
    Initial onPair ∧
      ∃ b, (onPair.run [.allocate false 7 2 none, .changeSource fun source =>
          { source with failing := [1], failUntargeted := true }]).2.allocator.tryReallocate
            (some 0) 8 (some 1) = .ok (.error (.outOfMemory 8), b) ∧
        b.counters = ⟨1, 0, 1, 0, 1, 1⟩ ∧
        Session.contents ⟨b, [(7, 0)]⟩ = [(7, .ok ⟨2, none, [0, 0]⟩)] := by
  have made : Initial onPair := .new _ _
  refine ⟨made, _, rfl, rfl, ?_⟩
  exact (run_refused made [.allocate false 7 2 none, .changeSource fun source =>
      { source with failing := [1], failUntargeted := true }] 8 (some 1)
    (.inr ⟨some 0, by rintro id ⟨⟩; exact List.mem_singleton.2 rfl, rfl⟩)).2.2.2.trans rfl

end Session

end NodeHeap
