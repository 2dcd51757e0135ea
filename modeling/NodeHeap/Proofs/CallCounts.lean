import NodeHeap.Proofs.PlacementLaw
import NodeHeap.Proofs.Tally

/-!
# Counters and calls

The counters tell what was asked of the source and how it answered: each block that was granted counts
once, as targeted or as a fallback, and each request on a node counts once, as targeted or as failed.

* `Counters.Matches` — the counters agree with a record of calls.
* `Allocates.matches`, `Reallocates.matches`, `Performs.matches` — requests and steps keep that.
* `Reallocates.shifts` — a request for another size grants and releases one block each if it moves the
  block, and none otherwise; `Reallocates.reallocations` — it is counted unless it is too large.
* `run_counters` — the law of the counters after every run.
-/

namespace NodeHeap

variable {σ : Type}

/-! ## Counted calls -/

namespace Call

def servedOnNode : Call → Bool
  | allocOnNode _ _ (some _) => true
  | _ => false

def failedOnNode : Call → Bool
  | allocOnNode _ _ none => true
  | _ => false

end Call

namespace Counters

/-- The counters agree with the calls that were made: every block that was granted is a targeted one or
a fallback, and every request on a node is a targeted block or a failed attempt. -/
structure Matches (c : Counters) (calls : List Call) : Prop where
  placed : c.targeted + c.fallbacks = c.allocations
  targeted : c.targeted = calls.countP Call.servedOnNode
  failed : c.failedAttempts = calls.countP Call.failedOnNode

variable {c : Counters} {calls : List Call}

theorem Matches.count (h : c.Matches calls) (call : Call) : (c.count call).Matches (call :: calls) := by
  obtain ⟨placed, targeted, failed⟩ := h
  cases call with
  | allocOnNode node size region =>
    cases region with
    | none =>
      refine ⟨placed, targeted, ?_⟩
      rw [List.countP_cons_of_pos rfl, ← failed]
      rfl
    | some region =>
      refine ⟨?_, ?_, failed⟩
      · show c.targeted + 1 + c.fallbacks = c.allocations + 1
        omega
      · rw [List.countP_cons_of_pos rfl, ← targeted]
        rfl
  | alloc size region =>
    cases region with
    | none => exact ⟨placed, targeted, failed⟩
    | some region => exact ⟨congrArg (· + 1) placed, targeted, failed⟩
  | resize | freeOnNode | free => exact ⟨placed, targeted, failed⟩

theorem Matches.count_all (h : c.Matches calls) (more : List Call) :
    (more.foldl Counters.count c).Matches (more.reverse ++ calls) := by
  induction more generalizing c calls with
  | nil => exact h
  | cons call rest ih =>
    rw [List.reverse_cons, List.append_assoc]
    exact ih (h.count call)

theorem Matches.skip (h : c.Matches calls) {call : Call} (served : call.servedOnNode = false)
    (failed : call.failedOnNode = false) : c.Matches (call :: calls) := by
  refine ⟨h.placed, ?_, ?_⟩
  · rw [h.targeted, List.countP_cons_of_neg (by simp [served])]
  · rw [h.failed, List.countP_cons_of_neg (by simp [failed])]

theorem frees_count_all (c : Counters) (calls : List Call) :
    (calls.foldl Counters.count c).frees = c.frees := by
  induction calls generalizing c with
  | nil => rfl
  | cons call rest ih =>
    have first : (c.count call).frees = c.frees := by
      unfold Counters.count
      split <;> rfl
    exact (ih _).trans first

theorem reallocations_count_all (c : Counters) (calls : List Call) :
    (calls.foldl Counters.count c).reallocations = c.reallocations := by
  induction calls generalizing c with
  | nil => rfl
  | cons call rest ih =>
    have first : (c.count call).reallocations = c.reallocations := by
      unfold Counters.count
      split <;> rfl
    exact (ih _).trans first

end Counters

namespace Allocator

/-! ## Requests -/

/-- How many blocks are granted, and how many released, where a block gets another size: one if it is
moved, and none if it is resized where it is or stays as it is. A block that was placed anywhere is resized
where it is if there are no nodes to try. -/
def shift (answer : Except AllocError BlockId) (nodes : List NodeId) (node : Option NodeId) : Nat :=
  if answer.isOk = true ∧ ¬(nodes = [] ∧ node = none) then 1 else 0

variable [Source σ] {a b : Allocator σ} {size : Nat} {nodes : List NodeId} {calls : List Call}
  {answer : Except AllocError BlockId} {block : BlockId} {head : Header} {r : Region}

theorem Allocates.matches (h : a.Allocates size nodes answer b calls)
    (agree : a.counters.Matches a.arena.calls) : b.counters.Matches b.arena.calls := by
  cases h with
  | tooLarge => exact agree
  | refused => exact agree.count_all calls
  | granted => exact agree.count_all calls

theorem matches_release {c : Counters} (h : c.Matches calls) (block : BlockId) (head : Header) :
    c.Matches (releaseOf block head :: calls) := by
  unfold releaseOf
  split
  · exact h.skip rfl rfl
  · exact h.skip rfl rfl

theorem Reallocates.matches (h : a.Reallocates block head r size nodes answer b calls)
    (agree : a.counters.Matches a.arena.calls) : b.counters.Matches b.arena.calls := by
  have counted : a.counters.reallocation.Matches a.arena.calls :=
    ⟨agree.placed, agree.targeted, agree.failed⟩
  cases h with
  | tooLarge => exact agree
  | notResized bounded still heard asks =>
    rcases asks with rfl | rfl
    · exact counted.skip rfl rfl
    · exact counted.skip rfl rfl
  | resized bounded still kept heard =>
    subst kept
    exact counted.skip rfl rfl
  | exchanged bounded still asks placed heard =>
    subst asks placed
    rw [replacing, Arena.calls_released]
    exact matches_release (counted.skip rfl rfl) block head
  | notMoved bounded apart refused => exact refused.matches counted
  | @moved calls origin source arena events bounded apart asks placed heard =>
    subst placed
    have moved := matches_release (counted.count_all calls) block head
    rw [replacing, Arena.calls_released]
    exact ⟨moved.placed, moved.targeted, moved.failed⟩

/-- **What a request for another size adds to the blocks granted it adds to the blocks released**: one
if the block is moved, and nothing otherwise. -/
theorem Reallocates.shifts {live : Nat} (h : a.Reallocates block head r size nodes answer b calls)
    (balanced : a.counters.Balanced live) :
    b.counters.allocations = a.counters.allocations + shift answer nodes head.node? ∧
      b.counters.frees = a.counters.frees + shift answer nodes head.node? := by
  have after := h.balanced balanced
  have frees : b.counters.frees = a.counters.frees + shift answer nodes head.node? := by
    cases h with
    | tooLarge => rfl
    | notResized => rfl
    | resized bounded still =>
      rw [shift, if_neg fun moved => moved.2 still]
      rfl
    | exchanged bounded still =>
      rw [shift, if_neg fun moved => moved.2 still]
      rfl
    | notMoved bounded apart refused =>
      cases refused with
      | tooLarge => rfl
      | refused => exact Counters.frees_count_all _ _
    | moved events bounded apart =>
      rw [shift, if_pos ⟨rfl, apart⟩]
      exact congrArg (· + 1) (Counters.frees_count_all _ _)
  unfold Counters.Balanced at balanced after
  exact ⟨by omega, frees⟩

theorem Allocates.reallocations (h : a.Allocates size nodes answer b calls) :
    b.counters.reallocations = a.counters.reallocations := by
  cases h with
  | tooLarge => rfl
  | refused => exact Counters.reallocations_count_all _ _
  | granted => exact Counters.reallocations_count_all _ _

/-- **A request for another size is counted**, whatever the answer, unless no block can have that size. -/
theorem Reallocates.reallocations (h : a.Reallocates block head r size nodes answer b calls) :
    b.counters.reallocations =
      a.counters.reallocations + if size + headerWidth ≤ maxTotal then 1 else 0 := by
  cases h with
  | tooLarge large =>
    rw [if_neg (Nat.not_le.2 large)]
    rfl
  | notResized bounded | resized bounded | exchanged bounded =>
    rw [if_pos bounded]
    rfl
  | notMoved bounded apart refused =>
    rw [if_pos bounded]
    exact refused.reallocations
  | moved events bounded apart asks placed heard =>
    rw [if_pos bounded]
    exact Counters.reallocations_count_all _ _

end Allocator

/-! ## Steps and runs -/

namespace Session

variable [Source σ] {s after : Session σ} {value : Value}

/-- A step keeps the counters in agreement with the calls. -/
theorem Performs.matches {step : Step σ} (performs : s.Performs step value after)
    (h : s.allocator.counters.Matches s.allocator.arena.calls) :
    after.allocator.counters.Matches after.allocator.arena.calls := by
  have idle : ∀ {a : Allocator σ}, s.allocator.Idle a → a.counters.Matches a.arena.calls := by
    intro a kept
    rw [kept.counters, kept.calls]
    exact h
  induction performs with
  | still quiet controls => exact idle controls.idle
  | refused targets refused => exact refused.matches (idle (Allocator.idle_targets targets))
  | placed targets granted described => exact granted.matches (idle (Allocator.idle_targets targets))
  | copied targets granted written described =>
    obtain ⟨origin, r, -, -, rfl, -⟩ := granted.written written
    exact granted.matches (idle (Allocator.idle_targets targets))
  | afresh allocates ih => exact ih
  | kept found hr hb targets refused => exact refused.matches (idle (Allocator.idle_targets targets))
  | replaced found hr hb targets granted described =>
    exact granted.matches (idle (Allocator.idle_targets targets))
  | @freed name block head payload found has =>
    have released := Allocator.matches_release h block head
    show Counters.Matches _ (Arena.calls _)
    rw [Arena.calls_released]
    exact ⟨released.placed, released.targeted, released.failed⟩
  | written found hr hb inside => exact h

/-- The counters know how many blocks are live and agree with the calls. -/
structure Counted (s : Session σ) : Prop where
  balanced : s.allocator.counters.Balanced s.blocks.length
  agree : s.allocator.counters.Matches s.allocator.arena.calls

theorem Counted.step (stores : s.Stored) (h : s.Counted) (step : Step σ) :
    (s.step step).2.Counted := by
  rcases step_cases stores.toSound step with ⟨-, unchanged⟩ | performs
  · rw [unchanged]
    exact h
  · have all : s.allocator.counters.Balanced (s.blocks.length + 0) := h.balanced
    exact ⟨performs.balanced all, performs.matches h.agree⟩

theorem Counted.run (stores : s.Stored) (h : s.Counted) (steps : List (Step σ)) :
    (s.run steps).2.Counted := by
  induction steps generalizing s with
  | nil => exact h
  | cons step rest ih => exact ih (stores.step step) (h.step stores step)

omit [Source σ] in
theorem Initial.counted (made : Initial s) : s.Counted := by
  obtain ⟨blocks, counters, calls⟩ := made.untouched
  constructor
  · rw [blocks, counters]
    rfl
  · rw [counters, calls]
    exact ⟨rfl, rfl, rfl⟩

omit [Source σ] in
theorem Told.length_eq {heap : Heap} (h : s.Told heap) : s.blocks.length = heap.length := by
  obtain ⟨cells, stores, told⟩ := h
  have same := congrArg List.length stores.contents
  rw [Session.contents, Table.mapValues, Table.mapValues, List.length_map, List.length_map] at same
  exact same.trans (Table.Related.length_eq told).symm

/-- **The law of the counters.** After every run, as many more blocks were granted than released as are
live, so that never more are released than granted; every block that was granted is a targeted one or a
fallback; the targeted ones are the requests on a node that were served, and the failed attempts those
that were not. A request for another size of a live block adds one to the blocks granted and one to the
blocks released if it moves the block, and nothing to either if the block is resized where it is or stays
as it is. -/
theorem run_counters (made : Initial s) (steps : List (Step σ)) :
    (s.run steps).2.allocator.counters.allocations =
        (s.run steps).2.allocator.counters.frees +
          (Heap.after [] steps (s.run steps).1).length ∧
      (s.run steps).2.allocator.counters.frees ≤ (s.run steps).2.allocator.counters.allocations ∧
      (s.run steps).2.allocator.counters.live = (Heap.after [] steps (s.run steps).1).length ∧
      (s.run steps).2.allocator.counters.Matches (s.run steps).2.allocator.arena.calls ∧
      ∀ name block size hint answer c, (s.run steps).2.blocks.find? name = some block →
        (s.run steps).2.allocator.tryReallocate (some block) size hint = .ok (answer, c) →
        ∃ nodes b node, (s.run steps).2.allocator.targets hint = .ok (nodes, b) ∧
          (s.run steps).2.allocator.blockNode block = .ok node ∧
          c.counters.allocations =
            (s.run steps).2.allocator.counters.allocations + Allocator.shift answer nodes node ∧
          c.counters.frees =
            (s.run steps).2.allocator.counters.frees + Allocator.shift answer nodes node := by
  have sound := (made.stored.run steps).toSound
  have counted := made.counted.run made.stored steps
  have balanced := counted.balanced
  rw [(made.told.run steps).length_eq] at balanced
  refine ⟨balanced, Nat.le.intro balanced.symm, balanced.live_eq, counted.agree, ?_⟩
  intro name block size hint answer c found done
  obtain ⟨head, payload, r, hr, hb⟩ := sound.live _ (Table.mem_of_find? found)
  obtain ⟨nodes, b, calls, targets, ends⟩ :=
    Allocator.tryReallocate_cases done hr hb (sound.ne_next (.refl _) found)
  have kept := (Allocator.idle_targets targets).counters
  rw [← kept] at balanced ⊢
  exact ⟨nodes, b, head.node?, targets, Allocator.blockNode_eq ⟨r, hr, hb⟩, ends.shifts balanced⟩

/-- Two blocks, one of them after a node refused it; when the other one is then moved to a node, three
were granted and one was released. -/
theorem counters_of_move :
    Initial refusing ∧
      (refusing.run [.allocate false 7 2 none, .allocate false 8 3 (some 0)]).2.allocator.counters.live =
        2 ∧
      ∃ c, (refusing.run [.allocate false 7 2 none, .allocate false 8 3 (some 0)]).2.allocator.tryReallocate
            (some 0) 4 (some 1) = .ok (.ok 2, c) ∧
        c.counters.allocations = 3 ∧ c.counters.frees = 1 := by
  have made : Initial refusing := .new _ _
  obtain ⟨-, -, live, -, moves⟩ :=
    run_counters made [.allocate false 7 2 none, .allocate false 8 3 (some 0)]
  obtain ⟨nodes, b, node, targets, placed, allocations, frees⟩ :=
    moves 7 0 4 (some 1) (.ok 2) _ rfl rfl
  cases targets
  cases placed
  exact ⟨made, live, _, rfl, allocations, frees⟩

end Session

end NodeHeap
