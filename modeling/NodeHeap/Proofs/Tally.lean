import NodeHeap.Proofs.Steps

/-!
# The tally of blocks

The counters know how many blocks are live: as many more were granted than released.

* `Counters.Balanced` — so many more blocks were granted than released.
* `Allocates.balanced`, `Reallocates.balanced` — what the requests of `Placement` and `Replacement` do to that.
* `Session.Performs.balanced` — so do the steps of a session, whatever other blocks there are.
-/

namespace NodeHeap

variable {σ : Type}

namespace Counters

/-- So many more blocks were granted than released. -/
def Balanced (c : Counters) (live : Nat) : Prop := c.allocations = c.frees + live

theorem Balanced.live_eq {c : Counters} {live : Nat} (h : c.Balanced live) : c.live = live := by
  unfold Balanced at h
  unfold Counters.live
  omega

end Counters

/-- Whether a call got memory for a new block. -/
def Call.grants : Call → Bool
  | .allocOnNode _ _ (some _) | .alloc _ (some _) => true
  | _ => false

/-- A call that got memory counts as a block that was granted, and none as a block that was released. -/
theorem Counters.Balanced.count {c : Counters} {live : Nat} (h : c.Balanced live) (call : Call) :
    (c.count call).Balanced (live + if call.grants then 1 else 0) := by
  unfold Balanced at h ⊢
  cases call with
  | allocOnNode node size region | alloc size region =>
    cases region with
    | none => exact h
    | some region =>
      simp only [Counters.count, grantTargeted, grantFallback, Call.grants, if_true]
      omega
  | _ => exact h

theorem Counters.Balanced.count_all {c : Counters} {live : Nat} (h : c.Balanced live)
    (calls : List Call) :
    (calls.foldl Counters.count c).Balanced (live + calls.countP Call.grants) := by
  induction calls generalizing c live with
  | nil => exact h
  | cons call rest ih =>
    rw [List.countP_cons, Nat.add_comm (List.countP _ rest), ← Nat.add_assoc]
    exact ih (h.count call)

/-- No call of a request that nobody served got memory, and one of a request that was served. -/
theorem Asks.countP_grants {next : RegionId} {total : Nat} {nodes : List NodeId} {calls : List Call}
    {served : Option (Option NodeId)} (h : Asks next total nodes calls served) :
    calls.countP Call.grants = if served.isSome then 1 else 0 := by
  have none (tried : List NodeId) : (vain total tried).countP Call.grants = 0 := countP_vain (fun _ => rfl) tried
  cases h with
  | onNode => rw [List.countP_append, none]; rfl
  | anywhere => rw [List.countP_append, none]; rfl
  | nowhere => rw [List.countP_append, none]; rfl

namespace Allocator

variable [Source σ] {a b : Allocator σ} {size live : Nat} {nodes : List NodeId} {calls : List Call}

/-- A block that is granted is one more, and a refused request leaves as many as there were. -/
theorem Allocates.balanced {answer : Except AllocError BlockId}
    (h : a.Allocates size nodes answer b calls) (balanced : a.counters.Balanced live) :
    b.counters.Balanced (live + if answer.isOk then 1 else 0) := by
  cases h with
  | tooLarge => exact balanced
  | refused events bounded asks heard =>
    have counted := balanced.count_all calls
    rw [asks.countP_grants] at counted
    exact counted
  | granted events bounded asks heard =>
    have counted := balanced.count_all calls
    rw [asks.countP_grants] at counted
    exact counted

/-- A block that gets another size is still one block. -/
theorem Reallocates.balanced {block : BlockId} {head : Header} {r : Region}
    {answer : Except AllocError BlockId} (h : a.Reallocates block head r size nodes answer b calls)
    (balanced : a.counters.Balanced live) : b.counters.Balanced live := by
  have counted : a.counters.reallocation.Balanced live := balanced
  cases h with
  | tooLarge => exact balanced
  | notResized => exact counted
  | resized => exact counted
  | exchanged => exact counted
  | notMoved bounded apart refused => exact refused.balanced counted
  | @moved calls origin source arena events bounded apart asks placed heard =>
    have moved := counted.count_all calls
    rw [asks.countP_grants] at moved
    -- The new block was granted, and then the old one was released.
    simp only [Counters.Balanced, replacing, Counters.release, Option.isSome_some, if_true] at moved ⊢
    omega

end Allocator

/-- **A step keeps the tally**, whatever blocks there are besides those of the session. -/
theorem Session.Performs.balanced [Source σ] {s after : Session σ} {step : Step σ} {value : Value}
    (performs : s.Performs step value after) {others : Nat}
    (h : s.allocator.counters.Balanced (s.blocks.length + others)) :
    after.allocator.counters.Balanced (after.blocks.length + others) := by
  have looked : ∀ {hint nodes a}, s.allocator.targets hint = .ok (nodes, a) →
      a.counters.Balanced (s.blocks.length + others) := by
    intro hint nodes a targets
    rw [(Allocator.idle_targets targets).counters]
    exact h
  induction performs with
  | still quiet controls =>
    show Counters.Balanced _ _
    rw [controls.idle.counters]
    exact h
  | refused targets refused => exact refused.balanced (looked targets)
  | placed targets granted described =>
    have more := granted.balanced (looked targets)
    rw [Nat.add_right_comm] at more
    exact more
  | copied targets granted written described =>
    have more := granted.balanced (looked targets)
    rw [Nat.add_right_comm] at more
    exact more
  | afresh allocates ih => exact ih
  | kept found hr hb targets refused => exact refused.balanced (looked targets)
  | @replaced fatal source name size hint nodes a b block new head payload r calls value
      found hr hb targets granted described =>
    have kept := granted.balanced (looked targets)
    have length := (Table.perm_of_find? found).length_eq
    rw [length] at kept
    exact kept
  | freed found has =>
    have length := (Table.perm_of_find? found).length_eq
    rw [length, List.length_cons] at h
    unfold Counters.Balanced at h ⊢
    simp only [Counters.release]
    omega
  | written found hr hb inside => exact h

end NodeHeap
