import NodeHeap.Proofs.CallCounts
import NodeHeap.Proofs.Epochs

/-!
# Counted requests for another size

A request for another size of a live block is counted, whatever becomes of it, if a block can have that size. One for
a size that no block can have is refused before it is counted.

* `Session.sizesAsked` — the sizes that live blocks were asked to get in a run.
* `Session.reallocations_step` — what a step adds to the count; `Session.reallocations_run` — what a run does.
* `Session.reallocations_counted` — the law of the count.
* `Session.reallocation_uncounted` — a request that is not counted.
-/

namespace NodeHeap

variable {σ : Type}

namespace Step

def resizes? : Step σ → Option Nat
  | .reallocate _ (some _) _ size _ => some size
  | _ => none

/-- The size that a step asked a live block to get, if it did and was answered so. -/
def sizeAsked? (step : Step σ) (value : Value) : Option Nat :=
  if value.cutShort then none else step.resizes?

variable {step : Step σ} {value : Value}

theorem sizeAsked?_of_answered (whole : value.cutShort = false) : step.sizeAsked? value = step.resizes? := by
  unfold sizeAsked?
  rw [whole]
  rfl

theorem sizeAsked?_of_silent (silent : step.resizes? = none) : step.sizeAsked? value = none := by
  unfold sizeAsked?
  rw [silent, ite_self]

end Step

def hasTotal (size : Nat) : Bool := (totalFor? size).isSome

theorem hasTotal_iff {size : Nat} : hasTotal size = true ↔ size + headerWidth ≤ maxTotal := by
  unfold hasTotal totalFor?
  split
  · rename_i fits
    simp [fits]
  · rename_i large
    simp [large]

namespace Session

/-- The sizes that live blocks were asked to get by steps that were answered so. -/
def sizesAsked : List (Step σ) → List Answer → List Nat
  | step :: steps, answer :: answers => (step.sizeAsked? answer.value).toList ++ sizesAsked steps answers
  | _, _ => []

variable [Source σ] {s after : Session σ} {step : Step σ} {value : Value}

/-- A step that asks no block for another size is none of the requests that are counted. -/
theorem Performs.reallocations_eq (performs : s.Performs step value after) (other : step.resizes? = none) :
    after.allocator.counters.reallocations = s.allocator.counters.reallocations := by
  have looked : ∀ {hint nodes a}, s.allocator.targets hint = .ok (nodes, a) →
      a.counters.reallocations = s.allocator.counters.reallocations := by
    intro hint nodes a targets
    rw [(Allocator.idle_targets targets).counters]
  induction performs with
  | still quiet controls => exact congrArg Counters.reallocations controls.idle.counters
  | refused targets refused => exact refused.reallocations.trans (looked targets)
  | placed targets granted => exact granted.reallocations.trans (looked targets)
  | copied targets granted => exact granted.reallocations.trans (looked targets)
  | afresh allocates ih => exact ih rfl
  | kept | replaced => cases other
  | freed | written => rfl

/-- A request for another size of a live block is counted if a block can have that size. -/
theorem reallocations_of_resizes (sound : s.Sound) {size : Nat} (h : s.perform step = .ok (value, after))
    (asks : step.resizes? = some size) :
    after.allocator.counters.reallocations =
      s.allocator.counters.reallocations + (step.sizeAsked? value).toList.countP hasTotal := by
  cases step with
  | reallocate fatal source name size hint =>
    cases source with
    | none => cases asks
    | some source =>
      cases found : s.blocks.find? source with
      | none =>
        -- The caller has no such block, so there is none to be asked.
        simp only [perform, found] at h
        cases h
        rfl
      | some block =>
        obtain ⟨head, r, nodes, a, answer, calls, targets, ends, whole⟩ := reallocates_of_perform sound found h
        have idle := (Allocator.idle_targets targets).counters
        rw [ends.reallocations, idle, Step.sizeAsked?_of_answered whole]
        unfold Step.resizes?
        rw [Option.toList_some, List.countP_singleton]
        simp only [hasTotal_iff]
  | _ => cases asks

/-- **What a step adds to the count.** -/
theorem reallocations_step (sound : s.Sound) (step : Step σ) :
    (s.step step).2.allocator.counters.reallocations =
      s.allocator.counters.reallocations +
        (step.sizeAsked? (s.step step).1.value).toList.countP hasTotal := by
  rcases step_performed s step with ⟨halt, halted⟩ | ⟨value, after, performed, ended⟩
  · rw [halted]
    rfl
  · rw [ended]
    show after.allocator.counters.reallocations = _ + (step.sizeAsked? value).toList.countP hasTotal
    cases asks : step.resizes? with
    | some size => exact reallocations_of_resizes sound performed asks
    | none =>
      rw [(perform_cases sound performed).reallocations_eq asks, Step.sizeAsked?_of_silent asks]
      rfl

/-- **What a run adds to the count.** -/
theorem reallocations_run (stores : s.Stored) (steps : List (Step σ)) :
    (s.run steps).2.allocator.counters.reallocations =
      s.allocator.counters.reallocations + (sizesAsked steps (s.run steps).1).countP hasTotal := by
  induction steps generalizing s with
  | nil => rfl
  | cons step rest ih =>
    calc (s.run (step :: rest)).2.allocator.counters.reallocations
        = (s.step step).2.allocator.counters.reallocations +
            (sizesAsked rest ((s.step step).2.run rest).1).countP hasTotal := ih (stores.step step)
      _ = _ := by
        rw [reallocations_step stores.toSound, Nat.add_assoc, ← List.countP_append]
        rfl

/-- A size that no block can have is refused, and nothing but a look at the topology comes of it. -/
theorem tryReallocate_tooLarge {a b : Allocator σ} {block : BlockId} {size : Nat} {hint : Option NodeId}
    {nodes : List NodeId} (large : hasTotal size = false) (targets : a.targets hint = .ok (nodes, b)) :
    a.tryReallocate (some block) size hint = .ok (.error (.outOfMemory size), b) := by
  have none : totalFor? size = none := by
    unfold hasTotal at large
    exact Option.not_isSome_iff_eq_none.1 (Bool.eq_false_iff.1 large)
  unfold Allocator.tryReallocate
  simp only [targets, bind, Except.bind]
  unfold Allocator.reallocateAt
  rw [none]

/-- **The law of the count.** After every run, the requests for another size that are counted are those of live blocks
for a size that a block can have, granted or refused; so all of them are counted just where none was for a size that
no block can have. Such a request is refused, and leaves the count as it was. -/
theorem reallocations_counted (made : Initial s) (steps : List (Step σ)) :
    (s.run steps).2.allocator.counters.reallocations =
        (sizesAsked steps (s.run steps).1).countP hasTotal ∧
      ((s.run steps).2.allocator.counters.reallocations = (sizesAsked steps (s.run steps).1).length ↔
        ∀ size ∈ sizesAsked steps (s.run steps).1, size + headerWidth ≤ maxTotal) ∧
      ∀ block size hint nodes b, maxTotal < size + headerWidth →
        (s.run steps).2.allocator.targets hint = .ok (nodes, b) →
        (s.run steps).2.allocator.tryReallocate (some block) size hint = .ok (.error (.outOfMemory size), b) ∧
          b.counters = (s.run steps).2.allocator.counters := by
  have counted := reallocations_run made.stored steps
  rw [made.untouched.2.1, Nat.zero_add] at counted
  refine ⟨counted, ?_, ?_⟩
  · rw [counted, List.countP_eq_length]
    simp only [hasTotal_iff]
  · intro block size hint nodes b large targets
    have unfit : hasTotal size = false := by
      rw [← Bool.not_eq_true, hasTotal_iff]
      omega
    exact ⟨tryReallocate_tooLarge unfit targets, (Allocator.idle_targets targets).counters⟩

/-- A block is asked to get a size that no block can have. -/
def outgrowing : List (Step Scripted) :=
  [.allocate false 7 2 none, .reallocate false (some 7) 7 (wordLimit - 1) none]

/-- Then two sizes that a block can have, of which the source grants the second. -/
def growing : List (Step Scripted) :=
  outgrowing ++ [.reallocate false (some 7) 7 Scripted.largestRequest none, .reallocate false (some 7) 7 3 (some 1)]

/-- These two are counted. -/
theorem growing_counted :
    Initial onPair ∧ sizesAsked growing (onPair.run growing).1 = [wordLimit - 1, Scripted.largestRequest, 3] ∧
      (onPair.run growing).2.allocator.counters.reallocations = 2 := by
  have made : Initial onPair := .new _ _
  have asked : sizesAsked growing (onPair.run growing).1 = [wordLimit - 1, Scripted.largestRequest, 3] := by
    decide +kernel
  obtain ⟨counted, -⟩ := reallocations_counted made growing
  rw [asked] at counted
  exact ⟨made, asked, counted⟩

/-- **A request for another size of a live block need not be counted.** -/
theorem reallocation_uncounted :
    Initial onPair ∧ sizesAsked outgrowing (onPair.run outgrowing).1 = [wordLimit - 1] ∧
      (onPair.run outgrowing).2.allocator.counters.reallocations = 0 := by
  refine ⟨.new _ _, ?_⟩
  decide +kernel

end Session

end NodeHeap
