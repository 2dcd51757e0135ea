import NodeHeap.Allocator.Session
import NodeHeap.Proofs.Candidates

/-!
# Steps that halt

A step of a session halts before it has done anything that lasts, or else the process ends. The one step that
could do otherwise is the one that asks for the caller's node, which comes after the look at the topology; but
a look that is new has found that node already.

* `Allocator.callerNode_of_survey` — after a look that changed something, the caller's node is known.
* `Session.cut_eq`, `Session.step_eq` — a step that halts leaves the session as it was.
-/

namespace NodeHeap

variable {σ : Type}

/-- A look that changes something has found the caller's node. -/
theorem Allocator.callerNode_of_survey {a b : Allocator σ} {snapshot : Snapshot}
    (surveyed : a.survey = .ok (snapshot, b)) : b = a ∨ ∃ node, b.topology.callerNode = .ok node := by
  rcases survey_cases surveyed with ⟨-, same⟩ | ⟨-, look, -⟩
  · exact .inl same
  · obtain ⟨ranking, ranked, -⟩ := bind_ok look
    obtain ⟨node, found, -⟩ := bind_ok ranked
    rw [survey_spec surveyed]
    exact .inr ⟨node, found⟩

namespace Session

variable [Source σ]

/-- **A step that halts leaves the session as it was.** -/
theorem cut_eq (s : Session σ) (step : Step σ) : s.cut step = s := by
  unfold cut
  split
  · rename_i snapshot b surveyed halted
    rcases Allocator.callerNode_of_survey surveyed with rfl | ⟨node, found⟩
    · rfl
    · -- With the caller's node at hand the step does not halt.
      obtain ⟨answer, ends⟩ : ∃ answer, s.allocator.currentNode = .ok answer := by
        simp only [Allocator.currentNode, surveyed, found, bind, Except.bind]
        split <;> exact ⟨_, rfl⟩
      simp only [perform, ends] at halted
      cases halted
  · rfl

theorem step_eq (s : Session σ) (step : Step σ) :
    s.step step =
      match s.attempt step with
      | .ok (value, after) => (answer s after value, after)
      | .error halt => (answer s s (.halted halt), s) := by
  unfold Session.step
  cases s.attempt step with
  | ok => rfl
  | error halt => exact congrArg (fun after => (answer s after (.halted halt), after)) (s.cut_eq step)

end Session

end NodeHeap
