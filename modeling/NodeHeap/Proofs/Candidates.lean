import NodeHeap.Allocator.Basic

/-!
# The nodes to try

What a look at the topology changes, and which nodes a request is then tried on.

* `survey_spec`, `targets_spec` — nothing but the snapshot, the default node and the log may change.
* `survey_cases` — what a look at the topology gives and begins, with and without an epoch.
* `survey_of_stays` — a look at which no default node is adopted.
* `candidates` — the nodes to try, spelled out; `targets_eq_candidates` — they are what `targets` gives.
-/

namespace NodeHeap

/-- A value that was got by one computation after another was got by each of them. -/
theorem bind_ok {α β : Type} {x : Except Halt α} {f : α → Except Halt β} {y : β}
    (h : x >>= f = .ok y) : ∃ value, x = .ok value ∧ f value = .ok y := by
  cases x with
  | error halt => cases h
  | ok value => exact ⟨value, rfl, h⟩

namespace Allocator

variable {σ : Type} {a b : Allocator σ} {snapshot : Snapshot} {hint : Option NodeId}
  {nodes : List NodeId}

theorem adopt_spec (a : Allocator σ) (snapshot : Snapshot) :
    a.adopt snapshot =
      { a with
        defaultSlot := (a.adopt snapshot).defaultSlot
        events := (a.adopt snapshot).events } := by
  unfold adopt
  split
  · rfl
  · rfl

/-- No default node is adopted unless that is asked for and there is a reference node. -/
theorem adopt_eq_self (stays : a.localDefault = false ∨ snapshot.ranking.reference = none) :
    a.adopt snapshot = a := by
  unfold adopt
  split
  · rename_i asked adopted
    rcases stays with off | none
    · rw [off] at asked
      cases asked
    · rw [none] at adopted
      cases adopted
  · rfl

/-- A survey changes nothing but the snapshot, the default node and the log. -/
theorem survey_spec (h : a.survey = .ok (snapshot, b)) :
    b = { a with
      snapshot := some snapshot
      defaultSlot := b.defaultSlot
      events := b.events } := by
  unfold survey at h
  split at h
  · rename_i held
    cases h
    rw [← held]
  · obtain ⟨seen, -, h⟩ := bind_ok h
    cases h
    rw [beginEpoch, adopt_spec]
    rfl

/-- A survey gives the snapshot that is held, or else begins an epoch with what there is to see. -/
theorem survey_cases (h : a.survey = .ok (snapshot, b)) :
    (a.snapshot = some snapshot ∧ b = a) ∨
      (a.snapshot = none ∧ a.topology.snapshot = .ok snapshot ∧ b = a.beginEpoch snapshot) := by
  unfold survey at h
  split at h
  · rename_i held
    cases h
    exact .inl ⟨held, rfl⟩
  · rename_i unseen
    obtain ⟨seen, look, h⟩ := bind_ok h
    cases h
    exact .inr ⟨unseen, look, rfl⟩

theorem snapshot_of_survey (h : a.survey = .ok (snapshot, b)) : b.snapshot = some snapshot := by
  rw [survey_spec h]

/-- Where no default node is adopted, a survey leaves it alone. -/
theorem survey_of_stays (h : a.survey = .ok (snapshot, b))
    (stays : a.localDefault = false ∨ snapshot.ranking.reference = none) :
    ∃ events, b = { a with snapshot := some snapshot, events } := by
  rcases survey_cases h with ⟨held, rfl⟩ | ⟨-, -, rfl⟩
  · refine ⟨b.events, ?_⟩
    rw [← held]
  · rw [beginEpoch, adopt_eq_self]
    · exact ⟨_, rfl⟩
    · exact stays

/-- The nodes to try for a request: none unless the topology is available, else the hint if it is a
valid node, else the whole ranking for the policy that goes by it, else the default node. -/
def candidates (a : Allocator σ) (snapshot : Snapshot) (hint : Option NodeId) : List NodeId :=
  if snapshot.availability ≠ .available then []
  else
    match hint.filter fun node => node < snapshot.addressable with
    | some node => [node]
    | none =>
      if a.policy = .distanceFirst ∧ snapshot.ranking.order ≠ [] then snapshot.ranking.order
      else a.defaultNode.toList

theorem isAvailable_iff {availability : Availability} :
    availability.isAvailable = true ↔ availability = .available := by
  cases availability <;> simp [Availability.isAvailable]

/-- A policy proposes the ranking or the default node. -/
theorem strategy_eq (policy : Policy) (context : PlacementContext) :
    policy.strategy context =
      if policy = .distanceFirst ∧ context.ranking ≠ [] then context.ranking
      else context.defaultNode.toList := by
  cases policy with
  | default | roundRobin | balanced =>
    rw [if_neg (by simp)]
    rfl
  | distanceFirst =>
    by_cases unranked : context.ranking = []
    · simp [Policy.strategy, Policy.distanceFirstStrategy, Policy.defaultStrategy, unranked]
    · simp [Policy.strategy, Policy.distanceFirstStrategy, unranked]

/-- A hint is kept where it is a valid node, and that changes nothing but the log. -/
theorem checkHint_spec (a : Allocator σ) (snapshot : Snapshot) (hint : Option NodeId) :
    ∃ events, a.checkHint snapshot hint =
      (hint.filter fun node => node < snapshot.addressable, { a with events }) := by
  cases hint with
  | none => exact ⟨a.events, rfl⟩
  | some node =>
    by_cases valid : node < snapshot.addressable
    · refine ⟨a.events, ?_⟩
      simp [checkHint, valid, Option.filter]
    · refine ⟨.hintIgnored node snapshot.addressable :: a.events, ?_⟩
      simp [checkHint, valid, note, Option.filter]

/-- **The nodes to try are the candidates** of the epoch, for the policy and the default node that are
set once the topology was looked at. -/
theorem targets_eq_candidates (h : a.survey = .ok (snapshot, b)) (hint : Option NodeId) :
    ∃ events, a.targets hint = .ok (b.candidates snapshot hint, { b with events }) := by
  obtain ⟨events, checked⟩ := checkHint_spec b snapshot hint
  refine ⟨events, ?_⟩
  simp only [targets, h, bind, Except.bind, pure, Except.pure, checked, Policy.targets, context,
    isAvailable_iff, strategy_eq, candidates, ne_eq, ite_not]
  rfl

/-- The nodes to try come with a look at the topology. -/
theorem survey_of_targets (h : a.targets hint = .ok (nodes, b)) :
    ∃ snapshot c events, a.survey = .ok (snapshot, c) ∧ nodes = c.candidates snapshot hint ∧
      b = { c with events } := by
  obtain ⟨⟨snapshot, c⟩, surveyed, -⟩ := bind_ok h
  obtain ⟨events, given⟩ := targets_eq_candidates surveyed hint
  rw [given] at h
  cases h
  exact ⟨snapshot, c, events, surveyed, rfl, rfl⟩

/-- To ask for the nodes to try changes nothing but the snapshot, the default node and the log. -/
theorem targets_spec (h : a.targets hint = .ok (nodes, b)) :
    b = { a with
      snapshot := b.snapshot
      defaultSlot := b.defaultSlot
      events := b.events } := by
  obtain ⟨snapshot, c, events, surveyed, -, rfl⟩ := survey_of_targets h
  rw [survey_spec surveyed]

end Allocator

end NodeHeap
