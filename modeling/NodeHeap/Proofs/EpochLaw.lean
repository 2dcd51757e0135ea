import NodeHeap.Proofs.Epochs
import NodeHeap.Proofs.Likeness

/-!
# The law of epochs

However often the topology answers otherwise after the first look of an epoch, nobody can tell until the
next reset, except by the node that the caller is on.

* `Allocator.Twin` — two allocators that saw the same, whatever the topology answers them now.
* `performsTwin` — they do the same at every step that does not look, and in an epoch that has a snapshot
  at every step but the one that looks for the caller's node.
* `replies_run` — a run of such an epoch is answered as if the topology had not changed.
* `run_follows` — what every run makes of its looks at the topology, and of two ways to go on.
-/

namespace NodeHeap

variable {σ : Type}

theorem Step.looks_of_requests {step : Step σ} (h : step.requests = true) : step.looks = true := by
  cases step with
  | allocate | allocateCopy | reallocate => rfl
  | _ => cases h

/-- What an answer tells that does not depend on what the topology answers now: all of it but for the
caller's node, and nothing where the topology changes. -/
def Step.reply (step : Step σ) (answer : Answer) : Option Answer :=
  match step with
  | .changeTopology _ => none
  | .currentNode => some { answer with value := .unit }
  | _ => some answer

/-- Steps without those that change the topology. -/
def Step.standing (steps : List (Step σ)) : List (Step σ) :=
  steps.filter fun step => !step.changesTopology

/-- What the answers to steps tell that does not depend on the changes of the topology among them. -/
def replies (steps : List (Step σ)) (answers : List Answer) : List Answer :=
  (steps.zip answers).filterMap fun entry => entry.1.reply entry.2

namespace Allocator

variable {a b : Allocator σ}

/-- The same is known of the topology, and blocks are placed by the same rules. What the topology answers now
may differ. -/
structure Twin (a b : Allocator σ) : Prop where
  snapshot : b.snapshot = a.snapshot
  policy : b.policy = a.policy
  defaultSlot : b.defaultSlot = a.defaultSlot
  localDefault : b.localDefault = a.localDefault
  events : b.events = a.events

theorem steady_twin : Steady (σ := σ) Twin where
  books h _ _ _ _ _ _ := ⟨h.snapshot, h.policy, h.defaultSlot, h.localDefault, h.events⟩
  note event h :=
    ⟨h.snapshot, h.policy, h.defaultSlot, h.localDefault, congrArg (event :: ·) h.events⟩

theorem Alike.survey (h : Alike Twin a b) (known : a.snapshot.isSome = true) :
    Matched (Alike.Giving Twin) a.survey b.survey := by
  obtain ⟨snapshot, held⟩ := Option.isSome_iff_exists.1 known
  rw [survey_of_snapshot held, survey_of_snapshot (h.like.snapshot.trans held)]
  exact .ok ⟨rfl, h⟩

theorem Alike.checkHint (h : Alike Twin a b) (snapshot : Snapshot) (hint : Option NodeId) :
    Alike.Giving Twin (a.checkHint snapshot hint) (b.checkHint snapshot hint) := by
  cases hint with
  | none => exact ⟨rfl, h⟩
  | some node =>
    simp only [Allocator.checkHint]
    split
    · exact ⟨rfl, h⟩
    · exact ⟨rfl, h.note steady_twin _⟩

theorem Alike.targets (h : Alike Twin a b) (known : a.snapshot.isSome = true) (hint : Option NodeId) :
    Matched (Alike.Giving Twin) (a.targets hint) (b.targets hint) := by
  refine (h.survey known).bind fun x y related => ?_
  obtain ⟨snapshot, a'⟩ := x
  obtain ⟨snapshot', b'⟩ := y
  obtain ⟨rfl, alike⟩ : snapshot' = snapshot ∧ Alike Twin a' b' := related
  have checked := alike.checkHint snapshot' hint
  simp only
  generalize a'.checkHint snapshot' hint = v at checked
  generalize b'.checkHint snapshot' hint = w at checked
  obtain ⟨kept, a''⟩ := v
  obtain ⟨kept', b''⟩ := w
  obtain ⟨rfl, told⟩ : kept' = kept ∧ Alike Twin a'' b'' := checked
  simp only [context, defaultNode, told.like.policy, told.like.defaultSlot]
  exact .ok ⟨rfl, told⟩

theorem Alike.defaulted (h : Alike Twin a b) (slot : NodeSlot) :
    Alike Twin { a with defaultSlot := slot } { b with defaultSlot := slot } :=
  ⟨h.arena, h.usage, h.counters, h.like.snapshot, h.like.policy, rfl, h.like.localDefault,
    h.like.events⟩

theorem Alike.setDefaultNode (h : Alike Twin a b) (known : a.snapshot.isSome = true) (node : NodeId) :
    Matched (Alike.Giving Twin) (a.setDefaultNode node) (b.setDefaultNode node) := by
  refine (h.survey known).bind fun x y related => ?_
  obtain ⟨snapshot, a'⟩ := x
  obtain ⟨snapshot', b'⟩ := y
  obtain ⟨rfl, alike⟩ : snapshot' = snapshot ∧ Alike Twin a' b' := related
  simp only
  split
  · exact .ok ⟨rfl, (alike.defaulted _).note steady_twin _⟩
  · exact .ok ⟨rfl, alike.note steady_twin _⟩

theorem Alike.setPolicy (h : Alike Twin a b) (policy : Policy) :
    Alike Twin (a.setPolicy policy) (b.setPolicy policy) := by
  have like := h.like
  have placing : Alike Twin { a with policyByte := policy.byte } { b with policyByte := policy.byte } :=
    ⟨h.arena, h.usage, h.counters, like.snapshot, rfl, like.defaultSlot, like.localDefault, like.events⟩
  unfold Allocator.setPolicy
  simp only [like.policy]
  split
  · exact placing
  · exact placing.note steady_twin _

theorem Alike.forget (h : Alike Twin a b) :
    Alike Twin { a with snapshot := none } { b with snapshot := none } :=
  ⟨h.arena, h.usage, h.counters, rfl, h.like.policy, h.like.defaultSlot, h.like.localDefault,
    h.like.events⟩

theorem Alike.shutdown (h : Alike Twin a b) : Alike Twin a.shutdown b.shutdown := by
  have reported : Alike Twin
      (if a.usedBytes = 0 then a else a.note (.bytesOutstanding a.usedBytes))
      (if b.usedBytes = 0 then b else b.note (.bytesOutstanding b.usedBytes)) := by
    have used : b.usedBytes = a.usedBytes := congrArg Usage.bytes h.usage
    rw [used]
    by_cases returned : a.usedBytes = 0
    · rw [if_pos returned, if_pos returned]
      exact h
    · rw [if_neg returned, if_neg returned]
      exact h.note steady_twin _
  exact reported.forget.note steady_twin _

end Allocator

namespace Session

open Allocator (Twin)

variable {s t : Session σ} {e : Epoch} {step : Step σ} [Source σ]

/-- **What the topology answers now does not matter** for a step that does not look at it, nor in an epoch
that has a snapshot for any other than the one that looks for the caller's node. -/
theorem performsTwin (h : Alike Twin s t)
    (known : step.looks = true → s.allocator.snapshot.isSome = true)
    (caller : step ≠ .currentNode) :
    Matched (Alike.Giving Twin) (s.perform step) (t.perform step) := by
  by_cases handles : step.handles = true
  · refine performsAlike_of_handles h Allocator.steady_twin (fun requests => ?_) handles
    exact h.allocator.targets (known (Step.looks_of_requests requests))
  · have like := h.allocator.like
    cases step with
    | setPolicy policy => exact .ok (h.answering (h.allocator.setPolicy policy) _)
    | setDefaultNode node =>
      refine (h.allocator.setDefaultNode (known rfl) node).bind fun x y related => ?_
      obtain ⟨answer, a⟩ := x
      obtain ⟨answer', b⟩ := y
      obtain ⟨rfl, alike⟩ : answer' = answer ∧ Allocator.Alike Twin a b := related
      exact .ok (h.answering alike _)
    | clearDefaultNode => exact .ok (h.answering (h.allocator.defaulted _) _)
    | resetTopology => exact .ok (h.answering (h.allocator.forget.note Allocator.steady_twin _) _)
    | shutdown => exact .ok (h.answering h.allocator.shutdown _)
    | serialize => exact .ok (h.answering (h.allocator.serialize Allocator.steady_twin) _)
    | policy => exact .ok ⟨congrArg Value.policy like.policy, h⟩
    | defaultNode => exact .ok ⟨congrArg (Value.node ·.node?) like.defaultSlot, h⟩
    | currentNode => exact absurd rfl caller
    | availability =>
      obtain ⟨snapshot, held⟩ := Option.isSome_iff_exists.1 (known rfl)
      have seen := Allocator.survey_of_snapshot held
      have seen' := Allocator.survey_of_snapshot (like.snapshot.trans held)
      simp only [perform, Allocator.epochAvailability, seen, seen']
      exact .ok (h.answering h.allocator _)
    | ranking =>
      obtain ⟨snapshot, held⟩ := Option.isSome_iff_exists.1 (known rfl)
      have seen := Allocator.survey_of_snapshot held
      have seen' := Allocator.survey_of_snapshot (like.snapshot.trans held)
      simp only [perform, Allocator.epochRanking, seen, seen']
      exact .ok (h.answering h.allocator _)
    | isSerialized => exact .ok ⟨congrArg (Value.flag ·.serialized) h.allocator.usage, h⟩
    | changeTopology topology =>
      refine .ok ⟨rfl, ⟨h.allocator.arena, h.allocator.usage, h.allocator.counters, ?_⟩, h.blocks⟩
      exact ⟨like.snapshot, like.policy, like.defaultSlot, like.localDefault, like.events⟩
    | install config =>
      cases config with
      | error error => exact .ok ⟨rfl, h⟩
      | ok config => exact .ok ⟨rfl, h⟩
    | _ => exact absurd rfl handles

/-- A look for the caller's node, in an epoch that has a snapshot, leaves the session as it is. -/
theorem step_currentNode {snapshot : Snapshot} (held : s.allocator.snapshot = some snapshot) :
    ∃ value, s.step .currentNode = (answer s s value, s) := by
  have surveyed := Allocator.survey_of_snapshot held
  rcases step_performed s .currentNode with ⟨halt, halted⟩ | ⟨value, after, performed, ended⟩
  · exact ⟨.halted halt, halted⟩
  · obtain ⟨⟨node, a⟩, looked, performed⟩ := bind_ok performed
    have same : a = s.allocator := by
      simp only [Allocator.currentNode, surveyed, bind, Except.bind] at looked
      split at looked
      · split at looked
        · cases looked
        · cases looked
          rfl
      · cases looked
        rfl
    subst same
    cases performed
    exact ⟨.node node, ended⟩

omit [Source σ] in
/-- Only the end of an epoch forgets what was seen. -/
theorem begun_next {value : Value} (begun : e.first.isSome = true) (going : step.ends = false) :
    (e.next step value).first.isSome = true := by
  unfold Epoch.next
  split
  · exact begun
  · cases step with
    | changeTopology => exact begun
    | _ =>
      simp only [Epoch.proceed, going]
      split
      · contradiction
      · split
        · rfl
        · exact begun

/-- The answer to a look for the caller's node is the same but for that node, and both sessions stay as they
are. -/
theorem reply_currentNode (h : Alike Twin s t) (known : s.allocator.snapshot.isSome = true) :
    Step.reply (σ := σ) .currentNode (t.step .currentNode).1 =
        Step.reply (σ := σ) .currentNode (s.step .currentNode).1 ∧
      Alike Twin (s.step .currentNode).2 (t.step .currentNode).2 := by
  obtain ⟨snapshot, held⟩ := Option.isSome_iff_exists.1 known
  obtain ⟨value, seen⟩ := step_currentNode held
  obtain ⟨value', seen'⟩ := step_currentNode (h.allocator.like.snapshot.trans held)
  rw [seen, seen']
  refine ⟨?_, h⟩
  have same := h.answer (fun like => like.events) h .unit
  exact congrArg some same

theorem alike_changeTopology (h : Alike Twin s t) (topology : Topology) :
    Alike Twin (s.step (.changeTopology topology)).2 t := by
  have like := h.allocator.like
  rcases step_changeTopology s topology with same | changed
  · rw [same]
    exact h
  · rw [changed]
    refine ⟨⟨h.allocator.arena, h.allocator.usage, h.allocator.counters, ?_⟩, h.blocks⟩
    exact ⟨like.snapshot, like.policy, like.defaultSlot, like.localDefault, like.events⟩

/-- In an epoch that has a snapshot, the answer to a step that goes on with it does not depend on what the
topology answers now. -/
theorem reply_step (h : Alike Twin s t) (known : s.allocator.snapshot.isSome = true) (step : Step σ) :
    step.reply (t.step step).1 = step.reply (s.step step).1 ∧
      Alike Twin (s.step step).2 (t.step step).2 := by
  by_cases caller : step = .currentNode
  · subst caller
    exact reply_currentNode h known
  · obtain ⟨same, alike⟩ :=
      stepAlike (fun like => like.events) h (performsTwin h (fun _ => known) caller)
    exact ⟨congrArg _ same, alike⟩

/-- **In an epoch that has a snapshot, a run is answered as if the topology did not change.** -/
theorem replies_run (stores : s.Stored) (keeps : s.allocator.Keeps e)
    (begun : e.first.isSome = true) (h : Alike Twin s t) (steps : List (Step σ))
    (going : ∀ step ∈ steps, step.ends = false) :
    replies steps (s.run steps).1 =
      replies (Step.standing steps) (t.run (Step.standing steps)).1 := by
  induction steps generalizing s t e with
  | nil => rfl
  | cons step rest ih =>
    have goes := fun other mem => going other (List.mem_cons_of_mem step mem)
    have known : s.allocator.snapshot.isSome = true := keeps.begun.trans begun
    have later := fun (u : Session σ) alike =>
      ih (t := u) (stores.step step) (keeps_step stores.toSound step keeps)
        (begun_next begun (going step List.mem_cons_self)) alike goes
    by_cases changes : step.changesTopology = true
    · have skipped : Step.standing (step :: rest) = Step.standing rest :=
        List.filter_cons_of_neg (by simp [changes])
      have silent : step.reply (s.step step).1 = none := by
        cases step with
        | changeTopology => rfl
        | _ => cases changes
      have alike : Alike Twin (s.step step).2 t := by
        cases step with
        | changeTopology topology => exact alike_changeTopology h topology
        | _ => cases changes
      rw [skipped, ← later t alike]
      exact List.filterMap_cons_none silent
    · have kept : Step.standing (step :: rest) = step :: Step.standing rest :=
        List.filter_cons_of_pos (by simp [changes])
      obtain ⟨same, alike⟩ := reply_step h known step
      rw [kept]
      simp only [Session.run, replies, List.zip_cons_cons, List.filterMap_cons, same]
      have rest_eq := later _ alike
      simp only [replies] at rest_eq
      rw [rest_eq]

/-- The session with a topology that answers otherwise. -/
def on (s : Session σ) (topology : Topology) : Session σ :=
  { s with allocator := { s.allocator with topology } }

/-- Where a look halts, so does what needs it, unless it is about a block that there is not. -/
theorem perform_of_survey_error {halt : Halt} (cut : s.allocator.survey = .error halt)
    (looks : step.looks = true) :
    s.perform step = .error halt ∨ s.perform step = .ok (.unknownBlock, s) := by
  have untried : ∀ hint, s.allocator.targets hint = .error halt := by
    intro hint
    simp only [Allocator.targets, cut]
    rfl
  cases step with
  | allocate fatal name size hint =>
    refine .inl ?_
    simp only [perform, Allocator.tryAllocate, untried]
    rfl
  | allocateCopy name bytes =>
    refine .inl ?_
    simp only [perform, Allocator.allocateCopy, Allocator.allocate, Allocator.tryAllocate, untried]
    rfl
  | reallocate fatal source name size hint =>
    cases source with
    | none =>
      refine .inl ?_
      simp only [perform, Allocator.tryReallocate, untried]
      rfl
    | some source =>
      cases found : s.blocks.find? source with
      | none =>
        refine .inr ?_
        simp only [perform, found]
      | some block =>
        refine .inl ?_
        simp only [perform, found, Allocator.tryReallocate, untried]
        rfl
  | setDefaultNode node =>
    refine .inl ?_
    simp only [perform, Allocator.setDefaultNode, cut]
    rfl
  | currentNode =>
    refine .inl ?_
    simp only [perform, Allocator.currentNode, cut]
    rfl
  | availability =>
    refine .inl ?_
    simp only [perform, Allocator.epochAvailability, cut]
    rfl
  | ranking =>
    refine .inl ?_
    simp only [perform, Allocator.epochRanking, cut]
    rfl
  | _ => cases looks

/-- What a session makes of its epoch. -/
structure Follows (s : Session σ) (e : Epoch) : Prop where
  topology : s.allocator.topology = e.topology
  /-- There is a snapshot since the epoch's first step that looked. -/
  begun : s.allocator.snapshot.isSome = e.first.isSome
  /-- All that needs a look at the topology goes by what there was to see at that step. -/
  goesBy : ∀ snapshot, e.basis.snapshot = .ok snapshot → s.allocator.GoesBy snapshot
  /-- Where the look halts, so does what needs it, unless it is about a block that there is not. -/
  halts : ∀ halt, e.basis.snapshot = .error halt → ∀ step : Step σ, step.looks = true →
    s.perform step = .error halt ∨ s.perform step = .ok (.unknownBlock, s)
  /-- Steps that need no look are answered the same whatever the topology is. -/
  blind : ∀ step : Step σ, step.looks = false → ∀ topology,
    ((s.on topology).step step).1 = (s.step step).1
  /-- Once there is a snapshot, and up to the next reset, steps that differ only in changes of the topology
  are answered the same. -/
  steady : e.first.isSome = true → ∀ steps others : List (Step σ),
    (∀ step ∈ steps, step.ends = false) → (∀ step ∈ others, step.ends = false) →
    Step.standing steps = Step.standing others →
    replies steps (s.run steps).1 = replies others (s.run others).1

omit [Source σ] in
theorem alike_on (s : Session σ) (topology : Topology) : Alike Twin s (s.on topology) :=
  ⟨⟨rfl, rfl, rfl, rfl, rfl, rfl, rfl, rfl⟩, rfl⟩

/-- **Every run goes by the first look of each epoch.** The availability, the count of valid nodes and the
ranking that a step uses are those that the topology had when the first step looked at it since the allocator
was made or reset; from then on, and until it is reset, changes of the topology cannot be told from the answers,
the calls and the counters, but for the caller's node. No step but those that look begins an epoch. -/
theorem run_follows (opens : s.Opens e) (steps : List (Step σ)) :
    (s.run steps).2.Follows (e.after steps (s.run steps).1) := by
  have stores := opens.initial.stored.run steps
  have keeps := keeps_run steps opens.initial.stored opens.keeps
  generalize (s.run steps).2 = t at stores keeps
  generalize e.after steps (s.run steps).1 = now at keeps
  refine ⟨keeps.topology, keeps.begun, ?_, ?_, ?_, ?_⟩
  · intro snapshot seen
    refine Allocator.goesBy_of_survey ?_
    rw [keeps.survey_eq, seen]
    rfl
  · intro halt cut step looks
    have surveyed : t.allocator.survey = .error halt := by
      rw [keeps.survey_eq, cut]
      rfl
    exact perform_of_survey_error surveyed looks
  · intro step looks topology
    refine (stepAlike (fun like => like.events) (alike_on t topology)
      (performsTwin (alike_on t topology) (fun h => ?_) ?_)).1
    · rw [looks] at h
      cases h
    · rintro rfl
      cases looks
  · intro begun steps others going goes same
    have alike := alike_on t t.allocator.topology
    rw [replies_run stores keeps begun alike steps going,
      replies_run stores keeps begun alike others goes, same]

/-- After a look at two nodes, the second of which is gone by now, it is still a valid one. -/
theorem follows_after_loss :
    Opens onPair { topology := pair } ∧
      ((onPair.run [.availability, .changeTopology { pair with maxNode := some 0, nodes := [0] },
        .policy]).2.allocator.setDefaultNode 1).map Prod.fst = .ok (.ok ()) := by
  have opens : Opens onPair { topology := pair } := .new _ _
  refine ⟨opens, ?_⟩
  exact (run_follows opens _).goesBy ⟨.available, 2, Ranking.build pair 0⟩ rfl |>.validation 1

end Session

end NodeHeap
