import NodeHeap.Proofs.Refinement

/-!
# Epochs

What an allocator does goes by one look at the topology: the first since it was made or reset.

* `Step.looks`, `Epoch.next` — the steps that need a look, and the topology that counts after a step.
* `Allocator.Keeps` — the allocator holds what there was to see of the topology that counts.
* `Allocator.GoesBy` — all that an allocator makes of what it saw.
* `keeps_step`, `keeps_run` — after every step of every run the allocator holds what there was to see
  of the topology that counts then.
-/

namespace NodeHeap

variable {σ : Type}

namespace Step

/-- Whether a step needs to know the topology as the epoch saw it. -/
def looks : Step σ → Bool
  | .allocate .. | .allocateCopy .. | .reallocate .. | .setDefaultNode _ | .currentNode | .availability
  | .ranking => true
  | _ => false

def ends : Step σ → Bool
  | .resetTopology | .shutdown => true
  | _ => false

def changesTopology : Step σ → Bool
  | .changeTopology _ => true
  | _ => false

end Step

/-- Whether nothing was done for a value: the step halted, or was about a block that there is not. -/
def Value.cutShort : Value → Bool
  | .halted _ | .unknownBlock => true
  | _ => false

/-- A topology that changes, and what it was when the epoch's first step looked at it. -/
structure Epoch where
  /-- What the topology answers now. -/
  topology : Topology
  first : Option Topology := none

namespace Epoch

def basis (e : Epoch) : Topology := e.first.getD e.topology

/-- The epoch after a step that was not cut short. -/
def proceed (e : Epoch) : Step σ → Epoch
  | .changeTopology topology => { e with topology }
  | step =>
    if step.ends then { e with first := none }
    else if step.looks then { e with first := some e.basis }
    else e

/-- The epoch after a step that gave a value. -/
def next (e : Epoch) (step : Step σ) (value : Value) : Epoch :=
  if value.cutShort then e else e.proceed step

theorem next_of_idle {step : Step σ} {value : Value} {e : Epoch} (looks : step.looks = false)
    (ends : step.ends = false) (changes : step.changesTopology = false) : e.next step value = e := by
  have stays : e.proceed step = e := by
    cases step with
    | changeTopology => cases changes
    | _ => simp only [proceed, looks, ends, Bool.false_eq_true, if_false]
  rw [next, stays, ite_self]

def after (e : Epoch) : List (Step σ) → List Answer → Epoch
  | step :: steps, answer :: answers => (e.next step answer.value).after steps answers
  | _, _ => e

end Epoch

namespace Allocator

/-- The allocator in the epoch of a snapshot: this one, which goes on, or a new one. -/
def informed (a : Allocator σ) (snapshot : Snapshot) : Allocator σ :=
  match a.snapshot with
  | some _ => a
  | none => a.beginEpoch snapshot

/-- The topology is that of the epoch, and the snapshot is what there was to see of it at first. -/
structure Keeps (a : Allocator σ) (e : Epoch) : Prop where
  topology : a.topology = e.topology
  unseen : a.snapshot = none → e.first = none
  seen : ∀ snapshot, a.snapshot = some snapshot →
    ∃ t, e.first = some t ∧ t.snapshot = .ok snapshot

variable {a b c : Allocator σ} {e : Epoch} {snapshot : Snapshot}

namespace Keeps

theorem begun (h : a.Keeps e) : a.snapshot.isSome = e.first.isSome := by
  cases held : a.snapshot with
  | none =>
    rw [h.unseen held]
    rfl
  | some snapshot =>
    obtain ⟨t, first, -⟩ := h.seen snapshot held
    rw [first]
    rfl

/-- **To ask what the epoch saw is to look at the topology that counts.** -/
theorem survey_eq (h : a.Keeps e) :
    a.survey = e.basis.snapshot.map fun snapshot => (snapshot, a.informed snapshot) := by
  unfold survey informed Epoch.basis
  cases held : a.snapshot with
  | none =>
    rw [h.unseen held, ← h.topology, Option.getD_none]
    cases a.topology.snapshot with
    | error halt => rfl
    | ok snapshot => rfl
  | some snapshot =>
    obtain ⟨t, first, seen⟩ := h.seen snapshot held
    rw [first, Option.getD_some, seen]
    rfl

theorem saw (h : a.Keeps e) (surveyed : a.survey = .ok (snapshot, b)) :
    e.basis.snapshot = .ok snapshot := by
  rw [h.survey_eq] at surveyed
  cases look : e.basis.snapshot with
  | error halt => rw [look] at surveyed; cases surveyed
  | ok seen => rw [look] at surveyed; cases surveyed; rfl

/-- Who looks holds what there is to see of the topology that counts. -/
theorem looked (h : a.Keeps e) (surveyed : a.survey = .ok (snapshot, b))
    (topology : c.topology = b.topology) (kept : c.snapshot = b.snapshot) :
    c.Keeps { e with first := some e.basis } := by
  have saw := h.saw surveyed
  rw [snapshot_of_survey surveyed] at kept
  refine ⟨?_, fun none => ?_, fun other held => ⟨_, rfl, ?_⟩⟩
  · rw [topology, survey_spec surveyed]
    exact h.topology
  · rw [kept] at none
    cases none
  · rw [kept] at held
    cases held
    exact saw

theorem targets (h : a.Keeps e) {hint : Option NodeId} {nodes : List NodeId}
    (targets : a.targets hint = .ok (nodes, b)) (agrees : b.Agrees c) :
    c.Keeps { e with first := some e.basis } := by
  obtain ⟨snapshot, d, events, surveyed, -, rfl⟩ := survey_of_targets targets
  exact h.looked surveyed agrees.topology agrees.snapshot

theorem still (h : a.Keeps e) (topology : b.topology = a.topology) (kept : b.snapshot = a.snapshot) :
    b.Keeps e := by
  refine ⟨topology.trans h.topology, ?_, ?_⟩
  · rw [kept]
    exact h.unseen
  · rw [kept]
    exact h.seen

theorem ended (h : a.Keeps e) (topology : b.topology = a.topology) (kept : b.snapshot = none) :
    b.Keeps { e with first := none } := by
  refine ⟨topology.trans h.topology, fun _ => rfl, fun snapshot held => ?_⟩
  rw [kept] at held
  cases held

end Keeps

/-- What an allocator makes of a snapshot: the nodes to try for a hint, the nodes that can be the default
node, what it tells of the topology, and whether it looks for the caller's node. -/
structure GoesBy (a : Allocator σ) (snapshot : Snapshot) : Prop where
  candidates : ∀ hint, ∃ events, a.targets hint =
    .ok ((a.informed snapshot).candidates snapshot hint, { a.informed snapshot with events })
  validation : ∀ node, (a.setDefaultNode node).map Prod.fst =
    .ok (if node < snapshot.addressable then .ok () else .error (.invalidNode node snapshot.addressable))
  availability : a.epochAvailability = .ok (snapshot.availability, a.informed snapshot)
  ranking : a.epochRanking = .ok (snapshot.ranking, a.informed snapshot)
  gate : a.currentNode =
    if snapshot.availability.isAvailable then
      a.topology.callerNode.map fun node => (node, a.informed snapshot)
    else .ok (none, a.informed snapshot)

theorem informed_topology (a : Allocator σ) (snapshot : Snapshot) :
    (a.informed snapshot).topology = a.topology := by
  unfold informed
  split
  · rfl
  · rw [beginEpoch, adopt_spec]
    rfl

theorem goesBy_of_survey (surveyed : a.survey = .ok (snapshot, a.informed snapshot)) :
    a.GoesBy snapshot := by
  refine ⟨fun hint => targets_eq_candidates surveyed hint, fun node => ?_, ?_, ?_, ?_⟩
  · simp only [setDefaultNode, surveyed, bind, Except.bind]
    split
    · rfl
    · rfl
  · simp only [epochAvailability, surveyed, bind, Except.bind]
    rfl
  · simp only [epochRanking, surveyed, bind, Except.bind]
    rfl
  · simp only [currentNode, surveyed, bind, Except.bind, informed_topology]
    split
    · cases a.topology.callerNode with
      | error halt => rfl
      | ok node => rfl
    · rfl

end Allocator

namespace Session

open Allocator (Keeps)

variable {s t after : Session σ} {e : Epoch} {step : Step σ} {value : Value}

/-- The answer to a request that was made is not cut short. -/
theorem granted_allocator {name : BlockName} {answer : Except AllocError BlockId × Allocator σ}
    (h : s.granted name answer = .ok (value, after)) :
    after.allocator = answer.2 ∧ value.cutShort = false := by
  obtain ⟨_ | block, a⟩ := answer
  · cases h
    exact ⟨rfl, rfl⟩
  · obtain ⟨described, rfl⟩ := granted_cases h
    obtain ⟨size, node, rfl⟩ := describe_cases described
    exact ⟨rfl, rfl⟩

variable [Source σ]

theorem keeps_allocate {fatal : Bool} {name : BlockName} {size : Nat} {hint : Option NodeId}
    (h : s.perform (.allocate fatal name size hint) = .ok (value, after)) (keeps : s.allocator.Keeps e) :
    after.allocator.Keeps { e with first := some e.basis } ∧ value.cutShort = false := by
  obtain ⟨⟨answer, c⟩, requested, given⟩ := bind_ok h
  obtain ⟨same, whole⟩ := granted_allocator given
  obtain ⟨nodes, b, calls, targets, allocates⟩ :=
    Allocator.tryAllocate_cases (request_cases requested).1
  rw [same]
  exact ⟨keeps.targets targets allocates.agrees, whole⟩

/-- Without a block to replace, a new one is asked for. -/
theorem keeps_afresh {fatal : Bool} {name : BlockName} {size : Nat} {hint : Option NodeId}
    (h : s.perform (.reallocate fatal none name size hint) = .ok (value, after))
    (keeps : s.allocator.Keeps e) :
    after.allocator.Keeps { e with first := some e.basis } ∧ value.cutShort = false :=
  have same : s.perform (.allocate fatal name size hint) = .ok (value, after) := h
  keeps_allocate same keeps

theorem keeps_allocateCopy {name : BlockName} {bytes : Bytes}
    (h : s.perform (.allocateCopy name bytes) = .ok (value, after)) (keeps : s.allocator.Keeps e) :
    after.allocator.Keeps { e with first := some e.basis } ∧ value.cutShort = false := by
  obtain ⟨⟨new, d⟩, copied, given⟩ := bind_ok h
  obtain ⟨same, whole⟩ := granted_allocator given
  obtain ⟨⟨block, c⟩, allocated, copied⟩ := bind_ok copied
  obtain ⟨arena, -, copied⟩ := bind_ok copied
  cases copied
  obtain ⟨⟨_ | granted, c'⟩, tried, orHalt⟩ := bind_ok allocated
  · cases orHalt
  · cases orHalt
    obtain ⟨nodes, b, calls, targets, allocates⟩ := Allocator.tryAllocate_cases tried
    have agrees := allocates.agrees
    rw [same]
    refine ⟨keeps.targets targets ?_, whole⟩
    exact ⟨agrees.topology, agrees.snapshot, agrees.policy, agrees.defaultSlot, agrees.localDefault⟩

/-- A request for another size of a live block ends in one of the ways of `Reallocates`, and is not cut short, unless
it halts. -/
theorem reallocates_of_perform (sound : s.Sound) {fatal : Bool} {source name : BlockName} {size : Nat}
    {hint : Option NodeId} {block : BlockId} (found : s.blocks.find? source = some block)
    (h : s.perform (.reallocate fatal (some source) name size hint) = .ok (value, after)) :
    ∃ head r nodes a answer calls, s.allocator.targets hint = .ok (nodes, a) ∧
      a.Reallocates block head r size nodes answer after.allocator calls ∧ value.cutShort = false := by
  simp only [perform, found] at h
  obtain ⟨⟨answer, c⟩, requested, given⟩ := bind_ok h
  obtain ⟨head, payload, r, hr, hb⟩ := sound.live _ (Table.mem_of_find? found)
  have other := Nat.ne_of_lt (sound.named _ (Table.mem_of_find? found))
  obtain ⟨nodes, a, calls, targets, ends⟩ :=
    Allocator.tryReallocate_cases (request_cases requested).1 hr hb other
  refine ⟨head, r, nodes, a, answer, calls, targets, ?_⟩
  cases answer with
  | error error =>
    cases given
    exact ⟨ends, rfl⟩
  | ok new =>
    obtain ⟨same, whole⟩ := granted_allocator given
    rw [same]
    exact ⟨ends, whole⟩

theorem keeps_reallocate (sound : s.Sound) {fatal : Bool} {source name : BlockName} {size : Nat}
    {hint : Option NodeId} {block : BlockId} (found : s.blocks.find? source = some block)
    (h : s.perform (.reallocate fatal (some source) name size hint) = .ok (value, after))
    (keeps : s.allocator.Keeps e) :
    after.allocator.Keeps { e with first := some e.basis } ∧ value.cutShort = false := by
  obtain ⟨head, r, nodes, a, answer, calls, targets, ends, whole⟩ := reallocates_of_perform sound found h
  exact ⟨keeps.targets targets ends.agrees, whole⟩

/-- A step that neither looks nor ends the epoch nor changes the topology leaves the snapshot alone. -/
theorem unmoved_of_perform (h : s.perform step = .ok (value, after)) (looks : step.looks = false)
    (ends : step.ends = false) (changes : step.changesTopology = false) :
    after.allocator.topology = s.allocator.topology ∧
      after.allocator.snapshot = s.allocator.snapshot := by
  cases step with
  | free name =>
    cases name with
    | none => cases h; exact ⟨rfl, rfl⟩
    | some name =>
      simp only [perform] at h
      split at h
      · cases h
        exact ⟨rfl, rfl⟩
      · obtain ⟨a, freed, h⟩ := bind_ok h
        obtain ⟨header, -, freed⟩ := bind_ok freed
        cases h
        cases freed
        exact ⟨rfl, rfl⟩
  | write | read | info =>
    simp only [perform] at h
    split at h
    · cases h
      exact ⟨rfl, rfl⟩
    · obtain ⟨_, -, h⟩ := bind_ok h
      cases h
      exact ⟨rfl, rfl⟩
  | setPolicy policy =>
    cases h
    simp only [Allocator.setPolicy]
    split
    · exact ⟨rfl, rfl⟩
    · exact ⟨rfl, rfl⟩
  | install config =>
    cases config with
    | error error => cases h; exact ⟨rfl, rfl⟩
    | ok config => cases h; exact ⟨rfl, rfl⟩
  | clearDefaultNode | serialize | policy | defaultNode | isSerialized | changeSource =>
    cases h
    exact ⟨rfl, rfl⟩
  | allocate | allocateCopy | reallocate | setDefaultNode | currentNode | availability | ranking =>
    cases looks
  | resetTopology | shutdown => cases ends
  | changeTopology => cases changes

/-- **What an allocator holds after a step** is what there was to see of the topology that counts then. -/
theorem keeps_perform (sound : s.Sound) (h : s.perform step = .ok (value, after))
    (keeps : s.allocator.Keeps e) : after.allocator.Keeps (e.next step value) := by
  have idle (looks : step.looks = false) (ends : step.ends = false)
      (changes : step.changesTopology = false) : after.allocator.Keeps (e.next step value) := by
    obtain ⟨topology, kept⟩ := unmoved_of_perform h looks ends changes
    rw [Epoch.next_of_idle looks ends changes]
    exact keeps.still topology kept
  cases step with
  | allocate fatal name size hint =>
    obtain ⟨looked, whole⟩ := keeps_allocate h keeps
    rw [Epoch.next, whole]
    exact looked
  | allocateCopy name bytes =>
    obtain ⟨looked, whole⟩ := keeps_allocateCopy h keeps
    rw [Epoch.next, whole]
    exact looked
  | reallocate fatal source name size hint =>
    cases source with
    | none =>
      obtain ⟨looked, whole⟩ := keeps_afresh h keeps
      rw [Epoch.next, whole]
      exact looked
    | some source =>
      cases found : s.blocks.find? source with
      | none =>
        simp only [perform, found] at h
        cases h
        exact keeps
      | some block =>
        obtain ⟨looked, whole⟩ := keeps_reallocate sound found h keeps
        rw [Epoch.next, whole]
        exact looked
  | setDefaultNode node =>
    obtain ⟨⟨answer, a⟩, set, h⟩ := bind_ok h
    obtain ⟨⟨snapshot, b⟩, surveyed, set⟩ := bind_ok set
    cases h
    simp only at set
    split at set
    · cases set
      exact keeps.looked surveyed rfl rfl
    · cases set
      exact keeps.looked surveyed rfl rfl
  | currentNode =>
    obtain ⟨⟨node, a⟩, seen, h⟩ := bind_ok h
    obtain ⟨⟨snapshot, b⟩, surveyed, seen⟩ := bind_ok seen
    cases h
    simp only at seen
    split at seen
    · obtain ⟨caller, -, seen⟩ := bind_ok seen
      cases seen
      exact keeps.looked surveyed rfl rfl
    · cases seen
      exact keeps.looked surveyed rfl rfl
  | availability | ranking =>
    obtain ⟨⟨answer, a⟩, seen, h⟩ := bind_ok h
    obtain ⟨⟨snapshot, b⟩, surveyed, seen⟩ := bind_ok seen
    cases h
    cases seen
    exact keeps.looked surveyed rfl rfl
  | resetTopology =>
    cases h
    exact keeps.ended rfl rfl
  | shutdown =>
    cases h
    refine keeps.ended ?_ rfl
    simp only [Allocator.shutdown]
    split
    · rfl
    · rfl
  | changeTopology topology =>
    cases h
    exact ⟨rfl, keeps.unseen, keeps.seen⟩
  | _ => exact idle rfl rfl rfl

theorem keeps_step (sound : s.Sound) (step : Step σ) (keeps : s.allocator.Keeps e) :
    (s.step step).2.allocator.Keeps (e.next step (s.step step).1.value) := by
  rcases step_performed s step with ⟨halt, halted⟩ | ⟨value, after, performed, ended⟩
  · rw [halted]
    exact keeps
  · rw [ended]
    exact keeps_perform sound performed keeps

/-- A session as it is made, and its epoch. A configuration that names a default node opens it. -/
inductive Opens : Session σ → Epoch → Prop
  | new (topology : Topology) (source : σ) :
    Opens { allocator := .new topology source } { topology }
  | ofConfig {topology : Topology} {source : σ} {config : Config} {a : Allocator σ}
    (made : Allocator.ofConfig topology source config = .ok (.ok (), a)) :
    Opens { allocator := a } { topology, first := config.defaultNode.map fun _ => topology }

omit [Source σ] in
theorem Opens.initial (opens : s.Opens e) : Initial s := by
  cases opens with
  | new topology source => exact .new topology source
  | ofConfig made => exact .ofConfig made

omit [Source σ] in
theorem validate_ok {config valid : Config} (h : config.validate = .ok valid) : valid = config := by
  unfold Config.validate at h
  split at h
  · cases h
  · split at h
    · cases h
    · cases h
      rfl

omit [Source σ] in
theorem Opens.keeps (opens : s.Opens e) : s.allocator.Keeps e := by
  cases opens with
  | new topology source => exact ⟨rfl, fun _ => rfl, fun _ held => by cases held⟩
  | @ofConfig topology source config a made =>
    unfold Allocator.ofConfig at made
    split at made
    · cases made
    · rename_i valid validated
      obtain rfl := validate_ok validated
      simp only at made
      split at made
      · rename_i node named
        obtain ⟨⟨snapshot, b⟩, surveyed, made⟩ := bind_ok made
        rw [named]
        simp only at made
        split at made
        · cases made
          refine Keeps.looked (e := { topology }) ⟨rfl, fun _ => rfl, fun _ held => by cases held⟩ surveyed
            rfl rfl
        · cases made
      · rename_i named
        cases made
        rw [named]
        exact ⟨rfl, fun _ => rfl, fun _ held => by cases held⟩

/-- **After every run the allocator holds what there was to see** when the epoch's first step looked. -/
theorem keeps_run (steps : List (Step σ)) (stores : s.Stored)
    (keeps : s.allocator.Keeps e) :
    (s.run steps).2.allocator.Keeps (e.after steps (s.run steps).1) := by
  induction steps generalizing s e with
  | nil => exact keeps
  | cons step rest ih => exact ih (stores.step step) (keeps_step stores.toSound step keeps)

end Session

end NodeHeap
