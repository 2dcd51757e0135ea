import NodeHeap.Proofs.EpochLaw
import NodeHeap.Proofs.Targets

/-!
# Adopted default nodes

An allocator that is to go by its caller has the reference node of a snapshot for its default node, if it has
none when it takes the snapshot. That is so for each epoch and not for the first one alone: a default node that
was cleared, or that no earlier topology had, is adopted after the next reset.

* `Allocator.adoptee` — the node that is adopted with a snapshot, if there is one.
* `Allocator.Turns` — the ways in which a default node stays or changes; `Performs.turns`.
* `slot_run`, `default_slot_run` — in an epoch that has a snapshot it changes only where a step says so.
* `default_node_turns` — the law of the default node, in every run.
* `default_node_adopted_again` — a second adoption.
-/

namespace NodeHeap

variable {σ : Type}

/-- Whether a step says what the default node is to be. -/
def Step.appoints : Step σ → Bool
  | .setDefaultNode _ | .clearDefaultNode => true
  | _ => false

namespace Allocator

variable {a b c : Allocator σ} {snapshot : Snapshot} {step : Step σ}

/-- The node that becomes the default one when an epoch begins with a snapshot. -/
def adoptee (a : Allocator σ) (snapshot : Snapshot) : Option NodeId :=
  if a.localDefault && a.defaultNode.isNone then snapshot.ranking.reference else none

theorem beginEpoch_slot (a : Allocator σ) (snapshot : Snapshot) :
    (a.beginEpoch snapshot).defaultSlot =
      match a.adoptee snapshot with
      | some node => .holding node
      | none => a.defaultSlot := by
  unfold beginEpoch adopt
  split
  · rename_i node wanted found
    have due : a.adoptee snapshot = some node := (if_pos wanted).trans found
    rw [due]
    rfl
  · rename_i undue
    have free : a.adoptee snapshot = none := by
      unfold adoptee
      split
      · rename_i wanted
        exact Option.eq_none_iff_forall_ne_some.2 fun node found => undue node wanted found
      · rfl
    rw [free]
    rfl

/-- How the default node turns out after a step. -/
inductive Turns (a : Allocator σ) : Step σ → Allocator σ → Prop
  /-- It stays. If the step began an epoch, there was no node to adopt. -/
  | kept {step : Step σ} {b : Allocator σ} (slot : b.defaultSlot = a.defaultSlot)
    (settled : ∀ snapshot, a.snapshot = none → b.snapshot = some snapshot → a.adoptee snapshot = none) :
    Turns a step b
  /-- The step began an epoch, with a node to adopt. -/
  | adopted {step : Step σ} {snapshot : Snapshot} {node : NodeId} {b : Allocator σ}
    (unseen : a.snapshot = none) (look : a.topology.snapshot = .ok snapshot)
    (seen : b.snapshot = some snapshot) (due : a.adoptee snapshot = some node)
    (slot : b.defaultSlot = .holding node) : Turns a step b
  /-- The step names a node that is a valid one in its epoch. -/
  | appointed {snapshot : Snapshot} {node : NodeId} {b : Allocator σ}
    (seen : b.snapshot = some snapshot) (valid : node < snapshot.addressable)
    (slot : b.defaultSlot = .holding node) : Turns a (.setDefaultNode node) b
  | dismissed {b : Allocator σ} (slot : b.defaultSlot = .vacant) : Turns a .clearDefaultNode b

namespace Turns

theorem still (slot : b.defaultSlot = a.defaultSlot) (kept : b.snapshot = a.snapshot) :
    a.Turns step b := by
  refine .kept slot fun snapshot unseen seen => ?_
  rw [kept, unseen] at seen
  cases seen

/-- **A look adopts a node if it begins an epoch, and there is one to adopt.** -/
theorem survey (surveyed : a.survey = .ok (snapshot, c)) (kept : b.snapshot = c.snapshot)
    (slot : b.defaultSlot = c.defaultSlot) : a.Turns step b := by
  have seen : b.snapshot = some snapshot := kept.trans (snapshot_of_survey surveyed)
  rcases survey_cases surveyed with ⟨held, rfl⟩ | ⟨unseen, look, rfl⟩
  · exact .still slot kept
  · rw [beginEpoch_slot] at slot
    cases due : a.adoptee snapshot with
    | none =>
      rw [due] at slot
      refine .kept slot fun other _ seen' => ?_
      rw [seen] at seen'
      cases seen'
      exact due
    | some node =>
      rw [due] at slot
      exact .adopted unseen look seen due slot

theorem targets {hint : Option NodeId} {nodes : List NodeId} (targets : a.targets hint = .ok (nodes, b))
    (agrees : b.Agrees c) : a.Turns step c := by
  obtain ⟨snapshot, d, events, surveyed, -, rfl⟩ := survey_of_targets targets
  exact .survey surveyed agrees.snapshot agrees.defaultSlot

theorem controls (h : a.Controls step b) : a.Turns step b := by
  cases h with
  | looked events surveyed => exact .survey surveyed rfl rfl
  | @defaulted node snapshot c events surveyed valid =>
    have seen : c.snapshot = some snapshot := snapshot_of_survey surveyed
    exact .appointed (b := { c with defaultSlot := .holding node, events }) seen valid rfl
  | cleared => exact .dismissed rfl
  | ended => exact .kept rfl fun snapshot _ seen => by cases seen
  | same | placing | serialized | topology | source => exact .still rfl rfl

/-- In an epoch that has a snapshot, and where the step does not say otherwise, the default node stays. -/
theorem slot_eq (h : a.Turns step b) (known : a.snapshot.isSome = true)
    (silent : step.appoints = false) : b.defaultSlot = a.defaultSlot := by
  cases h with
  | kept slot settled => exact slot
  | adopted unseen =>
    rw [unseen] at known
    cases known
  | appointed | dismissed => cases silent

end Turns

end Allocator

namespace Session

variable [Source σ] {s after : Session σ} {e : Epoch} {value : Value}

/-- **What becomes of the default node at a step.** -/
theorem Performs.turns {step : Step σ} (performs : s.Performs step value after) :
    s.allocator.Turns step after.allocator := by
  induction performs with
  | still quiet controls => exact .controls controls
  | refused targets refused | kept _ _ _ targets refused => exact .targets targets refused.agrees
  | placed targets granted | replaced _ _ _ targets granted => exact .targets targets granted.agrees
  | copied targets granted =>
    have agrees := granted.agrees
    exact .targets targets
      ⟨agrees.topology, agrees.snapshot, agrees.policy, agrees.defaultSlot, agrees.localDefault⟩
  | afresh allocates ih =>
    -- To resize no block is to allocate one, and an allocation says nothing of the default node.
    cases ih with
    | kept slot settled => exact .kept slot settled
    | adopted unseen look seen due slot => exact .adopted unseen look seen due slot
  | freed | written => exact .still rfl rfl

theorem turns_step (sound : s.Sound) (step : Step σ) :
    s.allocator.Turns step (s.step step).2.allocator := by
  rcases step_cases sound step with ⟨-, unchanged⟩ | performs
  · rw [unchanged]
    exact .still rfl rfl
  · exact performs.turns

/-- Something holds of each step of a run, and of the session that the step is made in. -/
def Throughout (holds : Session σ → Step σ → Prop) (s : Session σ) : List (Step σ) → Prop
  | [] => True
  | step :: rest => holds s step ∧ (s.step step).2.Throughout holds rest

theorem throughout_of_forall {holds : Step σ → Prop} (steps : List (Step σ)) (all : ∀ step ∈ steps, holds step) :
    s.Throughout (fun _ => holds) steps := by
  induction steps generalizing s with
  | nil => trivial
  | cons step rest ih =>
    obtain ⟨first, later⟩ := List.forall_mem_cons.1 all
    exact ⟨first, ih later⟩

/-- In an epoch that has a snapshot the default node stays through a run if it stays at each of its steps. -/
theorem slot_run {holds : Session σ → Step σ → Prop}
    (kept : ∀ {s : Session σ} {step : Step σ}, s.Sound → s.allocator.snapshot.isSome = true → holds s step →
      (s.step step).2.allocator.defaultSlot = s.allocator.defaultSlot)
    (stores : s.Stored) (keeps : s.allocator.Keeps e) (begun : e.first.isSome = true) (steps : List (Step σ))
    (going : ∀ step ∈ steps, step.ends = false) (all : s.Throughout holds steps) :
    (s.run steps).2.allocator.defaultSlot = s.allocator.defaultSlot := by
  induction steps generalizing s e with
  | nil => rfl
  | cons step rest ih =>
    have stays := kept stores.toSound (keeps.begun.trans begun) all.1
    have later := ih (stores.step step) (keeps_step stores.toSound step keeps)
      (begun_next begun (going step List.mem_cons_self))
      (fun other mem => going other (List.mem_cons_of_mem step mem)) all.2
    exact later.trans stays

/-- **In an epoch that has a snapshot the default node changes only where a step says so.** -/
theorem default_slot_run (stores : s.Stored) (keeps : s.allocator.Keeps e)
    (begun : e.first.isSome = true) (steps : List (Step σ))
    (going : ∀ step ∈ steps, step.ends = false) (silent : ∀ step ∈ steps, step.appoints = false) :
    (s.run steps).2.allocator.defaultSlot = s.allocator.defaultSlot :=
  slot_run (fun sound known quiet => (turns_step sound _).slot_eq known quiet) stores keeps begun steps going
    (throughout_of_forall steps silent)

/-- **The law of the default node.** After every run, a step leaves it as it is, or sets it to a node that is
valid in its epoch, or clears it, or else begins an epoch, in which the reference node is adopted just where that
is asked for and there is no default node. From the first look of an epoch to its end it stays the same through
all steps but those that set or clear it. -/
theorem default_node_turns (opens : s.Opens e) (steps : List (Step σ)) :
    (∀ step, (s.run steps).2.allocator.Turns step ((s.run steps).2.step step).2.allocator) ∧
      ∀ later : List (Step σ), (s.run steps).2.allocator.snapshot.isSome = true →
        (∀ step ∈ later, step.ends = false) → (∀ step ∈ later, step.appoints = false) →
        ((s.run steps).2.run later).2.allocator.defaultNode = (s.run steps).2.allocator.defaultNode := by
  have stores := opens.initial.stored.run steps
  have keeps := keeps_run steps opens.initial.stored opens.keeps
  refine ⟨fun step => turns_step stores.toSound step, fun later known going silent => ?_⟩
  have same := default_slot_run stores keeps (keeps.begun.symm.trans known) later going silent
  exact congrArg NodeSlot.node? same

/-- A session with an allocator that goes by its caller, who is on the first of two nodes. -/
def lodger : Session Scripted := { allocator := { Allocator.new pair {} with localDefault := true } }

/-- The caller's node stays the default node through requests and changes of the topology. -/
theorem default_node_of_lodger :
    Opens lodger { topology := pair, first := none } ∧
      ((lodger.run [.currentNode]).2.run [.changeTopology { pair with callerNode := .ok (some 1) },
          .allocate false 0 8 none]).2.allocator.defaultNode =
        (lodger.run [.currentNode]).2.allocator.defaultNode := by
  have made : Allocator.ofConfig pair {} { localDefault := true } = .ok (.ok (), lodger.allocator) := rfl
  have opens : Opens lodger { topology := pair, first := none } := .ofConfig made
  refine ⟨opens, (default_node_turns opens [.currentNode]).2 _ rfl ?_ ?_⟩
  · decide
  · decide

/-- The caller's node is adopted a second time: after the first look at the topology the default node was
cleared, and a look after a reset brings it back. -/
theorem default_node_adopted_again :
    Allocator.ofConfig pair {} { localDefault := true } = .ok (.ok (), lodger.allocator) ∧
      (lodger.run [.currentNode]).2.allocator.defaultNode = some 0 ∧
      (lodger.run [.currentNode, .clearDefaultNode, .resetTopology]).2.allocator.defaultNode = none ∧
      (lodger.run [.currentNode, .clearDefaultNode, .resetTopology, .currentNode]).2.allocator.defaultNode =
        some 0 := by
  refine ⟨rfl, ?_⟩
  decide +kernel

end Session

end NodeHeap
