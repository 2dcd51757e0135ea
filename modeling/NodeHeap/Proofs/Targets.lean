import Mathlib.Data.List.Induction
import NodeHeap.Proofs.Epochs
import NodeHeap.Proofs.Settlement

/-!
# Nodes that are asked for memory

Hints and ranked nodes are valid in the epoch in which they are used. The default node need not be: it is
checked when it is set, or taken over unchecked from the caller, and then stays whatever becomes of the
topology.

* `Topology.Admits` — how a node can have become the default node of an epoch.
* `Allocator.Steers` — where the default node of an allocator comes from.
* `Session.Appointed` — since when a node is the default node, and what admitted it then.
* `Session.Warrant` — why a node may be asked for memory: it is valid, or a default node that is not.
* `run_targets_warranted` — that is so for every node that is asked after every run.
-/

namespace NodeHeap

variable {σ : Type}

namespace Topology

/-- How a node can have become the default node of an epoch: it is valid, or it is where the caller is and
was to be adopted. -/
def Admits (t : Topology) (localDefault : Bool) (node : NodeId) : Prop :=
  t.isValidNode node = true ∨ localDefault = true ∧ t.callerNode = .ok (some node)

variable {t : Topology} {snapshot : Snapshot} {node : NodeId}

theorem addressableNodes_of_snapshot (h : t.snapshot = .ok snapshot) :
    t.addressableNodes = .ok snapshot.addressable := by
  obtain ⟨ranking, -, h⟩ := bind_ok h
  obtain ⟨addressable, counted, h⟩ := bind_ok h
  cases h
  exact counted

/-- The node that distances are measured from is where the caller is, or a valid one. -/
theorem Lawful.reference_cases (lawful : t.Lawful) (h : t.snapshot = .ok snapshot)
    (reference : snapshot.ranking.reference = some node) :
    t.isValidNode node = true ∨ t.callerNode = .ok (some node) := by
  obtain ⟨ranking, ranked, h⟩ := bind_ok h
  obtain ⟨caller, asked, ranked⟩ := bind_ok ranked
  obtain ⟨addressable, -, h⟩ := bind_ok h
  cases ranked
  cases h
  simp only [Ranking.build] at reference
  split at reference
  · rename_i present
    cases reference
    cases caller with
    | some node => exact .inr asked
    | none =>
      obtain ⟨available, listed⟩ := Bool.and_eq_true_iff.1 present
      obtain ⟨first, rest, nodes⟩ : ∃ first rest, t.nodes = first :: rest := by
        cases nodes : t.nodes with
        | nil =>
          rw [nodes] at listed
          cases listed
        | cons first rest => exact ⟨first, rest, rfl⟩
      obtain ⟨max, greatest, -⟩ := lawful.listed first (nodes ▸ List.mem_cons_self)
      left
      simp [isValidNode, available, greatest, fallbackReference]
  · cases reference

end Topology

theorem NodeSlot.eq_of_node?_holding {node other : NodeId} (h : (holding node).node? = some other) :
    other = node := by
  unfold node? at h
  split at h
  · cases h
  · cases h
    rfl

namespace Allocator

variable {a b c : Allocator σ} {snapshot : Snapshot} {hint : Option NodeId} {nodes : List NodeId}

/-- Where the default node of an allocator comes from: it was that already, or the snapshot that is held now
has it as a valid node or, where the caller's node is adopted, as its reference node. -/
structure Steers (a b : Allocator σ) : Prop where
  localDefault : b.localDefault = a.localDefault
  chosen : ∀ node, b.defaultNode = some node →
    a.defaultNode = some node ∨ ∃ snapshot, b.snapshot = some snapshot ∧
      (node < snapshot.addressable ∨
        a.localDefault = true ∧ snapshot.ranking.reference = some node)

namespace Steers

/-- The default node stays, or there is none any more. -/
theorem of_kept (localDefault : b.localDefault = a.localDefault)
    (kept : ∀ node, b.defaultNode = some node → a.defaultNode = some node) : a.Steers b :=
  ⟨localDefault, fun node held => .inl (kept node held)⟩

theorem refl (a : Allocator σ) : a.Steers a := of_kept rfl fun _ held => held

theorem agrees (h : a.Steers b) (same : b.Agrees c) : a.Steers c := by
  refine ⟨same.localDefault.trans h.localDefault, fun node held => ?_⟩
  rw [defaultNode, same.defaultSlot] at held
  rw [same.snapshot]
  exact h.chosen node held

theorem survey (surveyed : a.survey = .ok (snapshot, b)) : a.Steers b := by
  rcases survey_cases surveyed with ⟨-, rfl⟩ | ⟨-, -, rfl⟩
  · exact .refl b
  · refine ⟨?_, fun node held => ?_⟩
    · rw [beginEpoch, adopt_spec]
      rfl
    · unfold beginEpoch adopt at held
      split at held
      · rename_i reference wanted found
        obtain ⟨asked, -⟩ := Bool.and_eq_true_iff.1 wanted
        obtain rfl := NodeSlot.eq_of_node?_holding held
        exact .inr ⟨snapshot, rfl, .inr ⟨asked, found⟩⟩
      · exact .inl held

theorem targets (h : a.targets hint = .ok (nodes, b)) : a.Steers b := by
  obtain ⟨snapshot, c, events, surveyed, -, rfl⟩ := survey_of_targets h
  have steers := Steers.survey surveyed
  exact ⟨steers.localDefault, steers.chosen⟩

theorem controls {step : Step σ} (h : a.Controls step b) : a.Steers b := by
  cases h with
  | same => exact .refl a
  | looked events surveyed =>
    have steers := Steers.survey surveyed
    exact ⟨steers.localDefault, steers.chosen⟩
  | @defaulted node snapshot b events surveyed valid =>
    refine ⟨(Steers.survey surveyed).localDefault, fun other held => ?_⟩
    obtain rfl := NodeSlot.eq_of_node?_holding held
    have there : b.snapshot = some snapshot := snapshot_of_survey surveyed
    exact .inr ⟨snapshot, there, .inl valid⟩
  | cleared => exact .of_kept rfl fun node held => by cases held
  | placing => exact .of_kept rfl fun _ held => held
  | ended => exact .of_kept rfl fun _ held => held
  | serialized => exact .of_kept rfl fun _ held => held
  | topology => exact .of_kept rfl fun _ held => held
  | source => exact .of_kept rfl fun _ held => held

end Steers

/-- A node to try is a valid one or the default node. -/
theorem valid_or_default (bounded : snapshot.Bounded) {node : NodeId}
    (mem : node ∈ a.candidates snapshot hint) :
    node < snapshot.addressable ∨ a.defaultNode = some node := by
  unfold candidates at mem
  split at mem
  · cases mem
  · split at mem
    · rename_i hinted kept
      obtain ⟨-, valid⟩ := Option.filter_eq_some_iff.1 kept
      obtain rfl := List.mem_singleton.1 mem
      exact .inl (by simpa using valid)
    · split at mem
      · exact .inl (bounded.ranked node mem)
      · exact .inr (Option.mem_toList.1 mem)

end Allocator

/-! ## Calls and the nodes to try -/

section Calls

variable {next : RegionId} {total size : Nat} {node : NodeId} {nodes : List NodeId}
  {calls : List Call} {granted : Option RegionId}

/-- A node that is asked for memory is one of those to try. -/
theorem Asks.mem_of_call {served : Option (Option NodeId)} {bytes : Nat}
    (h : Asks next total nodes calls served) (mem : .allocOnNode node bytes granted ∈ calls) :
    node ∈ nodes := by
  have tried : ∀ some, .allocOnNode node bytes granted ∈ vain total some → node ∈ some := by
    intro some mem
    obtain ⟨other, there, same⟩ := List.mem_map.1 mem
    cases same
    exact there
  cases h with
  | onNode split =>
    subst split
    rcases List.mem_append.1 mem with mem | mem
    · exact List.mem_append_left _ (tried _ mem)
    · cases List.mem_singleton.1 mem
      exact List.mem_append_right _ List.mem_cons_self
  | anywhere | nowhere =>
    rcases List.mem_append.1 mem with mem | mem
    · exact tried _ mem
    · cases List.mem_singleton.1 mem

variable [Source σ] {a b : Allocator σ} {answer : Except AllocError BlockId} {bytes : Nat}

theorem Allocator.Allocates.mem_of_call (h : a.Allocates size nodes answer b calls)
    (mem : .allocOnNode node bytes granted ∈ calls) : node ∈ nodes := by
  cases h with
  | tooLarge => cases mem
  | refused events bounded asks => exact asks.mem_of_call mem
  | granted events bounded asks => exact asks.mem_of_call mem

theorem Allocator.Reallocates.mem_of_call {block : BlockId} {head : Header} {r : Region}
    (h : a.Reallocates block head r size nodes answer b calls)
    (mem : .allocOnNode node bytes granted ∈ calls) : node ∈ nodes := by
  have release : Call.allocOnNode node bytes granted ≠ releaseOf block head := by
    unfold releaseOf
    split
    · simp
    · simp
  cases h with
  | tooLarge => cases mem
  | notResized bounded still heard asks =>
    rcases asks with rfl | rfl
    · cases List.mem_singleton.1 mem
    · cases List.mem_singleton.1 mem
  | resized => cases List.mem_singleton.1 mem
  | exchanged bounded still asks =>
    subst asks
    rcases List.mem_cons.1 mem with same | mem
    · cases same
    · exact absurd (List.mem_singleton.1 mem) release
  | notMoved bounded apart refused => exact refused.mem_of_call mem
  | moved events bounded apart asks =>
    rcases List.mem_append.1 mem with mem | mem
    · exact asks.mem_of_call mem
    · exact absurd (List.mem_singleton.1 mem) release

end Calls

/-! ## Epochs of lawful topologies -/

namespace Epoch

/-- The topologies of an epoch keep their promises. -/
structure Lawful (e : Epoch) : Prop where
  topology : e.topology.Lawful
  first : ∀ t, e.first = some t → t.Lawful

variable {e : Epoch} {step : Step σ} {value : Value}

theorem Lawful.basis (h : e.Lawful) : e.basis.Lawful := by
  unfold Epoch.basis
  cases begun : e.first with
  | none => exact h.topology
  | some t => exact h.first t begun

theorem Lawful.next (h : e.Lawful)
    (changes : ∀ topology, step = .changeTopology topology → topology.Lawful) :
    (e.next step value).Lawful := by
  have proceeds : (e.proceed step).Lawful := by
    unfold proceed
    split
    · exact ⟨changes _ rfl, h.first⟩
    · split
      · exact ⟨h.topology, fun t begun => by cases begun⟩
      · split
        · refine ⟨h.topology, fun t begun => ?_⟩
          cases begun
          exact h.basis
        · exact h
  unfold Epoch.next
  split
  · exact h
  · exact proceeds

theorem first_next {t : Topology} (begun : e.first = some t) (step : Step σ) (value : Value) :
    (e.next step value).first = some t ∨ (e.next step value).first = none := by
  unfold next proceed
  split
  · exact .inl begun
  · split
    · exact .inl begun
    · split
      · exact .inr rfl
      · split
        · exact .inl (by simp only [basis, begun, Option.getD_some])
        · exact .inl begun

end Epoch

/-! ## Steps and runs -/

namespace Session

variable [Source σ] {s after : Session σ} {e : Epoch} {t : Topology} {node : NodeId}

theorem Performs.steers {step : Step σ} {value : Value} (performs : s.Performs step value after) :
    s.allocator.Steers after.allocator := by
  induction performs with
  | still quiet controls => exact .controls controls
  | refused targets refused => exact (Allocator.Steers.targets targets).agrees refused.agrees
  | placed targets granted => exact (Allocator.Steers.targets targets).agrees granted.agrees
  | copied targets granted =>
    have steers := (Allocator.Steers.targets targets).agrees granted.agrees
    exact ⟨steers.localDefault, steers.chosen⟩
  | afresh allocates ih => exact ih
  | kept found hr hb targets refused =>
    exact (Allocator.Steers.targets targets).agrees refused.agrees
  | replaced found hr hb targets granted =>
    exact (Allocator.Steers.targets targets).agrees granted.agrees
  | freed => exact .of_kept rfl fun _ held => held
  | written => exact .of_kept rfl fun _ held => held

theorem steers_step (sound : s.Sound) (step : Step σ) :
    s.allocator.Steers (s.step step).2.allocator := by
  rcases step_cases sound step with ⟨-, unchanged⟩ | performs
  · rw [unchanged]
    exact .refl _
  · exact performs.steers

theorem run_concat (s : Session σ) (steps : List (Step σ)) (step : Step σ) :
    (s.run (steps ++ [step])).2 = ((s.run steps).2.step step).2 := by
  induction steps generalizing s with
  | nil => rfl
  | cons first rest ih => exact ih _

theorem epoch_concat (s : Session σ) (e : Epoch) (steps : List (Step σ)) (step : Step σ) :
    e.after (steps ++ [step]) (s.run (steps ++ [step])).1 =
      (e.after steps (s.run steps).1).next step ((s.run steps).2.step step).1.value := by
  induction steps generalizing s e with
  | nil => rfl
  | cons first rest ih => exact ih _ _

theorem localDefault_run (stores : s.Stored) (steps : List (Step σ)) :
    (s.run steps).2.allocator.localDefault = s.allocator.localDefault := by
  induction steps generalizing s with
  | nil => rfl
  | cons step rest ih =>
    exact (ih (stores.step step)).trans (steers_step stores.toSound step).localDefault

omit [Source σ] in
theorem Opens.lawful (opens : s.Opens e) (lawful : e.topology.Lawful) : e.Lawful := by
  cases opens with
  | new topology source => exact ⟨lawful, fun t begun => by cases begun⟩
  | ofConfig made =>
    refine ⟨lawful, fun t begun => ?_⟩
    obtain ⟨named, -, rfl⟩ := Option.map_eq_some_iff.1 begun
    exact lawful

/-- Lawful topologies make lawful epochs, after every run. -/
theorem lawful_run (s : Session σ) (lawful : e.Lawful) (steps : List (Step σ))
    (changes : ∀ topology, .changeTopology topology ∈ steps → topology.Lawful) :
    (e.after steps (s.run steps).1).Lawful := by
  induction steps generalizing s e with
  | nil => exact lawful
  | cons step rest ih =>
    refine ih _ (lawful.next fun topology same => changes topology (same ▸ List.mem_cons_self)) ?_
    exact fun topology mem => changes topology (List.mem_cons_of_mem _ mem)

/-- After the steps `earlier` the epoch goes by the topology `t`, which admits the node as default node; and the
node is the default node from then on, all through the steps `later`. -/
structure Appointed (s : Session σ) (e : Epoch) (earlier later : List (Step σ)) (t : Topology)
    (node : NodeId) : Prop where
  counts : (e.after earlier (s.run earlier).1).first = some t
  admits : t.Admits s.allocator.localDefault node
  since : ∀ more, more <+: later →
    (s.run (earlier ++ more)).2.allocator.defaultNode = some node

/-- A default node that the snapshot admits is appointed with the last step. -/
theorem appointed_of_admitted (opens : s.Opens e) (lawful : e.topology.Lawful) {steps : List (Step σ)}
    (changes : ∀ topology, .changeTopology topology ∈ steps → topology.Lawful) {snapshot : Snapshot}
    (held : (s.run steps).2.allocator.defaultNode = some node)
    (there : (s.run steps).2.allocator.snapshot = some snapshot)
    (admitted : node < snapshot.addressable ∨
      s.allocator.localDefault = true ∧ snapshot.ranking.reference = some node) :
    ∃ t, s.Appointed e steps [] t node := by
  obtain ⟨t, first, saw⟩ := (keeps_run steps opens.initial.stored opens.keeps).seen snapshot there
  refine ⟨t, first, ?_, ?_⟩
  · rcases admitted with valid | ⟨asked, reference⟩
    · have counted := Topology.addressableNodes_of_snapshot saw
      exact .inl ((Topology.isValidNode_iff_lt counted node).2 valid)
    · have kept := (lawful_run s (opens.lawful lawful) steps changes).first t first
      exact (kept.reference_cases saw reference).imp_right fun caller => ⟨asked, caller⟩
  · intro more within
    rw [List.prefix_nil.1 within, List.append_nil]
    exact held

/-- A node that is still the default node after one more step stays appointed. -/
theorem Appointed.concat {earlier later : List (Step σ)} (h : s.Appointed e earlier later t node)
    {step : Step σ} (held : (s.run (earlier ++ later ++ [step])).2.allocator.defaultNode = some node) :
    s.Appointed e earlier (later ++ [step]) t node := by
  refine ⟨h.counts, h.admits, fun more within => ?_⟩
  rcases List.prefix_concat_iff.1 within with rfl | within
  · rw [← List.append_assoc]
    exact held
  · exact h.since more within

/-- With one more step an epoch goes on, or there is no snapshot any more. -/
theorem first_concat (opens : s.Opens e) {steps : List (Step σ)}
    (same : (e.after steps (s.run steps).1).first = some t) (step : Step σ) :
    (e.after (steps ++ [step]) (s.run (steps ++ [step])).1).first = some t ∨
      (s.run (steps ++ [step])).2.allocator.snapshot = none := by
  have begun := (keeps_run (steps ++ [step]) opens.initial.stored opens.keeps).begun
  rw [epoch_concat] at begun ⊢
  rcases Epoch.first_next same step ((s.run steps).2.step step).1.value with same | ended
  · exact .inl same
  · rw [ended] at begun
    exact .inr (Option.isNone_iff_eq_none.1 (Option.isSome_eq_false_iff.1 begun))

/-- **Every default node was admitted once**, by the topology of the epoch in which it became the default
node, and has been the default node since. Either that epoch still lasts, or there was no snapshot at some
time in between. -/
theorem appointed_run (opens : s.Opens e) (lawful : e.topology.Lawful) (steps : List (Step σ))
    (changes : ∀ topology, .changeTopology topology ∈ steps → topology.Lawful)
    (held : (s.run steps).2.allocator.defaultNode = some node) :
    ∃ earlier later t, steps = earlier ++ later ∧ s.Appointed e earlier later t node ∧
      ((e.after steps (s.run steps).1).first = some t ∨
        ∃ more, more <+: later ∧ (s.run (earlier ++ more)).2.allocator.snapshot = none) := by
  have stores := opens.initial.stored
  induction steps using List.reverseRecOn with
  | nil =>
    cases opens with
    | new topology source => cases held
    | ofConfig made =>
      obtain ⟨policy, localDefault, usage, -, chosen, controls⟩ := Allocator.ofConfig_cases made
      have steers := Allocator.Steers.controls controls
      rcases steers.chosen node held with before | ⟨snapshot, there, admitted⟩
      · cases before
      · rw [← steers.localDefault] at admitted
        obtain ⟨t, appointed⟩ :=
          appointed_of_admitted (.ofConfig made) lawful changes held there admitted
        exact ⟨[], [], t, rfl, appointed, .inl appointed.counts⟩
  | append_singleton steps step ih =>
    have before : ∀ topology, .changeTopology topology ∈ steps → topology.Lawful :=
      fun topology mem => changes topology (List.mem_append_left _ mem)
    have steers := steers_step (stores.run steps).toSound step
    rcases steers.chosen node (run_concat s steps step ▸ held) with kept | ⟨snapshot, there, admitted⟩
    · obtain ⟨earlier, later, t, rfl, appointed, lasts⟩ := ih before kept
      refine ⟨earlier, later ++ [step], t, List.append_assoc _ _ _, appointed.concat held, ?_⟩
      rcases lasts with same | ⟨more, within, ended⟩
      · refine (first_concat opens same step).imp_right fun ended =>
          ⟨later ++ [step], List.prefix_refl _, ?_⟩
        rw [← List.append_assoc]
        exact ended
      · exact .inr ⟨more, within.trans (List.prefix_append _ _), ended⟩
    · rw [localDefault_run stores steps] at admitted
      rw [← run_concat] at there
      obtain ⟨t, appointed⟩ := appointed_of_admitted opens lawful changes held there admitted
      exact ⟨steps ++ [step], [], t, (List.append_nil _).symm, appointed, .inl appointed.counts⟩

/-- Why a node may be asked for memory by an allocator that a session, or its next request, left behind. -/
inductive Warrant (s : Session σ) (e : Epoch) (steps : List (Step σ)) (a : Allocator σ)
    (node : NodeId) : Prop
  /-- The node is valid in the epoch. -/
  | valid {snapshot : Snapshot} (held : a.snapshot = some snapshot)
    (valid : node < snapshot.addressable)
  /-- The node is not valid in the epoch. It is the default node of an allocator that adopts the caller's node, and
  the caller's node in the topology that counts. -/
  | adopted (held : a.defaultNode = some node) (asked : s.allocator.localDefault = true)
    (caller : (e.after steps (s.run steps).1).basis.callerNode = .ok (some node))
    (invalid : (e.after steps (s.run steps).1).basis.isValidNode node = false)
  /-- The node is the default node of an earlier epoch, and has been the default node since. -/
  | outlived {earlier later more : List (Step σ)} {t : Topology} (held : a.defaultNode = some node)
    (split : steps = earlier ++ later) (appointed : s.Appointed e earlier later t node)
    (within : more <+: later) (ended : (s.run (earlier ++ more)).2.allocator.snapshot = none)

/-- A default node is warranted once the epoch has a snapshot. -/
theorem warrant_of_default (opens : s.Opens e) (lawful : e.topology.Lawful) (steps : List (Step σ))
    (changes : ∀ topology, .changeTopology topology ∈ steps → topology.Lawful) {snapshot : Snapshot}
    {b : Allocator σ} (surveyed : (s.run steps).2.allocator.survey = .ok (snapshot, b))
    (held : b.defaultNode = some node) : s.Warrant e steps b node := by
  have stores := opens.initial.stored
  have saw := (keeps_run steps stores opens.keeps).saw surveyed
  have valid_iff := Topology.isValidNode_iff_lt (Topology.addressableNodes_of_snapshot saw) node
  have there := Allocator.snapshot_of_survey surveyed
  -- What the topology that counts now admits is valid, or was adopted in this epoch.
  have of_admits (admits : (e.after steps (s.run steps).1).basis.Admits s.allocator.localDefault node) :
      s.Warrant e steps b node := by
    by_cases valid : (e.after steps (s.run steps).1).basis.isValidNode node = true
    · exact .valid there (valid_iff.1 valid)
    · obtain ⟨asked, caller⟩ := admits.resolve_left valid
      exact .adopted held asked caller (Bool.not_eq_true _ ▸ valid)
  rcases (Allocator.Steers.survey surveyed).chosen node held with before | ⟨seen, same, admitted⟩
  · obtain ⟨earlier, later, t, split, appointed, same | ⟨more, within, ended⟩⟩ :=
      appointed_run opens lawful steps changes before
    · refine of_admits ?_
      rw [Epoch.basis, same]
      exact appointed.admits
    · exact .outlived held split appointed within ended
  · rw [there] at same
    cases same
    rw [localDefault_run stores] at admitted
    refine of_admits ?_
    rcases admitted with valid | ⟨asked, reference⟩
    · exact .inl (valid_iff.2 valid)
    · have kept := (lawful_run s (opens.lawful lawful) steps changes).basis
      exact (kept.reference_cases saw reference).imp_right fun caller => ⟨asked, caller⟩

theorem Warrant.agrees {steps : List (Step σ)} {a b : Allocator σ} (h : s.Warrant e steps a node)
    (same : a.Agrees b) : s.Warrant e steps b node := by
  have slot : b.defaultNode = a.defaultNode := congrArg NodeSlot.node? same.defaultSlot
  cases h with
  | valid held valid => exact .valid (same.snapshot.trans held) valid
  | adopted held asked caller invalid => exact .adopted (slot.trans held) asked caller invalid
  | outlived held split appointed within ended =>
    exact .outlived (slot.trans held) split appointed within ended

/-- A node to try is warranted. -/
theorem warrant_of_mem (opens : s.Opens e) (lawful : e.topology.Lawful) (steps : List (Step σ))
    (changes : ∀ topology, .changeTopology topology ∈ steps → topology.Lawful) {hint : Option NodeId}
    {nodes : List NodeId} {b : Allocator σ}
    (targets : (s.run steps).2.allocator.targets hint = .ok (nodes, b)) (mem : node ∈ nodes) :
    s.Warrant e steps b node := by
  obtain ⟨snapshot, c, events, surveyed, rfl, rfl⟩ := Allocator.survey_of_targets targets
  have saw := (keeps_run steps opens.initial.stored opens.keeps).saw surveyed
  have bounded := (lawful_run s (opens.lawful lawful) steps changes).basis.bounded saw
  have same : c.Agrees { c with events } := ⟨rfl, rfl, rfl, rfl, rfl⟩
  rcases Allocator.valid_or_default bounded mem with valid | held
  · have there : c.snapshot = some snapshot := Allocator.snapshot_of_survey surveyed
    exact .valid there valid
  · exact (warrant_of_default opens lawful steps changes surveyed held).agrees same

/-- Four nodes. -/
def fourNodes : Topology where
  availability := .available
  maxNode := some 3
  nodes := [0, 1, 2, 3]
  callerNode := .ok none
  distance _ _ := 0

/-- What is left of four nodes when three of them are gone. -/
def oneNode : Topology where
  availability := .available
  maxNode := some 0
  nodes := [0]
  callerNode := .ok none
  distance _ _ := 0

theorem lawful_fourNodes : fourNodes.Lawful := by
  refine ⟨fun node mem => ⟨3, rfl, ?_⟩, fun node here => by cases here⟩
  revert node
  decide

theorem lawful_oneNode : oneNode.Lawful := by
  refine ⟨fun node mem => ⟨0, rfl, ?_⟩, fun node here => by cases here⟩
  revert node
  decide

/-- A session on four nodes. -/
def onFour : Session Scripted := { allocator := .new fourNodes {} }

/-- The last of four nodes becomes the default node, and then there is but one node. -/
def shrinking : List (Step Scripted) := [.setDefaultNode 3, .changeTopology oneNode, .resetTopology]

end Session

end NodeHeap
