import NodeHeap.Proofs.PlacementLaw
import NodeHeap.Proofs.Refusal
import NodeHeap.Proofs.Targets
import NodeHeap.Proofs.Views
import NodeHeap.Topology.Matrix

/-!
# Topologies that are withheld

A topology that is not available may tell of nodes, of their distances and of the caller's node. None of that
is ever used: no two such topologies can be told from one another but by what their availability is said to be.

* `Topology.Withheld` — a topology that is not available; `MatrixTopology.withheld`.
* `Allocator.Blind`, `Allocator.Adrift` — an allocator that saw no other topology, and one that has no default
  node either.
* `Session.Untargeted` — no node is asked for memory, told of a block, or the default one.
* `untargeted_run` — so it is after every run, while the topologies are withheld.
* `withheld_topologies_look_the_same` — and which of them it is cannot be told.
-/

namespace NodeHeap

variable {σ : Type}

/-! ## Topologies -/

/-- The topology is not available. To look for the caller's node does not halt, even so. -/
structure Topology.Withheld (t : Topology) : Prop where
  unavailable : t.isAvailable = false
  caller : ∃ node, t.callerNode = .ok node

theorem MatrixTopology.withheld {m : MatrixTopology} (unavailable : m.topology.isAvailable = false) :
    m.topology.Withheld :=
  ⟨unavailable, _, rfl⟩

theorem MatrixTopology.isAvailable_of_nodes {m : MatrixTopology} (absent : m.nodes = []) :
    m.topology.isAvailable = false := by
  simp only [Topology.isAvailable, topology, availability, absent, List.isEmpty_nil, Bool.and_true]
  split
  · rfl
  · exact Bool.eq_false_iff.2 ‹_›

/-- There was nothing to see but that nodes cannot be used. -/
structure Snapshot.Blank (snapshot : Snapshot) : Prop where
  unavailable : snapshot.availability.isAvailable = false
  addressable : snapshot.addressable = 0
  ranking : snapshot.ranking = {}

theorem Topology.Withheld.blank {t : Topology} (h : t.Withheld) :
    ∃ snapshot, t.snapshot = .ok snapshot ∧ snapshot.Blank := by
  obtain ⟨node, caller⟩ := h.caller
  have ranked : Ranking.forCaller t = .ok {} := by
    simp only [Ranking.forCaller, caller, bind, Except.bind,
      Ranking.build_of_not_available h.unavailable]
    rfl
  have counted : t.addressableNodes = .ok 0 := by
    simp only [Topology.addressableNodes, h.unavailable]
  refine ⟨⟨t.availability, 0, {}⟩, ?_, h.unavailable, rfl, rfl⟩
  simp only [Topology.snapshot, ranked, counted, bind, Except.bind]
  rfl

/-! ## Allocators -/

namespace Allocator

variable {a b : Allocator σ} {snapshot : Snapshot}

/-- The allocator's topology is withheld, and so was the one that it saw. -/
structure Blind (a : Allocator σ) : Prop where
  topology : a.topology.Withheld
  seen : ∀ snapshot, a.snapshot = some snapshot → snapshot.Blank

namespace Blind

theorem unseen (withheld : a.topology.Withheld) (unseen : a.snapshot = none) : a.Blind :=
  ⟨withheld, fun _ held => by rw [unseen] at held; cases held⟩

/-- **A look shows nothing**, and changes nothing but the snapshot and the log. -/
theorem survey (h : a.Blind) :
    ∃ snapshot events, a.survey = .ok (snapshot, { a with snapshot := some snapshot, events }) ∧
      snapshot.Blank := by
  have surveyed : ∃ snapshot b, a.survey = .ok (snapshot, b) ∧ snapshot.Blank := by
    cases held : a.snapshot with
    | some snapshot => exact ⟨snapshot, a, survey_of_snapshot held, h.seen snapshot held⟩
    | none =>
      obtain ⟨snapshot, look, blank⟩ := h.topology.blank
      refine ⟨snapshot, a.beginEpoch snapshot, ?_, blank⟩
      simp only [Allocator.survey, held, look]
      rfl
  obtain ⟨snapshot, b, surveyed, blank⟩ := surveyed
  obtain ⟨events, rfl⟩ := survey_of_stays surveyed (.inr (by rw [blank.ranking]))
  exact ⟨snapshot, events, surveyed, blank⟩

/-- **There are no nodes to try**, whatever the policy, the hint and the default node are. -/
theorem targets_eq (h : a.Blind) {hint : Option NodeId} {nodes : List NodeId}
    (targets : a.targets hint = .ok (nodes, b)) : nodes = [] := by
  obtain ⟨snapshot, events, surveyed, blank⟩ := h.survey
  obtain ⟨told, given⟩ := targets_eq_candidates surveyed hint
  rw [given] at targets
  cases targets
  have unavailable : snapshot.availability ≠ .available := fun available => by
    rw [← isAvailable_iff, blank.unavailable] at available
    cases available
  exact if_pos unavailable

theorem looked (h : a.Blind) (blank : snapshot.Blank) (events : List Event) :
    Blind { a with snapshot := some snapshot, events } :=
  ⟨h.topology, fun _ held => by cases held; exact blank⟩

theorem still (h : a.Blind) (topology : b.topology = a.topology) (kept : b.snapshot = a.snapshot) :
    b.Blind :=
  ⟨by rw [topology]; exact h.topology, by rw [kept]; exact h.seen⟩

end Blind

/-- Two allocators saw nothing of nodes, and place blocks by the same rules. -/
structure Blinded (a b : Allocator σ) : Prop where
  left : a.Blind
  right : b.Blind
  policy : b.policy = a.policy
  slot : b.defaultSlot = a.defaultSlot

theorem lasting_blinded : Lasting (σ := σ) id Blinded where
  books h _ _ _ _ _ _ _ _ := ⟨h.left.still rfl rfl, h.right.still rfl rfl, h.policy, h.slot⟩
  placing h _ := ⟨h.left.still rfl rfl, h.right.still rfl rfl, rfl, h.slot⟩
  defaulted h _ := ⟨h.left.still rfl rfl, h.right.still rfl rfl, h.policy, rfl⟩
  forgotten h := ⟨.unseen h.left.topology rfl, .unseen h.right.topology rfl, h.policy, h.slot⟩
  slot h := h.slot
  policy h := h.policy

/-- **Their looks show the same**, if the availability is not seen. -/
theorem Blinded.sees (h : Blinded a b) (view : View σ) (hidden : view.hides .availability = true) :
    Matched (Sees view Blinded) a.survey b.survey := by
  obtain ⟨snapshot, events, surveyed, blank⟩ := h.left.survey
  obtain ⟨snapshot', events', surveyed', blank'⟩ := h.right.survey
  rw [surveyed, surveyed']
  refine .ok ⟨?_, ?_, ?_, ?_, fun seen => ?_, fun available => ?_⟩
  · exact ⟨h.left.looked blank events, h.right.looked blank' events', h.policy, h.slot⟩
  · exact blank'.addressable.trans blank.addressable.symm
  · exact blank'.ranking.trans blank.ranking.symm
  · exact blank'.unavailable.trans blank.unavailable.symm
  · rw [hidden] at seen
    cases seen
  · rw [blank.unavailable] at available
    cases available

/-- The allocator saw nothing of nodes, and has no default node. -/
structure Adrift (a : Allocator σ) : Prop extends Blind a where
  vacant : a.defaultSlot = .vacant

namespace Adrift

theorem still (h : a.Adrift) (topology : b.topology = a.topology) (kept : b.snapshot = a.snapshot)
    (slot : b.defaultSlot = a.defaultSlot) : b.Adrift :=
  ⟨h.toBlind.still topology kept, slot.trans h.vacant⟩

theorem survey (h : a.Adrift) (surveyed : a.survey = .ok (snapshot, b)) : b.Adrift := by
  obtain ⟨seen, events, looked, blank⟩ := h.toBlind.survey
  rw [looked] at surveyed
  cases surveyed
  exact ⟨h.toBlind.looked blank events, h.vacant⟩

theorem targets (h : a.Adrift) {hint : Option NodeId} {nodes : List NodeId}
    (targets : a.targets hint = .ok (nodes, b)) : b.Adrift := by
  obtain ⟨snapshot, c, events, surveyed, -, rfl⟩ := survey_of_targets targets
  exact (h.survey surveyed).still rfl rfl rfl

theorem controls (h : a.Adrift) {step : Step σ} (controls : a.Controls step b)
    (withheld : ∀ topology, step = .changeTopology topology → topology.Withheld) : b.Adrift := by
  cases controls with
  | same => exact h
  | looked events surveyed => exact (h.survey surveyed).still rfl rfl rfl
  | defaulted events surveyed valid =>
    obtain ⟨seen, told, looked, blank⟩ := h.toBlind.survey
    rw [looked] at surveyed
    cases surveyed
    rw [blank.addressable] at valid
    exact absurd valid (Nat.not_lt_zero _)
  | cleared => exact ⟨h.toBlind.still rfl rfl, rfl⟩
  | ended => exact ⟨.unseen h.topology rfl, h.vacant⟩
  | topology topology => exact ⟨⟨withheld topology rfl, h.seen⟩, h.vacant⟩
  | placing | serialized | source => exact h.still rfl rfl rfl

end Adrift

end Allocator

/-! ## Sessions -/

/-- No node was told of a block. -/
def Heap.Nowhere (heap : Heap) : Prop := ∀ entry ∈ heap, entry.2.node = none

theorem Heap.Nowhere.insert {heap : Heap} (h : heap.Nowhere) (name : BlockName) {known : Known}
    (nowhere : known.node = none) : Heap.Nowhere (heap.insert name known) := by
  intro entry mem
  rcases List.mem_cons.1 mem with rfl | mem
  · exact nowhere
  · exact h entry mem

theorem Heap.Nowhere.erase {heap : Heap} (h : heap.Nowhere) (name : BlockName) :
    Heap.Nowhere (heap.erase name) :=
  fun entry mem => h entry (Table.mem_of_mem_erase mem)

theorem Heap.Nowhere.written {heap : Heap} (h : heap.Nowhere) (name : BlockName) (start : Nat)
    (bytes : Bytes) : Heap.Nowhere (heap.modify name (Known.written start bytes)) := by
  induction heap with
  | nil => exact h
  | cons first rest ih =>
    have later : Nowhere rest := fun entry mem => h entry (List.mem_cons_of_mem first mem)
    have there := h first List.mem_cons_self
    simp only [Table.modify]
    split
    · exact Nowhere.insert later first.1 there
    · exact Nowhere.insert (ih later) first.1 there

theorem Asks.origin_eq {next : RegionId} {total : Nat} {calls : List Call} {origin : Option NodeId}
    (h : Asks next total [] calls (some origin)) : origin = none := by
  cases origin with
  | none => rfl
  | some node => exact absurd h.mem List.not_mem_nil

namespace Session

open Allocator (Adrift Blinded lasting_blinded)

variable [Source σ] {s t after : Session σ} {value : Value} {heap : Heap}

/-- A node that is asked for memory by a step was one of those to try. -/
theorem Performs.asked {step : Step σ} (performs : s.Performs step value after) {node : NodeId} {bytes : Nat}
    {granted : Option RegionId}
    (mem : .allocOnNode node bytes granted ∈ after.allocator.arena.calls) :
    .allocOnNode node bytes granted ∈ s.allocator.arena.calls ∨
      ∃ hint nodes a, s.allocator.targets hint = .ok (nodes, a) ∧ node ∈ nodes := by
  have made {hint : Option NodeId} {nodes : List NodeId} {a b : Allocator σ} {calls : List Call}
      (targets : s.allocator.targets hint = .ok (nodes, a)) (heard : a.arena.Heard calls b.arena)
      (tried : .allocOnNode node bytes granted ∈ calls → node ∈ nodes)
      (mem : .allocOnNode node bytes granted ∈ b.arena.calls) :
      .allocOnNode node bytes granted ∈ s.allocator.arena.calls ∨
        ∃ hint nodes a, s.allocator.targets hint = .ok (nodes, a) ∧ node ∈ nodes := by
    rw [heard.recorded, (Allocator.idle_targets targets).calls] at mem
    rcases List.mem_append.1 mem with mem | mem
    · exact .inr ⟨hint, nodes, a, targets, tried (List.mem_reverse.1 mem)⟩
    · exact .inl mem
  induction performs with
  | still quiet controls =>
    rw [controls.idle.calls] at mem
    exact .inl mem
  | refused targets refused => exact made targets refused.heard refused.mem_of_call mem
  | placed targets granted => exact made targets granted.heard granted.mem_of_call mem
  | copied targets granted written =>
    obtain ⟨origin, r, -, -, rfl, -⟩ := granted.written written
    exact made targets granted.heard granted.mem_of_call mem
  | afresh allocates ih => exact ih mem
  | kept found hr hb targets refused => exact made targets refused.heard refused.mem_of_call mem
  | replaced found hr hb targets granted => exact made targets granted.heard granted.mem_of_call mem
  | @freed name block head payload found has =>
    simp only [Arena.calls_released] at mem
    rcases List.mem_cons.1 mem with same | mem
    · unfold releaseOf at same
      split at same
      · cases same
      · cases same
    · exact .inl mem
  | written => exact .inl mem

/-- A step for which there are no nodes to try tells no node of a block. -/
theorem Performs.nowhere {step : Step σ} (sound : s.Sound) (performs : s.Performs step value after)
    (untried : ∀ hint nodes a, s.allocator.targets hint = .ok (nodes, a) → nodes = [])
    (h : heap.Nowhere) : (heap.next step value).Nowhere := by
  have vacant : (NodeSlot.ofOption none).stored.node? = none := by decide
  induction performs with
  | still quiet controls =>
    rw [quiet]
    exact h
  | refused | kept => exact h
  | placed targets granted described =>
    obtain rfl := untried _ _ _ targets
    obtain ⟨origin, found, asks, bounded, -, regions⟩ := granted.region
    obtain rfl := asks.origin_eq
    have hb := Region.isBlock_newBlock bounded none found
    rw [value_eq described (by rw [regions, Std.ExtTreeMap.getElem?_insert_self]) hb]
    exact h.insert _ vacant
  | copied targets granted written described =>
    obtain rfl := untried _ _ _ targets
    obtain ⟨origin, r, asks, -, rfl, hb⟩ := granted.written written
    obtain rfl := asks.origin_eq
    rw [value_eq described (by simp) hb]
    exact h.insert _ vacant
  | afresh _ ih =>
    rw [Heap.next_reallocate_none]
    exact ih
  | replaced found hr hb targets granted described =>
    obtain rfl := untried _ _ _ targets
    obtain ⟨origin, among, replaces⟩ :=
      granted.replaces hb (sound.ne_next (Allocator.idle_targets targets) found)
    obtain ⟨t, fitting, regions, ht, -⟩ := replaces.region
    have anywhere : origin = none := Option.eq_none_iff_forall_ne_some.2 fun node same =>
      List.not_mem_nil (among node same)
    subst anywhere
    rw [value_eq described (by rw [regions, Std.ExtTreeMap.getElem?_insert_self]) ht]
    simp only [Heap.next]
    split
    · exact (h.erase _).insert _ vacant
    · exact h
  | freed found has => exact h.erase _
  | written found hr hb inside => exact h.written _ _ _

theorem Performs.adrift {step : Step σ} (performs : s.Performs step value after) (h : s.allocator.Adrift)
    (withheld : ∀ topology, step = .changeTopology topology → topology.Withheld) :
    after.allocator.Adrift := by
  induction performs with
  | still quiet controls => exact h.controls controls withheld
  | refused targets refused | kept _ _ _ targets refused | placed targets refused
  | replaced _ _ _ targets refused | copied targets refused =>
    have agrees := refused.agrees
    exact (h.targets targets).still agrees.topology agrees.snapshot agrees.defaultSlot
  | afresh _ ih => exact ih fun _ other => by cases other
  | freed | written => exact h.still rfl rfl rfl

/-- A session in which there never were nodes to try. -/
structure Aimless (s : Session σ) (heap : Heap) : Prop where
  told : s.Told heap
  adrift : s.allocator.Adrift
  nowhere : heap.Nowhere
  unasked : ∀ call ∈ s.allocator.arena.calls, call.asksNode = false

theorem Aimless.performs {step : Step σ} (h : s.Aimless heap) (performs : s.Performs step value after)
    (withheld : ∀ topology, step = .changeTopology topology → topology.Withheld) :
    after.Aimless (heap.next step value) := by
  have untried : ∀ hint nodes a, s.allocator.targets hint = .ok (nodes, a) → nodes = [] :=
    fun _ _ _ targets => h.adrift.targets_eq targets
  obtain ⟨cells, stores, -⟩ := h.told
  refine ⟨h.told.performs performs, performs.adrift h.adrift withheld,
    performs.nowhere stores.toSound untried h.nowhere, fun call mem => ?_⟩
  cases call with
  | allocOnNode node bytes granted =>
    rcases performs.asked mem with earlier | ⟨hint, nodes, a, targets, tried⟩
    · exact h.unasked _ earlier
    · rw [untried hint nodes a targets] at tried
      exact absurd tried List.not_mem_nil
  | _ => rfl

theorem Aimless.step (h : s.Aimless heap) (step : Step σ)
    (withheld : ∀ topology, step = .changeTopology topology → topology.Withheld) :
    (s.step step).2.Aimless (heap.next step (s.step step).1.value) := by
  obtain ⟨cells, stores, -⟩ := h.told
  rcases step_cases stores.toSound step with ⟨⟨halt, halted⟩, unchanged⟩ | performs
  · rw [halted, unchanged, Heap.next_halted]
    exact h
  · exact h.performs performs withheld

theorem Aimless.run (h : s.Aimless heap) (steps : List (Step σ))
    (withheld : ∀ topology, .changeTopology topology ∈ steps → topology.Withheld) :
    (s.run steps).2.Aimless (heap.after steps (s.run steps).1) := by
  induction steps generalizing s heap with
  | nil => exact h
  | cons first rest ih =>
    refine ih (h.step first fun topology same => ?_) fun topology mem => ?_
    · exact withheld topology (same ▸ List.mem_cons_self)
    · exact withheld topology (List.mem_cons_of_mem first mem)

omit [Source σ] in
theorem Initial.aimless (made : Initial s) (withheld : s.allocator.topology.Withheld) : s.Aimless [] := by
  have nowhere : Heap.Nowhere [] := fun _ mem => absurd mem List.not_mem_nil
  cases made with
  | new topology source =>
    exact ⟨(Initial.new topology source).told, ⟨.unseen withheld rfl, rfl⟩, nowhere,
      fun _ mem => absurd mem List.not_mem_nil⟩
  | ofConfig made =>
    have told := (Initial.ofConfig made).told
    obtain ⟨policy, localDefault, usage, -, node, controls⟩ := Allocator.ofConfig_cases made
    have idle := controls.idle
    rw [controls.topology_eq (by rintro topology ⟨⟩)] at withheld
    have adrift := Adrift.controls ⟨.unseen withheld rfl, rfl⟩ controls
      (by rintro topology ⟨⟩)
    refine ⟨told, adrift, nowhere, ?_⟩
    rw [idle.calls]
    exact fun _ mem => absurd mem List.not_mem_nil

/-- No node was ever asked for memory, none is told of a block, ranked or said to be the caller's, and none is
the default node or can be made it. -/
structure Untargeted (s : Session σ) : Prop where
  calls : ∀ call ∈ s.allocator.arena.calls, call.asksNode = false
  blocks : ∀ entry ∈ s.blocks, s.allocator.blockNode entry.2 = .ok none
  ranking : s.allocator.epochRanking.map Prod.fst = .ok {}
  caller : s.allocator.currentNode.map Prod.fst = .ok none
  default : s.allocator.defaultNode = none
  refusal : ∀ node, (s.allocator.setDefaultNode node).map Prod.fst = .ok (.error (.invalidNode node 0))

omit [Source σ] in
theorem Aimless.untargeted (h : s.Aimless heap) : s.Untargeted := by
  obtain ⟨snapshot, events, surveyed, blank⟩ := h.adrift.toBlind.survey
  refine ⟨h.unasked, fun entry mem => ?_, ?_, ?_, ?_, fun node => ?_⟩
  · obtain ⟨cells, stores, told⟩ := h.told
    obtain ⟨head, payload, has⟩ := stores.live entry mem
    have read : (entry.1, s.allocator.cell entry.2) ∈ s.contents := List.mem_map_of_mem mem
    rw [stores.contents, Allocator.cell_eq has] at read
    obtain ⟨binding, there, same⟩ := List.mem_map.1 read
    have cell : binding.2 = ⟨head.size, head.node?, payload⟩ := Except.ok.inj (congrArg Prod.snd same)
    obtain ⟨known, tabled, tells⟩ := told.mem there
    have nowhere := tells.node_eq.trans (h.nowhere _ tabled)
    rw [cell] at nowhere
    rw [Allocator.blockNode_eq has]
    exact congrArg Except.ok nowhere
  · simp only [Allocator.epochRanking, surveyed, bind, Except.bind, blank.ranking]
    rfl
  · simp only [Allocator.currentNode, surveyed, bind, Except.bind, blank.unavailable]
    rfl
  · rw [Allocator.defaultNode, h.adrift.vacant, NodeSlot.node?_vacant]
  · simp only [Allocator.setDefaultNode, surveyed, bind, Except.bind, blank.addressable, Nat.not_lt_zero]
    rfl

/-- **No run on topologies that are withheld uses a node.** -/
theorem untargeted_run (made : Initial s) (withheld : s.allocator.topology.Withheld)
    (steps : List (Step σ))
    (changes : ∀ topology, .changeTopology topology ∈ steps → topology.Withheld) :
    (s.run steps).2.Untargeted :=
  ((made.aimless withheld).run steps changes).untargeted

end Session

/-! ## Two topologies -/

/-- Whether a step asks what the availability is. -/
def Step.asksAvailability : Step σ → Bool
  | .availability => true
  | _ => false

theorem Step.changesTopology_withPolicy (f : Policy → Policy) (step : Step σ) :
    (step.withPolicy f).changesTopology = step.changesTopology := by
  cases step <;> rfl

theorem Step.asksAvailability_withPolicy (f : Policy → Policy) (step : Step σ) :
    (step.withPolicy f).asksAvailability = step.asksAvailability := by
  cases step <;> rfl

/-- All is seen but the changes of the topology and what its availability is said to be. -/
def View.besidesTopology : View σ where
  skips := Step.changesTopology
  hides := Step.asksAvailability
  skips_withPolicy := Step.changesTopology_withPolicy
  hides_withPolicy := Step.asksAvailability_withPolicy

namespace Session

open Allocator (Blinded lasting_blinded)

variable [Source σ] {s t : Session σ}

/-- Two sessions that saw nothing of nodes, and in which no step makes a topology available. -/
structure Benighted (steps : List (Step σ)) (s t : Session σ) : Prop where
  alike : Alike Blinded s t
  withheld : ∀ topology, .changeTopology topology ∈ steps → topology.Withheld

theorem simulation_benighted : (View.besidesTopology (σ := σ)).Simulation id Benighted where
  alone {step rest s t} benighted changes := by
    obtain ⟨alike, withheld⟩ := benighted
    refine ⟨?_, fun topology mem => withheld topology (List.mem_cons_of_mem step mem)⟩
    cases step with
    | changeTopology topology =>
      have memory := alike.allocator
      have like := memory.like
      rcases step_changeTopology s topology with same | changed
      · rw [same]
        exact alike
      · have left : Allocator.Blind { s.allocator with topology } :=
          ⟨withheld topology List.mem_cons_self, like.left.seen⟩
        rw [changed]
        exact ⟨⟨memory.arena, memory.usage, memory.counters, left, like.right, like.policy, like.slot⟩,
          alike.blocks⟩
    | _ => cases changes
  both {step rest s t} benighted heard := by
    obtain ⟨alike, withheld⟩ := benighted
    have turned : ∀ topology, step = .changeTopology topology →
        Blinded { s.allocator with topology } { t.allocator with topology } := by
      rintro topology rfl
      cases heard
    obtain ⟨seen, later⟩ := glimpse_step alike lasting_blinded
      (fun _ => alike.allocator.like.sees View.besidesTopology rfl) (fun _ => Allocator.placing_id _)
      turned fun _ _ => rfl
    exact ⟨seen, later, fun topology mem => withheld topology (List.mem_cons_of_mem step mem)⟩

/-- **Topologies that are withheld look the same.** An allocator on either of two such topologies, with the same
configuration, is made or refused alike; and of runs that differ only in how the topology changes, and never to
an available one, nothing can tell the two apart but what the availability is said to be, and the log. In
neither of them a node is ever used. -/
theorem withheld_topologies_look_the_same {t u : Topology} (ht : t.Withheld) (hu : u.Withheld) (source : σ)
    (config : Config) :
    Matched
      (fun x y => y.1 = x.1 ∧ (x.1 = .ok () → ∀ steps others : List (Step σ),
        (∀ topology, .changeTopology topology ∈ steps ++ others → topology.Withheld) →
        View.besidesTopology.heard steps = View.besidesTopology.heard others →
          View.besidesTopology.shown { allocator := x.2 } steps =
              View.besidesTopology.shown { allocator := y.2 } others ∧
            (Session.run { allocator := x.2 } steps).2.Untargeted ∧
            (Session.run { allocator := y.2 } others).2.Untargeted))
      (Allocator.ofConfig t source config) (Allocator.ofConfig u source config) := by
  have fresh (policy : Policy) (localDefault : Bool) (usage : Usage) : Blinded
      { Allocator.new t source with policyByte := policy.byte, localDefault, usage }
      { Allocator.new u source with policyByte := policy.byte, localDefault, usage } :=
    ⟨.unseen ht rfl, .unseen hu rfl, rfl, rfl⟩
  have alike := Allocator.ofConfig_alike lasting_blinded (fun like => like.sees View.besidesTopology rfl)
    config fresh
  refine alike.known.imp fun x y related => ⟨related.2.2.1, fun accepted steps others withheld same => ?_⟩
  obtain ⟨answer, a⟩ := x
  obtain ⟨answer', b⟩ := y
  obtain ⟨made, made', rfl, alike⟩ := related
  obtain rfl : answer' = .ok () := accepted
  have left := fun topology mem => withheld topology (List.mem_append_left others mem)
  have right := fun topology mem => withheld topology (List.mem_append_right steps mem)
  have both := alike rfl
  have like := both.like
  refine ⟨?_, untargeted_run (.ofConfig made) like.left.topology steps left,
    untargeted_run (.ofConfig made') like.right.topology others right⟩
  -- Neither run has the changes of the topology that the other has, so both are followed by a third session.
  have itself : Allocator.Alike Blinded b b := ⟨rfl, rfl, rfl, like.right, like.right, rfl, rfl⟩
  exact simulation_benighted.shown_congr (u := { allocator := b }) ⟨⟨both, rfl⟩, left⟩
    ⟨⟨itself, rfl⟩, right⟩ same

/-- Two nodes, both of them absent. -/
def deserted : MatrixTopology := { state := .available, rows := [[10, 20], [20, 10]], absent := [0, 1] }

/-- A machine that tells of a node and of a caller on it, but not that nodes can be used. -/
def shy : Topology where
  availability := .unavailable
  maxNode := some 3
  nodes := [3]
  callerNode := .ok (some 3)
  distance _ _ := localDistance

/-- A configuration that asks for the caller's node as the default one, and for the nodes by their ranking. -/
def nearby : Config := { policy := .distanceFirst, localDefault := true }

/-- What would use a node if there were one. -/
def seeking : List (Step Scripted) :=
  [.allocate false 0 8 (some 1), .setDefaultNode 0, .currentNode, .ranking]

/-- Hints, a default node and a caller on a node are of no use, with one topology as with the other. -/
theorem shown_on_deserted :
    deserted.topology.Withheld ∧ shy.Withheld ∧
      ∃ a b : Allocator Scripted, Allocator.ofConfig deserted.topology {} nearby = .ok (.ok (), a) ∧
        Allocator.ofConfig shy {} nearby = .ok (.ok (), b) ∧
        View.besidesTopology.shown { allocator := a } seeking =
          View.besidesTopology.shown { allocator := b } (.changeTopology deserted.topology :: seeking) := by
  have ht : deserted.topology.Withheld :=
    MatrixTopology.withheld (MatrixTopology.isAvailable_of_nodes (by decide +kernel))
  have hu : shy.Withheld := ⟨rfl, _, rfl⟩
  have law := withheld_topologies_look_the_same (σ := Scripted) ht hu {} nearby
  obtain ⟨a, made⟩ : ∃ a : Allocator Scripted,
      Allocator.ofConfig deserted.topology {} nearby = .ok (.ok (), a) := ⟨_, rfl⟩
  obtain ⟨b, made'⟩ : ∃ b : Allocator Scripted, Allocator.ofConfig shy {} nearby = .ok (.ok (), b) :=
    ⟨_, rfl⟩
  have withheld : ∀ topology,
      .changeTopology topology ∈ seeking ++ .changeTopology deserted.topology :: seeking →
        topology.Withheld := by
    intro topology mem
    simp only [seeking, List.mem_append, List.mem_cons, reduceCtorEq, List.not_mem_nil, false_or, or_false,
      Step.changeTopology.injEq] at mem
    rw [mem]
    exact ht
  rw [made, made'] at law
  cases law with
  | ok related => exact ⟨ht, hu, a, b, made, made', (related.2 rfl _ _ withheld rfl).1⟩

end Session

end NodeHeap
