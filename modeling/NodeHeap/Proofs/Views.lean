import NodeHeap.Proofs.EpochLaw

/-!
# Views of a run

Two runs look the same if one does not look too closely: the answers to some steps are left out, or the values
in them, and the log always.

* `View`, `View.shown` — how closely one looks, and what a run shows then.
* `View.Simulation`, `Simulation.shown_eq` — two sessions that take their steps together, but for those whose
  answers are left out, show the same.
* `Allocator.Lasting`, `Allocator.Sees` — what two allocators have in common whatever is done to both of them,
  and two looks at the topology that show the same.
* `Allocator.ofConfig_alike` — two allocators with a configuration that begin alike.
* `Session.performsShowing`, `Session.glimpse_step` — a step that needs no look, or two such looks, shows the
  same of both.
-/

namespace NodeHeap

variable {σ : Type}

/-! ## Other policies -/

namespace Policy

/-- Two policies propose the same nodes where the ranking is in this order. -/
def SameOn (order : List NodeId) (p q : Policy) : Prop :=
  ∀ context : PlacementContext, context.ranking = order → q.strategy context = p.strategy context

theorem SameOn.refl (order : List NodeId) (p : Policy) : SameOn order p p := fun _ _ => rfl

theorem SameOn.targets {p q : Policy} {context : PlacementContext} (same : SameOn context.ranking p q) :
    q.targets context = p.targets context := by
  simp only [Policy.targets, same context rfl]

end Policy

/-- The configuration with another policy for each. -/
def Config.withPolicy (f : Policy → Policy) (config : Config) : Config :=
  { config with policy := f config.policy }

theorem Config.validate_withPolicy (f : Policy → Policy) (config : Config) :
    (config.withPolicy f).validate = config.validate.map (Config.withPolicy f) := by
  simp only [validate, apply_ite (Except.map (Config.withPolicy f))]
  rfl

namespace Step

/-- The step with another policy for each that it names. -/
def withPolicy (f : Policy → Policy) : Step σ → Step σ
  | .setPolicy p => .setPolicy (f p)
  | .install config => .install (config.map (Config.withPolicy f))
  | step => step

theorem withPolicy_of_handles {step : Step σ} (h : step.handles = true) (f : Policy → Policy) :
    step.withPolicy f = step := by
  cases step with
  | setPolicy | install => cases h
  | _ => rfl

theorem constant_withPolicy (f : Policy → Policy) (step : Step σ) :
    (fun _ => false) (step.withPolicy f) = (fun _ : Step σ => false) step := rfl

end Step

/-! ## Views -/

/-- How closely the answers to steps are looked at. Which policy a step names does not matter. -/
structure View (σ : Type) where
  /-- The steps whose answers are left out. -/
  skips : Step σ → Bool := fun _ => false
  /-- The steps that are answered with a value that is left out. -/
  hides : Step σ → Bool := fun _ => false
  skips_withPolicy : ∀ f step, skips (step.withPolicy f) = skips step
  hides_withPolicy : ∀ f step, hides (step.withPolicy f) = hides step

namespace View

variable {view : View σ} {step : Step σ} {rest : List (Step σ)}

/-- What is seen of the answer to a step. The log is not. -/
def glimpse (view : View σ) (step : Step σ) (answer : Answer) : Option Answer :=
  if view.skips step then none
  else some { answer with
    value := if view.hides step then .unit else answer.value
    events := [] }

/-- The steps whose answers are seen. -/
def heard (view : View σ) (steps : List (Step σ)) : List (Step σ) :=
  steps.filter fun step => !view.skips step

/-- What is seen of a run. -/
def shown [Source σ] (view : View σ) (s : Session σ) (steps : List (Step σ)) : List Answer :=
  (steps.zip (s.run steps).1).filterMap fun entry => view.glimpse entry.1 entry.2

theorem glimpse_withPolicy (f : Policy → Policy) (step : Step σ) (answer : Answer) :
    view.glimpse (step.withPolicy f) answer = view.glimpse step answer := by
  simp only [glimpse, view.skips_withPolicy, view.hides_withPolicy]

theorem heard_cons_of_skips (skips : view.skips step = true) :
    view.heard (step :: rest) = view.heard rest :=
  List.filter_cons_of_neg (by rw [skips]; decide)

theorem heard_cons (heard : view.skips step = false) :
    view.heard (step :: rest) = step :: view.heard rest :=
  List.filter_cons_of_pos (by rw [heard]; decide)

/-- A view that skips nothing leaves no step out. -/
theorem heard_eq (none : ∀ step, view.skips step = false) (steps : List (Step σ)) :
    view.heard steps = steps :=
  List.filter_eq_self.2 fun step _ => by rw [none step]; rfl

variable [Source σ] {s t : Session σ}

theorem shown_cons (s : Session σ) (step : Step σ) (rest : List (Step σ)) :
    view.shown s (step :: rest) =
      (view.glimpse step (s.step step).1).toList ++ view.shown (s.step step).2 rest := by
  simp only [shown, Session.run, List.zip_cons_cons, List.filterMap_cons]
  cases view.glimpse step (s.step step).1 <;> rfl

theorem shown_cons_of_skips (skips : view.skips step = true) :
    view.shown s (step :: rest) = view.shown (s.step step).2 rest := by
  have unseen : view.glimpse step (s.step step).1 = none := if_pos skips
  rw [shown_cons, unseen]
  rfl

/-- Two sessions, the first of which has certain steps to take: those that the view skips it takes alone, and
each other one together with the second session, which takes it with other policies. -/
structure Simulation (view : View σ) (f : Policy → Policy)
    (Rel : List (Step σ) → Session σ → Session σ → Prop) : Prop where
  alone : ∀ {step : Step σ} {rest : List (Step σ)} {s t : Session σ}, Rel (step :: rest) s t →
    view.skips step = true → Rel rest (s.step step).2 t
  both : ∀ {step : Step σ} {rest : List (Step σ)} {s t : Session σ}, Rel (step :: rest) s t →
    view.skips step = false →
      view.glimpse step (t.step (step.withPolicy f)).1 = view.glimpse step (s.step step).1 ∧
        Rel rest (s.step step).2 (t.step (step.withPolicy f)).2

/-- **Two sessions that take their steps together show the same.** -/
theorem Simulation.shown_eq {f : Policy → Policy}
    {Rel : List (Step σ) → Session σ → Session σ → Prop} (sim : view.Simulation f Rel)
    {steps : List (Step σ)} (related : Rel steps s t) :
    view.shown t ((view.heard steps).map (Step.withPolicy f)) = view.shown s steps := by
  -- Both sessions move on, but the relation is always about the steps that the first one has yet to take.
  induction steps generalizing s t with
  | nil => rfl
  | cons step rest ih =>
    cases skips : view.skips step with
    | true =>
      rw [heard_cons_of_skips skips, shown_cons_of_skips skips]
      exact ih (sim.alone related skips)
    | false =>
      obtain ⟨seen, later⟩ := sim.both related skips
      rw [heard_cons skips, List.map_cons, shown_cons, shown_cons, glimpse_withPolicy, seen, ih later]

/-- **Nor can two sessions be told apart by runs that are heard the same.** -/
theorem Simulation.shown_congr {Rel : List (Step σ) → Session σ → Session σ → Prop}
    (sim : view.Simulation id Rel) {steps others : List (Step σ)} {u : Session σ}
    (left : Rel steps s u) (right : Rel others t u) (same : view.heard steps = view.heard others) :
    view.shown s steps = view.shown t others := by
  rw [← sim.shown_eq left, ← sim.shown_eq right, same]

end View

/-! ## What lasts -/

namespace Allocator

variable {f : Policy → Policy} {view : View σ} {like : Allocator σ → Allocator σ → Prop}
  {a b : Allocator σ}

/-- What two allocators have in common lasts whatever is done to both of them, to the second one with other
policies. Memory, books and log do not matter to it. -/
structure Lasting (f : Policy → Policy) (like : Allocator σ → Allocator σ → Prop) : Prop where
  books : ∀ {a b : Allocator σ}, like a b →
    ∀ arena arena' usage usage' counters counters' events events',
      like { a with arena, usage, counters, events }
        { b with arena := arena', usage := usage', counters := counters', events := events' }
  placing : ∀ {a b : Allocator σ}, like a b → ∀ policy,
    like { a with policyByte := policy.byte } { b with policyByte := (f policy).byte }
  defaulted : ∀ {a b : Allocator σ}, like a b → ∀ defaultSlot,
    like { a with defaultSlot } { b with defaultSlot }
  forgotten : ∀ {a b : Allocator σ}, like a b →
    like { a with snapshot := none } { b with snapshot := none }
  slot : ∀ {a b : Allocator σ}, like a b → b.defaultSlot = a.defaultSlot
  policy : ∀ {a b : Allocator σ}, like a b → b.policy = f a.policy

namespace Lasting

theorem told (lasting : Lasting f like) (h : like a b) (events events' : List Event) :
    like { a with events } { b with events := events' } :=
  lasting.books h a.arena b.arena a.usage b.usage a.counters b.counters events events'

theorem steady (lasting : Lasting f like) : Steady like where
  books {a b} h arena arena' usage usage' counters counters' :=
    lasting.books h arena arena' usage usage' counters counters' a.events b.events
  note {a b} event h := lasting.told h (event :: a.events) (event :: b.events)

end Lasting

theorem Alike.told (h : Alike like a b) (lasting : Lasting f like) (events events' : List Event) :
    Alike like { a with events } { b with events := events' } :=
  ⟨h.arena, h.usage, h.counters, lasting.told h.like events events'⟩

/-- Two looks at the topology show the same, as far as it can be seen. -/
structure Sees (view : View σ) (like : Allocator σ → Allocator σ → Prop)
    (x y : Snapshot × Allocator σ) : Prop where
  like : like x.2 y.2
  addressable : y.1.addressable = x.1.addressable
  ranking : y.1.ranking = x.1.ranking
  gate : y.1.availability.isAvailable = x.1.availability.isAvailable
  availability : view.hides .availability = false → y.1.availability = x.1.availability
  caller : x.1.availability.isAvailable = true → y.2.topology.callerNode = x.2.topology.callerNode

/-- Who looks changes neither memory nor books. -/
theorem Alike.survey_of_sees (h : Alike like a b)
    (looked : Matched (Sees view like) a.survey b.survey) :
    Matched (fun x y => a.survey = .ok x ∧ Sees view like x y ∧ Alike like x.2 y.2)
      a.survey b.survey := by
  refine looked.known.imp fun x y related => ?_
  obtain ⟨surveyed, surveyed', sees⟩ := related
  refine ⟨surveyed, sees, ?_, ?_, ?_, sees.like⟩
  · rw [survey_spec surveyed, survey_spec surveyed']
    exact h.arena
  · rw [survey_spec surveyed, survey_spec surveyed']
    exact h.usage
  · rw [survey_spec surveyed, survey_spec surveyed']
    exact h.counters

/-- The other policy proposes the same, as the ranking is that a look shows. -/
def Placing (f : Policy → Policy) (a : Allocator σ) : Prop :=
  ∀ snapshot b, a.survey = .ok (snapshot, b) → Policy.SameOn snapshot.ranking.order a.policy (f a.policy)

theorem placing_id (a : Allocator σ) : Placing id a := fun _ _ _ => .refl _ _

/-- Two looks that show the same have the same nodes tried. -/
theorem Alike.targets_of_sees (h : Alike like a b) (lasting : Lasting f like) (placing : Placing f a)
    (looked : Matched (Sees view like) a.survey b.survey) (hint : Option NodeId) :
    Matched (Alike.Giving like) (a.targets hint) (b.targets hint) := by
  refine (h.survey_of_sees looked).bind fun x y related => ?_
  obtain ⟨snapshot, a'⟩ := x
  obtain ⟨snapshot', b'⟩ := y
  obtain ⟨surveyed, sees, alike⟩ := related
  have addressable : snapshot'.addressable = snapshot.addressable := sees.addressable
  have ranking : snapshot'.ranking = snapshot.ranking := sees.ranking
  have gate : snapshot'.availability.isAvailable = snapshot.availability.isAvailable := sees.gate
  have slot : b'.defaultSlot = a'.defaultSlot := lasting.slot alike.like
  have decoded : Policy.ofByte b'.policyByte = f a'.policy := lasting.policy alike.like
  have same : Policy.SameOn snapshot.ranking.order a'.policy (f a'.policy) := by
    have kept : a'.policy = a.policy := by
      rw [survey_spec surveyed]
      rfl
    rw [kept]
    exact placing snapshot a' surveyed
  obtain ⟨events, checked⟩ := checkHint_spec a' snapshot hint
  obtain ⟨events', checked'⟩ := checkHint_spec b' snapshot' hint
  simp only [checked, checked', context, defaultNode, addressable, ranking, gate]
  refine .ok ⟨?_, alike.told lasting events events'⟩
  simp only [slot, Allocator.policy, decoded]
  exact same.targets

/-- To another default node both go alike, or neither does. -/
theorem Alike.setDefaultNode_of_sees (h : Alike like a b) (lasting : Lasting f like)
    (looked : Matched (Sees view like) a.survey b.survey) (node : NodeId) :
    Matched (Alike.Giving like) (a.setDefaultNode node) (b.setDefaultNode node) := by
  refine (h.survey_of_sees looked).bind fun x y related => ?_
  obtain ⟨snapshot, a'⟩ := x
  obtain ⟨snapshot', b'⟩ := y
  obtain ⟨-, sees, alike⟩ := related
  have addressable : snapshot'.addressable = snapshot.addressable := sees.addressable
  simp only [addressable]
  split
  · have defaulted : Alike like { a' with defaultSlot := .holding node }
        { b' with defaultSlot := .holding node } :=
      ⟨alike.arena, alike.usage, alike.counters, lasting.defaulted alike.like _⟩
    exact .ok ⟨rfl, defaulted.note lasting.steady _⟩
  · exact .ok ⟨rfl, alike.note lasting.steady _⟩

theorem Alike.currentNode_of_sees (h : Alike like a b)
    (looked : Matched (Sees view like) a.survey b.survey) :
    Matched (Alike.Giving like) a.currentNode b.currentNode := by
  refine (h.survey_of_sees looked).bind fun x y related => ?_
  obtain ⟨snapshot, a'⟩ := x
  obtain ⟨snapshot', b'⟩ := y
  obtain ⟨-, sees, alike⟩ := related
  have gate : snapshot'.availability.isAvailable = snapshot.availability.isAvailable := sees.gate
  simp only [gate]
  split
  · rename_i available
    have caller : b'.topology.callerNode = a'.topology.callerNode := sees.caller available
    rw [caller]
    exact .after _ fun node => .ok ⟨rfl, alike⟩
  · exact .ok ⟨rfl, alike⟩

theorem Alike.epochRanking_of_sees (h : Alike like a b)
    (looked : Matched (Sees view like) a.survey b.survey) :
    Matched (Alike.Giving like) a.epochRanking b.epochRanking :=
  (h.survey_of_sees looked).bind fun _ _ related => .ok ⟨related.2.1.ranking, related.2.2⟩

theorem Alike.epochAvailability_of_sees (h : Alike like a b)
    (looked : Matched (Sees view like) a.survey b.survey) :
    Matched (fun x y => (view.hides .availability = false → y.1 = x.1) ∧ Alike like x.2 y.2)
      a.epochAvailability b.epochAvailability :=
  (h.survey_of_sees looked).bind fun _ _ related => .ok ⟨related.2.1.availability, related.2.2⟩

theorem setPolicy_spec (a : Allocator σ) (policy : Policy) :
    ∃ events, a.setPolicy policy = { a with policyByte := policy.byte, events } := by
  simp only [Allocator.setPolicy]
  split
  · exact ⟨a.events, rfl⟩
  · exact ⟨_, rfl⟩

theorem Alike.setPolicy_of_lasting (h : Alike like a b) (lasting : Lasting f like) (policy : Policy) :
    Alike like (a.setPolicy policy) (b.setPolicy (f policy)) := by
  obtain ⟨events, eq⟩ := setPolicy_spec a policy
  obtain ⟨events', eq'⟩ := setPolicy_spec b (f policy)
  rw [eq, eq']
  have placing : Alike like { a with policyByte := policy.byte } { b with policyByte := (f policy).byte } :=
    ⟨h.arena, h.usage, h.counters, lasting.placing h.like policy⟩
  exact placing.told lasting events events'

theorem shutdown_spec (a : Allocator σ) :
    ∃ events, a.shutdown = { a with snapshot := none, events } := by
  simp only [Allocator.shutdown]
  split
  · exact ⟨_, rfl⟩
  · exact ⟨_, rfl⟩

theorem Alike.ended_of_lasting (h : Alike like a b) (lasting : Lasting f like)
    (events events' : List Event) :
    Alike like { a with snapshot := none, events } { b with snapshot := none, events := events' } := by
  have forgotten : Alike like { a with snapshot := none } { b with snapshot := none } :=
    ⟨h.arena, h.usage, h.counters, lasting.forgotten h.like⟩
  exact forgotten.told lasting events events'

/-- **A configuration makes allocators that are alike**, or is refused alike, if the allocators are so before
their default nodes are set. -/
theorem ofConfig_alike (lasting : Lasting f like)
    (looked : ∀ {a b : Allocator σ}, like a b → Matched (Sees view like) a.survey b.survey)
    {t u : Topology} {source : σ} (config : Config)
    (fresh : ∀ policy localDefault usage,
      like { Allocator.new t source with policyByte := Policy.byte policy, localDefault, usage }
        { Allocator.new u source with policyByte := (f policy).byte, localDefault, usage }) :
    Matched (fun x y => y.1 = x.1 ∧ (x.1 = .ok () → Alike like x.2 y.2))
      (ofConfig t source config) (ofConfig u source (config.withPolicy f)) := by
  simp only [ofConfig, Config.validate_withPolicy]
  cases config.validate with
  | error error => exact .ok ⟨rfl, fun made => by cases made⟩
  | ok config =>
    simp only [Except.map, Config.withPolicy]
    generalize config.defaultNode = named
    have alike (usage : Usage) : Alike like
        { Allocator.new t source with
          policyByte := config.policy.byte, localDefault := config.localDefault, usage }
        { Allocator.new u source with
          policyByte := (f config.policy).byte, localDefault := config.localDefault, usage } :=
      ⟨rfl, rfl, rfl, fresh config.policy config.localDefault usage⟩
    cases named with
    | none => exact .ok ⟨rfl, fun _ => alike _⟩
    | some node =>
      have set (usage : Usage) :=
        (alike usage).setDefaultNode_of_sees lasting (looked (alike usage).like) node
      exact (set _).imp fun x y related => ⟨related.1, fun _ => related.2⟩

end Allocator

/-! ## Steps -/

namespace Session

open Allocator (Lasting Sees Placing)

variable {f : Policy → Policy} {view : View σ} {like : Allocator σ → Allocator σ → Prop}
  {s t : Session σ}

/-- The same value, unless it is left out, and sessions that are alike. -/
def Alike.Showing (hidden : Bool) (like : Allocator σ → Allocator σ → Prop)
    (x y : Value × Session σ) : Prop :=
  (hidden = false → y.1 = x.1) ∧ Alike like x.2 y.2

theorem Alike.Giving.showing {hidden : Bool} {x y : Value × Session σ} (h : Alike.Giving like x y) :
    Alike.Showing hidden like x y :=
  ⟨fun _ => h.1, h.2⟩

variable [Source σ]

/-- **A step shows the same of two sessions** if it needs no look at the topology, or two looks that show the
same. -/
theorem performsShowing (h : Alike like s t) (lasting : Lasting f like) {step : Step σ}
    (looked : step.looks = true → Matched (Sees view like) s.allocator.survey t.allocator.survey)
    (placing : step.requests = true → Placing f s.allocator)
    (turned : ∀ topology, step = .changeTopology topology →
      like { s.allocator with topology } { t.allocator with topology })
    (policies : view.hides .policy = false → ∀ policy, f policy = policy) :
    Matched (Alike.Showing (view.hides step) like) (s.perform step) (t.perform (step.withPolicy f)) := by
  have all {x y : Except Halt (Value × Session σ)} (given : Matched (Alike.Giving like) x y) :
      Matched (Alike.Showing (view.hides step) like) x y :=
    given.imp fun _ _ related => related.showing
  have memory := h.allocator
  -- What is about blocks is done alike wherever the nodes to try are the same; the rest is seen step by step.
  by_cases handles : step.handles = true
  · rw [Step.withPolicy_of_handles handles]
    refine all (performsAlike_of_handles h lasting.steady (fun requests => ?_) handles)
    exact memory.targets_of_sees lasting (placing requests) (looked (Step.looks_of_requests requests))
  · cases step with
    | setPolicy policy => exact all (.ok (h.answering (memory.setPolicy_of_lasting lasting policy) _))
    | setDefaultNode node =>
      refine all ((memory.setDefaultNode_of_sees lasting (looked rfl) node).bind fun x y related => ?_)
      obtain ⟨answer, a⟩ := x
      obtain ⟨answer', b⟩ := y
      obtain ⟨rfl, alike⟩ : answer' = answer ∧ Allocator.Alike like a b := related
      exact .ok (h.answering alike _)
    | clearDefaultNode =>
      refine all (.ok (h.answering ?_ _))
      exact ⟨memory.arena, memory.usage, memory.counters, lasting.defaulted memory.like _⟩
    | resetTopology => exact all (.ok (h.answering (memory.ended_of_lasting lasting _ _) _))
    | shutdown =>
      obtain ⟨events, eq⟩ := Allocator.shutdown_spec s.allocator
      obtain ⟨events', eq'⟩ := Allocator.shutdown_spec t.allocator
      refine all (.ok (h.answering ?_ _))
      rw [eq, eq']
      exact memory.ended_of_lasting lasting events events'
    | serialize => exact all (.ok (h.answering (memory.serialize lasting.steady) _))
    | policy =>
      refine .ok ⟨fun hidden => ?_, h⟩
      exact congrArg Value.policy ((lasting.policy memory.like).trans (policies hidden _))
    | defaultNode => exact all (.ok ⟨congrArg (Value.node ·.node?) (lasting.slot memory.like), h⟩)
    | currentNode =>
      refine all ((memory.currentNode_of_sees (looked rfl)).bind fun x y related => ?_)
      exact .ok ⟨congrArg Value.node related.1, related.2, h.blocks⟩
    | availability =>
      refine (memory.epochAvailability_of_sees (looked rfl)).bind fun x y related => ?_
      exact .ok ⟨fun hidden => congrArg Value.availability (related.1 hidden), related.2, h.blocks⟩
    | ranking =>
      refine all ((memory.epochRanking_of_sees (looked rfl)).bind fun x y related => ?_)
      exact .ok ⟨congrArg Value.ranking related.1, related.2, h.blocks⟩
    | isSerialized => exact all (.ok ⟨congrArg (Value.flag ·.serialized) memory.usage, h⟩)
    | changeTopology topology =>
      refine all (.ok (h.answering ?_ _))
      exact ⟨memory.arena, memory.usage, memory.counters, turned topology rfl⟩
    | install config =>
      cases config with
      | error error => exact all (.ok ⟨rfl, h⟩)
      | ok config => exact all (.ok ⟨rfl, h⟩)
    | _ => exact absurd rfl handles

/-- What is seen of the answer to such a step is the same. -/
theorem glimpse_step (h : Alike like s t) (lasting : Lasting f like) {step : Step σ}
    (looked : step.looks = true → Matched (Sees view like) s.allocator.survey t.allocator.survey)
    (placing : step.requests = true → Placing f s.allocator)
    (turned : ∀ topology, step = .changeTopology topology →
      like { s.allocator with topology } { t.allocator with topology })
    (policies : view.hides .policy = false → ∀ policy, f policy = policy) :
    view.glimpse step (t.step (step.withPolicy f)).1 = view.glimpse step (s.step step).1 ∧
      Alike like (s.step step).2 (t.step (step.withPolicy f)).2 := by
  have seen {after after' : Session σ} (later : Alike like after after') {value value' : Value}
      (same : view.hides step = false → value' = value) :
      view.glimpse step (answer t after' value') = view.glimpse step (answer s after value) := by
    simp only [View.glimpse, answer, Allocator.usedBytes, later.allocator.usage,
      later.allocator.counters, later.allocator.arena, h.allocator.arena]
    split
    · rfl
    · cases hidden : view.hides step with
      | true => rfl
      | false => rw [same hidden]
  have attempted := attemptAlike (fun x y related => related.2.allocator.arena)
    (performsShowing h lasting looked placing turned policies)
  simp only [Session.step_eq]
  generalize s.attempt step = x at attempted
  generalize t.attempt (step.withPolicy f) = y at attempted
  cases attempted with
  | error halt => exact ⟨seen h fun _ => rfl, h⟩
  | @ok v w related =>
    obtain ⟨value, after⟩ := v
    obtain ⟨value', after'⟩ := w
    exact ⟨seen related.2 related.1, related.2⟩

end Session

end NodeHeap
