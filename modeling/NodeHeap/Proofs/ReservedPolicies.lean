import NodeHeap.Proofs.Views

/-!
# Reserved policies

Two of the policies are reserved, and place blocks as the default one does. Where no node is ranked, so does
the policy that goes by the ranking.

* `Policy.plain`, `Policy.unranked` — the policies that stand for these.
* `Allocator.Repolicied` — two allocators that differ in nothing but the policy, and the log.
* `Session.RanksBy` — what is known of each ranking by which a request of a run is placed.
* `shown_repolicied` — runs in which other policies propose the same nodes show the same.
* `reserved_policies_are_default` — so it is for the reserved policies in every run, and for all policies while
  no node is ranked.
-/

namespace NodeHeap

variable {σ : Type}

namespace Policy

/-- The default policy for each one that is reserved. -/
def plain : Policy → Policy
  | roundRobin | balanced => default
  | policy => policy

/-- The default policy for the one that goes by the ranking. -/
def unranked : Policy → Policy
  | distanceFirst => default
  | policy => policy

theorem sameOn_plain (order : List NodeId) (policy : Policy) : SameOn order policy policy.plain := by
  intro context _
  cases policy <;> rfl

theorem sameOn_nil (p q : Policy) : SameOn [] p q := by
  intro context unranked
  simp only [Allocator.strategy_eq, unranked, ne_eq, not_true_eq_false, and_false, if_false]

end Policy

/-- Whether a step asks which policy there is. -/
def Step.asksPolicy : Step σ → Bool
  | .policy => true
  | _ => false

theorem Step.asksPolicy_withPolicy (f : Policy → Policy) (step : Step σ) :
    (step.withPolicy f).asksPolicy = step.asksPolicy := by
  cases step <;> rfl

/-- All is seen but which policy there is. -/
def View.besidesPolicy : View σ where
  hides := Step.asksPolicy
  skips_withPolicy := Step.constant_withPolicy
  hides_withPolicy := Step.asksPolicy_withPolicy

namespace Allocator

variable {f : Policy → Policy} {a b : Allocator σ}

/-- The second allocator has another policy. All else but memory, books and log is the same. -/
structure Repolicied (f : Policy → Policy) (a b : Allocator σ) : Prop where
  topology : b.topology = a.topology
  snapshot : b.snapshot = a.snapshot
  slot : b.defaultSlot = a.defaultSlot
  localDefault : b.localDefault = a.localDefault
  policy : b.policy = f a.policy

/-- A policy that is kept in its byte comes back as itself, and so does the one that stands for it. -/
theorem decoded_byte (f : Policy → Policy) (policy : Policy) :
    Policy.ofByte (f policy).byte = f (Policy.ofByte policy.byte) := by
  rw [Policy.ofByte_byte, Policy.ofByte_byte]

theorem lasting_repolicied (f : Policy → Policy) : Lasting (σ := σ) f (Repolicied f) where
  books h _ _ _ _ _ _ _ _ := ⟨h.topology, h.snapshot, h.slot, h.localDefault, h.policy⟩
  placing h policy := ⟨h.topology, h.snapshot, h.slot, h.localDefault, decoded_byte f policy⟩
  defaulted h _ := ⟨h.topology, h.snapshot, rfl, h.localDefault, h.policy⟩
  forgotten h := ⟨h.topology, rfl, h.slot, h.localDefault, h.policy⟩
  slot h := h.slot
  policy h := h.policy

theorem Repolicied.beginEpoch (h : Repolicied f a b) (snapshot : Snapshot) :
    Repolicied f (a.beginEpoch snapshot) (b.beginEpoch snapshot) := by
  simp only [Allocator.beginEpoch, Allocator.adopt, Allocator.note, defaultNode, h.slot, h.localDefault]
  split
  · exact ⟨h.topology, rfl, rfl, rfl, h.policy⟩
  · exact ⟨h.topology, rfl, rfl, rfl, h.policy⟩

/-- **To a look at the topology the policy makes no difference.** -/
theorem Repolicied.sees (h : Repolicied f a b) (view : View σ) :
    Matched (Sees view (Repolicied f)) a.survey b.survey := by
  have caller (c d : Allocator σ) (later : Repolicied f c d) :
      d.topology.callerNode = c.topology.callerNode := by rw [later.topology]
  cases held : a.snapshot with
  | some snapshot =>
    rw [survey_of_snapshot held, survey_of_snapshot (h.snapshot.trans held)]
    exact .ok ⟨h, rfl, rfl, rfl, fun _ => rfl, fun _ => caller _ _ h⟩
  | none =>
    simp only [Allocator.survey, held, h.snapshot, h.topology]
    refine .after _ fun snapshot => .ok ?_
    have later := h.beginEpoch snapshot
    exact ⟨later, rfl, rfl, rfl, fun _ => rfl, fun _ => caller _ _ later⟩

end Allocator

namespace Session

open Allocator (Repolicied lasting_repolicied)

variable [Source σ] {f : Policy → Policy} {P : Ranking → Prop} {s t : Session σ}
  {steps : List (Step σ)}

/-- Every ranking that there is when a step of the run asks for a block is of a certain kind. -/
def RanksBy (P : Ranking → Prop) (s : Session σ) : List (Step σ) → Prop
  | [] => True
  | step :: rest =>
    (step.requests = true → ∀ ranking a, s.allocator.epochRanking = .ok (ranking, a) → P ranking) ∧
      (s.step step).2.RanksBy P rest

theorem ranksBy_all (always : ∀ ranking, P ranking) (s : Session σ) (steps : List (Step σ)) :
    s.RanksBy P steps := by
  induction steps generalizing s with
  | nil => trivial
  | cons step rest ih => exact ⟨fun _ ranking _ _ => always ranking, ih _⟩

/-- Two sessions that differ in nothing but the policy, of which the first has rankings of a certain kind. -/
structure Reranked (f : Policy → Policy) (P : Ranking → Prop) (steps : List (Step σ))
    (s t : Session σ) : Prop where
  alike : Alike (Repolicied f) s t
  ranks : s.RanksBy P steps

theorem simulation_reranked (agree : ∀ ranking, P ranking → ∀ p, Policy.SameOn ranking.order p (f p)) :
    (View.besidesPolicy (σ := σ)).Simulation f (Reranked f P) where
  alone _ skipped := by cases skipped
  both {step rest s t} reranked _ := by
    obtain ⟨alike, known, later⟩ := reranked
    have like := alike.allocator.like
    have placing (requests : step.requests = true) : Allocator.Placing f s.allocator := by
      intro snapshot b surveyed
      refine agree snapshot.ranking (known requests snapshot.ranking b ?_) s.allocator.policy
      simp only [Allocator.epochRanking, surveyed]
      rfl
    have turned : ∀ topology, step = .changeTopology topology →
        Repolicied f { s.allocator with topology } { t.allocator with topology } :=
      fun _ _ => ⟨rfl, like.snapshot, like.slot, like.localDefault, like.policy⟩
    obtain ⟨seen, alike⟩ := glimpse_step alike (lasting_repolicied f)
      (fun _ => like.sees View.besidesPolicy) placing turned fun shown => by cases shown
    exact ⟨seen, alike, later⟩

/-- **Runs in which other policies propose the same nodes show the same.** -/
theorem shown_repolicied (agree : ∀ ranking, P ranking → ∀ p, Policy.SameOn ranking.order p (f p))
    (alike : Alike (Repolicied f) s t) (ranks : s.RanksBy P steps) :
    View.besidesPolicy.shown t (steps.map (Step.withPolicy f)) = View.besidesPolicy.shown s steps := by
  have same := (simulation_reranked agree).shown_eq ⟨alike, ranks⟩
  rwa [View.heard_eq fun _ => rfl] at same

def withPolicy (f : Policy → Policy) (s : Session σ) : Session σ :=
  { s with allocator := { s.allocator with policyByte := (f s.allocator.policy).byte } }

/-- What a run shows of an allocator with a configuration is the same with other policies, in the configuration
and in the steps, that propose the same nodes. -/
theorem shown_ofConfig (agree : ∀ ranking, P ranking → ∀ p, Policy.SameOn ranking.order p (f p))
    (topology : Topology) (source : σ) (config : Config) :
    Matched
      (fun x y => y.1 = x.1 ∧ (x.1 = .ok () → ∀ steps, RanksBy P { allocator := x.2 } steps →
        View.besidesPolicy.shown { allocator := y.2 } (steps.map (Step.withPolicy f)) =
          View.besidesPolicy.shown { allocator := x.2 } steps))
      (Allocator.ofConfig topology source config)
      (Allocator.ofConfig topology source (config.withPolicy f)) := by
  have fresh (policy : Policy) (localDefault : Bool) (usage : Usage) : Repolicied f
      { Allocator.new topology source with policyByte := policy.byte, localDefault, usage }
      { Allocator.new topology source with policyByte := (f policy).byte, localDefault, usage } :=
    ⟨rfl, rfl, rfl, rfl, Allocator.decoded_byte f policy⟩
  have made := Allocator.ofConfig_alike (lasting_repolicied f) (fun like => like.sees View.besidesPolicy)
    config fresh
  refine made.imp fun x y related => ?_
  refine ⟨related.1, fun made steps ranks => shown_repolicied agree ⟨related.2 made, rfl⟩ ranks⟩

/-- **Reserved policies are the default one.** With the default policy for each reserved one, in the
configuration and in the steps, an allocator is made or refused as before, and a run gives the same answers,
with the same calls, used bytes and counters; only what the policy is said to be can differ, and the log. In an
epoch whose ranking is empty it is the same with the default policy for the one that goes by the ranking,
whether the epoch is the allocator's first or begins later. -/
theorem reserved_policies_are_default (topology : Topology) (source : σ) (config : Config) :
    Matched
        (fun x y => y.1 = x.1 ∧ (x.1 = .ok () → ∀ steps,
          View.besidesPolicy.shown { allocator := y.2 } (steps.map (Step.withPolicy Policy.plain)) =
            View.besidesPolicy.shown { allocator := x.2 } steps))
        (Allocator.ofConfig topology source config)
        (Allocator.ofConfig topology source (config.withPolicy Policy.plain)) ∧
      Matched
        (fun x y => y.1 = x.1 ∧ (x.1 = .ok () → ∀ steps,
          RanksBy (fun ranking => ranking.order = []) { allocator := x.2 } steps →
            View.besidesPolicy.shown { allocator := y.2 } (steps.map (Step.withPolicy Policy.unranked)) =
              View.besidesPolicy.shown { allocator := x.2 } steps))
        (Allocator.ofConfig topology source config)
        (Allocator.ofConfig topology source (config.withPolicy Policy.unranked)) ∧
      ∀ (s : Session σ) (steps : List (Step σ)), s.RanksBy (fun ranking => ranking.order = []) steps →
        View.besidesPolicy.shown (s.withPolicy Policy.unranked)
            (steps.map (Step.withPolicy Policy.unranked)) =
          View.besidesPolicy.shown s steps := by
  have plain (ranking : Ranking) (_ : True) (p : Policy) : Policy.SameOn ranking.order p p.plain :=
    Policy.sameOn_plain ranking.order p
  have unranked (ranking : Ranking) (empty : ranking.order = []) (p : Policy) :
      Policy.SameOn ranking.order p p.unranked := by
    rw [empty]
    exact Policy.sameOn_nil p p.unranked
  refine ⟨?_, shown_ofConfig unranked topology source config, fun s steps ranks => ?_⟩
  · refine (shown_ofConfig plain topology source config).imp fun x y related => ⟨related.1, ?_⟩
    exact fun made steps => related.2 made steps (ranksBy_all (fun _ => trivial) _ steps)
  · exact shown_repolicied unranked ⟨⟨rfl, rfl, rfl, rfl, rfl, rfl, rfl, Policy.ofByte_byte _⟩, rfl⟩ ranks

/-- A machine that is available and has nodes with an id, but lists none. -/
def unlisted : Topology := { pair with nodes := [] }

def onUnlisted : Session Scripted := { allocator := .new unlisted {} }

/-- Blocks go to the same nodes whether reserved policies or the default one are in the configuration and set
later. Where no node is listed the default node is tried, whether blocks are to be placed by the ranking or not. -/
theorem shown_on_unlisted :
    (∃ a b : Allocator Scripted,
      Allocator.ofConfig pair {} { policy := .roundRobin, defaultNode := some 1 } = .ok (.ok (), a) ∧
        Allocator.ofConfig pair {} { defaultNode := some 1 } = .ok (.ok (), b) ∧
        a.policy = .roundRobin ∧ b.policy = .default ∧
        View.besidesPolicy.shown { allocator := b }
            [.allocate false 0 8 none, .setPolicy .default, .allocate false 1 8 none] =
          View.besidesPolicy.shown { allocator := a }
            [.allocate false 0 8 none, .setPolicy .balanced, .allocate false 1 8 none]) ∧
      onUnlisted.RanksBy (fun ranking => ranking.order = [])
        [.setPolicy .distanceFirst, .setDefaultNode 1, .allocate false 0 8 none] ∧
      View.besidesPolicy.shown onUnlisted
          [.setPolicy .default, .setDefaultNode 1, .allocate false 0 8 none] =
        View.besidesPolicy.shown onUnlisted
          [.setPolicy .distanceFirst, .setDefaultNode 1, .allocate false 0 8 none] := by
  have ranks : onUnlisted.RanksBy (fun ranking => ranking.order = [])
      [.setPolicy .distanceFirst, .setDefaultNode 1, .allocate false 0 8 none] := by
    refine ⟨(nomatch ·), (nomatch ·), fun _ ranking a seen => ?_, trivial⟩
    cases seen
    rfl
  refine ⟨?_, ranks, (reserved_policies_are_default unlisted {} {}).2.2 onUnlisted _ ranks⟩
  cases (reserved_policies_are_default pair ({} : Scripted)
      { policy := .roundRobin, defaultNode := some 1 }).1 with
  | ok related =>
    exact ⟨_, _, rfl, rfl, rfl, rfl, related.2 rfl
      [.allocate false 0 8 none, .setPolicy .balanced, .allocate false 1 8 none]⟩

end Session

end NodeHeap
