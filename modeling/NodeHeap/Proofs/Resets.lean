import NodeHeap.Proofs.Views

/-!
# Resets

While the topology answers the same, a look at it shows what an earlier one did. Whether there was a reset in
between, an allocator that takes no default node by itself does the same.

* `Allocator.Rests` — the allocator knows nothing but what there is to see of its topology.
* `Initial.rests` — so it is with each allocator as it is made.
* `resets_are_transparent` — runs that differ in nothing but resets and shutdowns show the same.
-/

namespace NodeHeap

variable {σ : Type}

theorem Step.ends_withPolicy (f : Policy → Policy) (step : Step σ) :
    (step.withPolicy f).ends = step.ends := by
  cases step <;> rfl

/-- All is seen but the steps that end an epoch. -/
def View.throughout : View σ where
  skips := Step.ends
  skips_withPolicy := Step.ends_withPolicy
  hides_withPolicy := Step.constant_withPolicy

namespace Allocator

/-- The allocator has this topology, takes no default node by itself, and knows nothing but what there is to
see of the topology. -/
structure Rests (a : Allocator σ) (t : Topology) : Prop where
  topology : a.topology = t
  localDefault : a.localDefault = false
  current : ∀ snapshot, a.snapshot = some snapshot → t.snapshot = .ok snapshot

variable {a b : Allocator σ} {t : Topology} {snapshot : Snapshot}

namespace Rests

/-- **To look again is to see the same**, with or without a snapshot. -/
theorem survey (h : a.Rests t) (look : t.snapshot = .ok snapshot) :
    ∃ events, a.survey = .ok (snapshot, { a with snapshot := some snapshot, events }) := by
  have surveyed : ∃ b, a.survey = .ok (snapshot, b) := by
    cases held : a.snapshot with
    | some seen =>
      have same := h.current seen held
      rw [look] at same
      cases same
      exact ⟨a, survey_of_snapshot held⟩
    | none =>
      simp only [Allocator.survey, held, h.topology, look]
      exact ⟨_, rfl⟩
  obtain ⟨b, surveyed⟩ := surveyed
  obtain ⟨events, rfl⟩ := survey_of_stays surveyed (.inl h.localDefault)
  exact ⟨events, surveyed⟩

theorem still (h : a.Rests t) (topology : b.topology = a.topology)
    (localDefault : b.localDefault = a.localDefault) (kept : b.snapshot = a.snapshot) : b.Rests t :=
  ⟨topology.trans h.topology, localDefault.trans h.localDefault, by rw [kept]; exact h.current⟩

theorem survey_error (h : a.Rests t) {halt : Halt} (cut : t.snapshot = .error halt) :
    a.survey = .error halt := by
  cases held : a.snapshot with
  | some seen =>
    have same := h.current seen held
    rw [cut] at same
    cases same
  | none =>
    simp only [Allocator.survey, held, h.topology, cut]
    rfl

theorem forgotten (h : a.Rests t) (events : List Event) :
    Rests { a with snapshot := none, events } t :=
  ⟨h.topology, h.localDefault, fun _ held => by cases held⟩

theorem looked (h : a.Rests t) (look : t.snapshot = .ok snapshot) (events : List Event) :
    Rests { a with snapshot := some snapshot, events } t :=
  ⟨h.topology, h.localDefault, fun _ held => by cases held; exact look⟩

end Rests

/-- Two allocators know nothing but what there is to see of the topology, and place blocks by the same rules.
Either may have a snapshot or not. -/
structure Rested (t : Topology) (a b : Allocator σ) : Prop where
  left : a.Rests t
  right : b.Rests t
  policy : b.policy = a.policy
  slot : b.defaultSlot = a.defaultSlot

theorem lasting_rested : Lasting (σ := σ) id (Rested t) where
  books h _ _ _ _ _ _ _ _ := ⟨h.left.still rfl rfl rfl, h.right.still rfl rfl rfl, h.policy, h.slot⟩
  placing h _ := ⟨h.left.still rfl rfl rfl, h.right.still rfl rfl rfl, rfl, h.slot⟩
  defaulted h _ := ⟨h.left.still rfl rfl rfl, h.right.still rfl rfl rfl, h.policy, rfl⟩
  forgotten {a b} h := ⟨h.left.forgotten a.events, h.right.forgotten b.events, h.policy, h.slot⟩
  slot h := h.slot
  policy h := h.policy

/-- **Looks at a topology that stands still show the same.** -/
theorem Rested.sees (h : Rested t a b) (view : View σ) :
    Matched (Sees view (Rested t)) a.survey b.survey := by
  cases look : t.snapshot with
  | error halt =>
    rw [h.left.survey_error look, h.right.survey_error look]
    exact .error halt
  | ok snapshot =>
    obtain ⟨events, surveyed⟩ := h.left.survey look
    obtain ⟨events', surveyed'⟩ := h.right.survey look
    rw [surveyed, surveyed']
    refine .ok ⟨?_, rfl, rfl, rfl, fun _ => rfl, fun _ => ?_⟩
    · exact ⟨h.left.looked look events, h.right.looked look events', h.policy, h.slot⟩
    · exact congrArg Topology.callerNode (h.right.topology.trans h.left.topology.symm)

end Allocator

namespace Session

open Allocator (Rested lasting_rested)

variable {s t : Session σ}

/-- An allocator knows nothing when it is made, but for what it saw of its topology. -/
theorem Initial.rests (initial : Initial s) (plain : s.allocator.localDefault = false) :
    s.allocator.Rests s.allocator.topology := by
  cases initial with
  | new topology source => exact ⟨rfl, rfl, fun _ held => by cases held⟩
  | @ofConfig topology source config a made =>
    have keeps := (Opens.ofConfig made).keeps
    refine ⟨rfl, plain, fun snapshot held => ?_⟩
    obtain ⟨first, known, look⟩ := keeps.seen snapshot held
    obtain ⟨-, -, rfl⟩ := Option.map_eq_some_iff.1 known
    have same : a.topology = topology := keeps.topology
    rw [same]
    exact look

variable [Source σ]

/-- All that the end of an epoch changes but the log. -/
theorem step_of_ends {step : Step σ} (ends : step.ends = true) :
    (s.step step).2 = s ∨ ∃ events, (s.step step).2 =
      { s with allocator := { s.allocator with snapshot := none, events } } := by
  cases step with
  | resetTopology => exact (step_of_perform rfl).imp_right fun ended => ⟨_, ended⟩
  | shutdown =>
    obtain ⟨events, eq⟩ := Allocator.shutdown_spec s.allocator
    refine (step_of_perform rfl).imp_right fun ended => ⟨events, ?_⟩
    rw [ended, eq]
  | _ => cases ends

/-- Two sessions in which blocks are placed by the same rules, on a topology that none of the steps changes. -/
structure Standing (topology : Topology) (steps : List (Step σ)) (s t : Session σ) : Prop where
  alike : Alike (Rested topology) s t
  stands : ∀ other, .changeTopology other ∈ steps → other = topology

theorem simulation_standing (topology : Topology) :
    (View.throughout (σ := σ)).Simulation id (Standing topology) where
  alone {step rest s t} standing ends := by
    obtain ⟨alike, stands⟩ := standing
    refine ⟨?_, fun other mem => stands other (List.mem_cons_of_mem step mem)⟩
    rcases step_of_ends ends with same | ⟨events, ended⟩
    · rw [same]
      exact alike
    · have memory := alike.allocator
      have like := memory.like
      rw [ended]
      exact ⟨⟨memory.arena, memory.usage, memory.counters, like.left.forgotten events, like.right,
        like.policy, like.slot⟩, alike.blocks⟩
  both {step rest s t} standing _ := by
    obtain ⟨alike, stands⟩ := standing
    have like := alike.allocator.like
    have turned : ∀ other, step = .changeTopology other →
        Rested topology { s.allocator with topology := other } { t.allocator with topology := other } := by
      rintro other rfl
      obtain rfl := stands other List.mem_cons_self
      exact ⟨⟨rfl, like.left.localDefault, like.left.current⟩,
        ⟨rfl, like.right.localDefault, like.right.current⟩, like.policy, like.slot⟩
    obtain ⟨seen, later⟩ :=
      glimpse_step alike lasting_rested (fun _ => like.sees View.throughout)
        (fun _ => Allocator.placing_id _) turned fun _ _ => rfl
    exact ⟨seen, later, fun other mem => stands other (List.mem_cons_of_mem step mem)⟩

/-- **Resets and shutdowns cannot be told from anything but the log.** While the topology of an allocator that
takes no default node by itself answers the same, any two runs that differ in nothing but the steps that end an
epoch give all other steps the same answers, with the same calls, used bytes and counters. -/
theorem resets_are_transparent (initial : Initial s) (plain : s.allocator.localDefault = false)
    {steps others : List (Step σ)}
    (stands : ∀ topology, .changeTopology topology ∈ steps ++ others → topology = s.allocator.topology)
    (same : View.throughout.heard steps = View.throughout.heard others) :
    View.throughout.shown s steps = View.throughout.shown s others := by
  have rests := initial.rests plain
  have alike : Alike (Rested s.allocator.topology) s s :=
    ⟨⟨rfl, rfl, rfl, rests, rests, rfl, rfl⟩, rfl⟩
  exact (simulation_standing s.allocator.topology).shown_congr
    ⟨alike, fun other mem => stands other (List.mem_append_left others mem)⟩
    ⟨alike, fun other mem => stands other (List.mem_append_right steps mem)⟩ same

/-- A block that was placed before a shutdown and a reset is told of and freed after them as without them. -/
theorem shown_without_shutdown :
    Initial onPair ∧
      View.throughout.shown onPair
          [.setDefaultNode 1, .allocate false 0 8 none, .shutdown, .resetTopology, .info 0, .free (some 0)] =
        View.throughout.shown onPair
          [.setDefaultNode 1, .allocate false 0 8 none, .info 0, .free (some 0)] := by
  have initial : Initial onPair := .new _ _
  exact ⟨initial, resets_are_transparent initial rfl (fun topology mem => by simp at mem) rfl⟩

end Session

end NodeHeap
