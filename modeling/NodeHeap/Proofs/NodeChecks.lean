import NodeHeap.Proofs.Rejections

/-!
# Checks of a node

Whether a node is valid is told in four ways: by the largest id of the topology, by the count of its valid ids, by the
count that an epoch's snapshot keeps, and by the check of a hint. They agree as long as the valid ids can be counted.
An available topology whose largest id is the largest word has one id more than a word can count: it calls every node
valid, and halts whoever asks how many there are.

* `Topology.Overfull` — a topology whose valid ids cannot be counted; `Topology.count_cases` — the two counts agree.
* `Allocator.ChecksBy` — an allocator that accepts the valid nodes of a topology and no others.
* `Session.node_checks_agree` — so does every allocator, in each epoch that begins with a topology that can be counted.
* `Session.crowded_halts` — a valid node that halts an allocator.
-/

namespace NodeHeap

variable {σ : Type}

/-! ## The count of the valid ids -/

namespace Topology

variable {t : Topology} {snapshot : Snapshot} {count : Nat}

/-- The largest id of an available topology has no successor among the words. -/
def Overfull (t : Topology) : Prop :=
  t.isAvailable = true ∧ ∃ max, t.maxNode = some max ∧ wordLimit ≤ max + 1

/-- **The valid ids are those below their count**, which fits a word, unless they cannot be counted. -/
theorem count_cases (t : Topology) :
    (t.Overfull ∧ t.addressableNodes = .error .sumOverflow) ∨
      (¬t.Overfull ∧ ∃ count < wordLimit, t.addressableNodes = .ok count ∧
        ∀ node, t.isValidNode node = true ↔ node < count) := by
  cases counted : t.addressableNodes with
  | error halt =>
    refine .inl ?_
    unfold addressableNodes at counted
    split at counted
    · rename_i max available greatest
      split at counted
      · cases counted
      · rename_i large
        cases counted
        exact ⟨⟨available, max, greatest, Nat.le_of_not_lt large⟩, rfl⟩
    · cases counted
  | ok count =>
    refine .inr ⟨?_, count, addressableNodes_lt counted, rfl, isValidNode_iff_lt counted⟩
    rintro ⟨available, max, greatest, large⟩
    unfold addressableNodes at counted
    rw [available, greatest] at counted
    simp [Nat.not_lt.2 large] at counted

/-- There is a snapshot to take where the caller's node is told and the valid ids can be counted. -/
theorem snapshot_of_count {caller : Option NodeId} (told : t.callerNode = .ok caller)
    (counted : t.addressableNodes = .ok count) : ∃ snapshot, t.snapshot = .ok snapshot := by
  unfold snapshot Ranking.forCaller
  rw [told, counted]
  exact ⟨_, rfl⟩

theorem availability_of_snapshot (h : t.snapshot = .ok snapshot) : snapshot.availability = t.availability := by
  obtain ⟨ranking, -, h⟩ := bind_ok h
  obtain ⟨addressable, -, h⟩ := bind_ok h
  cases h
  rfl

theorem snapshot_of_uncounted {halt : Halt} (uncounted : t.addressableNodes = .error halt) :
    ∃ halt, t.snapshot = .error halt := by
  unfold snapshot Ranking.forCaller
  cases told : t.callerNode with
  | error other => exact ⟨other, rfl⟩
  | ok caller =>
    rw [uncounted]
    exact ⟨halt, rfl⟩

end Topology

/-! ## An allocator's checks -/

namespace Allocator

variable {a b : Allocator σ} {t : Topology} {snapshot : Snapshot}

/-- An allocator goes by a topology in its checks of a node. -/
structure ChecksBy (a : Allocator σ) (t : Topology) : Prop where
  /-- A valid node is accepted, and is the default node from then on. -/
  accepts : ∀ node, t.isValidNode node = true →
    ∃ b, a.setDefaultNode node = .ok (.ok (), b) ∧ b.defaultNode = some node
  /-- Any other node is rejected, with the count of the valid ones. -/
  rejects : ∀ node, t.isValidNode node = false →
    ∃ count b, t.addressableNodes = .ok count ∧
      a.setDefaultNode node = .ok (.error (.invalidNode node count), b)
  /-- The hint that is handed on to the policy is the one that was given, if it is a valid node, or else none. -/
  hints : ∃ snapshot b, a.survey = .ok (snapshot, b) ∧ ∀ node,
    (b.checkHint snapshot (some node)).1 = Option.filter t.isValidNode (some node) ∧
      ∃ events, a.targets (some node) =
        .ok (b.policy.targets (b.context snapshot (Option.filter t.isValidNode (some node))), { b with events })
  /-- So a valid node that is hinted at is the only one to be tried. -/
  steers : ∀ node, t.isValidNode node = true → ∃ b, a.targets (some node) = .ok ([node], b)

/-- The default node is checked against the count that a look keeps. -/
theorem setDefaultNode_of_survey (surveyed : a.survey = .ok (snapshot, b)) (node : NodeId) :
    a.setDefaultNode node =
      if node < snapshot.addressable then
        .ok (.ok (), { b with defaultSlot := .holding node }.note (.defaultSet node))
      else
        .ok (.error (.invalidNode node snapshot.addressable), b.note (.defaultRejected node snapshot.addressable)) := by
  unfold setDefaultNode
  simp only [surveyed, bind, Except.bind]
  split
  · rfl
  · rfl

theorem targets_of_survey (surveyed : a.survey = .ok (snapshot, b)) (node : NodeId) :
    ∃ events, a.targets (some node) =
      .ok (b.policy.targets (b.context snapshot (b.checkHint snapshot (some node)).1), { b with events }) := by
  obtain ⟨events, checked⟩ := checkHint_spec b snapshot (some node)
  refine ⟨events, ?_⟩
  unfold targets
  simp only [surveyed, bind, Except.bind, checked]
  rfl

theorem checkHint_eq (counted : t.addressableNodes = .ok snapshot.addressable) (node : NodeId) :
    (b.checkHint snapshot (some node)).1 = Option.filter t.isValidNode (some node) := by
  have below : (fun other => decide (other < snapshot.addressable)) = t.isValidNode := by
    funext other
    rw [Bool.eq_iff_iff, Topology.isValidNode_iff_lt counted, decide_eq_true_iff]
  obtain ⟨events, checked⟩ := checkHint_spec b snapshot (some node)
  rw [checked, below]

/-- **A look at a topology tells its valid nodes.** -/
theorem checksBy_of_survey (surveyed : a.survey = .ok (snapshot, b)) (seen : t.snapshot = .ok snapshot) :
    a.ChecksBy t := by
  have counted : t.addressableNodes = .ok snapshot.addressable := Topology.addressableNodes_of_snapshot seen
  have valid (node : NodeId) : t.isValidNode node = true ↔ node < snapshot.addressable :=
    Topology.isValidNode_iff_lt counted node
  have handed (node : NodeId) : (b.checkHint snapshot (some node)).1 = Option.filter t.isValidNode (some node) :=
    checkHint_eq counted node
  constructor
  · intro node accepted
    refine ⟨{ b with defaultSlot := .holding node }.note (.defaultSet node), ?_, ?_⟩
    · rw [setDefaultNode_of_survey surveyed, if_pos ((valid node).1 accepted)]
    · -- A valid node is below a count that fits a word, so it is not the word that stands for no node.
      have below := NodeSlot.lt_vacantWord ((valid node).1 accepted) (Topology.addressableNodes_lt counted)
      exact NodeSlot.node?_holding (Nat.ne_of_lt below)
  · intro node rejected
    have outside : ¬node < snapshot.addressable := by
      rw [← valid, rejected]
      exact Bool.false_ne_true
    refine ⟨snapshot.addressable, b.note (.defaultRejected node snapshot.addressable), counted, ?_⟩
    rw [setDefaultNode_of_survey surveyed, if_neg outside]
  · refine ⟨snapshot, b, surveyed, fun node => ⟨handed node, ?_⟩⟩
    rw [← handed node]
    exact targets_of_survey surveyed node
  · intro node accepted
    obtain ⟨events, given⟩ := targets_of_survey surveyed node
    have kept : Option.filter t.isValidNode (some node) = some node := by
      rw [Option.filter_some, if_pos accepted]
    have available : (b.context snapshot (some node)).available = true := by
      have on := (Bool.and_eq_true_iff.1 accepted).1
      rwa [Topology.isAvailable, ← Topology.availability_of_snapshot seen] at on
    refine ⟨{ b with events }, ?_⟩
    rw [given, handed, kept, Policy.targets_of_hint _ available rfl]

theorem halts_of_survey {halt : Halt} (halted : a.survey = .error halt) (node : NodeId) :
    a.setDefaultNode node = .error halt ∧ a.targets (some node) = .error halt := by
  unfold setDefaultNode targets
  rw [halted]
  exact ⟨rfl, rfl⟩

end Allocator

/-! ## The result -/

namespace Session

variable [Source σ] {s : Session σ} {e : Epoch}

/-- **The checks of a node agree.** If the valid ids of a topology can be counted, they are the ids below their count,
which fits a word; and in every run an allocator whose epoch begins with that topology accepts just these nodes, keeps
the one it accepts as its default node, and hands on just these hints. If they cannot be counted, whoever asks for
their count is halted, and so is every call of the allocator that has to check a node. -/
theorem node_checks_agree (opens : s.Opens e) (steps : List (Step σ)) {t : Topology}
    (basis : (e.after steps (s.run steps).1).basis = t) :
    (¬t.Overfull →
      (∃ count < wordLimit, t.addressableNodes = .ok count ∧ ∀ node, t.isValidNode node = true ↔ node < count) ∧
      ∀ caller, t.callerNode = .ok caller → (s.run steps).2.allocator.ChecksBy t) ∧
    (t.Overfull → t.addressableNodes = .error .sumOverflow ∧
      ∃ halt, ∀ node, (s.run steps).2.allocator.setDefaultNode node = .error halt ∧
        (s.run steps).2.allocator.targets (some node) = .error halt) := by
  have keeps := keeps_run steps opens.initial.stored opens.keeps
  have look := keeps.survey_eq
  rw [basis] at look
  rcases t.count_cases with ⟨overfull, uncounted⟩ | ⟨fits, count, small, counted, valid⟩
  · refine ⟨fun fits => absurd overfull fits, fun _ => ⟨uncounted, ?_⟩⟩
    obtain ⟨halt, halted⟩ := Topology.snapshot_of_uncounted uncounted
    rw [halted] at look
    exact ⟨halt, fun node => Allocator.halts_of_survey look node⟩
  · refine ⟨fun _ => ⟨⟨count, small, counted, valid⟩, ?_⟩, fun overfull => absurd overfull fits⟩
    intro caller told
    obtain ⟨snapshot, seen⟩ := Topology.snapshot_of_count told counted
    rw [seen] at look
    exact Allocator.checksBy_of_survey look seen

/-- After a look at two nodes both of them pass the checks, and no third one. -/
theorem lodger_checks_pair :
    Opens lodger { topology := pair, first := none } ∧ ¬pair.Overfull ∧ pair.callerNode = .ok (some 0) ∧
      (lodger.run [.currentNode]).2.allocator.ChecksBy pair ∧
      pair.isValidNode 1 = true ∧ pair.isValidNode 2 = false := by
  have made : Allocator.ofConfig pair {} { localDefault := true } = .ok (.ok (), lodger.allocator) := rfl
  have opens : Opens lodger { topology := pair, first := none } := .ofConfig made
  have fits : ¬pair.Overfull := by
    rintro ⟨-, max, greatest, large⟩
    cases greatest
    exact absurd large (by decide)
  exact ⟨opens, fits, rfl, ((node_checks_agree opens [.currentNode] rfl).1 fits).2 (some 0) rfl, rfl, rfl⟩

/-- A topology with a node for every word. -/
def crowded : Topology where
  availability := .available
  maxNode := some (wordLimit - 1)
  nodes := [0]
  callerNode := .ok none
  distance _ _ := localDistance

def onCrowded : Session Scripted := { allocator := .new crowded {} }

/-- **A valid node can halt the allocator**: all nodes of such a topology are valid, but there is no count of them, and
to make one of them the default node halts and leaves none. -/
theorem crowded_halts :
    Opens onCrowded { topology := crowded } ∧
      crowded.isValidNode 5 = true ∧ crowded.addressableNodes = .error .sumOverflow ∧
      (onCrowded.step (.setDefaultNode 5)).1.value = .halted .sumOverflow ∧
      (onCrowded.step (.setDefaultNode 5)).2.allocator.defaultNode = none := by
  refine ⟨.new _ _, ?_⟩
  decide +kernel

end Session

end NodeHeap
