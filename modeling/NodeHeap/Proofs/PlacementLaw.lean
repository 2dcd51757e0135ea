import NodeHeap.Proofs.Refinement

/-!
# The placement law

What a request asks of the source, from its hint, the epoch's snapshot, the policy and the default node:
the candidates in order up to the first that serves, and memory anywhere only after all of them.

* `Allocator.Obeys` — the ways in which a request ends that obeys the law, with the calls made.
* `Allocates.obeys`, `Reallocates.obeys` — the requests of `Placement` and `Replacement` obey it.
* `tryAllocate_obeys`, `tryReallocate_obeys` — for the candidates of the epoch, whatever the allocator.
* `run_obeys` — so do all requests after every run. A node is told from no node unless its id is the
  word that stands for no node, which only a ranking can hold.
-/

namespace NodeHeap

variable {σ : Type} [Source σ]

namespace Allocator

/-- How a request for `size` bytes ends that obeys the law for the nodes to try, with the calls made.
A block that is granted is called `next`, and `c` is the allocator after the request. -/
inductive Obeys (c : Allocator σ) (next : BlockId) (size : Nat) (nodes : List NodeId) :
    Except AllocError BlockId → List Call → Prop
  /-- No call is made for a size that has no room for a header. -/
  | tooLarge (large : maxTotal < size + headerWidth) :
    Obeys c next size nodes (.error (.outOfMemory size)) []
  /-- The nodes before the one that served were tried in order, and none after it. -/
  | onNode {tried rest : List NodeId} {node : NodeId} (bounded : size + headerWidth ≤ maxTotal)
    (split : nodes = tried ++ node :: rest)
    (recorded : node < wordLimit →
      c.blockNode next = .ok (if node = NodeSlot.vacantWord then none else some node)) :
    Obeys c next size nodes (.ok next)
      (vain (size + headerWidth) tried ++ [.allocOnNode node (size + headerWidth) (some next)])
  /-- All nodes were tried, and then memory was asked for anywhere, once. -/
  | anywhere (bounded : size + headerWidth ≤ maxTotal) (recorded : c.blockNode next = .ok none) :
    Obeys c next size nodes (.ok next)
      (vain (size + headerWidth) nodes ++ [.alloc (size + headerWidth) (some next)])
  /-- All nodes were tried, and then memory was asked for anywhere, in vain. -/
  | nowhere (bounded : size + headerWidth ≤ maxTotal) :
    Obeys c next size nodes (.error (.outOfMemory size))
      (vain (size + headerWidth) nodes ++ [.alloc (size + headerWidth) none])

variable {a b c : Allocator σ} {block next : BlockId} {size : Nat} {nodes : List NodeId}
  {calls : List Call} {head : Header} {payload : Bytes} {answer : Except AllocError BlockId}

omit [Source σ] in
theorem blockNode_eq (has : a.arena.HasBlock block head payload) :
    a.blockNode block = .ok head.node? := by
  simp only [blockNode, has.header_eq, bind, Except.bind, pure, Except.pure]

omit [Source σ] in
/-- The calls that get a block obey the law, if the header says where the block was placed. -/
theorem obeys_of_asks {origin : Option NodeId}
    (asks : Asks next (size + headerWidth) nodes calls (some origin))
    (bounded : size + headerWidth ≤ maxTotal)
    (has : c.arena.HasBlock next ⟨size, (NodeSlot.ofOption origin).stored⟩ payload) :
    c.Obeys next size nodes (.ok next) calls := by
  have recorded := blockNode_eq has
  cases asks with
  | @onNode tried rest node split =>
    refine .onNode bounded split fun fits => ?_
    have stored : (NodeSlot.ofOption (some node)).stored = .holding node :=
      NodeSlot.stored_of_lt fits
    rw [recorded, stored]
    rfl
  | anywhere => exact .anywhere bounded (recorded.trans (congrArg _ NodeSlot.node?_vacant))

/-- **A request for a block obeys the law.** -/
theorem Allocates.obeys (h : a.Allocates size nodes answer c calls) :
    c.Obeys a.arena.next size nodes answer calls := by
  cases h with
  | tooLarge large => exact .tooLarge large
  | refused events bounded asks heard =>
    cases asks with
    | nowhere => exact .nowhere bounded
  | @granted calls origin source events bounded asks heard =>
    exact obeys_of_asks asks bounded
      ⟨_, Std.ExtTreeMap.getElem?_insert_self, Region.isBlock_newBlock bounded origin _⟩

/-- The calls that follow a request for another size: a block that was replaced is released. -/
def releases (block : BlockId) (head : Header) : Except AllocError BlockId → List Call
  | .ok _ => [releaseOf block head]
  | .error _ => []

/-- **The request for the block that takes the place of another obeys the law.** -/
theorem Reallocates.obeys {r : Region} (h : a.Reallocates block head r size nodes answer c calls)
    (hb : r.IsBlock head payload) (other : block ≠ a.arena.next)
    (apart : ¬(nodes = [] ∧ head.node? = none)) :
    ∃ asked, calls = asked ++ releases block head answer ∧
      c.Obeys a.arena.next size nodes answer asked := by
  cases h with
  | tooLarge large => exact ⟨[], rfl, .tooLarge large⟩
  | notResized bounded still => exact absurd still apart
  | resized bounded still => exact absurd still apart
  | exchanged bounded still => exact absurd still apart
  | notMoved bounded _ refused =>
    exact ⟨calls, (List.append_nil _).symm, refused.obeys⟩
  | @moved asked origin source arena events bounded _ asks placed heard =>
    have there : (arena.released block head).regions[a.arena.next]? =
        some (movedBlock r head size origin (Source.found source a.arena.next)) := by
      rw [Arena.regions_released, Regions.getElem?_erase_of_ne _ _ (Ne.symm other), placed]
      exact Std.ExtTreeMap.getElem?_insert_self
    obtain ⟨fitting, moved, -⟩ := isBlock_movedBlock hb bounded origin (Source.found source a.arena.next)
    exact ⟨asked, rfl, obeys_of_asks asks bounded ⟨_, there, moved⟩⟩

variable {snapshot : Snapshot}

/-- A request that can look at the topology is answered, and obeys the law for its candidates. -/
theorem tryAllocate_obeys (surveyed : a.survey = .ok (snapshot, b)) (size : Nat)
    (hint : Option NodeId) :
    ∃ answer c calls, a.tryAllocate size hint = .ok (answer, c) ∧
      a.tryReallocate none size hint = .ok (answer, c) ∧ a.arena.Heard calls c.arena ∧
      c.Obeys a.arena.next size (b.candidates snapshot hint) answer calls := by
  obtain ⟨events, targets⟩ := targets_eq_candidates surveyed hint
  have arena : b.arena = a.arena := by rw [survey_spec surveyed]
  obtain ⟨answer, c, calls, allocated, allocates⟩ :=
    allocateAt_spec { b with events } size (b.candidates snapshot hint)
  refine ⟨answer, c, calls, ?_, ?_, ?_, ?_⟩
  · simp only [tryAllocate, targets, bind, Except.bind, allocated]
  · simp only [tryReallocate, targets, bind, Except.bind, reallocateAt, allocated]
  · rw [← arena]
    exact allocates.heard
  · rw [← arena]
    exact allocates.obeys

/-- A request for another size of an outstanding block is answered too, and obeys the law unless the block may be
resized where it is. -/
theorem tryReallocate_obeys (surveyed : a.survey = .ok (snapshot, b)) (size : Nat)
    (hint : Option NodeId) (has : a.arena.HasBlock block head payload) (other : block ≠ a.arena.next)
    (apart : ¬(b.candidates snapshot hint = [] ∧ head.node? = none)) :
    ∃ answer c calls, a.tryReallocate (some block) size hint = .ok (answer, c) ∧
      a.arena.Heard (calls ++ releases block head answer) c.arena ∧
      c.Obeys a.arena.next size (b.candidates snapshot hint) answer calls := by
  obtain ⟨events, targets⟩ := targets_eq_candidates surveyed hint
  have arena : b.arena = a.arena := by rw [survey_spec surveyed]
  obtain ⟨r, hr, hb⟩ := has
  rw [← arena] at hr other
  obtain ⟨answer, c, calls, done, ends⟩ :=
    reallocateAt_spec (a := { b with events }) size (b.candidates snapshot hint) hr hb other
  obtain ⟨asked, rfl, obeys⟩ := ends.obeys hb other apart
  refine ⟨answer, c, asked, ?_, ?_, ?_⟩
  · simp only [tryReallocate, targets, bind, Except.bind, done]
  · rw [← arena]
    exact ends.heard
  · rw [← arena]
    exact obeys

end Allocator

namespace Session

variable {s : Session σ}

/-- A session on two nodes of which the first refuses what it is asked for. -/
def refusing : Session Scripted := { allocator := .new pair { failing := [0] } }

/-- **The placement law.** After every run, and for every size and hint: a request for a block tries the
candidates of the epoch in order up to the first that serves and no further, asks for memory anywhere
exactly if none of them did, and is refused exactly if that failed too; nothing is asked for where there
is no room for a header. The block is on the node that served, unless the id of that node is the word
that stands for no node. The same holds of the block that takes the place of another one that is not
resized where it is; once there is such a block, the other one is released. A request that cannot look at
the topology halts. -/
theorem run_obeys (made : Initial s) (steps : List (Step σ)) (size : Nat) (hint : Option NodeId) :
    (∀ halt, (s.run steps).2.allocator.survey = .error halt →
      (s.run steps).2.allocator.tryAllocate size hint = .error halt ∧
        ∀ block, (s.run steps).2.allocator.tryReallocate block size hint = .error halt) ∧
    ∀ snapshot b, (s.run steps).2.allocator.survey = .ok (snapshot, b) →
      (∃ answer c calls, (s.run steps).2.allocator.tryAllocate size hint = .ok (answer, c) ∧
        (s.run steps).2.allocator.tryReallocate none size hint = .ok (answer, c) ∧
        (s.run steps).2.allocator.arena.Heard calls c.arena ∧
        c.Obeys (s.run steps).2.allocator.arena.next size (b.candidates snapshot hint) answer
          calls) ∧
      ∀ name block head, (s.run steps).2.blocks.find? name = some block →
        (s.run steps).2.allocator.arena.header block = .ok head →
        ¬(b.candidates snapshot hint = [] ∧ head.node? = none) →
        ∃ answer c calls,
          (s.run steps).2.allocator.tryReallocate (some block) size hint = .ok (answer, c) ∧
          (s.run steps).2.allocator.arena.Heard (calls ++ Allocator.releases block head answer)
            c.arena ∧
          c.Obeys (s.run steps).2.allocator.arena.next size (b.candidates snapshot hint) answer
            calls := by
  have sound := (made.stored.run steps).toSound
  generalize (s.run steps).2 = t at sound
  refine ⟨fun halt failed => ⟨?_, fun block => ?_⟩, fun snapshot b surveyed => ?_⟩
  · simp only [Allocator.tryAllocate, Allocator.targets, failed, bind, Except.bind]
  · simp only [Allocator.tryReallocate, Allocator.targets, failed, bind, Except.bind]
  · refine ⟨Allocator.tryAllocate_obeys surveyed size hint, fun name block head found held apart => ?_⟩
    obtain ⟨known, payload, has⟩ := sound.live _ (Table.mem_of_find? found)
    have same : head = known := by
      have read := has.header_eq
      rw [held] at read
      cases read
      rfl
    subst same
    exact Allocator.tryReallocate_obeys surveyed size hint has
      (sound.ne_next (.refl _) found) apart

/-- A block that was placed anywhere, and a request to move it to a node that refuses. -/
theorem obeys_on_refusing_node :
    Initial refusing ∧
      ∃ answer c calls,
        (refusing.run [.allocate false 7 2 none]).2.allocator.tryReallocate (some 0) 8 (some 0) =
          .ok (answer, c) ∧
        c.Obeys 1 8 [0] answer calls := by
  have made : Initial refusing := .new _ _
  have law := (run_obeys made [.allocate false 7 2 none] 8 (some 0)).2 _ _ rfl
  obtain ⟨answer, c, calls, done, -, obeys⟩ := law.2 7 0 ⟨2, .vacant⟩ rfl rfl (by
    rintro ⟨none, -⟩
    cases none)
  exact ⟨made, answer, c, calls, done, obeys⟩

/-- A topology that lists the word that stands for no node. -/
def rogue : Topology where
  availability := .available
  maxNode := some 3
  nodes := [NodeSlot.vacantWord]
  callerNode := .ok none
  distance _ _ := 0

/-- A block that was served on the node whose id stands for no node is not told from one that was
placed anywhere. -/
theorem node_lost_in_header :
    ((Session.run (σ := Scripted) { allocator := .new rogue {} }
      [.allocate false 0 5000 none, .allocate false 0 0 none, .setPolicy .distanceFirst,
        .allocate false 1 40 none]).1.getLast?.map fun answer => (answer.value, answer.calls)) =
      some (.block 40 none, [.allocOnNode NodeSlot.vacantWord 56 (some 2)]) := by
  decide +kernel

end Session

end NodeHeap
