import NodeHeap.Memory.Scripted
import NodeHeap.Proofs.Halts
import NodeHeap.Proofs.Heap
import NodeHeap.Proofs.Replacement

/-!
# The steps of a session

All that a step of a session can do, said once.

* `Session.Sound` — each name stands for an outstanding block, and no two for the same one.
* `Allocator.Controls` — what the steps do that are about no block.
* `Session.Performs` — the ways in which a step ends that does not halt.
* `step_performed` — a step halts and changes nothing, or ends as what it performs does.
* `perform_cases`, `step_cases` — every step of a sound session ends in one of these ways, or halts and
  changes nothing.
-/

namespace NodeHeap

variable {σ : Type}

namespace Allocator

theorem Spared.trans {a b c : Allocator σ} (h : Spared a b) (h' : Spared b c) : Spared a c :=
  ⟨h'.regions.trans h.regions, h'.next.trans h.next, h'.used.trans h.used⟩

/-- The blocks, the books, the counters and the record of calls are as they were. -/
structure Idle (a b : Allocator σ) : Prop extends Spared a b where
  calls : b.arena.calls = a.arena.calls
  counters : b.counters = a.counters

theorem Idle.refl (a : Allocator σ) : Idle a a := ⟨⟨rfl, rfl, rfl⟩, rfl, rfl⟩

theorem idle_survey {a b : Allocator σ} {snapshot : Snapshot} (h : a.survey = .ok (snapshot, b)) :
    Idle a b := by
  rw [survey_spec h]
  exact ⟨⟨rfl, rfl, rfl⟩, rfl, rfl⟩

theorem idle_targets {a b : Allocator σ} {hint : Option NodeId} {nodes : List NodeId}
    (h : a.targets hint = .ok (nodes, b)) : Idle a b := by
  rw [targets_spec h]
  exact ⟨⟨rfl, rfl, rfl⟩, rfl, rfl⟩

/-- What a step that is about no block does to an allocator. -/
inductive Controls (a : Allocator σ) : Step σ → Allocator σ → Prop
  /-- The step only reads, or is refused before anything happens. -/
  | same {step : Step σ} : Controls a step a
  /-- The step looks at the topology, for an answer. -/
  | looked {step : Step σ} {snapshot : Snapshot} {b : Allocator σ} (events : List Event)
    (surveyed : a.survey = .ok (snapshot, b)) : Controls a step { b with events }
  /-- The step looks at the topology, and finds a valid node. -/
  | defaulted {node : NodeId} {snapshot : Snapshot} {b : Allocator σ} (events : List Event)
    (surveyed : a.survey = .ok (snapshot, b)) (valid : node < snapshot.addressable) :
    Controls a (.setDefaultNode node) { b with defaultSlot := .holding node, events }
  | cleared : Controls a .clearDefaultNode { a with defaultSlot := .vacant }
  | placing (policy : Policy) (events : List Event) :
    Controls a (.setPolicy policy) { a with policyByte := policy.byte, events }
  /-- The step ends the epoch. -/
  | ended {step : Step σ} (events : List Event) : Controls a step { a with snapshot := none, events }
  | serialized (events : List Event) :
    Controls a .serialize { a with usage := a.usage.serialize, events }
  | topology (topology : Topology) : Controls a (.changeTopology topology) { a with topology }
  | source (change : σ → σ) :
    Controls a (.changeSource change)
      { a with arena := { a.arena with source := change a.arena.source } }

theorem Controls.idle {a b : Allocator σ} {step : Step σ} (h : Controls a step b) : Idle a b := by
  cases h with
  | same => exact .refl _
  | looked events surveyed =>
    have kept := idle_survey surveyed
    exact ⟨⟨kept.regions, kept.next, kept.used⟩, kept.calls, kept.counters⟩
  | defaulted events surveyed valid =>
    have kept := idle_survey surveyed
    exact ⟨⟨kept.regions, kept.next, kept.used⟩, kept.calls, kept.counters⟩
  | cleared => exact ⟨⟨rfl, rfl, rfl⟩, rfl, rfl⟩
  | placing => exact ⟨⟨rfl, rfl, rfl⟩, rfl, rfl⟩
  | ended => exact ⟨⟨rfl, rfl, rfl⟩, rfl, rfl⟩
  | serialized => exact ⟨⟨rfl, rfl, rfl⟩, rfl, rfl⟩
  | topology => exact ⟨⟨rfl, rfl, rfl⟩, rfl, rfl⟩
  | source => exact ⟨⟨rfl, rfl, rfl⟩, rfl, rfl⟩

theorem controls_setPolicy (a : Allocator σ) (policy : Policy) :
    Controls a (.setPolicy policy) (a.setPolicy policy) := by
  unfold setPolicy
  simp only
  split
  · exact .placing policy a.events
  · exact .placing policy _

theorem controls_shutdown (a : Allocator σ) : Controls a .shutdown a.shutdown := by
  unfold shutdown
  simp only
  split
  · exact .ended _
  · exact .ended _

theorem controls_setDefaultNode {a b : Allocator σ} {node : NodeId}
    {answer : Except AllocError Unit} (h : a.setDefaultNode node = .ok (answer, b)) :
    Controls a (.setDefaultNode node) b := by
  obtain ⟨⟨snapshot, c⟩, surveyed, set⟩ := bind_ok h
  simp only at set
  split at set
  · rename_i valid
    cases set
    exact .defaulted (b := c) _ surveyed valid
  · cases set
    exact .looked _ surveyed

theorem controls_currentNode {a b : Allocator σ} {node : Option NodeId}
    (h : a.currentNode = .ok (node, b)) : Controls a .currentNode b := by
  obtain ⟨⟨snapshot, c⟩, surveyed, seen⟩ := bind_ok h
  simp only at seen
  split at seen
  · obtain ⟨node, -, seen⟩ := bind_ok seen
    cases seen
    exact .looked b.events surveyed
  · cases seen
    exact .looked b.events surveyed

theorem controls_epochAvailability {a b : Allocator σ} {availability : Availability}
    (h : a.epochAvailability = .ok (availability, b)) : Controls a .availability b := by
  obtain ⟨⟨snapshot, c⟩, surveyed, seen⟩ := bind_ok h
  cases seen
  exact .looked b.events surveyed

theorem controls_epochRanking {a b : Allocator σ} {ranking : Ranking}
    (h : a.epochRanking = .ok (ranking, b)) : Controls a .ranking b := by
  obtain ⟨⟨snapshot, c⟩, surveyed, seen⟩ := bind_ok h
  cases seen
  exact .looked b.events surveyed

theorem Controls.topology_eq {a b : Allocator σ} {step : Step σ} (h : Controls a step b)
    (other : ∀ topology, step ≠ .changeTopology topology) : b.topology = a.topology := by
  cases h with
  | looked events surveyed => rw [survey_spec surveyed]
  | defaulted events surveyed valid => rw [survey_spec surveyed]
  | topology topology => exact absurd rfl (other topology)
  | _ => rfl

/-- A configuration sets what an allocator places by, and then its default node, if it names one. -/
theorem ofConfig_cases {topology : Topology} {source : σ} {config : Config} {a : Allocator σ}
    (made : ofConfig topology source config = .ok (.ok (), a)) :
    ∃ policyByte localDefault usage, usage.used = 0 ∧ ∃ node,
      Controls { Allocator.new topology source with policyByte, localDefault, usage }
        (.setDefaultNode node) a := by
  unfold ofConfig at made
  split at made
  · cases made
  · rename_i valid _
    have unused : (if valid.threadSafe then (Allocator.new topology source).usage.serialize
        else (Allocator.new topology source).usage).used = 0 := by
      split
      · rfl
      · rfl
    refine ⟨valid.policy.byte, valid.localDefault, _, unused, ?_⟩
    simp only at made
    split at made
    · exact ⟨_, controls_setDefaultNode made⟩
    · cases made
      exact ⟨0, .same⟩

variable [Source σ] {a c : Allocator σ} {answer : Except AllocError BlockId} {size : Nat}
  {hint : Option NodeId}

theorem tryAllocate_cases (h : a.tryAllocate size hint = .ok (answer, c)) :
    ∃ nodes b calls, a.targets hint = .ok (nodes, b) ∧ b.Allocates size nodes answer c calls := by
  obtain ⟨⟨nodes, b⟩, targets, h⟩ := bind_ok h
  obtain ⟨answer', c', calls, allocated, allocates⟩ := allocateAt_spec b size nodes
  simp only [allocated] at h
  cases h
  exact ⟨nodes, b, calls, targets, allocates⟩

theorem tryReallocate_cases {block : BlockId} {r : Region} {head : Header} {payload : Bytes}
    (h : a.tryReallocate (some block) size hint = .ok (answer, c))
    (hr : a.arena.regions[block]? = some r) (hb : r.IsBlock head payload)
    (other : block ≠ a.arena.next) :
    ∃ nodes b calls, a.targets hint = .ok (nodes, b) ∧
      b.Reallocates block head r size nodes answer c calls := by
  obtain ⟨⟨nodes, b⟩, targets, h⟩ := bind_ok h
  have arena : b.arena = a.arena := by rw [targets_spec targets]
  obtain ⟨answer', c', calls, done, ends⟩ := reallocateAt_spec (a := b) size nodes
    (by rw [arena]; exact hr) hb (by rw [arena]; exact other)
  simp only [done] at h
  cases h
  exact ⟨nodes, b, calls, targets, ends⟩

end Allocator

namespace Session

/-- Each name stands for an outstanding block, and no two for the same one. -/
structure Sound (s : Session σ) : Prop where
  live : ∀ entry ∈ s.blocks, ∃ head payload, s.allocator.arena.HasBlock entry.2 head payload
  named : ∀ entry ∈ s.blocks, entry.2 < s.allocator.arena.next
  apart : (s.blocks.map Prod.snd).Nodup

section Sound

variable {s : Session σ} {a b : Allocator σ} {name : BlockName} {block new : BlockId} {head : Header}
  {payload : Bytes} {size : Nat} {nodes : List NodeId} {calls : List Call}

theorem Sound.ne_next (sound : s.Sound) (kept : s.allocator.Idle a)
    (found : s.blocks.find? name = some block) : block ≠ a.arena.next := by
  rw [kept.next]
  exact Nat.ne_of_lt (sound.named _ (Table.mem_of_find? found))

theorem Sound.ne_of_mem_erase (sound : s.Sound) (found : s.blocks.find? name = some block)
    {entry : BlockName × BlockId} (mem : entry ∈ s.blocks.erase name) : entry.2 ≠ block := by
  have apart := ((Table.perm_of_find? found).map Prod.snd).nodup_iff.1 sound.apart
  rw [List.map_cons, List.nodup_cons] at apart
  have there : entry.2 ∈ List.map Prod.snd (s.blocks.erase name) := List.mem_map_of_mem mem
  intro same
  exact apart.1 (same ▸ there)

theorem mem_erase (found : s.blocks.find? name = some block) {entry : BlockName × BlockId}
    (mem : entry ∈ s.blocks) (other : entry.2 ≠ block) : entry ∈ s.blocks.erase name := by
  rcases List.mem_cons.1 ((Table.perm_of_find? found).mem_iff.1 mem) with rfl | mem
  · exact absurd rfl other
  · exact mem

/-- The block that takes the place of another is none of the rest. -/
theorem Sound.ne_new (sound : s.Sound) (kept : s.allocator.Idle a)
    (found : s.blocks.find? name = some block) {origin : Option NodeId}
    (replaces : a.Replaces block head payload size nodes origin new b calls)
    {entry : BlockName × BlockId} (mem : entry ∈ s.blocks.erase name) : entry.2 ≠ new := by
  rcases replaces.name with ⟨rfl, -⟩ | ⟨rfl, -⟩
  · exact sound.ne_of_mem_erase found mem
  · rw [kept.next]
    exact Nat.ne_of_lt (sound.named entry (Table.mem_of_mem_erase mem))

end Sound

variable [Source σ]

/-- A session as it is made: with a new allocator, or with one that has a configuration. -/
inductive Initial : Session σ → Prop
  | new (topology : Topology) (source : σ) : Initial { allocator := .new topology source }
  | ofConfig {topology : Topology} {source : σ} {config : Config} {a : Allocator σ}
    (made : Allocator.ofConfig topology source config = .ok (.ok (), a)) : Initial { allocator := a }

omit [Source σ] in
/-- There are no blocks yet, nothing is counted, and nothing was asked of the source. -/
theorem Initial.untouched {s : Session σ} (made : Initial s) :
    s.blocks = [] ∧ s.allocator.counters = {} ∧ s.allocator.arena.calls = [] := by
  cases made with
  | new topology source => exact ⟨rfl, rfl, rfl⟩
  | ofConfig made =>
    obtain ⟨policy, localDefault, usage, -, node, controls⟩ := Allocator.ofConfig_cases made
    exact ⟨rfl, controls.idle.counters, controls.idle.calls⟩

/-- Two nodes that are equally far from one another, with the caller on the first. -/
def pair : Topology where
  availability := .available
  maxNode := some 1
  nodes := [0, 1]
  callerNode := .ok (some 0)
  distance a b := if a = b then localDistance else remoteDistance

/-- A session on two nodes, with a source that grants what is not very large. -/
def onPair : Session Scripted := { allocator := .new pair {} }

/-- How a step ends that does not halt. -/
inductive Performs (s : Session σ) : Step σ → Value → Session σ → Prop
  /-- The step is about no block, or only reads. -/
  | still {step : Step σ} {value : Value} {b : Allocator σ}
    (quiet : ∀ heap : Heap, heap.next step value = heap) (controls : s.allocator.Controls step b) :
    Performs s step value ⟨b, s.blocks⟩
  | refused {name : BlockName} {size : Nat} {hint : Option NodeId} {nodes : List NodeId}
    {a b : Allocator σ} {error : AllocError} {calls : List Call}
    (targets : s.allocator.targets hint = .ok (nodes, a))
    (refused : a.Allocates size nodes (.error error) b calls) :
    Performs s (.allocate false name size hint) (.refused error) ⟨b, s.blocks⟩
  | placed {fatal : Bool} {name : BlockName} {size : Nat} {hint : Option NodeId}
    {nodes : List NodeId} {a b : Allocator σ} {new : BlockId} {calls : List Call} {value : Value}
    (targets : s.allocator.targets hint = .ok (nodes, a))
    (granted : a.Allocates size nodes (.ok new) b calls) (described : describe b new = .ok value) :
    Performs s (.allocate fatal name size hint) value ⟨b, s.blocks.insert name new⟩
  | copied {name : BlockName} {bytes : Bytes} {nodes : List NodeId} {a b : Allocator σ}
    {new : BlockId} {calls : List Call} {arena : Arena σ} {value : Value}
    (targets : s.allocator.targets none = .ok (nodes, a))
    (granted : a.Allocates bytes.length nodes (.ok new) b calls)
    (written : b.arena.writePayload new 0 bytes = .ok arena)
    (described : describe { b with arena } new = .ok value) :
    Performs s (.allocateCopy name bytes) value ⟨{ b with arena }, s.blocks.insert name new⟩
  /-- Without a block to replace, a new one is asked for. -/
  | afresh {fatal : Bool} {name : BlockName} {size : Nat} {hint : Option NodeId} {value : Value}
    {after : Session σ} (allocates : Performs s (.allocate fatal name size hint) value after) :
    Performs s (.reallocate fatal none name size hint) value after
  | kept {source name : BlockName} {size : Nat} {hint : Option NodeId} {nodes : List NodeId}
    {a b : Allocator σ} {block : BlockId} {head : Header} {payload : Bytes} {r : Region}
    {error : AllocError} {calls : List Call} (found : s.blocks.find? source = some block)
    (hr : s.allocator.arena.regions[block]? = some r) (hb : r.IsBlock head payload)
    (targets : s.allocator.targets hint = .ok (nodes, a))
    (refused : a.Reallocates block head r size nodes (.error error) b calls) :
    Performs s (.reallocate false (some source) name size hint) (.refused error) ⟨b, s.blocks⟩
  | replaced {fatal : Bool} {source name : BlockName} {size : Nat} {hint : Option NodeId}
    {nodes : List NodeId} {a b : Allocator σ} {block new : BlockId} {head : Header}
    {payload : Bytes} {r : Region} {calls : List Call} {value : Value}
    (found : s.blocks.find? source = some block)
    (hr : s.allocator.arena.regions[block]? = some r) (hb : r.IsBlock head payload)
    (targets : s.allocator.targets hint = .ok (nodes, a))
    (granted : a.Reallocates block head r size nodes (.ok new) b calls)
    (described : describe b new = .ok value) :
    Performs s (.reallocate fatal (some source) name size hint) value
      ⟨b, (s.blocks.erase source).insert name new⟩
  | freed {name : BlockName} {block : BlockId} {head : Header} {payload : Bytes}
    (found : s.blocks.find? name = some block)
    (has : s.allocator.arena.HasBlock block head payload) :
    Performs s (.free (some name)) .unit
      ⟨{ s.allocator with
          arena := s.allocator.arena.released block head
          usage := s.allocator.usage.sub head.total
          counters := s.allocator.counters.release },
        s.blocks.erase name⟩
  | written {name : BlockName} {start : Nat} {bytes : Bytes} {block : BlockId} {head : Header}
    {payload : Bytes} {r : Region} (found : s.blocks.find? name = some block)
    (hr : s.allocator.arena.regions[block]? = some r) (hb : r.IsBlock head payload)
    (inside : start + bytes.length ≤ head.size) :
    Performs s (.write name start bytes) .unit
      ⟨{ s.allocator with
          arena := { s.allocator.arena with
            regions := s.allocator.arena.regions.insert block
              (r.overwrite (headerWidth + start) bytes) } },
        s.blocks⟩

variable {s after : Session σ} {value : Value}

omit [Source σ] in
theorem request_cases {fatal : Bool} {size : Nat} {answer : Except AllocError BlockId}
    {a : Allocator σ} {x : Except Halt (Except AllocError BlockId × Allocator σ)}
    (h : request fatal size x = .ok (answer, a)) :
    x = .ok (answer, a) ∧ ∀ error, answer = .error error → fatal = false := by
  obtain ⟨⟨given, b⟩, rfl, h⟩ := bind_ok h
  cases fatal with
  | false =>
    cases h
    exact ⟨rfl, fun _ _ => rfl⟩
  | true =>
    cases given with
    | error error => cases h
    | ok block =>
      cases h
      exact ⟨rfl, fun _ same => by cases same⟩

omit [Source σ] in
theorem granted_cases {name : BlockName} {block : BlockId} {a : Allocator σ}
    (h : s.granted name (.ok block, a) = .ok (value, after)) :
    describe a block = .ok value ∧ after = ⟨a, s.blocks.insert name block⟩ := by
  obtain ⟨given, described, h⟩ := bind_ok h
  cases h
  exact ⟨described, rfl⟩

theorem performs_allocate {fatal : Bool} {name : BlockName} {size : Nat} {hint : Option NodeId}
    (h : s.perform (.allocate fatal name size hint) = .ok (value, after)) :
    Performs s (.allocate fatal name size hint) value after := by
  obtain ⟨⟨answer, b⟩, requested, given⟩ := bind_ok h
  obtain ⟨tried, careful⟩ := request_cases requested
  obtain ⟨nodes, a, calls, targets, allocates⟩ := Allocator.tryAllocate_cases tried
  cases answer with
  | error error =>
    rw [careful error rfl]
    cases given
    exact .refused targets allocates
  | ok new =>
    obtain ⟨described, rfl⟩ := granted_cases given
    exact .placed targets allocates described

theorem performs_allocateCopy {name : BlockName} {bytes : Bytes}
    (h : s.perform (.allocateCopy name bytes) = .ok (value, after)) :
    Performs s (.allocateCopy name bytes) value after := by
  obtain ⟨⟨new, c⟩, copied, h⟩ := bind_ok h
  obtain ⟨⟨block, b⟩, allocated, copied⟩ := bind_ok copied
  obtain ⟨arena, written, copied⟩ := bind_ok copied
  cases copied
  obtain ⟨⟨answer, b'⟩, tried, orHalt⟩ := bind_ok allocated
  cases answer with
  | error error => cases orHalt
  | ok new =>
    cases orHalt
    obtain ⟨nodes, a, calls, targets, allocates⟩ := Allocator.tryAllocate_cases tried
    obtain ⟨described, rfl⟩ := granted_cases h
    exact .copied targets allocates written described

theorem performs_reallocate (sound : s.Sound) {fatal : Bool} {source name : BlockName} {size : Nat}
    {hint : Option NodeId}
    (h : s.perform (.reallocate fatal (some source) name size hint) = .ok (value, after)) :
    Performs s (.reallocate fatal (some source) name size hint) value after := by
  simp only [perform] at h
  split at h
  · cases h
    exact .still (fun _ => rfl) .same
  · rename_i block found
    obtain ⟨⟨answer, b⟩, requested, given⟩ := bind_ok h
    obtain ⟨tried, careful⟩ := request_cases requested
    obtain ⟨head, payload, r, hr, hb⟩ := sound.live _ (Table.mem_of_find? found)
    have other := Nat.ne_of_lt (sound.named _ (Table.mem_of_find? found))
    obtain ⟨nodes, a, calls, targets, ends⟩ := Allocator.tryReallocate_cases tried hr hb other
    cases answer with
    | error error =>
      rw [careful error rfl]
      cases given
      exact .kept found hr hb targets ends
    | ok new =>
      obtain ⟨described, rfl⟩ := granted_cases given
      exact .replaced found hr hb targets ends described

theorem performs_free (sound : s.Sound) {name : BlockName}
    (h : s.perform (.free (some name)) = .ok (value, after)) :
    Performs s (.free (some name)) value after := by
  simp only [perform] at h
  split at h
  · cases h
    exact .still (fun _ => rfl) .same
  · rename_i block found
    obtain ⟨head, payload, has⟩ := sound.live _ (Table.mem_of_find? found)
    simp only [Allocator.free, Allocator.release_spec has, bind, Except.bind] at h
    cases h
    exact .freed found has

theorem performs_write (sound : s.Sound) {name : BlockName} {start : Nat} {bytes : Bytes}
    (h : s.perform (.write name start bytes) = .ok (value, after)) :
    Performs s (.write name start bytes) value after := by
  simp only [perform] at h
  split at h
  · cases h
    exact .still (fun _ => rfl) .same
  · rename_i block found
    obtain ⟨head, payload, r, hr, hb⟩ := sound.live _ (Table.mem_of_find? found)
    obtain ⟨arena, written, h⟩ := bind_ok h
    cases h
    by_cases covered : r.covers (headerWidth + start) bytes.length = true
    · have inside : start + bytes.length ≤ head.size := by
        have := hb.covers_iff.1 covered
        omega
      rw [Arena.writePayload, Arena.write_of_covers hr covered] at written
      cases written
      exact .written found hr hb inside
    · simp only [Arena.writePayload, Arena.write, Arena.touch, hr, covered, bind, Except.bind] at written
      cases written

/-- **What a step of a sound session does unless it halts** is one of the things that `Performs` lists. -/
theorem perform_cases (sound : s.Sound) {step : Step σ} (h : s.perform step = .ok (value, after)) :
    Performs s step value after := by
  cases step with
  | allocate => exact performs_allocate h
  | allocateCopy => exact performs_allocateCopy h
  | reallocate fatal source =>
    cases source with
    | none => exact .afresh (performs_allocate h)
    | some source => exact performs_reallocate sound h
  | free name =>
    cases name with
    | none => cases h; exact .still (fun _ => rfl) .same
    | some name => exact performs_free sound h
  | write => exact performs_write sound h
  | read =>
    simp only [perform] at h
    split at h
    · cases h
      exact .still (fun _ => rfl) .same
    · obtain ⟨bytes, -, h⟩ := bind_ok h
      cases h
      exact .still (fun _ => rfl) .same
  | info =>
    simp only [perform] at h
    split at h
    · cases h
      exact .still (fun _ => rfl) .same
    · obtain ⟨described, -, h⟩ := bind_ok h
      cases h
      exact .still (fun _ => rfl) .same
  | setPolicy policy => cases h; exact .still (fun _ => rfl) (Allocator.controls_setPolicy _ _)
  | setDefaultNode =>
    obtain ⟨⟨answer, a⟩, set, h⟩ := bind_ok h
    cases h
    exact .still (fun _ => rfl) (Allocator.controls_setDefaultNode set)
  | clearDefaultNode => cases h; exact .still (fun _ => rfl) .cleared
  | resetTopology => cases h; exact .still (fun _ => rfl) (.ended _)
  | shutdown => cases h; exact .still (fun _ => rfl) (Allocator.controls_shutdown _)
  | serialize => cases h; exact .still (fun _ => rfl) (.serialized _)
  | policy => cases h; exact .still (fun _ => rfl) .same
  | defaultNode => cases h; exact .still (fun _ => rfl) .same
  | currentNode =>
    obtain ⟨⟨node, a⟩, seen, h⟩ := bind_ok h
    cases h
    exact .still (fun _ => rfl) (Allocator.controls_currentNode seen)
  | availability =>
    obtain ⟨⟨node, a⟩, seen, h⟩ := bind_ok h
    cases h
    exact .still (fun _ => rfl) (Allocator.controls_epochAvailability seen)
  | isSerialized => cases h; exact .still (fun _ => rfl) .same
  | ranking =>
    obtain ⟨⟨node, a⟩, seen, h⟩ := bind_ok h
    cases h
    exact .still (fun _ => rfl) (Allocator.controls_epochRanking seen)
  | changeTopology topology => cases h; exact .still (fun _ => rfl) (.topology topology)
  | changeSource change => cases h; exact .still (fun _ => rfl) (.source change)
  | install config =>
    cases config with
    | error error => cases h; exact .still (fun _ => rfl) .same
    | ok config => cases h; exact .still (fun _ => rfl) .same

/-- **A step halts and changes nothing, or ends as what it performs does.** -/
theorem step_performed (s : Session σ) (step : Step σ) :
    (∃ halt, s.step step = (answer s s (.halted halt), s)) ∨
      ∃ value after, s.perform step = .ok (value, after) ∧
        s.step step = (answer s after value, after) := by
  cases attempted : s.attempt step with
  | error halt => exact .inl ⟨halt, by simp only [step_eq, attempted]⟩
  | ok result =>
    obtain ⟨⟨value, after⟩, performed, unbroken⟩ := bind_ok attempted
    simp only [Allocator.unlessBroken] at unbroken
    split at unbroken
    · cases unbroken
    · cases unbroken
      exact .inr ⟨value, after, performed, by simp only [step_eq, attempted]⟩

/-- What a step performs is done, unless the source breaks down. -/
theorem step_of_perform {step : Step σ} (performed : s.perform step = .ok (value, after)) :
    (s.step step).2 = s ∨ (s.step step).2 = after := by
  rcases step_performed s step with ⟨halt, halted⟩ | ⟨value', after', performed', ended⟩
  · exact .inl (by rw [halted])
  · rw [performed] at performed'
    cases performed'
    exact .inr (by rw [ended])

theorem step_changeTopology (s : Session σ) (topology : Topology) :
    (s.step (.changeTopology topology)).2 = s ∨
      (s.step (.changeTopology topology)).2 = { s with allocator := { s.allocator with topology } } :=
  step_of_perform rfl

/-- **A step of a sound session halts and changes nothing, or does one of the things that `Performs`
lists.** -/
theorem step_cases (sound : s.Sound) (step : Step σ) :
    (∃ halt, (s.step step).1.value = .halted halt) ∧ (s.step step).2 = s ∨
      Performs s step (s.step step).1.value (s.step step).2 := by
  rcases step_performed s step with ⟨halt, halted⟩ | ⟨value, after, performed, ended⟩
  · rw [halted]
    exact .inl ⟨⟨halt, rfl⟩, rfl⟩
  · rw [ended]
    exact .inr (perform_cases sound performed)

end Session

end NodeHeap
