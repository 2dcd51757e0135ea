import NodeHeap.Probe.Run
import NodeHeap.Proofs.Denials
import NodeHeap.Proofs.NodeCpus

/-!
# What a phase of the probe leaves

A phase of the probe that is not cut short by a halt leaves no block live, and so no byte in use; its own checks find
what they expect. What can cut it short is a list of processors that cannot be held, a request that is denied, records
of its own for which there is no room, or a source that breaks down.

* `Phase.Yields` — what a phase yields, unless a halt cuts it short; `yields_bind`, `yields_call` and the like take a
  phase apart.
* `Asks`, `Operates`, `Cut` — what the probe asks for and does, and why a phase is cut short.
* `Restores` — what a phase leaves.
* `yields_topologyPhase`, `yields_basicPhase`, `yields_placementPhase`, `yields_crewPhase`, `yields_bulkPhase` — what
  each phase yields.
-/

namespace NodeHeap

/-! ## Node trees -/

namespace NodeTree

variable {tree : NodeTree} {grants : Grants} {cpu : Option CpuId} {node : NodeId}

theorem availability_of_mem (listed : node ∈ tree.nodes) : tree.availability = .available := by
  cases tree with
  | missing | plainFile => simp [nodes, entries] at listed
  | directory entries reach =>
    unfold availability
    cases empty : (NodeTree.directory entries reach).nodes with
    | nil =>
      rw [empty] at listed
      cases listed
    | cons first rest => rfl

/-- The number of valid nodes is a word, if every node's id is less than the largest one, and each node that is listed
is valid. -/
theorem addressableNodes_eq (ids : ∀ node ∈ tree.nodes, node < wordLimit - 1) (grants : Grants)
    (cpu : Option CpuId) :
    ∃ count, (tree.topology grants cpu).addressableNodes = .ok count ∧ ∀ node ∈ tree.nodes, node < count := by
  cases last : tree.nodes.getLast? with
  | none =>
    refine ⟨0, ?_, ?_⟩
    · have none : (tree.topology grants cpu).maxNode = none := last
      unfold Topology.addressableNodes
      rw [none]
      cases (tree.topology grants cpu).isAvailable with
      | true => rfl
      | false => rfl
    · rw [List.getLast?_eq_none_iff.1 last]
      exact fun _ mem => (List.not_mem_nil mem).elim
  | some most =>
    obtain ⟨front, whole⟩ := List.getLast?_eq_some_iff.1 last
    have listed : most ∈ tree.nodes := whole ▸ List.mem_append_right _ List.mem_cons_self
    refine ⟨most + 1, ?_, fun node mem => ?_⟩
    · have available : (tree.topology grants cpu).isAvailable = true := by
        simp only [Topology.isAvailable, topology, availability_of_mem listed, Availability.isAvailable]
      unfold Topology.addressableNodes
      rw [available]
      simp only [topology, last]
      exact if_pos (Nat.add_lt_of_lt_sub (ids most listed))
    · have sorted : tree.nodes.Pairwise (· ≤ ·) := sorted_mergeSort _
      rw [whole, List.pairwise_append] at sorted
      rw [whole] at mem
      rcases List.mem_append.1 mem with mem | mem
      · exact Nat.lt_succ_of_le (sorted.2.2 node mem most List.mem_cons_self)
      · rw [List.mem_singleton.1 mem]
        exact Nat.lt_succ_self _

/-- The list of processors of a node cannot be held, for this reason. -/
def Unheld (tree : NodeTree) (grants : Grants) (halt : Halt) : Prop :=
  ∃ node ∈ tree.nodes, tree.cpusOfNode grants node = .error halt

/-- A node that is found for a processor is listed. -/
theorem ends_firstWithCpu (grants : Grants) (cpu : CpuId) (nodes : List NodeId) :
    Ends (fun halt => ∃ node ∈ nodes, tree.cpusOfNode grants node = .error halt)
      (fun found => ∀ node, found = some node → node ∈ nodes) (tree.firstWithCpu grants cpu nodes) := by
  induction nodes with
  | nil => exact .ok fun _ same => by cases same
  | cons first rest ih =>
    unfold firstWithCpu
    cases read : tree.cpusOfNode grants first with
    | error halt => exact .error ⟨first, List.mem_cons_self, read⟩
    | ok cpus =>
      simp only [bind, Except.bind]
      split
      · exact .ok fun node same => by cases same; exact List.mem_cons_self
      · refine ih.imp (fun _ stopped => ?_) fun _ listed node same => List.mem_cons_of_mem _ (listed node same)
        obtain ⟨node, mem, cut⟩ := stopped
        exact ⟨node, List.mem_cons_of_mem _ mem, cut⟩

theorem ends_nodeOfCaller (tree : NodeTree) (grants : Grants) (cpu : Option CpuId) :
    Ends (tree.Unheld grants) (fun found => ∀ node, found = some node → node ∈ tree.nodes)
      (tree.nodeOfCaller grants cpu) := by
  cases cpu with
  | none => exact .ok fun _ same => by cases same
  | some cpu => exact ends_firstWithCpu grants cpu tree.nodes

theorem ends_summaryLines (tree : NodeTree) (grants : Grants) :
    Ends (tree.Unheld grants) (fun _ => ∀ node ∈ tree.nodes, tree.Held grants node) (tree.summaryLines grants) := by
  have counted (nodes : List NodeId) :
      Ends (fun halt => ∃ node ∈ nodes, tree.cpusOfNode grants node = .error halt)
        (fun _ => ∀ node ∈ nodes, tree.Held grants node)
        (nodes.mapM fun node => do
          let cpus ← tree.cpusOfNode grants node
          return s!"  Node {node}: {cpus.length} CPUs") := by
    induction nodes with
    | nil => exact .ok fun _ mem => (List.not_mem_nil mem).elim
    | cons first rest ih =>
      rw [List.mapM_cons]
      cases read : tree.cpusOfNode grants first with
      | error halt => exact .error ⟨first, List.mem_cons_self, read⟩
      | ok cpus =>
        refine (ih.imp (fun halt stopped => ?_) fun _ => id).bind fun lines held => .ok fun node mem => ?_
        · obtain ⟨node, mem, cut⟩ := stopped
          exact ⟨node, List.mem_cons_of_mem _ mem, cut⟩
        · rcases List.mem_cons.1 mem with rfl | mem
          · exact ⟨cpus, read⟩
          · exact held node mem
  exact (counted tree.nodes).bind fun counts held => .ok held

/-- What a snapshot saw of a tree, whatever the processor was and whatever the machine granted: the availability, and
that all nodes are valid. -/
structure Seen (tree : NodeTree) (s : Snapshot) : Prop where
  availability : s.availability = tree.availability
  valid : ∀ node ∈ tree.nodes, node < s.addressable

/-- There is something to see of the tree, unless a list of processors cannot be held. -/
theorem ends_snapshot (ids : ∀ node ∈ tree.nodes, node < wordLimit - 1) (grants : Grants) (cpu : Option CpuId) :
    Ends (tree.Unheld grants) tree.Seen (tree.topology grants cpu).snapshot := by
  obtain ⟨count, counted, valid⟩ := addressableNodes_eq ids grants cpu
  have looked := ends_nodeOfCaller tree grants cpu
  have caller : (tree.topology grants cpu).callerNode = tree.nodeOfCaller grants cpu := rfl
  simp only [Topology.snapshot, Ranking.forCaller, caller, counted, bind, Except.bind]
  cases found : tree.nodeOfCaller grants cpu with
  | error halt =>
    rw [found] at looked
    cases looked with
    | error unheld => exact .error unheld
  | ok node => exact .ok ⟨rfl, valid⟩

end NodeTree

/-- **The caller's node is looked up anew**, where the snapshot that was seen of the tree, maybe from another node,
says that nodes can be used. A node that is found is in the tree, so the snapshot neither hides it nor calls it
invalid. -/
theorem Allocator.InEpoch.ends_currentNode {σ : Type} {a : Allocator σ} {tree : NodeTree} {grants : Grants}
    {cpu : Option CpuId} {s : Snapshot} {held : List Holding} (epoch : a.InEpoch (tree.topology grants cpu) s held)
    (seen : tree.Seen s) :
    Ends (tree.Unheld grants)
      (fun given => given.2 = a ∧ tree.nodeOfCaller grants cpu = .ok given.1 ∧
        ∀ node, given.1 = some node → node ∈ tree.nodes) a.currentNode := by
  have available {node : NodeId} (listed : node ∈ tree.nodes) : s.availability.isAvailable = true := by
    rw [seen.availability, NodeTree.availability_of_mem listed]
    rfl
  have looked := tree.ends_nodeOfCaller grants cpu
  have caller : (tree.topology grants cpu).callerNode = tree.nodeOfCaller grants cpu := rfl
  rw [epoch.currentNode_eq, caller]
  cases found : tree.nodeOfCaller grants cpu with
  | error halt =>
    rw [found] at looked
    cases looked with
    | error unheld =>
      obtain ⟨node, listed, cut⟩ := unheld
      rw [if_pos (available listed)]
      exact .error ⟨node, listed, cut⟩
  | ok node =>
    rw [found] at looked
    cases looked with
    | ok listed =>
      split
      · exact .ok ⟨rfl, rfl, listed⟩
      · rename_i hidden
        cases node with
        | none => exact .ok ⟨rfl, rfl, fun _ same => by cases same⟩
        | some node => exact absurd (available (listed node rfl)) hidden

namespace Probe

variable {σ : Type}

/-! ## Phases -/

namespace Phase

variable {α β : Type} {cut : Allocator σ → Halt → Prop} {t : Transcript σ}

/-- From a transcript on, a phase gives a value and leaves a transcript with a property, or it is cut short by a halt,
for one of some reasons that are told of the allocator as it was last. -/
def Yields (cut : Allocator σ → Halt → Prop) (p : Phase σ α) (t : Transcript σ)
    (post : α → Transcript σ → Prop) : Prop :=
  match (ExceptT.run p).run t with
  | (.ok value, after) => post value after
  | (.error (.halted halt), after) => cut after.allocator halt
  | (.error _, _) => False

theorem yields_bind (p : Phase σ α) (f : α → Phase σ β) (post : β → Transcript σ → Prop) :
    Yields cut (p >>= f) t post ↔ Yields cut p t fun value after => Yields cut (f value) after post := by
  unfold Yields
  simp only [ExceptT.run_bind, StateT.run_bind]
  generalize (ExceptT.run p).run t = done
  obtain ⟨given | value, after⟩ := done
  · cases given <;> rfl
  · rfl

theorem Yields.imp {p : Phase σ α} {post later : α → Transcript σ → Prop} (h : Yields cut p t post)
    (weaker : ∀ value after, post value after → later value after) : Yields cut p t later := by
  unfold Yields at h ⊢
  split at h
  · exact weaker _ _ h
  · exact h
  · exact h.elim

theorem yields_print (line : String) (post : Unit → Transcript σ → Prop) :
    Yields cut (print line) t post ↔ post () { t with lines := t.lines ++ [line] } := .rfl

theorem yields_printAll (lines : List String) (post : Unit → Transcript σ → Prop) :
    Yields cut (printAll lines) t post ↔ post () { t with lines := t.lines ++ lines } := .rfl

theorem yields_allocator (post : Allocator σ → Transcript σ → Prop) :
    Yields cut allocator t post ↔ post t.allocator t := .rfl

theorem yields_used (post : Nat → Transcript σ → Prop) :
    Yields cut used t post ↔ post t.allocator.usedBytes t := .rfl

/-- What is looked at is found, or the look halts. -/
theorem yields_inspect {look : Allocator σ → Except Halt α} {found : α → Prop} {post : α → Transcript σ → Prop}
    (ends : Ends (cut t.allocator) found (look t.allocator)) (next : ∀ value, found value → post value t) :
    Yields cut (inspect look) t post := by
  unfold inspect
  rw [yields_bind, yields_allocator]
  generalize look t.allocator = seen at ends
  cases ends with
  | ok holds => exact next _ holds
  | error because => exact because

theorem yields_look {look : Allocator σ → Except Halt α} {value : α} {post : α → Transcript σ → Prop}
    (seen : look t.allocator = .ok value) (next : post value t) : Yields cut (inspect look) t post := by
  have ends : Ends (cut t.allocator) (· = value) (look t.allocator) := seen.symm ▸ .ok rfl
  refine yields_inspect ends fun other same => ?_
  cases same
  exact next

theorem yields_reveal (topology : Topology) (post : Unit → Transcript σ → Prop) :
    Yields cut (reveal topology) t post ↔ post () { t with allocator := { t.allocator with topology } } := .rfl

/-- There is room for records, or none is made. -/
theorem yields_reserve {grants : Grants} {count width : Nat} {post : Unit → Transcript σ → Prop}
    (short : ∀ halt, reserveRecords grants count width = .error halt → cut t.allocator halt) (next : post () t) :
    Yields cut (reserve grants count width) t post := by
  have ends : Ends (cut t.allocator) (fun _ => True) (reserveRecords grants count width) := by
    cases reserved : reserveRecords grants count width with
    | ok => exact .ok trivial
    | error halt => exact .error (short halt reserved)
  exact yields_inspect ends fun _ _ => next

variable [Source σ]

/-- What an operation answers is got, unless it halts or the source breaks down. -/
theorem yields_call {operation : Allocator σ → Except Halt (α × Allocator σ)} {given : α × Allocator σ → Prop}
    {post : α → Transcript σ → Prop} (ends : Ends (cut t.allocator) given (operation t.allocator))
    (broken : ∀ value b halt, operation t.allocator = .ok (value, b) →
      Source.breakdown? b.arena.source = some halt → cut t.allocator halt)
    (next : ∀ value b, given (value, b) → post value { t with allocator := b }) :
    Yields cut (call operation) t post := by
  unfold call
  rw [yields_bind]
  refine yields_inspect ?_ fun value holds => next value.1 value.2 holds
  cases done : operation t.allocator with
  | error halt =>
    rw [done] at ends
    exact ends
  | ok value =>
    obtain ⟨value, b⟩ := value
    rw [done] at ends
    cases ends with
    | ok holds =>
      simp only [bind, Except.bind, Allocator.unlessBroken]
      cases state : Source.breakdown? b.arena.source with
      | none => exact .ok holds
      | some halt => exact .error (broken value b halt done state)

theorem yields_perform {operation : Allocator σ → Except Halt (Allocator σ)} {given : Allocator σ → Prop}
    {post : Unit → Transcript σ → Prop} (ends : Ends (cut t.allocator) given (operation t.allocator))
    (broken : ∀ b halt, operation t.allocator = .ok b → Source.breakdown? b.arena.source = some halt →
      cut t.allocator halt)
    (next : ∀ b, given b → post () { t with allocator := b }) : Yields cut (perform operation) t post := by
  have answered : Ends (cut t.allocator) (fun found : Unit × Allocator σ => given found.2) (do
      return ((), ← operation t.allocator)) := ends.bind fun b holds => .ok holds
  unfold perform
  refine yields_call answered ?_ fun _ b holds => next b holds
  intro _ b halt done
  obtain ⟨c, performed, same⟩ := bind_ok done
  cases same
  exact broken b halt performed

omit [Source σ] in
/-- A check finds what it expects. -/
theorem yields_checkBaseline {phase : String} {baseline : Nat} {post : Unit → Transcript σ → Prop}
    (same : t.allocator.usedBytes = baseline) (next : post () t) :
    Yields cut (checkBaseline phase baseline) t post := by
  unfold checkBaseline
  rw [yields_bind, yields_used, same, if_neg (not_not_intro rfl)]
  exact next

end Phase

/-! ## Why a phase is cut short -/

/-- The crew that the probe lets work. -/
def crewAt (workers : Nat) (a : Allocator σ) : Crew σ :=
  .ofTasks a workers fun t => Task.batches t 64 (loadSizes 32 256 1 1000 t)

/-- What the probe asks for besides the blocks of its crew and those of one size. -/
inductive Asks : Ask → Prop
  | block : Asks (.block 100 none)
  | copy : Asks (.block 13 none)
  | larger (block : BlockId) : Asks (.resize block 200 none)
  | buffer : Asks (.block 16 none)
  | longer (block : BlockId) : Asks (.resize block 35 none)
  | placed (node : NodeId) : Asks (.block 512 (some node))

variable [Source σ]

/-- What the probe has an allocator do that calls the source, and the allocator after it. -/
inductive Operates (options : Options) (workers : Nat) (schedule : List Nat) (a : Allocator σ) :
    Allocator σ → Prop
  | nothing : Operates options workers schedule a a
  | allocates {size : Nat} {hint : Option NodeId} {block : BlockId} {b : Allocator σ}
    (asks : Asks (.block size hint)) (done : a.allocate size hint = .ok (block, b)) :
    Operates options workers schedule a b
  | copies {block : BlockId} {b : Allocator σ}
    (done : a.allocateCopy (Text.Utf8.encode greeting ++ [0]) = .ok (block, b)) :
    Operates options workers schedule a b
  | reallocates {block new : BlockId} {size : Nat} {b : Allocator σ} (asks : Asks (.resize block size none))
    (done : a.reallocate (some block) size none = .ok (new, b)) : Operates options workers schedule a b
  | makes {buffer : Buffer} {b : Allocator σ}
    (done : Buffer.ofBytes a (Text.Utf8.encode "sds on numalloc") = .ok (buffer, b)) :
    Operates options workers schedule a b
  | appends {buffer longer : Buffer} {b : Allocator σ}
    (done : buffer.appendAll a ([", ", toString a.usedBytes, " bytes in use"].map Text.Utf8.encode) =
      .ok (longer, b)) :
    Operates options workers schedule a b
  | frees {block : BlockId} {b : Allocator σ} (done : a.free (some block) = .ok b) :
    Operates options workers schedule a b
  | works {b : Allocator σ} (done : workCrew workers schedule a = .ok b) : Operates options workers schedule a b
  | labels {blocks : List BlockId} {b : Allocator σ}
    (done : labelBlocks options.blockSize [] a (List.range options.blocks) = .ok (blocks, b)) :
    Operates options workers schedule a b
  | empties {blocks : List BlockId} {b : Allocator σ} (done : releaseAll a blocks = .ok b) :
    Operates options workers schedule a b

/-- Why a halt cuts a run of the probe short, told of the allocator as it was when the probe called it last. -/
inductive Cut (options : Options) (tree : NodeTree) (moments : Moments) (workers : Nat) (schedule : List Nat)
    (a : Allocator σ) : Halt → Prop
  /-- The list of processors of a node cannot be held. -/
  | unheld {halt : Halt} (occasion : Occasion) (unheld : tree.Unheld (moments occasion).grants halt) :
    Cut options tree moments workers schedule a halt
  /-- A request is denied. -/
  | denied {ask : Ask} {halt : Halt} (asks : Asks ask) (denied : a.Denied ask halt) :
    Cut options tree moments workers schedule a halt
  /-- A request of a worker is denied. -/
  | starved {halt : Halt} (lacks : (crewAt workers a).Lacks schedule halt) :
    Cut options tree moments workers schedule a halt
  /-- A request is denied after some of the blocks were given. -/
  | halfway {count : Nat} {blocks : List BlockId} {b : Allocator σ} {halt : Halt} (fewer : count < options.blocks)
    (given : labelBlocks options.blockSize [] a (List.range count) = .ok (blocks, b))
    (denied : b.Denied (.block options.blockSize none) halt) : Cut options tree moments workers schedule a halt
  /-- There can be no block of the size that is asked for. -/
  | tooLarge (asks : 0 < options.blocks) (large : maxTotal < options.blockSize + headerWidth) :
    Cut options tree moments workers schedule a (.exhausted options.blockSize)
  /-- There is no room for the records of the workers. -/
  | workerless {halt : Halt} (cut : reserveRecords (moments .workers).grants workers workerWidth = .error halt) :
    Cut options tree moments workers schedule a halt
  /-- There is no room for the records of the blocks. -/
  | listless {halt : Halt} (cut : reserveRecords (moments .blocks).grants options.blocks Word.width = .error halt) :
    Cut options tree moments workers schedule a halt
  /-- The source broke down. -/
  | broken {b : Allocator σ} {halt : Halt} (operates : Operates options workers schedule a b)
    (broken : Source.breakdown? b.arena.source = some halt) : Cut options tree moments workers schedule a halt

/-- A phase leaves no block live, and has told what it told before and some lines besides. -/
structure Restores (topology : Topology) (snapshot : Snapshot) (before : Transcript σ) (told : List String)
    (after : Transcript σ) : Prop where
  epoch : after.allocator.InEpoch topology snapshot []
  keeps : before.lines <+: after.lines
  tells : told ⊆ after.lines

omit [Source σ] in
theorem Restores.trans {topology other : Topology} {snapshot : Snapshot} {a b c : Transcript σ}
    {told more : List String} (h : Restores topology snapshot a told b) (later : Restores other snapshot b more c) :
    Restores other snapshot a (told ++ more) c :=
  ⟨later.epoch, h.keeps.trans later.keeps,
    List.append_subset.2 ⟨fun _ mem => later.keeps.subset (h.tells mem), later.tells⟩⟩

variable {options : Options} {tree : NodeTree} {moments : Moments} {workers : Nat} {schedule : List Nat}
  {t : Transcript σ} {topology : Topology} {s : Snapshot}

/-- An operation that leaves the source alone does not break it down. -/
theorem yields_idle {α : Type} {operation : Allocator σ → Except Halt (α × Allocator σ)}
    {given : α × Allocator σ → Prop} {post : α → Transcript σ → Prop}
    (ends : Ends (Cut options tree moments workers schedule t.allocator)
      (fun found => found.2.arena = t.allocator.arena ∧ given found) (operation t.allocator))
    (next : ∀ value b, given (value, b) → post value { t with allocator := b }) :
    Phase.Yields (Cut options tree moments workers schedule) (Phase.call operation) t post := by
  refine Phase.yields_call ends (fun value b halt done broken => ?_) fun value b found => next value b found.2
  rw [done] at ends
  cases ends with
  | ok found => exact .broken .nothing (found.1 ▸ broken)

/-- An operation that leaves the source alone answers what it answers. -/
theorem yields_still {α : Type} {operation : Allocator σ → Except Halt (α × Allocator σ)} {value : α}
    {b : Allocator σ} {post : α → Transcript σ → Prop} (done : operation t.allocator = .ok (value, b))
    (still : b.arena.source = t.allocator.arena.source) (next : post value { t with allocator := b }) :
    Phase.Yields (Cut options tree moments workers schedule) (Phase.call operation) t post := by
  have answered : Ends (Cut options tree moments workers schedule t.allocator) (· = (value, b)) (operation t.allocator) :=
    done.symm ▸ .ok rfl
  refine Phase.yields_call answered ?_ ?_
  · intro _ c halt again broken
    cases done.symm.trans again
    exact .broken .nothing (still ▸ broken)
  · intro _ c same
    cases same
    exact next

theorem yields_quiet {operation : Allocator σ → Except Halt (Allocator σ)} {b : Allocator σ}
    {post : Unit → Transcript σ → Prop} (done : operation t.allocator = .ok b)
    (still : b.arena.source = t.allocator.arena.source) (next : post () { t with allocator := b }) :
    Phase.Yields (Cut options tree moments workers schedule) (Phase.perform operation) t post :=
  yields_still (by simp only [done]; rfl) still next

/-- A request gives what it gives, or is denied, unless the source breaks down. -/
theorem yields_request {α : Type} {operation : Allocator σ → Except Halt (α × Allocator σ)}
    {given : α × Allocator σ → Prop} {post : α → Transcript σ → Prop} {ask : Ask} (asks : Asks ask)
    (ends : Ends (t.allocator.Denied ask) given (operation t.allocator))
    (operates : ∀ value b, operation t.allocator = .ok (value, b) → Operates options workers schedule t.allocator b)
    (next : ∀ value b, given (value, b) → post value { t with allocator := b }) :
    Phase.Yields (Cut options tree moments workers schedule) (Phase.call operation) t post :=
  Phase.yields_call (ends.imp (fun _ => .denied asks) fun _ => id)
    (fun value b _ done broken => .broken (operates value b done) broken) next

/-- A live block is released, unless the source breaks down. -/
theorem yields_free {block : BlockId} {cell : Cell} {rest : List Holding} {post : Unit → Transcript σ → Prop}
    (epoch : t.allocator.InEpoch topology s ((block, cell) :: rest))
    (next : ∀ b : Allocator σ, b.InEpoch topology s rest → post () { t with allocator := b }) :
    Phase.Yields (Cut options tree moments workers schedule) (Phase.perform fun a => a.free (some block)) t post := by
  obtain ⟨b, released, after⟩ := epoch.release
  have freed : t.allocator.free (some block) = .ok b := released
  have ends : Ends (Cut options tree moments workers schedule t.allocator) (·.InEpoch topology s rest)
      (t.allocator.free (some block)) := freed.symm ▸ .ok after
  exact Phase.yields_perform ends (fun c halt done broken => .broken (.frees done) broken) next

/-- **The topology is told** if all lists of processors can be held. -/
theorem yields_topologyPhase (holds : t.allocator.Holds []) (unseen : t.allocator.snapshot = none)
    (ids : ∀ node ∈ tree.nodes, node < wordLimit - 1) :
    Phase.Yields (Cut options tree moments workers schedule) (topologyPhase tree moments) t fun _ after =>
      (∀ node ∈ tree.nodes, tree.Held (moments .summary).grants node) ∧
        ∃ snapshot, tree.Seen snapshot ∧ after.allocator.InEpoch ((moments .ranking).topology tree) snapshot [] := by
  unfold topologyPhase
  rw [Phase.yields_bind]
  refine Phase.yields_inspect ((tree.ends_summaryLines _).imp (fun _ => .unheld .summary) fun _ => id)
    fun summary held => ?_
  -- The ranking is asked for in any case.
  have rest (lines : List String) :
      Phase.Yields (Cut options tree moments workers schedule)
        (do
          Phase.reveal ((moments .ranking).topology tree)
          Phase.print s!"Policy: {(← Phase.allocator).policy.name}"
          let ranking ← Phase.call Allocator.epochRanking
          Phase.print s!"Ranking: {Text.bracketed ranking.order}"
          Phase.print "")
        { t with lines } fun _ after => (∀ node ∈ tree.nodes, tree.Held (moments .summary).grants node) ∧
          ∃ snapshot, tree.Seen snapshot ∧
            after.allocator.InEpoch ((moments .ranking).topology tree) snapshot [] := by
    simp only [Phase.yields_bind, Phase.yields_print, Phase.yields_allocator, Phase.yields_reveal]
    have shown : Allocator.Holds { t.allocator with topology := (moments .ranking).topology tree } [] :=
      holds.idle ⟨⟨rfl, rfl, rfl⟩, rfl, rfl⟩
    have looked := NodeTree.ends_snapshot ids (moments .ranking).grants (moments .ranking).cpu
    have ranked := Allocator.ends_epochRanking shown unseen looked
    exact yields_idle (ranked.imp (fun _ => .unheld .ranking) fun _ => id) fun _ _ epoch => ⟨held, epoch⟩
  rw [Phase.yields_bind, Phase.yields_print, Phase.yields_bind, Phase.yields_printAll]
  -- Distances are told where nodes are available.
  dsimp only
  split
  · rw [Phase.yields_bind, Phase.yields_printAll]
    exact rest _
  · exact rest _

/-- The buffer of the probe takes the bytes in use, for which it has to grow. -/
theorem ends_appendAll_usage {a : Allocator σ} {buffer : Buffer} {rest : List Holding}
    (given : Filled.Given topology s rest (Text.Utf8.encode "sds on numalloc")
      (Text.Utf8.encode "sds on numalloc").length (buffer, a))
    (total : Holding.total rest = 245) :
    Ends (a.Denied (.resize buffer.block 35 none))
      (fun longer => ∃ g : Filled, g.buffer = longer.1 ∧ longer.2.InEpoch topology s (g.holding :: rest))
      (buffer.appendAll a ([", ", toString a.usedBytes, " bytes in use"].map Text.Utf8.encode)) := by
  obtain ⟨f, rfl, content, capacity, held⟩ := given
  have own : (Text.Utf8.encode "sds on numalloc").length = 15 := by decide +kernel
  have length : f.buffer.length = 15 := by rw [← f.measured, content, own]
  have capacity : f.buffer.length + f.buffer.avail = 15 := capacity.trans own
  have size : f.cell.size = 16 := f.sized.trans (congrArg (· + 1) capacity)
  have usage : a.usedBytes = 277 := held.usedBytes_eq.trans (by
    have more : Holding.total (f.holding :: rest) = f.cell.size + headerWidth + Holding.total rest := rfl
    rw [more, size, total]
    rfl)
  have pieces : ([toString a.usedBytes, " bytes in use"].map Text.Utf8.encode).flatten.length = 16 := by
    rw [usage]
    decide +kernel
  have comma : (Text.Utf8.encode ", ").length = 2 := by decide +kernel
  have grown : (f.buffer.length + (Text.Utf8.encode ", ").length) * 2 + 1 = 35 := by rw [length, comma]
  have fits : (f.buffer.length + (Text.Utf8.encode ", ").length) * 2 + 1 + headerWidth ≤ maxTotal := by
    rw [grown]
    decide
  have room := Filled.ends_appendAll_grown held (by omega) fits (Nat.le_trans (Nat.le_of_eq pieces) (by omega))
  rw [grown] at room
  exact room.imp (fun _ => id) fun _ ⟨g, same, _, _, held⟩ => ⟨g, same, held⟩

/-- **The first blocks come and go.** -/
theorem yields_basicPhase (epoch : t.allocator.InEpoch topology s []) :
    Phase.Yields (Cut options tree moments workers schedule) (basicPhase 0) t fun _ after =>
      Restores topology s t [s!"Used bytes: {213 + 2 * headerWidth}", "After free: 0 bytes"] after := by
  unfold basicPhase
  simp only [Phase.yields_bind, Phase.yields_print, Phase.yields_used]
  refine yields_request .block (epoch.allocate none (by decide)) (fun _ _ => .allocates .block)
    fun block a ⟨_, _, first⟩ => ?_
  have greeted : (Text.Utf8.encode greeting ++ [0]).length = 13 := by decide +kernel
  refine yields_request (greeted ▸ .copy) (first.allocateCopy (by decide +kernel)) (fun _ _ => .copies)
    fun copy b ⟨_, both⟩ => ?_
  have shown : greeting.utf8ByteSize = 12 := by decide +kernel
  have read := both.holds.read List.mem_cons_self (show 0 + greeting.utf8ByteSize ≤ _ by
    rw [greeted, shown]
    exact Nat.le_succ 12)
  refine Phase.yields_look read ?_
  -- The block that is resized is the older one of the two.
  refine yields_request (.larger block) ((both.perm (.swap _ _ _)).reallocate none (by decide))
    (fun _ _ => .reallocates (.larger block)) fun new c ⟨_, _, _, both⟩ => ?_
  have total {one two : Cell} (larger : one.size = 200) (smaller : two.size = 13) :
      Holding.total [(new, one), (copy, two)] = 245 := by
    simp only [Holding.total, List.foldr, larger, smaller]
    rfl
  have usage : c.usedBytes = 245 := both.usedBytes_eq.trans (congrArg (· % wordLimit) (total rfl greeted))
  have expected : c.usedBytes = 0 + 200 + (greeting.utf8ByteSize + 1) + 2 * headerWidth := by
    rw [usage, shown]
    rfl
  dsimp only
  rw [if_neg (not_not_intro expected)]
  simp only [Phase.yields_bind, Phase.yields_print, Phase.yields_used]
  have own : (Text.Utf8.encode "sds on numalloc").length = 15 := by decide +kernel
  refine yields_request (own ▸ .buffer) (Filled.ends_ofBytes_given both (by decide +kernel)) (fun _ _ => .makes)
    fun buffer d given => ?_
  refine yields_request (.longer buffer.block) (ends_appendAll_usage given (total rfl greeted)) (fun _ _ => .appends)
    fun longer e ⟨g, same, held⟩ => ?_
  obtain rfl : g.buffer = longer := same
  refine Phase.yields_look (Filled.display_eq held.holds List.mem_cons_self) ?_
  refine yields_free held fun _ both => ?_
  refine yields_free both fun _ one => ?_
  refine yields_free one fun last none => ?_
  refine yields_quiet rfl rfl ?_
  have unused : last.usedBytes = 0 := none.usedBytes_eq
  refine Phase.yields_checkBaseline unused ⟨none, ?_, ?_⟩
  · simp only [List.append_assoc]
    exact List.prefix_append _ _
  · simp only [usage, unused]
    have told : toString "After free: " ++ toString 0 ++ toString " bytes" = "After free: 0 bytes" := by decide +kernel
    rw [told]
    simp [headerWidth]

/-- **The caller's node can be made the default node**, if there is one, though it need not be the one that the
ranking was made for. -/
theorem yields_placementPhase (epoch : t.allocator.InEpoch topology s []) (seen : tree.Seen s) :
    Phase.Yields (Cut options tree moments workers schedule)
      (placementPhase ((moments .placement).topology tree) 0) t fun _ after =>
      ∃ caller, tree.nodeOfCaller (moments .placement).grants (moments .placement).cpu = .ok caller ∧
        Restores ((moments .placement).topology tree) s t
          (caller.map fun node => s!"Default node set to: {node}").toList after := by
  unfold placementPhase
  simp only [Phase.yields_bind, Phase.yields_print, Phase.yields_reveal]
  have shown : Allocator.InEpoch { t.allocator with topology := (moments .placement).topology tree }
      ((moments .placement).topology tree) s [] :=
    ⟨epoch.holds.idle ⟨⟨rfl, rfl, rfl⟩, rfl, rfl⟩, rfl, epoch.snapshot⟩
  have looked : Ends (Cut options tree moments workers schedule
        { t.allocator with topology := (moments .placement).topology tree })
      (fun given => given.2.arena = t.allocator.arena ∧
        given.2 = { t.allocator with topology := (moments .placement).topology tree } ∧
          tree.nodeOfCaller (moments .placement).grants (moments .placement).cpu = .ok given.1 ∧
            ∀ node, given.1 = some node → node ∈ tree.nodes)
      (Allocator.currentNode { t.allocator with topology := (moments .placement).topology tree }) :=
    (shown.ends_currentNode seen).imp (fun _ => .unheld .placement) fun _ ⟨same, found, listed⟩ =>
      ⟨by rw [same], same, found, listed⟩
  refine yields_idle looked fun caller b ⟨same, found, listed⟩ => ?_
  obtain rfl : b = _ := same
  cases caller with
  | none =>
    simp only [Phase.yields_bind, Phase.yields_print]
    refine ⟨none, found, shown, ?_, List.nil_subset _⟩
    simp only [List.append_assoc]
    exact List.prefix_append _ _
  | some node =>
    have valid := seen.valid node (listed node rfl)
    simp only [Phase.yields_bind, Phase.yields_print, Phase.yields_allocator]
    refine yields_request (.placed _) (shown.allocate _ (by decide)) (fun _ _ => .allocates (.placed _))
      fun block b ⟨_, _, one⟩ => ?_
    have text : (Text.Utf8.encode "Allocated on specific node\x00").length = 27 := by decide +kernel
    have inside : 0 + (Text.Utf8.encode "Allocated on specific node\x00").length ≤ 512 := by
      rw [text]
      decide
    obtain ⟨arena, wrote, still, labelled⟩ := one.write inside
    have written : writeText block "Allocated on specific node\x00" b = .ok { b with arena } := by
      simp only [writeText, wrote]
      rfl
    refine yields_quiet written still ?_
    refine Phase.yields_look (labelled.holds.blockNode List.mem_cons_self) ?_
    refine yields_free labelled fun c none => ?_
    obtain ⟨d, set, same, last⟩ := none.setDefaultNode valid
    refine yields_still set (congrArg Arena.source same) ?_
    simp only [Phase.yields_bind, Phase.yields_print, Phase.yields_allocator]
    refine Phase.yields_checkBaseline last.usedBytes_eq ⟨some node, found, last, ?_, ?_⟩
    · simp only [List.append_assoc]
      exact List.prefix_append _ _
    · simp

theorem fits_of_mem_loadSizes {number size : Nat} (mem : size ∈ loadSizes 32 256 1 1000 number) :
    size + headerWidth ≤ maxTotal := by
  obtain ⟨round, -, rfl⟩ := List.mem_map.1 mem
  have small : (round * 1 + number) % 256 < 256 := Nat.mod_lt _ (by decide)
  have most : 32 + 256 + headerWidth ≤ maxTotal := by decide
  omega

/-- **The crew leaves nothing**, whatever the schedule. -/
theorem yields_crewPhase (epoch : t.allocator.InEpoch topology s []) :
    Phase.Yields (Cut options tree moments workers schedule)
      (crewPhase (moments .workers).grants 0 workers schedule) t fun _ after =>
      Restores topology s t ["Used bytes after join: 0"] after := by
  unfold crewPhase
  simp only [Phase.yields_bind, Phase.yields_print, Phase.yields_used]
  have serial : t.allocator.serialize.InEpoch topology s [] :=
    epoch.idle (Allocator.Controls.serialized _).idle rfl rfl
  refine yields_quiet rfl rfl ?_
  refine Phase.yields_reserve (fun _ => .workerless) ?_
  have work : Ends (Cut options tree moments workers schedule t.allocator.serialize) (·.InEpoch topology s [])
      (workCrew workers schedule t.allocator.serialize) := by
    refine ((Crew.work_batches serial.holds (fun _ _ => fits_of_mem_loadSizes)
      serial.snapshot).imp (fun _ => .starved) fun _ => id).bind fun done left => .ok ?_
    obtain ⟨holds, same, kept⟩ := left
    exact ⟨holds, same.trans serial.topology, kept⟩
  refine Phase.yields_perform work (fun b halt done broken => .broken (.works done) broken) fun b left => ?_
  have unused : b.usedBytes = 0 := left.usedBytes_eq
  refine Phase.yields_checkBaseline unused ⟨left, ?_, ?_⟩
  · simp only [List.append_assoc]
    exact List.prefix_append _ _
  · simp only [unused]
    have told : toString "Used bytes after join: " ++ toString 0 = "Used bytes after join: 0" := by decide +kernel
    rw [told]
    simp

/-- A block is labelled, or denied. -/
theorem ends_labelBlock {a : Allocator σ} {held : List Holding} {size : Nat} (epoch : a.InEpoch topology s held)
    (fits : size + headerWidth ≤ maxTotal) (number : Nat) :
    Ends (a.Denied (.block size none)) (fun given => ∃ cell, given.2.InEpoch topology s ((given.1, cell) :: held))
      (labelBlock size number a) := by
  refine (epoch.allocate none fits).bind fun given allocated => ?_
  obtain ⟨block, b⟩ := given
  obtain ⟨node, found, one⟩ := allocated
  have inside : 0 + ((Text.Utf8.encode s!"Block {number}").take size).length ≤ size := by
    rw [Nat.zero_add]
    exact List.length_take_le _ _
  obtain ⟨arena, wrote, -, labelled⟩ := one.write inside
  simp only [wrote]
  exact .ok ⟨_, labelled⟩

/-- Blocks are labelled, or one is denied after those in front of it. -/
theorem ends_labelBlocks {size : Nat} (fits : size + headerWidth ≤ maxTotal) (numbers : List Nat) {a : Allocator σ}
    {held : List Holding} (epoch : a.InEpoch topology s held) :
    Ends
      (fun halt => ∃ front number back blocks b, numbers = front ++ number :: back ∧
        labelBlocks size (held.map Prod.fst) a front = .ok (blocks, b) ∧ b.Denied (.block size none) halt)
      (fun given => ∃ held, given.1 = held.map Prod.fst ∧ given.2.InEpoch topology s held)
      (labelBlocks size (held.map Prod.fst) a numbers) := by
  induction numbers generalizing a held with
  | nil => exact .ok ⟨held, rfl, epoch⟩
  | cons number rest ih =>
    have first := ends_labelBlock epoch fits number
    unfold labelBlocks
    cases labelled : labelBlock size number a with
    | error halt =>
      rw [labelled] at first
      cases first with
      | error denied => exact .error ⟨[], number, rest, _, a, rfl, rfl, denied⟩
    | ok given =>
      rw [labelled] at first
      cases first with
      | ok more =>
        obtain ⟨block, b⟩ := given
        obtain ⟨cell, more⟩ := more
        refine (ih more).imp ?_ fun _ => id
        rintro halt ⟨front, other, back, blocks, c, whole, done, denied⟩
        refine ⟨number :: front, other, back, blocks, c, congrArg (number :: ·) whole, ?_, denied⟩
        simp only [labelled, bind, Except.bind]
        exact done

/-- The blocks of one size are labelled, or one of them is denied, or there can be none. -/
theorem ends_labelRange {a : Allocator σ} (epoch : a.InEpoch topology s []) :
    Ends (Cut options tree moments workers schedule a)
      (fun given => (0 < options.blocks → options.blockSize + headerWidth ≤ maxTotal) ∧
        ∃ held, given.1 = held.map Prod.fst ∧ given.2.InEpoch topology s held)
      (labelBlocks options.blockSize [] a (List.range options.blocks)) := by
  by_cases fits : options.blockSize + headerWidth ≤ maxTotal
  · refine (ends_labelBlocks fits (List.range options.blocks) epoch).imp ?_ fun _ many => ⟨fun _ => fits, many⟩
    rintro halt ⟨front, number, back, blocks, b, whole, done, denied⟩
    -- The numbers in front of the one whose block is denied are the first ones.
    have count := congrArg List.length whole
    rw [List.length_range, List.length_append, List.length_cons] at count
    have fewer : front.length < options.blocks := by omega
    have numbered := congrArg (List.take front.length) whole
    rw [List.take_range, List.take_left, Nat.min_eq_left (Nat.le_of_lt fewer)] at numbered
    exact .halfway fewer (numbered ▸ done) denied
  · have large := Nat.not_le.1 fits
    cases count : options.blocks with
    | zero => exact .ok ⟨fun some => absurd some (Nat.lt_irrefl 0), [], rfl, epoch⟩
    | succ more =>
      rw [List.range_succ_eq_map]
      simp only [labelBlocks, labelBlock, epoch.allocate_of_large none large, bind, Except.bind]
      exact .error (.tooLarge (count ▸ Nat.succ_pos more) large)

theorem releaseAll_eq (held : List Holding) {a : Allocator σ} (epoch : a.InEpoch topology s held) :
    ∃ b, releaseAll a (held.map Prod.fst) = .ok b ∧ b.InEpoch topology s [] := by
  induction held generalizing a with
  | nil => exact ⟨a, rfl, epoch⟩
  | cons entry rest ih =>
    obtain ⟨b, released, fewer⟩ := epoch.release
    obtain ⟨c, done, none⟩ := ih fewer
    refine ⟨c, ?_, none⟩
    simp only [List.map_cons, releaseAll, Allocator.free, released, bind, Except.bind]
    exact done

/-- **The blocks of one size come and go.** -/
theorem yields_bulkPhase (epoch : t.allocator.InEpoch topology s []) :
    Phase.Yields (Cut options tree moments workers schedule)
      (bulkPhase (moments .blocks).grants 0 options.blocks options.blockSize) t fun _ after =>
      (0 < options.blocks → options.blockSize + headerWidth ≤ maxTotal) ∧
        Restores topology s t ["Memory usage after free: 0 bytes"] after := by
  unfold bulkPhase
  simp only [Phase.yields_bind, Phase.yields_print, Phase.yields_used]
  refine Phase.yields_reserve (fun _ => .listless) ?_
  refine Phase.yields_call (ends_labelRange epoch) (fun _ b halt done broken => .broken (.labels done) broken) ?_
  rintro blocks b ⟨fits, held, rfl, many⟩
  obtain ⟨c, released, none⟩ := releaseAll_eq held.reverse (many.perm (List.reverse_perm held).symm)
  rw [List.map_reverse] at released
  have empty : Ends (Cut options tree moments workers schedule b) (·.InEpoch topology s [])
      (releaseAll b (held.map Prod.fst).reverse) := released.symm ▸ .ok none
  refine Phase.yields_perform empty (fun c halt done broken => .broken (.empties done) broken) fun d none => ?_
  have unused : d.usedBytes = 0 := none.usedBytes_eq
  refine Phase.yields_checkBaseline unused ⟨fits, none, ?_, ?_⟩
  · simp only [List.append_assoc]
    exact List.prefix_append _ _
  · simp only [unused]
    have told : toString "Memory usage after free: " ++ toString 0 ++ toString " bytes" =
      "Memory usage after free: 0 bytes" := by decide +kernel
    rw [told]
    simp

end Probe

end NodeHeap
