import NodeHeap.Memory.System
import NodeHeap.Proofs.ProbePhases

/-!
# All phases of the probe

A run of the probe passes all of its phases, whatever the policy, the answers of the source about nodes, and the
schedule of the workers, unless a halt cuts it short.

* `Passes` — what a run that is not cut short leaves.
* `yields_phases` — the phases one after another.
* `run_passes_or_cut` — what comes of a run.
* `runs_that_do_not_pass` — two runs that are cut short though the source denies nothing.
-/

namespace NodeHeap.Probe

variable {σ : Type}

/-- What the phases leave that are not cut short: each list of processors can be held, and so can a block of the size
that is asked for; each check found what it expects, the node that the probe runs on by then was made the default node
if there is one, no byte is in use, and the last line says so. -/
structure Passes (options : Options) (tree : NodeTree) (moments : Moments) (t : Transcript σ) : Prop where
  held : ∀ node ∈ tree.nodes, tree.Held (moments .summary).grants node
  fits : 0 < options.blocks → options.blockSize + headerWidth ≤ maxTotal
  basic : s!"Used bytes: {213 + 2 * headerWidth}" ∈ t.lines
  restored : ["After free: 0 bytes", "Used bytes after join: 0", "Memory usage after free: 0 bytes"] ⊆ t.lines
  placed : ∃ caller, tree.nodeOfCaller (moments .placement).grants (moments .placement).cpu = .ok caller ∧
    ∀ node, caller = some node → s!"Default node set to: {node}" ∈ t.lines
  unused : t.allocator.usedBytes = 0
  last : t.lines.getLast? = some "All phases passed"

/-- The allocator that a run with these options begins with. -/
def startOf (options : Options) (tree : NodeTree) (moments : Moments) (source : σ) : Allocator σ :=
  { Allocator.new ((moments .summary).topology tree) source with
    localDefault := options.localDefault, policyByte := options.policy.byte }

variable {options : Options} {tree : NodeTree} {moments : Moments}

theorem holds_startOf (options : Options) (tree : NodeTree) (moments : Moments) (source : σ) :
    (startOf options tree moments source).Holds [] :=
  (Session.Initial.holds (.new ((moments .summary).topology tree) source)).idle ⟨⟨rfl, rfl, rfl⟩, rfl, rfl⟩

variable [Source σ]

/-- What comes of the phases in a run, and the transcript that they leave. -/
def through (machine : Machine) (source : σ) (schedule : List Nat) (options : Options) :
    Except Stop Unit × Transcript σ :=
  let tree := machine.tree options.root
  (ExceptT.run (phases options tree machine.moments (options.threads.getD machine.processors) schedule)).run
    { allocator := startOf options tree machine.moments source }

/-- A run goes through the phases if there is a root. -/
theorem run_eq_outcomeOf (machine : Machine) (source : σ) (schedule : List Nat) (root : options.root ≠ "") :
    run machine source schedule options =
      outcomeOf
        (phases options (machine.tree options.root) machine.moments (options.threads.getD machine.processors)
          schedule)
        (startOf options (machine.tree options.root) machine.moments source) := by
  have valid : Config.validate
      { policy := options.policy, localDefault := options.localDefault, sysfsRoot := options.root } =
        .ok { policy := options.policy, localDefault := options.localDefault, sysfsRoot := options.root } := by
    unfold Config.validate
    rw [if_neg fun both => Bool.noConfusion both.1, if_neg root]
  have built : Config.build {} options.settings = .ok
      { policy := options.policy, localDefault := options.localDefault, sysfsRoot := options.root } := valid
  have installed (topology : Topology) :
      Allocator.install none topology source
          { policy := options.policy, localDefault := options.localDefault, sysfsRoot := options.root } =
        .ok (.ok (), some { Allocator.new topology source with
          localDefault := options.localDefault, policyByte := options.policy.byte }) := by
    simp only [Allocator.install, Allocator.ofConfig, valid]
    rfl
  simp only [run, built, installed]
  rfl

/-- **The phases pass**, or one of them is cut short. -/
theorem yields_phases (options : Options) (tree : NodeTree) (moments : Moments) (workers : Nat) (schedule : List Nat)
    (source : σ) (ids : ∀ node ∈ tree.nodes, node < wordLimit - 1) :
    Phase.Yields (Cut options tree moments workers schedule) (phases options tree moments workers schedule)
      { allocator := startOf options tree moments source } fun _ after => Passes options tree moments after := by
  unfold phases
  simp only [Phase.yields_bind, Phase.yields_used, Phase.yields_print]
  refine (yields_topologyPhase (holds_startOf options tree moments source) rfl ids).imp fun _ first told => ?_
  obtain ⟨held, snapshot, seen, epoch⟩ := told
  have baseline : first.allocator.usedBytes = 0 := epoch.usedBytes_eq
  rw [baseline]
  refine (yields_basicPhase epoch).imp fun _ _ basic => ?_
  refine (yields_placementPhase basic.epoch seen).imp fun _ _ ⟨caller, looked, placed⟩ => ?_
  refine (yields_crewPhase placed.epoch).imp fun _ _ crew => ?_
  refine (yields_bulkPhase crew.epoch).imp fun _ last ⟨fits, bulk⟩ => ?_
  -- What one phase told stays told in all later ones.
  have all := basic.trans (placed.trans (crew.trans bulk))
  -- The shutdown ends the epoch, but leaves the blocks and the source alone.
  have still : last.allocator.shutdown.arena = last.allocator.arena := by
    unfold Allocator.shutdown
    split
    · rfl
    · rfl
  have left := all.epoch.holds.idle (Allocator.controls_shutdown last.allocator).idle
  refine yields_quiet rfl (congrArg Arena.source still) ?_
  have kept {line : String} (mem : line ∈ last.lines) : line ∈ last.lines ++ ["All phases passed"] :=
    List.mem_append_left _ mem
  refine ⟨held, fits, kept (all.tells (by simp)), ?_, ⟨caller, looked, fun node here => ?_⟩, left.usedBytes_eq,
    List.getLast?_concat ..⟩
  · refine fun line mem => kept (all.tells ?_)
    rw [List.mem_cons, List.mem_cons, List.mem_singleton] at mem
    rcases mem with rfl | rfl | rfl
    · simp
    · simp
    · simp
  · subst here
    exact kept (all.tells (by simp))

/-- **A run passes all phases**, and ends well, or a halt that cuts a phase short ends it. -/
theorem run_passes_or_cut (machine : Machine) (source : σ) (schedule : List Nat) (options : Options)
    (root : options.root ≠ "") (ids : ∀ node ∈ (machine.tree options.root).nodes, node < wordLimit - 1) :
    (∃ t, through machine source schedule options = (.ok (), t) ∧
      Passes options (machine.tree options.root) machine.moments t ∧
      run machine source schedule options = { exit := some 0, lines := t.lines }) ∨
    ∃ halt t, through machine source schedule options = (.error (.halted halt), t) ∧
      Cut options (machine.tree options.root) machine.moments (options.threads.getD machine.processors) schedule
        t.allocator halt ∧
      run machine source schedule options =
        { exit := (Stop.halted halt).exit, lines := t.lines, complaint := some (Stop.halted halt).message } := by
  have whole := run_eq_outcomeOf machine source schedule root
  have passed := yields_phases options (machine.tree options.root) machine.moments
    (options.threads.getD machine.processors) schedule source ids
  unfold outcomeOf at whole
  unfold Phase.Yields at passed
  unfold through
  rw [whole]
  split at passed
  · rename_i t done
    rw [done]
    exact .inl ⟨t, rfl, passed, rfl⟩
  · rename_i halt t done
    rw [done]
    exact .inr ⟨halt, t, rfl, passed, rfl⟩
  · exact passed.elim

/-- A machine with two nodes, which moves the probe from the first one to the second one after its first look. -/
def twoNodes : Machine where
  tree _ := .directory [
    ⟨some "node0", .directory { cpulist := .text "0-3", distance := .text "10 20" }⟩,
    ⟨some "node70", .directory { cpulist := .text "4-7", distance := .text "20 10" }⟩]
  moments
    | .placement => { cpu := some 5, grants := (· ≤ 4096) }
    | _ => { cpu := some 0, grants := (· ≤ 4096) }
  processors := 2

theorem nodes_twoNodes : (twoNodes.tree systemRoot).nodes = [0, 70] := NodeTree.nodes_eq_of_sorted rfl (by decide)

theorem callerNode_twoNodes :
    ((twoNodes.moments .ranking).topology (twoNodes.tree systemRoot)).callerNode = .ok (some 0) ∧
      ((twoNodes.moments .placement).topology (twoNodes.tree systemRoot)).callerNode = .ok (some 70) := by
  have named : ((twoNodes.tree systemRoot).entries.filterMap Entry.name).Nodup := by decide
  have first : (twoNodes.tree systemRoot).content? 0 cpulistName = some "0-3" := by
    have fits : (NodeTree.nameOfNode 0 ++ "/" ++ cpulistName).utf8ByteSize ≤ Text.Path.limit := by decide +kernel
    rw [NodeTree.content?_of_directory named List.mem_cons_self (by decide) (by decide)]
    exact if_pos fits
  have second : (twoNodes.tree systemRoot).content? 70 cpulistName = some "4-7" := by
    have fits : (NodeTree.nameOfNode 70 ++ "/" ++ cpulistName).utf8ByteSize ≤ Text.Path.limit := by decide +kernel
    rw [NodeTree.content?_of_directory named (List.mem_cons_of_mem _ List.mem_cons_self) (by decide) (by decide)]
    exact if_pos fits
  constructor
  · change (twoNodes.tree systemRoot).firstWithCpu _ 0 (twoNodes.tree systemRoot).nodes = _
    rw [nodes_twoNodes, NodeTree.firstWithCpu, NodeTree.cpusOfNode, first]
    rfl
  · change (twoNodes.tree systemRoot).firstWithCpu _ 5 (twoNodes.tree systemRoot).nodes = _
    rw [nodes_twoNodes, NodeTree.firstWithCpu, NodeTree.cpusOfNode, first]
    change (twoNodes.tree systemRoot).firstWithCpu _ 5 [70] = _
    rw [NodeTree.firstWithCpu, NodeTree.cpusOfNode, second]
    rfl

/-- A run of two workers that overlap, with four blocks. The node that may become the default one is not the one that
the ranking is made for. -/
theorem run_on_two_nodes :
    ((twoNodes.moments .ranking).topology (twoNodes.tree systemRoot)).callerNode = .ok (some 0) ∧
      ((twoNodes.moments .placement).topology (twoNodes.tree systemRoot)).callerNode = .ok (some 70) ∧
    ({ blocks := 4 } : Options).root ≠ "" ∧
      (∀ node ∈ (twoNodes.tree systemRoot).nodes, node < wordLimit - 1) ∧
      ((∃ t, through twoNodes ({} : SystemMemory) [0, 1, 1] { blocks := 4 } = (.ok (), t) ∧
        Passes { blocks := 4 } (twoNodes.tree systemRoot) twoNodes.moments t ∧
        run twoNodes ({} : SystemMemory) [0, 1, 1] { blocks := 4 } = { exit := some 0, lines := t.lines }) ∨
      ∃ halt t, through twoNodes ({} : SystemMemory) [0, 1, 1] { blocks := 4 } = (.error (.halted halt), t) ∧
        Cut { blocks := 4 } (twoNodes.tree systemRoot) twoNodes.moments 2 [0, 1, 1] t.allocator halt ∧
        run twoNodes ({} : SystemMemory) [0, 1, 1] { blocks := 4 } =
          { exit := (Stop.halted halt).exit, lines := t.lines, complaint := some (Stop.halted halt).message }) := by
  have ids : ∀ node ∈ (twoNodes.tree systemRoot).nodes, node < wordLimit - 1 := by
    rw [nodes_twoNodes]
    decide
  exact ⟨callerNode_twoNodes.1, callerNode_twoNodes.2, by decide, ids,
    run_passes_or_cut twoNodes ({} : SystemMemory) [0, 1, 1] { blocks := 4 } (by decide) ids⟩

/-- A machine without nodes, which grants nothing but what no memory is needed for. -/
def treeless : Machine where
  tree _ := .missing
  moments _ := { cpu := none, grants := (· ≤ 64) }
  processors := 1

example : (run treeless ({} : SystemMemory) [] { threads := some 0, blocks := 2 }).lines.getLast? =
    some "All phases passed" := by decide +kernel

/-- A run tells nothing of a tree that it cannot sum up. -/
theorem run_of_summaryLines (machine : Machine) (source : σ) (schedule : List Nat) (root : options.root ≠ "")
    {halt : Halt} (cut : (machine.tree options.root).summaryLines (machine.moments .summary).grants = .error halt) :
    through machine source schedule options =
        (.error (.halted halt), { allocator := startOf options (machine.tree options.root) machine.moments source }) ∧
      run machine source schedule options = stopped (.halted halt) := by
  have done : through machine source schedule options =
      (.error (.halted halt), { allocator := startOf options (machine.tree options.root) machine.moments source }) := by
    unfold through phases topologyPhase Phase.inspect
    simp only [cut]
    rfl
  refine ⟨done, ?_⟩
  rw [run_eq_outcomeOf machine source schedule root]
  unfold outcomeOf
  unfold through at done
  rw [done]
  rfl

theorem summaryLines_endless (grants : Grants) :
    (NodeTree.single "0-18446744073709551615").summaryLines grants = .error .capacityOverflow := by
  have cut : (NodeTree.single "0-18446744073709551615").cpusOfNode grants 70 = .error .capacityOverflow := by
    rw [NodeTree.cpusOfNode, NodeTree.content?_single]
    rfl
  rw [NodeTree.summaryLines, NodeTree.nodes_single, List.mapM_cons, cut]
  rfl

/-- A machine with one node, whose list of processors no machine can hold. -/
def endless (moments : Moments) : Machine where
  tree _ := .single "0-18446744073709551615"
  moments := moments
  processors := 2

/-- Runs that do not pass though no request is denied: one on a node with so many processors that no list holds them,
which asks for nothing, and one with a block that is larger than a block can be. -/
theorem runs_that_do_not_pass :
    (({ threads := some 1, blocks := 0 } : Options).root ≠ "" ∧
      (NodeTree.single "0-18446744073709551615").nodes = [70] ∧
      ∀ (moments : Moments) (source : SystemMemory) (schedule : List Nat),
        (through (endless moments) source schedule { threads := some 1, blocks := 0 }).2.allocator.arena.calls = [] ∧
        run (endless moments) source schedule { threads := some 1, blocks := 0 } =
          { exit := some 101, lines := [], complaint := some (Stop.halted .capacityOverflow).message }) ∧
    (treeless.tree systemRoot).nodes = [] ∧
      (through treeless ({} : SystemMemory) []
        { threads := some 0, blocks := 1, blockSize := wordLimit - 1 }).2.allocator.arena.calls.any Call.isDenial =
          false ∧
      (run treeless ({} : SystemMemory) [] { threads := some 0, blocks := 1, blockSize := wordLimit - 1 }).exit =
        none := by
  refine ⟨⟨by decide, NodeTree.nodes_single _, fun moments source schedule => ?_⟩, by decide +kernel,
    by decide +kernel, by decide +kernel⟩
  obtain ⟨done, ended⟩ := @run_of_summaryLines SystemMemory { threads := some 1, blocks := 0 } _ (endless moments)
    source schedule (by decide) _ (summaryLines_endless _)
  rw [done, ended]
  exact ⟨rfl, rfl⟩

end NodeHeap.Probe
