import Mathlib.Data.List.Basic
import NodeHeap.Crew.Basic
import NodeHeap.Proofs.CallCounts
import NodeHeap.Proofs.Holdings

/-!
# The steps of a crew

What one step of a crew can be, said once. Everything that is proved of schedules is proved of these steps
first.

* `BlockRow.owned` — the blocks in a row by name; `perm_of_take?`: a row loses just the block that is taken.
* `Worker.Advances` — what a step of a worker can be; `advance_cases`: it can be nothing else.
* `Crew.Steps` — what a step of a crew can be; `step_cases`: it can be nothing else.
* `perm_owned_handOver`, `map_handOver` — what a block that changes hands changes, and what it does not.
-/

namespace NodeHeap

variable {σ : Type}

/-! ## Rows -/

namespace BlockRow

def owned (row : BlockRow) : List (Birth × BlockId) :=
  row.table.filterMap fun entry => entry.2.map (entry.1, ·)

variable {row rest : BlockRow} {birth : Birth} {block : Option BlockId}

theorem owned_push (row : BlockRow) (birth : Birth) (block : Option BlockId) :
    (row.push birth block).owned = row.owned ++ (block.map (birth, ·)).toList := by
  cases block <;> simp [owned]

theorem find?_of_take? (taken : row.take? birth = some (block, rest)) :
    row.table.find? birth = some block ∧ rest.table = row.table.erase birth := by
  have told := table_take? row birth
  rw [taken] at told
  obtain ⟨there, found, same⟩ := Option.map_eq_some_iff.1 told.symm
  obtain ⟨rfl, erased⟩ := Prod.mk.inj same
  exact ⟨found, erased.symm⟩

theorem perm_of_take? (taken : row.take? birth = some (block, rest)) :
    row.table.Perm ((birth, block) :: rest.table) := by
  obtain ⟨found, erased⟩ := find?_of_take? taken
  rw [erased]
  exact Table.perm_of_find? found

theorem perm_owned_of_take? (taken : row.take? birth = some (block, rest)) :
    row.owned.Perm ((block.map (birth, ·)).toList ++ rest.owned) := by
  have lost := (perm_of_take? taken).filterMap fun entry => entry.2.map (entry.1, ·)
  cases block <;> exact lost

end BlockRow

/-! ## Workers -/

def Task.asks : Task → Bool
  | .allocate .. => true
  | .free _ | .handOver .. => false

variable [Source σ]

namespace Worker

/-- What a step of worker number `turn` can be. -/
inductive Advances (w : Worker) (turn : Nat) (a : Allocator σ) : Worker → Allocator σ → Prop
  /-- There is nothing to do, or the worker waits. -/
  | rests (ready : w.stage = .ready) (asks : w.tasks.head?.any Task.asks = false)
    (vain : ∀ birth tasks, w.tasks = .free birth :: tasks → w.blocks.take? birth = none) : Advances w turn a w a
  /-- A block that was refused need not be released. -/
  | skips {birth : Birth} {tasks : List Task} {blocks : BlockRow} (ready : w.stage = .ready)
    (next : w.tasks = .free birth :: tasks) (taken : w.blocks.take? birth = some (none, blocks)) :
    Advances w turn a { w with tasks, blocks, stage := .ready } a
  /-- There can be no such block. -/
  | excludes {size : Nat} {tasks : List Task} {nodes : List NodeId} {b : Allocator σ}
    (ready : w.stage = .ready) (next : w.tasks = .allocate false size :: tasks)
    (targets : a.targets none = .ok (nodes, b)) (large : totalFor? size = none) :
    Advances w turn a
      { tasks, blocks := w.blocks.push (.asked turn w.asked) none, stage := .ready, asked := w.asked + 1 } b
  | asks {fatal : Bool} {size total : Nat} {tasks : List Task} {nodes : List NodeId} {b : Allocator σ}
    (ready : w.stage = .ready) (next : w.tasks = .allocate fatal size :: tasks)
    (targets : a.targets none = .ok (nodes, b)) (fits : totalFor? size = some total) :
    Advances w turn a
      { w with
        tasks, stage := .asking { fatal, size, total, birth := .asked turn w.asked } nodes,
        asked := w.asked + 1 } b
  | misses {demand : Demand} {node : NodeId} {nodes : List NodeId} (source : σ) (call : Call) (event : Event)
    (asking : w.stage = .asking demand (node :: nodes)) :
    Advances w turn a { w with stage := .missed demand nodes }
      ({ a with arena := Arena.record { a.arena with source } call }.note event)
  | retries {demand : Demand} {nodes : List NodeId} (missed : w.stage = .missed demand nodes) :
    Advances w turn a { w with stage := .asking demand nodes } { a with counters := a.counters.failedAttempt }
  /-- The request is refused, and the worker goes on without the block. -/
  | forgoes {demand : Demand} (source : σ) (call : Call) (asking : w.stage = .asking demand [])
    (bearable : demand.fatal = false) :
    Advances w turn a { w with stage := .ready, blocks := w.blocks.push demand.birth none }
      { a with arena := Arena.record { a.arena with source } call }
  | gets {demand : Demand} {nodes : List NodeId} (origin : Option NodeId) (found : Nat → UInt8) (source : σ)
    (call : Call) (asking : w.stage = .asking demand nodes) :
    Advances w turn a { w with stage := .granted demand a.arena.next origin }
      { a with arena := Arena.enter { a.arena with source } (.fresh origin demand.total found) call }
  | counts {demand : Demand} {region : RegionId} {origin : Option NodeId} (counters : Counters)
    (granted : w.stage = .granted demand region origin)
    (more : counters.allocations = a.counters.allocations + 1) (same : counters.frees = a.counters.frees) :
    Advances w turn a { w with stage := .counted demand region (.ofOption origin) } { a with counters }
  | books {demand : Demand} {region : RegionId} {origin : NodeSlot} {arena : Arena σ}
    (counted : w.stage = .counted demand region origin)
    (headed : a.arena.setHeader region { size := demand.size, origin } = .ok arena) :
    Advances w turn a { w with stage := .ready, blocks := w.blocks.push demand.birth (some region) }
      { a with arena, usage := a.usage.add demand.total }
  | drops {birth : Birth} {tasks : List Task} {block : BlockId} {blocks : BlockRow} {head : Header}
    (ready : w.stage = .ready) (next : w.tasks = .free birth :: tasks)
    (taken : w.blocks.take? birth = some (some block, blocks)) (headed : a.arena.header block = .ok head) :
    Advances w turn a { w with tasks, blocks, stage := .dropped block head }
      { a with usage := a.usage.sub head.total }
  | discounts {block : BlockId} {head : Header} (dropped : w.stage = .dropped block head) :
    Advances w turn a { w with stage := .uncounted block head } { a with counters := a.counters.release }
  | returns {block : BlockId} {head : Header} (uncounted : w.stage = .uncounted block head) :
    Advances w turn a { w with stage := .ready } { a with arena := a.arena.released block head }

variable {w v : Worker} {a b : Allocator σ} {turn : Nat}

/-- The first step of a task. -/
theorem start_cases (ready : w.stage = .ready) (done : w.advance a turn = .ok (v, b)) :
    Advances w turn a v b := by
  obtain ⟨tasks, blocks, stage, asked⟩ := w
  obtain rfl : stage = .ready := ready
  simp only [advance] at done
  split at done
  · rename_i fatal size rest
    obtain ⟨⟨nodes, c⟩, targets, done⟩ := bind_ok done
    cases total : totalFor? size with
    | none =>
      simp only [total, goWithout] at done
      cases fatal with
      | false =>
        cases done
        exact .excludes rfl rfl targets total
      | true => cases done
    | some total =>
      simp only [total] at done
      cases done
      exact .asks rfl rfl targets total
  · rename_i birth rest
    cases taken : blocks.take? birth with
    | none =>
      simp only [taken] at done
      cases done
      refine .rests rfl rfl fun other following next => ?_
      cases next
      exact taken
    | some entry =>
      obtain ⟨block, left⟩ := entry
      simp only [taken] at done
      cases block with
      | none =>
        cases done
        exact .skips rfl rfl taken
      | some block =>
        obtain ⟨head, headed, done⟩ := bind_ok done
        cases done
        exact .drops rfl rfl taken headed
  · cases done
    exact .rests rfl rfl fun _ _ next => by cases next
  · cases done
    exact .rests rfl rfl fun _ _ next => by cases next

/-- A call to the source for a worker that asks for a block. -/
theorem ask_cases {demand : Demand} {nodes : List NodeId} (asking : w.stage = .asking demand nodes)
    (done : w.advance a turn = .ok (v, b)) : Advances w turn a v b := by
  cases nodes with
  | nil =>
    simp only [advance, asking, Arena.alloc] at done
    split at done
    · rename_i region arena heard
      split at heard
      · rename_i source granted
        cases heard
        cases done
        exact .gets none (Source.found source a.arena.next) _ _ asking
      · cases heard
    · rename_i arena heard
      split at heard
      · cases heard
      · cases heard
        unfold goWithout at done
        split at done
        · cases done
        · rename_i bearable
          cases done
          exact .forgoes _ _ asking (Bool.not_eq_true _ ▸ bearable)
  | cons node nodes =>
    simp only [advance, asking, Arena.allocOnNode] at done
    split at done
    · rename_i region arena heard
      split at heard
      · rename_i source granted
        cases heard
        cases done
        exact .gets (some node) (Source.found source a.arena.next) _ _ asking
      · cases heard
    · rename_i arena heard
      split at heard
      · cases heard
      · cases heard
        cases done
        exact .misses _ _ _ asking

/-- A step of a worker is one of the steps that there are. -/
theorem advance_cases (done : w.advance a turn = .ok (v, b)) : Advances w turn a v b := by
  cases stage : w.stage with
  | ready => exact start_cases stage done
  | asking demand nodes => exact ask_cases stage done
  | missed demand nodes =>
    simp only [advance, stage] at done
    cases done
    exact .retries stage
  | granted demand region origin =>
    simp only [advance, stage] at done
    cases done
    refine .counts _ stage ?_ ?_
    · cases origin <;> rfl
    · cases origin <;> rfl
  | counted demand region origin =>
    simp only [advance, stage] at done
    obtain ⟨arena, headed, done⟩ := bind_ok done
    cases done
    exact .books stage headed
  | dropped block head =>
    simp only [advance, stage] at done
    cases done
    exact .discounts stage
  | uncounted block head =>
    simp only [advance, stage] at done
    cases done
    exact .returns stage

/-- Why a step of a worker can halt. -/
inductive Halts (w : Worker) (a : Allocator σ) : Halt → Prop
  /-- The worker is the first one to look at the topology. -/
  | looks {halt : Halt} (unseen : a.snapshot = none) (cut : a.topology.snapshot = .error halt) : Halts w a halt
  /-- A block is needed that there can not be. -/
  | needs {size : Nat} {tasks : List Task} (ready : w.stage = .ready)
    (next : w.tasks = .allocate true size :: tasks) (large : totalFor? size = none) :
    Halts w a (.exhausted size)
  /-- A request is refused that must not be. -/
  | lacks {demand : Demand} (asking : w.stage = .asking demand [])
    (refused : (a.arena.alloc demand.total).1 = none) : Halts w a (.exhausted demand.size)
  /-- There is no memory where a block was granted. -/
  | books {demand : Demand} {region : RegionId} {origin : NodeSlot} {halt : Halt}
    (counted : w.stage = .counted demand region origin)
    (cut : a.arena.setHeader region { size := demand.size, origin } = .error halt) : Halts w a halt
  /-- There is no memory where the worker has a block. -/
  | drops {birth : Birth} {block : BlockId} {blocks : BlockRow} {halt : Halt}
    (taken : w.blocks.take? birth = some (some block, blocks)) (cut : a.arena.header block = .error halt) :
    Halts w a halt

variable {halt : Halt}

omit [Source σ] in
theorem goWithout_error {fatal : Bool} {size : Nat} {birth : Birth}
    (cut : v.goWithout b fatal size birth = .error halt) : fatal = true ∧ halt = .exhausted size := by
  unfold goWithout at cut
  split at cut
  · rename_i needed
    cases cut
    exact ⟨needed, rfl⟩
  · cases cut

omit [Source σ] in
theorem startFree_error {block : BlockId} (cut : v.startFree a block = .error halt) :
    a.arena.header block = .error halt := by
  unfold startFree at cut
  cases headed : a.arena.header block with
  | error cause =>
    rw [headed] at cut
    cases cut
    rfl
  | ok head =>
    rw [headed] at cut
    cases cut

theorem start_error (ready : w.stage = .ready) (cut : w.advance a turn = .error halt) : Halts w a halt := by
  simp only [advance, ready] at cut
  split at cut
  · rename_i fatal size tasks next
    simp only [startAllocate] at cut
    cases targets : a.targets none with
    | error cause =>
      rw [targets] at cut
      cases cut
      exact .looks (Allocator.unseen_of_targets_error targets) (Allocator.snapshot_of_targets_error targets)
    | ok given =>
      simp only [targets, bind, Except.bind] at cut
      split at cut
      · rename_i large
        obtain ⟨rfl, rfl⟩ := goWithout_error cut
        exact .needs ready next large
      · cases cut
  · rename_i birth tasks next
    split at cut
    · rename_i block blocks taken
      exact .drops taken (startFree_error cut)
    · cases cut
    · cases cut
  · cases cut
  · cases cut

theorem advance_error (cut : w.advance a turn = .error halt) : Halts w a halt := by
  cases stage : w.stage with
  | ready => exact start_error stage cut
  | asking demand nodes =>
    cases nodes with
    | nil =>
      simp only [advance, stage] at cut
      split at cut
      · cases cut
      · rename_i arena refused
        obtain ⟨-, rfl⟩ := goWithout_error cut
        exact .lacks stage (congrArg Prod.fst refused)
    | cons node nodes =>
      simp only [advance, stage] at cut
      split at cut
      · cases cut
      · cases cut
  | counted demand region origin =>
    simp only [advance, stage] at cut
    cases headed : a.arena.setHeader region { size := demand.size, origin } with
    | error cause =>
      rw [headed] at cut
      cases cut
      exact .books stage headed
    | ok arena =>
      rw [headed] at cut
      cases cut
  | missed demand nodes | granted demand region origin | dropped block head | uncounted block head =>
    simp only [advance, stage] at cut
    cases cut

end Worker

/-! ## Crews -/

namespace Crew

def tables (workers : List Worker) : Table Birth (Option BlockId) := workers.flatMap fun w => w.blocks.table

def owned (workers : List Worker) : List (Birth × BlockId) := workers.flatMap fun w => w.blocks.owned

omit [Source σ] in
theorem owned_eq (workers : List Worker) :
    owned workers = (tables workers).filterMap fun entry => entry.2.map (entry.1, ·) := by
  rw [owned, tables, List.filterMap_flatMap]
  rfl

omit [Source σ] in
/-- The worker at a place, and the others. -/
theorem focus {workers : List Worker} {turn : Nat} {w : Worker} (found : workers[turn]? = some w) :
    ∃ front back, front.length = turn ∧ workers = front ++ w :: back ∧
      ∀ v, workers.set turn v = front ++ v :: back := by
  obtain ⟨inside, rfl⟩ := List.getElem?_eq_some_iff.1 found
  refine ⟨workers.take turn, workers.drop (turn + 1), List.length_take_of_le (Nat.le_of_lt inside), ?_, ?_⟩
  · rw [← List.drop_eq_getElem_cons inside, List.take_append_drop]
  · intro v
    exact List.set_eq_take_append_cons_drop.trans (if_pos inside)

omit [Source σ] in
/-- A list for each worker, with that of one of them in front. -/
theorem perm_flatMap_focus {α : Type} (view : Worker → List α) (front : List Worker) (w : Worker)
    (back : List Worker) :
    ((front ++ w :: back).flatMap view).Perm (view w ++ (front ++ back).flatMap view) := by
  simp only [List.flatMap_append, List.flatMap_cons]
  exact List.perm_append_comm_assoc ..

omit [Source σ] in
/-- A list for each worker, when something is done to one of them. -/
theorem perm_flatMap_modify {α : Type} (view : Worker → List α) {workers : List Worker} {turn : Nat} {w : Worker}
    (found : workers[turn]? = some w) :
    ∃ others, (workers.flatMap view).Perm (view w ++ others) ∧
      ∀ v, ((workers.set turn v).flatMap view).Perm (view v ++ others) := by
  obtain ⟨front, back, -, split, set⟩ := focus found
  refine ⟨(front ++ back).flatMap view, ?_, fun v => ?_⟩
  · rw [split]
    exact perm_flatMap_focus view front w back
  · rw [set]
    exact perm_flatMap_focus view front v back

omit [Source σ] in
/-- What changes hands still stands in a row. -/
theorem perm_tables_handOver {workers : List Worker} {giver : Nat} {w : Worker} (found : workers[giver]? = some w)
    (tasks : List Task) (birth : Birth) (receiver : Nat) :
    (tables (handOver workers giver w tasks birth receiver)).Perm (tables workers) := by
  obtain ⟨others, before, given⟩ := perm_flatMap_modify (fun w => w.blocks.table) found
  unfold handOver
  split
  · exact .refl _
  · rename_i block blocks taken
    split
    · rename_i reaches
      have there : receiver < (workers.set giver { w with tasks, blocks }).length := by
        rw [List.length_set]
        exact reaches
      obtain ⟨rest, between, got⟩ := perm_flatMap_modify (fun w => w.blocks.table)
        (List.getElem?_eq_getElem there)
      rw [List.modify_eq_set_getElem?, List.getElem?_eq_getElem there]
      refine (got _).trans ?_
      simp only [BlockRow.table_push, List.append_assoc]
      refine List.perm_middle.trans ((between.symm.cons _).trans (((given _).cons _).trans ?_))
      exact ((BlockRow.perm_of_take? taken).append_right others).symm.trans before.symm
    · exact (given _).trans before.symm

omit [Source σ] in
/-- A block that changes hands is still owned. -/
theorem perm_owned_handOver {workers : List Worker} {giver : Nat} {w : Worker} (found : workers[giver]? = some w)
    (tasks : List Task) (birth : Birth) (receiver : Nat) :
    (owned (handOver workers giver w tasks birth receiver)).Perm (owned workers) := by
  rw [owned_eq, owned_eq]
  exact (perm_tables_handOver found tasks birth receiver).filterMap _

omit [Source σ] in
/-- When a block changes hands, only rows change, and the tasks of the giver. -/
theorem map_handOver {α : Type} (view : Worker → α) {workers : List Worker} {giver : Nat} {w : Worker}
    (found : workers[giver]? = some w) {tasks : List Task} {birth : Birth} {receiver : Nat}
    (same : ∀ v blocks, view { v with blocks } = view v)
    (given : ∀ blocks, view { w with tasks, blocks } = view w) :
    (handOver workers giver w tasks birth receiver).map view = workers.map view := by
  have set (blocks : BlockRow) : (workers.set giver { w with tasks, blocks }).map view = workers.map view := by
    obtain ⟨inside, rfl⟩ := List.getElem?_eq_some_iff.1 found
    rw [List.map_set, given, ← List.getElem_map view, List.set_getElem_self]
    rw [List.length_map]
    exact inside
  unfold handOver
  split
  · rfl
  · rename_i block blocks taken
    split
    · refine .trans ?_ (set blocks)
      apply List.ext_getElem?
      intro i
      rw [List.getElem?_map, List.getElem?_map, List.getElem?_modify]
      cases (workers.set giver { w with tasks, blocks })[i]? with
      | none => rfl
      | some v =>
        simp only [Option.map_some, Option.map_eq_map]
        split
        · exact congrArg some (same v _)
        · rfl
    · exact set w.blocks

/-- What a step of a crew can be. -/
inductive Steps (c : Crew σ) (turn : Nat) : Crew σ → Prop
  /-- There is no such worker. -/
  | passes (none : c.workers[turn]? = none) : Steps c turn c
  | gives {w : Worker} {birth : Birth} {receiver : Nat} {tasks : List Task} (found : c.workers[turn]? = some w)
    (ready : w.stage = .ready) (next : w.tasks = .handOver birth receiver :: tasks) :
    Steps c turn { c with workers := handOver c.workers turn w tasks birth receiver }
  | works {w v : Worker} {b : Allocator σ} (found : c.workers[turn]? = some w)
    (alone : ∀ birth receiver tasks, w.stage = .ready → w.tasks ≠ .handOver birth receiver :: tasks)
    (advances : w.Advances turn c.allocator v b) : Steps c turn ⟨b, c.workers.set turn v⟩

variable {c after : Crew σ} {turn : Nat}

/-- A step of a crew is a step of a worker or passes a block on. -/
theorem step_eq {w : Worker} (found : c.workers[turn]? = some w)
    (alone : ∀ birth receiver tasks, w.stage = .ready → w.tasks ≠ .handOver birth receiver :: tasks) :
    c.step turn = (do
      let (v, allocator) ← (w.advance c.allocator turn).mapError Halt.ofWorker
      return { allocator, workers := c.workers.set turn v }) := by
  unfold step
  rw [found]
  -- The other branch is the one that `alone` rules out.
  simp only

theorem step_of_handOver {w : Worker} {birth : Birth} {receiver : Nat} {tasks : List Task}
    (found : c.workers[turn]? = some w) (ready : w.stage = .ready)
    (next : w.tasks = .handOver birth receiver :: tasks) :
    c.step turn = .ok { c with workers := handOver c.workers turn w tasks birth receiver } := by
  unfold step
  rw [found]
  simp only
  split
  · rename_i name taker rest _ following
    rw [next] at following
    cases following
    rfl
  · rename_i other
    exact absurd next (other birth receiver tasks ready)

/-- The next thing that a worker does is to pass a block on, or its own step. -/
theorem gives_or_alone (w : Worker) :
    (∃ birth receiver tasks, w.stage = .ready ∧ w.tasks = .handOver birth receiver :: tasks) ∨
      ∀ birth receiver tasks, w.stage = .ready → w.tasks ≠ .handOver birth receiver :: tasks := by
  by_cases gives : ∃ birth receiver tasks, w.stage = .ready ∧ w.tasks = .handOver birth receiver :: tasks
  · exact .inl gives
  · exact .inr fun birth receiver tasks ready next => gives ⟨birth, receiver, tasks, ready, next⟩

theorem step_cases (done : c.step turn = .ok after) : c.Steps turn after := by
  cases found : c.workers[turn]? with
  | none =>
    rw [step, found] at done
    cases done
    exact .passes found
  | some w =>
    rcases gives_or_alone w with ⟨birth, receiver, tasks, ready, next⟩ | alone
    · rw [step_of_handOver found ready next] at done
      cases done
      exact .gives found ready next
    · rw [step_eq found alone] at done
      cases advanced : w.advance c.allocator turn with
      | error halt =>
        rw [advanced] at done
        cases done
      | ok next =>
        rw [advanced] at done
        cases done
        exact .works found alone (Worker.advance_cases advanced)

/-- A step of a crew halts only where a worker's step does. -/
theorem step_error {halt : Halt} (cut : c.step turn = .error halt) :
    ∃ w cause, c.workers[turn]? = some w ∧ w.advance c.allocator turn = .error cause ∧
      halt = cause.ofWorker := by
  cases found : c.workers[turn]? with
  | none =>
    rw [step, found] at cut
    cases cut
  | some w =>
    rcases gives_or_alone w with ⟨birth, receiver, tasks, ready, next⟩ | alone
    · rw [step_of_handOver found ready next] at cut
      cases cut
    · rw [step_eq found alone] at cut
      cases advanced : w.advance c.allocator turn with
      | error cause =>
        rw [advanced] at cut
        cases cut
        exact ⟨w, cause, rfl, advanced, rfl⟩
      | ok next =>
        rw [advanced] at cut
        cases cut

end Crew

end NodeHeap
