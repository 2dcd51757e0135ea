import NodeHeap.Proofs.CrewSchedules

/-!
# The work of a crew, done

A crew that works by a schedule and then finishes, one worker after the other, has gone by a schedule from the
first step to the last. So all that holds under every schedule holds of its work; and in the end it is done.

* `Crew.finish_eq_run` — what finishing does is what some schedule does.
* `Task.Returns`, `Worker.Returns` — tasks that release every block they get, and a worker on its way through them;
  `Crew.Done.of_finish`: finishing leaves nothing to do.
* `Task.Firm`, `Crew.Firm` — workers that need each block they ask for; the steps of such a crew refuse nothing, and
  `Crew.Firm.step_error`: they halt where the source does.
* `Crew.work_empty` — what their work leaves; `work_batches`: so it is for those who release their blocks in batches.
-/

namespace NodeHeap

variable {σ : Type}

namespace Crew

variable [Source σ]

theorem run_append (c : Crew σ) (first second : List Nat) :
    c.run (first ++ second) = c.run first >>= fun d => d.run second := by
  induction first generalizing c with
  | nil => rfl
  | cons turn rest ih =>
    simp only [List.cons_append, run]
    cases c.step turn with
    | error halt => rfl
    | ok d => exact ih d

/-- What comes of a crew is what comes of it by some schedule. -/
def ByTurns (c : Crew σ) (done : Except Halt (Crew σ)) : Prop := ∃ turns, done = c.run turns

variable {c : Crew σ} {turn : Nat}

theorem ByTurns.bind {done : Except Halt (Crew σ)} {f : Crew σ → Except Halt (Crew σ)}
    (h : c.ByTurns done) (next : ∀ d, done = .ok d → d.ByTurns (f d)) : c.ByTurns (done >>= f) := by
  obtain ⟨turns, rfl⟩ := h
  cases ran : c.run turns with
  | error halt => exact ⟨turns, ran.symm⟩
  | ok d =>
    obtain ⟨more, same⟩ := next d ran
    refine ⟨turns ++ more, ?_⟩
    rw [run_append, ran]
    exact same

theorem byTurns_self (c : Crew σ) : c.ByTurns (.ok c) := ⟨[], rfl⟩

theorem byTurns_step (c : Crew σ) (turn : Nat) : c.ByTurns (c.step turn) := by
  refine ⟨[turn], ?_⟩
  simp only [run]
  cases c.step turn with
  | error halt => rfl
  | ok d => rfl

/-! ## One worker alone -/

omit [Source σ] in
def put (c : Crew σ) (turn : Nat) (done : Worker × Allocator σ) : Crew σ :=
  ⟨done.2, c.workers.set turn done.1⟩

/-- What comes of a worker comes of the crew by some schedule. -/
def WorkByTurns (c : Crew σ) (turn : Nat) (done : Except Halt (Worker × Allocator σ)) : Prop :=
  c.ByTurns (done.mapError Halt.ofWorker >>= fun done => .ok (c.put turn done))

variable {w : Worker}

omit [Source σ] in
theorem put_self (found : c.workers[turn]? = some w) : c.put turn (w, c.allocator) = c := by
  obtain ⟨inside, rfl⟩ := List.getElem?_eq_some_iff.1 found
  unfold put
  rw [List.set_getElem_self]

omit [Source σ] in
theorem put_put (c : Crew σ) (turn : Nat) (first second : Worker × Allocator σ) :
    (c.put turn first).put turn second = c.put turn second := by
  unfold put
  rw [List.set_set]

omit [Source σ] in
theorem getElem?_put (found : c.workers[turn]? = some w) (done : Worker × Allocator σ) :
    (c.put turn done).workers[turn]? = some done.1 :=
  List.getElem?_set_self (List.getElem?_eq_some_iff.1 found).1

theorem workByTurns_self (found : c.workers[turn]? = some w) :
    c.WorkByTurns turn (.ok (w, c.allocator)) := by
  have same : c.put turn (w, c.allocator) = c := put_self found
  show c.ByTurns (.ok (c.put turn (w, c.allocator)))
  rw [same]
  exact byTurns_self c

theorem WorkByTurns.bind {done : Except Halt (Worker × Allocator σ)}
    {f : Worker × Allocator σ → Except Halt (Worker × Allocator σ)} (h : c.WorkByTurns turn done)
    (next : ∀ given, done = .ok given → (c.put turn given).WorkByTurns turn (f given)) :
    c.WorkByTurns turn (done >>= f) := by
  cases done with
  | error halt => exact h
  | ok given =>
    obtain ⟨turns, first⟩ := h
    obtain ⟨more, second⟩ := next given rfl
    simp only [put_put] at second
    refine ⟨turns ++ more, ?_⟩
    rw [run_append, ← first]
    exact second

theorem workByTurns_advance (found : c.workers[turn]? = some w)
    (alone : ∀ birth receiver tasks, w.stage = .ready → w.tasks ≠ .handOver birth receiver :: tasks) :
    c.WorkByTurns turn (w.advance c.allocator turn) := by
  have stepped := byTurns_step c turn
  rw [step_eq found alone] at stepped
  exact stepped

theorem workByTurns_settle (found : c.workers[turn]? = some w) (steps : Nat) :
    c.WorkByTurns turn (w.settle c.allocator turn steps) := by
  induction steps generalizing c w with
  | zero => exact workByTurns_self found
  | succ steps ih =>
    unfold Worker.settle
    split
    · exact workByTurns_self found
    · rename_i busy
      refine (workByTurns_advance found fun _ _ _ ready => absurd ready busy).bind fun given advanced => ?_
      exact ih (getElem?_put found given)

theorem workByTurns_workAlone (found : c.workers[turn]? = some w) (count : Nat) :
    c.WorkByTurns turn (w.workAlone c.allocator turn count) := by
  induction count generalizing c w with
  | zero => exact workByTurns_settle found _
  | succ count ih =>
    unfold Worker.workAlone
    refine (workByTurns_settle found _).bind fun given settled => ?_
    obtain ⟨v, b⟩ := given
    have there : (c.put turn (v, b)).workers[turn]? = some v := getElem?_put found (v, b)
    dsimp only
    split
    · exact workByTurns_self there
    · exact workByTurns_self there
    · rename_i other
      refine (workByTurns_advance there fun birth receiver tasks _ => other birth receiver tasks).bind
        fun given advanced => ?_
      exact ih (getElem?_put there given)

theorem byTurns_letWork (c : Crew σ) (turn : Nat) : c.ByTurns (c.letWork turn) := by
  unfold letWork
  cases found : c.workers[turn]? with
  | none => exact byTurns_self c
  | some w => exact workByTurns_workAlone found _

theorem byTurns_finishOne (c : Crew σ) (turn count : Nat) : c.ByTurns (c.finishOne turn count) := by
  induction count generalizing c with
  | zero => exact byTurns_letWork c turn
  | succ count ih =>
    unfold finishOne
    refine (byTurns_letWork c turn).bind fun d worked => ?_
    split
    · exact byTurns_self d
    · exact byTurns_self d
    · exact (byTurns_step d turn).bind fun e stepped => ih e

theorem byTurns_finishEach (c : Crew σ) (turns : List Nat) : c.ByTurns (c.finishEach turns) := by
  induction turns generalizing c with
  | nil => exact byTurns_self c
  | cons turn rest ih => exact (byTurns_finishOne c turn _).bind fun d finished => ih d

/-- **What finishing does is what some schedule does.** -/
theorem finish_eq_run (c : Crew σ) : ∃ turns, c.finish = c.run turns := byTurns_finishEach c _

/-- A crew that works by a schedule and finishes has gone by a schedule that goes on. -/
theorem work_eq_run (c : Crew σ) (schedule : List Nat) :
    ∃ more, c.work schedule = c.run (schedule ++ more) := by
  cases ran : c.run schedule with
  | error halt =>
    refine ⟨[], ?_⟩
    simp only [work, ran, List.append_nil]
    rfl
  | ok d =>
    obtain ⟨more, same⟩ := finish_eq_run d
    refine ⟨more, ?_⟩
    rw [run_append, ran]
    simp only [work, ran]
    exact same

end Crew

/-! ## Tasks that leave nothing -/

/-- The tasks release the blocks that are held and all that they get, each after it is there, and pass none on. -/
def Task.Returns (turn : Nat) : (index : Nat) → (held : List Birth) → List Task → Prop
  | _, held, [] => held = []
  | index, held, .allocate _ _ :: rest => Returns turn (index + 1) (.asked turn index :: held) rest
  | index, held, .free birth :: rest => birth ∈ held ∧ Returns turn index (held.erase birth) rest
  | _, _, .handOver .. :: _ => False

theorem Task.Returns.perm {turn index : Nat} {held other : List Birth} {tasks : List Task}
    (returns : Returns turn index held tasks) (same : held.Perm other) : Returns turn index other tasks := by
  induction tasks generalizing index held other with
  | nil =>
    obtain rfl : held = [] := returns
    exact same.nil_eq.symm
  | cons task rest ih =>
    cases task with
    | allocate => exact ih returns (same.cons _)
    | free birth => exact ⟨same.mem_iff.1 returns.1, ih returns.2 (same.erase birth)⟩
    | handOver => exact returns.elim

theorem BlockRow.take?_isSome {row : BlockRow} {birth : Birth} (named : birth ∈ row.table.map Prod.fst) :
    ∃ block rest, row.take? birth = some (block, rest) := by
  have bound : row.table.find? birth ≠ none := by
    generalize row.table = table at named
    induction table with
    | nil => cases named
    | cons entry rest ih =>
      by_cases same : entry.1 = birth
      · simp only [Table.find?, same, if_true]
        exact Option.some_ne_none _
      · simp only [Table.find?, same, if_false]
        exact ih ((List.mem_cons.1 named).resolve_left (Ne.symm same))
  have told := table_take? row birth
  cases taken : row.take? birth with
  | none =>
    rw [taken] at told
    exact absurd (Option.map_eq_none_iff.1 told.symm) bound
  | some found => exact ⟨found.1, found.2, rfl⟩

namespace Worker

/-- What the worker is asking for and what stands in its row. -/
def holds (w : Worker) : List Birth :=
  (w.stage.demand?.map Demand.birth).toList ++ w.blocks.table.map Prod.fst

/-- The worker's tasks release all that it has and gets. -/
def Returns (turn : Nat) (w : Worker) : Prop := Task.Returns turn w.asked w.holds w.tasks

def AtRest (w : Worker) : Prop := w.stage = .ready ∧ w.tasks = []

theorem holds_of_ready {w : Worker} (ready : w.stage = .ready) : w.holds = w.blocks.table.map Prod.fst := by
  rw [holds, ready]
  rfl

variable [Source σ] {w v : Worker} {a b : Allocator σ} {turn : Nat}

/-- A task that takes a block out of the row leaves a worker that releases the others. -/
theorem Returns.take {birth : Birth} {tasks : List Task} {block : Option BlockId} {blocks : BlockRow}
    (returns : w.Returns turn) (ready : w.stage = .ready) (next : w.tasks = .free birth :: tasks)
    (taken : w.blocks.take? birth = some (block, blocks)) :
    Task.Returns turn w.asked (blocks.table.map Prod.fst) tasks := by
  have lost := (BlockRow.perm_of_take? taken).map Prod.fst
  rw [Returns, next, holds_of_ready ready] at returns
  have left := returns.2.perm (lost.erase birth)
  rwa [List.map_cons, List.erase_cons_head] at left

theorem Returns.advances (returns : w.Returns turn) (advances : w.Advances turn a v b) : v.Returns turn := by
  -- A block that is asked for is held, and stays so when it is in the row, be it granted or not.
  have got {demand : Demand} (demands : w.stage.demand? = some demand) (block : Option BlockId) :
      Task.Returns turn w.asked ((w.blocks.push demand.birth block).table.map Prod.fst) w.tasks := by
    rw [Returns, holds, demands] at returns
    refine returns.perm ?_
    rw [BlockRow.table_push, List.map_append]
    exact List.perm_append_comm
  cases advances with
  | rests => exact returns
  | skips ready next taken | drops ready next taken => exact returns.take ready next taken
  | excludes ready next =>
    rw [Returns, next, holds_of_ready ready] at returns
    have more := List.perm_append_singleton (Birth.asked turn w.asked) (w.blocks.table.map Prod.fst)
    refine Task.Returns.perm returns (.trans more.symm (.of_eq ?_))
    rw [holds_of_ready rfl, BlockRow.table_push, List.map_append]
    rfl
  | asks ready next =>
    rw [Returns, next, holds_of_ready ready] at returns
    exact returns
  | forgoes source call asking => exact got (by rw [asking]; rfl) none
  | books counted => exact got (by rw [counted]; rfl) _
  | misses _ _ _ stage | retries stage | gets _ _ _ _ stage | counts _ stage | discounts stage | returns stage =>
    rw [Returns, holds, stage] at returns
    exact returns

/-- A step inside of a task brings its end nearer. -/
theorem Advances.stepsLeft_lt (advances : w.Advances turn a v b) (busy : w.stage ≠ .ready) :
    v.tasks = w.tasks ∧ v.stage.stepsLeft < w.stage.stepsLeft := by
  cases advances with
  | rests ready | skips ready | excludes ready | asks ready | drops ready => exact absurd ready busy
  | misses source call event asking =>
    rw [asking]
    refine ⟨rfl, ?_⟩
    simp only [Stage.stepsLeft, List.length_cons]
    omega
  | retries missed =>
    rw [missed]
    exact ⟨rfl, Nat.lt_succ_self _⟩
  | forgoes source call asking =>
    rw [asking]
    exact ⟨rfl, Nat.succ_pos _⟩
  | gets origin found source call asking =>
    rw [asking]
    refine ⟨rfl, ?_⟩
    simp only [Stage.stepsLeft]
    omega
  | counts counters granted =>
    rw [granted]
    exact ⟨rfl, Nat.lt_succ_self _⟩
  | books counted =>
    rw [counted]
    exact ⟨rfl, Nat.lt_succ_self _⟩
  | discounts dropped =>
    rw [dropped]
    exact ⟨rfl, Nat.lt_succ_self _⟩
  | returns uncounted =>
    rw [uncounted]
    exact ⟨rfl, Nat.lt_succ_self _⟩

theorem Returns.tasks_eq_tail (returns : w.Returns turn) (advances : w.Advances turn a v b)
    (ready : w.stage = .ready) : v.tasks = w.tasks.tail := by
  cases advances with
  | rests _ asks vain =>
    rw [Returns, holds_of_ready ready] at returns
    cases next : w.tasks with
    | nil => rfl
    | cons task tasks =>
      rw [next] at returns asks
      cases task with
      | allocate => cases asks
      | free birth =>
        obtain ⟨block, rest, taken⟩ := BlockRow.take?_isSome returns.1
        rw [vain birth tasks next] at taken
        cases taken
      | handOver => exact returns.elim
  | skips _ next | excludes _ next | asks _ next | drops _ next => rw [next, List.tail_cons]
  | misses _ _ _ other | retries other | forgoes _ _ other | gets _ _ _ _ other | counts _ other | books other
  | discounts other | returns other =>
    rw [ready] at other
    cases other

theorem settle_ready {steps : Nat} (returns : w.Returns turn) (enough : w.stage.stepsLeft ≤ steps)
    (done : w.settle a turn steps = .ok (v, b)) : v.stage = .ready ∧ v.tasks = w.tasks ∧ v.Returns turn := by
  induction steps generalizing w a with
  | zero =>
    cases done
    refine ⟨?_, rfl, returns⟩
    cases stage : v.stage with
    | ready => rfl
    | _ =>
      rw [stage] at enough
      exact absurd enough (Nat.not_succ_le_zero _)
  | succ steps ih =>
    unfold settle at done
    split at done
    · rename_i ready
      cases done
      exact ⟨ready, rfl, returns⟩
    · rename_i busy
      obtain ⟨⟨u, c⟩, advanced, done⟩ := bind_ok done
      have advances := advance_cases advanced
      obtain ⟨same, less⟩ := advances.stepsLeft_lt busy
      obtain ⟨ready, tasks, still⟩ := ih (returns.advances advances) (by omega) done
      exact ⟨ready, tasks.trans same, still⟩

/-- A worker that releases all that it gets can do all of its tasks alone. -/
theorem Returns.workAlone {count : Nat} (returns : w.Returns turn) (enough : w.tasks.length ≤ count)
    (done : w.workAlone a turn count = .ok (v, b)) : v.AtRest ∧ v.Returns turn := by
  induction count generalizing w a with
  | zero =>
    obtain ⟨ready, tasks, still⟩ := settle_ready returns (Nat.le_refl _) done
    exact ⟨⟨ready, tasks.trans (List.length_eq_zero_iff.1 (Nat.le_zero.1 enough))⟩, still⟩
  | succ count ih =>
    unfold Worker.workAlone at done
    obtain ⟨⟨u, c⟩, settled, done⟩ := bind_ok done
    obtain ⟨ready, tasks, still⟩ := settle_ready returns (Nat.le_refl _) settled
    dsimp only at done
    split at done
    · rename_i none
      cases done
      exact ⟨⟨ready, none⟩, still⟩
    · rename_i birth receiver rest next
      rw [Returns, next] at still
      exact still.elim
    · obtain ⟨⟨x, d⟩, advanced, done⟩ := bind_ok done
      have advances := advance_cases advanced
      have left := still.tasks_eq_tail advances ready
      refine ih (still.advances advances) ?_ done
      rw [left, List.length_tail, tasks]
      omega

end Worker

/-! ## All is done -/

namespace Crew

/-- Each of the workers releases all that it gets. -/
def Returns (workers : List Worker) : Prop := ∀ (turn : Nat) (w : Worker), workers[turn]? = some w → w.Returns turn

variable [Source σ] {c d : Crew σ} {turn : Nat}

theorem Returns.step (returns : Returns c.workers) (steps : c.Steps turn d) : Returns d.workers := by
  cases steps with
  | passes => exact returns
  | gives found ready next =>
    have mine := returns _ _ found
    rw [Worker.Returns, next] at mine
    exact mine.elim
  | works found alone advances =>
    intro place u there
    by_cases same : place = turn
    · subst same
      obtain ⟨inside, rfl⟩ := List.getElem?_eq_some_iff.1 there
      rw [List.getElem_set_self]
      exact (returns _ _ found).advances advances
    · rw [List.getElem?_set_ne (Ne.symm same)] at there
      exact returns place u there

/-- One worker of the crew has come to rest, and the others are where they were. -/
inductive Settles (c : Crew σ) (turn : Nat) : Crew σ → Prop
  | nobody (none : c.workers[turn]? = none) : Settles c turn c
  | worker {v : Worker} (b : Allocator σ) (rest : v.AtRest) (returns : v.Returns turn) :
    Settles c turn (c.put turn (v, b))

theorem settles_finishOne {count : Nat} (returns : Returns c.workers)
    (done : c.finishOne turn count = .ok d) : c.Settles turn d := by
  have worked {d : Crew σ} (done : c.letWork turn = .ok d) : c.Settles turn d := by
    unfold letWork at done
    cases found : c.workers[turn]? with
    | none =>
      rw [found] at done
      cases done
      exact .nobody found
    | some w =>
      rw [found] at done
      obtain ⟨⟨v, b⟩, alone, done⟩ := bind_ok done
      cases done
      cases worked : w.workAlone c.allocator turn w.tasks.length with
      | error halt =>
        rw [worked] at alone
        cases alone
      | ok given =>
        rw [worked] at alone
        cases alone
        obtain ⟨rest, still⟩ := (returns turn w found).workAlone (Nat.le_refl _) worked
        exact .worker b rest still
  cases count with
  | zero => exact worked done
  | succ count =>
    unfold finishOne at done
    obtain ⟨e, first, done⟩ := bind_ok done
    have settles := worked first
    split at done
    · cases done
      exact settles
    · cases done
      exact settles
    · rename_i task rest next
      -- The worker has no task left, so there is no other round.
      obtain ⟨w, there, tasks⟩ := Option.map_eq_some_iff.1 next
      cases settles with
      | nobody none =>
        rw [none] at there
        cases there
      | worker b atRest =>
        obtain ⟨inside, same⟩ := List.getElem?_eq_some_iff.1 there
        simp only [put, List.getElem_set_self] at same
        subst same
        rw [atRest.2] at tasks
        cases tasks

omit [Source σ] in
theorem Settles.length_eq (h : c.Settles turn d) : d.workers.length = c.workers.length := by
  cases h with
  | nobody none => rfl
  | worker b rest => exact List.length_set

omit [Source σ] in
theorem Settles.of_getElem? (h : c.Settles turn d) {place : Nat} {w : Worker}
    (found : d.workers[place]? = some w) :
    w.AtRest ∧ w.Returns place ∨ place ≠ turn ∧ c.workers[place]? = some w := by
  by_cases same : place = turn
  · subst same
    cases h with
    | nobody none =>
      rw [none] at found
      cases found
    | @worker v b rest returns =>
      obtain ⟨inside, rfl⟩ := List.getElem?_eq_some_iff.1 found
      simp only [put, List.getElem_set_self]
      exact .inl ⟨rest, returns⟩
  · refine .inr ⟨same, ?_⟩
    cases h with
    | nobody none => exact found
    | worker b rest => exact (List.getElem?_set_ne (Ne.symm same)).symm.trans found

omit [Source σ] in
theorem Settles.returns (h : c.Settles turn d) (returns : Returns c.workers) : Returns d.workers := by
  intro place w found
  rcases h.of_getElem? found with ⟨-, still⟩ | ⟨-, there⟩
  · exact still
  · exact returns place w there

theorem returns_of_finishEach {turns : List Nat} (returns : Returns c.workers)
    (done : c.finishEach turns = .ok d) :
    Returns d.workers ∧ d.workers.length = c.workers.length ∧ ∀ place w, d.workers[place]? = some w →
      w.AtRest ∨ place ∉ turns ∧ c.workers[place]? = some w := by
  induction turns generalizing c with
  | nil =>
    cases done
    exact ⟨returns, rfl, fun place w found => .inr ⟨List.not_mem_nil, found⟩⟩
  | cons turn rest ih =>
    obtain ⟨e, finished, done⟩ := bind_ok done
    have settles := settles_finishOne returns finished
    obtain ⟨still, length, later⟩ := ih (settles.returns returns) done
    refine ⟨still, length.trans settles.length_eq, fun place w found => ?_⟩
    rcases later place w found with rests | ⟨other, there⟩
    · exact .inl rests
    · rcases settles.of_getElem? there with ⟨rests, -⟩ | ⟨ne, before⟩
      · exact .inl rests
      · exact .inr ⟨fun mem => (List.mem_cons.1 mem).elim ne other, before⟩

/-- **A crew that has finished has nothing left to do**, if its workers release all that they get; and then they have
no block. -/
theorem Done.of_finish (returns : Returns c.workers) (done : c.finish = .ok d) :
    d.Done ∧ owned d.workers = [] := by
  obtain ⟨still, length, rests⟩ := returns_of_finishEach returns done
  have rest {place : Nat} {w : Worker} (found : d.workers[place]? = some w) : w.AtRest := by
    rcases rests place w found with rest | ⟨outside, -⟩
    · exact rest
    · have inside := (List.getElem?_eq_some_iff.1 found).1
      exact absurd (List.mem_range.2 (length ▸ inside)) outside
  refine ⟨fun w mem => ?_, List.flatMap_eq_nil_iff.2 fun w mem => ?_⟩
  · obtain ⟨place, found⟩ := List.mem_iff_getElem?.1 mem
    exact rest found
  · obtain ⟨place, found⟩ := List.mem_iff_getElem?.1 mem
    have left := still place w found
    rw [Worker.Returns, (rest found).2, Worker.holds_of_ready (rest found).1] at left
    rw [BlockRow.owned, List.map_eq_nil_iff.1 left]
    rfl

end Crew

/-! ## Workers that need what they ask for -/

theorem Record.refused_after_of_ne {r : Record} {deed : Option Deed} (served : deed ≠ some .refused) :
    (r.after deed).refused = r.refused := by
  cases deed with
  | none => rfl
  | some deed =>
    cases deed with
    | refused => exact absurd rfl served
    | booked | dropped | returned => rfl

/-- A block that the task asks for is needed and can be had. -/
def Task.Firm : Task → Prop
  | .allocate fatal size => fatal = true ∧ size + headerWidth ≤ maxTotal
  | .free _ | .handOver .. => True

/-- So are all tasks of the worker, and it needs the block that it is asking for. -/
structure Worker.Firm (w : Worker) : Prop where
  tasks : ∀ task ∈ w.tasks, task.Firm
  demand : ∀ demand, w.stage.demand? = some demand → demand.fatal = true

/-- An epoch does not end with a request. -/
theorem Allocator.snapshot_of_targets {a b : Allocator σ} {hint : Option NodeId} {nodes : List NodeId}
    {snapshot : Snapshot} (held : a.snapshot = some snapshot) (targets : a.targets hint = .ok (nodes, b)) :
    b.snapshot = some snapshot := by
  obtain ⟨seen, c, events, surveyed, -, rfl⟩ := survey_of_targets targets
  rw [survey_of_snapshot held] at surveyed
  cases surveyed
  exact held

namespace Worker

variable [Source σ] {w v : Worker} {a b : Allocator σ} {turn : Nat}

theorem Advances.tasks_subset (advances : w.Advances turn a v b) : v.tasks ⊆ w.tasks := by
  cases advances with
  | skips _ next | excludes _ next | asks _ next | drops _ next =>
    rw [next]
    exact List.subset_cons_self _ _
  | _ => exact List.Subset.refl _

theorem Firm.advances (h : w.Firm) (advances : w.Advances turn a v b) : v.Firm := by
  refine ⟨fun task mem => h.tasks task (advances.tasks_subset mem), fun demand asks => ?_⟩
  cases advances with
  | rests ready => exact h.demand demand asks
  | skips | excludes | drops | discounts | returns | forgoes | books => cases asks
  | asks ready next =>
    cases asks
    have firm := h.tasks _ (next ▸ List.mem_cons_self)
    exact firm.1
  | misses _ _ _ stage | retries stage | gets _ _ _ _ stage | counts _ stage =>
    cases asks
    exact h.demand _ (by rw [stage]; rfl)

/-- No request of the worker is refused, as it could not go on. -/
theorem Firm.not_refused (h : w.Firm) (advances : w.Advances turn a v b) : w.deed? v ≠ some .refused := by
  cases advances with
  | rests ready asks =>
    simp only [deed?, ready, asks]
    intro refused
    cases refused
  | skips ready next =>
    simp only [deed?, ready, next, List.head?_cons, Option.any_some, Task.asks]
    intro refused
    cases refused
  | excludes ready next =>
    have firm := h.tasks _ (next ▸ List.mem_cons_self)
    exact absurd firm.1 Bool.false_ne_true
  | forgoes source call asking bearable =>
    rw [h.demand _ (by rw [asking]; rfl)] at bearable
    cases bearable
  | asks stage | drops stage | misses _ _ _ stage | retries stage | gets _ _ _ _ stage | counts _ stage
  | books stage | discounts stage | returns stage =>
    simp only [deed?, stage]
    intro refused
    cases refused

theorem Advances.looks (advances : w.Advances turn a v b) :
    b.topology = a.topology ∧ ∀ snapshot, a.snapshot = some snapshot → b.snapshot = some snapshot := by
  cases advances with
  | excludes _ _ targets | asks _ _ targets =>
    exact ⟨Allocator.topology_of_targets targets, fun _ held => Allocator.snapshot_of_targets held targets⟩
  | _ => exact ⟨rfl, fun _ held => held⟩

end Worker

namespace Crew

variable [Source σ] {c d : Crew σ} {r : Record} {turn : Nat} {schedule : List Nat} {halt : Halt}

/-- All workers need what they ask for, and release all that they get. -/
structure Firm (c : Crew σ) : Prop where
  needs : ∀ w ∈ c.workers, w.Firm
  returns : Returns c.workers

theorem Firm.step (firm : c.Firm) (steps : c.Steps turn d) :
    d.Firm ∧ c.deed? turn d ≠ some .refused := by
  cases steps with
  | passes none =>
    refine ⟨firm, ?_⟩
    simp only [deed?, none]
    intro refused
    cases refused
  | gives found ready next =>
    have mine := firm.returns _ _ found
    rw [Worker.Returns, next] at mine
    exact mine.elim
  | @works w v b found alone advances =>
    have mine := firm.needs w (List.mem_of_getElem? found)
    rw [deed?_set found]
    refine ⟨⟨fun u mem => ?_, firm.returns.step (.works found alone advances)⟩, mine.not_refused advances⟩
    rcases List.mem_or_eq_of_mem_set mem with mem | rfl
    · exact firm.needs u mem
    · exact mine.advances advances

theorem Steps.looks (steps : c.Steps turn d) :
    d.allocator.topology = c.allocator.topology ∧
      ∀ snapshot, c.allocator.snapshot = some snapshot → d.allocator.snapshot = some snapshot := by
  cases steps with
  | passes | gives => exact ⟨rfl, fun _ held => held⟩
  | works found alone advances => exact advances.looks

/-- What a schedule leaves of a crew whose workers need what they ask for. -/
theorem Firm.run (firm : c.Firm) (done : c.run schedule = .ok d) :
    d.Firm ∧ (c.watch r schedule).refused = r.refused ∧ d.allocator.topology = c.allocator.topology ∧
      ∀ snapshot, c.allocator.snapshot = some snapshot → d.allocator.snapshot = some snapshot := by
  induction schedule generalizing c r with
  | nil =>
    cases done
    exact ⟨firm, rfl, rfl, fun _ held => held⟩
  | cons turn rest ih =>
    obtain ⟨e, stepped, done⟩ := bind_ok done
    have steps := step_cases stepped
    obtain ⟨still, served⟩ := firm.step steps
    obtain ⟨topology, held⟩ := steps.looks
    obtain ⟨firm, refused, same, kept⟩ := ih (r := r.after (c.deed? turn e)) still done
    refine ⟨firm, ?_, same.trans topology, fun snapshot seen => kept snapshot (held snapshot seen)⟩
    simp only [watch, stepped]
    rw [refused, Record.refused_after_of_ne served]

/-- Where a crew is when a schedule cuts its work short: the source refuses a block that a worker needs. -/
inductive Lacks (c : Crew σ) (schedule : List Nat) : Halt → Prop
  | refused {turns : List Nat} {d : Crew σ} {turn : Nat} {w : Worker} {demand : Demand}
    (along : turns <+: schedule ∨ schedule <+: turns) (run : c.run turns = .ok d)
    (found : d.workers[turn]? = some w) (asking : w.stage = .asking demand [])
    (refused : (d.allocator.arena.alloc demand.total).1 = none) : Lacks c schedule (.exhausted demand.size)

/-- A step of a crew whose workers need what they ask for halts only where the source refuses. -/
theorem Firm.step_error (firm : c.Firm) (h : c.Agrees r) {snapshot : Snapshot}
    (held : c.allocator.snapshot = some snapshot) (cut : c.step turn = .error halt) :
    ∃ w demand, c.workers[turn]? = some w ∧ w.stage = .asking demand [] ∧
      (c.allocator.arena.alloc demand.total).1 = none ∧ halt = .exhausted demand.size := by
  obtain ⟨w, cause, found, advanced, rfl⟩ := Crew.step_error cut
  have mine := firm.needs w (List.mem_of_getElem? found)
  cases Worker.advance_error advanced with
  | looks unseen =>
    rw [held] at unseen
    cases unseen
  | @needs size tasks ready next large =>
    obtain ⟨-, fits⟩ : Task.Firm (.allocate true size) := mine.tasks _ (next ▸ List.mem_cons_self)
    rw [totalFor?, if_pos fits] at large
    cases large
  | @lacks demand asking refused => exact ⟨w, demand, found, asking, refused, rfl⟩
  | books counted cut => exact absurd cut (h.setHeader_ne_error found counted cause)
  | drops taken cut => exact absurd cut (h.header_ne_error found taken cause)

/-- A schedule that halts does so at one of its steps. -/
theorem run_error (cut : c.run schedule = .error halt) :
    ∃ before turn after d, schedule = before ++ turn :: after ∧ c.run before = .ok d ∧
      d.step turn = .error halt := by
  induction schedule generalizing c with
  | nil => cases cut
  | cons turn rest ih =>
    cases stepped : c.step turn with
    | error other =>
      simp only [Crew.run, stepped] at cut
      cases cut
      exact ⟨[], turn, rest, c, rfl, rfl, stepped⟩
    | ok e =>
      simp only [Crew.run, stepped] at cut
      obtain ⟨before, last, after, d, rfl, ran, halted⟩ := ih cut
      refine ⟨turn :: before, last, after, d, rfl, ?_, halted⟩
      simp only [Crew.run, stepped]
      exact ran

omit [Source σ] in
/-- Where all is done and no block is owned, no block is live. -/
theorem Agrees.holds_nil (h : c.Agrees r) (done : c.Done) (bare : owned c.workers = []) :
    c.allocator.Holds [] := by
  have owned := h.owned
  rw [bare] at owned
  have booked : r.booked = [] := List.map_eq_nil_iff.1 owned.eq_nil
  obtain ⟨allocations, frees, balanced⟩ := h.tallied
  have resting (p : Stage → Bool) (idle : p .ready = false) : (c.workers.map Worker.stage).countP p = 0 :=
    countP_stages (fun w mem => (done w mem).1) idle
  rw [resting _ rfl] at allocations frees balanced
  refine ⟨fun _ mem => (List.not_mem_nil mem).elim, fun _ mem => (List.not_mem_nil mem).elim,
    List.nodup_nil, ?_, ?_⟩
  · have used := h.used
    rw [booked] at used
    exact used
  · rw [booked] at balanced
    simp only [Counters.Balanced, List.length_nil] at balanced ⊢
    omega

/-- **The work of a crew whose workers need what they ask for** and release it all comes to its end, and then
nothing is live; or the source refuses a block. -/
theorem work_empty (firm : c.Firm) (h : c.allocator.Holds []) (bare : owned c.workers = [])
    (ready : ∀ w ∈ c.workers, w.stage = .ready) {snapshot : Snapshot} (held : c.allocator.snapshot = some snapshot) :
    Ends (c.Lacks schedule)
      (fun d => d.allocator.Holds [] ∧ d.allocator.topology = c.allocator.topology ∧
        d.allocator.snapshot = some snapshot)
      (c.work schedule) := by
  have agrees : c.Agrees c.opening := agrees_of_holds h (by rw [bare]; exact .refl _) ready
  obtain ⟨more, same⟩ := work_eq_run c schedule
  cases worked : c.work schedule with
  | error halt =>
    obtain ⟨turns, turn, after, d, split, ran, cut⟩ := run_error (same.symm.trans worked)
    obtain ⟨still, -, -, kept⟩ := firm.run (r := c.opening) ran
    obtain ⟨w, demand, found, asking, refused, rfl⟩ := still.step_error (agrees.watch ran) (kept snapshot held) cut
    refine .error (.refused ?_ ran found asking refused)
    exact List.prefix_or_prefix_of_prefix ⟨turn :: after, split.symm⟩ (List.prefix_append schedule more)
  | ok d =>
    have ran : c.run (schedule ++ more) = .ok d := same.symm.trans worked
    obtain ⟨-, -, topology, kept⟩ := firm.run (r := c.opening) ran
    obtain ⟨e, began, finished⟩ := bind_ok worked
    obtain ⟨done, none⟩ := Done.of_finish (firm.run (r := c.opening) began).1.returns finished
    exact .ok ⟨(agrees.watch ran).holds_nil done none, topology, kept snapshot held⟩

end Crew

/-! ## Loads that give all back -/

namespace Task

theorem firm_of_mem_batches {worker limit first held : Nat} {sizes : List Nat} {task : Task}
    (fit : ∀ size ∈ sizes, size + headerWidth ≤ maxTotal)
    (mem : task ∈ batchesFrom worker limit first held sizes) : task.Firm := by
  have released {first count : Nat} (mem : task ∈ releases worker first count) : task.Firm := by
    obtain ⟨index, -, rfl⟩ := List.mem_map.1 mem
    trivial
  induction sizes generalizing first held with
  | nil => exact released mem
  | cons size sizes ih =>
    have here : Firm (.allocate true size) := ⟨rfl, fit size List.mem_cons_self⟩
    have rest : ∀ size ∈ sizes, size + headerWidth ≤ maxTotal :=
      fun size mem => fit size (List.mem_cons_of_mem _ mem)
    unfold batchesFrom at mem
    split at mem
    · rcases List.mem_cons.1 mem with rfl | mem
      · exact here
      · exact (List.mem_append.1 mem).elim released (ih rest)
    · rcases List.mem_cons.1 mem with rfl | mem
      · exact here
      · exact ih rest mem

def inOrder (worker first count : Nat) : List Birth := (List.range' first count).map (.asked worker)

theorem inOrder_succ (worker first count : Nat) :
    (Birth.asked worker (first + count) :: inOrder worker first count).Perm (inOrder worker first (count + 1)) := by
  rw [inOrder, inOrder, List.range'_1_concat, List.map_append]
  exact (List.perm_append_singleton _ _).symm

theorem returns_releases {worker index : Nat} {rest : List Task} (returns : Returns worker index [] rest)
    (first count : Nat) :
    Returns worker index (inOrder worker first count) (releases worker first count ++ rest) := by
  induction count generalizing first with
  | zero => exact returns
  | succ count ih =>
    refine ⟨List.mem_cons_self, ?_⟩
    have left := ih (first + 1)
    rwa [inOrder, List.range'_succ, List.map_cons, List.erase_cons_head]

theorem returns_batches (worker limit first held : Nat) (sizes : List Nat) :
    Returns worker (first + held) (inOrder worker first held) (batchesFrom worker limit first held sizes) := by
  induction sizes generalizing first held with
  | nil =>
    have nothing : Returns worker (first + held) [] [] := rfl
    have released := returns_releases nothing first held
    rwa [List.append_nil] at released
  | cons size sizes ih =>
    unfold batchesFrom
    split
    · exact (returns_releases (ih (first + (held + 1)) 0) first (held + 1)).perm (inOrder_succ ..).symm
    · exact (ih first (held + 1)).perm (inOrder_succ ..).symm

end Task

namespace Crew

variable [Source σ] {a : Allocator σ} {count limit : Nat} {sizes : Nat → List Nat} {schedule : List Nat}

/-- **A crew of workers that release what they get in batches** leaves nothing, or the source refuses a block. -/
theorem work_batches (h : a.Holds []) (fit : ∀ t, ∀ size ∈ sizes t, size + headerWidth ≤ maxTotal)
    {snapshot : Snapshot} (seen : a.snapshot = some snapshot) :
    Ends ((ofTasks a count fun t => Task.batches t limit (sizes t)).Lacks schedule)
      (fun d => d.allocator.Holds [] ∧ d.allocator.topology = a.topology ∧ d.allocator.snapshot = some snapshot)
      ((ofTasks a count fun t => Task.batches t limit (sizes t)).work schedule) := by
  have made {w : Worker} (mem : w ∈ (ofTasks a count fun t => Task.batches t limit (sizes t)).workers) :
      ∃ t, w = { tasks := Task.batches t limit (sizes t) } := by
    obtain ⟨t, -, rfl⟩ := List.mem_map.1 mem
    exact ⟨t, rfl⟩
  refine work_empty ⟨fun w mem => ?_, fun turn w found => ?_⟩ h ?_ ?_ seen
  · obtain ⟨t, rfl⟩ := made mem
    refine ⟨fun task mem => Task.firm_of_mem_batches (fit t) mem, fun demand asks => ?_⟩
    cases asks
  · obtain ⟨inside, rfl⟩ := List.getElem?_eq_some_iff.1 found
    simp only [ofTasks, List.getElem_map, List.getElem_range]
    exact Task.returns_batches turn limit 0 0 (sizes turn)
  · refine List.flatMap_eq_nil_iff.2 fun w mem => ?_
    obtain ⟨t, rfl⟩ := made mem
    rfl
  · intro w mem
    obtain ⟨t, rfl⟩ := made mem
    rfl

end Crew

end NodeHeap
