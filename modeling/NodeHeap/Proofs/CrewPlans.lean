import NodeHeap.Proofs.CrewAccounts

/-!
# The plans of a crew

What its workers ask for and what they release is settled before the first step, whoever has the blocks by then.

* `Worker.wanted`, `Record.known` — the blocks that are asked for yet, and those there were so far;
  `Crew.Steps.keeps_wanted`: each step that refuses nothing moves blocks from the former to the latter.
* `Task.released` — the blocks that are to be released; `Crew.Steps.keeps_releases`: each step that refuses nothing
  takes just those off the books.
* `Crew.wanted_watch`, `Crew.releases_watch` — so it is for schedules.
-/

namespace NodeHeap

variable {σ : Type}

/-! ## What is asked for -/

/-- What a block is for one who does not tell regions apart. -/
def Booking.share (entry : Booking) : Birth × Nat := (entry.birth, entry.total)

namespace Record

def known (r : Record) : List (Birth × Nat) := (r.booked ++ r.dropped).map Booking.share

/-- The blocks that become known with a deed. -/
def brought : Option Deed → List (Birth × Nat)
  | some (.booked entry) => [entry.share]
  | _ => []

/-- Only new blocks become known; a block that is taken off the books stays known. -/
theorem known_after (r : Record) (deed : Option Deed) :
    (r.after deed).known.Perm (brought deed ++ r.known) := by
  cases deed with
  | none => exact .refl _
  | some deed =>
    cases deed with
    | booked entry => exact .refl _
    | dropped block =>
      refine List.Perm.map _ ?_
      have split := List.filter_append_perm (fun entry : Booking => entry.block == block) r.booked
      show ((r.booked.filter fun entry => entry.block != block) ++
        ((r.booked.filter fun entry => entry.block == block) ++ r.dropped)).Perm _
      rw [← List.append_assoc]
      exact (List.perm_append_comm.trans split).append_right _
    | returned | refused => exact .refl _

theorem served_after (r : Record) (deed : Option Deed) :
    (r.after deed).served + r.known.length = r.served + (r.after deed).known.length := by
  have length := (r.known_after deed).length_eq
  rw [List.length_append] at length
  have served : (r.after deed).served = r.served + (brought deed).length := by
    cases deed with
    | none => rfl
    | some deed => cases deed <;> rfl
  omega

theorem refused_after (r : Record) (deed : Option Deed) : r.refused ≤ (r.after deed).refused := by
  cases deed with
  | none => exact Nat.le_refl _
  | some deed =>
    cases deed with
    | refused => exact Nat.le_succ _
    | booked | dropped | returned => exact Nat.le_refl _

theorem dropped_after {r : Record} {deed : Option Deed} (other : ∀ block, deed ≠ some (.dropped block)) :
    (r.after deed).dropped = r.dropped := by
  cases deed with
  | none => rfl
  | some deed =>
    cases deed with
    | dropped block => exact absurd rfl (other block)
    | booked | returned | refused => rfl

theorem not_refused {r : Record} {deed : Option Deed} (none : (r.after deed).refused = r.refused) :
    deed ≠ some .refused := by
  rintro rfl
  exact Nat.succ_ne_self _ none

end Record

/-- What is asked for, from the first step of a request to the last. -/
def Stage.demand? : Stage → Option Demand
  | asking demand _ | missed demand _ | granted demand .. | counted demand .. => some demand
  | ready | dropped .. | uncounted .. => none

/-- The blocks that a list of tasks asks for, after so many others. -/
def Task.wanted (turn : Nat) : (index : Nat) → List Task → List (Birth × Nat)
  | _, [] => []
  | index, .allocate _ size :: rest =>
    (.asked turn index, size + headerWidth) :: wanted turn (index + 1) rest
  | index, .free _ :: rest | index, .handOver .. :: rest => wanted turn index rest

def Worker.wanted (turn : Nat) (w : Worker) : List (Birth × Nat) :=
  (w.stage.demand?.map fun demand => (demand.birth, demand.total)).toList ++
    Task.wanted turn w.asked w.tasks

/-- A step of a worker that is not refused gets what it asks for. -/
theorem Worker.Advances.wanted_eq [Source σ] {w v : Worker} {a b : Allocator σ} {turn : Nat}
    (advances : w.Advances turn a v b) (served : w.deed? v ≠ some .refused) :
    w.wanted turn = Record.brought (w.deed? v) ++ v.wanted turn := by
  cases advances with
  | rests ready asks =>
    simp only [deed?, ready, asks]
    rfl
  | skips ready next =>
    simp only [deed?, Worker.wanted, ready, next, List.head?_cons, Option.any_some, Task.asks]
    rfl
  | excludes ready next =>
    simp only [deed?, ready, next] at served
    exact absurd rfl served
  | asks ready next targets total =>
    simp only [deed?, Worker.wanted, ready, next, (totalFor?_eq_some.1 total).2]
    rfl
  | misses source call event asking => simp only [deed?, Worker.wanted, asking]; rfl
  | retries missed => simp only [deed?, Worker.wanted, missed]; rfl
  | forgoes source call asking =>
    simp only [deed?, asking] at served
    exact absurd rfl served
  | gets origin found source call asking => simp only [deed?, Worker.wanted, asking]; rfl
  | counts counters granted => simp only [deed?, Worker.wanted, granted]; rfl
  | books counted headed => simp only [deed?, Worker.wanted, counted]; rfl
  | drops ready next => simp only [deed?, Worker.wanted, ready, next]; rfl
  | discounts dropped => simp only [deed?, Worker.wanted, dropped]; rfl
  | returns uncounted => simp only [deed?, Worker.wanted, uncounted]; rfl

namespace Crew

def wanted (workers : List Worker) : List (Birth × Nat) := (workers.mapIdx Worker.wanted).flatten

theorem perm_wanted_focus (front back : List Worker) :
    ∃ others, ∀ w, (wanted (front ++ w :: back)).Perm (w.wanted front.length ++ others) := by
  refine ⟨(front.mapIdx Worker.wanted).flatten ++
    (back.mapIdx fun i => Worker.wanted (i + 1 + front.length)).flatten, fun w => ?_⟩
  rw [wanted, List.mapIdx_append, List.mapIdx_cons, List.flatten_append, List.flatten_cons, Nat.zero_add]
  exact List.perm_append_comm_assoc ..

/-- A block that changes hands is not asked for anew. -/
theorem wanted_handOver {workers : List Worker} {giver : Nat} {w : Worker} (found : workers[giver]? = some w)
    {birth : Birth} {receiver : Nat} {tasks : List Task} (next : w.tasks = .handOver birth receiver :: tasks) :
    wanted (handOver workers giver w tasks birth receiver) = wanted workers := by
  refine congrArg List.flatten (List.ext_getElem? fun i => ?_)
  have kept : (handOver workers giver w tasks birth receiver).map (Worker.wanted i) =
      workers.map (Worker.wanted i) :=
    map_handOver _ found (fun _ _ => rfl) fun _ => by simp only [Worker.wanted, next, Task.wanted]
  have same := congrArg (·[i]?) kept
  simp only [List.getElem?_map] at same
  rw [List.getElem?_mapIdx, List.getElem?_mapIdx, same]

variable [Source σ] {c after : Crew σ} {r : Record} {turn : Nat}

theorem Steps.keeps_wanted (steps : c.Steps turn after) (served : c.deed? turn after ≠ some .refused) :
    ((r.after (c.deed? turn after)).known ++ wanted after.workers).Perm (r.known ++ wanted c.workers) := by
  cases steps with
  | passes none =>
    simp only [deed?, none]
    exact .refl _
  | gives found ready next =>
    rw [deed?_handOver found ready next, wanted_handOver found next]
    exact .refl _
  | @works w v b found alone advances =>
    obtain ⟨front, back, place, split, set⟩ := focus found
    obtain ⟨others, focused⟩ := perm_wanted_focus front back
    rw [deed?_set found] at served ⊢
    have got := advances.wanted_eq served
    rw [set, split]
    refine ((r.known_after _).append (focused v)).trans (.trans ?_ ((focused w).symm.append_left _))
    rw [place, got]
    generalize Record.brought (w.deed? v) = more
    rw [List.append_assoc, List.append_assoc]
    exact List.perm_append_comm_assoc ..

/-- What is refused stays refused. -/
theorem refused_watch (c : Crew σ) (r : Record) (schedule : List Nat) :
    r.refused ≤ (c.watch r schedule).refused := by
  induction schedule generalizing c r with
  | nil => exact Nat.le_refl _
  | cons turn rest ih =>
    unfold watch
    split
    · exact Nat.le_trans (r.refused_after _) (ih _ _)
    · exact Nat.le_refl _

end Crew

/-! ## What is released -/

def Task.released? : Task → Option Birth
  | .free birth => some birth
  | .allocate .. | .handOver .. => none

def Task.released (tasks : List Task) : List Birth := tasks.filterMap Task.released?

/-- No request that stands in the table was refused. -/
def Whole (table : Table Birth (Option BlockId)) : Prop := ∀ entry ∈ table, entry.2 ≠ none

theorem Whole.subset {table other : Table Birth (Option BlockId)} (whole : Whole table) (sub : other ⊆ table) :
    Whole other := fun entry mem => whole entry (sub mem)

theorem BlockRow.mem_of_take? {row rest : BlockRow} {birth : Birth} {block : Option BlockId}
    (taken : row.take? birth = some (block, rest)) : (birth, block) ∈ row.table :=
  (perm_of_take? taken).mem_iff.2 List.mem_cons_self

namespace Worker

variable [Source σ] {w v : Worker} {a b : Allocator σ} {turn : Nat}

/-- A step of a worker takes the block off the books that its next task releases, or it leaves both alone. -/
theorem Advances.released_eq (advances : w.Advances turn a v b) (whole : Whole w.blocks.table) :
    (∃ birth block, w.deed? v = some (.dropped block) ∧ (birth, block) ∈ w.blocks.owned ∧
        Task.released w.tasks = birth :: Task.released v.tasks) ∨
      (∀ block, w.deed? v ≠ some (.dropped block)) ∧ Task.released v.tasks = Task.released w.tasks := by
  cases advances with
  | rests ready asks => exact .inr ⟨by simp [deed?, ready, asks], rfl⟩
  | skips ready next taken => exact absurd rfl (whole _ (BlockRow.mem_of_take? taken))
  | excludes ready next => exact .inr ⟨by simp [deed?, ready, next, Task.asks], by rw [next]; rfl⟩
  | asks ready next => exact .inr ⟨by simp [deed?, ready], by rw [next]; rfl⟩
  | @drops birth tasks block blocks head ready next taken =>
    refine .inl ⟨birth, block, by simp only [deed?, ready], ?_, by rw [next]; rfl⟩
    exact (BlockRow.perm_owned_of_take? taken).mem_iff.2 List.mem_cons_self
  | misses _ _ _ stage | retries stage | forgoes _ _ stage | gets _ _ _ _ stage | counts _ stage | books stage
  | discounts stage | returns stage => exact .inr ⟨by simp [deed?, stage], rfl⟩

theorem Advances.whole (advances : w.Advances turn a v b) (served : w.deed? v ≠ some .refused)
    (whole : Whole w.blocks.table) : Whole v.blocks.table := by
  have left {birth : Birth} {block : Option BlockId} {blocks : BlockRow}
      (taken : w.blocks.take? birth = some (block, blocks)) : Whole blocks.table :=
    whole.subset fun entry mem => (BlockRow.perm_of_take? taken).mem_iff.2 (List.mem_cons_of_mem _ mem)
  cases advances with
  | skips _ _ taken | drops _ _ taken => exact left taken
  | excludes ready next =>
    simp only [deed?, ready, next] at served
    exact absurd rfl served
  | forgoes source call asking =>
    simp only [deed?, asking] at served
    exact absurd rfl served
  | books counted =>
    intro entry mem
    rw [BlockRow.table_push] at mem
    rcases List.mem_append.1 mem with mem | mem
    · exact whole entry mem
    · rw [List.mem_singleton.1 mem]
      exact Option.some_ne_none _
  | _ => exact whole

end Worker

namespace Accounts

/-- A block that is taken off the books is the one that is meant. -/
theorem births_dropped {a : Allocator σ} {rows : List (Birth × BlockId)} {stages : List Stage} {r : Record}
    {birth : Birth} {block : BlockId} (h : Accounts a rows stages r) (mem : (birth, block) ∈ rows) :
    (r.next (.dropped block)).dropped.map Booking.birth = birth :: r.dropped.map Booking.birth := by
  obtain ⟨entry, named, sole, -⟩ := (h.perm (List.perm_cons_erase mem) (.refl _)).sole
  show ((r.booked.filter fun entry => entry.block == block) ++ r.dropped).map Booking.birth = _
  rw [sole]
  exact congrArg (· :: r.dropped.map Booking.birth) (congrArg Prod.fst named)

end Accounts

namespace Crew

def releases (workers : List Worker) : List Birth := workers.flatMap fun w => Task.released w.tasks

variable [Source σ] {c after : Crew σ} {r : Record} {turn : Nat}

/-- **A step that refuses nothing takes off the books what was to be released.** -/
theorem Steps.keeps_releases (steps : c.Steps turn after) (h : c.Agrees r) (whole : Whole (tables c.workers)) :
    ((r.after (c.deed? turn after)).dropped.map Booking.birth ++ releases after.workers).Perm
      (r.dropped.map Booking.birth ++ releases c.workers) := by
  cases steps with
  | passes none =>
    simp only [deed?, none]
    exact .refl _
  | gives found ready next =>
    rw [deed?_handOver found ready next]
    refine .append_left _ (.of_eq ?_)
    rw [releases, List.flatMap_def,
      map_handOver (fun w => Task.released w.tasks) found (fun _ _ => rfl) fun _ => by rw [next]; rfl]
    exact List.flatMap_def.symm
  | @works w v b found alone advances =>
    have own : ∀ entry ∈ w.blocks.table, entry ∈ tables c.workers :=
      fun entry mem => List.mem_flatMap.2 ⟨w, List.mem_of_getElem? found, mem⟩
    obtain ⟨others, before, set⟩ := perm_flatMap_modify (fun w => Task.released w.tasks) found
    refine ((set v).append_left _).trans (.trans ?_ (before.symm.append_left _))
    rw [deed?_set found]
    rcases advances.released_eq (whole.subset own) with ⟨birth, block, dropped, mine, released⟩ | ⟨other, same⟩
    · have there : (birth, block) ∈ owned c.workers :=
        List.mem_flatMap.2 ⟨w, List.mem_of_getElem? found, mine⟩
      rw [dropped, released]
      show ((r.next (.dropped block)).dropped.map Booking.birth ++ _).Perm _
      rw [h.births_dropped there]
      exact List.perm_middle.symm
    · rw [Record.dropped_after other, same]

theorem Steps.keeps_whole (steps : c.Steps turn after) (served : c.deed? turn after ≠ some .refused)
    (whole : Whole (tables c.workers)) : Whole (tables after.workers) := by
  cases steps with
  | passes => exact whole
  | gives found => exact whole.subset (perm_tables_handOver found _ _ _).subset
  | @works w v b found alone advances =>
    rw [deed?_set found] at served
    obtain ⟨others, before, set⟩ := perm_flatMap_modify (fun w => w.blocks.table) found
    have mine : Whole w.blocks.table :=
      whole.subset fun entry mem => before.mem_iff.2 (List.mem_append_left _ mem)
    intro entry mem
    rcases List.mem_append.1 ((set v).mem_iff.1 mem) with mem | mem
    · exact advances.whole served mine entry mem
    · exact whole entry (before.mem_iff.2 (List.mem_append_right _ mem))

/-! ## Schedules -/

variable {schedule : List Nat} {last : Crew σ}

/-- What a schedule that refuses nothing leaves of something that every such step keeps. -/
theorem watch_induction (kept : Crew σ → Record → Prop) (h : c.Agrees r) (holds : kept c r)
    (step : ∀ {c after : Crew σ} {r : Record} {turn : Nat}, c.Agrees r → c.Steps turn after →
      c.deed? turn after ≠ some .refused → kept c r → kept after (r.after (c.deed? turn after)))
    (done : c.run schedule = .ok last) (served : (c.watch r schedule).refused = r.refused) :
    kept last (c.watch r schedule) := by
  induction schedule generalizing c r with
  | nil =>
    cases done
    exact holds
  | cons turn rest ih =>
    obtain ⟨after, stepped, done⟩ := bind_ok done
    simp only [Crew.watch, stepped] at served ⊢
    have more := r.refused_after (c.deed? turn after)
    have most := refused_watch after (r.after (c.deed? turn after)) rest
    have steps := step_cases stepped
    have first : c.deed? turn after ≠ some .refused := Record.not_refused (r := r) (by omega)
    exact ih (h.step steps) (step h steps first holds) done (by omega)

/-- **The blocks that are known after a schedule that refuses nothing, and those asked for yet**, are those
that were. -/
theorem wanted_watch (h : c.Agrees r) (done : c.run schedule = .ok last)
    (served : (c.watch r schedule).refused = r.refused) :
    ((c.watch r schedule).known ++ wanted last.workers).Perm (r.known ++ wanted c.workers) :=
  watch_induction (fun now seen =>
    (seen.known ++ wanted now.workers).Perm (r.known ++ wanted c.workers)) h (.refl _)
    (fun _ steps served kept => (steps.keeps_wanted served).trans kept) done served

/-- **The blocks that are released in a schedule that refuses nothing, and those that are to be released yet**, are
those that were to be released. -/
theorem releases_watch (h : c.Agrees r) (whole : Whole (tables c.workers)) (done : c.run schedule = .ok last)
    (served : (c.watch r schedule).refused = r.refused) :
    ((c.watch r schedule).dropped.map Booking.birth ++ releases last.workers).Perm
      (r.dropped.map Booking.birth ++ releases c.workers) :=
  (watch_induction (fun now seen => Whole (tables now.workers) ∧
    (seen.dropped.map Booking.birth ++ releases now.workers).Perm
      (r.dropped.map Booking.birth ++ releases c.workers)) h ⟨whole, .refl _⟩
    (fun h steps served kept =>
      ⟨steps.keeps_whole served kept.1, (steps.keeps_releases h kept.1).trans kept.2⟩) done served).2

theorem served_watch (c : Crew σ) (r : Record) (schedule : List Nat) :
    (c.watch r schedule).served + r.known.length = r.served + (c.watch r schedule).known.length := by
  induction schedule generalizing c r with
  | nil => rfl
  | cons turn rest ih =>
    unfold watch
    split
    · rename_i after stepped
      have first := r.served_after (c.deed? turn after)
      have others := ih after (r.after (c.deed? turn after))
      omega
    · rfl

end Crew

end NodeHeap
