import Mathlib.Algebra.BigOperators.Group.List.Basic
import Mathlib.Data.Int.ModEq
import Mathlib.Data.List.Induction
import NodeHeap.Usage.Shared

/-!
# Serialized updates

Where updates of a shared usage are serialized, none of them is lost, however the steps of the workers follow one
another: the word is exact whenever nobody is inside the lock, and whenever a worker is told of it, though it may wrap
around in between.

* `SharedUsage.total` — what some tasks add, less what they subtract; `Task.toNat_update`: an update is exact up to a
  multiple of what a word can hold.
* `SharedUsage.Worker.Moves` — all that a step of a worker can be; `Moves.books`: what it does to the word.
* `SharedUsage.Worker.Regular` — a worker is inside just if it holds the lock; `Moves.regular`, `Regular.spared`: so it
  is after a step of any worker.
* `SharedUsage.Orderly` — the invariant; `Orderly.advance`, `Orderly.run`: a step, and a schedule, keeps it.
* `serialized_updates_exact` — what follows for every schedule.
-/

namespace NodeHeap

theorem Usage.eq_of_bytes {usage other : Usage} (bytes : usage.bytes = other.bytes)
    (serialized : usage.serialized = other.serialized) : usage = other := by
  obtain ⟨used, on⟩ := usage
  obtain ⟨used', on'⟩ := other
  obtain rfl : used = used' := UInt64.toNat_inj.1 bytes
  obtain rfl : on = on' := serialized
  rfl

namespace SharedUsage

/-! ## Sums -/

/-- What a task adds to the bytes in use. -/
def Task.change : Task → ℤ
  | add n => n
  | sub n => -n
  | read | serialize => 0

def total (tasks : List Task) : ℤ := (tasks.map Task.change).sum

@[simp] theorem total_nil : total [] = 0 := rfl

@[simp] theorem total_cons (task : Task) (tasks : List Task) : total (task :: tasks) = task.change + total tasks := by
  rw [total, List.map_cons, List.sum_cons]
  rfl

@[simp] theorem total_append (tasks more : List Task) : total (tasks ++ more) = total tasks + total more := by
  rw [total, List.map_append, List.sum_append]
  rfl

@[simp] theorem total_singleton (task : Task) : total [task] = task.change := by
  rw [total_cons, total_nil, add_zero]

theorem total_flatMap {α : Type} (entries : List α) (f : α → List Task) :
    total (entries.flatMap f) = (entries.map fun entry => total (f entry)).sum := by
  induction entries with
  | nil => rfl
  | cons entry rest ih => rw [List.flatMap_cons, total_append, ih, List.map_cons, List.sum_cons]

/-- An update is exact up to a multiple of what a word can hold. -/
theorem Task.toNat_update (task : Task) (word : UInt64) :
    ((task.update word).toNat : ℤ) ≡ word.toNat + task.change [ZMOD 2 ^ 64] := by
  unfold Int.ModEq
  cases task with
  | add n =>
    simp only [update, change, UInt64.toNat_add, UInt64.toNat_ofNat']
    omega
  | sub n =>
    simp only [update, change, UInt64.toNat_sub, UInt64.toNat_ofNat']
    omega
  | read | serialize => rw [update, change, add_zero]

/-- The sum over a list in which one entry is replaced. -/
theorem sum_map_set {α M : Type} [AddCommMonoid M] (f : α → M) {entries : List α} {i : Nat} {old : α}
    (found : entries[i]? = some old) (new : α) :
    ((entries.set i new).map f).sum + f old = (entries.map f).sum + f new := by
  obtain ⟨inside, here⟩ := List.getElem?_eq_some_iff.1 found
  obtain ⟨front, back, split, -, set⟩ := @List.exists_of_set _ _ new _ inside
  rw [here] at split
  rw [set, split]
  simp only [List.map_append, List.map_cons, List.sum_append, List.sum_cons]
  ac_rfl

/-! ## Steps of a worker -/

namespace Worker

variable {w v : Worker} {turn : Nat} {holder after : Option Nat} {usage later : Usage}

/-- What a step of a worker can be, given who holds the lock. -/
inductive Moves (w : Worker) (turn : Nat) : Option Nat → Usage → Worker → Option Nat → Usage → Prop
  /-- The worker looks whether it needs the lock. -/
  | looks {holder : Option Nat} {usage : Usage} {task : Task} {rest : List Task} {phase : Phase}
    (tasks : w.tasks = task :: rest) (idle : w.phase = .idle)
    (seen : phase = .waiting ∨ phase = .bare ∧ usage.serialized = false) :
    Moves w turn holder usage { w with phase } holder usage
  | takes {usage : Usage} {task : Task} {rest : List Task} (tasks : w.tasks = task :: rest)
    (waiting : w.phase = .waiting) : Moves w turn none usage { w with phase := .locked } (some turn) usage
  | hears {holder : Option Nat} {usage : Usage} {rest : List Task} (tasks : w.tasks = .read :: rest)
    (locked : w.phase = .locked) :
    Moves w turn holder usage { w.hear usage.used with phase := .settled } holder usage
  | switches {holder : Option Nat} {usage : Usage} {rest : List Task} (tasks : w.tasks = .serialize :: rest)
    (locked : w.phase = .locked) :
    Moves w turn holder usage { w with phase := .settled } holder usage.serialize
  | loads {holder : Option Nat} {usage : Usage} {task : Task} {rest : List Task}
    (tasks : w.tasks = task :: rest) (locked : w.phase = .locked) :
    Moves w turn holder usage { w with phase := .loaded usage.used } holder usage
  | stores {holder : Option Nat} {usage : Usage} {task : Task} {rest : List Task} {word : UInt64}
    (tasks : w.tasks = task :: rest) (loaded : w.phase = .loaded word) :
    Moves w turn holder usage { w with phase := .settled } holder { usage with used := task.update word }
  | releases {holder : Option Nat} {usage : Usage} {task : Task} {rest : List Task}
    (tasks : w.tasks = task :: rest) (settled : w.phase = .settled) :
    Moves w turn holder usage (w.finish task rest) none usage
  | hearsBare {holder : Option Nat} {usage : Usage} {rest : List Task} (tasks : w.tasks = .read :: rest)
    (bare : w.phase = .bare) :
    Moves w turn holder usage ((w.hear usage.used).finish .read rest) holder usage
  | loadsBare {holder : Option Nat} {usage : Usage} {task : Task} {rest : List Task}
    (tasks : w.tasks = task :: rest) (bare : w.phase = .bare) :
    Moves w turn holder usage { w with phase := .bareLoaded usage.used } holder usage
  | storesBare {holder : Option Nat} {usage : Usage} {task : Task} {rest : List Task} {word : UInt64}
    (tasks : w.tasks = task :: rest) (loaded : w.phase = .bareLoaded word) :
    Moves w turn holder usage (w.finish task rest) holder { usage with used := task.update word }

/-- A step of a worker is one of the steps that there are. -/
theorem moves_of_advance? (done : w.advance? turn holder usage = some (v, after, later)) :
    w.Moves turn holder usage v after later := by
  unfold advance? at done
  split at done
  · cases done
  · rename_i task rest tasks
    split at done
    · rename_i idle
      cases done
      exact .looks tasks idle (.inl rfl)
    · rename_i idle _
      cases done
      refine .looks tasks idle ?_
      split
      · exact .inl rfl
      · rename_i off
        exact .inr ⟨rfl, Bool.eq_false_iff.2 off⟩
    · rename_i waiting
      split at done
      · rename_i free
        obtain rfl := Option.isNone_iff_eq_none.1 free
        cases done
        exact .takes tasks waiting
      · cases done
    · rename_i locked
      cases done
      exact .hears tasks locked
    · rename_i locked
      cases done
      exact .switches tasks locked
    · rename_i locked _ _
      cases done
      exact .loads tasks locked
    · rename_i loaded
      cases done
      exact .stores tasks loaded
    · rename_i settled
      cases done
      exact .releases tasks settled
    · rename_i bare
      cases done
      exact .hearsBare tasks bare
    · rename_i bare _
      cases done
      exact .loadsBare tasks bare
    · rename_i loaded
      cases done
      exact .storesBare tasks loaded

/-- A worker that has something to do takes a step, unless it waits for the lock and somebody has it. -/
theorem advance?_ne_none (busy : w.tasks ≠ []) (free : w.phase = .waiting → holder = none) :
    w.advance? turn holder usage ≠ none := by
  unfold advance?
  split
  · rename_i none
    exact absurd none busy
  · rename_i tasks
    split
    case h_3 waiting =>
      rw [free waiting]
      exact Option.some_ne_none _
    all_goals exact Option.some_ne_none _

def all (w : Worker) : List Task := w.done ++ w.tasks

/-- The tasks that have had their effect: those that are done, and one for which only the lock is to be released. -/
def booked (w : Worker) : List Task :=
  match w.phase, w.tasks with
  | .settled, task :: _ => w.done ++ [task]
  | _, _ => w.done

theorem booked_of_ne (unsettled : w.phase ≠ .settled) : w.booked = w.done := by
  unfold booked
  split
  · exact absurd ‹_› unsettled
  · rfl

theorem booked_of_settled {task : Task} {rest : List Task} (tasks : w.tasks = task :: rest)
    (settled : w.phase = .settled) : w.booked = w.done ++ [task] := by
  simp only [booked, tasks, settled]

/-- At most how many steps a worker has left. -/
def left (w : Worker) : Nat :=
  5 * w.tasks.length - match w.phase with
    | .idle => 0
    | .waiting => 1
    | .locked | .bare => 2
    | .loaded _ | .bareLoaded _ => 3
    | .settled => 4

theorem Moves.all_eq (moves : w.Moves turn holder usage v after later) : v.all = w.all := by
  cases moves with
  | releases tasks | hearsBare tasks | storesBare tasks =>
    simp only [all, finish, hear, tasks, List.append_assoc, List.singleton_append]
  | _ => rfl

theorem Moves.left_lt (moves : w.Moves turn holder usage v after later) : v.left < w.left := by
  cases moves with
  | looks tasks idle seen =>
    rcases seen with rfl | ⟨rfl, -⟩
    all_goals
      simp only [left, tasks, idle, List.length_cons]
      omega
  | takes tasks phase | hears tasks phase | switches tasks phase | loads tasks phase | stores tasks phase
  | releases tasks phase | hearsBare tasks phase | loadsBare tasks phase | storesBare tasks phase =>
    simp only [left, finish, hear, tasks, phase, List.length_cons]
    omega

/-- What a worker is told is the word as it is then. -/
theorem Moves.answers (moves : w.Moves turn holder usage v after later) :
    v.answers = w.answers ∨ v.answers = w.answers ++ [usage.used] ∧
      (w.phase = .locked ∨ w.phase = .bare) ∧ ∃ rest, w.tasks = .read :: rest := by
  cases moves with
  | hears tasks locked => exact .inr ⟨rfl, .inl locked, _, tasks⟩
  | hearsBare tasks bare => exact .inr ⟨rfl, .inr bare, _, tasks⟩
  | _ => exact .inl rfl

end Worker

/-! ## Workers who keep to the lock -/

/-- Where updates are serialized nobody goes on without the lock, and a word that was loaded is still the right one. -/
def Phase.Sound (usage : Usage) : Phase → Prop
  | idle | waiting | locked | settled => True
  | loaded word => word = usage.used
  | bare | bareLoaded _ => False

theorem Phase.Sound.congr {phase : Phase} {usage later : Usage} (h : phase.Sound usage)
    (same : later.used = usage.used) : phase.Sound later := by
  cases phase with
  | loaded word => exact Eq.trans h same.symm
  | _ => exact h

/-- Outside of the lock a worker knows of no word. -/
theorem Phase.Sound.outside {phase : Phase} {usage later : Usage} (h : phase.Sound usage)
    (outside : phase.inside ≠ true) : phase.Sound later := by
  cases phase with
  | loaded => exact absurd rfl outside
  | bare | bareLoaded => exact h
  | idle | waiting | locked | settled => trivial

namespace Worker

variable {w v : Worker} {turn : Nat} {holder after : Option Nat} {usage later : Usage}

/-- A worker keeps to the lock: it is inside just if it holds it, and between two tasks it is not. -/
structure Regular (w : Worker) (turn : Nat) (holder : Option Nat) (usage : Usage) : Prop where
  sound : w.phase.Sound usage
  rests : w.tasks = [] → w.phase = .idle
  holds : w.phase.inside = true ↔ holder = some turn

/-- A step says nothing to a worker whose turn it is not: it leaves the lock and the word alone, or the lock is free or
held by the one whose turn it is, before and afterwards. -/
def Spares (turn : Nat) (holder : Option Nat) (usage : Usage) (after : Option Nat) (later : Usage) : Prop :=
  after = holder ∧ later.used = usage.used ∨
    (holder = none ∨ holder = some turn) ∧ (after = none ∨ after = some turn)

theorem Moves.serialized (moves : w.Moves turn holder usage v after later) (on : usage.serialized = true) :
    later.serialized = true := by
  cases moves with
  | switches => rfl
  | _ => exact on

theorem Moves.regular (moves : w.Moves turn holder usage v after later) (on : usage.serialized = true)
    (h : w.Regular turn holder usage) : v.Regular turn after later := by
  have busy {task : Task} {rest : List Task} {phase : Phase} (tasks : w.tasks = task :: rest) :
      w.tasks = [] → phase = .idle := fun none => by rw [tasks] at none; cases none
  obtain ⟨sound, -, holds⟩ := h
  cases moves with
  | looks tasks idle seen =>
    rw [idle] at holds
    rcases seen with rfl | ⟨-, off⟩
    · exact ⟨trivial, busy tasks, holds⟩
    · rw [on] at off
      cases off
  | takes tasks => exact ⟨trivial, busy tasks, iff_of_true rfl rfl⟩
  | hears tasks locked | switches tasks locked =>
    rw [locked] at holds
    exact ⟨trivial, busy tasks, holds⟩
  | loads tasks locked =>
    rw [locked] at holds
    exact ⟨rfl, busy tasks, holds⟩
  | stores tasks loaded =>
    rw [loaded] at holds
    exact ⟨trivial, busy tasks, holds⟩
  | releases => exact ⟨trivial, fun _ => rfl, iff_of_false Bool.false_ne_true (Option.some_ne_none turn).symm⟩
  | hearsBare tasks phase | loadsBare tasks phase | storesBare tasks phase =>
    rw [phase] at sound
    exact sound.elim

theorem Moves.spares (moves : w.Moves turn holder usage v after later) (h : w.Regular turn holder usage) :
    Spares turn holder usage after later := by
  have held (inside : w.phase.inside = true) : holder = some turn := h.holds.1 inside
  cases moves with
  | takes => exact .inr ⟨.inl rfl, .inr rfl⟩
  | stores tasks loaded =>
    have mine := held (by rw [loaded]; rfl)
    exact .inr ⟨.inr mine, .inr mine⟩
  | releases tasks settled => exact .inr ⟨.inr (held (by rw [settled]; rfl)), .inl rfl⟩
  | storesBare tasks phase =>
    have sound := h.sound
    rw [phase] at sound
    exact sound.elim
  | _ => exact .inl ⟨rfl, rfl⟩

/-- A worker whose turn it is not keeps to the lock as before. -/
theorem Regular.spared {other : Nat} (h : w.Regular other holder usage) (apart : other ≠ turn)
    (spares : Spares turn holder usage after later) : w.Regular other after later := by
  rcases spares with ⟨rfl, same⟩ | ⟨before, now⟩
  · exact ⟨h.sound.congr same, h.rests, h.holds⟩
  · -- The lock is not this worker's, so it is outside and has loaded nothing that could have changed.
    have foreign {holder : Option Nat} (either : holder = none ∨ holder = some turn) : holder ≠ some other := by
      rcases either with rfl | rfl
      · exact (Option.some_ne_none other).symm
      · exact fun same => apart (Option.some.inj same).symm
    have outside : w.phase.inside ≠ true := fun inside => foreign before (h.holds.1 inside)
    exact ⟨h.sound.outside outside, h.rests, iff_of_false outside (foreign now)⟩

/-- **A step leaves the word alone, or updates it by a task that has had its effect from then on.** -/
theorem Moves.books (moves : w.Moves turn holder usage v after later) (sound : w.phase.Sound usage) :
    v.booked = w.booked ∧ later.used = usage.used ∨
      ∃ task, v.booked = w.booked ++ [task] ∧ later.used = task.update usage.used := by
  have before {phase : Phase} (here : w.phase = phase) (unsettled : phase ≠ .settled) : w.booked = w.done :=
    booked_of_ne (here ▸ unsettled)
  cases moves with
  | looks tasks idle seen =>
    rw [before idle (by decide)]
    rcases seen with rfl | ⟨rfl, -⟩
    · exact .inl ⟨rfl, rfl⟩
    · exact .inl ⟨rfl, rfl⟩
  | takes tasks waiting =>
    rw [before waiting (by decide)]
    exact .inl ⟨rfl, rfl⟩
  | loads tasks locked =>
    rw [before locked (by decide)]
    exact .inl ⟨rfl, rfl⟩
  | hears tasks locked | switches tasks locked =>
    rw [before locked (by decide)]
    exact .inr ⟨_, booked_of_settled tasks rfl, rfl⟩
  | stores tasks loaded =>
    rw [loaded] at sound
    rw [before loaded (by simp)]
    exact .inr ⟨_, booked_of_settled tasks rfl, congrArg (Task.update _) sound⟩
  | releases tasks settled =>
    rw [booked_of_settled tasks settled]
    exact .inl ⟨rfl, rfl⟩
  | hearsBare tasks phase | loadsBare tasks phase | storesBare tasks phase =>
    rw [phase] at sound
    exact sound.elim

/-- The word changes by just what is booked from then on. -/
theorem Moves.exact (moves : w.Moves turn holder usage v after later) (sound : w.phase.Sound usage) :
    (later.bytes : ℤ) + total w.booked ≡ usage.bytes + total v.booked [ZMOD 2 ^ 64] := by
  unfold Usage.bytes
  rcases moves.books sound with ⟨booked, used⟩ | ⟨task, booked, used⟩
  · rw [booked, used]
  · rw [booked, used, total_append, total_singleton, ← add_assoc, add_right_comm]
    exact (task.toNat_update usage.used).add_right _

end Worker

/-! ## Schedules -/

def balance (s : SharedUsage) : ℤ := (s.workers.map fun w => total w.done).sum

/-- No worker has anything left to do. -/
def Finished (s : SharedUsage) : Prop := ∀ w ∈ s.workers, w.tasks = []

/-- The worker with this number is about to be told the bytes in use. -/
def Reading (s : SharedUsage) (turn : Nat) : Prop :=
  ∃ w rest, s.workers[turn]? = some w ∧ w.tasks = .read :: rest ∧ w.phase = .locked

/-- Updates are serialized, and all workers are about to begin. -/
structure Starts (s : SharedUsage) : Prop where
  serialized : s.usage.serialized = true
  free : s.holder = none
  fresh : ∀ w ∈ s.workers, w.phase = .idle ∧ w.done = [] ∧ w.answers = []

variable {s t : SharedUsage} {turn : Nat}

/-- A step of a shared usage is a step of the worker whose turn it is. -/
theorem advance?_cases (done : s.advance? turn = some t) :
    ∃ w v, s.workers[turn]? = some w ∧ w.Moves turn s.holder s.usage v t.holder t.usage ∧
      t.workers = s.workers.set turn v := by
  obtain ⟨w, found, done⟩ := Option.bind_eq_some_iff.1 done
  obtain ⟨⟨v, after, later⟩, moved, done⟩ := Option.bind_eq_some_iff.1 done
  cases done
  exact ⟨w, v, found, Worker.moves_of_advance? moved, rfl⟩

theorem step_cases (s : SharedUsage) (turn : Nat) :
    s.step turn = s ∨ s.advance? turn = some (s.step turn) := by
  unfold step
  cases s.advance? turn with
  | none => exact .inl rfl
  | some t => exact .inr rfl

theorem run_append (s : SharedUsage) (earlier later : List Nat) :
    s.run (earlier ++ later) = (s.run earlier).run later := List.foldl_append

/-- Where the workers who start with `s` can have got: they keep to the lock, they did their tasks in order, and the
word is exact. -/
structure Orderly (s t : SharedUsage) : Prop where
  serialized : t.usage.serialized = true
  regular : ∀ (i : Nat) (w : Worker), t.workers[i]? = some w → w.Regular i t.holder t.usage
  owned : ∀ i, t.holder = some i → i < t.workers.length
  kept : t.workers.map Worker.all = s.workers.map Worker.tasks
  exact : (t.usage.bytes : ℤ) ≡ s.usage.bytes + (t.workers.map fun w => total w.booked).sum [ZMOD 2 ^ 64]

theorem Starts.orderly (h : s.Starts) : s.Orderly s := by
  have booked : s.workers.map (fun w => total w.booked) = s.workers.map fun _ => 0 :=
    List.map_congr_left fun w mem => by
      obtain ⟨idle, done, -⟩ := h.fresh w mem
      rw [Worker.booked_of_ne (by rw [idle]; decide), done, total_nil]
  refine ⟨h.serialized, ?_, ?_, List.map_congr_left fun w mem => ?_, ?_⟩
  · intro i w there
    obtain ⟨idle, -, -⟩ := h.fresh w (List.mem_of_getElem? there)
    refine ⟨?_, fun _ => idle, ?_⟩
    · rw [idle]
      trivial
    · rw [idle, h.free]
      exact iff_of_false Bool.false_ne_true (Option.some_ne_none i).symm
  · intro i held
    rw [h.free] at held
    cases held
  · rw [Worker.all, (h.fresh w mem).2.1, List.nil_append]
  · rw [booked, List.map_const', List.sum_replicate, nsmul_zero, add_zero]

/-- **A step of any worker keeps order.** -/
theorem Orderly.advance {u : SharedUsage} (h : s.Orderly t) (done : t.advance? turn = some u) : s.Orderly u := by
  obtain ⟨w, v, found, moves, workers⟩ := advance?_cases done
  have mine := h.regular turn w found
  have spares := moves.spares mine
  have inside := (List.getElem?_eq_some_iff.1 found).1
  refine ⟨moves.serialized h.serialized, ?_, ?_, ?_, ?_⟩
  · intro i x there
    -- The worker whose turn it is goes by its step, and every other one is spared.
    by_cases same : i = turn
    · subst same
      rw [workers, List.getElem?_set_self inside] at there
      obtain rfl := Option.some.inj there
      exact moves.regular h.serialized mine
    · rw [workers, List.getElem?_set_ne (Ne.symm same)] at there
      exact (h.regular i x there).spared same spares
  · intro i held
    rw [workers, List.length_set]
    rcases spares with ⟨same, -⟩ | ⟨-, none | here⟩
    · exact h.owned i (same ▸ held)
    · rw [none] at held
      cases held
    · obtain rfl := Option.some.inj (here.symm.trans held)
      exact inside
  · have listed : (t.workers.map Worker.all)[turn]? = some w.all := by
      rw [List.getElem?_map, found]
      rfl
    obtain ⟨_, here⟩ := List.getElem?_eq_some_iff.1 listed
    rw [workers, List.map_set, moves.all_eq, ← here, List.set_getElem_self, h.kept]
  · have sums := sum_map_set (fun w => total w.booked) found v
    have before := h.exact
    have changed := moves.exact mine.sound
    rw [← workers] at sums
    unfold Int.ModEq at *
    omega

theorem Orderly.step (h : s.Orderly t) (turn : Nat) : s.Orderly (t.step turn) := by
  rcases t.step_cases turn with same | advanced
  · rw [same]
    exact h
  · exact h.advance advanced

/-- **Every schedule keeps order.** -/
theorem Orderly.run (h : s.Orderly t) (schedule : List Nat) : s.Orderly (t.run schedule) := by
  induction schedule generalizing t with
  | nil => exact h
  | cons turn rest ih => exact ih (h.step turn)

/-- Where nobody is about to release the lock, the word is what the updates come to that are done. -/
theorem Orderly.bytes_eq (h : s.Orderly t)
    (unsettled : ∀ (i : Nat) (w : Worker), t.workers[i]? = some w → w.phase ≠ .settled) :
    (t.usage.bytes : ℤ) = (s.usage.bytes + t.balance) % 2 ^ 64 := by
  have booked : t.workers.map (fun w => total w.booked) = t.workers.map fun w => total w.done :=
    List.map_congr_left fun w mem => by
      obtain ⟨i, there⟩ := List.getElem?_of_mem mem
      rw [Worker.booked_of_ne (unsettled i w there)]
  have exact := h.exact
  have word : t.usage.bytes < 2 ^ 64 := t.usage.used.toNat_lt
  rw [booked] at exact
  unfold Int.ModEq at exact
  unfold balance
  omega

/-- While the lock is free the word is exact. -/
theorem Orderly.bytes_of_free (h : s.Orderly t) (free : t.holder = none) :
    (t.usage.bytes : ℤ) = (s.usage.bytes + t.balance) % 2 ^ 64 := by
  refine h.bytes_eq fun i w there settled => ?_
  have held := (h.regular i w there).holds.1 (by rw [settled]; rfl)
  rw [free] at held
  cases held

theorem Orderly.bytes_of_reading (h : s.Orderly t) (reading : t.Reading turn) :
    (t.usage.bytes : ℤ) = (s.usage.bytes + t.balance) % 2 ^ 64 := by
  obtain ⟨w, rest, found, -, locked⟩ := reading
  refine h.bytes_eq fun i v there settled => ?_
  have mine := (h.regular turn w found).holds.1 (by rw [locked]; rfl)
  have held := (h.regular i v there).holds.1 (by rw [settled]; rfl)
  obtain rfl := Option.some.inj (mine.symm.trans held)
  obtain rfl := Option.some.inj (found.symm.trans there)
  rw [locked] at settled
  cases settled

theorem Orderly.holds {i : Nat} (h : s.Orderly t) (held : t.holder = some i) :
    ∃ w, t.workers[i]? = some w ∧ w.phase.inside = true ∧ w.tasks ≠ [] := by
  have found := List.getElem?_eq_getElem (h.owned i held)
  have regular := h.regular i _ found
  have inside := regular.holds.2 held
  refine ⟨_, found, inside, fun none => ?_⟩
  rw [regular.rests none] at inside
  cases inside

/-- At most one worker is inside. -/
theorem Orderly.alone (h : s.Orderly t) {i j : Nat} {v w : Worker} (first : t.workers[i]? = some v)
    (second : t.workers[j]? = some w) (here : v.phase.inside = true) (there : w.phase.inside = true) : i = j :=
  Option.some.inj (((h.regular i v first).holds.1 here).symm.trans ((h.regular j w second).holds.1 there))

/-- A step tells a worker the word as it is, or nothing. -/
theorem Orderly.answers_step {i : Nat} {w : Worker} (h : s.Orderly t) (turn : Nat)
    (there : (t.step turn).workers[i]? = some w) :
    ∃ v, t.workers[i]? = some v ∧
      (w.answers = v.answers ∨ w.answers = v.answers ++ [t.usage.used] ∧ t.Reading i) := by
  rcases t.step_cases turn with same | advanced
  · rw [same] at there
    exact ⟨w, there, .inl rfl⟩
  · obtain ⟨u, v, found, moves, workers⟩ := advance?_cases advanced
    rw [workers] at there
    by_cases mine : i = turn
    · subst mine
      rw [List.getElem?_set_self (List.getElem?_eq_some_iff.1 found).1] at there
      obtain rfl := Option.some.inj there
      refine ⟨u, found, ?_⟩
      rcases moves.answers with same | ⟨more, phase, rest, tasks⟩
      · exact .inl same
      · refine .inr ⟨more, u, rest, found, tasks, ?_⟩
        rcases phase with locked | bare
        · exact locked
        · have sound := (h.regular i u found).sound
          rw [bare] at sound
          exact sound.elim
    · rw [List.getElem?_set_ne (Ne.symm mine)] at there
      exact ⟨w, there, .inl rfl⟩

/-- **What a worker was told was exact** at the moment when it was told. -/
theorem Starts.answers (starts : s.Starts) (schedule : List Nat) {i : Nat} {w : Worker}
    (there : (s.run schedule).workers[i]? = some w) :
    ∀ answer ∈ w.answers, ∃ earlier, earlier <+: schedule ∧ (s.run earlier).Reading i ∧
      (answer.toNat : ℤ) = (s.usage.bytes + (s.run earlier).balance) % 2 ^ 64 := by
  -- By the last step: either it told the worker of the word, or what was told was told before.
  induction schedule using List.reverseRecOn generalizing w with
  | nil =>
    have none : w.answers = [] := (starts.fresh w (List.mem_of_getElem? there)).2.2
    rw [none]
    exact fun _ mem => absurd mem List.not_mem_nil
  | append_singleton past turn ih =>
    have orderly := starts.orderly.run past
    rw [run_append] at there
    obtain ⟨v, found, told⟩ := orderly.answers_step turn there
    have before : ∀ answer ∈ v.answers, ∃ earlier, earlier <+: past ++ [turn] ∧ (s.run earlier).Reading i ∧
        (answer.toNat : ℤ) = (s.usage.bytes + (s.run earlier).balance) % 2 ^ 64 := by
      intro answer mem
      obtain ⟨earlier, early, exact⟩ := ih found answer mem
      exact ⟨earlier, early.trans (List.prefix_append _ _), exact⟩
    rcases told with same | ⟨more, reading⟩
    · rw [same]
      exact before
    · rw [more]
      refine List.forall_mem_append.2 ⟨before, List.forall_mem_singleton.2 ?_⟩
      exact ⟨past, List.prefix_append _ _, reading, orderly.bytes_of_reading reading⟩

/-! ## Tasks that are done one after the other -/

/-- The usage after a task that nobody interrupts. -/
def perform (usage : Usage) : Task → Usage
  | .add n => usage.add n
  | .sub n => usage.sub n
  | .read => usage
  | .serialize => usage.serialize

theorem used_perform (usage : Usage) (task : Task) : (perform usage task).used = task.update usage.used := by
  cases task <;> rfl

theorem bytes_foldl_perform (usage : Usage) (tasks : List Task) :
    ((tasks.foldl perform usage).bytes : ℤ) = (usage.bytes + total tasks) % 2 ^ 64 := by
  induction tasks generalizing usage with
  | nil =>
    have word : usage.bytes < 2 ^ 64 := usage.used.toNat_lt
    rw [List.foldl_nil, total_nil]
    omega
  | cons task rest ih =>
    have exact := task.toNat_update usage.used
    rw [List.foldl_cons, ih, total_cons, Usage.bytes, used_perform]
    unfold Int.ModEq at exact
    unfold Usage.bytes
    omega

theorem serialized_foldl_perform {usage : Usage} (on : usage.serialized = true) (tasks : List Task) :
    (tasks.foldl perform usage).serialized = true := by
  induction tasks generalizing usage with
  | nil => exact on
  | cons task rest ih =>
    refine ih ?_
    cases task with
    | serialize => rfl
    | add | sub | read => exact on

theorem Orderly.free_of_finished (h : s.Orderly t) (finished : t.Finished) : t.holder = none := by
  rw [Option.eq_none_iff_forall_ne_some]
  intro i held
  obtain ⟨w, found, -, busy⟩ := h.holds held
  exact busy (finished w (List.mem_of_getElem? found))

theorem Orderly.balance_of_finished (h : s.Orderly t) (finished : t.Finished) :
    t.balance = total (s.workers.flatMap Worker.tasks) := by
  have done : t.workers.map (fun w => total w.done) = (t.workers.map Worker.all).map total := by
    rw [List.map_map]
    refine List.map_congr_left fun w mem => ?_
    rw [Function.comp_apply, Worker.all, finished w mem, List.append_nil]
  rw [balance, done, h.kept, List.map_map, total_flatMap]
  rfl

/-- **When all is done, the usage is as if the tasks had been done one after the other.** -/
theorem Orderly.usage_of_finished (h : s.Orderly t) (on : s.usage.serialized = true) (finished : t.Finished) :
    t.usage = (s.workers.flatMap Worker.tasks).foldl perform s.usage := by
  have bytes := h.bytes_of_free (h.free_of_finished finished)
  rw [h.balance_of_finished finished, ← bytes_foldl_perform] at bytes
  exact Usage.eq_of_bytes (Int.ofNat_inj.1 bytes) (h.serialized.trans (serialized_foldl_perform on _).symm)

/-! ## The end of a schedule -/

/-- At most how many steps the workers have left. -/
def left (s : SharedUsage) : Nat := (s.workers.map Worker.left).sum

theorem left_lt (done : s.advance? turn = some t) : t.left < s.left := by
  obtain ⟨w, v, found, moves, workers⟩ := advance?_cases done
  have sums := sum_map_set Worker.left found v
  have less := moves.left_lt
  unfold left
  rw [workers]
  omega

/-- **Somebody can go on until all is done.** -/
theorem Orderly.exists_advance (h : s.Orderly t) (unfinished : ¬t.Finished) :
    ∃ turn u, t.advance? turn = some u := by
  -- Whoever holds the lock can go on; if nobody does, so can everyone who has something to do.
  have goes {i : Nat} {w : Worker} (found : t.workers[i]? = some w) (busy : w.tasks ≠ [])
      (free : w.phase = .waiting → t.holder = none) : ∃ turn u, t.advance? turn = some u := by
    have moves : w.advance? i t.holder t.usage ≠ none := Worker.advance?_ne_none busy free
    obtain ⟨⟨v, after, later⟩, moved⟩ := Option.ne_none_iff_exists'.1 moves
    refine ⟨i, ⟨later, after, t.workers.set i v⟩, ?_⟩
    rw [advance?, found, Option.bind_eq_bind, Option.bind_some, moved]
    rfl
  cases holder : t.holder with
  | none =>
    obtain ⟨w, mem, busy⟩ : ∃ w ∈ t.workers, w.tasks ≠ [] := by
      simpa only [Finished, not_forall, exists_prop] using unfinished
    obtain ⟨i, found⟩ := List.getElem?_of_mem mem
    exact goes found busy fun _ => holder
  | some i =>
    obtain ⟨w, found, inside, busy⟩ := h.holds holder
    refine goes found busy fun waiting => ?_
    rw [waiting] at inside
    cases inside

/-- Every schedule goes on to one after which all is done. -/
theorem Orderly.exists_finished (h : s.Orderly t) : ∃ more, (t.run more).Finished := by
  -- Each step that is taken leaves fewer of them.
  induction steps : t.left using Nat.strong_induction_on generalizing t with
  | h n ih =>
    by_cases finished : t.Finished
    · exact ⟨[], finished⟩
    · obtain ⟨turn, u, advanced⟩ := h.exists_advance finished
      obtain ⟨more, done⟩ := ih u.left (steps ▸ left_lt advanced) (h.advance advanced) rfl
      refine ⟨turn :: more, ?_⟩
      have same : t.step turn = u := by rw [SharedUsage.step, advanced, Option.getD_some]
      show ((t.step turn).run more).Finished
      rw [same]
      exact done

/-! ## The law -/

/-- What holds after a schedule, of workers who start with `s`. -/
structure Exact (s : SharedUsage) (schedule : List Nat) : Prop where
  /-- At most one worker is between getting the lock and releasing it. -/
  alone : ∀ (i j : Nat) (v w : Worker), (s.run schedule).workers[i]? = some v →
    (s.run schedule).workers[j]? = some w → v.phase.inside = true → w.phase.inside = true → i = j
  /-- What each worker has done, and then what it has left, are its tasks. -/
  kept : (s.run schedule).workers.map Worker.all = s.workers.map Worker.tasks
  /-- While the lock is free the bytes in use are what the updates come to that are done. -/
  free : (s.run schedule).holder = none →
    ((s.run schedule).usage.bytes : ℤ) = (s.usage.bytes + (s.run schedule).balance) % 2 ^ 64
  /-- What a worker was told were the bytes in use then, in the same sense. -/
  answers : ∀ (i : Nat) (w : Worker), (s.run schedule).workers[i]? = some w → ∀ answer ∈ w.answers,
    ∃ earlier, earlier <+: schedule ∧ (s.run earlier).Reading i ∧
      (answer.toNat : ℤ) = (s.usage.bytes + (s.run earlier).balance) % 2 ^ 64
  /-- In the end the usage is as if the workers had done their tasks in turn; so it is the same for every schedule. -/
  finished : (s.run schedule).Finished →
    (s.run schedule).usage = (s.workers.flatMap Worker.tasks).foldl perform s.usage
  /-- There is an end. -/
  finishes : ∃ more, (s.run (schedule ++ more)).Finished

/-- **Serialized updates are exact**, whatever the workers have to do and however their steps follow one another. -/
theorem serialized_updates_exact (starts : s.Starts) (schedule : List Nat) : s.Exact schedule := by
  have orderly := starts.orderly.run schedule
  refine ⟨?_, orderly.kept, orderly.bytes_of_free, ?_, orderly.usage_of_finished starts.serialized, ?_⟩
  · exact fun i j v w first second here there => orderly.alone first second here there
  · exact fun i w there => starts.answers schedule there
  · obtain ⟨more, finished⟩ := orderly.exists_finished
    rw [← run_append] at finished
    exact ⟨more, finished⟩

theorem starts_ofTasks {usage : Usage} (on : usage.serialized = true) (tasks : List (List Task)) :
    (ofTasks usage tasks).Starts := by
  refine ⟨on, rfl, fun w mem => ?_⟩
  obtain ⟨list, -, rfl⟩ := List.mem_map.1 mem
  exact ⟨rfl, rfl, rfl⟩

/-- Two workers, one of whom subtracts more than there is before the other one adds to it. -/
def seesaw : SharedUsage := ofTasks { used := 5, serialized := true } [[.add 3, .read], [.sub 10]]

/-- The first worker waits for the second, and then asks for the bytes in use. -/
def seesawTurns : List Nat := [0, 1, 1, 0, 1, 0, 1, 1, 0, 0, 0, 0, 0, 0, 0, 0]

/-- The word wraps around, and is exact in the end. -/
theorem seesaw_exact :
    seesaw.Starts ∧ seesaw.Exact seesawTurns ∧ (seesaw.run seesawTurns).Finished ∧
      (seesaw.run seesawTurns).usage.bytes = 2 ^ 64 - 2 := by
  have starts : seesaw.Starts := starts_ofTasks rfl _
  have exact := serialized_updates_exact starts seesawTurns
  have finished : (seesaw.run seesawTurns).Finished := by
    unfold Finished
    decide
  refine ⟨starts, exact, finished, ?_⟩
  rw [exact.finished finished]
  rfl

/-- Where updates are not serialized, one of two can be lost. -/
example : ((ofTasks {} [[.add 1], [.add 1]]).run [0, 1, 0, 1, 0, 1]).usage.bytes = 1 := by decide

end SharedUsage

end NodeHeap
