import Mathlib.Data.List.Count
import Mathlib.Data.List.Nodup
import NodeHeap.Crew.Load
import NodeHeap.Proofs.CrewPlans

/-!
# The books under every schedule

Workers use one allocator at the same time. Whatever the schedule, the books show the blocks that were put on
them and not taken off, and never more than the source has given out; when all workers rest, they show the blocks
that are owned, and the counters how many requests were served and blocks released.

* `Arena.outstanding` — the bytes that the source has given out; `Accounts.sum_le_outstanding`.
* `Crew.Begins`, `Crew.Begins.agrees` — a crew that takes over an allocator after any run of a session.
* `Crew.Changes` — what a step does to the usage word, which is read and written in one go; `Agrees.changes`.
* `Crew.Shows` — what the books, the counters and the next step show at a moment; `Agrees.shows`.
* `Crew.kept`, `Crew.Leaves` — the blocks that no task releases, and what the books and the counters show when all is
  done and nothing was refused; `Begins.leaves`.
* `run_shows` — so it is at every moment of every schedule, and at the end of every schedule it is the same.
-/

namespace NodeHeap

variable {σ : Type}

theorem Booking.le_sum {entry : Booking} {entries : List Booking} (mem : entry ∈ entries) :
    entry.total ≤ Booking.sum entries := by
  obtain ⟨front, back, rfl⟩ := List.append_of_mem mem
  simp only [Booking.sum, List.map_append, List.map_cons, List.sum_append, List.sum_cons]
  omega

/-! ## What the source has given out -/

/-- The bytes that a source has given out and not got back. -/
def Arena.outstanding (a : Arena σ) : Nat := (a.regions.toList.map fun entry => entry.2.size).sum

namespace Accounts

variable {a : Allocator σ} {rows : List (Birth × BlockId)} {stages : List Stage} {r : Record}

theorem apart_booked (h : Accounts a rows stages r) : (r.booked.map Booking.block).Nodup :=
  h.blocks.nodup_iff.2 (List.nodup_append.1 h.apart).1

/-- **The books show no more than the source has given out.** -/
theorem sum_le_outstanding (h : Accounts a rows stages r) :
    Booking.sum r.booked ≤ a.arena.outstanding := by
  let size (block : RegionId) : Nat := (a.arena.regions[block]?.map Region.size).getD 0
  have booked : r.booked.map Booking.total = (r.booked.map Booking.block).map size := by
    rw [List.map_map]
    refine List.map_congr_left fun entry mem => ?_
    obtain ⟨head, payload, ⟨found, there, block⟩, total⟩ := h.live entry mem
    simp only [Function.comp_apply, size, there, Option.map_some, Option.getD_some]
    rw [← total, block.sized]
  have outstanding : (a.arena.regions.toList.map fun entry => entry.2.size) =
      a.arena.regions.keys.map size := by
    rw [← Std.ExtTreeMap.map_fst_toList_eq_keys, List.map_map]
    refine List.map_congr_left fun entry mem => ?_
    have there := Std.ExtTreeMap.mem_toList_iff_getElem?_eq_some.1 mem
    simp only [Function.comp_apply, size, there, Option.map_some, Option.getD_some]
  have given : r.booked.map Booking.block ⊆ a.arena.regions.keys := by
    intro block named
    obtain ⟨entry, mem, rfl⟩ := List.mem_map.1 named
    obtain ⟨head, payload, ⟨found, there, -⟩, -⟩ := h.live entry mem
    exact Std.ExtTreeMap.mem_keys.2 (Std.ExtTreeMap.mem_iff_isSome_getElem?.2 (by rw [there]; rfl))
  obtain ⟨some, same, within⟩ := List.subperm_of_subset h.apart_booked given
  obtain ⟨others, whole⟩ := within.exists_perm_append
  unfold Booking.sum Arena.outstanding
  rw [booked, outstanding, (whole.map size).sum_nat, List.map_append, List.sum_append,
    (same.map size).sum_nat]
  exact Nat.le_add_right _ _

theorem usedBytes_of_lt (h : Accounts a rows stages r) (bound : Booking.sum r.booked < wordLimit) :
    a.usedBytes = Booking.sum r.booked := by
  rw [Allocator.usedBytes, Usage.bytes, h.used, UInt64.toNat_ofNat']
  exact Nat.mod_eq_of_lt bound

theorem usedBytes_eq (h : Accounts a rows stages r) (bound : a.arena.outstanding < wordLimit) :
    a.usedBytes = Booking.sum r.booked :=
  h.usedBytes_of_lt (Nat.lt_of_le_of_lt h.sum_le_outstanding bound)

theorem usableSize_eq (h : Accounts a rows stages r) {entry : Booking} (mem : entry ∈ r.booked) :
    ∃ size, a.usableSize entry.block = .ok size ∧ entry.total = size + headerWidth := by
  obtain ⟨head, payload, has, total⟩ := h.live entry mem
  refine ⟨head.size, ?_, total.symm⟩
  simp only [Allocator.usableSize, has.header_eq]
  rfl

end Accounts

/-! ## How a crew begins -/

/-- The bytes that a block takes up, with its header. -/
def Allocator.totalOf (a : Allocator σ) (block : BlockId) : Nat :=
  match a.usableSize block with
  | .ok size => size + headerWidth
  | .error _ => 0

/-- The blocks of a session are held. -/
theorem Session.Stores.holds {s : Session σ} {cells : Cells} (h : s.Stores cells)
    (balanced : s.allocator.counters.Balanced s.blocks.length) :
    ∃ held, s.allocator.Holds held ∧ held.map Prod.fst = s.blocks.map Prod.snd := by
  obtain ⟨a, blocks⟩ := s
  obtain ⟨entries, rfl, rfl⟩ := Table.zip_of_mapValues h.contents
  rw [Table.length_mapValues] at balanced
  refine ⟨entries.map Prod.snd, Allocator.holds_of_stores h balanced, ?_⟩
  rw [Table.map_snd_mapValues, List.map_map]

namespace Allocator

variable {a : Allocator σ} {held : List Holding} {entry : Holding}

theorem Holds.totalOf (h : a.Holds held) (mem : entry ∈ held) :
    a.totalOf entry.1 = entry.2.size + headerWidth := by
  simp only [Allocator.totalOf, h.usableSize mem]

theorem Holds.total_eq (h : a.Holds held) : Holding.total held = ((held.map Prod.fst).map a.totalOf).sum := by
  have sizes : (held.map Prod.fst).map a.totalOf = held.map fun entry => entry.2.size + headerWidth := by
    rw [List.map_map]
    exact List.map_congr_left fun entry mem => h.totalOf mem
  rw [sizes, List.sum_eq_foldr, List.foldr_map]
  rfl

end Allocator

/-- A worker that takes over some blocks and has not begun. -/
structure Worker.Starts (w : Worker) : Prop where
  ready : w.stage = .ready
  asked : w.asked = 0
  given : ∀ entry ∈ w.blocks.table, ∃ block, entry = (.given block, some block)

namespace Crew

/-- The record at the start: the blocks that the workers have, and what is counted so far. -/
def opening (c : Crew σ) : Record where
  booked := (owned c.workers).map fun named => ⟨named.2, named.1, c.allocator.totalOf named.2⟩
  served := c.allocator.counters.allocations
  released := c.allocator.counters.frees

variable [Source σ]

/-- A crew takes over an allocator and its blocks after any run of a session: with no blocks, if the session
has just been made. -/
inductive Begins : Crew σ → Prop
  | after {s : Session σ} (made : s.Initial) (steps : List (Step σ)) (workers : List Worker)
    (starts : ∀ w ∈ workers, w.Starts)
    (shared : ((owned workers).map Prod.snd).Perm ((s.run steps).2.blocks.map Prod.snd)) :
    Begins ⟨(s.run steps).2.allocator, workers⟩

def seen (c : Crew σ) (schedule : List Nat) : Record := c.watch c.opening schedule

variable {c : Crew σ}

omit [Source σ] in
theorem countP_stages {workers : List Worker} (ready : ∀ w ∈ workers, w.stage = .ready) {p : Stage → Bool}
    (idle : p .ready = false) : (workers.map Worker.stage).countP p = 0 := by
  refine List.countP_eq_zero.2 fun s mem => ?_
  obtain ⟨w, here, rfl⟩ := List.mem_map.1 mem
  rw [ready w here, idle]
  exact Bool.false_ne_true

omit [Source σ] in
/-- Workers that rest have nothing half-way. -/
theorem agrees_of_holds {held : List Holding} (h : c.allocator.Holds held)
    (shared : (held.map Prod.fst).Perm ((owned c.workers).map Prod.snd)) (ready : ∀ w ∈ c.workers, w.stage = .ready) :
    c.Agrees c.opening := by
  have rest (s : Stage) (mem : s ∈ c.workers.map Worker.stage) : s = .ready := by
    obtain ⟨w, here, rfl⟩ := List.mem_map.1 mem
    exact ready w here
  have regions : (c.workers.map Worker.stage).filterMap Stage.region? = [] :=
    List.filterMap_eq_nil_iff.2 fun s mem => by rw [rest s mem]; rfl
  have named : c.opening.booked.map Booking.named = owned c.workers := by
    rw [opening, List.map_map]
    exact List.map_id _
  have known (block : BlockId) (mem : block ∈ (owned c.workers).map Prod.snd) : ∃ entry ∈ held, entry.1 = block :=
    List.mem_map.1 (shared.mem_iff.2 mem)
  refine ⟨.of_eq named, ?_, ?_, ?_, ?_, ?_, ?_, ?_, ?_⟩
  · intro entry mem
    obtain ⟨⟨birth, block⟩, own, rfl⟩ := List.mem_map.1 mem
    obtain ⟨holding, held, rfl⟩ := known block (List.mem_map_of_mem own)
    obtain ⟨head, has, size, -⟩ := h.live holding held
    refine ⟨head, _, has, ?_⟩
    rw [h.totalOf held, Header.total, size]
  · intro s mem
    rw [rest s mem]
    trivial
  · rw [regions, List.append_nil]
    exact shared.nodup_iff.1 h.apart
  · rw [regions, List.append_nil]
    intro block mem
    obtain ⟨holding, held, rfl⟩ := known block mem
    exact h.named holding held
  · rw [h.used, h.total_eq, (shared.map _).sum_nat, Booking.sum, opening, List.map_map, List.map_map]
    rfl
  · rw [countP_stages ready rfl]
    rfl
  · rw [countP_stages ready rfl]
    rfl
  · have balanced := h.balanced
    have length := shared.length_eq
    rw [List.length_map, List.length_map] at length
    rw [countP_stages ready rfl, ← List.length_map Booking.named, named, ← length]
    unfold Counters.Balanced at balanced
    show c.allocator.counters.allocations = held.length + c.allocator.counters.frees + 0
    omega

theorem Begins.starts (begins : c.Begins) : ∀ w ∈ c.workers, w.Starts := by
  cases begins with
  | after made steps workers starts shared => exact starts

theorem Begins.agrees (begins : c.Begins) : c.Agrees c.opening := by
  cases begins with
  | @after s made steps workers starts shared =>
    obtain ⟨cells, stores⟩ := made.stored.run steps
    obtain ⟨held, holds, names⟩ := stores.holds (made.counted.run made.stored steps).balanced
    exact agrees_of_holds holds ((List.Perm.of_eq names).trans shared.symm) fun w mem => (starts w mem).ready

end Crew

/-! ## What is shown at a moment -/

namespace Usage

theorem bytes_add {usage : Usage} {n : Nat} (bound : usage.bytes + n < wordLimit) :
    (usage.add n).bytes = usage.bytes + n := by
  have wraps : (usage.used + UInt64.ofNat n).toNat = (usage.used.toNat + n) % wordLimit := by
    rw [UInt64.toNat_add, UInt64.toNat_ofNat', Nat.add_mod_mod]
    rfl
  exact wraps.trans (Nat.mod_eq_of_lt bound)

theorem bytes_sub {usage : Usage} {n : Nat} (held : n ≤ usage.bytes) :
    usage.bytes = (usage.sub n).bytes + n := by
  have small : n < 2 ^ 64 := Nat.lt_of_le_of_lt held usage.used.toNat_lt
  have number : (UInt64.ofNat n).toNat = n := by
    rw [UInt64.toNat_ofNat', Nat.mod_eq_of_lt small]
  have less : (usage.used - UInt64.ofNat n).toNat = usage.used.toNat - n := by
    rw [UInt64.toNat_sub_of_le _ _ (UInt64.le_iff_toNat_le.2 (number.symm ▸ held)), number]
  show usage.used.toNat = (usage.used - UInt64.ofNat n).toNat + n
  rw [less]
  exact (Nat.sub_add_cancel held).symm

end Usage

/-- The block that a deed is about, where it changes the books. -/
def Deed.block? : Deed → Option BlockId
  | booked entry => some entry.block
  | dropped block => some block
  | returned | refused => none

/-- What a step of a worker does to the usage word is what there is to see of it. -/
theorem Worker.Advances.usage_eq [Source σ] {w v : Worker} {a b : Allocator σ} {turn : Nat}
    (advances : w.Advances turn a v b) :
    (∃ entry, w.deed? v = some (.booked entry) ∧ w.stage.region? = some entry.block ∧
        b.usage = a.usage.add entry.total) ∨
      (∃ block head, w.deed? v = some (.dropped block) ∧ block ∈ w.blocks.owned.map Prod.snd ∧
        a.arena.header block = .ok head ∧ b.usage = a.usage.sub head.total) ∨
      (w.deed? v).bind Deed.block? = none ∧ b.usage = a.usage := by
  have looked {nodes : List NodeId} {d : Allocator σ} (targets : a.targets none = .ok (nodes, d)) :
      d.usage = a.usage := by
    rw [Allocator.targets_spec targets]
  cases advances with
  | rests ready asks => exact .inr (.inr ⟨by simp only [deed?, ready, asks]; rfl, rfl⟩)
  | skips ready next =>
    exact .inr (.inr ⟨by simp only [deed?, ready, next, List.head?_cons, Option.any_some]; rfl, rfl⟩)
  | excludes ready next targets =>
    exact .inr (.inr ⟨by simp only [deed?, ready, next]; rfl, looked targets⟩)
  | asks ready next targets => exact .inr (.inr ⟨by simp only [deed?, ready]; rfl, looked targets⟩)
  | misses source call event asking => exact .inr (.inr ⟨by simp only [deed?, asking]; rfl, rfl⟩)
  | retries missed => exact .inr (.inr ⟨by simp only [deed?, missed]; rfl, rfl⟩)
  | forgoes source call asking => exact .inr (.inr ⟨by simp only [deed?, asking]; rfl, rfl⟩)
  | gets origin found source call asking => exact .inr (.inr ⟨by simp only [deed?, asking]; rfl, rfl⟩)
  | counts counters granted => exact .inr (.inr ⟨by simp only [deed?, granted]; rfl, rfl⟩)
  | books counted headed => exact .inl ⟨_, by simp only [deed?, counted]; rfl, by rw [counted]; rfl, rfl⟩
  | drops ready next taken headed =>
    have mine := List.mem_map_of_mem (f := Prod.snd)
      ((BlockRow.perm_owned_of_take? taken).symm.subset List.mem_cons_self)
    exact .inr (.inl ⟨_, _, by simp only [deed?, ready], mine, headed, rfl⟩)
  | discounts dropped => exact .inr (.inr ⟨by simp only [deed?, dropped]; rfl, rfl⟩)
  | returns uncounted => exact .inr (.inr ⟨by simp only [deed?, uncounted]; rfl, rfl⟩)

namespace Crew

variable [Source σ] {c : Crew σ} {r : Record}

/-- What a step does to the usage word: it adds a block that was not on the books, subtracts one that was, or leaves
the word alone; and neither wraps, unless the source has given out more than a word counts. -/
inductive Changes (c after : Crew σ) (r : Record) : Option Deed → Prop
  | adds {entry : Booking} (new : entry.block ∉ r.booked.map Booking.block)
    (usage : after.allocator.usage = c.allocator.usage.add entry.total)
    (unwrapped : after.allocator.arena.outstanding < wordLimit →
      after.allocator.usedBytes = c.allocator.usedBytes + entry.total) :
    Changes c after r (some (.booked entry))
  | subtracts {entry : Booking} (mem : entry ∈ r.booked)
    (usage : after.allocator.usage = c.allocator.usage.sub entry.total)
    (unwrapped : c.allocator.arena.outstanding < wordLimit →
      c.allocator.usedBytes = after.allocator.usedBytes + entry.total) :
    Changes c after r (some (.dropped entry.block))
  | keeps {deed : Option Deed} (other : deed.bind Deed.block? = none)
    (usage : after.allocator.usage = c.allocator.usage) : Changes c after r deed

/-- What the books, the counters and the next step show at a moment. The books show the blocks whose totals were
added and not subtracted; these are the blocks that are owned, and what was added for each is its size with a header.
They never show more than the source has given out. When all workers rest, the counters show how many requests were
served and how many blocks released. No step touches a block that is not there. -/
structure Shows (c : Crew σ) (r : Record) : Prop where
  owned : (r.booked.map Booking.named).Perm (owned c.workers)
  sized : ∀ entry ∈ r.booked, ∃ size,
    c.allocator.usableSize entry.block = .ok size ∧ entry.total = size + headerWidth
  bounded : Booking.sum r.booked ≤ c.allocator.arena.outstanding
  used : c.allocator.arena.outstanding < wordLimit → c.allocator.usedBytes = Booking.sum r.booked
  changes : ∀ turn after, c.step turn = .ok after → Changes c after r (c.deed? turn after)
  rests : (∀ w ∈ c.workers, w.stage = .ready) →
    c.allocator.counters.allocations = r.served ∧ c.allocator.counters.frees = r.released ∧
      r.served = r.booked.length + r.released
  halts : ∀ turn halt, c.step turn = .error halt →
    (∃ size, halt = .exhausted size) ∨
      ∃ cause, c.allocator.topology.snapshot = .error cause ∧ halt = cause.ofWorker

omit [Source σ] in
theorem Agrees.booked_of_mem (h : c.Agrees r) {turn : Nat} {w : Worker} (found : c.workers[turn]? = some w)
    {block : BlockId} (mem : block ∈ w.blocks.owned.map Prod.snd) : ∃ entry ∈ r.booked, entry.block = block := by
  obtain ⟨named, mine, rfl⟩ := List.mem_map.1 mem
  have own : named ∈ owned c.workers := List.mem_flatMap.2 ⟨w, List.mem_of_getElem? found, mine⟩
  obtain ⟨entry, booked, rfl⟩ := List.mem_map.1 (h.owned.mem_iff.2 own)
  exact ⟨entry, booked, rfl⟩

omit [Source σ] in
/-- A region that was granted and counted is there for the header. -/
theorem Agrees.setHeader_ne_error (h : c.Agrees r) {turn : Nat} {w : Worker} (found : c.workers[turn]? = some w)
    {demand : Demand} {region : RegionId} {origin : NodeSlot} (counted : w.stage = .counted demand region origin)
    (halt : Halt) : c.allocator.arena.setHeader region { size := demand.size, origin } ≠ .error halt := by
  obtain ⟨⟨-, total⟩, old, there, size⟩ : Stage.Fits c.allocator.arena (.counted demand region origin) :=
    h.fits _ (counted ▸ List.mem_map_of_mem (List.mem_of_getElem? found))
  rw [Arena.setHeader_of_le there (by rw [size, total]; exact Nat.le_add_left _ _)]
  intro cut
  cases cut

omit [Source σ] in
/-- A block that a worker has is there with a header. -/
theorem Agrees.header_ne_error (h : c.Agrees r) {turn : Nat} {w : Worker} (found : c.workers[turn]? = some w)
    {birth : Birth} {block : BlockId} {blocks : BlockRow}
    (taken : w.blocks.take? birth = some (some block, blocks)) (halt : Halt) :
    c.allocator.arena.header block ≠ .error halt := by
  have own := (BlockRow.perm_owned_of_take? taken).symm.subset List.mem_cons_self
  obtain ⟨entry, mem, rfl⟩ := h.booked_of_mem found (List.mem_map_of_mem own)
  obtain ⟨head, payload, has, -⟩ := h.live entry mem
  rw [has.header_eq]
  intro cut
  cases cut

/-- A step halts only for want of memory, or where the topology cannot be looked at. -/
theorem Agrees.halts (h : c.Agrees r) {turn : Nat} {halt : Halt} (cut : c.step turn = .error halt) :
    (∃ size, halt = .exhausted size) ∨
      ∃ cause, c.allocator.topology.snapshot = .error cause ∧ halt = cause.ofWorker := by
  obtain ⟨w, cause, found, advanced, rfl⟩ := step_error cut
  cases Worker.advance_error advanced with
  | looks unseen cut => exact .inr ⟨cause, cut, rfl⟩
  | needs => exact .inl ⟨_, rfl⟩
  | lacks => exact .inl ⟨_, rfl⟩
  | books counted cut => exact absurd cut (h.setHeader_ne_error found counted cause)
  | drops taken cut => exact absurd cut (h.header_ne_error found taken cause)

theorem Agrees.changes (h : c.Agrees r) {turn : Nat} {after : Crew σ} (steps : c.Steps turn after) :
    Changes c after r (c.deed? turn after) := by
  have agrees := h.step steps
  cases steps with
  | passes none => exact .keeps (by simp only [deed?, none]; rfl) rfl
  | gives found ready next =>
    rw [deed?_handOver found ready next]
    exact .keeps rfl rfl
  | @works w v b found alone advances =>
    have there := List.mem_of_getElem? found
    rw [deed?_set found] at agrees ⊢
    rcases advances.usage_eq with ⟨entry, seen, region, usage⟩ |
      ⟨block, head, seen, mine, headed, usage⟩ | ⟨other, usage⟩
    · rw [seen] at agrees ⊢
      refine .adds (fun mem => ?_) usage fun bound => ?_
      · obtain ⟨booked, mem, same⟩ := List.mem_map.1 mem
        exact h.ne_region mem (List.mem_map_of_mem there) region same
      · have room : entry.total + Booking.sum r.booked < wordLimit :=
          Nat.lt_of_le_of_lt agrees.sum_le_outstanding bound
        have before : c.allocator.usage.bytes = Booking.sum r.booked := h.usedBytes_of_lt (by omega)
        show b.usage.bytes = _
        rw [usage]
        exact Usage.bytes_add (by omega)
    · obtain ⟨entry, mem, rfl⟩ := h.booked_of_mem found mine
      rw [seen]
      have total := h.total_of_header mem headed
      rw [← total] at usage
      refine .subtracts mem usage fun bound => ?_
      show c.allocator.usage.bytes = b.usage.bytes + entry.total
      rw [usage]
      refine Usage.bytes_sub ?_
      show entry.total ≤ c.allocator.usedBytes
      rw [h.usedBytes_eq bound]
      exact Booking.le_sum mem
    · exact .keeps other usage

theorem Agrees.shows (h : c.Agrees r) : c.Shows r := by
  refine ⟨h.owned, fun entry => h.usableSize_eq, h.sum_le_outstanding, h.usedBytes_eq,
    fun turn after stepped => h.changes (step_cases stepped), fun ready => ?_, fun turn halt => h.halts⟩
  obtain ⟨allocations, frees, balanced⟩ := h.tallied
  rw [countP_stages ready rfl] at allocations frees balanced
  exact ⟨allocations, frees, balanced⟩

end Crew

/-! ## What is left in the end -/

def Task.size? : Task → Option Nat
  | .allocate _ size => some size
  | .free _ | .handOver .. => none

/-- What a list of tasks asks for has the sizes that the tasks say. -/
theorem Task.mem_wanted {turn index : Nat} {tasks : List Task} {share : Birth × Nat}
    (mem : share ∈ wanted turn index tasks) : ∃ place size,
      share = (.asked turn (index + place), size + headerWidth) ∧ (tasks.filterMap Task.size?)[place]? = some size := by
  induction tasks generalizing index with
  | nil => cases mem
  | cons task rest ih =>
    cases task with
    | allocate fatal size =>
      rcases List.mem_cons.1 mem with rfl | mem
      · exact ⟨0, size, rfl, rfl⟩
      · obtain ⟨place, later, same, found⟩ := ih mem
        refine ⟨place + 1, later, ?_, found⟩
        rw [same, Nat.add_assoc, Nat.add_comm 1]
    | free | handOver => exact ih mem

namespace Crew

/-- What a block takes up, from what is known at the start. -/
def cost (c : Crew σ) : Birth → Nat
  | .given block => c.allocator.totalOf block
  | .asked turn index =>
    match c.workers[turn]?.bind fun w => (w.tasks.filterMap Task.size?)[index]? with
    | some size => size + headerWidth
    | none => 0

/-- All blocks that there are or will be, if no request is refused. -/
def births (c : Crew σ) : List Birth := (owned c.workers).map Prod.fst ++ (wanted c.workers).map Prod.fst

/-- The blocks among them that no task releases. -/
def kept (c : Crew σ) : List Birth := c.births.diff (releases c.workers)

def Done (c : Crew σ) : Prop := ∀ w ∈ c.workers, w.stage = .ready ∧ w.tasks = []

instance (c : Crew σ) : Decidable c.Done := List.decidableBAll _ _

/-- What the books and the counters show when all is done and nothing was refused: all requests are served, all
blocks are released that the tasks release, and the others are in use. -/
structure Leaves (c : Crew σ) (last : Crew σ) : Prop where
  allocations : last.allocator.counters.allocations = c.allocator.counters.allocations + (wanted c.workers).length
  frees : last.allocator.counters.frees = c.allocator.counters.frees + (releases c.workers).length
  used : last.allocator.usedBytes = (c.kept.map c.cost).sum % wordLimit

variable {c : Crew σ}

theorem known_opening (c : Crew σ) :
    c.opening.known = (owned c.workers).map fun named => (named.1, c.allocator.totalOf named.2) := by
  rw [Record.known, opening, List.append_nil, List.map_map]
  rfl

theorem cost_eq (starts : ∀ w ∈ c.workers, w.Starts) {share : Birth × Nat}
    (mem : share ∈ c.opening.known ++ wanted c.workers) : share.2 = c.cost share.1 := by
  rcases List.mem_append.1 mem with known | wanted
  · rw [known_opening] at known
    obtain ⟨named, own, rfl⟩ := List.mem_map.1 known
    obtain ⟨w, here, mine⟩ := List.mem_flatMap.1 own
    obtain ⟨entry, there, same⟩ := List.mem_filterMap.1 mine
    obtain ⟨block, rfl⟩ := (starts w here).given entry there
    cases same
    rfl
  · obtain ⟨shares, here, mem⟩ := List.mem_flatten.1 wanted
    obtain ⟨turn, inside, rfl⟩ := List.mem_mapIdx.1 here
    obtain ⟨ready, asked, -⟩ := starts _ (List.getElem_mem inside)
    rw [Worker.wanted, ready, asked] at mem
    obtain ⟨place, size, rfl, found⟩ := Task.mem_wanted mem
    simp only [cost, Nat.zero_add, List.getElem?_eq_getElem inside, Option.bind_some, found]

theorem Done.wanted (done : c.Done) : wanted c.workers = [] := by
  refine List.flatten_eq_nil_iff.2 fun shares mem => ?_
  obtain ⟨turn, inside, rfl⟩ := List.mem_mapIdx.1 mem
  obtain ⟨ready, none⟩ := done _ (List.getElem_mem inside)
  rw [Worker.wanted, ready, none]
  rfl

theorem Done.releases (done : c.Done) : releases c.workers = [] := by
  refine List.flatMap_eq_nil_iff.2 fun w mem => ?_
  rw [(done w mem).2]
  rfl

/-- What is left of a list is what has to be added to the rest of it. -/
theorem perm_diff {all some left : List Birth} (split : (left ++ some).Perm all) : left.Perm (all.diff some) := by
  have counted (birth : Birth) : left.count birth = (all.diff some).count birth := by
    rw [List.count_diff, ← split.count_eq, List.count_append, Nat.add_sub_cancel]
  exact List.perm_iff_count.2 counted

variable [Source σ] {schedule : List Nat} {last : Crew σ}

theorem Begins.whole (begins : c.Begins) : Whole (tables c.workers) := by
  intro entry mem
  obtain ⟨w, here, mine⟩ := List.mem_flatMap.1 mem
  obtain ⟨block, rfl⟩ := (begins.starts w here).given entry mine
  exact Option.some_ne_none _

theorem Begins.leaves (begins : c.Begins) (run : c.run schedule = .ok last) (done : last.Done)
    (served : (c.seen schedule).refused = 0) : c.Leaves last := by
  have agrees : last.Agrees (c.seen schedule) := begins.agrees.watch run
  have known : (c.seen schedule).known.Perm (c.opening.known ++ wanted c.workers) := by
    have known := wanted_watch begins.agrees run served
    rwa [done.wanted, List.append_nil] at known
  have released : ((c.seen schedule).dropped.map Booking.birth).Perm (releases c.workers) := by
    have released := releases_watch begins.agrees begins.whole run served
    rwa [done.releases, List.append_nil] at released
  -- What is not released of all that is known is still on the books.
  have left : ((c.seen schedule).booked.map Booking.birth).Perm c.kept := by
    refine perm_diff ((released.symm.append_left _).trans ?_)
    have births := known.map Prod.fst
    rw [Record.known, known_opening, List.map_append, List.map_append, List.map_append, List.map_map, List.map_map,
      List.map_map] at births
    exact births
  obtain ⟨allocations, frees, balanced⟩ := agrees.shows.rests fun w mem => (done w mem).1
  obtain ⟨-, -, before⟩ := begins.agrees.shows.rests fun w mem => (begins.starts w mem).ready
  have counted : (c.seen schedule).served + c.opening.known.length =
      c.opening.served + (c.seen schedule).known.length := served_watch c c.opening schedule
  have total := known.length_eq
  have dropped := released.length_eq
  simp only [Record.known, List.length_append, List.length_map] at counted total dropped
  have none : c.opening.dropped.length = 0 := rfl
  refine ⟨?_, ?_, ?_⟩
  · show _ = c.opening.served + _
    omega
  · show _ = c.opening.released + _
    omega
  · have costs : (c.seen schedule).booked.map Booking.total =
        ((c.seen schedule).booked.map Booking.birth).map c.cost := by
      rw [List.map_map]
      refine List.map_congr_left fun entry mem => ?_
      refine cost_eq begins.starts (?_ : entry.share ∈ _)
      exact known.subset (List.mem_map_of_mem (List.mem_append_left _ mem))
    rw [Allocator.usedBytes, Usage.bytes, agrees.used, UInt64.toNat_ofNat', Booking.sum, costs, (left.map _).sum_nat]
    rfl

/-- **The books and the counters under every schedule.** At every moment they show what `Shows` says. What they show
when all is done and nothing was refused is told by the tasks, so it is the same for every schedule. -/
theorem run_shows (begins : c.Begins) :
    (∀ schedule last, c.run schedule = .ok last → last.Shows (c.seen schedule)) ∧
      ∀ schedule last, c.run schedule = .ok last → last.Done → (c.seen schedule).refused = 0 → c.Leaves last :=
  ⟨fun _ _ run => (begins.agrees.watch run).shows, fun _ _ run done served => begins.leaves run done served⟩

/-- Two workers. The first gets two blocks and hands the first one over. The second gets one, and releases the one
that it is handed. -/
def pairAtWork : Crew Scripted :=
  .ofTasks Session.onPair.allocator 2 fun
    | 0 => [.allocate false 2, .handOver (.asked 0 0) 1, .allocate false 8]
    | _ => [.allocate true 3, .free (.asked 0 0)]

/-- The second worker has to wait for the block, first with nothing else to do and then in between the steps of the
first one. -/
theorem pairAtWork_same_use :
    pairAtWork.Begins ∧ ∃ last later,
      pairAtWork.run [1, 1, 1, 1, 1, 0, 0, 0, 0, 0, 1, 1, 1, 0, 0, 0, 0] = .ok last ∧
      pairAtWork.run [0, 1, 0, 1, 0, 1, 0, 1, 1, 0, 1, 0, 1, 0, 1, 0, 0] = .ok later ∧
      last.Done ∧ later.Done ∧ last.allocator.arena.outstanding < wordLimit ∧
      last.allocator.usedBytes = 43 ∧ last.allocator.usedBytes = later.allocator.usedBytes := by
  have starts : ∀ w ∈ pairAtWork.workers, w.Starts := fun w mem => by
    rcases List.mem_pair.1 mem with rfl | rfl <;> exact ⟨rfl, rfl, fun _ none => nomatch none⟩
  have begins : pairAtWork.Begins := .after (.new _ _) [] pairAtWork.workers starts (.refl _)
  obtain ⟨-, leaves⟩ := run_shows begins
  obtain ⟨last, ran, done, bound⟩ : ∃ last,
      pairAtWork.run [1, 1, 1, 1, 1, 0, 0, 0, 0, 0, 1, 1, 1, 0, 0, 0, 0] = .ok last ∧ last.Done ∧
        last.allocator.arena.outstanding < wordLimit := ⟨_, rfl, by decide, by decide⟩
  obtain ⟨later, reran, finished⟩ : ∃ later,
      pairAtWork.run [0, 1, 0, 1, 0, 1, 0, 1, 1, 0, 1, 0, 1, 0, 1, 0, 0] = .ok later ∧ later.Done :=
    ⟨_, rfl, by decide⟩
  have used := (leaves _ _ ran done rfl).used
  have again := (leaves _ _ reran finished rfl).used
  exact ⟨begins, last, later, ran, reran, done, finished, bound, used.trans rfl, used.trans again.symm⟩

end Crew

end NodeHeap
