import Mathlib.Algebra.GroupWithZero.Nat
import Mathlib.Data.List.Perm.Basic
import NodeHeap.Proofs.CrewSteps

/-!
# The accounts of a crew

Who watches the steps of a crew can keep a record of it: which blocks were put on the books and not taken off
again, and how many requests were served or refused and how many blocks given back. The allocator's books and
counters say the same at every moment, whatever the schedule.

* `Worker.deed?`, `Record.next` — what there is to see of a step, and the record of it.
* `Accounts` — the books agree with the record; what is counted or taken off the books half-way is told by the
  stages of the workers.
* `Accounts.quiet`, `Accounts.gets`, …, `Accounts.returns` — each kind of step keeps that.
* `Crew.Agrees.step`, `Crew.Agrees.watch` — so does each step of a crew, and each schedule.
-/

namespace NodeHeap

variable {σ : Type}

/-! ## Records -/

/-- A block on the books. -/
structure Booking where
  block : BlockId
  birth : Birth
  /-- What was added to the books for it. -/
  total : Nat
  deriving DecidableEq, Repr

def Booking.named (entry : Booking) : Birth × BlockId := (entry.birth, entry.block)

def Booking.sum (entries : List Booking) : Nat := (entries.map Booking.total).sum

/-- What there is to see of a step. -/
inductive Deed where
  /-- A new block was put on the books, and the request for it is served. -/
  | booked (entry : Booking)
  /-- A block was taken off the books. -/
  | dropped (block : BlockId)
  /-- The memory of a block was given back, and the block is released. -/
  | returned
  /-- A request was refused. -/
  | refused
  deriving DecidableEq, Repr

/-- What was seen. -/
structure Record where
  /-- The blocks that were put on the books and not taken off. -/
  booked : List Booking
  /-- The blocks that were taken off the books. -/
  dropped : List Booking := []
  /-- How many requests were served. -/
  served : Nat := 0
  /-- How many blocks were released. -/
  released : Nat := 0
  /-- How many requests were refused. -/
  refused : Nat := 0
  deriving DecidableEq, Repr

namespace Record

/-- The record when a deed is seen. -/
def next (r : Record) : Deed → Record
  | .booked entry => { r with booked := entry :: r.booked, served := r.served + 1 }
  | .dropped block =>
    { r with
      booked := r.booked.filter fun entry => entry.block != block
      dropped := (r.booked.filter fun entry => entry.block == block) ++ r.dropped }
  | .returned => { r with released := r.released + 1 }
  | .refused => { r with refused := r.refused + 1 }

def after (r : Record) (deed : Option Deed) : Record := deed.elim r r.next

end Record

/-- What there is to see of a step of a worker: the books change when a block is done, and when a release
begins. -/
def Worker.deed? (before after : Worker) : Option Deed :=
  match before.stage, after.stage with
  | .counted demand region _, .ready => some (.booked ⟨region, demand.birth, demand.total⟩)
  | .ready, .dropped block _ => some (.dropped block)
  | .uncounted .., .ready => some .returned
  | .asking .., .ready => some .refused
  | .ready, .ready => if before.tasks.head?.any Task.asks then some .refused else none
  | _, _ => none

namespace Crew

/-- What there is to see of a step of a crew. -/
def deed? (turn : Nat) (before after : Crew σ) : Option Deed :=
  match before.workers[turn]?, after.workers[turn]? with
  | some w, some v => w.deed? v
  | _, _ => none

/-- The record of a schedule, up to a step that halts. -/
def watch [Source σ] (c : Crew σ) (r : Record) : List Nat → Record
  | [] => r
  | turn :: rest =>
    match c.step turn with
    | .ok after => after.watch (r.after (c.deed? turn after)) rest
    | .error _ => r

end Crew

/-! ## Stages -/

/-- The request can be met: the block has room for the size and a header. -/
def Demand.Fits (d : Demand) : Prop := d.size + headerWidth ≤ maxTotal ∧ d.total = d.size + headerWidth

namespace Stage

/-- The region of a block that is not on the books: not yet, or no longer. -/
def region? : Stage → Option RegionId
  | granted _ region _ | counted _ region _ => some region
  | dropped block _ | uncounted block _ => some block
  | ready | asking .. | missed .. => none

/-- Whether a request is counted that is not served yet. -/
def isCounted : Stage → Bool
  | counted .. => true
  | _ => false

/-- Whether a release is counted that is not done yet. -/
def isUncounted : Stage → Bool
  | uncounted .. => true
  | _ => false

def isReleasing : Stage → Bool
  | dropped .. | uncounted .. => true
  | _ => false

/-- What is asked for can be met, and what was granted is there. -/
def Fits (arena : Arena σ) : Stage → Prop
  | asking demand _ | missed demand _ => demand.Fits
  | granted demand region _ | counted demand region _ =>
    demand.Fits ∧ ∃ r, arena.regions[region]? = some r ∧ r.size = demand.total
  | ready | dropped .. | uncounted .. => True

theorem Fits.congr {arena other : Arena σ} {s : Stage} (h : s.Fits arena)
    (same : ∀ region, s.region? = some region → other.regions[region]? = arena.regions[region]?) :
    s.Fits other := by
  cases s with
  | granted demand region | counted demand region =>
    obtain ⟨fits, r, there, size⟩ := h
    exact ⟨fits, r, (same region rfl).trans there, size⟩
  | asking | missed => exact h
  | ready | dropped | uncounted => trivial

theorem settled_of_region? {s : Stage} (none : s.region? = none) :
    s.isCounted = false ∧ s.isUncounted = false ∧ s.isReleasing = false := by
  cases s with
  | ready | asking | missed => exact ⟨rfl, rfl, rfl⟩
  | granted | counted | dropped | uncounted => cases none

end Stage

/-! ## Accounts -/

/-- The counters agree with the record, but for what is counted half-way. -/
structure Tallied (c : Counters) (stages : List Stage) (r : Record) : Prop where
  allocations : c.allocations = r.served + stages.countP Stage.isCounted
  frees : c.frees = r.released + stages.countP Stage.isUncounted
  balanced : r.served = r.booked.length + r.released + stages.countP Stage.isReleasing

/-- A step of one worker that changes the counters, the record and what is half-way alike. -/
theorem Tallied.step {c d : Counters} {stages : List Stage} {s t : Stage} {r q : Record}
    (h : Tallied c (s :: stages) r)
    (allocations : d.allocations + r.served + s.isCounted.toNat =
      c.allocations + q.served + t.isCounted.toNat)
    (frees : d.frees + r.released + s.isUncounted.toNat = c.frees + q.released + t.isUncounted.toNat)
    (balanced : q.served + r.booked.length + r.released + s.isReleasing.toNat =
      r.served + q.booked.length + q.released + t.isReleasing.toNat) : Tallied d (t :: stages) q := by
  have cons (p : Stage → Bool) (u : Stage) : (u :: stages).countP p = stages.countP p + (p u).toNat := by
    rw [List.countP_cons]
    cases p u <;> rfl
  obtain ⟨served, released, held⟩ := h
  rw [cons] at served released held
  refine ⟨?_, ?_, ?_⟩
  all_goals
    rw [cons]
    omega

/-- The books and the counters agree with the record. The workers own the blocks on the books, and each of
these is there with what was added for it; nobody else has the regions of the blocks that are half-way. -/
structure Accounts (a : Allocator σ) (rows : List (Birth × BlockId)) (stages : List Stage) (r : Record) : Prop where
  owned : (r.booked.map Booking.named).Perm rows
  live : ∀ entry ∈ r.booked, ∃ head payload,
    a.arena.HasBlock entry.block head payload ∧ head.total = entry.total
  fits : ∀ s ∈ stages, s.Fits a.arena
  apart : (rows.map Prod.snd ++ stages.filterMap Stage.region?).Nodup
  named : ∀ block ∈ rows.map Prod.snd ++ stages.filterMap Stage.region?, block < a.arena.next
  used : a.usage.used = UInt64.ofNat (Booking.sum r.booked)
  tallied : Tallied a.counters stages r

namespace Accounts

variable {a b : Allocator σ} {rows : List (Birth × BlockId)} {s t : Stage} {stages : List Stage} {r : Record}

theorem perm {more : List (Birth × BlockId)} {others : List Stage} (h : Accounts a rows stages r)
    (same : rows.Perm more) (as : stages.Perm others) : Accounts a more others r := by
  have regions := (same.map Prod.snd).append (as.filterMap Stage.region?)
  obtain ⟨allocations, frees, balanced⟩ := h.tallied
  rw [as.countP_eq] at allocations frees balanced
  exact ⟨h.owned.trans same, h.live, fun s mem => h.fits s (as.mem_iff.2 mem), regions.nodup_iff.1 h.apart,
    fun block mem => h.named block (regions.mem_iff.2 mem), h.used, allocations, frees, balanced⟩

theorem refuse (h : Accounts a rows stages r) : Accounts a rows stages (r.next .refused) :=
  ⟨h.owned, h.live, h.fits, h.apart, h.named, h.used, h.tallied.allocations, h.tallied.frees,
    h.tallied.balanced⟩

theorem blocks (h : Accounts a rows stages r) : (r.booked.map Booking.block).Perm (rows.map Prod.snd) := by
  have named := h.owned.map Prod.snd
  rw [List.map_map] at named
  exact named

theorem mem_rows (h : Accounts a rows stages r) {entry : Booking} (mem : entry ∈ r.booked) :
    entry.block ∈ rows.map Prod.snd :=
  h.blocks.mem_iff.1 (List.mem_map_of_mem mem)

theorem ne_region (h : Accounts a rows stages r) {entry : Booking} (mem : entry ∈ r.booked)
    (of : s ∈ stages) {region : RegionId} (has : s.region? = some region) : entry.block ≠ region := by
  intro same
  have there : region ∈ stages.filterMap Stage.region? := List.mem_filterMap.2 ⟨s, of, has⟩
  exact (List.nodup_append.1 h.apart).2.2 _ (h.mem_rows mem) _ there same

/-- No two workers have the same region half-way. -/
theorem ne_region_of_rest (h : Accounts a rows (s :: stages) r) (of : t ∈ stages)
    {region other : RegionId} (here : s.region? = some region) (there : t.region? = some other) :
    other ≠ region := by
  have apart := (List.nodup_append.1 h.apart).2.1
  rw [List.filterMap_cons_some here, List.nodup_cons] at apart
  intro same
  exact apart.1 (same ▸ List.mem_filterMap.2 ⟨t, of, there⟩)

theorem total_of_header (h : Accounts a rows stages r) {entry : Booking} (mem : entry ∈ r.booked)
    {head : Header} (headed : a.arena.header entry.block = .ok head) : entry.total = head.total := by
  obtain ⟨found, payload, has, total⟩ := h.live entry mem
  rw [← total, Except.ok.inj (headed.symm.trans has.header_eq)]

/-- Blocks on the books stay there when their regions are left alone. -/
theorem live_congr (h : Accounts a rows stages r)
    (same : ∀ entry ∈ r.booked, b.arena.regions[entry.block]? = a.arena.regions[entry.block]?) :
    ∀ entry ∈ r.booked, ∃ head payload, b.arena.HasBlock entry.block head payload ∧
      head.total = entry.total := by
  intro entry mem
  obtain ⟨head, payload, has, total⟩ := h.live entry mem
  exact ⟨head, payload, Session.hasBlock_congr (same entry mem) has, total⟩

/-- The other workers' blocks stay as far as they are when their regions are left alone. -/
theorem fits_congr (h : Accounts a rows (s :: stages) r) (fits : t.Fits b.arena)
    (same : ∀ u ∈ stages, ∀ region, u.region? = some region →
      b.arena.regions[region]? = a.arena.regions[region]?) :
    ∀ u ∈ t :: stages, u.Fits b.arena := by
  intro u mem
  rcases List.mem_cons.1 mem with rfl | mem
  · exact fits
  · exact (h.fits u (List.mem_cons_of_mem _ mem)).congr (same u mem)

/-! ### What each kind of step does -/

/-- A worker that goes on with the same region, or without one, and leaves the blocks and the books alone. -/
theorem goesOn (h : Accounts a rows (s :: stages) r) (spared : a.Spared b) (same : t.region? = s.region?)
    (fits : t.Fits b.arena) (tallied : Tallied b.counters (t :: stages) r) :
    Accounts b rows (t :: stages) r := by
  have still (region : RegionId) : b.arena.regions[region]? = a.arena.regions[region]? := by
    rw [spared.regions]
  have regions : (t :: stages).filterMap Stage.region? = (s :: stages).filterMap Stage.region? := by
    rw [List.filterMap_cons, List.filterMap_cons, same]
  refine ⟨h.owned, h.live_congr fun entry _ => still entry.block,
    h.fits_congr fits fun _ _ region _ => still region, ?_, ?_, spared.used.trans h.used, tallied⟩
  · rw [regions]
    exact h.apart
  · rw [regions, spared.next]
    exact h.named

/-- A worker that asks for a block, or is told that there is none. -/
theorem quiet (h : Accounts a rows (s :: stages) r) (spared : a.Spared b)
    (allocations : b.counters.allocations = a.counters.allocations)
    (frees : b.counters.frees = a.counters.frees) (before : s.region? = none) (after : t.region? = none)
    (fits : t.Fits b.arena) : Accounts b rows (t :: stages) r := by
  obtain ⟨counted, uncounted, releasing⟩ := Stage.settled_of_region? before
  obtain ⟨counts, uncounts, releases⟩ := Stage.settled_of_region? after
  refine h.goesOn spared (after.trans before.symm) fits (h.tallied.step ?_ ?_ ?_)
  · rw [counted, counts, allocations]
  · rw [uncounted, uncounts, frees]
  · rw [releasing, releases]

/-- A region that is granted is nobody else's. -/
theorem gets {demand : Demand} (h : Accounts a rows (s :: stages) r) (before : s.region? = none)
    (fits : demand.Fits) (origin : Option NodeId) (found : Nat → UInt8) (source : σ) (call : Call) :
    Accounts { a with arena := Arena.enter { a.arena with source } (.fresh origin demand.total found) call } rows
      (.granted demand a.arena.next origin :: stages) r := by
  obtain ⟨counted, uncounted, releasing⟩ := Stage.settled_of_region? before
  have named := h.named
  have apart := h.apart
  rw [List.filterMap_cons_none before] at named apart
  have fresh : a.arena.next ∉ rows.map Prod.snd ++ stages.filterMap Stage.region? :=
    fun mem => Nat.lt_irrefl _ (named _ mem)
  have still {region : RegionId} (mem : region ∈ rows.map Prod.snd ++ stages.filterMap Stage.region?) :
      (a.arena.regions.insert a.arena.next (.fresh origin demand.total found))[region]? =
        a.arena.regions[region]? :=
    Regions.getElem?_insert_of_ne _ _ _ (Nat.ne_of_lt (named region mem))
  have regions : (rows.map Prod.snd ++ a.arena.next :: stages.filterMap Stage.region?).Perm
      (a.arena.next :: (rows.map Prod.snd ++ stages.filterMap Stage.region?)) := List.perm_middle
  refine ⟨h.owned, ?_, ?_, ?_, ?_, h.used, ?_⟩
  · exact h.live_congr fun entry mem => still (List.mem_append_left _ (h.mem_rows mem))
  · refine h.fits_congr ⟨fits, .fresh origin demand.total found, ?_, rfl⟩ fun t of region has =>
      still (List.mem_append_right _ (List.mem_filterMap.2 ⟨t, of, has⟩))
    exact Std.ExtTreeMap.getElem?_insert_self
  · exact regions.nodup_iff.2 (List.nodup_cons.2 ⟨fresh, apart⟩)
  · intro block mem
    rcases List.mem_cons.1 (regions.mem_iff.1 mem) with rfl | mem
    · exact Nat.lt_succ_self _
    · exact Nat.lt_succ_of_lt (named block mem)
  · refine h.tallied.step ?_ ?_ ?_
    · rw [counted]
      rfl
    · rw [uncounted]
      rfl
    · rw [releasing]
      rfl

/-- A granted block is counted. -/
theorem counts {demand : Demand} {region : RegionId} {origin : Option NodeId} {counters : Counters}
    (h : Accounts a rows (.granted demand region origin :: stages) r)
    (more : counters.allocations = a.counters.allocations + 1) (same : counters.frees = a.counters.frees) :
    Accounts { a with counters } rows (.counted demand region (.ofOption origin) :: stages) r := by
  have fits : Stage.Fits a.arena (.granted demand region origin) := h.fits _ List.mem_cons_self
  refine h.goesOn ⟨rfl, rfl, rfl⟩ rfl fits (h.tallied.step ?_ ?_ rfl)
  · simp only [Stage.isCounted, Bool.toNat_true, Bool.toNat_false]
    omega
  · rw [same]
    rfl

/-- A block that a granted region becomes is on the books. -/
theorem books {demand : Demand} {region : RegionId} {origin : NodeSlot} {arena : Arena σ}
    (h : Accounts a rows (.counted demand region origin :: stages) r)
    (headed : a.arena.setHeader region { size := demand.size, origin } = .ok arena) (birth : Birth) :
    Accounts { a with arena, usage := a.usage.add demand.total } ((birth, region) :: rows) (.ready :: stages)
      (r.next (.booked ⟨region, birth, demand.total⟩)) := by
  obtain ⟨⟨bounded, total⟩, old, there, size⟩ : Stage.Fits a.arena (.counted demand region origin) :=
    h.fits _ List.mem_cons_self
  have written := Arena.setHeader_of_le there (by rw [size, total]; exact Nat.le_add_left _ _)
    { size := demand.size, origin }
  rw [written] at headed
  cases headed
  have still {other : RegionId} (ne : other ≠ region) := Regions.getElem?_insert_of_ne a.arena.regions
    region (old.overwrite 0 (Header.bytes { size := demand.size, origin })) ne
  have regions : (region :: rows.map Prod.snd ++ stages.filterMap Stage.region?).Perm
      (rows.map Prod.snd ++ region :: stages.filterMap Stage.region?) := List.perm_middle.symm
  refine ⟨h.owned.cons (birth, region), ?_, ?_, ?_, ?_, ?_, ?_⟩
  · intro entry mem
    rcases List.mem_cons.1 mem with rfl | mem
    · have block := Region.isBlock_overwrite_header old origin (size.trans total) bounded
      exact ⟨_, _, ⟨_, Std.ExtTreeMap.getElem?_insert_self, block⟩, total.symm⟩
    · exact h.live_congr (fun entry mem => still (h.ne_region mem List.mem_cons_self rfl)) entry mem
  · refine h.fits_congr trivial fun t of other has => still (h.ne_region_of_rest of rfl has)
  · exact regions.nodup_iff.2 h.apart
  · intro block mem
    exact h.named block (regions.mem_iff.1 mem)
  · show a.usage.used + UInt64.ofNat demand.total = UInt64.ofNat (demand.total + Booking.sum r.booked)
    rw [h.used, UInt64.ofNat_add, UInt64.add_comm]
  · refine h.tallied.step rfl rfl ?_
    show r.served + 1 + r.booked.length + r.released + 0 = r.served + (r.booked.length + 1) + r.released + 0
    omega

/-- A block on the books is there once, under its name. -/
theorem sole {birth : Birth} {block : BlockId} (h : Accounts a ((birth, block) :: rows) stages r) :
    ∃ entry, entry.named = (birth, block) ∧ (r.booked.filter fun entry => entry.block == block) = [entry] ∧
      ((r.booked.filter fun entry => entry.block != block).map Booking.named).Perm rows := by
  have apart : block ∉ rows.map Prod.snd := (List.nodup_cons.1 (List.nodup_append.1 h.apart).1).1
  have other (named : Birth × BlockId) (mem : named ∈ rows) : named.2 ≠ block := by
    rintro rfl
    exact apart (List.mem_map_of_mem mem)
  have none : rows.filter (fun named => named.2 == block) = [] :=
    List.filter_eq_nil_iff.2 fun named mem same => other named mem (eq_of_beq same)
  have all : rows.filter (fun named => named.2 != block) = rows :=
    List.filter_eq_self.2 fun named mem => bne_iff_ne.2 (other named mem)
  have taken := h.owned.filter fun named => named.2 == block
  have left := h.owned.filter fun named => named.2 != block
  rw [List.filter_map, List.filter_cons, if_pos (beq_self_eq_true block), none] at taken
  rw [List.filter_map, List.filter_cons, if_neg fun differs => bne_iff_ne.1 differs rfl, all] at left
  obtain ⟨entry, alone, named⟩ := List.map_eq_singleton_iff.1 (List.perm_singleton.1 taken)
  exact ⟨entry, named, alone, left⟩

/-- A block that is to be released is off the books. -/
theorem drops {birth : Birth} {block : BlockId} {head : Header}
    (h : Accounts a ((birth, block) :: rows) (.ready :: stages) r) (headed : a.arena.header block = .ok head) :
    Accounts { a with usage := a.usage.sub head.total } rows (.dropped block head :: stages)
      (r.next (.dropped block)) := by
  obtain ⟨entry, named, sole, others⟩ := h.sole
  have same : entry.block = block := congrArg Prod.snd named
  have split := List.filter_append_perm (fun entry : Booking => entry.block == block) r.booked
  rw [sole] at split
  have mem : entry ∈ r.booked := split.mem_iff.1 (List.mem_append_left _ (List.mem_singleton_self entry))
  have total : entry.total = head.total := h.total_of_header mem (same ▸ headed)
  have sum : Booking.sum r.booked =
      Booking.sum (r.booked.filter fun entry => entry.block != block) + head.total := by
    have added := (split.map Booking.total).sum_nat
    rw [List.map_append, List.sum_append] at added
    rw [← total, Nat.add_comm]
    exact added.symm
  have count : r.booked.length = (r.booked.filter fun entry => entry.block != block).length + 1 := by
    rw [Nat.add_comm]
    exact split.length_eq.symm.trans List.length_append
  have regions : (rows.map Prod.snd ++ block :: stages.filterMap Stage.region?).Perm
      (block :: rows.map Prod.snd ++ stages.filterMap Stage.region?) := List.perm_middle
  refine ⟨others, ?_, ?_, regions.nodup_iff.2 h.apart, ?_, ?_, ?_⟩
  · exact fun entry mem => h.live entry (List.mem_of_mem_filter mem)
  · exact h.fits_congr trivial fun _ _ _ _ => rfl
  · exact fun other mem => h.named other (regions.mem_iff.1 mem)
  · show a.usage.used - UInt64.ofNat head.total = _
    rw [h.used, sum, UInt64.ofNat_add, UInt64.add_sub_cancel]
    rfl
  · refine h.tallied.step rfl rfl ?_
    show r.served + r.booked.length + r.released + 0 =
      r.served + (r.booked.filter fun entry => entry.block != block).length + r.released + 1
    omega

/-- A release is counted. -/
theorem discounts {block : BlockId} {head : Header}
    (h : Accounts a rows (.dropped block head :: stages) r) :
    Accounts { a with counters := a.counters.release } rows (.uncounted block head :: stages) r :=
  h.goesOn ⟨rfl, rfl, rfl⟩ rfl trivial
    (h.tallied.step rfl (Nat.add_right_comm a.counters.frees 1 r.released) rfl)

/-- A region that is given back is nobody else's. -/
theorem returns [Source σ] {block : BlockId} {head : Header}
    (h : Accounts a rows (.uncounted block head :: stages) r) :
    Accounts { a with arena := a.arena.released block head } rows (.ready :: stages) (r.next .returned) := by
  have still {other : RegionId} (ne : other ≠ block) :
      (a.arena.released block head).regions[other]? = a.arena.regions[other]? := by
    rw [Arena.regions_released]
    exact Regions.getElem?_erase_of_ne _ _ ne
  have regions : (rows.map Prod.snd ++ stages.filterMap Stage.region?).Sublist
      (rows.map Prod.snd ++ block :: stages.filterMap Stage.region?) := (List.sublist_cons_self _ _).append_left _
  refine ⟨h.owned, ?_, ?_, h.apart.sublist regions, ?_, h.used, ?_⟩
  · exact h.live_congr fun entry mem => still (h.ne_region mem List.mem_cons_self rfl)
  · exact h.fits_congr trivial fun t of other has => still (h.ne_region_of_rest of rfl has)
  · intro other mem
    rw [Arena.next_released]
    exact h.named other (regions.subset mem)
  · refine h.tallied.step rfl ?_ ?_
    · show a.counters.frees + r.released + 1 = a.counters.frees + (r.released + 1) + 0
      omega
    · show r.served + r.booked.length + r.released + 1 = r.served + r.booked.length + (r.released + 1) + 0
      omega

/-- A step of a worker is seen as what it does to the books. -/
theorem advances [Source σ] {w v : Worker} {turn : Nat}
    (h : Accounts a (w.blocks.owned ++ rows) (w.stage :: stages) r) (advances : w.Advances turn a v b) :
    Accounts b (v.blocks.owned ++ rows) (v.stage :: stages) (r.after (w.deed? v)) := by
  have fits : w.stage.Fits a.arena := h.fits _ List.mem_cons_self
  -- A refusal in a row is no block.
  have refused (birth : Birth) : (w.blocks.push birth none).owned = w.blocks.owned := by
    rw [BlockRow.owned_push]
    exact List.append_nil _
  cases advances with
  | rests ready asks =>
    simp only [Worker.deed?, ready, asks]
    rw [ready] at h
    exact h
  | skips ready next taken =>
    simp only [Worker.deed?, ready, next, List.head?_cons, Option.any_some, Task.asks]
    rw [ready] at h
    exact h.perm ((BlockRow.perm_owned_of_take? taken).append_right rows) (.refl _)
  | excludes ready next targets large =>
    simp only [Worker.deed?, ready, next, refused]
    rw [ready] at h
    have idle := Allocator.idle_targets targets
    have kept : Accounts b (w.blocks.owned ++ rows) (.ready :: stages) r :=
      h.quiet idle.toSpared (congrArg _ idle.counters) (congrArg _ idle.counters) rfl rfl trivial
    exact kept.refuse
  | asks ready next targets total =>
    simp only [Worker.deed?, ready]
    rw [ready] at h
    have idle := Allocator.idle_targets targets
    exact h.quiet idle.toSpared (congrArg _ idle.counters) (congrArg _ idle.counters) rfl rfl
      (totalFor?_eq_some.1 total)
  | misses source call event asking =>
    simp only [Worker.deed?, asking]
    rw [asking] at h fits
    exact h.quiet ⟨rfl, rfl, rfl⟩ rfl rfl rfl rfl fits
  | retries missed =>
    simp only [Worker.deed?, missed]
    rw [missed] at h fits
    exact h.quiet ⟨rfl, rfl, rfl⟩ rfl rfl rfl rfl fits
  | forgoes source call asking bearable =>
    simp only [Worker.deed?, asking, refused]
    rw [asking] at h
    have kept : Accounts { a with arena := Arena.record { a.arena with source } call }
        (w.blocks.owned ++ rows) (.ready :: stages) r := h.quiet ⟨rfl, rfl, rfl⟩ rfl rfl rfl rfl trivial
    exact kept.refuse
  | gets origin found source call asking =>
    simp only [Worker.deed?, asking]
    rw [asking] at h fits
    exact h.gets rfl fits origin found source call
  | counts counters granted more same =>
    simp only [Worker.deed?, granted]
    rw [granted] at h
    exact h.counts more same
  | books counted headed =>
    simp only [Worker.deed?, counted]
    rw [counted] at h
    refine (h.books headed _).perm ?_ (.refl _)
    rw [BlockRow.owned_push, List.append_assoc]
    exact List.perm_middle.symm
  | drops ready next taken headed =>
    simp only [Worker.deed?, ready]
    rw [ready] at h
    exact (h.perm ((BlockRow.perm_owned_of_take? taken).append_right rows) (.refl _)).drops headed
  | discounts dropped =>
    simp only [Worker.deed?, dropped]
    rw [dropped] at h
    exact h.discounts
  | returns uncounted =>
    simp only [Worker.deed?, uncounted]
    rw [uncounted] at h
    exact h.returns

end Accounts

/-! ## Crews -/

namespace Crew

variable [Source σ] {c after : Crew σ} {r : Record} {turn : Nat}

/-- The books and the counters of a crew agree with a record. -/
def Agrees (c : Crew σ) (r : Record) : Prop :=
  Accounts c.allocator (owned c.workers) (c.workers.map Worker.stage) r

omit [Source σ] in
theorem deed?_set {w : Worker} (found : c.workers[turn]? = some w) (v : Worker) (b : Allocator σ) :
    c.deed? turn ⟨b, c.workers.set turn v⟩ = w.deed? v := by
  have inside := (List.getElem?_eq_some_iff.1 found).1
  simp only [deed?, found, List.getElem?_set_self inside]

omit [Source σ] in
/-- There is nothing to see when a block changes hands. -/
theorem deed?_handOver {w : Worker} {birth : Birth} {receiver : Nat} {tasks : List Task}
    (found : c.workers[turn]? = some w) (ready : w.stage = .ready)
    (next : w.tasks = .handOver birth receiver :: tasks) :
    c.deed? turn { c with workers := handOver c.workers turn w tasks birth receiver } = none := by
  have stage : (handOver c.workers turn w tasks birth receiver)[turn]?.map Worker.stage = some .ready := by
    rw [← List.getElem?_map, map_handOver Worker.stage found (fun _ _ => rfl) fun _ => rfl, List.getElem?_map,
      found]
    exact congrArg some ready
  obtain ⟨v, there, still⟩ := Option.map_eq_some_iff.1 stage
  simp only [deed?, found, there]
  simp only [Worker.deed?, ready, still, next, List.head?_cons, Option.any_some]
  rfl

omit [Source σ] in
theorem perm_stages_focus (front : List Worker) (w : Worker) (back : List Worker) :
    ((front ++ w :: back).map Worker.stage).Perm (w.stage :: (front ++ back).map Worker.stage) := by
  rw [List.map_append, List.map_append]
  exact List.perm_middle

omit [Source σ] in
/-- The books when one worker is set apart. -/
theorem agrees_focus {front back : List Worker} {w : Worker} (split : c.workers = front ++ w :: back) :
    c.Agrees r ↔ Accounts c.allocator (w.blocks.owned ++ owned (front ++ back))
      (w.stage :: (front ++ back).map Worker.stage) r := by
  have blocks := perm_flatMap_focus (fun w => w.blocks.owned) front w back
  have stages := perm_stages_focus front w back
  rw [Agrees, split]
  exact ⟨fun h => h.perm blocks stages, fun h => h.perm blocks.symm stages.symm⟩

theorem Agrees.step (h : c.Agrees r) (steps : c.Steps turn after) :
    after.Agrees (r.after (c.deed? turn after)) := by
  cases steps with
  | passes none =>
    simp only [deed?, none]
    exact h
  | gives found ready next =>
    rw [deed?_handOver found ready next]
    refine Accounts.perm h (perm_owned_handOver found _ _ _).symm (.of_eq ?_)
    exact (map_handOver Worker.stage found (fun _ _ => rfl) fun _ => rfl).symm
  | @works w v b found alone advances =>
    obtain ⟨front, back, -, split, set⟩ := focus found
    rw [deed?_set found]
    exact (agrees_focus (c := ⟨b, c.workers.set turn v⟩) (set v)).2
      (((agrees_focus split).1 h).advances advances)

/-- **The books and the counters agree with the record of every schedule.** -/
theorem Agrees.watch (h : c.Agrees r) {schedule : List Nat} {last : Crew σ}
    (done : c.run schedule = .ok last) : last.Agrees (c.watch r schedule) := by
  induction schedule generalizing c r with
  | nil =>
    cases done
    exact h
  | cons turn rest ih =>
    obtain ⟨after, stepped, done⟩ := bind_ok done
    simp only [Crew.watch, stepped]
    exact ih (h.step (step_cases stepped)) done

end Crew

end NodeHeap
