import NodeHeap.Proofs.Steps

/-!
# Sessions and heaps

A session does to its blocks what its caller sees, whatever the source of memory answers and however
blocks are moved between regions.

* `Session.Stores` — a session whose blocks can be read as a table of cells, with the books to match. This is
  the invariant: it holds for a session as it is made and is kept by every step.
* `Stores.performs` — what a step does to the session it does to the cells.
* `Session.Told`, `Told.run` — what is known of the blocks is true, and stays so through a run.
* `Performs.frame` — a step leaves the blocks alone that it does not name.
* `run_contents_eq` — after every run, each live block has the size, the node and the bytes that the
  steps and the answers say; no step changes a block that it does not name; and a block that gets another size
  keeps what fits.
* `run_used_eq_total` — after every step, the books show the bytes of the live blocks.
-/

namespace NodeHeap

variable {σ : Type}

namespace Session

/-- The session's blocks can be read as these cells, and its books show the bytes of them. -/
structure Stores (s : Session σ) (cells : Cells) : Prop extends Sound s where
  contents : s.contents = cells.mapValues .ok
  used : s.allocator.usage.used = UInt64.ofNat cells.total

variable {s : Session σ} {heap : Heap} {cells : Cells} {b : Allocator σ} {name : BlockName} {block new : BlockId}
  {head : Header} {payload : Bytes} {value : Value}

/-- A block whose region is not touched is the same block. -/
theorem hasBlock_congr {a : Allocator σ}
    (h : b.arena.regions[block]? = a.arena.regions[block]?) (has : a.arena.HasBlock block head payload) :
    b.arena.HasBlock block head payload := by
  obtain ⟨r, hr, hb⟩ := has
  exact ⟨r, h.trans hr, hb⟩

/-- The cell of a block that a name stands for. -/
theorem Stores.find (h : s.Stores cells) (found : s.blocks.find? name = some block)
    (has : s.allocator.arena.HasBlock block head payload) :
    cells.find? name = some ⟨head.size, head.node?, payload⟩ := by
  have read : s.contents.find? name = some (.ok ⟨head.size, head.node?, payload⟩) := by
    rw [Session.contents, Table.find?_mapValues, found, Option.map_some, Allocator.cell_eq has]
  rw [h.contents, Table.find?_mapValues] at read
  cases found : cells.find? name with
  | none =>
    rw [found] at read
    cases read
  | some cell =>
    rw [found] at read
    cases read
    rfl

/-! ## What the steps do to the invariant -/

theorem Stores.spared (h : s.Stores cells) (kept : s.allocator.Spared b) :
    Stores ⟨b, s.blocks⟩ cells := by
  have same : ∀ block : BlockId, b.arena.regions[block]? = s.allocator.arena.regions[block]? := by
    intro block
    rw [kept.regions]
  refine ⟨⟨fun entry mem => ?_, fun entry mem => ?_, h.apart⟩, ?_, kept.used.trans h.used⟩
  · obtain ⟨head, payload, has⟩ := h.live entry mem
    exact ⟨head, payload, hasBlock_congr (same _) has⟩
  · show entry.2 < b.arena.next
    rw [kept.next]
    exact h.named entry mem
  · rw [← h.contents]
    exact Table.mapValues_congr fun entry _ => Allocator.cell_congr (same _)

/-- A block that is entered becomes a cell. -/
theorem Stores.insert {size : Nat} {slot : NodeSlot} {r : Region} (h : s.Stores cells)
    (regions : b.arena.regions = s.allocator.arena.regions.insert new r)
    (hb : r.IsBlock ⟨size, slot⟩ payload) (fresh : ∀ entry ∈ s.blocks, entry.2 ≠ new)
    (named : new < b.arena.next) (next : s.allocator.arena.next ≤ b.arena.next)
    (used : b.usage.used = s.allocator.usage.used + UInt64.ofNat (size + headerWidth)) :
    Stores ⟨b, s.blocks.insert name new⟩ (cells.insert name ⟨size, slot.node?, payload⟩) := by
  have has : b.arena.HasBlock new ⟨size, slot⟩ payload := ⟨r, by rw [regions, Std.ExtTreeMap.getElem?_insert_self], hb⟩
  have same : ∀ entry ∈ s.blocks,
      b.arena.regions[entry.2]? = s.allocator.arena.regions[entry.2]? := by
    intro entry mem
    rw [regions, Regions.getElem?_insert_of_ne _ _ _ (fresh entry mem)]
  refine ⟨⟨?_, ?_, ?_⟩, ?_, ?_⟩
  · intro entry mem
    rcases List.mem_cons.1 mem with rfl | mem
    · exact ⟨_, _, has⟩
    · obtain ⟨head, payload, has⟩ := h.live entry mem
      exact ⟨head, payload, hasBlock_congr (same entry mem) has⟩
  · intro entry mem
    rcases List.mem_cons.1 mem with rfl | mem
    · exact named
    · exact Nat.lt_of_lt_of_le (h.named entry mem) next
  · refine List.nodup_cons.2 ⟨?_, h.apart⟩
    intro mem
    obtain ⟨entry, mem, same⟩ := List.mem_map.1 mem
    exact fresh entry mem same
  · rw [Session.contents, Table.mapValues_insert, Table.mapValues_insert, Allocator.cell_eq has,
      ← h.contents]
    exact congrArg _ (Table.mapValues_congr fun entry mem => Allocator.cell_congr (same entry mem))
  · rw [used, h.used, Cells.total_insert, UInt64.ofNat_add _ cells.total, UInt64.add_comm]

/-- A block that is dropped is a cell less. -/
theorem Stores.erase (h : s.Stores cells) (found : s.blocks.find? name = some block)
    (has : s.allocator.arena.HasBlock block head payload)
    (regions : b.arena.regions = s.allocator.arena.regions.erase block)
    (next : b.arena.next = s.allocator.arena.next)
    (used : b.usage.used = s.allocator.usage.used - UInt64.ofNat head.total) :
    Stores ⟨b, s.blocks.erase name⟩ (cells.erase name) := by
  have same : ∀ entry ∈ s.blocks.erase name,
      b.arena.regions[entry.2]? = s.allocator.arena.regions[entry.2]? := by
    intro entry mem
    rw [regions, Regions.getElem?_erase_of_ne _ _ (h.ne_of_mem_erase found mem)]
  refine ⟨⟨?_, ?_, ?_⟩, ?_, ?_⟩
  · intro entry mem
    obtain ⟨head, payload, has⟩ := h.live entry (Table.mem_of_mem_erase mem)
    exact ⟨head, payload, hasBlock_congr (same entry mem) has⟩
  · intro entry mem
    rw [next]
    exact h.named entry (Table.mem_of_mem_erase mem)
  · have apart := ((Table.perm_of_find? found).map Prod.snd).nodup_iff.1 h.apart
    exact (List.nodup_cons.1 apart).2
  · rw [Table.mapValues_erase, ← h.contents, Session.contents, Session.contents,
      ← Table.mapValues_erase]
    exact Table.mapValues_congr fun entry mem => Allocator.cell_congr (same entry mem)
  · -- The books went down by what the header says, which is what the cell is worth.
    have total := Cells.total_of_find? (h.find found has)
    rw [used, h.used, total, UInt64.ofNat_add, Header.total]
    grind

/-- A block that is written to is a changed cell. -/
theorem Stores.write {r : Region} {changed : Bytes} (h : s.Stores cells)
    (found : s.blocks.find? name = some block)
    (has : s.allocator.arena.HasBlock block head payload)
    (regions : b.arena.regions = s.allocator.arena.regions.insert block r)
    (hb : r.IsBlock head changed) (next : b.arena.next = s.allocator.arena.next)
    (used : b.usage.used = s.allocator.usage.used) {change : Bytes → Bytes}
    (bytes : changed = change payload) :
    Stores ⟨b, s.blocks⟩ (cells.modify name (Cell.rewrite change)) := by
  have there : b.arena.HasBlock block head changed := ⟨r, by rw [regions, Std.ExtTreeMap.getElem?_insert_self], hb⟩
  have same : ∀ other : BlockId, other ≠ block →
      b.arena.regions[other]? = s.allocator.arena.regions[other]? := by
    intro other ne
    rw [regions, Regions.getElem?_insert_of_ne _ _ _ ne]
  refine ⟨⟨?_, ?_, h.apart⟩, ?_, ?_⟩
  · intro entry mem
    by_cases at_block : entry.2 = block
    · exact ⟨head, changed, by rw [at_block]; exact there⟩
    · obtain ⟨head, payload, has⟩ := h.live entry mem
      exact ⟨head, payload, hasBlock_congr (same _ at_block) has⟩
  · intro entry mem
    rw [next]
    exact h.named entry mem
  · have read : Table.mapValues Except.ok (cells.modify name (Cell.rewrite change)) =
        s.contents.modify name (Except.map (Cell.rewrite change)) := by
      rw [h.contents]
      exact Table.mapValues_modify Except.ok (Cell.rewrite change) _ (fun _ => rfl) name cells
    rw [read]
    -- No other name stands for the block, so the one cell that changes is the one that is found.
    refine Table.mapValues_modify_found found h.apart ?_ fun other ne => Allocator.cell_congr (same other ne)
    rw [Allocator.cell_eq there, Allocator.cell_eq has, bytes]
    rfl
  · rw [used, h.used, Cells.total_rewrite]

/-! ## Steps and runs -/

theorem value_eq (described : describe b block = .ok value) {r : Region}
    (hr : b.arena.regions[block]? = some r) (hb : r.IsBlock head payload) :
    value = .block head.size head.node? := by
  rw [describe_eq ⟨r, hr, hb⟩] at described
  cases described
  rfl

variable [Source σ]

/-- A granted request is a new cell. -/
theorem Stores.placed {size : Nat} {nodes : List NodeId} {a : Allocator σ} {calls : List Call}
    {arena : Arena σ} {r : Region} {slot : NodeSlot} (h : s.Stores cells) (kept : s.allocator.Idle a)
    (granted : a.Allocates size nodes (.ok new) b calls)
    (entered : arena = { b.arena with regions := a.arena.regions.insert new r })
    (hb : r.IsBlock ⟨size, slot⟩ payload) :
    Stores ⟨{ b with arena }, s.blocks.insert name new⟩
      (cells.insert name ⟨size, slot.node?, payload⟩) := by
  cases granted with
  | granted events bounded asks heard =>
    subst entered
    refine h.insert (r := r) ?_ hb ?_ ?_ ?_ ?_
    · show a.arena.regions.insert _ r = _
      rw [kept.regions]
    · intro entry mem
      rw [kept.next]
      exact Nat.ne_of_lt (h.named entry mem)
    · exact Nat.lt_succ_self _
    · show _ ≤ a.arena.next + 1
      rw [kept.next]
      exact Nat.le_succ _
    · show a.usage.used + _ = _
      rw [kept.used]

omit [Source σ] in
/-- A granted request for another size replaces a cell. -/
theorem Stores.replaced {source : BlockName} {size : Nat} {origin : Option NodeId}
    {nodes : List NodeId} {calls : List Call} {a : Allocator σ} (h : s.Stores cells) (kept : s.allocator.Idle a)
    (found : s.blocks.find? source = some block)
    (has : s.allocator.arena.HasBlock block head payload)
    (replaces : a.Replaces block head payload size nodes origin new b calls) :
    ∃ fitting, Bytes.Fitted size payload fitting ∧
      Stores ⟨b, (s.blocks.erase source).insert name new⟩
        ((cells.erase source).insert name ⟨size, (NodeSlot.ofOption origin).stored.node?, fitting⟩) := by
  obtain ⟨r, fitting, regions, hb, fitted⟩ := replaces.region
  have block_lt := h.named _ (Table.mem_of_find? found)
  -- In between, the old block is gone and the new one is not there yet.
  have dropped : Stores
      ⟨{ s.allocator with
          arena := { s.allocator.arena with regions := s.allocator.arena.regions.erase block }
          usage := s.allocator.usage.sub head.total },
        s.blocks.erase source⟩ (cells.erase source) :=
    h.erase found has rfl rfl rfl
  refine ⟨fitting, fitted, dropped.insert (r := r) ?_ hb ?_ ?_ ?_ ?_⟩
  · rw [regions, kept.regions]
  · exact fun entry mem => h.ne_new kept found replaces mem
  · rcases replaces.name with ⟨rfl, next, -⟩ | ⟨rfl, next, -⟩
    · rw [next, kept.next]
      exact block_lt
    · rw [next]
      exact Nat.lt_succ_self _
  · show s.allocator.arena.next ≤ _
    rw [← kept.next]
    rcases replaces.name with ⟨-, next, -⟩ | ⟨-, next, -⟩
    · exact Nat.le_of_eq next.symm
    · rw [next]
      exact Nat.le_succ _
  · rw [replaces.used]
    simp only [Usage.add, Usage.sub, kept.used]
    -- Words wrap, so it does not matter which of the two sizes is put on or taken off first.
    grind

/-- **What a step does to a session it does to the cells.** -/
theorem Stores.performs {step : Step σ} {after : Session σ} (h : s.Stores cells)
    (performs : Performs s step value after) : ∃ later, cells.Becomes step value later ∧ after.Stores later := by
  induction performs with
  | still quiet controls => exact ⟨cells, .same quiet, h.spared controls.idle.toSpared⟩
  | refused targets refused =>
    have kept := Allocator.idle_targets targets
    exact ⟨cells, .same fun _ => rfl, h.spared (kept.toSpared.trans refused.spared)⟩
  | placed targets granted described =>
    obtain ⟨origin, found, -, bounded, -, regions⟩ := granted.region
    have hb := Region.isBlock_newBlock bounded origin found
    rw [value_eq described (by rw [regions, Std.ExtTreeMap.getElem?_insert_self]) hb]
    exact ⟨_, .placed hb.length_payload,
      h.placed (Allocator.idle_targets targets) granted (by rw [← regions]) hb⟩
  | @copied name bytes nodes a b new calls arena value targets granted written described =>
    obtain ⟨origin, r, -, -, rfl, hb⟩ := granted.written written
    rw [value_eq described (by simp) hb]
    exact ⟨_, .copied, h.placed (Allocator.idle_targets targets) granted rfl hb⟩
  | afresh _ ih =>
    obtain ⟨later, becomes, stores⟩ := ih
    exact ⟨later, .afresh becomes, stores⟩
  | kept found hr hb targets refused =>
    have kept := Allocator.idle_targets targets
    exact ⟨cells, .same fun _ => rfl, h.spared (kept.toSpared.trans refused.spared)⟩
  | @replaced fatal source name size hint nodes a b block new head payload r calls value
      found hr hb targets granted described =>
    have kept := Allocator.idle_targets targets
    obtain ⟨origin, -, replaces⟩ := granted.replaces hb (h.ne_next kept found)
    obtain ⟨t, fitting, regions, ht, -⟩ := replaces.region
    rw [value_eq described (by rw [regions, Std.ExtTreeMap.getElem?_insert_self]) ht]
    obtain ⟨fitting, fitted, stores⟩ := h.replaced kept found ⟨r, hr, hb⟩ replaces
    exact ⟨_, .replaced (h.find found ⟨r, hr, hb⟩) fitted, stores⟩
  | freed found has =>
    exact ⟨_, .freed, h.erase found has (Arena.regions_released _ _ _) (Arena.next_released _ _ _) rfl⟩
  | written found hr hb inside =>
    refine ⟨_, .written (h.find found ⟨_, hr, hb⟩) (hb.length_payload.symm ▸ inside), ?_⟩
    refine h.write found ⟨_, hr, hb⟩ ?_ (hb.overwrite inside) ?_ ?_ ?_
    · rfl
    · rfl
    · rfl
    · rfl

/-- A step does to the cells what it can do to them, or nothing. -/
theorem Stores.step (h : s.Stores cells) (step : Step σ) :
    ∃ later, cells.Becomes step (s.step step).1.value later ∧ (s.step step).2.Stores later := by
  rcases step_cases h.toSound step with ⟨⟨halt, halted⟩, unchanged⟩ | performs
  · rw [halted, unchanged]
    exact ⟨cells, .same fun heap => heap.next_halted step halt, h⟩
  · exact h.performs performs

/-- What is known of the session's blocks is true of them. -/
def Told (s : Session σ) (heap : Heap) : Prop := ∃ cells, s.Stores cells ∧ cells.ToldBy heap

theorem Told.performs {step : Step σ} {after : Session σ} (h : s.Told heap)
    (performs : Performs s step value after) : after.Told (heap.next step value) := by
  obtain ⟨cells, stores, told⟩ := h
  obtain ⟨later, becomes, stores⟩ := stores.performs performs
  exact ⟨later, stores, becomes.toldBy told⟩

theorem Told.step (h : s.Told heap) (step : Step σ) :
    (s.step step).2.Told (heap.next step (s.step step).1.value) := by
  obtain ⟨cells, stores, told⟩ := h
  obtain ⟨later, becomes, stores⟩ := stores.step step
  exact ⟨later, stores, becomes.toldBy told⟩

/-- **What is known of the blocks stays true through a run.** -/
theorem Told.run (steps : List (Step σ)) (h : s.Told heap) :
    (s.run steps).2.Told (heap.after steps (s.run steps).1) := by
  induction steps generalizing s heap with
  | nil => exact h
  | cons step rest ih => exact ih (h.step step)

omit [Source σ] in
theorem Initial.stores (made : Initial s) : s.Stores [] := by
  have fresh : ∀ (a : Allocator σ), a.usage.used = 0 → Stores { allocator := a } [] :=
    fun _ unused => ⟨⟨fun _ mem => (List.not_mem_nil mem).elim,
      fun _ mem => (List.not_mem_nil mem).elim, List.nodup_nil⟩, rfl, unused⟩
  cases made with
  | new topology source => exact fresh _ rfl
  | ofConfig made =>
    obtain ⟨policy, localDefault, usage, unused, node, controls⟩ := Allocator.ofConfig_cases made
    exact (fresh _ unused).spared controls.idle.toSpared

/-- The session's blocks can be read, and its books show the bytes of them. -/
def Stored (s : Session σ) : Prop := ∃ cells, s.Stores cells

omit [Source σ] in
theorem Stored.toSound (h : s.Stored) : s.Sound := h.elim fun _ stores => stores.toSound

theorem Stored.step (h : s.Stored) (step : Step σ) : (s.step step).2.Stored := by
  obtain ⟨cells, stores⟩ := h
  obtain ⟨later, -, stores⟩ := stores.step step
  exact ⟨later, stores⟩

theorem Stored.run (steps : List (Step σ)) (h : s.Stored) : (s.run steps).2.Stored := by
  induction steps generalizing s with
  | nil => exact h
  | cons step rest ih => exact ih (h.step step)

omit [Source σ] in
theorem Initial.stored (made : Initial s) : s.Stored := ⟨[], made.stores⟩

omit [Source σ] in
theorem Initial.told (made : Initial s) : s.Told [] := ⟨[], made.stores, .nil⟩

/-! ## What holds of every run -/

/-- A block that a step does not name keeps its region. -/
theorem Performs.frame {step : Step σ} {after : Session σ} (sound : s.Sound)
    (performs : Performs s step value after) {entry : BlockName × BlockId} (mem : entry ∈ s.blocks)
    (other : (step.target.bind fun name => s.blocks.find? name) ≠ some entry.2) :
    entry ∈ after.blocks ∧
      after.allocator.arena.regions[entry.2]? = s.allocator.arena.regions[entry.2]? := by
  have old : entry.2 ≠ s.allocator.arena.next := Nat.ne_of_lt (sound.named entry mem)
  induction performs with
  | still quiet controls => exact ⟨mem, by rw [controls.idle.regions]⟩
  | refused targets refused =>
    exact ⟨mem, by rw [refused.spared.regions, (Allocator.idle_targets targets).regions]⟩
  | placed targets granted described =>
    obtain ⟨origin, found, -, -, rfl, regions⟩ := granted.region
    have kept := Allocator.idle_targets targets
    rw [← kept.next] at old
    refine ⟨List.mem_cons_of_mem _ mem, ?_⟩
    rw [regions, Regions.getElem?_insert_of_ne _ _ _ old, kept.regions]
  | @copied name bytes nodes a b new calls arena value targets granted written described =>
    obtain ⟨origin, r, -, rfl, rfl, -⟩ := granted.written written
    have kept := Allocator.idle_targets targets
    rw [← kept.next] at old
    refine ⟨List.mem_cons_of_mem _ mem, ?_⟩
    simp only [Regions.getElem?_insert_of_ne _ _ _ old, kept.regions]
  | afresh _ ih => exact ih (by simp [Step.target])
  | kept found hr hb targets refused =>
    exact ⟨mem, by rw [refused.spared.regions, (Allocator.idle_targets targets).regions]⟩
  | @replaced fatal source name size hint nodes a b block new head payload r calls value
      found hr hb targets granted described =>
    have kept := Allocator.idle_targets targets
    have apart : entry.2 ≠ block := by
      rintro rfl
      exact other found
    obtain ⟨origin, -, replaces⟩ := granted.replaces hb (sound.ne_next kept found)
    obtain ⟨t, fitting, regions, -⟩ := replaces.region
    have stays : entry ∈ s.blocks.erase source := mem_erase found mem apart
    refine ⟨List.mem_cons_of_mem _ stays, ?_⟩
    rw [regions, Regions.getElem?_insert_of_ne _ _ _ (sound.ne_new kept found replaces stays),
      Regions.getElem?_erase_of_ne _ _ apart, kept.regions]
  | freed found has =>
    have apart : entry.2 ≠ _ := fun same => other (same ▸ found)
    refine ⟨mem_erase found mem apart, ?_⟩
    simp only [Arena.regions_released, Regions.getElem?_erase_of_ne _ _ apart]
  | written found hr hb inside =>
    have apart : entry.2 ≠ _ := fun same => other (same ▸ found)
    refine ⟨mem, ?_⟩
    simp only [Regions.getElem?_insert_of_ne _ _ _ apart]

/-- The block of one name is that of another one now, with another size and as many of its bytes as fit. -/
def Refits (s : Session σ) (source name : BlockName) (size : Nat) (node : Option NodeId)
    (after : Session σ) : Prop :=
  ∃ block new old bytes, s.blocks.find? source = some block ∧
    after.blocks = (s.blocks.erase source).insert name new ∧ s.allocator.cell block = .ok old ∧
    after.allocator.cell new = .ok ⟨size, node, bytes⟩ ∧ Bytes.Fitted size old.bytes bytes

/-- A block that gets another size keeps what fits, whichever way it takes. -/
theorem Performs.refits {fatal : Bool} {source name : BlockName} {size told : Nat}
    {hint node : Option NodeId} {after : Session σ} (sound : s.Sound)
    (performs : Performs s (.reallocate fatal (some source) name size hint) (.block told node) after) :
    told = size ∧ s.Refits source name size node after := by
  cases performs with
  | still quiet controls => exact absurd quiet Heap.next_reallocate_ne
  | @replaced _ _ _ _ _ nodes a b block new head payload r calls _ found hr hb targets granted described =>
    have kept := Allocator.idle_targets targets
    obtain ⟨origin, -, replaces⟩ := granted.replaces hb (sound.ne_next kept found)
    obtain ⟨t, fitting, regions, ht, fitted⟩ := replaces.region
    have there : b.arena.regions[new]? = some t := by rw [regions, Std.ExtTreeMap.getElem?_insert_self]
    obtain ⟨rfl, rfl⟩ := Value.block.inj (value_eq described there ht)
    exact ⟨rfl, block, new, _, fitting, found, rfl, Allocator.cell_eq ⟨r, hr, hb⟩,
      Allocator.cell_eq ⟨t, there, ht⟩, fitted⟩

/-- **A session is a heap of byte strings to its caller.** After every run, each live block has the
size that was last asked for, its node, and the bytes that were last written; what nobody wrote is whatever the
source's memory held. No step changes a live block that it does not name. A block that is given another size
keeps as many of its bytes as fit, written or not. -/
theorem run_contents_eq (made : Initial s) (steps : List (Step σ)) :
    Heap.Describes (Heap.after [] steps (s.run steps).1) (s.run steps).2.contents ∧
      (∀ step, ∀ entry ∈ (s.run steps).2.blocks,
        (step.target.bind fun name => (s.run steps).2.blocks.find? name) ≠ some entry.2 →
        entry ∈ ((s.run steps).2.step step).2.blocks ∧
          ((s.run steps).2.step step).2.allocator.cell entry.2 =
            (s.run steps).2.allocator.cell entry.2) ∧
      ∀ fatal source name size hint told node,
        ((s.run steps).2.step (.reallocate fatal (some source) name size hint)).1.value = .block told node →
        told = size ∧ (s.run steps).2.Refits source name size node
          ((s.run steps).2.step (.reallocate fatal (some source) name size hint)).2 := by
  obtain ⟨cells, stores, told⟩ := made.told.run steps
  refine ⟨?_, fun step entry mem other => ?_, fun fatal source name size hint told node answered => ?_⟩
  · rw [stores.contents]
    exact told.describes
  · rcases step_cases stores.toSound step with ⟨-, unchanged⟩ | performs
    · rw [unchanged]
      exact ⟨mem, rfl⟩
    · obtain ⟨there, region⟩ := performs.frame stores.toSound mem other
      exact ⟨there, Allocator.cell_congr region⟩
  · rcases step_cases stores.toSound (.reallocate fatal (some source) name size hint) with
      ⟨⟨halt, halted⟩, -⟩ | performs
    · rw [halted] at answered
      cases answered
    · rw [answered] at performs
      exact performs.refits stores.toSound

/-- A session on two nodes, with a source whose memory is full of what was there before. -/
def onLittered : Session Scripted := { allocator := .new pair { litter := 170 } }

/-- A block is placed anywhere, written to, and moved to a node. -/
def moving : List (Step Scripted) :=
  [.allocate false 7 2 none, .write 7 0 [1, 2], .reallocate false (some 7) 8 3 (some 1)]

/-- Of the moved block two bytes are known. Nobody wrote the third one. -/
theorem contents_of_moved_block :
    Initial onLittered ∧
      ∃ byte, (onLittered.run moving).2.contents = [(8, .ok ⟨3, some 1, [1, 2, byte]⟩)] := by
  have made : Initial onLittered := .new _ _
  have described := (run_contents_eq made moving).1
  have known : Heap.after [] moving (onLittered.run moving).1 =
      [(8, ⟨3, some 1, [some 1, some 2, none]⟩)] := rfl
  rw [known] at described
  refine ⟨made, ?_⟩
  generalize (onLittered.run moving).2.contents = contents at described
  cases described with
  | cons here rest =>
    cases rest
    obtain ⟨⟨size, node, bytes⟩, rfl, size_eq, node_eq, length_eq, byte⟩ := here
    obtain rfl : size = 3 := size_eq
    obtain rfl : node = some 1 := node_eq
    obtain ⟨x, y, z, rfl⟩ : ∃ x y z, bytes = [x, y, z] := by
      match bytes, length_eq with
      | [x, y, z], _ => exact ⟨x, y, z, rfl⟩
    obtain rfl := Option.some.inj (byte 0 1 rfl)
    obtain rfl := Option.some.inj (byte 1 2 rfl)
    exact ⟨z, rfl⟩

theorem used_of_step (s : Session σ) (step : Step σ) :
    (s.step step).1.used = (s.step step).2.allocator.usedBytes := by
  rw [step_eq]
  split
  · rfl
  · rfl

omit [Source σ] in
theorem Told.usedBytes_eq (h : s.Told heap) : s.allocator.usedBytes = heap.total % wordLimit := by
  obtain ⟨cells, stores, told⟩ := h
  rw [Allocator.usedBytes, Usage.bytes, stores.used, UInt64.toNat_ofNat', told.total_eq]
  rfl

/-- Each answer of a run shows the bytes of the heap after its step. -/
theorem Told.used_of_run (steps : List (Step σ)) (h : s.Told heap) :
    (s.run steps).1.map Answer.used =
      (heap.trace steps (s.run steps).1).map fun heap => heap.total % wordLimit := by
  induction steps generalizing s heap with
  | nil => rfl
  | cons step rest ih =>
    have first := used_of_step s step
    rw [(h.step step).usedBytes_eq] at first
    simp only [Session.run, Heap.trace, List.map_cons, first]
    exact congrArg _ (ih (h.step step))

/-- **The books show the bytes of the live blocks**, headers included, after every step of every run,
whether it was answered, refused or halted. -/
theorem run_used_eq_total (made : Initial s) (steps : List (Step σ)) :
    (s.run steps).1.map Answer.used =
        (Heap.trace [] steps (s.run steps).1).map (fun heap => heap.total % wordLimit) ∧
      (s.run steps).2.allocator.usedBytes =
        Heap.total (Heap.after [] steps (s.run steps).1) % wordLimit :=
  ⟨made.told.used_of_run steps, (made.told.run steps).usedBytes_eq⟩

/-- The books of two blocks of which one was moved and a third one was refused. -/
theorem used_of_three_requests :
    Initial onPair ∧
      (onPair.run [.allocate false 7 2 none, .allocateCopy 1 [5], .allocate false 2 maxTotal none,
        .reallocate false (some 7) 8 3 (some 1)]).1.map Answer.used = [18, 35, 35, 36] := by
  have made : Initial onPair := .new _ _
  refine ⟨made, ?_⟩
  rw [(run_used_eq_total made _).1]
  decide

end Session

end NodeHeap
