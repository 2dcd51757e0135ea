import NodeHeap.Proofs.Leases
import NodeHeap.Proofs.Refinement

/-!
# Settlement

What a source granted is given back once, by the call that fits the grant, and until then it is a live
block of the session.

* `Topology.Lawful` — what a topology promises: it lists no node above its largest id.
* `Allocator.Orderly` — no node that is ever tried is the word that stands for no node. This is why a
  header tells a block on a node from a block that was placed anywhere.
* `Session.Leased` — the calls settle, and the leases that are left are those of the live blocks.
* `run_settles` — that holds after every run.
-/

namespace NodeHeap

/-! ## Nodes that can be told from no node -/

/-- What a topology promises: no node it lists is above the largest id, and the caller's node is a
machine word. -/
structure Topology.Lawful (t : Topology) : Prop where
  listed : ∀ node ∈ t.nodes, ∃ max, t.maxNode = some max ∧ node ≤ max
  caller : ∀ node, t.callerNode = .ok (some node) → node < wordLimit

/-- The valid nodes of a snapshot are machine words other than the largest one, and only valid nodes
are ranked. -/
structure Snapshot.Bounded (snapshot : Snapshot) : Prop where
  addressable : snapshot.addressable < wordLimit
  ranked : ∀ node ∈ snapshot.ranking.order, node < snapshot.addressable

namespace Topology

variable {t : Topology} {snapshot : Snapshot}

theorem addressableNodes_lt {count : Nat} (h : t.addressableNodes = .ok count) : count < wordLimit := by
  unfold addressableNodes at h
  split at h
  · split at h
    · cases h
      assumption
    · cases h
  · cases h
    decide

theorem Lawful.ranked_lt (lawful : t.Lawful) {count : Nat} (h : t.addressableNodes = .ok count)
    (reference : NodeId) : ∀ node ∈ (Ranking.build t reference).order, node < count := by
  intro node mem
  cases available : t.isAvailable with
  | false =>
    rw [Ranking.build_of_not_available available] at mem
    cases mem
  | true =>
    obtain ⟨max, greatest, le⟩ := lawful.listed node ((Ranking.order_perm available).mem_iff.1 mem)
    rw [← isValidNode_iff_lt h]
    simp [isValidNode, available, greatest, le]

theorem Lawful.bounded (lawful : t.Lawful) (h : t.snapshot = .ok snapshot) : snapshot.Bounded := by
  obtain ⟨ranking, ranked, h⟩ := bind_ok h
  obtain ⟨caller, -, ranked⟩ := bind_ok ranked
  obtain ⟨addressable, counted, h⟩ := bind_ok h
  cases ranked
  cases h
  exact ⟨addressableNodes_lt counted, lawful.ranked_lt counted _⟩

theorem Lawful.reference_lt (lawful : t.Lawful) (h : t.snapshot = .ok snapshot) {node : NodeId}
    (reference : snapshot.ranking.reference = some node) : node < wordLimit := by
  obtain ⟨ranking, ranked, h⟩ := bind_ok h
  obtain ⟨caller, asked, ranked⟩ := bind_ok ranked
  obtain ⟨addressable, -, h⟩ := bind_ok h
  cases ranked
  cases h
  simp only [Ranking.build] at reference
  split at reference
  · cases reference
    cases caller with
    | none => decide
    | some node => exact lawful.caller node asked
  · cases reference

end Topology

theorem NodeSlot.word_vacant_lt : vacant.word < wordLimit := by decide

theorem NodeSlot.lt_vacantWord {node count : Nat} (valid : node < count) (bound : count < wordLimit) :
    node < vacantWord := by
  unfold vacantWord
  omega

theorem NodeSlot.lt_vacantWord_of_node? {slot : NodeSlot} {node : NodeId}
    (bound : slot.word < wordLimit) (h : slot.node? = some node) : node < vacantWord := by
  unfold node? at h
  split at h
  · cases h
  · rename_i held
    cases h
    exact Nat.lt_of_le_of_ne (Nat.le_sub_one_of_lt bound) held

/-- A slot that holds a node other than the word for none gives it back. -/
theorem NodeSlot.node?_stored_ofOption {origin : Option NodeId}
    (h : ∀ node, origin = some node → node < vacantWord) :
    (NodeSlot.ofOption origin).stored.node? = origin := by
  cases origin with
  | none => exact node?_vacant
  | some node =>
    have lt := h node rfl
    have fits : (ofOption (some node)).word < wordLimit :=
      Nat.lt_trans lt (by decide)
    rw [stored_of_lt fits]
    exact node?_holding (Nat.ne_of_lt lt)

namespace Allocator

variable {σ : Type} {a b : Allocator σ}

/-- The topology keeps its promises, and so do the snapshot and the default node that were got from
it. -/
structure Orderly (a : Allocator σ) : Prop where
  topology : a.topology.Lawful
  snapshot : ∀ snapshot, a.snapshot = some snapshot → snapshot.Bounded
  defaultSlot : a.defaultSlot.word < wordLimit

theorem Orderly.agrees (h : a.Orderly) (same : a.Agrees b) : b.Orderly := by
  refine ⟨?_, ?_, ?_⟩
  · rw [same.topology]
    exact h.topology
  · rw [same.snapshot]
    exact h.snapshot
  · rw [same.defaultSlot]
    exact h.defaultSlot

theorem Orderly.adopt (h : a.Orderly) {snapshot : Snapshot}
    (reference : ∀ node, snapshot.ranking.reference = some node → node < wordLimit) :
    (a.adopt snapshot).defaultSlot.word < wordLimit := by
  unfold Allocator.adopt
  split
  · rename_i node _ found
    exact reference node found
  · exact h.defaultSlot

theorem Orderly.survey (h : a.Orderly) {snapshot : Snapshot} (surveyed : a.survey = .ok (snapshot, b)) :
    b.Orderly := by
  unfold Allocator.survey at surveyed
  split at surveyed
  · cases surveyed
    exact h
  · obtain ⟨seen, look, surveyed⟩ := bind_ok surveyed
    cases surveyed
    refine ⟨?_, ?_, ?_⟩
    · rw [beginEpoch, adopt_spec]
      exact h.topology
    · rintro held same
      cases same
      exact h.topology.bounded look
    · exact Orderly.adopt (a := a.note _) ⟨h.topology, h.snapshot, h.defaultSlot⟩
        fun node found => h.topology.reference_lt look found

theorem Orderly.targets (h : a.Orderly) {hint : Option NodeId} {nodes : List NodeId}
    (targets : a.targets hint = .ok (nodes, b)) : b.Orderly := by
  obtain ⟨snapshot, c, events, surveyed, -, rfl⟩ := survey_of_targets targets
  have kept := h.survey surveyed
  exact ⟨kept.topology, kept.snapshot, kept.defaultSlot⟩

/-- **No node that is tried is the word that stands for no node.** -/
theorem Orderly.targets_lt (h : a.Orderly) {hint : Option NodeId} {nodes : List NodeId}
    (targets : a.targets hint = .ok (nodes, b)) : ∀ node ∈ nodes, node < NodeSlot.vacantWord := by
  obtain ⟨snapshot, c, events, surveyed, rfl, -⟩ := survey_of_targets targets
  have kept := h.survey surveyed
  have bounded := kept.snapshot snapshot (snapshot_of_survey surveyed)
  intro node mem
  unfold candidates at mem
  split at mem
  · cases mem
  · split at mem
    · rename_i hinted valid
      obtain ⟨-, valid⟩ := Option.filter_eq_some_iff.1 valid
      obtain rfl := List.mem_singleton.1 mem
      exact NodeSlot.lt_vacantWord (by simpa using valid) bounded.addressable
    · split at mem
      · exact NodeSlot.lt_vacantWord (bounded.ranked node mem) bounded.addressable
      · -- The default node may be one of an earlier epoch; its slot still is a word.
        exact NodeSlot.lt_vacantWord_of_node? kept.defaultSlot (Option.mem_toList.1 mem)

theorem Orderly.controls (h : a.Orderly) {step : Step σ} (controls : a.Controls step b)
    (changes : ∀ topology, step = .changeTopology topology → topology.Lawful) : b.Orderly := by
  cases controls with
  | same => exact h
  | looked events surveyed =>
    have kept := h.survey surveyed
    exact ⟨kept.topology, kept.snapshot, kept.defaultSlot⟩
  | defaulted events surveyed valid =>
    have kept := h.survey surveyed
    have bounded := kept.snapshot _ (snapshot_of_survey surveyed)
    exact ⟨kept.topology, kept.snapshot, Nat.lt_trans valid bounded.addressable⟩
  | cleared => exact ⟨h.topology, h.snapshot, NodeSlot.word_vacant_lt⟩
  | placing policy events => exact ⟨h.topology, h.snapshot, h.defaultSlot⟩
  | ended events => exact ⟨h.topology, by rintro snapshot ⟨⟩, h.defaultSlot⟩
  | serialized events => exact ⟨h.topology, h.snapshot, h.defaultSlot⟩
  | topology topology => exact ⟨changes topology rfl, h.snapshot, h.defaultSlot⟩
  | source change => exact ⟨h.topology, h.snapshot, h.defaultSlot⟩

/-! ## Leases of live blocks -/

/-- What a live block is leased as. -/
def lease (a : Allocator σ) (block : BlockId) : Except Halt Lease := do
  let size ← a.usableSize block
  let node ← a.blockNode block
  return ⟨block, size + headerWidth, node⟩

theorem lease_eq {block : BlockId} {head : Header} {payload : Bytes}
    (has : a.arena.HasBlock block head payload) :
    a.lease block = .ok (.ofBlock block head) := by
  simp only [lease, usableSize, blockNode, has.header_eq, bind, Except.bind, pure, Except.pure]
  rfl

theorem lease_congr {block : BlockId} (h : b.arena.regions[block]? = a.arena.regions[block]?) :
    b.lease block = a.lease block := by
  simp only [lease, usableSize, blockNode, Arena.header, Arena.read, Arena.touch, h]

/-- The leases are those of the blocks. -/
def Covers (a : Allocator σ) (blocks : Table BlockName BlockId) (leases : List Lease) : Prop :=
  (leases.map Except.ok).Perm (blocks.map fun entry => a.lease entry.2)

variable {blocks : Table BlockName BlockId} {leases : List Lease} {name : BlockName}
  {block : BlockId} {lease : Lease}

theorem Covers.congr (h : a.Covers blocks leases)
    (same : ∀ entry ∈ blocks, b.lease entry.2 = a.lease entry.2) : b.Covers blocks leases := by
  unfold Covers
  rw [List.map_congr_left same]
  exact h

/-- A block whose header tells where it was placed is leased as what was asked for. -/
theorem lease_of_origin {size : Nat} {origin : Option NodeId} {r : Region} {payload : Bytes}
    (hr : a.arena.regions[block]? = some r)
    (hb : r.IsBlock ⟨size, (NodeSlot.ofOption origin).stored⟩ payload)
    (fits : ∀ node, origin = some node → node < NodeSlot.vacantWord) :
    a.lease block = .ok ⟨block, size + headerWidth, origin⟩ := by
  rw [lease_eq ⟨r, hr, hb⟩, Lease.ofBlock, Header.total, Header.node?,
    NodeSlot.node?_stored_ofOption fits]

theorem Covers.insert (h : a.Covers blocks leases) (leased : a.lease block = .ok lease) :
    a.Covers (blocks.insert name block) (lease :: leases) := by
  unfold Covers
  rw [Table.insert, List.map_cons, List.map_cons, leased]
  exact h.cons _

theorem Covers.perm (h : a.Covers blocks leases) (found : blocks.find? name = some block)
    (leased : a.lease block = .ok lease) :
    (leases.map Except.ok).Perm
      (.ok lease :: (blocks.erase name).map fun entry => a.lease entry.2) := by
  refine h.trans (((Table.perm_of_find? found).map fun entry => a.lease entry.2).trans ?_)
  rw [List.map_cons, leased]

theorem Covers.mem (h : a.Covers blocks leases) (found : blocks.find? name = some block)
    (leased : a.lease block = .ok lease) : lease ∈ leases := by
  obtain ⟨found, mem, same⟩ := List.mem_map.1 ((h.perm found leased).mem_iff.2 List.mem_cons_self)
  cases same
  exact mem

theorem Covers.erase (h : a.Covers blocks leases) (found : blocks.find? name = some block)
    (leased : a.lease block = .ok lease) : a.Covers (blocks.erase name) (leases.erase lease) := by
  have apart := (List.perm_cons_erase (h.mem found leased)).map (Except.ok (ε := Halt))
  exact (apart.symm.trans (h.perm found leased)).cons_inv

end Allocator

namespace Session

variable {σ : Type} {s : Session σ} {leases : List Lease}

theorem Sound.regions_perm (sound : s.Sound) (covers : s.allocator.Covers s.blocks leases) :
    (leases.map Lease.region).Perm (s.blocks.map Prod.snd) := by
  have regions := covers.map fun lease => (lease.toOption.map Lease.region).getD 0
  have own : ∀ entry ∈ s.blocks,
      ((s.allocator.lease entry.2).toOption.map Lease.region).getD 0 = entry.2 := by
    intro entry mem
    obtain ⟨head, payload, has⟩ := sound.live entry mem
    rw [Allocator.lease_eq has]
    rfl
  rw [List.map_map, List.map_map] at regions
  exact regions.trans (List.Perm.of_eq (List.map_congr_left own))

theorem Sound.next_fresh (sound : s.Sound) (covers : s.allocator.Covers s.blocks leases) :
    s.allocator.arena.next ∉ leases.map Lease.region := by
  intro mem
  obtain ⟨entry, mem, same⟩ := List.mem_map.1 ((sound.regions_perm covers).mem_iff.1 mem)
  exact absurd same (Nat.ne_of_lt (sound.named entry mem))

theorem Sound.leases_apart (sound : s.Sound) (covers : s.allocator.Covers s.blocks leases) :
    (leases.map Lease.region).Nodup :=
  (sound.regions_perm covers).nodup_iff.2 sound.apart

variable [Source σ]

/-- The calls settle, and the leases that are left are those of the live blocks. A source that cannot
resize memory was never asked to. -/
structure Leased (s : Session σ) (leases : List Lease) : Prop where
  settled : Lease.settleAll [] s.allocator.arena.calls.reverse = some leases
  covers : s.allocator.Covers s.blocks leases
  plain : Source.resize? (σ := σ) = none → ∀ call ∈ s.allocator.arena.calls, call.isResize = false
  orderly : s.allocator.Orderly

theorem isResize_of_hearAll (unable : Source.resize? (σ := σ) = none) {calls : List Call}
    {now later : σ × RegionId} (heard : Source.hearAll now calls = some later) :
    ∀ call ∈ calls, call.isResize = false := by
  induction calls generalizing now with
  | nil => intro call mem; cases mem
  | cons first rest ih =>
    obtain ⟨between, hear, heard⟩ := Option.bind_eq_some_iff.1 heard
    intro call mem
    rcases List.mem_cons.1 mem with rfl | mem
    · cases call with
      | resize region old new granted =>
        simp only [Source.hear, unable] at hear
        cases hear
      | _ => rfl
    · exact ih heard call mem

/-- Calls that settle leave a leased session, if the leases are those of the blocks again. -/
theorem Leased.calls {b c : Allocator σ} {blocks : Table BlockName BlockId} {calls : List Call}
    {rest : List Lease} (h : s.Leased leases)
    (heard : s.allocator.arena.calls = c.arena.calls ∧ c.arena.Heard calls b.arena)
    (settles : Lease.settleAll leases calls = some rest) (covers : b.Covers blocks rest)
    (orderly : b.Orderly) : Leased ⟨b, blocks⟩ rest := by
  obtain ⟨same, heard⟩ := heard
  refine ⟨?_, covers, ?_, orderly⟩
  · show Lease.settleAll [] b.arena.calls.reverse = some rest
    rw [heard.recorded, ← same, List.reverse_append, List.reverse_reverse, Lease.settleAll_append,
      h.settled]
    exact settles
  · intro unable call mem
    have mem : call ∈ b.arena.calls := mem
    rw [heard.recorded, List.mem_append, List.mem_reverse, ← same] at mem
    rcases mem with mem | mem
    · exact isResize_of_hearAll unable heard.answered call mem
    · exact h.plain unable call mem

/-- A refused request leaves the leases as they are. -/
theorem Leased.refused {a b : Allocator σ} {hint : Option NodeId} {nodes : List NodeId}
    {calls : List Call} (h : s.Leased leases) (targets : s.allocator.targets hint = .ok (nodes, a))
    (heard : a.arena.Heard calls b.arena) (settles : Lease.settleAll leases calls = some leases)
    (spared : a.Spared b) (agrees : a.Agrees b) : Leased ⟨b, s.blocks⟩ leases := by
  have kept := Allocator.idle_targets targets
  have covers : b.Covers s.blocks leases := h.covers.congr fun entry _ =>
    Allocator.lease_congr (by rw [spared.regions, kept.regions])
  exact h.calls ⟨kept.calls.symm, heard⟩ settles covers ((h.orderly.targets targets).agrees agrees)

/-- A block that is placed is leased as its header says. -/
theorem Leased.placed {a b : Allocator σ} {hint : Option NodeId} {nodes : List NodeId}
    {calls : List Call} {size : Nat} {origin : Option NodeId} {r : Region} {payload : Bytes}
    {name : BlockName} (h : s.Leased leases) (sound : s.Sound)
    (targets : s.allocator.targets hint = .ok (nodes, a))
    (asks : Asks a.arena.next (size + headerWidth) nodes calls (some origin))
    (heard : a.arena.Heard calls b.arena)
    (regions : b.arena.regions = a.arena.regions.insert a.arena.next r)
    (hb : r.IsBlock ⟨size, (NodeSlot.ofOption origin).stored⟩ payload) (agrees : a.Agrees b) :
    ∃ rest, Leased ⟨b, s.blocks.insert name a.arena.next⟩ rest := by
  have kept := Allocator.idle_targets targets
  have fresh := sound.next_fresh h.covers
  rw [← kept.next] at fresh
  have fits : ∀ node, origin = some node → node < NodeSlot.vacantWord := by
    rintro node rfl
    exact h.orderly.targets_lt targets node asks.mem
  have there : b.arena.regions[a.arena.next]? = some r := by
    rw [regions, Std.ExtTreeMap.getElem?_insert_self]
  have covers : b.Covers s.blocks leases := h.covers.congr fun entry mem =>
    Allocator.lease_congr (by
      rw [regions, kept.next, Regions.getElem?_insert_of_ne _ _ _
        (Nat.ne_of_lt (sound.named entry mem)), kept.regions])
  exact ⟨_, h.calls ⟨kept.calls.symm, heard⟩ (asks.settleAll_eq fresh)
    (covers.insert (Allocator.lease_of_origin there hb fits))
    ((h.orderly.targets targets).agrees agrees)⟩

/-- A block that takes the place of another is leased in its place. -/
theorem Leased.replaced {a b : Allocator σ} {source name : BlockName} {hint : Option NodeId}
    {nodes : List NodeId} {calls : List Call} {size : Nat} {block new : BlockId} {head : Header}
    {payload : Bytes} {r : Region} (h : s.Leased leases) (sound : s.Sound)
    (found : s.blocks.find? source = some block) (hr : s.allocator.arena.regions[block]? = some r)
    (hb : r.IsBlock head payload) (targets : s.allocator.targets hint = .ok (nodes, a))
    (granted : a.Reallocates block head r size nodes (.ok new) b calls) :
    ∃ rest, Leased ⟨b, (s.blocks.erase source).insert name new⟩ rest := by
  have kept := Allocator.idle_targets targets
  have fresh := sound.next_fresh h.covers
  rw [← kept.next] at fresh
  obtain ⟨origin, listed, replaces⟩ := granted.replaces hb (sound.ne_next kept found)
  obtain ⟨t, fitting, regions, ht, -⟩ := replaces.region
  have owned := Allocator.lease_eq ⟨r, hr, hb⟩
  have fits : ∀ node, origin = some node → node < NodeSlot.vacantWord := fun node served =>
    h.orderly.targets_lt targets node (listed node served)
  have there : b.arena.regions[new]? = some t := by
    rw [regions, Std.ExtTreeMap.getElem?_insert_self]
  have leased := Allocator.lease_of_origin there ht fits
  have covers : b.Covers (s.blocks.erase source) (leases.erase (.ofBlock block head)) :=
    (h.covers.erase found owned).congr fun entry mem => Allocator.lease_congr (by
      rw [regions, Regions.getElem?_insert_of_ne _ _ _ (sound.ne_new kept found replaces mem),
        Regions.getElem?_erase_of_ne _ _ (sound.ne_of_mem_erase found mem), kept.regions])
  have settles := replaces.settleAll_eq (h.covers.mem found owned) fresh
    (sound.leases_apart h.covers)
  exact ⟨_, h.calls ⟨kept.calls.symm, granted.heard⟩ settles (covers.insert leased)
    ((h.orderly.targets targets).agrees granted.agrees)⟩

/-- **Every step settles**: its calls give back what is outstanding and take out what is new, and what is
left are the leases of the blocks that are then live. -/
theorem Leased.performs {step : Step σ} {value : Value} {after : Session σ} (sound : s.Sound)
    (h : s.Leased leases) (performs : Performs s step value after)
    (changes : ∀ topology, step = .changeTopology topology → topology.Lawful) :
    ∃ rest, after.Leased rest := by
  have fresh := sound.next_fresh h.covers
  induction performs with
  | @still step value b quiet controls =>
    have idle := controls.idle
    have covers : b.Covers s.blocks leases :=
      h.covers.congr fun entry _ => Allocator.lease_congr (by rw [idle.regions])
    refine ⟨leases, ?_, covers, ?_, h.orderly.controls controls changes⟩
    · rw [idle.calls]
      exact h.settled
    · rw [idle.calls]
      exact h.plain
  | @refused name size hint nodes a b error calls targets refused =>
    rw [← (Allocator.idle_targets targets).next] at fresh
    exact ⟨leases, h.refused targets refused.heard (refused.settleAll_of_error fresh) refused.spared
      refused.agrees⟩
  | @placed fatal name size hint nodes a b new calls value targets granted described =>
    obtain ⟨origin, found, asks, bounded, rfl, regions⟩ := granted.region
    exact h.placed sound targets asks granted.heard regions (Region.isBlock_newBlock bounded origin found)
      granted.agrees
  | @copied name bytes nodes a b new calls arena value targets granted written described =>
    obtain ⟨origin, r, asks, rfl, rfl, hb⟩ := granted.written written
    have heard := granted.heard
    have agrees := granted.agrees
    exact h.placed sound targets asks ⟨heard.recorded, heard.answered⟩ rfl hb
      ⟨agrees.topology, agrees.snapshot, agrees.policy, agrees.defaultSlot, agrees.localDefault⟩
  | afresh _ ih => exact ih (by rintro topology ⟨⟩)
  | @kept source name size hint nodes a b block head payload r error calls found hr hb targets refused =>
    rw [← (Allocator.idle_targets targets).next] at fresh
    exact ⟨leases, h.refused targets refused.heard (refused.settleAll_of_error fresh) refused.spared
      refused.agrees⟩
  | @replaced fatal source name size hint nodes a b block new head payload r calls value
      found hr hb targets granted described =>
    exact h.replaced sound found hr hb targets granted
  | @freed name block head payload found has =>
    have owned := Allocator.lease_eq has
    have settles : Lease.settleAll leases [releaseOf block head] =
        some (leases.erase (.ofBlock block head)) := by
      rw [Lease.settleAll_singleton]
      exact Lease.settle_releaseOf (h.covers.mem found owned)
    refine ⟨_, h.calls ⟨rfl, Arena.heard_released _ _ _⟩ settles ?_
      ⟨h.orderly.topology, h.orderly.snapshot, h.orderly.defaultSlot⟩⟩
    exact (h.covers.erase found owned).congr fun entry mem => Allocator.lease_congr (by
      simp only [Arena.regions_released,
        Regions.getElem?_erase_of_ne _ _ (sound.ne_of_mem_erase found mem)])
  | @written name start bytes block head payload r found hr hb inside =>
    have quiet : Lease.settleAll leases [] = some leases := rfl
    refine ⟨leases, h.calls ⟨rfl, rfl, rfl⟩ quiet ?_
      ⟨h.orderly.topology, h.orderly.snapshot, h.orderly.defaultSlot⟩⟩
    refine h.covers.congr fun entry mem => ?_
    by_cases same : entry.2 = block
    · rw [same, Allocator.lease_eq ⟨r, hr, hb⟩]
      exact Allocator.lease_eq ⟨_, by simp, hb.overwrite inside⟩
    · exact Allocator.lease_congr (by simp only [Regions.getElem?_insert_of_ne _ _ _ same])

theorem Initial.leased (made : Initial s) (lawful : s.allocator.topology.Lawful) : s.Leased [] := by
  cases made with
  | new topology source =>
    exact ⟨rfl, .nil, fun _ call mem => (List.not_mem_nil mem).elim, lawful, by rintro snapshot ⟨⟩,
      NodeSlot.word_vacant_lt⟩
  | ofConfig made =>
    obtain ⟨policy, localDefault, usage, -, node, controls⟩ := Allocator.ofConfig_cases made
    have idle := controls.idle
    rw [controls.topology_eq (by rintro topology ⟨⟩)] at lawful
    refine ⟨?_, .nil, ?_, Allocator.Orderly.controls ⟨lawful, ?_, ?_⟩ controls (by rintro topology ⟨⟩)⟩
    · rw [idle.calls]
      rfl
    · rw [idle.calls]
      exact fun _ call mem => (List.not_mem_nil mem).elim
    · rintro snapshot ⟨⟩
    · exact NodeSlot.word_vacant_lt

theorem Leased.step (stores : s.Stored) (h : s.Leased leases) (step : Step σ)
    (changes : ∀ topology, step = .changeTopology topology → topology.Lawful) :
    ∃ rest, (s.step step).2.Leased rest := by
  rcases step_cases stores.toSound step with ⟨-, unchanged⟩ | performs
  · rw [unchanged]
    exact ⟨leases, h⟩
  · exact h.performs stores.toSound performs changes

/-- A run leaves a leased session. -/
theorem Leased.run (steps : List (Step σ)) (stores : s.Stored) (h : s.Leased leases)
    (changes : ∀ topology, .changeTopology topology ∈ steps → topology.Lawful) :
    ∃ rest, (s.run steps).2.Leased rest := by
  induction steps generalizing s leases with
  | nil => exact ⟨leases, h⟩
  | cons step rest ih =>
    obtain ⟨between, leased⟩ := h.step stores step fun topology same =>
      changes topology (same ▸ List.mem_cons_self)
    exact ih (stores.step step) leased fun topology mem =>
      changes topology (List.mem_cons_of_mem _ mem)

/-- **What is granted is given back once, by the call that fits it, or is still live.** After every run
with topologies that keep their promises, the calls settle: whatever was given back was outstanding,
with just that size and just that node or none, and what is outstanding are the leases of the live
blocks. A source that cannot resize memory is never asked to, so all of its memory is granted by
requests. -/
theorem run_settles (made : Initial s) (lawful : s.allocator.topology.Lawful) (steps : List (Step σ))
    (changes : ∀ topology, .changeTopology topology ∈ steps → topology.Lawful) :
    ∃ leases, Lease.settleAll [] (s.run steps).2.allocator.arena.calls.reverse = some leases ∧
      (leases.map Except.ok).Perm
        ((s.run steps).2.blocks.map fun entry => (s.run steps).2.allocator.lease entry.2) ∧
      (leases.map Lease.region).Nodup ∧
      (Source.resize? (σ := σ) = none →
        ∀ call ∈ (s.run steps).2.allocator.arena.calls, call.isResize = false) := by
  obtain ⟨leases, leased⟩ := (made.leased lawful).run steps made.stored changes
  exact ⟨leases, leased.settled, leased.covers,
    (made.stored.run steps).toSound.leases_apart leased.covers, leased.plain⟩

/-- A block that was placed anywhere and moved to a node is leased from that node, whatever became of
the topology since. -/
theorem settles_with_block_on_node :
    Initial onPair ∧ pair.Lawful ∧
      ∃ leases,
        Lease.settleAll [] (onPair.run [.allocate false 7 2 none, .changeTopology pair,
          .reallocate false (some 7) 8 3 (some 1), .resetTopology]).2.allocator.arena.calls.reverse =
            some leases ∧
        (leases.map Except.ok).Perm [(.ok ⟨1, 19, some 1⟩ : Except Halt Lease)] := by
  have made : Initial onPair := .new _ _
  have lawful : pair.Lawful := by
    refine ⟨fun node mem => ⟨1, rfl, ?_⟩, ?_⟩
    · revert node
      decide
    · rintro node ⟨⟩
      decide
  obtain ⟨leases, settled, covers, -, -⟩ := run_settles made lawful [.allocate false 7 2 none,
    .changeTopology pair, .reallocate false (some 7) 8 3 (some 1), .resetTopology] (by
      intro topology mem
      simp only [List.mem_cons, reduceCtorEq, Step.changeTopology.injEq, List.not_mem_nil, false_or,
        or_false] at mem
      exact mem ▸ lawful)
  exact ⟨made, lawful, leases, settled, covers⟩

end Session

end NodeHeap
