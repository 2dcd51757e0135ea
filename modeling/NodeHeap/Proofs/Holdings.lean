import NodeHeap.Proofs.Refinement
import NodeHeap.Proofs.Tally

/-!
# Blocks without names

The blocks that are live at an allocator, whoever holds them: a list of blocks with their cells, in any
order. What is done to one of them is done to the head of the list, and the rest is the frame.

* `Allocator.Holds` — these are the live blocks: they are there, no two are the same, and the books and the
  counters speak of them and of no others.
* `Holds.stores`, `holds_of_stores` — that is what `Stores` says of a session that has names for them.
* `Allocator.Writes`, `Leads` — how an allocator came from another one; `Fails` — why a request halts that must
  not be refused, and what was refused then.
* `Holds.allocate`, `Holds.reallocate`, `Holds.release`, `Holds.write`, `Holds.fill` — what is done to a block;
  `Holds.read`, `Holds.usableSize` — what is told of it.
* `Session.performs_holds` — the step of a session that has some of the blocks leaves the others alone.
-/

namespace NodeHeap

variable {σ : Type}

/-! ## Computations with a reason to halt -/

/-- A computation gives a value with a property, or halts for one of some reasons. -/
inductive Ends {α : Type} (reason : Halt → Prop) (post : α → Prop) : Except Halt α → Prop
  | ok {value : α} (holds : post value) : Ends reason post (.ok value)
  | error {halt : Halt} (because : reason halt) : Ends reason post (.error halt)

section Ends

variable {α β : Type} {reason other : Halt → Prop} {post : α → Prop} {later : β → Prop}
  {x : Except Halt α}

theorem Ends.bind {f : α → Except Halt β} (h : Ends reason post x)
    (next : ∀ value, post value → Ends reason later (f value)) : Ends reason later (x >>= f) := by
  cases h with
  | ok holds => exact next _ holds
  | error because => exact .error because

theorem Ends.imp {weaker : α → Prop} (h : Ends reason post x)
    (because : ∀ halt, reason halt → other halt) (holds : ∀ value, post value → weaker value) :
    Ends other weaker x := by
  cases h with
  | ok value => exact .ok (holds _ value)
  | error halt => exact .error (because _ halt)

theorem Ends.and {more : α → Prop} (h : Ends reason post x)
    (also : ∀ value, x = .ok value → more value) :
    Ends reason (fun value => post value ∧ more value) x := by
  cases h with
  | ok holds => exact .ok ⟨holds, also _ rfl⟩
  | error because => exact .error because

end Ends

/-! ## Tables of the same names -/

namespace Table

variable {κ α β γ δ : Type}

theorem mapValues_mapValues (f : α → β) (g : β → γ) (table : Table κ α) :
    (table.mapValues f).mapValues g = table.mapValues fun value => g (f value) := by
  simp only [mapValues, List.map_map]
  rfl

theorem mapValues_append (f : α → β) (table more : Table κ α) :
    mapValues f (table ++ more) = table.mapValues f ++ more.mapValues f := List.map_append

theorem map_snd_mapValues (f : α → β) (table : Table κ α) :
    (table.mapValues f).map Prod.snd = (table.map Prod.snd).map f := by
  simp only [mapValues, List.map_map]
  rfl

theorem length_mapValues (f : α → β) (table : Table κ α) :
    List.length (table.mapValues f) = List.length table := List.length_map _

/-- Tables that agree in what their values stand for have the same names. -/
theorem zip_of_mapValues {f : α → γ} {g : β → γ} {table : Table κ α} {other : Table κ β}
    (h : table.mapValues f = other.mapValues g) :
    ∃ entries : Table κ (α × β), table = entries.mapValues Prod.fst ∧
      other = entries.mapValues Prod.snd := by
  induction table generalizing other with
  | nil =>
    cases other with
    | nil => exact ⟨[], rfl, rfl⟩
    | cons entry rest => cases h
  | cons entry rest ih =>
    cases other with
    | nil => cases h
    | cons entry' rest' =>
      obtain ⟨key, value⟩ := entry
      obtain ⟨key', value'⟩ := entry'
      obtain ⟨same, tail⟩ := List.cons.inj h
      obtain ⟨rfl, -⟩ := Prod.mk.inj same
      obtain ⟨entries, first, second⟩ := ih tail
      exact ⟨(key, value, value') :: entries, congrArg _ first, congrArg _ second⟩

variable [DecidableEq κ] {key : κ} {value : α} {table : Table κ α}

theorem modify_append (found : table.find? key = some value) (change : α → α) (more : Table κ α) :
    modify key change (table ++ more) = table.modify key change ++ more := by
  induction table with
  | nil => cases found
  | cons entry rest ih =>
    by_cases hk : entry.1 = key
    · simp only [List.cons_append, modify, hk, if_true]
    · simp only [find?, hk, if_false] at found
      simp only [List.cons_append, modify, hk, if_false]
      exact congrArg _ (ih found)

end Table

/-! ## Blocks and their cells -/

/-- A block and what it holds. -/
abbrev Holding := BlockId × Cell

def Holding.total (held : List Holding) : Nat :=
  held.foldr (fun entry n => entry.2.size + headerWidth + n) 0

theorem Holding.total_perm {held other : List Holding} (same : held.Perm other) :
    total held = total other := by
  apply same.foldr_eq'
  intro x _ y _ n
  exact Nat.add_left_comm _ _ _

theorem Holding.total_append (held more : List Holding) : total (held ++ more) = total held + total more := by
  induction held with
  | nil => exact (Nat.zero_add _).symm
  | cons entry rest ih => exact (congrArg _ ih).trans (Nat.add_assoc _ _ _).symm

theorem Cells.total_eq (entries : Table BlockName Holding) :
    Cells.total (entries.mapValues Prod.snd) = Holding.total (entries.map Prod.snd) := by
  induction entries with
  | nil => rfl
  | cons entry rest ih => exact congrArg (entry.2.2.size + headerWidth + ·) ih

theorem Topology.addressableNodes_ne_badAccess (t : Topology) : t.addressableNodes ≠ .error .badAccess := by
  unfold addressableNodes
  split
  · split <;> simp
  · simp

/-- A look at a topology touches no memory, unless it does so to find the caller's node. -/
theorem Topology.callerNode_of_snapshot {t : Topology} (cut : t.snapshot = .error .badAccess) :
    t.callerNode = .error .badAccess := by
  cases look : t.callerNode with
  | error halt =>
    simp only [snapshot, Ranking.forCaller, look, bind, Except.bind] at cut
    exact congrArg Except.error (Except.error.inj cut)
  | ok caller =>
    simp only [snapshot, Ranking.forCaller, look] at cut
    cases count : t.addressableNodes with
    | error halt =>
      rw [count] at cut
      exact absurd (count.trans (congrArg Except.error (Except.error.inj cut)))
        t.addressableNodes_ne_badAccess
    | ok number =>
      rw [count] at cut
      cases cut

namespace Allocator

/-- These blocks are live: each is there with its cell, no two are the same, and the books and the counters
speak of them and of no others. -/
structure Holds (a : Allocator σ) (held : List Holding) : Prop where
  live : ∀ entry ∈ held, ∃ head, a.arena.HasBlock entry.1 head entry.2.bytes ∧
    head.size = entry.2.size ∧ head.node? = entry.2.node
  named : ∀ entry ∈ held, entry.1 < a.arena.next
  apart : (held.map Prod.fst).Nodup
  used : a.usage.used = UInt64.ofNat (Holding.total held)
  balanced : a.counters.Balanced held.length

variable {a b : Allocator σ} {held rest : List Holding} {block : BlockId} {cell : Cell}

theorem Holds.perm {other : List Holding} (h : a.Holds held) (same : held.Perm other) :
    a.Holds other := by
  refine ⟨fun entry mem => h.live entry (same.mem_iff.2 mem),
    fun entry mem => h.named entry (same.mem_iff.2 mem), ?_, ?_, ?_⟩
  · exact (same.map Prod.fst).nodup_iff.1 h.apart
  · rw [h.used]
    exact congrArg _ (Holding.total_perm same)
  · rw [← same.length_eq]
    exact h.balanced

/-- Any of the blocks with the rest of them. -/
theorem Holds.focus (h : a.Holds held) {entry : Holding} (mem : entry ∈ held) :
    ∃ rest, a.Holds (entry :: rest) := by
  obtain ⟨front, back, rfl⟩ := List.append_of_mem mem
  exact ⟨front ++ back, h.perm List.perm_middle⟩

/-- What a session that has names for some of the blocks can read of them. -/
theorem Holds.contents {entries : Table BlockName Holding} (h : a.Holds held)
    (some : ∀ entry ∈ entries, entry.2 ∈ held) :
    Session.contents ⟨a, entries.mapValues Prod.fst⟩ = (entries.mapValues Prod.snd).mapValues .ok := by
  rw [Session.contents, Table.mapValues_mapValues, Table.mapValues_mapValues]
  apply List.map_congr_left
  intro entry mem
  obtain ⟨head, has, size, node⟩ := h.live entry.2 (some entry mem)
  have told : a.cell entry.2.1 = .ok entry.2.2 := by rw [cell_eq has, size, node]
  exact congrArg (entry.1, ·) told

theorem Holds.stores {entries : Table BlockName Holding} (h : a.Holds (entries.map Prod.snd)) :
    Session.Stores ⟨a, entries.mapValues Prod.fst⟩ (entries.mapValues Prod.snd) := by
  have entry_of : ∀ binding ∈ entries.mapValues Prod.fst, ∃ entry ∈ entries.map Prod.snd,
      binding.2 = entry.1 := by
    intro binding mem
    obtain ⟨entry, there, rfl⟩ := List.mem_map.1 mem
    exact ⟨entry.2, List.mem_map_of_mem there, rfl⟩
  refine ⟨⟨?_, ?_, ?_⟩, h.contents fun entry => List.mem_map_of_mem, ?_⟩
  · intro binding mem
    obtain ⟨entry, mem, same⟩ := entry_of binding mem
    obtain ⟨head, has, -, -⟩ := h.live entry mem
    rw [same]
    exact ⟨head, _, has⟩
  · intro binding mem
    obtain ⟨entry, mem, same⟩ := entry_of binding mem
    rw [same]
    exact h.named entry mem
  · have apart := h.apart
    rw [List.map_map] at apart
    rw [Table.mapValues, List.map_map]
    exact apart
  · rw [Cells.total_eq]
    exact h.used

/-- What a session has names for are live blocks. -/
theorem holds_of_stores {entries : Table BlockName Holding}
    (stores : Session.Stores ⟨a, entries.mapValues Prod.fst⟩ (entries.mapValues Prod.snd))
    (balanced : a.counters.Balanced entries.length) : a.Holds (entries.map Prod.snd) := by
  have binding_of : ∀ entry ∈ entries, (entry.1, entry.2.1) ∈ entries.mapValues Prod.fst :=
    fun entry mem => List.mem_map_of_mem (f := fun entry => (entry.1, entry.2.1)) mem
  refine ⟨?_, ?_, ?_, ?_, ?_⟩
  · intro holding mem
    obtain ⟨entry, there, rfl⟩ := List.mem_map.1 mem
    obtain ⟨head, payload, has⟩ : ∃ head payload, a.arena.HasBlock entry.2.1 head payload :=
      stores.live _ (binding_of entry there)
    have contents := stores.contents
    rw [Session.contents, Table.mapValues_mapValues, Table.mapValues_mapValues] at contents
    have told : a.cell entry.2.1 = .ok entry.2.2 :=
      (Prod.mk.inj (List.map_inj_left.1 contents entry there)).2
    rw [cell_eq has] at told
    obtain ⟨size, node, bytes⟩ := Cell.mk.inj (Except.ok.inj told)
    exact ⟨head, bytes ▸ has, size, node⟩
  · intro holding mem
    obtain ⟨entry, there, rfl⟩ := List.mem_map.1 mem
    exact stores.named _ (binding_of entry there)
  · have apart := stores.apart
    rw [Table.mapValues, List.map_map] at apart
    rw [List.map_map]
    exact apart
  · rw [← Cells.total_eq]
    exact stores.used
  · rw [List.length_map]
    exact balanced

/-- The blocks under one name, for a caller that does not tell them apart. -/
def nameless (held : List Holding) : Table BlockName Holding := held.map fun entry => (0, entry)

theorem map_snd_nameless (held : List Holding) : (nameless held).map Prod.snd = held := by
  rw [nameless, List.map_map]
  exact List.map_id held

theorem found_nameless (block : BlockId) (cell : Cell) (rest : List Holding) :
    Table.find? 0 ((nameless ((block, cell) :: rest)).mapValues Prod.fst) = some block := rfl

theorem Holds.nameless (h : a.Holds held) :
    Session.Stores ⟨a, (nameless held).mapValues Prod.fst⟩ ((nameless held).mapValues Prod.snd) :=
  Holds.stores (by rw [map_snd_nameless]; exact h)

theorem Holds.of_nameless
    (stores : Session.Stores ⟨a, (Allocator.nameless held).mapValues Prod.fst⟩
      ((Allocator.nameless held).mapValues Prod.snd))
    (balanced : a.counters.Balanced held.length) : a.Holds held := by
  have holds := holds_of_stores stores (by rw [Allocator.nameless, List.length_map]; exact balanced)
  rw [map_snd_nameless] at holds
  exact holds

/-! ## What is done to a block -/

theorem Holds.spared (h : a.Holds held) (kept : a.Spared b)
    (balanced : b.counters.Balanced held.length) : b.Holds held :=
  .of_nameless (h.nameless.spared kept) balanced

theorem Holds.idle (h : a.Holds held) (kept : a.Idle b) : b.Holds held :=
  h.spared kept.toSpared (kept.counters ▸ h.balanced)

def rewritten (a : Allocator σ) (block : BlockId) (r : Region) : Allocator σ :=
  { a with arena := { a.arena with regions := a.arena.regions.insert block r } }

theorem rewritten_rewritten (a : Allocator σ) (block : BlockId) (r s : Region) :
    (a.rewritten block r).rewritten block s = a.rewritten block s := by
  simp only [rewritten, Regions.insert_insert]

/-- Writes into the payload of a block lead from one allocator to another. -/
inductive Writes (a : Allocator σ) (block : BlockId) : Allocator σ → Prop
  | refl : Writes a block a
  | write {b : Allocator σ} {start : Nat} {bytes : Bytes} {arena : Arena σ} (before : Writes a block b)
    (wrote : b.arena.writePayload block start bytes = .ok arena) : Writes a block { b with arena }
  | fill {b : Allocator σ} {length : Nat} {value : UInt8} {arena : Arena σ} (before : Writes a block b)
    (filled : b.arena.fill block headerWidth length value = .ok arena) : Writes a block { b with arena }

theorem Writes.trans {c : Allocator σ} (h : a.Writes block b) (later : b.Writes block c) :
    a.Writes block c := by
  induction later with
  | refl => exact h
  | write _ wrote ih => exact .write ih wrote
  | fill _ filled ih => exact .fill ih filled

/-- A block whose payload is another one holds that. -/
theorem Holds.rewritten {head : Header} {r s : Region} {payload : Bytes}
    (h : a.Holds ((block, cell) :: rest)) (hr : a.arena.regions[block]? = some r)
    (hb : r.IsBlock head cell.bytes) (hs : s.IsBlock head payload) :
    (a.rewritten block s).Holds ((block, { cell with bytes := payload }) :: rest) := by
  have stores : Session.Stores
      ⟨a.rewritten block s, (Allocator.nameless ((block, cell) :: rest)).mapValues Prod.fst⟩
      (((Allocator.nameless ((block, cell) :: rest)).mapValues Prod.snd).modify 0
        (Cell.rewrite fun _ => payload)) := by
    refine h.nameless.write (found_nameless block cell rest) ⟨r, hr, hb⟩ ?_ hs ?_ ?_ ?_
    · rfl
    · rfl
    · rfl
    · rfl
  exact .of_nameless stores h.balanced

/-- **A write inside of a payload** is made, and is all that changes. -/
theorem Holds.write (h : a.Holds ((block, cell) :: rest)) {start : Nat} {bytes : Bytes}
    (inside : start + bytes.length ≤ cell.size) :
    ∃ r, a.arena.writePayload block start bytes = .ok (a.rewritten block r).arena ∧
      a.Writes block (a.rewritten block r) ∧ (a.rewritten block r).Holds
        ((block, { cell with bytes := Bytes.patch start bytes cell.bytes }) :: rest) := by
  obtain ⟨head, ⟨r, hr, hb⟩, size, -⟩ := h.live _ List.mem_cons_self
  rw [← size] at inside
  have covered : r.covers (headerWidth + start) bytes.length = true := hb.covers_iff.2 (by omega)
  have wrote := Arena.write_of_covers hr covered
  exact ⟨_, wrote, .write .refl wrote, h.rewritten hr hb (hb.overwrite inside)⟩

/-- A payload that is set to one value. -/
theorem Holds.fill (h : a.Holds ((block, cell) :: rest)) (value : UInt8) :
    ∃ r, a.arena.fill block headerWidth cell.size value = .ok (a.rewritten block r).arena ∧
      a.Writes block (a.rewritten block r) ∧ (a.rewritten block r).Holds
        ((block, { cell with bytes := List.replicate cell.size value }) :: rest) := by
  obtain ⟨head, ⟨r, hr, hb⟩, size, -⟩ := h.live _ List.mem_cons_self
  have room : head.size = cell.size := size
  have covered : r.covers headerWidth cell.size = true := hb.covers_iff.2 (by omega)
  have filled := hb.fill value
  rw [size] at filled
  have wrote := Arena.fill_of_covers hr covered value
  exact ⟨_, wrote, .fill .refl wrote, h.rewritten hr hb filled⟩

/-- **What is read inside of a payload** is a part of it. -/
theorem Holds.read (h : a.Holds held) (mem : (block, cell) ∈ held) {start length : Nat}
    (inside : start + length ≤ cell.size) :
    a.arena.readPayload block start length = .ok ((cell.bytes.drop start).take length) := by
  obtain ⟨head, has, size, -⟩ := h.live _ mem
  exact has.readPayload_eq (size ▸ inside)

theorem Holds.usableSize (h : a.Holds held) (mem : (block, cell) ∈ held) :
    a.usableSize block = .ok cell.size := by
  obtain ⟨head, has, size, -⟩ := h.live _ mem
  rw [← size]
  simp only [Allocator.usableSize, has.header_eq, bind, Except.bind]
  rfl

theorem Holds.blockNode (h : a.Holds held) (mem : (block, cell) ∈ held) :
    a.blockNode block = .ok cell.node := by
  obtain ⟨head, has, -, node⟩ := h.live _ mem
  rw [← node]
  simp only [Allocator.blockNode, has.header_eq, bind, Except.bind]
  rfl

/-- The books show the bytes of the blocks, headers included. -/
theorem Holds.usedBytes_eq (h : a.Holds held) : a.usedBytes = Holding.total held % wordLimit := by
  rw [Allocator.usedBytes, Usage.bytes, h.used, UInt64.toNat_ofNat']
  rfl

theorem Holds.length_bytes (h : a.Holds held) (mem : (block, cell) ∈ held) :
    cell.bytes.length = cell.size := by
  obtain ⟨head, ⟨r, -, hb⟩, size, -⟩ := h.live _ mem
  rw [← size]
  exact hb.length_payload

theorem Holds.bounded (h : a.Holds held) (mem : (block, cell) ∈ held) :
    cell.size + headerWidth ≤ maxTotal := by
  obtain ⟨head, ⟨r, -, hb⟩, size, -⟩ := h.live _ mem
  rw [← size]
  exact hb.bounded

variable [Source σ]

/-- A block that is granted is held, with whatever was found in it. -/
theorem Holds.granted {size : Nat} {nodes : List NodeId} {new : BlockId} {calls : List Call}
    (h : a.Holds held) (granted : a.Allocates size nodes (.ok new) b calls) :
    ∃ node bytes, b.Holds ((new, ⟨size, node, bytes⟩) :: held) := by
  obtain ⟨origin, found, -, bounded, -, regions⟩ := granted.region
  have entered : b.arena =
      { b.arena with regions := a.arena.regions.insert new (.newBlock size origin found) } := by
    rw [← regions]
  have hb := Region.isBlock_newBlock bounded origin found
  exact ⟨_, _, .of_nameless (h.nameless.placed (.refl a) granted entered hb)
    (granted.balanced h.balanced)⟩

/-- A block that takes the place of another is held in its stead, with what fits of the payload. -/
theorem Holds.replaced {size : Nat} {nodes : List NodeId} {new : BlockId} {calls : List Call}
    {head : Header} {r : Region} (h : a.Holds ((block, cell) :: rest))
    (hr : a.arena.regions[block]? = some r) (hb : r.IsBlock head cell.bytes)
    (granted : a.Reallocates block head r size nodes (.ok new) b calls) :
    ∃ node bytes, Bytes.Fitted size cell.bytes bytes ∧ b.Holds ((new, ⟨size, node, bytes⟩) :: rest) := by
  have other : block ≠ a.arena.next := Nat.ne_of_lt (h.named _ List.mem_cons_self)
  obtain ⟨origin, -, replaces⟩ := granted.replaces hb other
  have found := found_nameless block cell rest
  obtain ⟨bytes, fitted, stores⟩ := h.nameless.replaced (.refl a) found ⟨r, hr, hb⟩ replaces
  exact ⟨_, bytes, fitted, .of_nameless stores (granted.balanced h.balanced)⟩

omit [Source σ] in
theorem topology_of_targets {hint : Option NodeId} {nodes : List NodeId}
    (targets : a.targets hint = .ok (nodes, b)) : b.topology = a.topology := by
  rw [targets_spec targets]

theorem topology_of_allocateAt {size : Nat} {nodes : List NodeId} {answer : Except AllocError BlockId}
    (done : a.allocateAt size nodes = .ok (answer, b)) : b.topology = a.topology := by
  obtain ⟨given, c, calls, allocated, allocates⟩ := allocateAt_spec a size nodes
  rw [allocated] at done
  cases done
  exact allocates.agrees.topology

theorem topology_of_release (done : a.release block = .ok b) : b.topology = a.topology := by
  obtain ⟨header, -, done⟩ := bind_ok done
  cases done
  rfl

theorem topology_of_reallocateAt {size : Nat} {nodes : List NodeId} {answer : Except AllocError BlockId}
    (done : a.reallocateAt (some block) size nodes = .ok (answer, b)) : b.topology = a.topology := by
  unfold reallocateAt at done
  cases total : totalFor? size with
  | none =>
    rw [total] at done
    cases done
    rfl
  | some sum =>
    rw [total] at done
    obtain ⟨old, -, done⟩ := bind_ok done
    simp only at done
    split at done
    · obtain ⟨⟨resized, arena⟩, -, done⟩ := bind_ok done
      cases resized with
      | none => cases done; rfl
      | some region =>
        obtain ⟨arena, -, done⟩ := bind_ok done
        cases done
        rfl
    · obtain ⟨⟨given, c⟩, allocated, done⟩ := bind_ok done
      have same := topology_of_allocateAt allocated
      cases given with
      | error error =>
        cases done
        exact same
      | ok new =>
        obtain ⟨arena, -, done⟩ := bind_ok done
        obtain ⟨d, released, done⟩ := bind_ok done
        cases done
        exact (topology_of_release released).trans same

omit [Source σ] in
theorem Writes.topology_eq (h : a.Writes block b) : b.topology = a.topology := by
  induction h with
  | refl => rfl
  | write _ _ ih => exact ih
  | fill _ _ ih => exact ih

/-- Granted requests, releases and writes lead from one allocator to another. -/
inductive Leads (a : Allocator σ) : Allocator σ → Prop
  | refl : Leads a a
  | granted {b c : Allocator σ} {size : Nat} {hint : Option NodeId} {new : BlockId} (before : Leads a b)
    (granted : b.tryAllocate size hint = .ok (.ok new, c)) : Leads a c
  | replaced {b c : Allocator σ} {size : Nat} {hint : Option NodeId} {block new : BlockId}
    (before : Leads a b) (granted : b.tryReallocate (some block) size hint = .ok (.ok new, c)) : Leads a c
  | released {b c : Allocator σ} {block : BlockId} (before : Leads a b)
    (released : b.release block = .ok c) : Leads a c
  | written {b c : Allocator σ} {block : BlockId} (before : Leads a b) (writes : b.Writes block c) : Leads a c

theorem Leads.trans {c : Allocator σ} (h : a.Leads b) (later : b.Leads c) : a.Leads c := by
  induction later with
  | refl => exact h
  | granted _ granted ih => exact .granted ih granted
  | replaced _ granted ih => exact .replaced ih granted
  | released _ released ih => exact .released ih released
  | written _ writes ih => exact .written ih writes

theorem Leads.topology_eq (h : a.Leads b) : b.topology = a.topology := by
  induction h with
  | refl => rfl
  | granted _ granted ih =>
    obtain ⟨⟨nodes, c⟩, targets, done⟩ := bind_ok granted
    exact ((topology_of_allocateAt done).trans (topology_of_targets targets)).trans ih
  | replaced _ granted ih =>
    obtain ⟨⟨nodes, c⟩, targets, done⟩ := bind_ok granted
    exact ((topology_of_reallocateAt done).trans (topology_of_targets targets)).trans ih
  | released _ released ih => exact (topology_of_release released).trans ih
  | written _ writes ih => exact writes.topology_eq.trans ih

/-- Why requests halt that must not be refused: the look at the topology halts, or a request is refused that is
for `most` bytes at most. -/
inductive Fails (a : Allocator σ) (most : Nat) : Halt → Prop
  | look {halt : Halt} (cut : a.topology.snapshot = .error halt) : Fails a most halt
  | refused {b c : Allocator σ} {size : Nat} {hint : Option NodeId} {error : AllocError}
    (leads : a.Leads b) (within : size ≤ most) (refused : b.tryAllocate size hint = .ok (.error error, c)) :
    Fails a most (.exhausted size)
  | kept {b c : Allocator σ} {size : Nat} {hint : Option NodeId} {block : BlockId} {error : AllocError}
    (leads : a.Leads b) (within : size ≤ most)
    (refused : b.tryReallocate (some block) size hint = .ok (.error error, c)) :
    Fails a most (.exhausted size)

theorem Fails.after {most more : Nat} {halt : Halt} (leads : a.Leads b) (le : most ≤ more)
    (fails : b.Fails most halt) : a.Fails more halt := by
  cases fails with
  | look cut => exact .look (leads.topology_eq ▸ cut)
  | refused later within refused => exact .refused (leads.trans later) (Nat.le_trans within le) refused
  | kept later within refused => exact .kept (leads.trans later) (Nat.le_trans within le) refused

theorem Fails.badAccess {most : Nat} (fails : a.Fails most .badAccess) :
    a.topology.callerNode = .error .badAccess := by
  cases fails with
  | look cut => exact Topology.callerNode_of_snapshot cut

omit [Source σ] in
theorem survey_of_targets_error {hint : Option NodeId} {halt : Halt} (cut : a.targets hint = .error halt) :
    a.survey = .error halt := by
  cases surveyed : a.survey with
  | ok seen =>
    obtain ⟨events, given⟩ := targets_eq_candidates surveyed hint
    rw [given] at cut
    cases cut
  | error other =>
    simp only [targets, surveyed, bind, Except.bind] at cut
    cases cut
    rfl

omit [Source σ] in
theorem snapshot_of_targets_error {hint : Option NodeId} {halt : Halt} (cut : a.targets hint = .error halt) :
    a.topology.snapshot = .error halt := by
  have surveyed := survey_of_targets_error cut
  unfold survey at surveyed
  split at surveyed
  · cases surveyed
  · cases look : a.topology.snapshot with
    | ok snapshot => rw [look] at surveyed; cases surveyed
    | error other => rw [look] at surveyed; cases surveyed; rfl

omit [Source σ] in
/-- Only who begins an epoch looks. -/
theorem unseen_of_targets_error {hint : Option NodeId} {halt : Halt} (cut : a.targets hint = .error halt) :
    a.snapshot = none := by
  have surveyed := survey_of_targets_error cut
  unfold survey at surveyed
  split at surveyed
  · cases surveyed
  · assumption

/-- **A block is given back**, whatever it holds. -/
theorem Holds.release (h : a.Holds ((block, cell) :: rest)) :
    ∃ b, a.release block = .ok b ∧ b.Holds rest ∧ a.Leads b := by
  obtain ⟨head, has, -, -⟩ := h.live _ List.mem_cons_self
  have released := release_spec has
  refine ⟨_, released, ?_, .released .refl released⟩
  refine .of_nameless (h.nameless.erase (found_nameless block cell rest) has ?_ ?_ rfl) ?_
  · exact Arena.regions_released _ _ _
  · exact Arena.next_released _ _ _
  · have balanced := h.balanced
    simp only [Counters.Balanced, List.length_cons, Counters.release] at balanced ⊢
    omega

/-- **A request that must not be refused** gives a block that holds anything, or fails. -/
theorem Holds.allocate (h : a.Holds held) (size : Nat) (hint : Option NodeId) :
    Ends (a.Fails size)
      (fun given => a.Leads given.2 ∧
        ∃ node bytes, given.2.Holds ((given.1, ⟨size, node, bytes⟩) :: held))
      (a.allocate size hint) := by
  cases targets : a.targets hint with
  | error halt =>
    simp only [Allocator.allocate, tryAllocate, targets]
    exact .error (.look (snapshot_of_targets_error targets))
  | ok given =>
    obtain ⟨nodes, b⟩ := given
    obtain ⟨answer, c, calls, allocated, allocates⟩ := allocateAt_spec b size nodes
    have tried : a.tryAllocate size hint = .ok (answer, c) := by
      simp only [tryAllocate, targets, bind, Except.bind, allocated]
    simp only [Allocator.allocate, tried, bind, Except.bind]
    cases answer with
    | error error => exact .error (.refused .refl (Nat.le_refl _) tried)
    | ok new => exact .ok ⟨.granted .refl tried, (h.idle (idle_targets targets)).granted allocates⟩

/-- A request that is granted gives a block of a size that a block can have. -/
theorem Holds.of_granted {size : Nat} {hint : Option NodeId} {new : BlockId} (h : a.Holds held)
    (granted : a.tryAllocate size hint = .ok (.ok new, b)) :
    size + headerWidth ≤ maxTotal ∧
      ∃ node bytes, b.Holds ((new, ⟨size, node, bytes⟩) :: held) := by
  obtain ⟨⟨nodes, c⟩, targets, done⟩ := bind_ok granted
  obtain ⟨answer, d, calls, allocated, allocates⟩ := allocateAt_spec c size nodes
  change c.allocateAt size nodes = .ok (.ok new, b) at done
  rw [allocated] at done
  cases done
  obtain ⟨-, -, -, bounded, -, -⟩ := allocates.region
  exact ⟨bounded, (h.idle (idle_targets targets)).granted allocates⟩

/-- **A request for another size that must not be refused** gives a block with what fits, or fails. -/
theorem Holds.reallocate (h : a.Holds ((block, cell) :: rest)) (size : Nat) (hint : Option NodeId) :
    Ends (a.Fails size)
      (fun given => a.Leads given.2 ∧
        ∃ node bytes, Bytes.Fitted size cell.bytes bytes ∧
          given.2.Holds ((given.1, ⟨size, node, bytes⟩) :: rest))
      (a.reallocate (some block) size hint) := by
  cases targets : a.targets hint with
  | error halt =>
    simp only [Allocator.reallocate, tryReallocate, targets]
    exact .error (.look (snapshot_of_targets_error targets))
  | ok given =>
    obtain ⟨nodes, b⟩ := given
    have there := h.idle (idle_targets targets)
    obtain ⟨head, ⟨r, hr, hb⟩, -, -⟩ := there.live _ List.mem_cons_self
    have other : block ≠ b.arena.next := Nat.ne_of_lt (there.named _ List.mem_cons_self)
    obtain ⟨answer, c, calls, done, reallocates⟩ := reallocateAt_spec size nodes hr hb other
    have tried : a.tryReallocate (some block) size hint = .ok (answer, c) := by
      simp only [tryReallocate, targets, bind, Except.bind, done]
    simp only [Allocator.reallocate, tried, bind, Except.bind]
    cases answer with
    | error error => exact .error (.kept .refl (Nat.le_refl _) tried)
    | ok new => exact .ok ⟨.replaced .refl tried, there.replaced hr hb reallocates⟩

/-- One that halts does so because the look at the topology does, or because it is refused. -/
theorem Holds.reallocate_error {size : Nat} {hint : Option NodeId} {halt : Halt}
    (h : a.Holds ((block, cell) :: rest)) (halted : a.reallocate (some block) size hint = .error halt) :
    a.survey = .error halt ∨ halt = .exhausted size := by
  cases targets : a.targets hint with
  | error other =>
    simp only [Allocator.reallocate, tryReallocate, targets] at halted
    cases halted
    exact .inl (survey_of_targets_error targets)
  | ok given =>
    obtain ⟨nodes, b⟩ := given
    have there := h.idle (idle_targets targets)
    obtain ⟨head, ⟨r, hr, hb⟩, -, -⟩ := there.live _ List.mem_cons_self
    have other : block ≠ b.arena.next := Nat.ne_of_lt (there.named _ List.mem_cons_self)
    obtain ⟨answer, c, calls, done, -⟩ := reallocateAt_spec size nodes hr hb other
    simp only [Allocator.reallocate, tryReallocate, targets, bind, Except.bind, done] at halted
    cases answer with
    | error error =>
      cases halted
      exact .inr rfl
    | ok new => cases halted

/-- One that returns was granted, in one of the ways of `Reallocates`. -/
theorem Holds.reallocate_cases {size : Nat} {hint : Option NodeId} {new : BlockId}
    (h : a.Holds ((block, cell) :: rest)) (granted : a.reallocate (some block) size hint = .ok (new, b)) :
    ∃ head r nodes c calls, a.targets hint = .ok (nodes, c) ∧
      c.Reallocates block head r size nodes (.ok new) b calls := by
  obtain ⟨⟨answer, c⟩, tried, done⟩ := bind_ok granted
  obtain ⟨head, ⟨r, hr, hb⟩, -, -⟩ := h.live _ List.mem_cons_self
  have other : block ≠ a.arena.next := Nat.ne_of_lt (h.named _ List.mem_cons_self)
  obtain ⟨nodes, d, calls, targets, ends⟩ := tryReallocate_cases tried hr hb other
  cases answer with
  | error error => cases done
  | ok given =>
    cases done
    exact ⟨head, r, nodes, d, calls, targets, ends⟩

end Allocator

/-! ## Steps of a session that has some of the blocks -/

/-- What a step does to some of the cells it does to those, and leaves the others alone. -/
theorem Cells.Becomes.of_append {cells more later : Cells} {step : Step σ} {value : Value}
    (becomes : Becomes (cells ++ more) step value later)
    (found : ∀ name, step.target = some name → ∃ cell, cells.find? name = some cell) :
    ∃ own : Cells, later = own ++ more ∧ cells.Becomes step value own := by
  generalize whole : cells ++ more = all at becomes
  induction becomes with
  | same quiet => exact ⟨cells, whole.symm, .same quiet⟩
  | placed long => exact ⟨cells.insert _ _, by rw [← whole]; rfl, .placed long⟩
  | copied => exact ⟨cells.insert _ _, by rw [← whole]; rfl, .copied⟩
  | afresh _ ih =>
    obtain ⟨own, same, becomes⟩ := ih fun _ target => by cases target
    exact ⟨own, same, .afresh becomes⟩
  | @replaced fatal source name size told hint node cell bytes there fitted =>
    subst whole
    obtain ⟨own, here⟩ := found source rfl
    obtain rfl := Option.some.inj ((Table.find?_append here more).symm.trans there)
    refine ⟨(cells.erase source).insert name ⟨size, node, bytes⟩, ?_, .replaced here fitted⟩
    rw [Table.erase_append here more]
    rfl
  | freed =>
    subst whole
    obtain ⟨own, here⟩ := found _ rfl
    exact ⟨_, Table.erase_append here more, .freed⟩
  | written there inside =>
    subst whole
    obtain ⟨own, here⟩ := found _ rfl
    obtain rfl := Option.some.inj ((Table.find?_append here more).symm.trans there)
    exact ⟨_, Table.modify_append here _ more, .written here inside⟩

namespace Session

variable [Source σ] {s after : Session σ} {step : Step σ} {value : Value}

/-- A step does the same in a session that has more blocks. -/
theorem Performs.extend (performs : Performs s step value after) (more : Table BlockName BlockId) :
    Performs ⟨s.allocator, s.blocks ++ more⟩ step value ⟨after.allocator, after.blocks ++ more⟩ := by
  induction performs with
  | still quiet controls => exact .still quiet controls
  | refused targets refused => exact .refused targets refused
  | placed targets granted described => exact .placed targets granted described
  | copied targets granted written described => exact .copied targets granted written described
  | afresh allocates ih => exact .afresh ih
  | kept found hr hb targets refused =>
    exact .kept (Table.find?_append found more) hr hb targets refused
  | @replaced fatal source name size hint nodes a b block new head payload r calls value
      found hr hb targets granted described =>
    show Performs _ _ _ ⟨b, (s.blocks.erase source ++ more).insert name new⟩
    rw [← Table.erase_append found more]
    exact .replaced (Table.find?_append found more) hr hb targets granted described
  | @freed name block head payload found has =>
    show Performs _ _ _ ⟨_, s.blocks.erase name ++ more⟩
    rw [← Table.erase_append found more]
    exact .freed (Table.find?_append found more) has
  | written found hr hb inside => exact .written (Table.find?_append found more) hr hb inside

/-- A step about a block is about one that the session has, or about none. -/
theorem Performs.still_or_found (performs : Performs s step value after) :
    ((∀ heap : Heap, heap.next step value = heap) ∧ s.allocator.Idle after.allocator ∧
        after.blocks = s.blocks) ∨
      ∀ name, step.target = some name → ∃ block, s.blocks.find? name = some block := by
  cases performs with
  | still quiet controls => exact .inl ⟨quiet, controls.idle, rfl⟩
  | refused | placed | copied | afresh => exact .inr fun _ target => by cases target
  | kept found | replaced found | freed found | written found =>
    exact .inr fun _ target => by cases target; exact ⟨_, found⟩

/-- **The step of a session that has some of the blocks** does to them what its caller sees, and leaves the
others alone. -/
theorem performs_holds {entries : Table BlockName Holding} {others : List Holding}
    (performs : Performs s step value after) (blocks : s.blocks = entries.mapValues Prod.fst)
    (h : s.allocator.Holds (entries.map Prod.snd ++ others)) :
    ∃ later : Table BlockName Holding, after.blocks = later.mapValues Prod.fst ∧
      Cells.Becomes (entries.mapValues Prod.snd) step value (later.mapValues Prod.snd) ∧
      after.allocator.Holds (later.map Prod.snd ++ others) := by
  obtain ⟨a, table⟩ := s
  obtain rfl : table = entries.mapValues Prod.fst := blocks
  have whole : (entries ++ Allocator.nameless others).map Prod.snd = entries.map Prod.snd ++ others := by
    rw [List.map_append, Allocator.map_snd_nameless]
  rw [← whole] at h
  rcases performs.still_or_found with ⟨quiet, idle, blocks⟩ | found
  · refine ⟨entries, blocks, .same quiet, ?_⟩
    rw [← whole]
    exact h.idle idle
  have stores := h.stores
  rw [Table.mapValues_append, Table.mapValues_append] at stores
  obtain ⟨cells, becomes, done⟩ := stores.performs (performs.extend _)
  obtain ⟨own, rfl, ours⟩ := becomes.of_append fun name target => by
    obtain ⟨block, there⟩ := found name target
    rw [Table.find?_mapValues] at there ⊢
    obtain ⟨entry, there, -⟩ := Option.map_eq_some_iff.1 there
    exact ⟨entry.2, by rw [there]; rfl⟩
  -- Names are no part of the cells, so what is left of the two tables without the others agrees.
  have same := done.contents
  rw [Session.contents, Table.mapValues_append, Table.mapValues_append] at same
  obtain ⟨later, first, second⟩ :=
    Table.zip_of_mapValues (List.append_inj_left' same (by simp [Table.mapValues]))
  refine ⟨later, first, second ▸ ours, ?_⟩
  rw [first, second, ← Table.mapValues_append, ← Table.mapValues_append] at done
  have balanced : after.allocator.counters.Balanced (later ++ Allocator.nameless others).length := by
    have length := congrArg List.length first
    rw [Table.length_mapValues] at length
    rw [List.length_append, ← length]
    refine performs.balanced ?_
    have counted := h.balanced
    rw [List.length_map, List.length_append] at counted
    rw [Table.length_mapValues]
    exact counted
  have holds := Allocator.holds_of_stores done balanced
  rw [List.map_append, Allocator.map_snd_nameless] at holds
  exact holds

omit [Source σ] in
theorem sound_of_holds {a : Allocator σ} {entries : Table BlockName Holding} {others : List Holding}
    (h : a.Holds (entries.map Prod.snd ++ others)) : Sound ⟨a, entries.mapValues Prod.fst⟩ := by
  have whole : (entries ++ Allocator.nameless others).map Prod.snd = entries.map Prod.snd ++ others := by
    rw [List.map_append, Allocator.map_snd_nameless]
  rw [← whole] at h
  have sound := h.stores.toSound
  rw [Table.mapValues_append] at sound
  refine ⟨fun entry mem => sound.live entry (List.mem_append_left _ mem),
    fun entry mem => sound.named entry (List.mem_append_left _ mem), ?_⟩
  have apart := sound.apart
  rw [List.map_append] at apart
  exact (List.nodup_append.1 apart).1

omit [Source σ] in
theorem Initial.holds (made : Initial s) : s.allocator.Holds [] := by
  have stores := made.stores
  obtain ⟨blocks, counters, -⟩ := made.untouched
  obtain ⟨a, names⟩ := s
  obtain rfl : names = [] := blocks
  have balanced : a.counters.Balanced 0 := by
    rw [show a.counters = {} from counters]
    rfl
  exact @Allocator.holds_of_stores σ _ [] stores balanced

end Session

end NodeHeap
