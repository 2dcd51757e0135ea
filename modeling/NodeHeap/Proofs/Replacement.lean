import NodeHeap.Proofs.Placement

/-!
# Releasing and replacing a block

What becomes of a block that is released or gets another size.

* `Arena.released`, `release_spec` — a block is released by the call that its header asks for.
* `Reallocates`, `reallocateAt_spec` — the ways in which a request for another size ends: refused,
  resized by the source, or replaced by a new block. No request for an outstanding block halts.
* `Reallocates.replaces` — what all of them that succeed have in common: one region takes the place of
  another, is a block with the bytes that fit, and the books differ by what the two differ.
-/

namespace NodeHeap

variable {σ : Type} [Source σ]

/-! ## Release -/

/-- The call that releases a block. -/
def releaseOf (block : BlockId) (head : Header) : Call :=
  match head.node? with
  | some node => .freeOnNode node head.total block
  | none => .free head.total block

namespace Arena

/-- The arena after a block was released by what its header says. -/
def released (a : Arena σ) (block : BlockId) (head : Header) : Arena σ :=
  match head.node? with
  | some node => a.freeOnNode block head.total node
  | none => a.free block head.total

@[simp] theorem regions_released (a : Arena σ) (block : BlockId) (head : Header) :
    (a.released block head).regions = a.regions.erase block := by
  unfold released
  split <;> rfl

@[simp] theorem next_released (a : Arena σ) (block : BlockId) (head : Header) :
    (a.released block head).next = a.next := by
  unfold released
  split <;> rfl

@[simp] theorem calls_released (a : Arena σ) (block : BlockId) (head : Header) :
    (a.released block head).calls = releaseOf block head :: a.calls := by
  unfold released releaseOf
  split <;> rfl

theorem heard_released (a : Arena σ) (block : BlockId) (head : Header) :
    a.Heard [releaseOf block head] (a.released block head) := by
  unfold released releaseOf
  split
  · exact ⟨rfl, rfl⟩
  · exact ⟨rfl, rfl⟩

end Arena

namespace Allocator

variable {a : Allocator σ} {block : BlockId} {head : Header} {payload : Bytes}

/-- **A block is released as its header says**, and taken off the books. -/
theorem release_spec (h : a.arena.HasBlock block head payload) :
    a.release block =
      .ok { a with
        arena := a.arena.released block head
        usage := a.usage.sub head.total
        counters := a.counters.release } := by
  simp only [release, h.header_eq]
  rfl

/-! ## Another size -/

omit [Source σ] in
/-- Usage that is corrected by a difference is usage with one size put on and the other taken off. -/
theorem usage_difference (usage : Usage) (old new : Nat) :
    (if old ≤ new then usage.add (new - old) else usage.sub (old - new)) =
      (usage.add new).sub old := by
  split
  · rename_i h
    simp only [Usage.add, Usage.sub, UInt64.ofNat_sub h]
    congr 1
    grind
  · rename_i h
    simp only [Usage.add, Usage.sub, UInt64.ofNat_sub (Nat.le_of_not_le h)]
    congr 1
    grind

/-- The call that asks a source to resize a block itself. -/
def resizeOf (block : BlockId) (head : Header) (size : Nat) (granted : Bool) : Call :=
  .resize block head.total (size + headerWidth) granted

/-- A block resized by the source, with its new header. -/
def resizedBlock (r : Region) (size : Nat) (found : Nat → UInt8) : Region :=
  (r.resized (size + headerWidth) found).overwrite 0 (Header.bytes ⟨size, .vacant⟩)

/-- New memory that took over what fits of a block, header included, with its new header. -/
def exchangedBlock (r : Region) (head : Header) (size : Nat) (found : Nat → UInt8) : Region :=
  ((Region.fresh none (size + headerWidth) found).copyFrom r 0
    (min head.total (size + headerWidth))).overwrite 0 (Header.bytes ⟨size, .vacant⟩)

/-- A new block that took over what fits of another one's payload. -/
def movedBlock (r : Region) (head : Header) (size : Nat) (origin : Option NodeId) (found : Nat → UInt8) :
    Region :=
  (Region.newBlock size origin found).copyFrom r headerWidth (min head.size size)

/-- The allocator after a block was replaced: the arena as it then is, and the books corrected. -/
def replacing (a : Allocator σ) (head : Header) (size : Nat) (arena : Arena σ)
    (counters : Counters) (events : List Event) : Allocator σ :=
  { a with
    arena
    usage := (a.usage.add (size + headerWidth)).sub head.total
    counters
    events }

/-- How a request for another size of a block ends, with the calls made. The source resizes a block
itself only if it was placed anywhere and there are no nodes to try. -/
inductive Reallocates (a : Allocator σ) (block : BlockId) (head : Header) (r : Region) (size : Nat)
    (nodes : List NodeId) : Except AllocError BlockId → Allocator σ → List Call → Prop
  | tooLarge (large : maxTotal < size + headerWidth) :
    Reallocates a block head r size nodes (.error (.outOfMemory size)) a []
  /-- The source did not resize the block, or had no memory to do it with. -/
  | notResized {call : Call} {source : σ} (bounded : size + headerWidth ≤ maxTotal)
    (still : nodes = [] ∧ head.node? = none)
    (heard : a.arena.Heard [call] (a.arena.entered source [call] none))
    (asks : call = resizeOf block head size false ∨ call = .alloc (size + headerWidth) none) :
    Reallocates a block head r size nodes (.error (.outOfMemory size))
      { a with
        arena := a.arena.entered source [call] none
        counters := a.counters.reallocation }
      [call]
  /-- The source resized the block. -/
  | resized {source : σ} {arena : Arena σ} (bounded : size + headerWidth ≤ maxTotal)
    (still : nodes = [] ∧ head.node? = none)
    (kept : arena = { a.arena with
      source
      regions := a.arena.regions.insert block (resizedBlock r size (Source.found source block))
      calls := resizeOf block head size true :: a.arena.calls })
    (heard : a.arena.Heard [resizeOf block head size true] arena) :
    Reallocates a block head r size nodes (.ok block)
      (a.replacing head size arena a.counters.reallocation a.events)
      [resizeOf block head size true]
  /-- The source has no way to resize: new memory took over what fits of the old. -/
  | exchanged {source : σ} {arena : Arena σ} {call : Call}
    (bounded : size + headerWidth ≤ maxTotal) (still : nodes = [] ∧ head.node? = none)
    (asks : call = .alloc (size + headerWidth) (some a.arena.next))
    (placed : arena = a.arena.entered source [call]
      (some (exchangedBlock r head size (Source.found source a.arena.next))))
    (heard : a.arena.Heard [call] arena) :
    Reallocates a block head r size nodes (.ok a.arena.next)
      (a.replacing head size (arena.released block head) a.counters.reallocation a.events)
      [call, releaseOf block head]
  | notMoved {b : Allocator σ} {error : AllocError} {calls : List Call}
    (bounded : size + headerWidth ≤ maxTotal) (apart : ¬(nodes = [] ∧ head.node? = none))
    (refused : Allocates { a with counters := a.counters.reallocation } size nodes (.error error) b
      calls) :
    Reallocates a block head r size nodes (.error error) b calls
  /-- A new block took over what fits of the payload. -/
  | moved {calls : List Call} {origin : Option NodeId} {source : σ} {arena : Arena σ} (events : List Event) (bounded : size + headerWidth ≤ maxTotal)
    (apart : ¬(nodes = [] ∧ head.node? = none))
    (asks : Asks a.arena.next (size + headerWidth) nodes calls (some origin))
    (placed : arena = a.arena.entered source calls
      (some (movedBlock r head size origin (Source.found source a.arena.next))))
    (heard : a.arena.Heard calls arena) :
    Reallocates a block head r size nodes (.ok a.arena.next)
      (a.replacing head size (arena.released block head)
        (calls.foldl Counters.count a.counters.reallocation).release events)
      (calls ++ [releaseOf block head])

/-- A source with no way to resize is asked for new memory, which takes over what fits. -/
theorem resize_of_none {r : Region} {source : σ} {old new : Nat} {arena : Arena σ}
    (unable : Source.resize? (σ := σ) = none) (hr : arena.regions[block]? = some r)
    (other : block ≠ arena.next) (sized : old ≤ r.size)
    (asked : Source.alloc arena.source arena.next new = (true, source)) :
    arena.resize block old new =
      .ok (some arena.next,
        (arena.entered source [.alloc new (some arena.next)]
          (some ((Region.fresh none new (Source.found source arena.next)).copyFrom r 0
            (min old new)))).free block old) := by
  have kept : (arena.regions.insert arena.next
      (Region.fresh none new (Source.found source arena.next)))[block]? = some r := by
    rw [Regions.getElem?_insert_of_ne _ _ _ other, hr]
  have entered : (arena.regions.insert arena.next
      (Region.fresh none new (Source.found source arena.next)))[arena.next]? =
      some (Region.fresh none new (Source.found source arena.next)) := by
    simp
  have copied := Arena.copy_of_covers 0 (min old new)
    (a := arena.entered source [.alloc new (some arena.next)]
      (some (.fresh none new (Source.found source arena.next))))
    kept entered (by omega) (show 0 + min old new ≤ new by omega)
  simp only [Arena.resize, unable, Arena.alloc, asked]
  simp only [Arena.entered, List.reverse_singleton, List.singleton_append] at copied
  simp only [Arena.enter, copied, bind, Except.bind, Regions.insert_insert]
  rfl

section InPlace

variable {r : Region} {size : Nat} {nodes : List NodeId}

/-- A source that resizes memory answers for the block, which stays where it is. -/
theorem resizeInPlace_of_some {ask : σ → RegionId → Nat → Nat → Bool × σ}
    (ask? : Source.resize? (σ := σ) = some ask) (hr : a.arena.regions[block]? = some r)
    (bounded : size + headerWidth ≤ maxTotal) (still : nodes = [] ∧ head.node? = none) :
    ∃ answer b calls,
      { a with counters := a.counters.reallocation }.resizeInPlace block head size
          (size + headerWidth) = .ok (answer, b) ∧
        Reallocates a block head r size nodes answer b calls := by
  obtain ⟨yes, source, asked⟩ :
      ∃ yes source, ask a.arena.source block head.total (size + headerWidth) = (yes, source) :=
    ⟨_, _, rfl⟩
  have hear : Source.hear (a.arena.source, a.arena.next) (resizeOf block head size yes) =
      some (source, a.arena.next) := by
    simp [Source.hear, resizeOf, ask?, asked]
  have heard : Source.hearAll (a.arena.source, a.arena.next) [resizeOf block head size yes] =
      some (source, a.arena.next) := by
    simp only [Source.hearAll, hear, Option.bind_some]
  cases yes with
  | true =>
    refine ⟨_, _, _, ?_, .resized bounded still rfl ⟨rfl, heard⟩⟩
    have inside : (a.arena.regions.insert block
        (r.resized (size + headerWidth) (Source.found source block)))[block]? =
        some (r.resized (size + headerWidth) (Source.found source block)) := by
      simp
    have written := Arena.setHeader_of_le
      (a := { a.arena with
        source
        regions := a.arena.regions.insert block
          (r.resized (size + headerWidth) (Source.found source block))
        calls := resizeOf block head size true :: a.arena.calls })
      inside (Nat.le_add_left headerWidth size) ⟨size, .vacant⟩
    simp only [resizeInPlace, Arena.resize, ask?, asked, Arena.record, Region.packed_eq,
      Regions.modify_eq_insert hr, bind, Except.bind]
    rw [show Call.resize block head.total (size + headerWidth) true =
      resizeOf block head size true from rfl, written]
    simp only [usage_difference, Regions.insert_insert]
    rfl
  | false =>
    refine ⟨_, _, _, ?_, .notResized bounded still ⟨rfl, heard⟩ (.inl rfl)⟩
    simp only [resizeInPlace, Arena.resize, ask?, asked, Arena.record, bind, Except.bind]
    rfl

/-- A source that does not is asked for another region. -/
theorem resizeInPlace_of_none (ask? : Source.resize? (σ := σ) = none)
    (hr : a.arena.regions[block]? = some r) (hb : r.IsBlock head payload)
    (other : block ≠ a.arena.next) (bounded : size + headerWidth ≤ maxTotal)
    (still : nodes = [] ∧ head.node? = none) :
    ∃ answer b calls,
      { a with counters := a.counters.reallocation }.resizeInPlace block head size
          (size + headerWidth) = .ok (answer, b) ∧
        Reallocates a block head r size nodes answer b calls := by
  obtain ⟨yes, source, asked⟩ :
      ∃ yes source, Source.alloc a.arena.source a.arena.next (size + headerWidth) = (yes, source) :=
    ⟨_, _, rfl⟩
  cases yes with
  | true =>
    refine ⟨_, _, _, ?_, .exchanged bounded still rfl rfl ⟨rfl, Source.hearAll_granted asked⟩⟩
    have moved := resize_of_none ask? hr other
      (Nat.le_of_eq hb.sized.symm) asked
    have inside : ((a.arena.entered source [.alloc (size + headerWidth) (some a.arena.next)]
        (some ((Region.fresh none (size + headerWidth) (Source.found source a.arena.next)).copyFrom r 0
          (min head.total (size + headerWidth))))).free block head.total).regions[a.arena.next]? =
        some ((Region.fresh none (size + headerWidth) (Source.found source a.arena.next)).copyFrom r 0
          (min head.total (size + headerWidth))) := by
      simp [Arena.free, Arena.record, Arena.entered, other]
    have written := Arena.setHeader_of_le inside
      (Nat.le_add_left headerWidth size) ⟨size, .vacant⟩
    simp only [resizeInPlace, moved, bind, Except.bind, written, usage_difference]
    -- The old region went before the header was written, the other way round than in `released`.
    simp only [Arena.free, Arena.record, Arena.entered, Arena.released, still.2, replacing,
      exchangedBlock, Regions.erase_insert_of_ne _ _ _ other, Regions.insert_insert]
    rfl
  | false =>
    refine ⟨_, _, _, ?_, .notResized bounded still ⟨rfl, Source.hearAll_refused asked⟩ (.inr rfl)⟩
    simp only [resizeInPlace, Arena.resize, ask?, Arena.alloc, asked, Arena.record, bind,
      Except.bind]
    rfl

/-- A block that was placed anywhere is resized by the source, if that is what happens at all. -/
theorem resizeInPlace_spec (hr : a.arena.regions[block]? = some r) (hb : r.IsBlock head payload)
    (other : block ≠ a.arena.next) (bounded : size + headerWidth ≤ maxTotal)
    (still : nodes = [] ∧ head.node? = none) :
    ∃ answer b calls,
      { a with counters := a.counters.reallocation }.resizeInPlace block head size
          (size + headerWidth) = .ok (answer, b) ∧
        Reallocates a block head r size nodes answer b calls := by
  cases ask? : Source.resize? (σ := σ) with
  | some ask => exact resizeInPlace_of_some ask? hr bounded still
  | none => exact resizeInPlace_of_none ask? hr hb other bounded still

end InPlace

omit [Source σ] in
/-- A new block takes over what fits of another one's payload, and the other one is still there. -/
theorem copy_of_granted {r : Region} (hr : a.arena.regions[block]? = some r) (hb : r.IsBlock head payload)
    (other : block ≠ a.arena.next) (size : Nat) (calls : List Call) (origin : Option NodeId)
    (source : σ) (found : Nat → UInt8) :
    (a.arena.entered source calls (some (.newBlock size origin found))).copy block a.arena.next headerWidth
          (min head.size size) =
        .ok (a.arena.entered source calls (some (movedBlock r head size origin found))) ∧
      (a.arena.entered source calls (some (movedBlock r head size origin found))).HasBlock block head payload := by
  have sized := hb.sized
  unfold Header.total at sized
  have kept (s : Region) : (a.arena.regions.insert a.arena.next s)[block]? = some r := by
    rw [Regions.getElem?_insert_of_ne _ _ _ other, hr]
  have new : (a.arena.regions.insert a.arena.next (.newBlock size origin found))[a.arena.next]? =
      some (.newBlock size origin found) := by
    simp
  have copied := Arena.copy_of_covers headerWidth (min head.size size)
    (a := a.arena.entered source calls (some (.newBlock size origin found)))
    (kept _) new (by omega) (show _ ≤ size + headerWidth by omega)
  have arena : { a.arena.entered source calls (some (.newBlock size origin found)) with
      regions := (a.arena.entered source calls (some (.newBlock size origin found))).regions.insert
        a.arena.next ((Region.newBlock size origin found).copyFrom r headerWidth (min head.size size)) } =
      a.arena.entered source calls (some (movedBlock r head size origin found)) := by
    simp only [Arena.entered, Regions.insert_insert]
    rfl
  rw [arena] at copied
  exact ⟨copied, r, kept _, hb⟩

/-- Where a new block is granted, it takes over what fits of the payload, and the old block is released. -/
theorem moveBlock_of_granted {r : Region} {size : Nat} {nodes : List NodeId} {calls : List Call}
    {origin : Option NodeId} {source : σ} {found : Nat → UInt8} {events : List Event}
    (hr : a.arena.regions[block]? = some r) (hb : r.IsBlock head payload)
    (other : block ≠ a.arena.next)
    (granted : a.allocateAt size nodes =
      .ok (.ok a.arena.next, { a.entered source events calls calls (some (.newBlock size origin found)) with
        usage := a.usage.add (size + headerWidth) })) :
    a.moveBlock block head size nodes =
      .ok (.ok a.arena.next,
        a.replacing head size
          ((a.arena.entered source calls (some (movedBlock r head size origin found))).released block head)
          (calls.foldl Counters.count a.counters).release events) := by
  obtain ⟨copied, has⟩ := copy_of_granted hr hb other size calls origin source found
  simp only [moveBlock, granted, bind, Except.bind, entered, copied]
  rw [release_spec has]
  rfl

/-- A block is replaced by a new one, if there is memory for it. -/
theorem moveBlock_spec {r : Region} {size : Nat} {nodes : List NodeId}
    (hr : a.arena.regions[block]? = some r) (hb : r.IsBlock head payload)
    (other : block ≠ a.arena.next) (bounded : size + headerWidth ≤ maxTotal)
    (apart : ¬(nodes = [] ∧ head.node? = none)) :
    ∃ answer b calls,
      { a with counters := a.counters.reallocation }.moveBlock block head size nodes =
          .ok (answer, b) ∧
        Reallocates a block head r size nodes answer b calls := by
  obtain ⟨answer, b, calls, allocated, allocates⟩ :=
    allocateAt_spec { a with counters := a.counters.reallocation } size nodes
  cases allocates with
  | tooLarge large => exact absurd bounded (Nat.not_le.2 large)
  | refused events bounded asks heard =>
    refine ⟨_, _, _, ?_, .notMoved bounded apart (.refused events bounded asks heard)⟩
    simp only [moveBlock, allocated, bind, Except.bind]
    rfl
  | granted events bounded asks heard =>
    exact ⟨_, _, _, moveBlock_of_granted hr hb other allocated,
      .moved events bounded apart asks rfl ⟨heard.recorded, heard.answered⟩⟩

/-- **A request for another size of an outstanding block is answered**, in one of the ways of
`Reallocates`. -/
theorem reallocateAt_spec {r : Region} (size : Nat) (nodes : List NodeId)
    (hr : a.arena.regions[block]? = some r) (hb : r.IsBlock head payload)
    (other : block ≠ a.arena.next) :
    ∃ answer b calls, a.reallocateAt (some block) size nodes = .ok (answer, b) ∧
      Reallocates a block head r size nodes answer b calls := by
  by_cases bounded : size + headerWidth ≤ maxTotal
  · have total : totalFor? size = some (size + headerWidth) := totalFor?_eq_some.2 ⟨bounded, rfl⟩
    have header := Arena.HasBlock.header_eq ⟨r, hr, hb⟩
    by_cases still : nodes = [] ∧ head.node? = none
    · obtain ⟨answer, b, calls, done, ends⟩ := resizeInPlace_spec hr hb other bounded still
      refine ⟨answer, b, calls, ?_, ends⟩
      simp only [reallocateAt, total, header, bind, Except.bind, still]
      exact done
    · obtain ⟨answer, b, calls, done, ends⟩ := moveBlock_spec hr hb other bounded still
      refine ⟨answer, b, calls, ?_, ends⟩
      simp only [reallocateAt, total, header, bind, Except.bind]
      rw [if_neg (by simpa using still)]
      exact done
  · refine ⟨_, _, _, ?_, .tooLarge (Nat.lt_of_not_le bounded)⟩
    simp only [reallocateAt, totalFor?_eq_none.2 (Nat.lt_of_not_le bounded)]

/-! ## What requests have in common -/

omit [Source σ] in
/-- The blocks and the books are as they were. -/
structure Spared (a b : Allocator σ) : Prop where
  regions : b.arena.regions = a.arena.regions
  next : b.arena.next = a.arena.next
  used : b.usage.used = a.usage.used

theorem Allocates.spared {size : Nat} {nodes : List NodeId} {error : AllocError} {b : Allocator σ}
    {calls : List Call} (h : Allocates a size nodes (.error error) b calls) : a.Spared b := by
  cases h with
  | tooLarge => exact ⟨rfl, rfl, rfl⟩
  | refused => exact ⟨rfl, rfl, rfl⟩

/-- A refused request for another size changes no block. -/
theorem Reallocates.spared {r : Region} {size : Nat} {nodes : List NodeId} {error : AllocError}
    {b : Allocator σ} {calls : List Call}
    (h : Reallocates a block head r size nodes (.error error) b calls) : a.Spared b := by
  cases h with
  | tooLarge => exact ⟨rfl, rfl, rfl⟩
  | notResized => exact ⟨rfl, rfl, rfl⟩
  | notMoved _ _ refused => exact ⟨refused.spared.regions, refused.spared.next, refused.spared.used⟩

theorem Reallocates.heard {r : Region} {size : Nat} {nodes : List NodeId}
    {answer : Except AllocError BlockId} {b : Allocator σ} {calls : List Call}
    (h : Reallocates a block head r size nodes answer b calls) : a.arena.Heard calls b.arena := by
  cases h with
  | tooLarge => exact ⟨rfl, rfl⟩
  | notResized bounded still heard asks => exact heard
  | resized bounded still kept heard => exact heard
  | exchanged bounded still asks placed heard => exact heard.trans (Arena.heard_released _ _ _)
  | notMoved bounded apart refused =>
    have heard := refused.heard
    exact ⟨heard.recorded, heard.answered⟩
  | moved events bounded apart asks placed heard => exact heard.trans (Arena.heard_released _ _ _)

/-- Only sizes that a block can have are granted. -/
theorem Reallocates.bounded {r : Region} {size : Nat} {nodes : List NodeId} {new : BlockId}
    {b : Allocator σ} {calls : List Call}
    (h : a.Reallocates block head r size nodes (.ok new) b calls) : size + headerWidth ≤ maxTotal := by
  cases h with
  | resized bounded => exact bounded
  | exchanged bounded => exact bounded
  | moved events bounded => exact bounded

theorem Reallocates.agrees {r : Region} {size : Nat} {nodes : List NodeId}
    {answer : Except AllocError BlockId} {b : Allocator σ} {calls : List Call}
    (h : Reallocates a block head r size nodes answer b calls) : a.Agrees b := by
  cases h with
  | notMoved bounded apart refused =>
    have agrees := refused.agrees
    exact ⟨agrees.topology, agrees.snapshot, agrees.policy, agrees.defaultSlot, agrees.localDefault⟩
  | tooLarge => exact ⟨rfl, rfl, rfl, rfl, rfl⟩
  | notResized => exact ⟨rfl, rfl, rfl, rfl, rfl⟩
  | resized => exact ⟨rfl, rfl, rfl, rfl, rfl⟩
  | exchanged => exact ⟨rfl, rfl, rfl, rfl, rfl⟩
  | moved => exact ⟨rfl, rfl, rfl, rfl, rfl⟩

omit [Source σ] in
/-- One block took the place of another: it has what fits of the payload, and the books differ by what
the two differ. The source resized the block, or granted a new one and then took the old one back. -/
structure Replaces (a : Allocator σ) (block : BlockId) (head : Header) (payload : Bytes) (size : Nat)
    (nodes : List NodeId) (origin : Option NodeId) (new : BlockId) (b : Allocator σ)
    (calls : List Call) : Prop where
  region : ∃ r fitting, b.arena.regions = (a.arena.regions.erase block).insert new r ∧
    r.IsBlock ⟨size, (NodeSlot.ofOption origin).stored⟩ fitting ∧ Bytes.Fitted size payload fitting
  name : (new = block ∧ b.arena.next = a.arena.next ∧ origin = none ∧ head.node? = none ∧
      calls = [resizeOf block head size true]) ∨
    (new = a.arena.next ∧ b.arena.next = a.arena.next + 1 ∧
      ∃ asked, Asks a.arena.next (size + headerWidth) nodes asked (some origin) ∧
        calls = asked ++ [releaseOf block head])
  used : b.usage = (a.usage.add (size + headerWidth)).sub head.total

/-- The payload of a moved block. -/
theorem isBlock_movedBlock {r : Region} {size : Nat} (hb : r.IsBlock head payload)
    (bounded : size + headerWidth ≤ maxTotal) (origin : Option NodeId) (found : Nat → UInt8) :
    ∃ fitting, (movedBlock r head size origin found).IsBlock ⟨size, (NodeSlot.ofOption origin).stored⟩ fitting ∧
      Bytes.Fitted size payload fitting := by
  have copied := (Region.isBlock_newBlock bounded origin found).copyFrom hb
    (Nat.min_le_right head.size size) (Nat.min_le_left head.size size)
  refine ⟨_, copied, ?_⟩
  rw [← hb.length_payload]
  exact Bytes.fitted_patch (Region.length_foundPayload size found)

/-- **Every way in which a block gets another size replaces it by one with the bytes that fit**: resized
by the source, exchanged, or moved. -/
theorem Reallocates.replaces {r : Region} {size : Nat} {nodes : List NodeId} {new : BlockId}
    {b : Allocator σ} {calls : List Call}
    (h : Reallocates a block head r size nodes (.ok new) b calls) (hb : r.IsBlock head payload)
    (other : block ≠ a.arena.next) :
    ∃ origin, (∀ node, origin = some node → node ∈ nodes) ∧
      Replaces a block head payload size nodes origin new b calls := by
  cases h with
  | @resized source arena bounded still kept heard =>
    refine ⟨none, by simp, ⟨resizedBlock r size (Source.found source block), _, ?_,
      Region.isBlock_overwrite_header _ _ rfl bounded, hb.slice_resized size _⟩,
      .inl ⟨rfl, ?_, rfl, still.2, rfl⟩, rfl⟩
    · simp only [replacing, kept, Regions.insert_erase_self]
    · simp only [replacing, kept]
  | @exchanged source arena call bounded still asks placed heard =>
    refine ⟨none, by simp, ⟨exchangedBlock r head size (Source.found source a.arena.next), _, ?_,
      Region.isBlock_overwrite_header _ _ rfl bounded, hb.slice_taken_over none size _⟩,
      .inr ⟨rfl, ?_, [_], ?_, rfl⟩, rfl⟩
    · simp only [replacing, placed, Arena.regions_released, Arena.entered]
      exact Regions.erase_insert_of_ne _ _ _ other
    · simp only [replacing, placed, Arena.next_released, Arena.entered]
    · rw [asks, still.1]
      exact .anywhere
  | @moved calls origin source arena events bounded apart asks placed heard =>
    obtain ⟨fitting, moved, fitted⟩ :=
      isBlock_movedBlock hb bounded origin (Source.found source a.arena.next)
    refine ⟨origin, ?_, ⟨_, _, ?_, moved, fitted⟩, .inr ⟨rfl, ?_, calls, asks, rfl⟩, rfl⟩
    · rintro node rfl
      exact asks.mem
    · simp only [replacing, placed, Arena.regions_released, Arena.entered]
      exact Regions.erase_insert_of_ne _ _ _ other
    · simp only [replacing, placed, Arena.next_released, Arena.entered]

end Allocator

end NodeHeap
