import NodeHeap.Proofs.Holdings
import NodeHeap.Proofs.Strings

/-!
# Buffers and their blocks

A buffer holds a byte string in a block: the content, a zero byte right after it, and room.

* `Filled` — a buffer with the cell that it owns and the byte string that it holds.
* `Filled.Edits`, `Becomes` — what is done to a buffer in place, and otherwise.
* `Filled.edits_trim` and the like — what the operations of a buffer do to its byte string. None of them touches
  memory that is not its own: those in place do not halt, and the others halt for one of the reasons of
  `Buffer.Stops`, for want of no more than they have to hold.
-/

namespace NodeHeap

variable {σ : Type}

/-- A buffer with its cell and its byte string. The cell has room for the capacity and a zero byte, and begins
with the byte string and a zero byte. -/
structure Filled where
  buffer : Buffer
  cell : Cell
  content : Bytes
  measured : content.length = buffer.length
  sized : cell.size = buffer.capacity + 1
  terminated : cell.bytes.take (buffer.length + 1) = content ++ [0]

/-- Why the operation of a buffer halts that has `demand` bytes to hold: a request for memory fails, or what is
asked for is no word. -/
inductive Buffer.Stops [Source σ] (a : Allocator σ) (demand : Nat) : Halt → Prop
  | fails {halt : Halt} (fails : a.Fails (demand * 2 + 1) halt) : Stops a demand halt
  | capacity (large : wordLimit ≤ demand * 2) : Stops a demand .capacityOverflow
  | sum (large : wordLimit ≤ demand + 1) : Stops a demand .sumOverflow

theorem Buffer.Stops.after [Source σ] {a b : Allocator σ} {demand more : Nat} {halt : Halt}
    (leads : a.Leads b) (le : demand ≤ more) (stops : Buffer.Stops b demand halt) :
    Buffer.Stops a more halt := by
  cases stops with
  | fails fails => exact .fails (fails.after leads (by omega))
  | capacity large => exact .capacity (by omega)
  | sum large => exact .sum (by omega)

theorem Buffer.Stops.badAccess [Source σ] {a : Allocator σ} {demand : Nat}
    (stops : Buffer.Stops a demand .badAccess) : a.topology.callerNode = .error .badAccess := by
  cases stops with
  | fails fails => exact fails.badAccess

/-- What can be read of a buffer: the content, and a zero byte right after it. -/
structure Buffer.Shows (b : Buffer) (a : Allocator σ) (content : Bytes) : Prop where
  bytes : b.bytes a = .ok content
  terminated : b.bytesWithNul a = .ok (content ++ [0])

namespace Filled

variable {f : Filled} {a b : Allocator σ} {held rest : List Holding}

def holding (f : Filled) : Holding := (f.buffer.block, f.cell)

theorem take_content (f : Filled) {count : Nat} (h : count ≤ f.buffer.length) :
    f.cell.bytes.take count = f.content.take count := by
  have front := congrArg (List.take count) f.terminated
  rw [List.take_take, Nat.min_eq_left (Nat.le_succ_of_le h),
    List.take_append_of_le_length (f.measured ▸ h)] at front
  exact front

theorem part_content (f : Filled) {first count : Nat} (h : first + count ≤ f.buffer.length) :
    (f.cell.bytes.drop first).take count = (f.content.drop first).take count := by
  rw [List.take_drop, List.take_drop, f.take_content h]

theorem length_le_capacity (f : Filled) : f.buffer.length ≤ f.buffer.capacity := Nat.le_add_right _ _

/-! ## What is told of a buffer -/

theorem bytes_eq (h : a.Holds held) (mem : f.holding ∈ held) : f.buffer.bytes a = .ok f.content := by
  have sized := f.sized
  have capacity := f.length_le_capacity
  rw [Buffer.bytes, h.read mem (by omega), List.drop_zero, f.take_content (Nat.le_refl _), ← f.measured,
    List.take_length]

theorem bytesWithNul_eq (h : a.Holds held) (mem : f.holding ∈ held) :
    f.buffer.bytesWithNul a = .ok (f.content ++ [0]) := by
  have sized := f.sized
  have capacity := f.length_le_capacity
  rw [Buffer.bytesWithNul, h.read mem (by omega), List.drop_zero, f.terminated]

theorem shows (h : a.Holds held) (mem : f.holding ∈ held) : f.buffer.Shows a f.content :=
  ⟨bytes_eq h mem, bytesWithNul_eq h mem⟩

theorem state_eq (h : a.Holds held) (mem : f.holding ∈ held) :
    f.buffer.state a = .ok (Strings.seen f.buffer.avail f.content) := by
  simp only [Buffer.state, bytes_eq h mem, bytesWithNul_eq h mem, bind, Except.bind, Strings.seen]
  simp [f.measured, pure, Except.pure]

theorem display_eq (h : a.Holds held) (mem : f.holding ∈ held) :
    f.buffer.display a = .ok (Text.Utf8.lossy f.content) := by
  simp only [Buffer.display, bytes_eq h mem]
  rfl

theorem describe_eq (h : a.Holds held) (mem : f.holding ∈ held) :
    f.buffer.describe a = .ok (Strings.described f.buffer.avail f.content) := by
  unfold Buffer.describe Strings.described
  simp only [display_eq h mem]
  rw [f.measured]
  rfl

/-! ## Edits in place -/

/-- A buffer was edited in place: it has the content, and its block, its node and its capacity stayed, and so
did all that is at the allocator besides. -/
structure Edited (f : Filled) (a : Allocator σ) (rest : List Holding) (content : Bytes) (g : Filled)
    (b : Allocator σ) : Prop where
  content : g.content = content
  block : g.buffer.block = f.buffer.block
  node : g.cell.node = f.cell.node
  capacity : g.buffer.capacity = f.buffer.capacity
  rewritten : ∃ r, b = a.rewritten f.buffer.block r
  writes : a.Writes f.buffer.block b
  holds : b.Holds (g.holding :: rest)

/-- What is done edits a buffer in place. -/
def Edits (f : Filled) (a : Allocator σ) (rest : List Holding) (content : Bytes)
    (done : Except Halt (Buffer × Allocator σ)) : Prop :=
  ∃ g b, done = .ok (g.buffer, b) ∧ f.Edited a rest content g b

/-- What an edit comes to can be read. -/
theorem Edits.shows {content : Bytes} {done : Except Halt (Buffer × Allocator σ)}
    (edits : f.Edits a rest content done) :
    ∃ c later, done = .ok (c, later) ∧ c.Shows later content ∧ c.block = f.buffer.block ∧
      c.length + c.avail = f.buffer.length + f.buffer.avail := by
  obtain ⟨g, b, rfl, edited⟩ := edits
  exact ⟨_, _, rfl, edited.content ▸ Filled.shows edited.holds List.mem_cons_self, edited.block,
    edited.capacity⟩

/-- A buffer that is left alone is edited. -/
theorem edits_same (h : a.Holds (f.holding :: rest)) (g : Filled) (block : g.buffer.block = f.buffer.block)
    (cell : g.cell = f.cell) :
    f.Edits a rest g.content (.ok (g.buffer, a)) := by
  obtain ⟨head, ⟨r, hr, -⟩, -⟩ := h.live _ List.mem_cons_self
  have kept : a.arena.regions.insert f.buffer.block r = a.arena.regions := Regions.insert_self hr
  have same : a.rewritten f.buffer.block r = a := by
    unfold Allocator.rewritten
    rw [kept]
  have capacity : g.buffer.capacity = f.buffer.capacity := by
    have sized := f.sized
    have sized' := g.sized
    rw [cell] at sized'
    omega
  have holding : g.holding = f.holding := by
    rw [Filled.holding, block, cell]
    rfl
  exact ⟨g, a, rfl, rfl, block, congrArg Cell.node cell, capacity, ⟨r, same.symm⟩, .refl, holding ▸ h⟩

/-- Bytes are put into the block of a buffer. -/
theorem put_eq {b : Buffer} {cell : Cell} (h : a.Holds ((b.block, cell) :: rest)) {start : Nat}
    {bytes : Bytes} (inside : start + bytes.length ≤ cell.size) :
    ∃ r, b.put a start bytes = .ok (a.rewritten b.block r) ∧ a.Writes b.block (a.rewritten b.block r) ∧
      (a.rewritten b.block r).Holds
        ((b.block, { cell with bytes := Bytes.patch start bytes cell.bytes }) :: rest) := by
  obtain ⟨r, wrote, writes, holds⟩ := h.write inside
  refine ⟨r, ?_, writes, holds⟩
  simp only [Buffer.put, wrote]
  rfl

/-- Bytes and a zero byte after them are put into a block: they follow what stood in front of them, whatever
stood in their place. -/
theorem put_terminated {b : Buffer} {cell : Cell} (h : a.Holds ((b.block, cell) :: rest)) {start : Nat}
    {bytes : Bytes} (inside : start + bytes.length < cell.size) :
    ∃ r s written, b.put a start bytes = .ok (a.rewritten b.block r) ∧
      b.put (a.rewritten b.block r) (start + bytes.length) [0] = .ok (a.rewritten b.block s) ∧
      written.take (start + bytes.length + 1) = cell.bytes.take start ++ bytes ++ [0] ∧
      a.Writes b.block (a.rewritten b.block s) ∧
      (a.rewritten b.block s).Holds ((b.block, { cell with bytes := written }) :: rest) := by
  have long := h.length_bytes List.mem_cons_self
  obtain ⟨r, wrote, writes, between⟩ := put_eq h (show start + bytes.length ≤ cell.size by omega)
  obtain ⟨s, closed, closes, holds⟩ := put_eq between
    (show start + bytes.length + [(0 : UInt8)].length ≤ cell.size by
      rw [List.length_singleton]
      omega)
  have both := writes.trans closes
  rw [Allocator.rewritten_rewritten] at closed both holds
  have length_patch : (Bytes.patch start bytes cell.bytes).length = cell.bytes.length :=
    Bytes.length_patch (by omega)
  refine ⟨r, s, _, wrote, closed, ?_, both, holds⟩
  simp only
  rw [show start + bytes.length + 1 = start + bytes.length + [(0 : UInt8)].length from rfl,
    Bytes.take_patch (by omega), Bytes.take_patch (by omega)]

theorem length_cell (h : a.Holds (f.holding :: rest)) : f.cell.bytes.length = f.buffer.capacity + 1 :=
  (h.length_bytes List.mem_cons_self).trans f.sized

theorem bounded (h : a.Holds (f.holding :: rest)) :
    f.buffer.length + f.buffer.avail + 1 + headerWidth ≤ maxTotal := by
  have sized : f.cell.size = f.buffer.length + f.buffer.avail + 1 := f.sized
  rw [← sized]
  exact h.bounded List.mem_cons_self

/-- **Bytes written from inside of the content on**, and a zero byte after them, are what the content then ends
with. -/
theorem edits_end (h : a.Holds (f.holding :: rest)) {start : Nat} {bytes : Bytes}
    (front : start ≤ f.buffer.length) (room : start + bytes.length ≤ f.buffer.capacity) :
    f.Edits a rest (f.content.take start ++ bytes) (do
      let a ← f.buffer.put a start bytes
      f.buffer.setLength a (start + bytes.length)) := by
  have sized := f.sized
  obtain ⟨r, s, written, wrote, closed, front_eq, writes, holds⟩ :=
    put_terminated h (show start + bytes.length < f.cell.size by omega)
  rw [f.take_content front] at front_eq
  refine ⟨⟨{ f.buffer with
      length := start + bytes.length
      avail := f.buffer.capacity - (start + bytes.length) }, { f.cell with bytes := written },
      f.content.take start ++ bytes, ?_, ?_, front_eq⟩,
    a.rewritten f.buffer.block s, ?_, rfl, rfl, rfl, ?_, ⟨s, rfl⟩, writes, holds⟩
  · have := f.measured
    simp only [List.length_append, List.length_take]
    omega
  · simp only [Buffer.capacity] at room sized ⊢
    omega
  · simp only [wrote, Buffer.setLength, bind, Except.bind, closed]
    rfl
  · simp only [Buffer.capacity] at room ⊢
    omega

/-- Bytes written behind the content are appended to it. -/
theorem edits_behind (h : a.Holds (f.holding :: rest)) {bytes : Bytes} (room : bytes.length ≤ f.buffer.avail) :
    f.Edits a rest (f.content ++ bytes) (do
      let a ← f.buffer.put a f.buffer.length bytes
      f.buffer.setLength a (f.buffer.length + bytes.length)) := by
  have edits := edits_end h (Nat.le_refl _) (Nat.add_le_add_left room f.buffer.length)
  rwa [← f.measured, List.take_length, f.measured] at edits

/-- Bytes written from the front on take the place of the content. -/
theorem edits_whole (h : a.Holds (f.holding :: rest)) {bytes : Bytes}
    (room : bytes.length ≤ f.buffer.capacity) :
    f.Edits a rest bytes (do
      let a ← f.buffer.put a 0 bytes
      f.buffer.setLength a bytes.length) := by
  have edits := edits_end h (Nat.zero_le _) (show 0 + bytes.length ≤ _ by omega)
  rwa [Nat.zero_add, List.take_zero, List.nil_append] at edits

/-- **Bytes written inside of the content** are written to the content. -/
theorem edits_put (h : a.Holds (f.holding :: rest)) {start : Nat} {bytes : Bytes}
    (inside : start + bytes.length ≤ f.buffer.length) :
    f.Edits a rest (Bytes.patch start bytes f.content) (do
      let a ← f.buffer.put a start bytes
      return (f.buffer, a)) := by
  have long := length_cell h
  have sized := f.sized
  have capacity := f.length_le_capacity
  have measured := f.measured
  obtain ⟨r, wrote, writes, holds⟩ := put_eq h (show start + bytes.length ≤ f.cell.size by omega)
  refine ⟨⟨f.buffer, { f.cell with bytes := Bytes.patch start bytes f.cell.bytes },
    Bytes.patch start bytes f.content, ?_, sized, ?_⟩, a.rewritten f.buffer.block r, ?_, rfl, rfl, rfl, rfl,
    ⟨r, rfl⟩, writes, holds⟩
  · rw [Bytes.length_patch (by omega), measured]
  · rw [Bytes.take_patch_of_le (by omega) (by omega), f.terminated, Bytes.patch_append (by omega)]
  · simp only [wrote]
    rfl

theorem edits_keep (h : a.Holds (f.holding :: rest)) {first count : Nat}
    (inside : first + count ≤ f.buffer.length) :
    f.Edits a rest ((f.content.drop first).take count) (f.buffer.keep a first count) := by
  have sized := f.sized
  have capacity := f.length_le_capacity
  have measured := f.measured
  have read := h.read List.mem_cons_self (show first + count ≤ f.cell.size by omega)
  rw [f.part_content inside] at read
  have length := Bytes.length_part (f.measured ▸ inside)
  have edits := edits_end h (Nat.zero_le _) (show 0 + ((f.content.drop first).take count).length ≤ _ by omega)
  rw [length, Nat.zero_add] at edits
  simp only [Buffer.keep, read]
  exact edits

theorem edits_trim (h : a.Holds (f.holding :: rest)) (ends : Bytes) :
    f.Edits a rest (Bytes.trim ends f.content) (f.buffer.trim a ends) := by
  obtain ⟨inside, same⟩ := Bytes.trimBounds_spec f.content ends
  rw [← same]
  simp only [Buffer.trim, bytes_eq h List.mem_cons_self]
  exact edits_keep h (f.measured ▸ inside)

/-- The places of a range that are to be kept. -/
theorem range_eq_keep (h : a.Holds (f.holding :: rest)) (filled : f.buffer.length ≠ 0) (start stop : Int64) :
    ∃ first count, rangeBounds f.buffer.length start stop = .ok (first, count) ∧
      first + count ≤ f.buffer.length ∧ f.buffer.range a start stop = f.buffer.keep a first count ∧
      (f.content.drop first).take count = Bytes.range start.toInt stop.toInt f.content := by
  have bounded := bounded h
  obtain ⟨first, count, bounds, inside, same⟩ := Bytes.rangeBounds_spec f.content start stop (f.measured ▸ filled)
    (by rw [f.measured]; omega)
  rw [f.measured] at bounds inside
  refine ⟨first, count, bounds, inside, ?_, same⟩
  unfold Buffer.range
  rw [if_neg filled, bounds]
  rfl

theorem edits_range (h : a.Holds (f.holding :: rest)) (start stop : Int64) :
    f.Edits a rest (Bytes.range start.toInt stop.toInt f.content) (f.buffer.range a start stop) := by
  by_cases none : f.buffer.length = 0
  · have nothing : f.content = [] := List.length_eq_zero_iff.1 (f.measured.trans none)
    have range : Bytes.range start.toInt stop.toInt f.content = f.content := by rw [nothing, Bytes.range_nil]
    rw [Buffer.range, if_pos none, range]
    exact edits_same h f rfl rfl
  · obtain ⟨first, count, -, inside, kept, same⟩ := range_eq_keep h none start stop
    rw [kept, ← same]
    exact edits_keep h inside

/-- What comes before the first zero byte is followed by one: in the content, or right after it. -/
theorem edits_updateLength (h : a.Holds (f.holding :: rest)) :
    f.Edits a rest (f.content.takeWhile (· ≠ 0)) (f.buffer.updateLength a) := by
  have capacity := f.length_le_capacity
  have measured := f.measured
  have sized := f.sized
  have until_eq : (f.content.takeWhile (· ≠ 0)) = f.content.take (f.content.findIdx (· = 0)) := by
    rw [List.takeWhile_eq_take_findIdx_not]
    congr 2
    funext b
    simp
  have le : f.content.findIdx (· = 0) ≤ f.content.length := List.findIdx_le_length
  have zero : (f.content ++ [0]).take (f.content.findIdx (· = 0) + 1) =
      f.content.take (f.content.findIdx (· = 0)) ++ [0] := by
    rcases Nat.lt_or_eq_of_le le with lt | last
    · have found : f.content[f.content.findIdx (· = 0)] = 0 := by
        have := List.findIdx_getElem (w := lt)
        simpa using this
      rw [List.take_append_of_le_length lt, List.take_add_one, List.getElem?_eq_getElem lt, found]
      rfl
    · rw [last, List.take_length]
      exact List.take_of_length_le (by simp)
  rw [until_eq]
  simp only [Buffer.updateLength, bytes_eq h List.mem_cons_self]
  refine edits_same h ⟨{ f.buffer with
      length := f.content.findIdx (· = 0)
      avail := f.buffer.capacity - f.content.findIdx (· = 0) }, f.cell, _, ?_, ?_, ?_⟩ rfl rfl
  · exact List.length_take.trans (Nat.min_eq_left le)
  · simp only [Buffer.capacity] at sized ⊢
    omega
  · have front := congrArg (List.take (f.content.findIdx (· = 0) + 1)) f.terminated
    rw [List.take_take, Nat.min_eq_left (by omega), zero] at front
    exact front

theorem edits_mapContent (h : a.Holds (f.holding :: rest)) {change : Bytes → Bytes}
    (length : ∀ content, (change content).length = content.length) :
    f.Edits a rest (change f.content) (f.buffer.mapContent a change) := by
  have edits := edits_put h (show 0 + (change f.content).length ≤ _ by
    rw [length, f.measured]
    omega)
  rw [Bytes.patch_whole (length _)] at edits
  simp only [Buffer.mapContent, bytes_eq h List.mem_cons_self]
  exact edits

theorem edits_set (h : a.Holds (f.holding :: rest)) {index : Nat} (inside : index < f.buffer.length)
    (value : UInt8) :
    f.Edits a rest (f.content.set index value) (f.buffer.set a index value) := by
  have edits := edits_put h (show index + [value].length ≤ _ from inside)
  rw [Bytes.patch_singleton (f.measured ▸ inside)] at edits
  simp only [Buffer.set, inside, if_true]
  exact edits

/-! ## Growth, and new buffers -/

variable [Source σ]

/-- A buffer with this content is given, and is held besides the rest. -/
def Becomes (a : Allocator σ) (rest : List Holding) (content : Bytes) (given : Buffer × Allocator σ) : Prop :=
  a.Leads given.2 ∧
    ∃ f : Filled, f.buffer = given.1 ∧ f.content = content ∧ given.2.Holds (f.holding :: rest)

theorem Becomes.after {content : Bytes} {given : Buffer × Allocator σ} (leads : a.Leads b)
    (becomes : Becomes b rest content given) : Becomes a rest content given :=
  ⟨leads.trans becomes.1, becomes.2⟩

theorem Edits.ends {content : Bytes} {done : Except Halt (Buffer × Allocator σ)} (h : f.Edits a rest content done)
    (reason : Halt → Prop) : Ends reason (Becomes a rest content) done := by
  obtain ⟨g, b, rfl, edited⟩ := h
  exact .ok ⟨.written .refl edited.writes, g, rfl, edited.content, edited.holds⟩

omit [Source σ] in
/-- A block with room for more that took over what fits of a buffer's block is the block of the same buffer. -/
theorem grow (h : a.Holds (f.holding :: rest)) {block : BlockId} {node : Option NodeId} {capacity : Nat}
    {bytes : Bytes} (fitted : Bytes.Fitted (capacity + 1) f.cell.bytes bytes)
    (given : b.Holds ((block, ⟨capacity + 1, node, bytes⟩) :: held)) (room : f.buffer.length ≤ capacity) :
    ∃ g : Filled, g.buffer = { f.buffer with block, avail := capacity - f.buffer.length } ∧
      g.content = f.content ∧ b.Holds (g.holding :: held) := by
  have long := length_cell h
  have within := f.length_le_capacity
  refine ⟨⟨{ f.buffer with block, avail := capacity - f.buffer.length }, _, f.content, f.measured, ?_, ?_⟩,
    rfl, rfl, given⟩
  · simp only [Buffer.capacity]
    omega
  · simp only
    rw [fitted.take (by omega) (by omega), f.terminated]

/-- A buffer that grows takes its content and the zero byte after it along. -/
theorem ends_reserve (h : a.Holds (f.holding :: rest)) (more : Nat) :
    Ends (Buffer.Stops a (f.content.length + more))
      (fun given => a.Leads given.2 ∧ ∃ g : Filled, g.buffer = given.1 ∧
        g.content = f.content ∧ more ≤ g.buffer.avail ∧ given.2.Holds (g.holding :: rest))
      (f.buffer.reserve a more) := by
  rw [f.measured]
  unfold Buffer.reserve
  by_cases enough : more ≤ f.buffer.avail
  · rw [if_pos enough]
    exact .ok ⟨.refl, f, rfl, rfl, enough, h⟩
  · rw [if_neg enough]
    simp only
    by_cases fits : (f.buffer.length + more) * 2 < wordLimit
    · rw [if_pos fits]
      refine ((h.reallocate _ none).imp (fun _ => .fails) fun _ => id).bind fun given grown => ?_
      obtain ⟨leads, node, bytes, fitted, holds⟩ := grown
      obtain ⟨g, same, content, holds⟩ := grow h fitted holds (by omega)
      refine .ok ⟨leads, g, same, content, ?_, holds⟩
      rw [same]
      simp only
      omega
    · rw [if_neg fits]
      exact .error (.capacity (Nat.le_of_not_lt fits))

theorem ends_append (h : a.Holds (f.holding :: rest)) (bytes : Bytes) :
    Ends (Buffer.Stops a (f.content ++ bytes).length) (Becomes a rest (f.content ++ bytes))
      (f.buffer.append a bytes) := by
  rw [List.length_append]
  refine (ends_reserve h bytes.length).bind fun given reserved => ?_
  obtain ⟨leads, g, same, content, room, holds⟩ := reserved
  obtain ⟨b, a'⟩ := given
  obtain rfl : g.buffer = b := same
  rw [← content]
  exact ((edits_behind holds room).ends _).imp (fun _ => id) fun _ => Becomes.after leads

/-- So many of the pieces were appended as are counted: all of them, or as many as came before one that was not,
for one of the reasons to stop. -/
structure Appends (f : Filled) (a : Allocator σ) (rest : List Holding) (pieces : List Bytes)
    (came : Buffer.Appended σ) : Prop where
  becomes : Becomes a rest (f.content ++ (pieces.take came.count).flatten) (came.buffer, came.allocator)
  whole : came.halt = none → came.count = pieces.length
  cut : ∀ halt, came.halt = some halt → came.count < pieces.length ∧
    Buffer.Stops a (f.content ++ pieces.flatten).length halt

/-- **Bytes that come in pieces** are appended piece by piece. -/
theorem appends (pieces : List Bytes) {a : Allocator σ} {f : Filled} (h : a.Holds (f.holding :: rest)) :
    f.Appends a rest pieces (f.buffer.appendPieces a pieces) := by
  induction pieces generalizing a f with
  | nil =>
    refine ⟨⟨.refl, f, rfl, ?_, h⟩, fun _ => rfl, fun halt cut => by cases cut⟩
    rw [List.take_nil, List.flatten_nil, List.append_nil]
  | cons piece pieces ih =>
    have whole : f.content ++ (piece :: pieces).flatten = f.content ++ piece ++ pieces.flatten := by
      rw [List.flatten_cons, List.append_assoc]
    have within : (f.content ++ piece).length ≤ (f.content ++ (piece :: pieces).flatten).length := by
      rw [whole]
      exact (List.prefix_append _ _).length_le
    have appended := ends_append h piece
    unfold Buffer.appendPieces
    cases first : f.buffer.append a piece with
    | error halt =>
      rw [first] at appended
      cases appended with
      | error stops =>
        refine ⟨⟨.refl, f, rfl, ?_, h⟩, fun whole => (by cases whole), fun other cut => ?_⟩
        · rw [List.take_zero, List.flatten_nil, List.append_nil]
        · cases cut
          exact ⟨Nat.succ_pos _, stops.after .refl within⟩
    | ok given =>
      rw [first] at appended
      cases appended with
      | ok becomes =>
        obtain ⟨leads, g, same, content, holds⟩ := becomes
        obtain ⟨b, a'⟩ := given
        obtain rfl : g.buffer = b := same
        have later := ih holds
        refine ⟨?_, fun none => congrArg (· + 1) (later.whole none), fun halt cut => ?_⟩
        · have becomes := later.becomes
          rw [content, List.append_assoc, ← List.flatten_cons, ← List.take_succ_cons] at becomes
          exact becomes.after leads
        · obtain ⟨short, stops⟩ := later.cut halt cut
          rw [content, ← whole] at stops
          exact ⟨Nat.succ_lt_succ short, stops.after leads (Nat.le_refl _)⟩

/-- Bytes appended in pieces are appended as a whole. -/
theorem ends_appendAll (pieces : List Bytes) (h : a.Holds (f.holding :: rest)) :
    Ends (Buffer.Stops a (f.content ++ pieces.flatten).length) (Becomes a rest (f.content ++ pieces.flatten))
      (f.buffer.appendAll a pieces) := by
  have appends := appends pieces h
  simp only [Buffer.appendAll]
  cases came : (f.buffer.appendPieces a pieces).halt with
  | none =>
    have becomes := appends.becomes
    rw [appends.whole came, List.take_length] at becomes
    exact .ok becomes
  | some halt => exact .error (appends.cut halt came).2

theorem edits_replace {bytes : Bytes} (h : a.Holds (f.holding :: rest))
    (room : bytes.length ≤ f.buffer.capacity) : f.Edits a rest bytes (f.buffer.replace a bytes) := by
  simp only [Buffer.replace, Nat.not_lt.2 room, if_false]
  exact edits_whole h room

theorem ends_replace (h : a.Holds (f.holding :: rest)) (bytes : Bytes) :
    Ends (Buffer.Stops a bytes.length) (Becomes a rest bytes) (f.buffer.replace a bytes) := by
  have within := f.length_le_capacity
  by_cases short : f.buffer.capacity < bytes.length
  · simp only [Buffer.replace, short, if_true]
    refine ((ends_reserve h _).imp (fun _ => Buffer.Stops.after .refl (by have := f.measured; omega))
      fun _ => id).bind fun given reserved => ?_
    obtain ⟨leads, g, same, content, room, holds⟩ := reserved
    obtain ⟨b, a'⟩ := given
    obtain rfl : g.buffer = b := same
    have length : g.buffer.length = f.buffer.length := by rw [← g.measured, content, f.measured]
    have fits : bytes.length ≤ g.buffer.capacity := by
      unfold Buffer.capacity at short ⊢
      omega
    exact ((edits_whole holds fits).ends _).imp (fun _ => id) fun _ => Becomes.after leads
  · exact (edits_replace h (Nat.le_of_not_lt short)).ends _

theorem ends_addWords (a : Allocator σ) (demand : Nat) :
    Ends (Buffer.Stops a demand) (fun sum => sum = demand + 1) (addWords demand 1) := by
  unfold addWords
  by_cases fits : demand + 1 < wordLimit
  · rw [if_pos fits]
    exact .ok rfl
  · rw [if_neg fits]
    exact .error (.sum (Nat.le_of_not_lt fits))

omit [Source σ] in
/-- A block that takes bytes and a zero byte after them is a buffer of these bytes, and has no room for more. What
was in the block before does not matter. -/
theorem filled_of_fresh {block : BlockId} {node : Option NodeId} {bytes found : Bytes}
    (h : a.Holds ((block, ⟨bytes.length + 1, node, found⟩) :: held)) :
    ∃ g b, (do
        let given : Buffer := { block, length := bytes.length, avail := 0 }
        let a ← given.put a 0 bytes
        let a ← given.put a bytes.length [0]
        return (given, a)) = Except.ok (Filled.buffer g, b) ∧
      g.content = bytes ∧ g.buffer.avail = 0 ∧ a.Writes block b ∧ b.Holds (g.holding :: held) := by
  obtain ⟨r, s, written, wrote, closed, front, writes, holds⟩ :=
    put_terminated (b := ⟨block, bytes.length, 0⟩) h (show 0 + bytes.length < bytes.length + 1 by omega)
  simp only [Nat.zero_add, List.take_zero, List.nil_append] at closed front
  refine ⟨⟨⟨block, bytes.length, 0⟩, ⟨bytes.length + 1, node, written⟩, bytes, rfl, rfl, front⟩,
    a.rewritten block s, ?_, rfl, rfl, writes, holds⟩
  simp only [wrote, bind, Except.bind, closed]
  rfl

/-- A new buffer holds the bytes that it was made of, and has no room for more. -/
theorem ends_ofBytes (h : a.Holds held) (bytes : Bytes) :
    Ends (Buffer.Stops a bytes.length)
      (fun given => Becomes a held bytes given ∧ given.1.avail = 0)
      (Buffer.ofBytes a bytes) := by
  refine (ends_addWords a bytes.length).bind fun size sum => ?_
  subst sum
  refine ((h.allocate _ none).imp (fun _ fails => .fails (fails.after .refl (by omega))) fun _ => id).bind
    fun given allocated => ?_
  obtain ⟨block, b⟩ := given
  obtain ⟨leads, node, found, holds⟩ := allocated
  obtain ⟨g, c, done, content, full, writes, holds⟩ := filled_of_fresh holds
  simp only [done]
  exact .ok ⟨⟨.written leads writes, g, rfl, content, holds⟩, full⟩

theorem ofBytes_of_granted {bytes : Bytes} {block : BlockId} (h : a.Holds held)
    (granted : a.tryAllocate (bytes.length + 1) none = .ok (.ok block, b)) :
    ∃ f c, Buffer.ofBytes a bytes = .ok (Filled.buffer f, c) ∧ f.content = bytes ∧
      f.buffer.avail = 0 ∧ c.Holds (f.holding :: held) := by
  obtain ⟨bounded, node, found, holds⟩ := h.of_granted granted
  have word : bytes.length + 1 < wordLimit := by
    simp only [maxTotal, wordLimit, headerWidth] at bounded ⊢
    omega
  obtain ⟨f, c, done, content, full, -, holds⟩ := filled_of_fresh holds
  refine ⟨f, c, ?_, content, full, holds⟩
  simp only [Buffer.ofBytes, addWords, word, if_true, Allocator.allocate, granted, Allocator.orHalt, bind,
    Except.bind]
  exact done

theorem ends_zeros (h : a.Holds held) (length : Nat) :
    Ends (Buffer.Stops a length) (Becomes a held (List.replicate length 0)) (Buffer.zeros a length) := by
  refine (ends_addWords a length).bind fun size sum => ?_
  subst sum
  refine ((h.allocate _ none).imp (fun _ fails => .fails (fails.after .refl (by omega))) fun _ => id).bind
    fun given allocated => ?_
  obtain ⟨block, b⟩ := given
  obtain ⟨leads, node, found, holds⟩ := allocated
  obtain ⟨r, filled, writes, holds⟩ := holds.fill 0
  simp only [filled]
  refine .ok ⟨.written leads writes, ⟨{ block, length, avail := 0 }, _, List.replicate length 0,
    List.length_replicate, rfl, ?_⟩, rfl, rfl, holds⟩
  simp only [List.take_replicate, Nat.min_self]
  exact List.replicate_succ'

theorem ends_clone (h : a.Holds held) (mem : f.holding ∈ held) :
    Ends (Buffer.Stops a f.content.length) (Becomes a held f.content) (f.buffer.clone a) := by
  simp only [Buffer.clone, bytes_eq h mem]
  exact (ends_ofBytes h f.content).imp (fun _ => id) fun _ => And.left

/-- **A buffer is given back**, whatever it holds. -/
theorem drop_eq (h : a.Holds (f.holding :: rest)) :
    ∃ b, f.buffer.drop a = .ok b ∧ b.Holds rest ∧ a.Leads b :=
  h.release

/-! ## Lists of buffers -/

theorem dropAll_eq (fills : List Filled) {a : Allocator σ}
    (h : a.Holds (fills.map holding ++ rest)) :
    ∃ b, Buffer.dropAll a (fills.map buffer) = .ok b ∧ b.Holds rest ∧ a.Leads b := by
  induction fills generalizing a with
  | nil => exact ⟨a, rfl, h, .refl⟩
  | cons f fills ih =>
    obtain ⟨b, dropped, holds, leads⟩ := drop_eq h
    obtain ⟨c, done, holds, later⟩ := ih holds
    refine ⟨c, ?_, holds, leads.trans later⟩
    simp only [List.map_cons, Buffer.dropAll, dropped]
    exact done

/-- A new buffer for each of a list of contents, none of them with room for more. -/
theorem ends_ofAll (pieces : List Bytes) {a : Allocator σ} {held : List Holding} {longest : Nat}
    (h : a.Holds held) (bound : ∀ piece ∈ pieces, piece.length ≤ longest) :
    Ends (Buffer.Stops a longest)
      (fun given => a.Leads given.2 ∧ ∃ fills : List Filled,
        given.1 = fills.map buffer ∧ fills.map content = pieces ∧ (∀ f ∈ fills, f.buffer.avail = 0) ∧
        given.2.Holds (fills.map holding ++ held))
      (Buffer.ofAll a pieces) := by
  induction pieces generalizing a held with
  | nil => exact .ok ⟨.refl, [], rfl, rfl, fun _ mem => (List.not_mem_nil mem).elim, h⟩
  | cons piece pieces ih =>
    have fits := bound piece List.mem_cons_self
    refine ((ends_ofBytes h piece).imp (fun _ => Buffer.Stops.after .refl fits) fun _ => id).bind
      fun given made => ?_
    obtain ⟨b, a'⟩ := given
    obtain ⟨⟨leads, f, same, content, holds⟩, full⟩ := made
    have later := ih holds fun other mem => bound other (List.mem_cons_of_mem piece mem)
    refine (later.imp (fun _ => Buffer.Stops.after leads (Nat.le_refl _)) fun _ => id).bind
      fun given made => ?_
    obtain ⟨more, fills, buffers, contents, fulls, holds⟩ := made
    refine .ok ⟨leads.trans more, f :: fills, ?_, ?_, ?_, holds.perm List.perm_middle⟩
    · rw [List.map_cons, same, buffers]
    · rw [List.map_cons, content, contents]
    · intro other mem
      rcases List.mem_cons.1 mem with rfl | mem
      · exact same ▸ full
      · exact fulls other mem

/-- The pieces of a split in buffers of their own, none of them with room for more; no buffers without a
separator. -/
theorem ends_split (h : a.Holds held) (bytes separator : Bytes) :
    Ends (Buffer.Stops a bytes.length)
      (fun given => a.Leads given.2 ∧ ∃ tokens : Option (List Filled),
        given.1 = tokens.map (List.map buffer) ∧ tokens.map (List.map content) = splitOn bytes separator ∧
        (∀ fills, tokens = some fills → ∀ f ∈ fills, f.buffer.avail = 0) ∧
        given.2.Holds ((tokens.getD []).map holding ++ held))
      (Buffer.split a bytes separator) := by
  unfold Buffer.split
  cases cut : splitOn bytes separator with
  | none => exact .ok ⟨.refl, none, rfl, rfl, fun _ same => (by cases same), h⟩
  | some pieces =>
    refine (ends_ofAll pieces h (length_le_of_mem_splitOn cut)).bind fun given made => ?_
    obtain ⟨leads, fills, buffers, contents, full, holds⟩ := made
    refine .ok ⟨leads, some fills, congrArg some buffers, congrArg some contents, ?_, holds⟩
    intro other same
    cases same
    exact full

omit [Source σ] in
theorem states_eq (h : a.Holds held) (fills : List Filled) (mem : ∀ f ∈ fills, f.holding ∈ held) :
    Buffer.states a (fills.map buffer) =
      .ok (fills.map fun f => Strings.seen f.buffer.avail f.content) := by
  induction fills with
  | nil => rfl
  | cons f fills ih =>
    have first := state_eq h (mem f List.mem_cons_self)
    have later := ih fun other there => mem other (List.mem_cons_of_mem f there)
    simp only [List.map_cons, Buffer.states, first, later, bind, Except.bind]
    rfl

omit [Source σ] in
theorem withContents_eq (h : a.Holds held) (fills : List Filled) (mem : ∀ f ∈ fills, f.holding ∈ held) :
    Buffer.withContents a (fills.map buffer) = .ok (fills.map fun f => (f.content, f.buffer)) := by
  induction fills with
  | nil => rfl
  | cons f fills ih =>
    have first := bytes_eq h (mem f List.mem_cons_self)
    have later := ih fun other there => mem other (List.mem_cons_of_mem f there)
    simp only [List.map_cons, Buffer.withContents, first, later, bind, Except.bind]
    rfl

end Filled

end NodeHeap
