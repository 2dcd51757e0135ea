import NodeHeap.Proofs.Ledger
import NodeHeap.Proofs.Margins

/-!
# Cutting a buffer's content out

To keep a part of a buffer's content, the part is moved to the front of the block and a zero byte is put after
it. What is behind the old content stays as it was, and what was kept is not moved again.

* `Bytes.cut`, `Region.cut` — the bytes of a block, and the region, after that; `Bytes.drop_cut` — what is behind
  the content; `Region.cut_cut` — the same cut again.
* `Buffer.Cuts` — what a caller sees of a cut; `Filled.cuts_keep` — so it is for each part of the content.
* `Bytes.Trims`, `Trims.eq_trim` — what is left when the bytes of a set are cut off at both ends, and that it is one.
* `Shared.run_trims_exactly` — so the buffers of every run are trimmed.
-/

namespace NodeHeap

variable {σ : Type}

/-! ## Bytes -/

namespace Bytes

/-- The bytes of a block after `count` of them from `first` were moved to the front, and a zero byte was put after
them. -/
def cut (first count : Nat) (bytes : Bytes) : Bytes :=
  patch count [0] (patch 0 ((bytes.drop first).take count) bytes)

variable {first count length : Nat} {bytes : Bytes}

/-- **What is behind the content stays**, the zero byte after it included, when a part of the content is kept. -/
theorem drop_cut (inside : first + count ≤ length) (terminated : bytes[length]? = some 0) :
    (cut first count bytes).drop length = bytes.drop length := by
  obtain ⟨room, -⟩ := List.getElem?_eq_some_iff.1 terminated
  have moved : ((bytes.drop first).take count).length = count := length_part (by omega)
  have long : (patch 0 ((bytes.drop first).take count) bytes).length = bytes.length := length_patch (by omega)
  apply List.ext_getElem?
  intro i
  rw [List.getElem?_drop, List.getElem?_drop, cut, getElem?_patch (by rw [long, List.length_singleton]; omega),
    getElem?_patch (by omega), moved, List.length_singleton]
  by_cases last : length + i = count
  · -- All of the content is kept, and its zero byte is put where it is.
    obtain ⟨rfl, rfl⟩ : i = 0 ∧ length = count := by omega
    rw [if_pos (by omega), Nat.add_zero, Nat.sub_self, terminated]
    rfl
  · rw [if_neg (by omega), if_neg (by omega)]

end Bytes

/-! ## Regions and arenas -/

namespace Region

variable (r : Region) {start first count : Nat} {bytes : Bytes}

/-- The region of a block after `count` bytes of its payload from `first` were moved to the front, and a zero byte
was put after them. -/
def cut (first count : Nat) : Region :=
  (r.overwrite headerWidth (r.slice (headerWidth + first) count)).overwrite (headerWidth + count) [0]

/-- To write what is there already, and was written, changes nothing. -/
theorem overwrite_same (written : start + bytes.length ≤ r.extent)
    (same : r.slice start bytes.length = bytes) : r.overwrite start bytes = r := by
  have within := r.extent_le
  refine ext_byte rfl rfl ?_ rfl fun i => ?_
  · show min (max r.extent (start + bytes.length)) r.size = r.extent
    omega
  · rcases Nat.lt_or_ge i r.size with inside | outside
    · rw [byte_overwrite _ _ _ inside]
      split
      · rename_i behind
        by_cases ahead : i < start + bytes.length
        · have there : bytes[i - start]? = some (r.byte i) := by
            rw [← same, getElem?_slice, if_pos (by omega), Nat.add_sub_cancel' behind]
          rw [there]
          rfl
        · rw [List.getElem?_eq_none (by omega)]
          rfl
      · rfl
    · rw [r.byte_of_size_le outside]
      exact byte_of_size_le _ outside

/-- **What was kept is kept again** without a change. -/
theorem cut_cut (room : headerWidth + count + 1 ≤ r.size) :
    (r.cut first count).cut 0 count = r.cut first count := by
  have reached : headerWidth + count + 1 ≤ (r.cut first count).extent := by
    show headerWidth + count + 1 ≤ min (max _ (headerWidth + count + 1)) r.size
    omega
  have front : (r.cut first count).overwrite headerWidth ((r.cut first count).slice (headerWidth + 0) count) =
      r.cut first count := by
    refine overwrite_same _ ?_ ?_
    · rw [length_slice]
      omega
    · rw [length_slice, Nat.add_zero]
  have zero : (r.cut first count).slice (headerWidth + count) [(0 : UInt8)].length = [0] :=
    slice_overwrite_self _ (decide_eq_true room)
  rw [cut, front]
  exact overwrite_same _ reached zero

variable {r}

/-- The block in that region. -/
theorem IsBlock.cut {header : Header} {payload : Bytes} (h : r.IsBlock header payload)
    (inside : first + count < header.size) :
    (r.cut first count).IsBlock header (Bytes.cut first count payload) := by
  have long := h.length_payload
  have moved : ((payload.drop first).take count).length = count := Bytes.length_part (by omega)
  have front := h.overwrite (show 0 + ((payload.drop first).take count).length ≤ header.size by omega)
  rw [Region.cut, h.slice_payload (by omega)]
  exact front.overwrite (by rw [List.length_singleton]; omega)

end Region

/-- The bytes of a payload, as far as the region is covered. -/
theorem Arena.readPayload_of_covers {a : Arena σ} {block : BlockId} {r : Region} {start length : Nat}
    (hr : a.regions[block]? = some r) (covered : headerWidth + start + length ≤ r.size) :
    a.readPayload block start length = .ok (r.slice (headerWidth + start) length) := by
  simp only [readPayload, read, touch, hr, Region.covers, covered, decide_true, if_true]
  rfl

theorem Allocator.region_rewritten (a : Allocator σ) (block : BlockId) (r : Region) :
    (a.rewritten block r).arena.regions[block]? = some r := Std.ExtTreeMap.getElem?_insert_self

namespace Buffer

variable {b : Buffer} {a : Allocator σ} {r : Region} {first count : Nat}

theorem put_of_covers (found : a.arena.regions[b.block]? = some r) {start : Nat} {bytes : Bytes}
    (covered : headerWidth + start + bytes.length ≤ r.size) :
    b.put a start bytes = .ok (a.rewritten b.block (r.overwrite (headerWidth + start) bytes)) := by
  simp only [Buffer.put, Arena.writePayload,
    Arena.write_of_covers found (show r.covers _ _ = true from decide_eq_true covered)]
  rfl

/-- What it is to keep a part, as far as the region is covered. -/
theorem keep_of_covers (found : a.arena.regions[b.block]? = some r) (part : headerWidth + first + count ≤ r.size)
    (room : headerWidth + count + 1 ≤ r.size) :
    b.keep a first count = .ok ({ b with length := count, avail := b.capacity - count },
      a.rewritten b.block (r.cut first count)) := by
  have moved := put_of_covers found
    (show headerWidth + 0 + (r.slice (headerWidth + first) count).length ≤ r.size by
      rw [Region.length_slice]
      omega)
  have closed := put_of_covers (a.region_rewritten b.block
      (r.overwrite (headerWidth + 0) (r.slice (headerWidth + first) count)))
    (show headerWidth + count + [(0 : UInt8)].length ≤ _ from room)
  rw [Allocator.rewritten_rewritten] at closed
  simp only [keep, Arena.readPayload_of_covers found part, setLength, moved, closed, bind, Except.bind]
  rfl

theorem keep_again (a : Allocator σ) (room : headerWidth + count + 1 ≤ r.size) (within : count ≤ b.capacity) :
    keep { b with length := count, avail := b.capacity - count } (a.rewritten b.block (r.cut first count))
        0 count =
      .ok ({ b with length := count, avail := b.capacity - count },
        a.rewritten b.block (r.cut first count)) := by
  have again := keep_of_covers (b := { b with length := count, avail := b.capacity - count })
    (a.region_rewritten b.block (r.cut first count)) (show headerWidth + 0 + count ≤ r.size by omega) room
  have same : capacity { b with length := count, avail := b.capacity - count } = b.capacity :=
    Nat.add_sub_cancel' within
  rwa [same, Allocator.rewritten_rewritten, Region.cut_cut r room] at again

/-! ## What a caller sees of a cut -/

/-- What a cut leaves of a buffer: the bytes that are kept, with a zero byte right after them, in the same block,
with the same capacity. What is behind the old content stays as it was, and so does all else. -/
structure Cuts (b : Buffer) (a : Allocator σ) (kept : Bytes) (given : Buffer × Allocator σ) : Prop where
  shows : given.1.Shows given.2 kept
  length : given.1.length = kept.length
  block : given.1.block = b.block
  capacity : given.1.length + given.1.avail = b.length + b.avail
  behind : ∃ bytes, a.arena.readPayload b.block b.length (b.avail + 1) = .ok bytes ∧
    given.2.arena.readPayload b.block b.length (b.avail + 1) = .ok bytes
  rewrites : a.RewritesOnly b.block given.2

end Buffer

namespace Filled

variable {f : Filled} {a : Allocator σ} {rest : List Holding} {first count : Nat}

/-- The region that a buffer's block is in. -/
theorem region (h : a.Holds (f.holding :: rest)) :
    ∃ head r, a.arena.regions[f.buffer.block]? = some r ∧ r.IsBlock head f.cell.bytes ∧
      head.size = f.buffer.length + f.buffer.avail + 1 ∧ r.size = headerWidth + head.size := by
  obtain ⟨head, ⟨r, found, block⟩, size, -⟩ := h.live _ List.mem_cons_self
  exact ⟨head, r, found, block, size.trans f.sized, block.sized.trans (Nat.add_comm _ _)⟩

theorem zero_after (f : Filled) : f.cell.bytes[f.buffer.length]? = some 0 := by
  have last := congrArg (·[f.buffer.length]?) f.terminated
  simp only [List.getElem?_take, Nat.lt_succ_self, if_true] at last
  rw [last, ← f.measured, List.getElem?_concat_length]

theorem cuts_refl (h : a.Holds (f.holding :: rest)) : f.buffer.Cuts a f.content (f.buffer, a) := by
  have sized : f.cell.size = f.buffer.length + f.buffer.avail + 1 := f.sized
  have behind := h.read List.mem_cons_self
    (show f.buffer.length + (f.buffer.avail + 1) ≤ f.cell.size by omega)
  obtain ⟨b, later, same, rewrites, -, -⟩ := (edits_same h f rfl rfl).rewritesOnly h
  cases same
  exact ⟨shows h List.mem_cons_self, f.measured.symm, rfl, rfl, ⟨_, behind, behind⟩, rewrites⟩

/-- **To keep a part of the content is a cut**, and to keep all of that part then changes nothing. -/
theorem cuts_keep (h : a.Holds (f.holding :: rest)) (inside : first + count ≤ f.buffer.length) :
    ∃ given, f.buffer.keep a first count = .ok given ∧
      f.buffer.Cuts a ((f.content.drop first).take count) given ∧
      given.1.keep given.2 0 count = .ok given := by
  obtain ⟨head, r, found, isBlock, size, sized⟩ := region h
  have within := f.length_le_capacity
  have part : headerWidth + first + count ≤ r.size := by omega
  have room : headerWidth + count + 1 ≤ r.size := by omega
  have done := Buffer.keep_of_covers found part room
  have edits := edits_keep h inside
  obtain ⟨c, later, same, rewrites, -, -⟩ := edits.rewritesOnly h
  obtain ⟨d, last, same', shows, block, capacity⟩ := edits.shows
  rw [done] at same same'
  cases same
  cases same'
  have after : (a.rewritten f.buffer.block (r.cut first count)).arena.HasBlock f.buffer.block head
      (Bytes.cut first count f.cell.bytes) := ⟨_, a.region_rewritten _ _, isBlock.cut (by omega)⟩
  have before : a.arena.HasBlock f.buffer.block head f.cell.bytes := ⟨r, found, isBlock⟩
  refine ⟨_, done, ⟨shows, (Bytes.length_part (f.measured ▸ inside)).symm, block, capacity,
    ⟨_, before.readPayload_eq (by omega), ?_⟩, rewrites⟩, Buffer.keep_again a room (by omega)⟩
  rw [← Bytes.drop_cut inside f.zero_after]
  exact after.readPayload_eq (by omega)

end Filled

/-! ## Trimming -/

namespace Bytes

variable {set content kept : Bytes}

/-- A byte string is what another one leaves without the bytes of a set at its ends: what is cut off are bytes of
the set, and what is left, if anything, begins and ends with bytes that are not. -/
structure Trims (set content kept : Bytes) : Prop where
  factor : ∃ front back, content = front ++ kept ++ back ∧ (∀ byte ∈ front, byte ∈ set) ∧
    ∀ byte ∈ back, byte ∈ set
  first : ∀ byte, kept.head? = some byte → byte ∉ set
  last : ∀ byte, kept.getLast? = some byte → byte ∉ set

theorem trims_iff : Trims set content kept ↔ Trimmed (fun byte => set.contains byte) content kept := by
  have outside (byte : UInt8) : set.contains byte = false ↔ byte ∉ set := by
    rw [← Bool.not_eq_true, List.contains_iff_mem]
  refine ⟨fun h => ⟨?_, fun byte head => (outside byte).2 (h.first byte head),
    fun byte last => (outside byte).2 (h.last byte last)⟩, fun h => ⟨?_, fun byte head =>
    (outside byte).1 (h.first byte head), fun byte last => (outside byte).1 (h.last byte last)⟩⟩
  · obtain ⟨front, back, split, inFront, behind⟩ := h.factor
    exact ⟨front, back, split, fun byte mem => List.contains_iff_mem.2 (inFront byte mem),
      fun byte mem => List.contains_iff_mem.2 (behind byte mem)⟩
  · obtain ⟨front, back, split, inFront, behind⟩ := h.factor
    exact ⟨front, back, split, fun byte mem => List.contains_iff_mem.1 (inFront byte mem),
      fun byte mem => List.contains_iff_mem.1 (behind byte mem)⟩

theorem trims_trim (set content : Bytes) : Trims set content (trim set content) :=
  trims_iff.2 (trimmed_drop _ content)

/-- **There is no other one.** -/
theorem Trims.eq_trim (h : Trims set content kept) : kept = trim set content :=
  (trims_iff.1 h).eq_drop

theorem trim_trim (set content : Bytes) : trim set (trim set content) = trim set content := by
  have trimmed := trims_iff.1 (trims_trim set content)
  exact (Trims.eq_trim (trims_iff.2 (.self trimmed.first trimmed.last))).symm

theorem trimBounds_trim (set content : Bytes) :
    trimBounds (trim set content) set = (0, (trim set content).length) := by
  obtain ⟨inside, same⟩ := trimBounds_spec (trim set content) set
  rw [trim_trim] at same
  have long := congrArg List.length same
  rw [length_part inside] at long
  exact Prod.ext (by omega) long

end Bytes

/-- What trimming leaves of a buffer: the one byte string that the content leaves without the bytes of the set at
its ends, which is empty if there is no other byte. To trim it once more changes nothing. -/
structure Buffer.TrimsTo (b : Buffer) (a : Allocator σ) (set content kept : Bytes)
    (given : Buffer × Allocator σ) : Prop where
  trims : Bytes.Trims set content kept
  unique : ∀ other, Bytes.Trims set content other → other = kept
  nothing : (∀ byte ∈ content, byte ∈ set) → kept = []
  cuts : b.Cuts a kept given
  again : given.1.trim given.2 set = .ok given

namespace Filled

variable {f : Filled} {a : Allocator σ} {rest : List Holding}

theorem trimsTo (h : a.Holds (f.holding :: rest)) (set : Bytes) :
    ∃ kept given, f.buffer.trim a set = .ok given ∧ f.buffer.TrimsTo a set f.content kept given := by
  obtain ⟨inside, same⟩ := Bytes.trimBounds_spec f.content set
  obtain ⟨given, done, cuts, again⟩ := cuts_keep h (f.measured ▸ inside)
  rw [same] at cuts
  refine ⟨Bytes.trim set f.content, given, ?_, Bytes.trims_trim set f.content, fun other => Bytes.Trims.eq_trim,
    fun all => ?_, cuts, ?_⟩
  · simp only [Buffer.trim, bytes_eq h List.mem_cons_self]
    exact done
  · have all : Bytes.Trims set f.content [] := ⟨⟨f.content, [], by simp, all, by simp⟩, by simp, by simp⟩
    exact all.eq_trim.symm
  · have count : (trimBounds f.content set).2 = (Bytes.trim set f.content).length := by
      rw [← same, Bytes.length_part inside]
    rw [count] at again
    simp only [Buffer.trim, cuts.shows.bytes, Bytes.trimBounds_trim, bind, Except.bind]
    exact again

end Filled

namespace Shared

variable [Source σ]

/-- **Trimming is exact, and to trim twice is to trim once.** After every run, each buffer can be trimmed of the
bytes of any set, and comes to what `TrimsTo` says. -/
theorem run_trims_exactly (a : Allocator σ) (made : Session.Initial { allocator := a })
    (steps : List (SharedStep σ)) :
    ∀ entry ∈ (run { allocator := a } steps).2.buffers, ∃ content,
      entry.2.Shows (run { allocator := a } steps).2.allocator content ∧
      ∀ set, ∃ kept given, entry.2.trim (run { allocator := a } steps).2.allocator set = .ok given ∧
        entry.2.TrimsTo (run { allocator := a } steps).2.allocator set content kept given := by
  intro entry mem
  obtain ⟨f, rest, same, holds⟩ := ((models_of_initial made).run steps).filled mem
  rw [← same]
  exact ⟨f.content, Filled.shows holds List.mem_cons_self, Filled.trimsTo holds⟩

/-- A buffer with dashes at both ends and one within, of which the one within is left; and without any dash it
is empty. -/
theorem trims_exactly_dashes :
    Session.Initial Session.onPair ∧ ∃ s b,
      s = (run { allocator := Session.onPair.allocator } [.buffer (.ofBytes 1 [45, 45, 97, 45, 98, 45])]).2 ∧
      s.buffers = [(1, b)] ∧
      (∃ given, b.trim s.allocator [45] = .ok given ∧ b.Cuts s.allocator [97, 45, 98] given ∧
        given.1.trim given.2 [45] = .ok given) ∧
      ∃ given, b.trim s.allocator [97, 98, 45] = .ok given ∧ b.Cuts s.allocator [] given := by
  have made : Session.Initial Session.onPair := .new _ _
  obtain ⟨content, shows, trims⟩ := run_trims_exactly Session.onPair.allocator made
    [.buffer (.ofBytes 1 [45, 45, 97, 45, 98, 45])] _ List.mem_cons_self
  have same : Except.ok content = Except.ok [45, 45, 97, 45, 98, 45] := shows.bytes.symm.trans rfl
  cases same
  refine ⟨made, _, ⟨0, 6, 0⟩, rfl, rfl, ?_, ?_⟩
  · obtain ⟨kept, given, done, trimmed⟩ := trims [45]
    obtain rfl : [97, 45, 98] = kept :=
      trimmed.unique _ ⟨⟨[45, 45], [45], rfl, by simp, by simp⟩, by simp, by simp⟩
    exact ⟨given, done, trimmed.cuts, trimmed.again⟩
  · obtain ⟨kept, given, done, trimmed⟩ := trims [97, 98, 45]
    obtain rfl : kept = [] := trimmed.nothing (by simp)
    exact ⟨given, done, trimmed.cuts⟩

end Shared

end NodeHeap
