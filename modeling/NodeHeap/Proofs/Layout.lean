import NodeHeap.Allocator.Header

/-!
# Blocks in memory

A region is laid out as a block when its first bytes are a header and the bytes behind them are the
payload that the header speaks of (`Region.IsBlock`).

* `Bytes.patch`, `Bytes.Fitted` — byte strings with some bytes overwritten, and with another length.
* `Region.IsBlock.overwrite`, `copyFrom`, `slice_resized`, `slice_taken_over` — the layout after each
  thing that is done to the region of a block; `isBlock_overwrite_header` makes a block of a region.
* `Regions` — what an arena's regions are after several changes, as one change each.
* `Arena.HasBlock` — an outstanding region is a block; `HasBlock.header_eq` and
  `HasBlock.readPayload_eq` read it, and neither halts.
-/

namespace NodeHeap

namespace Bytes

/-- A list, of bytes or of what is known of them, with `new` written over it from `start`. -/
def patch {α : Type} (start : Nat) (new bytes : List α) : List α :=
  bytes.take start ++ new ++ bytes.drop (start + new.length)

/-- A byte string at another length: it begins as the old one, as far as both reach. What follows the old one is
anything. -/
structure Fitted (length : Nat) (bytes new : Bytes) : Prop where
  length_eq : new.length = length
  kept : new.take bytes.length = bytes.take length

theorem getElem?_patch {α : Type} {start : Nat} {new bytes : List α} (h : start + new.length ≤ bytes.length)
    (i : Nat) : (patch start new bytes)[i]? =
      if start ≤ i ∧ i < start + new.length then new[i - start]? else bytes[i]? := by
  have hlen : (bytes.take start).length = start := by
    rw [List.length_take]
    omega
  unfold patch
  by_cases hlo : i < start
  · rw [List.append_assoc, List.getElem?_append_left (by omega), List.getElem?_take, if_pos hlo,
      if_neg (by omega)]
  · rw [List.append_assoc, List.getElem?_append_right (by omega), hlen]
    by_cases hhi : i < start + new.length
    · rw [List.getElem?_append_left (by omega), if_pos ⟨by omega, hhi⟩]
    · rw [List.getElem?_append_right (by omega), List.getElem?_drop, if_neg (by omega)]
      congr 1
      omega

theorem fitted_iff {length : Nat} {bytes new : Bytes} :
    Fitted length bytes new ↔
      new.length = length ∧ ∀ i, i < length → i < bytes.length → new[i]? = bytes[i]? := by
  refine ⟨fun h => ⟨h.length_eq, fun i hl hb => ?_⟩, fun h => ⟨h.1, List.ext_getElem? fun i => ?_⟩⟩
  · have same := congrArg (·[i]?) h.kept
    simpa only [List.getElem?_take, if_pos hl, if_pos hb] using same
  · rw [List.getElem?_take, List.getElem?_take]
    by_cases hb : i < bytes.length
    · by_cases hl : i < length
      · rw [if_pos hb, if_pos hl, h.2 i hl hb]
      · rw [if_pos hb, if_neg hl, List.getElem?_eq_none (by omega)]
    · rw [if_neg hb, List.getElem?_eq_none (Nat.not_lt.1 hb), ite_self]

theorem length_patch {α : Type} {start : Nat} {new bytes : List α} (h : start + new.length ≤ bytes.length) :
    (patch start new bytes).length = bytes.length := by
  simp only [patch, List.length_append, List.length_take, List.length_drop]
  omega

theorem length_part {first count : Nat} {bytes : Bytes} (h : first + count ≤ bytes.length) :
    ((bytes.drop first).take count).length = count := by
  rw [List.length_take, List.length_drop]
  omega

theorem take_patch {start : Nat} {new bytes : Bytes} (h : start ≤ bytes.length) :
    (patch start new bytes).take (start + new.length) = bytes.take start ++ new := by
  refine List.take_left' ?_
  rw [List.length_append, List.length_take]
  omega

/-- What is written inside of the front of a byte string is written to the front. -/
theorem take_patch_of_le {start count : Nat} {new bytes : Bytes} (h : start + new.length ≤ count)
    (inside : count ≤ bytes.length) :
    (patch start new bytes).take count = patch start new (bytes.take count) := by
  apply List.ext_getElem?
  intro i
  have long : (bytes.take count).length = count := by
    rw [List.length_take]
    omega
  rw [List.getElem?_take, getElem?_patch (by omega), getElem?_patch (by omega), List.getElem?_take]
  by_cases hi : i < count
  · rw [if_pos hi, if_pos hi]
  · rw [if_neg hi, if_neg hi, if_neg (by omega)]

theorem patch_append {start : Nat} {new bytes : Bytes} (h : start + new.length ≤ bytes.length)
    (more : Bytes) : patch start new (bytes ++ more) = patch start new bytes ++ more := by
  unfold patch
  rw [List.take_append_of_le_length (by omega), List.drop_append_of_le_length h, ← List.append_assoc]

theorem patch_whole {new bytes : Bytes} (h : new.length = bytes.length) : patch 0 new bytes = new := by
  simp [patch, h]

theorem patch_singleton {start : Nat} {bytes : Bytes} (h : start < bytes.length) (value : UInt8) :
    patch start [value] bytes = bytes.set start value := by
  rw [List.set_eq_take_append_cons_drop, if_pos h]
  simp [patch]

/-- What is not longer than a byte string is not cut off from it at a larger length. -/
theorem Fitted.take {length count : Nat} {bytes new : Bytes} (h : Fitted length bytes new)
    (le : count ≤ length) (inside : count ≤ bytes.length) : new.take count = bytes.take count := by
  have same := congrArg (List.take count) h.kept
  rwa [List.take_take, List.take_take, Nat.min_eq_left inside, Nat.min_eq_left le] at same

theorem fitted_patch {length : Nat} {bytes into : Bytes} (long : into.length = length) :
    Fitted length bytes (patch 0 (bytes.take (min bytes.length length)) into) := by
  have taken : (bytes.take (min bytes.length length)).length = min bytes.length length := by
    rw [List.length_take]
    omega
  have inside : 0 + (bytes.take (min bytes.length length)).length ≤ into.length := by omega
  refine fitted_iff.2 ⟨(length_patch inside).trans long, fun i hl hb => ?_⟩
  rw [getElem?_patch inside, if_pos (by omega), List.getElem?_take, Nat.sub_zero, if_pos (by omega)]

end Bytes

/-! ## Headers as they are stored -/

def NodeSlot.stored (slot : NodeSlot) : NodeSlot := ⟨slot.word % wordLimit⟩

theorem NodeSlot.stored_of_lt {slot : NodeSlot} (h : slot.word < wordLimit) : slot.stored = slot := by
  unfold stored
  rw [Nat.mod_eq_of_lt h]

theorem Header.ofBytes_bytes_stored {size : Nat} (h : size < wordLimit) (slot : NodeSlot) :
    ofBytes (bytes ⟨size, slot⟩) = ⟨size, slot.stored⟩ := by
  simp only [ofBytes, bytes]
  rw [List.take_left' (Word.length_ofNat size), List.drop_left' (Word.length_ofNat size),
    Word.toNat_ofNat h]
  simp only [Word.ofNat, Word.toNat_lowBytes]
  rfl

theorem totalFor?_eq_some {size total : Nat} :
    totalFor? size = some total ↔ size + headerWidth ≤ maxTotal ∧ total = size + headerWidth := by
  unfold totalFor?
  split
  · rename_i h; simp [h, eq_comm]
  · rename_i h; simp [h]

theorem totalFor?_eq_none {size : Nat} :
    totalFor? size = none ↔ maxTotal < size + headerWidth := by
  unfold totalFor?
  split
  · rename_i fits
    exact ⟨fun none => absurd none (Option.some_ne_none _),
      fun large => absurd fits (Nat.not_le.2 large)⟩
  · rename_i large
    exact ⟨fun _ => Nat.lt_of_not_le large, fun _ => rfl⟩

theorem lt_wordLimit_of_total {size : Nat} (h : size + headerWidth ≤ maxTotal) : size < wordLimit := by
  simp only [maxTotal, blockAlign, headerWidth, wordLimit] at *
  omega

/-! ## Regions -/

namespace Region

@[simp] theorem getElem?_slice (r : Region) (start length i : Nat) :
    (r.slice start length)[i]? = if i < length then some (r.byte (start + i)) else none := by
  unfold slice
  by_cases h : i < length <;> simp [h]

@[simp] theorem size_copyFrom (r other : Region) (start length : Nat) :
    (r.copyFrom other start length).size = r.size := rfl

theorem byte_copyFrom (r other : Region) (start length : Nat) {i : Nat} (h : i < r.size) :
    (r.copyFrom other start length).byte i =
      if start ≤ i ∧ i < start + length then other.byte i else r.byte i := by
  simp only [copyFrom, withBytes, spliced]
  by_cases reached : i < min (max r.extent (min other.extent (start + length))) r.size
  · rw [if_pos reached]
  · -- Past what is stored of either region, what was found in the other one is what it holds.
    rw [if_neg reached, r.byte_of_extent_le i (by omega)]
    split
    · exact (other.byte_of_extent_le i (by omega)).symm
    · rfl

theorem byte_fill (r : Region) (start length : Nat) (value : UInt8) {i : Nat} (h : i < r.size) :
    (r.fill start length value).byte i =
      if start ≤ i ∧ i < start + length then value else r.byte i := by
  simp only [fill, withBytes]
  by_cases reached : i < min (max r.extent (start + length)) r.size
  · rw [if_pos reached]
  · rw [if_neg reached, if_neg (by omega), r.byte_of_extent_le i (by omega)]

theorem byte_resized (r : Region) (found : Nat → UInt8) {size i : Nat} (h : i < min r.size size) :
    (r.resized size found).byte i = r.byte i := by
  simp only [resized]
  by_cases reached : i < min r.extent size
  · rw [if_pos reached]
  · rw [if_neg reached, if_pos (by omega)]
    exact (r.byte_of_extent_le i (by omega)).symm

/-- The region is a block with a header and a payload. -/
structure IsBlock (r : Region) (header : Header) (payload : Bytes) : Prop where
  sized : r.size = header.total
  bounded : header.total ≤ maxTotal
  headed : Header.ofBytes (r.slice 0 headerWidth) = header
  filled : r.slice headerWidth header.size = payload

namespace IsBlock

variable {r other : Region} {header otherHeader : Header} {payload otherPayload : Bytes}

theorem covers_iff (h : r.IsBlock header payload) {start length : Nat} :
    r.covers start length = true ↔ start + length ≤ header.size + headerWidth := by
  have sized := h.sized
  unfold Header.total at sized
  simp only [Region.covers, decide_eq_true_eq]
  omega

theorem length_payload (h : r.IsBlock header payload) : payload.length = header.size := by
  rw [← h.filled, length_slice]

theorem getElem?_payload (h : r.IsBlock header payload) (i : Nat) :
    payload[i]? = if i < header.size then some (r.byte (headerWidth + i)) else none := by
  rw [← h.filled, getElem?_slice]

/-- Bytes that agree with the region's behind the header are the payload's, as far as they fit. -/
theorem fitted_slice (h : r.IsBlock header payload) {s : Region} {size : Nat}
    (same : ∀ i < min header.size size, s.byte (headerWidth + i) = r.byte (headerWidth + i)) :
    Bytes.Fitted size payload (s.slice headerWidth size) := by
  refine Bytes.fitted_iff.2 ⟨length_slice _ _ _, fun i hs hp => ?_⟩
  rw [h.length_payload] at hp
  rw [getElem?_slice, if_pos hs, h.getElem?_payload, if_pos hp, same i (by omega)]

/-- A part of the payload in the region. -/
theorem slice_payload (h : r.IsBlock header payload) {start length : Nat}
    (inside : start + length ≤ header.size) :
    r.slice (headerWidth + start) length = (payload.drop start).take length := by
  apply List.ext_getElem?
  intro i
  rw [getElem?_slice, List.getElem?_take, List.getElem?_drop, h.getElem?_payload, Nat.add_assoc]
  split
  · rw [if_pos (by omega)]
  · rfl

/-- Whatever leaves the header's bytes alone leaves a block with the bytes that are then there. -/
theorem of_bytes (h : r.IsBlock header payload) {s : Region} {new : Bytes} (size : s.size = r.size)
    (front : ∀ i < headerWidth, s.byte i = r.byte i)
    (back : ∀ i, new[i]? = if i < header.size then some (s.byte (headerWidth + i)) else none) :
    s.IsBlock header new := by
  refine ⟨size.trans h.sized, h.bounded, ?_, ?_⟩
  · rw [← h.headed]
    congr 1
    apply List.ext_getElem?
    intro i
    simp only [getElem?_slice, Nat.zero_add]
    split
    · rename_i hi; rw [front i hi]
    · rfl
  · apply List.ext_getElem?
    intro i
    rw [getElem?_slice, back i]

/-- A write to the payload. -/
theorem overwrite (h : r.IsBlock header payload) {start : Nat} {bytes : Bytes}
    (inside : start + bytes.length ≤ header.size) :
    (r.overwrite (headerWidth + start) bytes).IsBlock header (Bytes.patch start bytes payload) := by
  have size := h.sized
  unfold Header.total at size
  refine h.of_bytes (size_overwrite _ _ _) (fun i hi => ?_) (fun i => ?_)
  · rw [byte_overwrite _ _ _ (by omega), if_neg (by omega)]
  · rw [Bytes.getElem?_patch (by rw [h.length_payload]; exact inside), h.getElem?_payload]
    by_cases hi : i < header.size
    · rw [byte_overwrite _ _ _ (by omega), if_pos hi,
        show headerWidth + i - (headerWidth + start) = i - start by omega]
      by_cases hw : start ≤ i ∧ i < start + bytes.length
      · rw [if_pos hw, if_pos hi, if_pos (by omega), List.getElem?_eq_getElem (by omega)]
        rfl
      · rw [if_neg hw, if_pos hi]
        split
        · rw [List.getElem?_eq_none (by omega)]; rfl
        · rfl
    · rw [if_neg (by omega), if_neg hi, if_neg hi]

theorem fill (h : r.IsBlock header payload) (value : UInt8) :
    (r.fill headerWidth header.size value).IsBlock header (List.replicate header.size value) := by
  have size := h.sized
  unfold Header.total at size
  refine h.of_bytes rfl (fun i hi => ?_) (fun i => ?_)
  · rw [byte_fill _ _ _ _ (by omega), if_neg (by omega)]
  · rw [List.getElem?_replicate]
    split
    · rw [byte_fill _ _ _ _ (by omega), if_pos (by omega)]
    · rfl

/-- A copy of the front of another block's payload. -/
theorem copyFrom (h : r.IsBlock header payload) (ho : other.IsBlock otherHeader otherPayload)
    {length : Nat} (inside : length ≤ header.size) (available : length ≤ otherHeader.size) :
    (r.copyFrom other headerWidth length).IsBlock header
      (Bytes.patch 0 (otherPayload.take length) payload) := by
  have size := h.sized
  unfold Header.total at size
  have taken : (otherPayload.take length).length = length := by
    rw [List.length_take, ho.length_payload]; omega
  refine h.of_bytes (size_copyFrom _ _ _ _) (fun i hi => ?_) (fun i => ?_)
  · rw [byte_copyFrom _ _ _ _ (by omega), if_neg (by omega)]
  · rw [Bytes.getElem?_patch (by rw [h.length_payload, taken]; omega), h.getElem?_payload, taken]
    by_cases hi : i < header.size
    · rw [if_pos hi, if_pos hi, byte_copyFrom _ _ _ _ (by omega)]
      by_cases hl : i < length
      · rw [if_pos (by omega), if_pos (by omega), Nat.sub_zero, List.getElem?_take, if_pos hl,
          ho.getElem?_payload, if_pos (by omega)]
      · rw [if_neg (by omega), if_neg (by omega)]
    · rw [if_neg (by omega), if_neg hi, if_neg hi]

/-- The bytes behind the header after the region was resized. -/
theorem slice_resized (h : r.IsBlock header payload) (size : Nat) (found : Nat → UInt8) :
    Bytes.Fitted size payload
      ((r.resized (size + headerWidth) found).slice headerWidth size) := by
  have sized := h.sized
  unfold Header.total at sized
  exact h.fitted_slice fun i hi => byte_resized _ _ (by omega)

/-- The bytes behind the header of a new region that took over what fits, header included. -/
theorem slice_taken_over (h : r.IsBlock header payload) (origin : Option NodeId) (size : Nat)
    (found : Nat → UInt8) :
    Bytes.Fitted size payload
      (((fresh origin (size + headerWidth) found).copyFrom r 0
        (min header.total (size + headerWidth))).slice headerWidth size) := by
  refine h.fitted_slice fun i hi => ?_
  rw [byte_copyFrom _ _ _ _ (by show _ < size + headerWidth; omega), if_pos]
  unfold Header.total
  omega

end IsBlock

/-- **A header written in front of a region makes a block of it**, whose payload is what is behind. -/
theorem isBlock_overwrite_header (r : Region) {size : Nat} (slot : NodeSlot)
    (hsize : r.size = size + headerWidth) (bounded : size + headerWidth ≤ maxTotal) :
    (r.overwrite 0 (Header.bytes ⟨size, slot⟩)).IsBlock ⟨size, slot.stored⟩
      (r.slice headerWidth size) := by
  have front : (r.overwrite 0 (Header.bytes ⟨size, slot⟩)).slice 0 (Header.bytes ⟨size, slot⟩).length =
      Header.bytes ⟨size, slot⟩ := slice_overwrite_self r (by simp [covers, hsize])
  rw [Header.length_bytes] at front
  refine ⟨?_, bounded, ?_, ?_⟩
  · rw [size_overwrite, hsize]; rfl
  · rw [front, Header.ofBytes_bytes_stored (lt_wordLimit_of_total bounded)]
  · exact slice_overwrite_of_disjoint r (.inr (by rw [Header.length_bytes]; omega))

/-- The region of a block as it is handed out, with the bytes that were found in it. -/
def newBlock (size : Nat) (origin : Option NodeId) (found : Nat → UInt8) : Region :=
  (fresh origin (size + headerWidth) found).overwrite 0 (Header.bytes ⟨size, .ofOption origin⟩)

/-- The payload of a block as it is handed out: whatever was found. -/
def foundPayload (size : Nat) (found : Nat → UInt8) : Bytes :=
  (fresh none (size + headerWidth) found).slice headerWidth size

@[simp] theorem length_foundPayload (size : Nat) (found : Nat → UInt8) :
    (foundPayload size found).length = size := length_slice _ _ _

theorem isBlock_newBlock {size : Nat} (bounded : size + headerWidth ≤ maxTotal)
    (origin : Option NodeId) (found : Nat → UInt8) :
    (newBlock size origin found).IsBlock ⟨size, (NodeSlot.ofOption origin).stored⟩
      (foundPayload size found) :=
  isBlock_overwrite_header _ _ rfl bounded

end Region

/-! ## Blocks of an arena -/

namespace Regions

variable (regions : Std.ExtTreeMap RegionId Region) (block : RegionId) (r : Region)

theorem getElem?_insert_of_ne {other : RegionId} (h : other ≠ block) :
    (regions.insert block r)[other]? = regions[other]? := by
  rw [Std.ExtTreeMap.getElem?_insert, if_neg (by simpa using Ne.symm h)]

theorem getElem?_erase_of_ne {other : RegionId} (h : other ≠ block) :
    (regions.erase block)[other]? = regions[other]? := by
  rw [Std.ExtTreeMap.getElem?_erase, if_neg (by simpa using Ne.symm h)]

theorem insert_insert (s : Region) :
    (regions.insert block r).insert block s = regions.insert block s := by
  apply Std.ExtTreeMap.ext_getElem?
  intro i
  simp only [Std.ExtTreeMap.getElem?_insert]
  by_cases h : block = i
  · simp [h]
  · simp [h]

theorem insert_self {regions : Std.ExtTreeMap RegionId Region} {block : RegionId} {r : Region}
    (h : regions[block]? = some r) : regions.insert block r = regions := by
  apply Std.ExtTreeMap.ext_getElem?
  intro i
  rw [Std.ExtTreeMap.getElem?_insert]
  by_cases hi : block = i
  · subst hi; simp [h]
  · simp [hi]

theorem erase_insert_of_ne {other : RegionId} (h : other ≠ block) :
    (regions.insert block r).erase other = (regions.erase other).insert block r := by
  apply Std.ExtTreeMap.ext_getElem?
  intro i
  simp only [Std.ExtTreeMap.getElem?_insert, Std.ExtTreeMap.getElem?_erase]
  by_cases hi : other = i
  · subst hi; simp [Ne.symm h]
  · simp [hi]

theorem insert_erase_self : (regions.erase block).insert block r = regions.insert block r := by
  apply Std.ExtTreeMap.ext_getElem?
  intro i
  simp only [Std.ExtTreeMap.getElem?_insert, Std.ExtTreeMap.getElem?_erase]
  by_cases hi : block = i
  · simp [hi]
  · simp [hi]

/-- To change an outstanding region is to enter the changed one under its name. -/
theorem modify_eq_insert {regions : Std.ExtTreeMap RegionId Region} {block : RegionId} {r : Region}
    (h : regions[block]? = some r) (change : Region → Region) :
    regions.modify block change = regions.insert block (change r) := by
  apply Std.ExtTreeMap.ext_getElem?
  intro i
  simp only [Std.ExtTreeMap.getElem?_modify, Std.ExtTreeMap.getElem?_insert]
  by_cases hi : block = i
  · subst hi; simp [h]
  · simp [hi]

end Regions

namespace Arena

variable {σ : Type} {a : Arena σ} {block : BlockId} {header : Header} {payload : Bytes}

/-- The region is outstanding and is a block with a header and a payload. -/
def HasBlock (a : Arena σ) (block : BlockId) (header : Header) (payload : Bytes) : Prop :=
  ∃ r, a.regions[block]? = some r ∧ r.IsBlock header payload

theorem HasBlock.header_eq (h : a.HasBlock block header payload) : a.header block = .ok header := by
  obtain ⟨r, hr, hb⟩ := h
  have covered : r.covers 0 headerWidth = true := hb.covers_iff.2 (by omega)
  simp only [Arena.header, read, touch, hr, covered, if_true]
  exact congrArg Except.ok hb.headed

theorem HasBlock.readPayload_eq (h : a.HasBlock block header payload) {start length : Nat}
    (inside : start + length ≤ header.size) :
    a.readPayload block start length = .ok ((payload.drop start).take length) := by
  obtain ⟨r, hr, hb⟩ := h
  have covered : r.covers (headerWidth + start) length = true := hb.covers_iff.2 (by omega)
  simp only [Arena.readPayload, read, touch, hr, covered, if_true]
  exact congrArg Except.ok (hb.slice_payload inside)

/-- A write to a region, as far as it is covered. -/
theorem write_of_covers {r : Region} {start : Nat} {bytes : Bytes} (hr : a.regions[block]? = some r)
    (covered : r.covers start bytes.length = true) :
    a.write block start bytes =
      .ok { a with regions := a.regions.insert block (r.overwrite start bytes) } := by
  simp only [write, touch, hr, covered, if_true, Region.packed_eq, Regions.modify_eq_insert hr]
  rfl

/-- A region set to one value, as far as it is covered. -/
theorem fill_of_covers {r : Region} {start length : Nat} (hr : a.regions[block]? = some r)
    (covered : r.covers start length = true) (value : UInt8) :
    a.fill block start length value =
      .ok { a with regions := a.regions.insert block (r.fill start length value) } := by
  simp only [fill, touch, hr, covered, if_true, Region.packed_eq, Regions.modify_eq_insert hr]
  rfl

/-- A copy between two regions, as far as both are covered. -/
theorem copy_of_covers {target : BlockId} {r t : Region} (start length : Nat)
    (hr : a.regions[block]? = some r) (ht : a.regions[target]? = some t)
    (fits : start + length ≤ r.size) (room : start + length ≤ t.size) :
    a.copy block target start length =
      .ok { a with regions := a.regions.insert target (t.copyFrom r start length) } := by
  simp only [copy, touch, hr, ht, Region.covers, fits, room, decide_true, if_true,
    Region.packed_eq, Regions.modify_eq_insert ht]
  rfl

/-- A header fits in front of every region that is large enough for it. -/
theorem setHeader_of_le {r : Region} (hr : a.regions[block]? = some r) (large : headerWidth ≤ r.size)
    (header : Header) :
    a.setHeader block header =
      .ok { a with regions := a.regions.insert block (r.overwrite 0 header.bytes) } := by
  refine write_of_covers hr ?_
  simp only [Region.covers, Header.length_bytes, decide_eq_true_eq]
  omega

end Arena

end NodeHeap
