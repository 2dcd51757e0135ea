import NodeHeap.Word

/-!
# Regions of memory

A region is what a source of memory grants: a number of bytes, and the node that they were asked for
on. Its bytes are a function of their offset. What memory holds that nobody wrote to is up to the source
that granted it. Every access goes through a check that it stays inside the region (`Region.covers`).

* `slice`, `overwrite`, `fill`, `copyFrom`, `resized`: what can be done with the bytes.
* `packed`, `packed_eq`: the bytes of a region worked out, which is the same region.
* `slice_overwrite_self`, `slice_overwrite_of_disjoint`: a write is read back where it was made and
  leaves the rest alone.
-/

namespace NodeHeap

/-- The name of a region. Names are not used twice. -/
abbrev RegionId := Nat

/-- Granted memory. -/
structure Region where
  /-- The node the memory was asked for on; none if it was asked for anywhere. -/
  origin : Option NodeId
  size : Nat
  /-- How far the region was written to. -/
  extent : Nat
  /-- What the memory holds where nothing was written. -/
  unwritten : Nat → UInt8
  /-- The byte at each offset. -/
  byte : Nat → UInt8
  extent_le : extent ≤ size
  byte_of_extent_le : ∀ i, extent ≤ i → byte i = unwritten i

namespace Region

/-- A region as it is granted, with the bytes that are found in it. -/
def fresh (origin : Option NodeId) (size : Nat) (found : Nat → UInt8) : Region where
  origin
  size
  extent := 0
  unwritten := found
  byte := found
  extent_le := Nat.zero_le _
  byte_of_extent_le _ _ := rfl

def covers (r : Region) (start length : Nat) : Bool := start + length ≤ r.size

def slice (r : Region) (start length : Nat) : Bytes :=
  (List.range length).map fun i => r.byte (start + i)

/-- The region with other bytes, written to as far as `extent`. -/
def withBytes (r : Region) (extent : Nat) (unwritten byte : Nat → UInt8) : Region where
  origin := r.origin
  size := r.size
  extent := min extent r.size
  unwritten
  byte i := if i < min extent r.size then byte i else unwritten i
  extent_le := Nat.min_le_right _ _
  byte_of_extent_le _ h := if_neg (Nat.not_lt.2 h)

/-- The region with `bytes` written from `start`. -/
def overwrite (r : Region) (start : Nat) (bytes : Bytes) : Region :=
  let written := bytes.toArray
  r.withBytes (max r.extent (start + bytes.length)) r.unwritten fun i =>
    if start ≤ i then (written[i - start]?).getD (r.byte i) else r.byte i

def fill (r : Region) (start length : Nat) (value : UInt8) : Region :=
  r.withBytes (max r.extent (start + length)) r.unwritten fun i =>
    if start ≤ i ∧ i < start + length then value else r.byte i

/-- The bytes of `other` where it is copied from, and of `own` elsewhere. -/
def spliced (own other : Nat → UInt8) (start length i : Nat) : UInt8 :=
  if start ≤ i ∧ i < start + length then other i else own i

/-- The region with `length` bytes from `start` taken over from the same place in `other`, written or not. -/
def copyFrom (r other : Region) (start length : Nat) : Region :=
  r.withBytes (max r.extent (min other.extent (start + length)))
    (spliced r.unwritten other.unwritten start length) (spliced r.byte other.byte start length)

/-- The region with another size. What is added to it holds what is found there. -/
def resized (r : Region) (size : Nat) (found : Nat → UInt8) : Region where
  origin := r.origin
  size
  extent := min r.extent size
  unwritten i := if i < r.size then r.unwritten i else found i
  byte i := if i < min r.extent size then r.byte i else if i < r.size then r.unwritten i else found i
  extent_le := Nat.min_le_right _ _
  byte_of_extent_le _ h := if_neg (Nat.not_lt.2 h)

/-- Regions that were written to up to here at most have their bytes worked out after each change. -/
def packedLimit : Nat := 1 <<< 20

/-- The values of a function at the numbers below `count`, one after another. -/
def tabulate (count : Nat) (byte : Nat → UInt8) : ByteArray :=
  count.fold (fun i _ stored => stored.push (byte i)) .empty

/-- The byte at an offset of stored bytes, behind which others are found. -/
def storedByte (stored : ByteArray) (unwritten : Nat → UInt8) (i : Nat) : UInt8 :=
  if h : i < stored.size then stored[i] else unwritten i

theorem data_tabulate (count : Nat) (byte : Nat → UInt8) :
    (tabulate count byte).data = ((List.range count).map byte).toArray := by
  induction count with
  | zero => rfl
  | succ count ih =>
    rw [tabulate, Nat.fold_succ, ByteArray.data_push, ← tabulate, ih]
    simp [List.range_succ]

theorem storedByte_tabulate (count : Nat) (byte unwritten : Nat → UInt8) (i : Nat) :
    storedByte (tabulate count byte) unwritten i = if i < count then byte i else unwritten i := by
  have size : (tabulate count byte).size = count := by simp [← ByteArray.size_data, data_tabulate]
  unfold storedByte
  by_cases h : i < count
  · simp [size, h, ByteArray.getElem_eq_getElem_data, data_tabulate]
  · simp [size, h]

/-- The same region, with the bytes worked out unless they reach far. -/
def packed (r : Region) : Region :=
  if r.extent ≤ packedLimit then
    let stored := tabulate r.extent r.byte
    { origin := r.origin
      size := r.size
      extent := r.extent
      unwritten := r.unwritten
      byte := storedByte stored r.unwritten
      extent_le := r.extent_le
      byte_of_extent_le := fun i h => by
        rw [storedByte_tabulate, if_neg (Nat.not_lt.2 h)] }
  else r

theorem ext_byte {r s : Region} (origin : r.origin = s.origin) (size : r.size = s.size)
    (extent : r.extent = s.extent) (unwritten : r.unwritten = s.unwritten)
    (byte : ∀ i, r.byte i = s.byte i) : r = s := by
  cases r
  cases s
  simp only [mk.injEq]
  exact ⟨origin, size, extent, unwritten, funext byte⟩

@[simp] theorem packed_eq (r : Region) : r.packed = r := by
  unfold packed
  split
  · refine ext_byte rfl rfl rfl rfl fun i => ?_
    show storedByte (tabulate r.extent r.byte) r.unwritten i = r.byte i
    rw [storedByte_tabulate]
    split
    · rfl
    · exact (r.byte_of_extent_le i (by omega)).symm
  · rfl

theorem byte_of_size_le (r : Region) {i : Nat} (h : r.size ≤ i) : r.byte i = r.unwritten i :=
  r.byte_of_extent_le i (Nat.le_trans r.extent_le h)

@[simp] theorem length_slice (r : Region) (start length : Nat) :
    (r.slice start length).length = length := by
  simp [slice]

@[simp] theorem size_overwrite (r : Region) (start : Nat) (bytes : Bytes) :
    (r.overwrite start bytes).size = r.size := rfl

theorem byte_overwrite (r : Region) (start : Nat) (bytes : Bytes) {i : Nat} (h : i < r.size) :
    (r.overwrite start bytes).byte i =
      if start ≤ i then (bytes[i - start]?).getD (r.byte i) else r.byte i := by
  simp only [overwrite, withBytes, List.getElem?_toArray]
  by_cases reached : i < min (max r.extent (start + bytes.length)) r.size
  · rw [if_pos reached]
  · rw [if_neg reached, List.getElem?_eq_none (by omega), r.byte_of_extent_le i (by omega)]
    simp

theorem slice_overwrite_self (r : Region) {start : Nat} {bytes : Bytes}
    (h : r.covers start bytes.length) : (r.overwrite start bytes).slice start bytes.length = bytes := by
  apply List.ext_getElem
  · simp
  · intro i hi _
    simp only [length_slice] at hi
    simp only [covers, decide_eq_true_eq] at h
    simp only [slice, List.getElem_map, List.getElem_range]
    rw [byte_overwrite _ _ _ (by omega)]
    simp [hi]

theorem slice_overwrite_of_disjoint (r : Region) {start other length : Nat} {bytes : Bytes}
    (h : other + length ≤ start ∨ start + bytes.length ≤ other) :
    (r.overwrite start bytes).slice other length = r.slice other length := by
  apply List.ext_getElem
  · simp
  · intro i hi _
    simp only [length_slice] at hi
    simp only [slice, List.getElem_map, List.getElem_range]
    by_cases inside : other + i < r.size
    · rw [byte_overwrite _ _ _ inside]
      split
      · rw [List.getElem?_eq_none (by omega)]
        rfl
      · rfl
    · rw [byte_of_size_le _ (by rw [size_overwrite]; omega), byte_of_size_le _ (by omega)]
      rfl

end Region

end NodeHeap
