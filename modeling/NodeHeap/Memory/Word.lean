import NodeHeap.Word

/-!
# Numbers in memory

A word lies in memory as eight bytes, the lowest first. `toNat_ofNat`: a number below `wordLimit` is
read back as it was written.
-/

namespace NodeHeap

namespace Word

def width : Nat := 8

/-- The lowest `count` bytes of a number, lowest first. -/
def lowBytes : (count : Nat) → Nat → Bytes
  | 0, _ => []
  | count + 1, n => UInt8.ofNat n :: lowBytes count (n / 256)

/-- The number that bytes write, lowest first. -/
def toNat : Bytes → Nat
  | [] => 0
  | b :: rest => b.toNat + 256 * toNat rest

def ofNat (n : Nat) : Bytes := lowBytes width n

@[simp] theorem length_lowBytes (count n : Nat) : (lowBytes count n).length = count := by
  induction count generalizing n with
  | zero => rfl
  | succ count ih => simp [lowBytes, ih]

@[simp] theorem length_ofNat (n : Nat) : (ofNat n).length = width := length_lowBytes _ _

theorem toNat_lowBytes (count n : Nat) : toNat (lowBytes count n) = n % Nat.pow 256 count := by
  induction count generalizing n with
  | zero => exact (Nat.mod_one n).symm
  | succ count ih =>
    simp only [lowBytes, toNat, ih, UInt8.toNat_ofNat']
    rw [show Nat.pow 256 (count + 1) = 256 * Nat.pow 256 count from Nat.mul_comm _ _, Nat.mod_mul]

theorem toNat_ofNat {n : Nat} (h : n < wordLimit) : toNat (ofNat n) = n := by
  rw [ofNat, toNat_lowBytes, show Nat.pow 256 width = wordLimit by decide]
  exact Nat.mod_eq_of_lt h

end Word

end NodeHeap
