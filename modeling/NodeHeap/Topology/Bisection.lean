/-!
# Search by halving

A list in which no number is greater than a later one can be searched by halving: of a window of places, half is
given up at each look. What is found is there in any case; that what is there is found needs the order
(`bisects_iff`).

* `narrow`: the place at which the search ends. Of several places with the number looked for, it is the last one, as
  this loop goes; a search is not bound to find that one.
* `bisect?`, `bisects`: the place where the number looked for is found, and whether it is.
-/

namespace NodeHeap

/-- The place at which a search for `x` in the window of `size` places from `base` on ends: while there is more than
one, the half that begins in the middle is kept unless it begins with a greater number. -/
def narrow (xs : List Nat) (x base size : Nat) : Nat :=
  if size ≤ 1 then base
  else if xs[base + size / 2]?.any (x < ·) then narrow xs x base (size - size / 2)
  else narrow xs x (base + size / 2) (size - size / 2)
termination_by size

/-- The place where a search by halving finds `x`. -/
def bisect? (xs : List Nat) (x : Nat) : Option Nat :=
  let place := narrow xs x 0 xs.length
  if xs[place]? = some x then some place else none

/-- Whether a search by halving finds `x`. -/
def bisects (xs : List Nat) (x : Nat) : Bool := (bisect? xs x).isSome

theorem getElem?_of_bisect? {xs : List Nat} {x i : Nat} (found : bisect? xs x = some i) : xs[i]? = some x := by
  simp only [bisect?] at found
  split at found
  · rename_i there
    cases found
    exact there
  · cases found

/-- A number that stands in the window stands where the search ends. -/
theorem getElem?_narrow {xs : List Nat} {x base size i : Nat} (sorted : xs.Pairwise (· ≤ ·))
    (placed : xs[i]? = some x) (window : base ≤ i ∧ i < base + size) (inside : base + size ≤ xs.length) :
    xs[narrow xs x base size]? = some x := by
  fun_induction narrow xs x base size generalizing i with
  | case1 base size single =>
    have same : base = i := by omega
    rw [same]
    exact placed
  | case2 base size several beyond ih =>
    -- A greater number begins the upper half, so `x` stands before it.
    have mid : base + size / 2 < xs.length := by omega
    have hi : i < xs.length := by omega
    rw [List.getElem?_eq_getElem hi, Option.some.injEq] at placed
    rw [List.getElem?_eq_getElem mid, Option.any_some, decide_eq_true_eq] at beyond
    have before : i < base + size / 2 := by
      apply Nat.lt_of_not_le
      intro after
      rcases Nat.lt_or_eq_of_le after with after | same
      · have ordered := List.pairwise_iff_getElem.1 sorted _ _ mid hi after
        omega
      · subst same
        omega
    apply ih
    · rw [List.getElem?_eq_getElem hi, placed]
    · omega
    · omega
  | case3 base size several within ih =>
    have mid : base + size / 2 < xs.length := by omega
    rw [List.getElem?_eq_getElem mid, Option.any_some, decide_eq_true_eq] at within
    -- If `x` stands before the middle, so that no smaller number follows it, the middle has it too.
    by_cases after : base + size / 2 ≤ i
    · apply ih placed
      · omega
      · omega
    · have hi : i < xs.length := by omega
      have ordered := List.pairwise_iff_getElem.1 sorted _ _ hi mid (Nat.lt_of_not_le after)
      rw [List.getElem?_eq_getElem hi, Option.some.injEq] at placed
      apply ih (i := base + size / 2)
      · rw [List.getElem?_eq_getElem mid]
        congr 1
        omega
      · omega
      · omega

/-- What is in a sorted list is found at one of its places. -/
theorem bisect?_of_mem {xs : List Nat} {x : Nat} (sorted : xs.Pairwise (· ≤ ·)) (mem : x ∈ xs) :
    ∃ i, bisect? xs x = some i := by
  obtain ⟨i, hi, there⟩ := List.mem_iff_getElem.1 mem
  have placed : xs[i]? = some x := by rw [List.getElem?_eq_getElem hi, there]
  have ends := getElem?_narrow sorted placed (show 0 ≤ i ∧ i < 0 + xs.length by omega) (by omega)
  exact ⟨_, if_pos ends⟩

/-- **A search by halving finds what is in a sorted list**, and nothing else. -/
theorem bisects_iff {xs : List Nat} {x : Nat} (sorted : xs.Pairwise (· ≤ ·)) :
    bisects xs x = true ↔ x ∈ xs := by
  unfold bisects
  rw [Option.isSome_iff_exists]
  constructor
  · rintro ⟨i, found⟩
    exact List.mem_of_getElem? (getElem?_of_bisect? found)
  · exact bisect?_of_mem sorted

end NodeHeap
