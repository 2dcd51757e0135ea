import NodeHeap.Proofs.Cuts

/-!
# Ranges of a buffer's content

A range is given by two indices, both included, of which those below zero count from the end. Whatever they are,
the content comes to the bytes between the places that they mean, and all that is computed for that are words.

* `place`, `Bytes.clamped` — the places that indices mean, and the bytes between them; `Bytes.range_eq_clamped` —
  that is what a buffer keeps. `Bytes.range_range` — a range of a range.
* `Buffer.RangesExactly` — what a caller sees of ranges; `Shared.run_ranges_exactly` — so it is after every run.
-/

namespace NodeHeap

variable {σ : Type}

/-! ## Places -/

/-- The place that an index means where there are `length` places, numbered from zero. An index below zero counts
from the end, and not beyond the first place. -/
def place (length : Nat) (index : Int) : Int :=
  if index < 0 then max 0 (length - index.natAbs) else index

theorem resolveIndex_eq_place (length : Nat) (index : Int) :
    (resolveIndex length index : Int) = place length index := by
  unfold resolveIndex place
  split <;> omega

theorem resolveIndex_natCast (length index : Nat) : resolveIndex length index = index :=
  (if_neg (Int.not_lt.2 (Int.natCast_nonneg index))).trans (Int.natAbs_natCast index)

namespace Bytes

variable {content : Bytes}

/-- The bytes from one place to another, both included. -/
def between (first last : Int) (content : Bytes) : Bytes := (content.take (last + 1).toNat).drop first.toNat

/-- The bytes between the places that two indices mean, as far as there are such places. -/
def clamped (start stop : Int) (content : Bytes) : Bytes :=
  if place content.length stop < place content.length start then []
  else
    between (min (place content.length start) (content.length - 1))
      (min (place content.length stop) (content.length - 1)) content

theorem range_eq_clamped (start stop : Int) (content : Bytes) :
    Bytes.range start stop content = clamped start stop content := by
  unfold Bytes.range clamped between
  rw [← resolveIndex_eq_place, ← resolveIndex_eq_place]
  generalize resolveIndex content.length start = first
  generalize resolveIndex content.length stop = last
  simp only [Int.ofNat_lt]
  split
  · rfl
  · rcases content with _ | ⟨byte, rest⟩
    · simp
    · have front : (min (first : Int) ((byte :: rest).length - 1)).toNat =
          min first ((byte :: rest).length - 1) := by
        rw [List.length_cons]
        omega
      rw [front]
      apply congrArg
      -- Beyond the last place it does not matter how much is taken.
      rw [List.take_eq_take_iff, List.length_cons]
      omega

theorem range_of_lt {first last : Nat} (le : first ≤ last) (inside : last < content.length) :
    Bytes.range first last content = (content.take (last + 1)).drop first := by
  unfold Bytes.range
  simp only [resolveIndex_natCast]
  rw [if_neg (by omega), Nat.min_eq_left (by omega)]

/-- **A range of a range is a range.** -/
theorem range_range {start₁ stop₁ start₂ stop₂ : Nat} (le₁ : start₁ ≤ stop₁) (inside₁ : stop₁ < content.length)
    (le₂ : start₂ ≤ stop₂) (inside₂ : stop₂ ≤ stop₁ - start₁) :
    Bytes.range start₂ stop₂ (Bytes.range start₁ stop₁ content) =
      Bytes.range (start₁ + start₂ : Nat) (start₁ + stop₂ : Nat) content := by
  have long : ((content.take (stop₁ + 1)).drop start₁).length = stop₁ + 1 - start₁ := by
    rw [List.length_drop, List.length_take]
    omega
  rw [range_of_lt le₁ inside₁, range_of_lt le₂ (by omega), range_of_lt (by omega) (by omega), List.take_drop,
    List.take_take, List.drop_drop, Nat.min_eq_left (by omega), Nat.add_assoc]

theorem range_whole (content : Bytes) : Bytes.range 0 (-1) content = content := by
  show (if content.length - 1 < 0 then []
    else (content.take (content.length - 1 + 1)).drop (min 0 (content.length - 1))) = content
  rw [if_neg (Nat.not_lt_zero _), Nat.zero_min, List.drop_zero, List.take_of_length_le (by omega)]

end Bytes

/-! ## What a caller sees of ranges -/

theorem Buffer.eq_of_capacity {b c : Buffer} (block : b.block = c.block) (length : b.length = c.length)
    (capacity : b.length + b.avail = c.length + c.avail) : b = c := by
  cases b
  cases c
  cases block
  cases length
  exact congrArg _ (Nat.add_left_cancel capacity)

/-- What a buffer with this content does to keep a range. It keeps the bytes between the places that the indices
mean, and an empty buffer stays as it is. All that it computes for that are words, and the bytes that it moves are
of its content. From the first byte to the last one is all, and a range of a range is a range. -/
structure Buffer.RangesExactly (b : Buffer) (a : Allocator σ) (content : Bytes) : Prop where
  room : b.length + b.avail < wordLimit
  empty : content = [] → ∀ start stop, b.range a start stop = .ok (b, a)
  exact : ∀ start stop, ∃ given, b.range a start stop = .ok given ∧
    b.Cuts a (Bytes.clamped start.toInt stop.toInt content) given
  words : content ≠ [] → ∀ start stop, ∃ first count,
    rangeBounds b.length start stop = .ok (first, count) ∧ first + count ≤ b.length ∧
      b.range a start stop = b.keep a first count
  whole : ∃ later, b.range a 0 (-1) = .ok (b, later) ∧ b.Cuts a content (b, later)
  twice : ∀ start₁ stop₁ start₂ stop₂ : Nat, start₁ ≤ stop₁ → stop₁ < b.length → start₂ ≤ stop₂ →
    stop₂ ≤ stop₁ - start₁ → ∃ first second direct kept, b.range a (.ofNat start₁) (.ofNat stop₁) = .ok first ∧
      first.1.range first.2 (.ofNat start₂) (.ofNat stop₂) = .ok second ∧
      b.range a (.ofNat (start₁ + start₂)) (.ofNat (start₁ + stop₂)) = .ok direct ∧
      second.1 = direct.1 ∧ second.1.Shows second.2 kept ∧ direct.1.Shows direct.2 kept

namespace Filled

variable {f : Filled} {a : Allocator σ} {rest : List Holding}

/-- To keep a range is a cut. -/
theorem cuts_range (h : a.Holds (f.holding :: rest)) (start stop : Int64) :
    ∃ given, f.buffer.range a start stop = .ok given ∧
      f.buffer.Cuts a (Bytes.range start.toInt stop.toInt f.content) given := by
  by_cases none : f.buffer.length = 0
  · have nothing : f.content = [] := List.length_eq_zero_iff.1 (f.measured.trans none)
    have range : Bytes.range start.toInt stop.toInt f.content = f.content := by rw [nothing, Bytes.range_nil]
    rw [Buffer.range, if_pos none, range]
    exact ⟨_, rfl, cuts_refl h⟩
  · obtain ⟨first, count, -, inside, kept, same⟩ := range_eq_keep h none start stop
    rw [kept, ← same]
    obtain ⟨given, done, cuts, -⟩ := cuts_keep h inside
    exact ⟨given, done, cuts⟩

theorem rangesExactly (h : a.Holds (f.holding :: rest)) : f.buffer.RangesExactly a f.content where
  room := by
    have bounded := bounded h
    simp only [maxTotal, blockAlign, wordLimit] at bounded ⊢
    omega
  empty nothing start stop := by
    have none : f.buffer.length = 0 := f.measured.symm.trans (congrArg _ nothing)
    exact if_pos none
  exact start stop := Bytes.range_eq_clamped start.toInt stop.toInt f.content ▸ cuts_range h start stop
  words filled start stop := by
    have some : f.buffer.length ≠ 0 := f.measured ▸ fun none => filled (List.length_eq_zero_iff.1 none)
    obtain ⟨first, count, bounds, inside, kept, -⟩ := range_eq_keep h some start stop
    exact ⟨first, count, bounds, inside, kept⟩
  whole := by
    obtain ⟨⟨c, later⟩, done, cuts⟩ := cuts_range h 0 (-1)
    have whole : Bytes.range (0 : Int64).toInt (-1 : Int64).toInt f.content = f.content := Bytes.range_whole _
    rw [whole] at cuts
    obtain rfl : c = f.buffer :=
      Buffer.eq_of_capacity cuts.block (cuts.length.trans f.measured) cuts.capacity
    exact ⟨later, done, cuts⟩
  twice start₁ stop₁ start₂ stop₂ le₁ inside₁ le₂ inside₂ := by
    obtain ⟨g, b, done₁, edited₁⟩ := edits_range h (.ofNat start₁) (.ofNat stop₁)
    obtain ⟨k, c, done₂, edited₂⟩ := edits_range edited₁.holds (.ofNat start₂) (.ofNat stop₂)
    obtain ⟨d, e, done₃, edited₃⟩ := edits_range h (.ofNat (start₁ + start₂)) (.ofNat (start₁ + stop₂))
    -- All places of the content are indices.
    have bounded := bounded h
    have index {place : Nat} (inside : place < f.buffer.length) : (Int64.ofNat place).toInt = place := by
      simp only [maxTotal, blockAlign] at bounded
      exact Int64.toInt_ofNat_of_lt (by omega)
    have same : k.content = d.content := by
      rw [edited₂.content, edited₁.content, edited₃.content, index inside₁, index (Nat.lt_of_le_of_lt le₁ inside₁),
        index (show start₂ < _ by omega), index (show stop₂ < _ by omega), index (show start₁ + start₂ < _ by omega),
        index (show start₁ + stop₂ < _ by omega), Bytes.range_range le₁ (f.measured ▸ inside₁) le₂ inside₂]
    have buffer : k.buffer = d.buffer :=
      Buffer.eq_of_capacity (edited₂.block.trans (edited₁.block.trans edited₃.block.symm))
        (k.measured.symm.trans ((congrArg _ same).trans d.measured))
        (edited₂.capacity.trans (edited₁.capacity.trans edited₃.capacity.symm))
    exact ⟨_, _, _, k.content, done₁, done₂, done₃, buffer, shows edited₂.holds List.mem_cons_self,
      same ▸ shows edited₃.holds List.mem_cons_self⟩

end Filled

namespace Shared

variable [Source σ]

/-- **Ranges are exact.** After every run, each buffer keeps the ranges of its content in the way of
`RangesExactly`. -/
theorem run_ranges_exactly (a : Allocator σ) (made : Session.Initial { allocator := a })
    (steps : List (SharedStep σ)) :
    ∀ entry ∈ (run { allocator := a } steps).2.buffers, ∃ content,
      content.length = entry.2.length ∧ entry.2.Shows (run { allocator := a } steps).2.allocator content ∧
        entry.2.RangesExactly (run { allocator := a } steps).2.allocator content := by
  intro entry mem
  obtain ⟨f, rest, same, holds⟩ := ((models_of_initial made).run steps).filled mem
  rw [← same]
  exact ⟨f.content, f.measured, Filled.shows holds List.mem_cons_self, Filled.rangesExactly holds⟩

/-- Five bytes: the last two, what the least and the greatest index are the ends of, and a range of a range. -/
theorem ranges_exactly_five :
    Session.Initial Session.onPair ∧ ∃ s b,
      s = (run { allocator := Session.onPair.allocator } [.buffer (.ofBytes 1 [97, 98, 99, 100, 101])]).2 ∧
      s.buffers = [(1, b)] ∧
      (∃ given, b.range s.allocator (-2) (-1) = .ok given ∧ b.Cuts s.allocator [100, 101] given) ∧
      (∃ given, b.range s.allocator .minValue .maxValue = .ok given ∧
        b.Cuts s.allocator [97, 98, 99, 100, 101] given) ∧
      (∃ first count, rangeBounds b.length .minValue .maxValue = .ok (first, count) ∧ first + count ≤ b.length) ∧
      ∃ first second direct kept, b.range s.allocator 1 3 = .ok first ∧
        first.1.range first.2 1 1 = .ok second ∧ b.range s.allocator 2 2 = .ok direct ∧
        second.1 = direct.1 ∧ second.1.Shows second.2 kept ∧ direct.1.Shows direct.2 kept := by
  have made : Session.Initial Session.onPair := .new _ _
  obtain ⟨content, -, shows, ranges⟩ := run_ranges_exactly Session.onPair.allocator made
    [.buffer (.ofBytes 1 [97, 98, 99, 100, 101])] _ List.mem_cons_self
  have same : Except.ok content = Except.ok [97, 98, 99, 100, 101] := shows.bytes.symm.trans rfl
  cases same
  obtain ⟨first, count, bounds, inside, -⟩ := ranges.words (by decide) .minValue .maxValue
  exact ⟨made, _, ⟨0, 5, 0⟩, rfl, rfl, ranges.exact _ _, ranges.exact _ _, ⟨first, count, bounds, inside⟩,
    ranges.twice 1 3 1 1 (by decide) (by decide) (by decide) (by decide)⟩

end Shared

end NodeHeap
