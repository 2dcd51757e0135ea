import Mathlib.Data.Finset.Sort
import NodeHeap.Proofs.Margins
import NodeHeap.Proofs.Probers

/-!
# What lists of processors say

A text is a list of processors whatever it is: each of its parts between commas names a range of numbers, or
nothing. What a part names does not depend on the other parts, nor on blanks around it.

* `CpuList.Part`, `CpuList.Spells` — what one part names, and what a text says.
* `CpuList.spells_iff` — that is what is read of it; `CpuList.toList_parse_append` — part by part.
* `CpuList.Covers`, `CpuList.covers_iff` — the processors that some part names.
* `CpuList.runs`, `CpuList.canonical` — the list of a set of processors as a kernel writes it;
  `CpuList.spells_canonical` — it is read back as this set.
-/

namespace NodeHeap

/-! ## Parts between commas -/

namespace Text

variable {text part piece rest gap : List Char}

theorem pieces_eq_splitOnP {α : Type} (cut : α → Bool) (xs : List α) : pieces cut xs = xs.splitOnP cut := by
  induction xs with
  | nil => rfl
  | cons x rest ih =>
    rw [pieces, List.splitOnP_cons_eq_if_modifyHead, ih]
    split
    · rfl
    · cases whole : rest.splitOnP cut with
      | nil => exact absurd whole (List.splitOnP_ne_nil cut rest)
      | cons first more => rfl

/-- To tell something of all texts, it is told from comma to comma. -/
theorem comma_induction {motive : List Char → Prop} (last : ∀ text, ',' ∉ text → motive text)
    (more : ∀ piece rest, ',' ∉ piece → motive rest → motive (piece ++ ',' :: rest)) (text : List Char) :
    motive text := by
  induction length : text.length using Nat.strongRecOn generalizing text with
  | ind n ih =>
    by_cases comma : ',' ∈ text
    · obtain ⟨piece, rest, rfl, clear⟩ := List.eq_append_cons_of_mem comma
      refine more piece rest clear (ih rest.length ?_ rest rfl)
      rw [← length, List.length_append, List.length_cons]
      omega
    · exact last text comma

/-- The parts of a text between commas, without the blanks around them. -/
def parts (text : List Char) : List (List Char) := (text.splitOn ',').map trim

theorem parts_of_clear (clear : ',' ∉ text) : parts text = [trim text] := by
  rw [parts, List.splitOn_eq_singleton clear, List.map_singleton]

theorem parts_append (clear : ',' ∉ piece) (rest : List Char) :
    parts (piece ++ ',' :: rest) = trim piece :: parts rest := by
  rw [parts, List.splitOn_append_cons_self_of_not_mem clear, List.map_cons, parts]

theorem not_comma_of_blank (blank : ∀ c ∈ gap, isBlank c = true) : ',' ∉ gap := fun mem =>
  Bool.false_ne_true (blank ',' mem)

theorem parts_prepend (blank : ∀ c ∈ gap, isBlank c = true) (text : List Char) :
    parts (gap ++ text) = parts text := by
  have clear := not_comma_of_blank blank
  induction text using comma_induction with
  | last text rest =>
    have both : ',' ∉ gap ++ text := fun mem => (List.mem_append.1 mem).elim clear rest
    rw [parts_of_clear both, parts_of_clear rest, trim_prepend blank]
  | more piece rest first =>
    have both : ',' ∉ gap ++ piece := fun mem => (List.mem_append.1 mem).elim clear first
    rw [← List.append_assoc, parts_append both, parts_append first, trim_prepend blank]

theorem parts_postpend (blank : ∀ c ∈ gap, isBlank c = true) (text : List Char) :
    parts (text ++ gap) = parts text := by
  induction text using comma_induction with
  | last text rest =>
    have both : ',' ∉ text ++ gap := fun mem => (List.mem_append.1 mem).elim rest (not_comma_of_blank blank)
    rw [parts_of_clear both, parts_of_clear rest, trim_append blank]
  | more piece rest first ih =>
    rw [List.append_assoc, List.cons_append, parts_append first, parts_append first, ih]

/-- **Blanks around a text do not matter to its parts.** -/
theorem parts_trim (text : List Char) : parts (trim text) = parts text := by
  obtain ⟨front, back, whole, inFront, behind⟩ := (trimmed_trim text).factor
  calc
    parts (trim text) = parts (trim text ++ back) := (parts_postpend behind _).symm
    _ = parts (front ++ (trim text ++ back)) := (parts_prepend inFront _).symm
    _ = parts text := by rw [← List.append_assoc, ← whole]

end Text

namespace CpuRange

theorem toList_single (cpu : CpuId) : toList ⟨cpu, cpu⟩ = [cpu] := by
  rw [toList, size, Nat.add_sub_cancel_left]
  rfl

theorem toList_cons {r : CpuRange} {cpu : CpuId} (le : r.first ≤ r.last) (next : r.first = cpu + 1) :
    toList ⟨cpu, r.last⟩ = cpu :: r.toList := by
  have longer (first last cpu : Nat) (le : first ≤ last) (next : first = cpu + 1) :
      last + 1 - cpu = last + 1 - first + 1 := by omega
  simp only [toList, size, longer r.first r.last cpu le next, List.range'_succ, next]

end CpuRange

namespace CpuList

open Text

variable {text part piece rest first last : List Char} {cpus others : List CpuId} {cpu a b : CpuId}

/-! ## What a part names -/

/-- A text that is the number of a processor: a decimal number that fits a word. -/
def Number (text : List Char) (cpu : CpuId) : Prop := Decimal.Numeral text cpu ∧ cpu < wordLimit

theorem number_iff : Number text cpu ↔ Decimal.parse? wordLimit text = some cpu := Decimal.parse?_eq_some_iff.symm

theorem Number.not_mem (h : Number text cpu) {c : Char} (other : c ≠ '+' ∧ c.isDigit = false) : c ∉ text := by
  intro mem
  rcases h.1.mem mem with same | digit
  · exact other.1 same
  · exact Bool.false_ne_true (other.2.symm.trans digit)

/-- The processors that a part of a list names: one of them, or those of a range. A range from a larger to a smaller
number has no members, and a part that is neither a number nor two numbers with a hyphen between them names nothing.
The empty part is one of these. -/
inductive Part : List Char → List CpuId → Prop
  | single {text : List Char} {cpu : CpuId} (number : Number text cpu) : Part text [cpu]
  | range {first last : List Char} {a b : CpuId} (low : Number first a) (high : Number last b) (le : a ≤ b) :
    Part (first ++ '-' :: last) (List.range' a (b + 1 - a))
  | reversed {first last : List Char} {a b : CpuId} (low : Number first a) (high : Number last b) (lt : b < a) :
    Part (first ++ '-' :: last) []
  | malformed {text : List Char} (single : ∀ cpu, ¬ Number text cpu)
    (range : ∀ first last a b, text = first ++ '-' :: last → Number first a → ¬ Number last b) : Part text []

/-- The processors that are read of a part. -/
def numbersOf (part : List Char) : List CpuId := ((ofPart part).map CpuRange.toList).getD []

theorem ofPart_of_clear (clear : '-' ∉ part) :
    ofPart part = (Decimal.parse? wordLimit part).map fun cpu => ⟨cpu, cpu⟩ := by
  have whole : part.dropWhile (· ≠ '-') = [] :=
    List.dropWhile_eq_nil_iff.2 fun c mem => decide_eq_true fun same => clear (same ▸ mem)
  simp only [ofPart, whole]

theorem ofPart_append (clear : '-' ∉ first) (last : List Char) :
    ofPart (first ++ '-' :: last) =
      (Decimal.parse? wordLimit first).bind fun a => (Decimal.parse? wordLimit last).map fun b => ⟨a, b⟩ := by
  have other : ∀ c ∈ first, decide (c ≠ '-') = true := fun c mem =>
    decide_eq_true fun same => clear (same ▸ mem)
  have front : (first ++ '-' :: last).takeWhile (· ≠ '-') = first := by
    rw [List.takeWhile_append_of_pos other, List.takeWhile_cons_of_neg (by simp), List.append_nil]
  have back : (first ++ '-' :: last).dropWhile (· ≠ '-') = '-' :: last := by
    rw [List.dropWhile_append_of_pos other, List.dropWhile_cons_of_neg (by simp)]
  simp only [ofPart, front, back]
  cases Decimal.parse? wordLimit first with
  | none => rfl
  | some a => cases Decimal.parse? wordLimit last with
    | none => rfl
    | some b => rfl

theorem numbersOf_append (low : Number first a) (high : Number last b) :
    numbersOf (first ++ '-' :: last) = List.range' a (b + 1 - a) := by
  rw [numbersOf, ofPart_append (low.not_mem ⟨by decide, by decide⟩), number_iff.1 low, number_iff.1 high]
  rfl

/-- **A part is read as what it names.** -/
theorem Part.numbersOf_eq (h : Part part cpus) : numbersOf part = cpus := by
  cases h with
  | @single _ cpu number =>
    rw [numbersOf, ofPart_of_clear (number.not_mem ⟨by decide, by decide⟩), number_iff.1 number]
    exact CpuRange.toList_single cpu
  | range low high le => exact numbersOf_append low high
  | reversed low high lt =>
    rw [numbersOf_append low high, Nat.sub_eq_zero_of_le lt]
    rfl
  | malformed single range =>
    have none : ofPart part = none := by
      by_cases hyphen : '-' ∈ part
      · obtain ⟨first, last, rfl, clear⟩ := List.eq_append_cons_of_mem hyphen
        rw [ofPart_append clear]
        refine Option.eq_none_iff_forall_ne_some.2 fun found given => ?_
        obtain ⟨a, low, given⟩ := Option.bind_eq_some_iff.1 given
        obtain ⟨b, high, -⟩ := Option.map_eq_some_iff.1 given
        exact range first last a b rfl (number_iff.2 low) (number_iff.2 high)
      · rw [ofPart_of_clear hyphen]
        cases number : Decimal.parse? wordLimit part with
        | none => rfl
        | some cpu => exact absurd (number_iff.2 number) (single cpu)
    rw [numbersOf, none]
    rfl

theorem exists_part (part : List Char) : ∃ cpus, Part part cpus := by
  by_cases single : ∃ cpu, Number part cpu
  · obtain ⟨cpu, number⟩ := single
    exact ⟨_, .single number⟩
  · by_cases range : ∃ first last a b, part = first ++ '-' :: last ∧ Number first a ∧ Number last b
    · obtain ⟨first, last, a, b, rfl, low, high⟩ := range
      rcases Nat.lt_or_ge b a with lt | le
      · exact ⟨_, .reversed low high lt⟩
      · exact ⟨_, .range low high le⟩
    · exact ⟨_, .malformed (fun cpu number => single ⟨cpu, number⟩) fun first last a b whole low high =>
        range ⟨first, last, a, b, whole, low, high⟩⟩

theorem part_iff : Part part cpus ↔ numbersOf part = cpus := by
  refine ⟨Part.numbersOf_eq, fun same => ?_⟩
  obtain ⟨others, names⟩ := exists_part part
  rwa [← same, names.numbersOf_eq]

/-! ## What a text says -/

/-- The processors that a text lists, part by part: a part ends at a comma or at the end of the text, and blanks
around it, the end of a line for one, do not count. -/
inductive Spells : List Char → List CpuId → Prop
  | last {text part : List Char} {cpus : List CpuId} (clear : ',' ∉ text) (trimmed : Trimmed isBlank text part)
    (names : Part part cpus) : Spells text cpus
  | more {piece part rest : List Char} {cpus others : List CpuId} (clear : ',' ∉ piece)
    (trimmed : Trimmed isBlank piece part) (names : Part part cpus) (behind : Spells rest others) :
    Spells (piece ++ ',' :: rest) (cpus ++ others)

theorem toList_parse (text : List Char) : (parse text).toList = (parts text).flatMap numbersOf := by
  have cut : pieces (· = ',') (trim text) = (trim text).splitOn ',' := by
    rw [pieces_eq_splitOnP, List.splitOn_eq_splitOnP]
    rfl
  rw [← parts_trim, parts, ← cut, toList, parse, List.flatMap_map]
  induction pieces (· = ',') (trim text) with
  | nil => rfl
  | cons piece rest ih =>
    rw [List.flatMap_cons, ← ih, numbersOf, List.filterMap_cons]
    cases ofPart (trim piece) with
    | none => rfl
    | some range => rfl

/-- **What a text says is read of it.** -/
theorem Spells.toList_eq (h : Spells text cpus) : (parse text).toList = cpus := by
  rw [toList_parse]
  induction h with
  | last clear trimmed names =>
    rw [parts_of_clear clear, trimmed_iff_trim.1 trimmed, List.flatMap_singleton, names.numbersOf_eq]
  | more clear trimmed names behind ih =>
    rw [parts_append clear, trimmed_iff_trim.1 trimmed, List.flatMap_cons, names.numbersOf_eq, ih]

/-- Every text says something. -/
theorem exists_spells (text : List Char) : ∃ cpus, Spells text cpus := by
  induction text using comma_induction with
  | last text clear =>
    obtain ⟨cpus, names⟩ := exists_part (trim text)
    exact ⟨cpus, .last clear (trimmed_trim text) names⟩
  | more piece rest clear ih =>
    obtain ⟨cpus, names⟩ := exists_part (trim piece)
    obtain ⟨others, behind⟩ := ih
    exact ⟨cpus ++ others, .more clear (trimmed_trim piece) names behind⟩

theorem spells_iff : Spells text cpus ↔ (parse text).toList = cpus := by
  refine ⟨Spells.toList_eq, fun same => ?_⟩
  obtain ⟨others, behind⟩ := exists_spells text
  rwa [← same, behind.toList_eq]

example : (parse " 4-5 ,x,9-7,,+007\n".toList).toList = [4, 5, 7] := by decide +kernel

/-- **A list is read part by part**: of two texts with a comma between them one is read after the other. -/
theorem toList_parse_append (front back : List Char) :
    (parse (front ++ ',' :: back)).toList = (parse front).toList ++ (parse back).toList := by
  simp only [toList_parse]
  induction front using comma_induction with
  | last front clear => rw [parts_append clear, parts_of_clear clear, List.flatMap_cons, List.flatMap_singleton]
  | more piece rest clear ih =>
    rw [List.append_assoc, List.cons_append, parts_append clear, parts_append clear, List.flatMap_cons,
      List.flatMap_cons, ih, List.append_assoc]

/-- Whether a part of a text names a processor. -/
def Covers (text : List Char) (cpu : CpuId) : Prop :=
  ∃ piece ∈ text.splitOn ',', ∃ part cpus, Trimmed isBlank piece part ∧ Part part cpus ∧ cpu ∈ cpus

theorem covers_iff : Covers text cpu ↔ (parse text).contains cpu = true := by
  rw [← mem_toList, toList_parse, parts, List.flatMap_map, List.mem_flatMap]
  refine exists_congr fun piece => and_congr_right fun _ => ⟨?_, fun mem => ?_⟩
  · rintro ⟨part, cpus, trimmed, names, mem⟩
    rwa [trimmed_iff_trim.1 trimmed, names.numbersOf_eq]
  · exact ⟨trim piece, _, trimmed_trim piece, part_iff.2 rfl, mem⟩

end CpuList

/-! ## The list of a set -/

/-- A range as it is written: a number alone if it has no other. -/
def CpuRange.spelling (r : CpuRange) : List Char :=
  if r.first = r.last then (toString r.first).toList
  else (toString r.first).toList ++ '-' :: (toString r.last).toList

namespace CpuList

open Text

variable {cpus : List CpuId} {cpu : CpuId}

/-- Ranges as they are written, up to the end of the line. -/
def spelling : List CpuRange → List Char
  | [] => ['\n']
  | [r] => r.spelling ++ ['\n']
  | r :: next :: rest => r.spelling ++ ',' :: spelling (next :: rest)

/-- Numbers as ranges: a number goes into the range behind it if that begins with the next number. -/
def runs : List CpuId → List CpuRange
  | [] => []
  | cpu :: rest =>
    match runs rest with
    | [] => [⟨cpu, cpu⟩]
    | r :: more => if r.first = cpu + 1 then ⟨cpu, r.last⟩ :: more else ⟨cpu, cpu⟩ :: r :: more

/-- The list of a set of processors as a kernel writes it: the ranges of its numbers in ascending order, none of
which begins where another one ends. -/
def canonical (set : Finset CpuId) : List Char := spelling (runs (set.sort (· ≤ ·)))

theorem number_toString (word : cpu < wordLimit) : Number (toString cpu).toList cpu :=
  ⟨Decimal.numeral_toString cpu, word⟩

theorem part_spelling {r : CpuRange} (le : r.first ≤ r.last) (word : r.last < wordLimit) :
    Part r.spelling r.toList := by
  have low : Number (toString r.first).toList r.first := number_toString (Nat.lt_of_le_of_lt le word)
  rw [CpuRange.spelling, CpuRange.toList, CpuRange.size]
  split
  · rename_i same
    rw [← same, Nat.add_sub_cancel_left]
    exact .single low
  · exact .range low (number_toString word) le

theorem mem_spelling {r : CpuRange} {c : Char} (mem : c ∈ r.spelling) : c = '-' ∨ c.isDigit = true := by
  have digit {n : Nat} (mem : c ∈ (toString n).toList) : c.isDigit = true :=
    (Decimal.writes_toString n).isDigit mem
  unfold CpuRange.spelling at mem
  split at mem
  · exact .inr (digit mem)
  · rcases List.mem_append.1 mem with mem | mem
    · exact .inr (digit mem)
    · exact (List.mem_cons.1 mem).imp_right digit

theorem trimmed_spelling (r : CpuRange) : Trimmed isBlank r.spelling r.spelling := by
  have solid : ∀ c ∈ r.spelling, isBlank c = false := fun c mem => by
    rcases mem_spelling mem with rfl | digit
    · rfl
    · exact Decimal.isBlank_of_isDigit digit
  exact .self (fun c head => solid c (List.mem_of_head? head)) fun c last => solid c (List.mem_of_getLast? last)

theorem clear_spelling (r : CpuRange) : ',' ∉ r.spelling := fun mem => by
  rcases mem_spelling mem with same | digit
  · cases same
  · cases digit

/-- **Ranges are read as they are written.** -/
theorem spells_spelling (ranges : List CpuRange) (valid : ∀ r ∈ ranges, r.first ≤ r.last ∧ r.last < wordLimit) :
    Spells (spelling ranges) (ranges.flatMap CpuRange.toList) := by
  have blank : ∀ c ∈ ['\n'], isBlank c = true := List.forall_mem_singleton.2 rfl
  induction ranges with
  | nil =>
    refine .last (by decide) (.nothing blank) (.malformed (fun cpu number => ?_) fun first last a b whole => ?_)
    · exact number.1.ne_nil rfl
    · exact absurd whole (by simp)
  | cons r rest ih =>
    obtain ⟨le, word⟩ := valid r List.mem_cons_self
    have names := part_spelling le word
    cases rest with
    | nil =>
      have clear : ',' ∉ r.spelling ++ ['\n'] := by
        simp [clear_spelling r]
      rw [List.flatMap_singleton]
      exact .last clear ((trimmed_spelling r).append blank) names
    | cons next rest =>
      rw [List.flatMap_cons]
      exact .more (clear_spelling r) (trimmed_spelling r) names
        (ih fun other mem => valid other (List.mem_cons_of_mem r mem))

/-- The ranges of numbers have these numbers, and none is empty. -/
theorem runs_spec (cpus : List CpuId) :
    (runs cpus).flatMap CpuRange.toList = cpus ∧ ∀ r ∈ runs cpus, r.first ≤ r.last := by
  induction cpus with
  | nil => exact ⟨rfl, fun _ mem => (List.not_mem_nil mem).elim⟩
  | cons cpu rest ih =>
    obtain ⟨same, filled⟩ := ih
    unfold runs
    -- The number begins a range of its own, unless the range behind it begins with the next number.
    split
    · rename_i none
      rw [none] at same
      refine ⟨by rw [List.flatMap_singleton, CpuRange.toList_single, ← same, List.flatMap_nil], ?_⟩
      exact List.forall_mem_singleton.2 (Nat.le_refl cpu)
    · rename_i r more given
      rw [given] at same filled
      obtain ⟨le, filled⟩ := List.forall_mem_cons.1 filled
      split
      · rename_i next
        refine ⟨?_, List.forall_mem_cons.2 ⟨?_, filled⟩⟩
        · rw [List.flatMap_cons, CpuRange.toList_cons le next, List.cons_append, ← List.flatMap_cons, same]
        · exact Nat.le_trans (Nat.le_of_lt (Nat.lt_of_lt_of_eq (Nat.lt_succ_self cpu) next.symm)) le
      · refine ⟨?_, List.forall_mem_cons.2 ⟨Nat.le_refl cpu, List.forall_mem_cons.2 ⟨le, filled⟩⟩⟩
        rw [List.flatMap_cons, CpuRange.toList_single, same, List.singleton_append]

theorem mem_of_mem_runs {r : CpuRange} (mem : r ∈ runs cpus) : r.first ∈ cpus ∧ r.last ∈ cpus := by
  obtain ⟨same, filled⟩ := runs_spec cpus
  have le := filled r mem
  have inside {cpu : CpuId} (between : r.contains cpu = true) : cpu ∈ cpus :=
    same ▸ List.mem_flatMap.2 ⟨r, mem, (r.mem_toList cpu).2 between⟩
  exact ⟨inside (by simp [CpuRange.contains, le]), inside (by simp [CpuRange.contains, le])⟩

/-- The ranges of ascending numbers are as long as can be: between two of them a number is missing. -/
theorem runs_apart (ascending : cpus.Pairwise (· < ·)) :
    (runs cpus).Pairwise fun r next => r.last + 1 < next.first := by
  induction cpus with
  | nil => exact .nil
  | cons cpu rest ih =>
    obtain ⟨above, ascending⟩ := List.pairwise_cons.1 ascending
    have apart := ih ascending
    have starts : ∀ r ∈ runs rest, cpu < r.first ∧ r.first ≤ r.last := fun r mem =>
      ⟨above _ (mem_of_mem_runs mem).1, (runs_spec rest).2 r mem⟩
    unfold runs
    split
    · exact List.pairwise_singleton _ _
    · rename_i r more given
      rw [given] at apart starts
      obtain ⟨first, later⟩ := List.pairwise_cons.1 apart
      obtain ⟨lt, le⟩ := starts r List.mem_cons_self
      split
      · exact List.pairwise_cons.2 ⟨first, later⟩
      · rename_i other
        refine List.pairwise_cons.2 ⟨fun next mem => ?_, apart⟩
        rcases List.mem_cons.1 mem with rfl | mem
        · exact Nat.lt_of_le_of_ne lt (Ne.symm other)
        · exact Nat.lt_of_le_of_lt (Nat.le_trans lt le) (Nat.lt_of_succ_lt (first next mem))

/-- **The list of a set is read back as the set**, in ascending order. -/
theorem spells_canonical (set : Finset CpuId) (words : ∀ cpu ∈ set, cpu < wordLimit) :
    Spells (canonical set) (set.sort (· ≤ ·)) := by
  have spelled := spells_spelling (runs (set.sort (· ≤ ·))) fun r mem =>
    ⟨(runs_spec _).2 r mem, words _ ((Finset.mem_sort _).1 (mem_of_mem_runs mem).2)⟩
  rwa [(runs_spec _).1] at spelled

example : spelling (runs [0, 1, 2, 3, 5]) = "0-3,5\n".toList := by decide +kernel

end CpuList

end NodeHeap
