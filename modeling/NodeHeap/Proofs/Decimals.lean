import Mathlib.Data.List.TakeWhile
import NodeHeap.Text.Blank
import NodeHeap.Text.Decimal

/-!
# Numbers in a text

Numbers that a text writes in decimal, with blanks between them, are read back from its words.

* `Text.words_append`, `Text.words_word_append` — blanks before a word do not count, and a word ends at
  the next blank; `Text.Spaced`, `Text.spaced_iff` — the words of a text, told by the blanks around them.
* `Decimal.Writes`, `Decimal.parse?_of_writes` — a number written with any leading zeros is read as it is.
* `Decimal.Numeral`, `Decimal.parse?_eq_some_iff` — all texts that are read as a number.
* `Decimal.Lists`, `Decimal.Lists.numbers_eq` — so are numbers that are written one after the other.
-/

namespace NodeHeap.Text

/-! ## Words -/

section Words

variable {gap word rest text : List Char}

theorem pieces_cons_of_blank {c : Char} (blank : isBlank c = true) (text : List Char) :
    pieces isBlank (c :: text) = [] :: pieces isBlank text := by
  simp only [pieces, blank, if_true]

theorem words_append (blank : ∀ c ∈ gap, isBlank c = true) (text : List Char) :
    words (gap ++ text) = words text := by
  induction gap with
  | nil => rfl
  | cons c gap ih =>
    have first := blank c List.mem_cons_self
    rw [List.cons_append, words, pieces_cons_of_blank first, List.filter_cons_of_neg (by simp)]
    exact ih fun c mem => blank c (List.mem_cons_of_mem _ mem)

theorem words_of_blank (blank : ∀ c ∈ gap, isBlank c = true) : words gap = [] := by
  rw [← List.append_nil gap, words_append blank]
  rfl

/-- Characters that are not blank are one piece with the first piece of what follows. -/
theorem pieces_append (solid : ∀ c ∈ word, isBlank c = false) {first : List Char}
    {more : List (List Char)} (h : pieces isBlank rest = first :: more) :
    pieces isBlank (word ++ rest) = (word ++ first) :: more := by
  induction word with
  | nil => exact h
  | cons c word ih =>
    have later := ih fun c mem => solid c (List.mem_cons_of_mem _ mem)
    simp only [List.cons_append, pieces, solid c List.mem_cons_self, Bool.false_eq_true, if_false, later]

/-- A word goes as far as the next blank, or the end of the text. -/
theorem words_word_append (solid : ∀ c ∈ word, isBlank c = false) (some : word ≠ [])
    (apart : ∀ c, rest.head? = .some c → isBlank c = true) :
    words (word ++ rest) = word :: words rest := by
  obtain ⟨more, split⟩ : ∃ more, pieces isBlank rest = [] :: more := by
    cases rest with
    | nil => exact ⟨[], rfl⟩
    | cons c rest => exact ⟨_, pieces_cons_of_blank (apart c rfl) rest⟩
  rw [words, words, pieces_append solid split, split, List.append_nil,
    List.filter_cons_of_pos (by simp [some]), List.filter_cons_of_neg (by simp)]

/-- A text in which these words stand one after the other. There is a blank between any two of them, and there may
be more, there and at the ends. -/
inductive Spaced : List Char → List (List Char) → Prop
  | nil {gap : List Char} (blank : ∀ c ∈ gap, isBlank c = true) : Spaced gap []
  | cons {gap word rest : List Char} {more : List (List Char)} (blank : ∀ c ∈ gap, isBlank c = true)
    (solid : ∀ c ∈ word, isBlank c = false) (some : word ≠ [])
    (apart : ∀ c, rest.head? = .some c → isBlank c = true) (spaced : Spaced rest more) :
    Spaced (gap ++ word ++ rest) (word :: more)

theorem Spaced.words_eq {list : List (List Char)} (h : Spaced text list) : words text = list := by
  induction h with
  | nil blank => exact words_of_blank blank
  | cons blank solid some apart spaced ih =>
    rw [List.append_assoc, words_append blank, words_word_append solid some apart, ih]

theorem exists_spaced (text : List Char) : ∃ list, Spaced text list := by
  induction length : text.length using Nat.strongRecOn generalizing text with
  | ind n ih =>
    have blank : ∀ c ∈ text.takeWhile isBlank, isBlank c = true := fun c => List.mem_takeWhile_imp
    cases behind : text.dropWhile isBlank with
    | nil => exact ⟨[], .nil (List.dropWhile_eq_nil_iff.1 behind)⟩
    | cons first others =>
      have starts : isBlank first = false := by
        have head := List.head?_dropWhile_not isBlank text
        rw [behind] at head
        exact head
      have whole : text.takeWhile isBlank ++ (first :: others.takeWhile fun c => !isBlank c) ++
          (others.dropWhile fun c => !isBlank c) = text := by
        rw [List.append_assoc, List.cons_append, List.takeWhile_append_dropWhile, ← behind,
          List.takeWhile_append_dropWhile]
      have shorter : (others.dropWhile fun c => !isBlank c).length < n := by
        have lengths := congrArg List.length whole
        simp only [List.length_append, List.length_cons] at lengths
        omega
      obtain ⟨list, spaced⟩ := ih _ shorter _ rfl
      rw [← whole]
      refine ⟨_, .cons blank (fun c mem => ?_) (List.cons_ne_nil _ _) (fun c head => ?_) spaced⟩
      · rcases List.mem_cons.1 mem with rfl | mem
        · exact starts
        · simpa using List.mem_takeWhile_imp mem
      · have stops := List.head?_dropWhile_not (fun c => !isBlank c) others
        rw [head] at stops
        simpa using stops

/-- **The words of a text.** -/
theorem spaced_iff {list : List (List Char)} : Spaced text list ↔ words text = list := by
  refine ⟨Spaced.words_eq, fun same => ?_⟩
  obtain ⟨other, spaced⟩ := exists_spaced text
  rwa [← same, spaced.words_eq]

end Words

/-! ## Decimals -/

namespace Decimal

theorem digit?_digitChar {n : Nat} (h : n < 10) : digit? n.digitChar = some n := by
  have all : ∀ n < 10, digit? n.digitChar = some n := by decide
  exact all n h

/-- Digits are read from the left, and so is what follows them. -/
theorem digits_append (limit value : Nat) (text more : List Char) :
    digits limit value (text ++ more) =
      (digits limit value text).bind fun value => digits limit value more := by
  induction text generalizing value with
  | nil => rfl
  | cons c rest ih =>
    simp only [List.cons_append, digits]
    cases digit? c with
    | none => rfl
    | some d =>
      simp only
      split
      · exact ih _
      · rfl

theorem digits_digitChar {limit value n : Nat} (small : n < 10) (h : value * 10 + n < limit) :
    digits limit value [n.digitChar] = .ok (value * 10 + n) := by
  simp only [digits, digit?_digitChar small, h, if_true]

theorem digits_zeros {limit : Nat} (h : 0 < limit) (zeros : Nat) (text : List Char) :
    digits limit 0 (List.replicate zeros '0' ++ text) = digits limit 0 text := by
  induction zeros with
  | zero => rfl
  | succ zeros ih =>
    have first : digits limit 0 ['0'] = .ok 0 := digits_digitChar (n := 0) (by decide) h
    rw [List.replicate_succ, List.cons_append, ← List.singleton_append, digits_append, first]
    exact ih

theorem digits_toDigits {limit n : Nat} (h : n < limit) :
    digits limit 0 (Nat.toDigits 10 n) = .ok n := by
  induction n using Nat.strongRecOn with
  | ind n ih =>
    by_cases small : n < 10
    · rw [Nat.toDigits_of_lt_base small, digits_digitChar small (by omega)]
      simp
    · have shorter : digits limit 0 (Nat.toDigits 10 (n / 10)) = .ok (n / 10) :=
        ih (n / 10) (by omega) (by omega)
      have whole : n / 10 * 10 + n % 10 = n := by omega
      have last : digits limit (n / 10) [(n % 10).digitChar] = .ok n := by
        rw [digits_digitChar (Nat.mod_lt _ (by decide)) (by omega), whole]
      rw [Nat.toDigits_of_base_le (by decide) (by omega), digits_append, shorter]
      exact last

/-- A text that is a number in decimal, with leading zeros or without. -/
def Writes (text : List Char) (n : Nat) : Prop :=
  ∃ zeros, text = List.replicate zeros '0' ++ (toString n).toList

theorem writes_toString (n : Nat) : Writes (toString n).toList n := ⟨0, rfl⟩

theorem toList_toString (n : Nat) : (toString n).toList = Nat.toDigits 10 n := by
  rw [Nat.toString_eq_repr, Nat.toList_repr]

variable {text : List Char} {n : Nat}

theorem Writes.isDigit (h : Writes text n) {c : Char} (mem : c ∈ text) : c.isDigit = true := by
  obtain ⟨zeros, rfl⟩ := h
  rw [toList_toString] at mem
  rcases List.mem_append.1 mem with mem | mem
  · rw [List.eq_of_mem_replicate mem]
    rfl
  · exact Nat.isDigit_of_mem_toDigits (by decide) (by decide) mem

theorem Writes.ne_nil (h : Writes text n) : text ≠ [] := by
  obtain ⟨zeros, rfl⟩ := h
  rw [toList_toString]
  intro none
  exact Nat.toDigits_ne_nil (List.append_eq_nil_iff.1 none).2

theorem Writes.unsigned (h : Writes text n) : '+' ∉ text := by
  intro mem
  have digit := h.isDigit mem
  cases digit

theorem isBlank_of_isDigit {c : Char} (digit : c.isDigit = true) : isBlank c = false := by
  obtain ⟨low, high⟩ : 48 ≤ c.toNat ∧ c.toNat ≤ 57 := Char.isDigit_iff_toNat.1 digit
  simp only [isBlank, blankRanges, List.any_cons, List.any_nil, Bool.or_false, Bool.or_eq_false_iff,
    Bool.and_eq_false_iff, decide_eq_false_iff_not]
  omega

theorem parse_eq_digits {limit : Nat} (some : text ≠ []) (unsigned : '+' ∉ text) :
    parse limit text = digits limit 0 text := by
  unfold parse
  split
  · exact absurd rfl some
  · exact absurd List.mem_cons_self unsigned
  · exact absurd List.mem_cons_self unsigned
  · rfl

/-- **A number is read as it is written**, if it is below the limit. -/
theorem parse?_of_writes {limit : Nat} (h : Writes text n) (small : n < limit) :
    parse? limit text = some n := by
  have unsigned := h.unsigned
  have some := h.ne_nil
  obtain ⟨zeros, rfl⟩ := h
  rw [parse?, parse_eq_digits some unsigned, digits_zeros (by omega), toList_toString,
    digits_toDigits small]
  rfl

/-! ## What is read as a number -/

theorem digit?_eq_some {c : Char} {d : Nat} (h : digit? c = some d) : d < 10 ∧ c = d.digitChar := by
  unfold digit? at h
  split at h
  · rename_i between
    have low : 48 ≤ c.toNat := between.1
    have high : c.toNat ≤ 57 := between.2
    have all : ∀ k < 10, Char.ofNat (48 + k) = k.digitChar := by decide
    cases h
    have small : c.toNat - '0'.toNat < 10 := by
      show c.toNat - 48 < 10
      omega
    refine ⟨small, ?_⟩
    rw [← all _ small, show 48 + (c.toNat - '0'.toNat) = c.toNat from Nat.add_sub_cancel' low, Char.ofNat_toNat]
  · cases h

theorem writes_digitChar {d : Nat} (small : d < 10) : Writes [d.digitChar] d :=
  ⟨0, by rw [toList_toString, Nat.toDigits_of_lt_base small]; rfl⟩

theorem Writes.push (h : Writes text n) {d : Nat} (small : d < 10) :
    Writes (text ++ [d.digitChar]) (n * 10 + d) := by
  obtain ⟨zeros, rfl⟩ := h
  cases n with
  | zero =>
    -- The number was written with zeros only, and they are leading ones now.
    refine ⟨zeros + 1, ?_⟩
    rw [Nat.zero_mul, Nat.zero_add, toList_toString, toList_toString, Nat.toDigits_of_lt_base small,
      List.replicate_succ']
    rfl
  | succ n =>
    have front : ((n + 1) * 10 + d) / 10 = n + 1 := by omega
    have last : ((n + 1) * 10 + d) % 10 = d := by omega
    have whole : Nat.toDigits 10 ((n + 1) * 10 + d) = Nat.toDigits 10 (n + 1) ++ [d.digitChar] := by
      rw [Nat.toDigits_of_base_le (by decide) (by omega), front, last]
    exact ⟨zeros, by rw [toList_toString, toList_toString, whole, List.append_assoc]⟩

/-- What digits are read as, behind a number or behind nothing, is what all of them write. -/
theorem writes_of_digits {limit value : Nat} {front : List Char} (read : digits limit value text = .ok n)
    (before : Writes front value ∨ front = [] ∧ value = 0 ∧ text ≠ []) : Writes (front ++ text) n := by
  induction text generalizing front value with
  | nil =>
    cases read
    rw [List.append_nil]
    exact before.resolve_right fun none => none.2.2 rfl
  | cons c rest ih =>
    simp only [digits] at read
    cases digit : digit? c with
    | none =>
      rw [digit] at read
      cases read
    | some d =>
      obtain ⟨small, rfl⟩ := digit?_eq_some digit
      rw [digit] at read
      simp only at read
      split at read
      · have longer : Writes (front ++ [d.digitChar]) (value * 10 + d) := by
          rcases before with before | ⟨rfl, rfl, -⟩
          · exact before.push small
          · rw [Nat.zero_mul, Nat.zero_add]
            exact writes_digitChar small
        rw [List.append_cons]
        exact ih read (.inl longer)
      · cases read

theorem lt_of_digits {limit : Nat} {c : Char} {rest : List Char} (read : digits limit 0 (c :: rest) = .ok n) :
    n < limit := by
  by_cases none : limit = 0
  · subst none
    simp only [digits, Nat.not_lt_zero, if_false] at read
    split at read
    · cases read
    · cases read
  · exact digits_lt (Nat.pos_of_ne_zero none) read

/-- A text that is a number in decimal, with leading zeros or without, and with a plus sign in front or without. -/
def Numeral (text : List Char) (n : Nat) : Prop :=
  Writes text n ∨ ∃ digits, text = '+' :: digits ∧ Writes digits n

/-- **The texts that are read as a number**, and which number that is. -/
theorem parse?_eq_some_iff {limit : Nat} : parse? limit text = some n ↔ Numeral text n ∧ n < limit := by
  constructor
  · intro h
    have read : parse limit text = .ok n := by
      unfold parse? at h
      cases given : parse limit text with
      | error fault =>
        rw [given] at h
        cases h
      | ok value =>
        rw [given] at h
        cases h
        rfl
    unfold parse at read
    split at read
    · cases read
    · cases read
    · rename_i c rest
      exact ⟨.inr ⟨c :: rest, rfl, writes_of_digits read (.inr ⟨rfl, rfl, List.cons_ne_nil c rest⟩)⟩,
        lt_of_digits read⟩
    · rename_i c rest _ _
      exact ⟨.inl (writes_of_digits read (.inr ⟨rfl, rfl, List.cons_ne_nil c rest⟩)), lt_of_digits read⟩
  · rintro ⟨writes | ⟨digits, rfl, writes⟩, small⟩
    · exact parse?_of_writes writes small
    · have read := parse?_of_writes writes small
      obtain ⟨c, rest, rfl⟩ := List.exists_cons_of_ne_nil writes.ne_nil
      rw [parse?, parse_eq_digits writes.ne_nil writes.unsigned] at read
      exact read

theorem Numeral.ne_nil (h : Numeral text n) : text ≠ [] := by
  rcases h with writes | ⟨digits, rfl, -⟩
  · exact writes.ne_nil
  · exact List.cons_ne_nil _ _

theorem Numeral.mem (h : Numeral text n) {c : Char} (mem : c ∈ text) : c = '+' ∨ c.isDigit = true := by
  rcases h with writes | ⟨digits, rfl, writes⟩
  · exact .inr (writes.isDigit mem)
  · exact (List.mem_cons.1 mem).imp_right writes.isDigit

theorem numeral_toString (n : Nat) : Numeral (toString n).toList n := .inl (writes_toString n)

/-- A text that writes numbers in decimal, one after the other, with blanks between them and any blanks
around them. -/
inductive Lists : List Char → List Nat → Prop
  | nil {gap : List Char} (blank : gap.all isBlank = true) : Lists gap []
  | cons {gap word rest : List Char} {n : Nat} {more : List Nat} (blank : gap.all isBlank = true)
    (writes : Writes word n) (apart : rest.head?.all isBlank = true) (lists : Lists rest more) :
    Lists (gap ++ word ++ rest) (n :: more)

/-- **Numbers are read as they are listed**, if they are below the limit. -/
theorem Lists.numbers_eq {limit : Nat} {numbers : List Nat} (h : Lists text numbers)
    (small : ∀ n ∈ numbers, n < limit) : (words text).filterMap (parse? limit) = numbers := by
  induction h with
  | nil blank =>
    rw [words_of_blank (List.all_eq_true.1 blank)]
    rfl
  | @cons gap word rest n more blank writes apart lists ih =>
    have solid : ∀ c ∈ word, isBlank c = false := fun c mem => isBlank_of_isDigit (writes.isDigit mem)
    have first := parse?_of_writes writes (small n List.mem_cons_self)
    have ends : ∀ c, rest.head? = some c → isBlank c = true := fun c front => by
      rw [front] at apart
      exact apart
    rw [List.append_assoc, words_append (List.all_eq_true.1 blank),
      words_word_append solid writes.ne_nil ends,
      List.filterMap_cons_some first, ih fun n mem => small n (List.mem_cons_of_mem _ mem)]

end Decimal

end NodeHeap.Text
