import Mathlib.Data.List.DropRight
import NodeHeap.Text.Blank

/-!
# Margins

What a list leaves when the elements of a kind are cut off at both of its ends.

* `Trimmed` — this, as a property of what is left; `trimmed_iff` — one list has it.
* `Trimmed.prepend`, `Trimmed.append` — more of these elements at the ends make no difference.
* `Text.trimmed_iff_trim` — the same of a text and the blanks at its ends.
-/

namespace NodeHeap

variable {α : Type} {cut : α → Bool} {front whole kept back : List α}

/-- A list is what another one leaves without the elements of a kind at its ends: what is cut off are such
elements, and what is left, if anything, begins and ends with elements that are not. -/
structure Trimmed (cut : α → Bool) (whole kept : List α) : Prop where
  factor : ∃ front back, whole = front ++ kept ++ back ∧ (∀ x ∈ front, cut x = true) ∧ ∀ x ∈ back, cut x = true
  first : ∀ x, kept.head? = some x → cut x = false
  last : ∀ x, kept.getLast? = some x → cut x = false

namespace Trimmed

theorem prepend (h : Trimmed cut whole kept) (all : ∀ x ∈ front, cut x = true) :
    Trimmed cut (front ++ whole) kept := by
  obtain ⟨before, behind, rfl, inFront, inBack⟩ := h.factor
  refine ⟨⟨front ++ before, behind, by simp only [List.append_assoc], fun x mem => ?_, inBack⟩, h.first, h.last⟩
  exact (List.mem_append.1 mem).elim (all x) (inFront x)

theorem append (h : Trimmed cut whole kept) (all : ∀ x ∈ back, cut x = true) :
    Trimmed cut (whole ++ back) kept := by
  obtain ⟨before, behind, rfl, inFront, inBack⟩ := h.factor
  refine ⟨⟨before, behind ++ back, by simp only [List.append_assoc], inFront, fun x mem => ?_⟩, h.first, h.last⟩
  exact (List.mem_append.1 mem).elim (inBack x) (all x)

theorem self (first : ∀ x, kept.head? = some x → cut x = false)
    (last : ∀ x, kept.getLast? = some x → cut x = false) : Trimmed cut kept kept where
  factor := ⟨[], [], (List.append_nil kept).symm, fun _ mem => (List.not_mem_nil mem).elim,
    fun _ mem => (List.not_mem_nil mem).elim⟩
  first := first
  last := last

theorem nothing (all : ∀ x ∈ whole, cut x = true) : Trimmed cut whole [] where
  factor := ⟨whole, [], by simp, all, fun _ mem => (List.not_mem_nil mem).elim⟩
  first _ head := by cases head
  last _ last := by cases last

end Trimmed

theorem trimmed_drop (cut : α → Bool) (whole : List α) : Trimmed cut whole ((whole.dropWhile cut).rdropWhile cut) where
  factor := by
    refine ⟨whole.takeWhile cut, (whole.dropWhile cut).rtakeWhile cut, ?_, fun x => List.mem_takeWhile_imp,
      fun x => List.mem_rtakeWhile_imp⟩
    rw [List.append_assoc, List.rdropWhile_append_rtakeWhile, List.takeWhile_append_dropWhile]
  first x head := by
    obtain ⟨back, split⟩ := List.rdropWhile_prefix cut (whole.dropWhile cut)
    have front := List.head?_dropWhile_not cut whole
    rw [← split, List.head?_append, head] at front
    exact front
  last x last := by
    have filled : (whole.dropWhile cut).rdropWhile cut ≠ [] := fun none => by
      rw [none] at last
      cases last
    rw [List.getLast?_eq_some_getLast filled] at last
    cases last
    exact Bool.of_not_eq_true (List.rdropWhile_last_not cut _ filled)

/-- **There is no other one.** -/
theorem Trimmed.eq_drop (h : Trimmed cut whole kept) : kept = (whole.dropWhile cut).rdropWhile cut := by
  obtain ⟨front, back, rfl, inFront, behind⟩ := h.factor
  rw [List.append_assoc, List.dropWhile_append_of_pos inFront]
  cases kept with
  | nil => rw [List.nil_append, List.dropWhile_eq_nil_iff.2 behind, List.rdropWhile_nil]
  | cons x rest =>
    have ends : (x :: rest).rdropWhile cut = x :: rest :=
      List.rdropWhile_eq_self_iff.2 fun filled all =>
        Bool.false_ne_true ((h.last _ (List.getLast?_eq_some_getLast filled)).symm.trans all)
    have starts := h.first x rfl
    rw [List.cons_append, List.dropWhile_cons_of_neg (by simp [starts])]
    rw [← List.cons_append, List.rdropWhile, List.reverse_append,
      List.dropWhile_append_of_pos fun y mem => behind y (List.mem_reverse.1 mem)]
    exact ends.symm

theorem trimmed_iff : Trimmed cut whole kept ↔ (whole.dropWhile cut).rdropWhile cut = kept :=
  ⟨fun h => h.eq_drop.symm, fun same => same ▸ trimmed_drop cut whole⟩

/-! ## Texts -/

namespace Text

variable {text part gap : List Char}

theorem trimmed_iff_trim : Trimmed isBlank text part ↔ trim text = part := trimmed_iff

theorem trimmed_trim (text : List Char) : Trimmed isBlank text (trim text) := trimmed_drop isBlank text

theorem trim_prepend (blank : ∀ c ∈ gap, isBlank c = true) (text : List Char) : trim (gap ++ text) = trim text :=
  trimmed_iff_trim.1 ((trimmed_trim text).prepend blank)

theorem trim_append (blank : ∀ c ∈ gap, isBlank c = true) (text : List Char) : trim (text ++ gap) = trim text :=
  trimmed_iff_trim.1 ((trimmed_trim text).append blank)

end Text

end NodeHeap
