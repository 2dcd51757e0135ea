import Mathlib.Data.List.Forall2
import NodeHeap.Policy
import NodeHeap.Proofs.Margins

/-!
# Texts that name a policy

A policy is named by its name, with each letter in either case and each hyphen as a hyphen or an underscore, and with
any blanks around it. No other text names a policy, and an error quotes the text as it is.

* `Policy.Stands` — what may be written for a character of a name; `Policy.foldChar_eq_iff` — just that folds to it.
* `Policy.Spells` — the texts that name a policy; `Policy.spells_iff` — just these are read as it.
* `Policy.names_are_read` — the law.
-/

namespace NodeHeap.Policy

open Text

variable {text : List Char} {policy other : Policy} {c d : Char}

/-! ## Characters -/

/-- A character that may be written for one of a name. -/
inductive Stands : Char → Char → Prop
  | same (c : Char) : Stands c c
  /-- A letter is written as a capital. -/
  | capital {c : Char} (letter : c.isLower = true) : Stands c.toUpper c
  /-- A hyphen is written as an underscore. -/
  | underscore : Stands '_' '-'

/-- A small letter, by its number. -/
def smallLetter (i : Nat) : Char := .ofNat (97 + i)

def capitalLetter (i : Nat) : Char := .ofNat (65 + i)

theorem exists_smallLetter (letter : c.isLower = true) : ∃ i < 26, c = smallLetter i := by
  have bounds : (decide ('a'.val ≤ c.val) && decide (c.val ≤ 'z'.val)) = true := letter
  rw [Bool.and_eq_true, decide_eq_true_eq, decide_eq_true_eq] at bounds
  have least : 97 ≤ c.toNat := UInt32.le_iff_toNat_le.1 bounds.1
  have most : c.toNat ≤ 122 := UInt32.le_iff_toNat_le.1 bounds.2
  refine ⟨c.toNat - 97, by omega, ?_⟩
  rw [smallLetter, Nat.add_sub_cancel' least, Char.ofNat_toNat]

theorem exists_capitalLetter (letter : c.isUpper = true) : ∃ i < 26, c = capitalLetter i := by
  have bounds : 'A'.val ≤ c.val ∧ c.val ≤ 'Z'.val := of_decide_eq_true letter
  have least : 65 ≤ c.toNat := UInt32.le_iff_toNat_le.1 bounds.1
  have most : c.toNat ≤ 90 := UInt32.le_iff_toNat_le.1 bounds.2
  refine ⟨c.toNat - 65, by omega, ?_⟩
  rw [capitalLetter, Nat.add_sub_cancel' least, Char.ofNat_toNat]

/-- What becomes of letters. -/
theorem letters : ∀ i < 26, (smallLetter i).toUpper = capitalLetter i ∧ (smallLetter i).toLower = smallLetter i ∧
    (capitalLetter i).toLower = smallLetter i ∧ (smallLetter i).isLower = true ∧ (capitalLetter i).isAlpha = true ∧
    smallLetter i ≠ '_' ∧ capitalLetter i ≠ '_' := by
  decide

def Plain (c : Char) : Prop := c.isLower = true ∨ c = '-'

theorem plain_of_mem_name (policy : Policy) : ∀ c ∈ policy.name.toList, Plain c := by
  unfold Plain
  cases policy
  all_goals simp [name]

theorem Plain.foldChar_eq (plain : Plain c) : foldChar c = c := by
  rcases plain with letter | rfl
  · obtain ⟨i, lt, rfl⟩ := exists_smallLetter letter
    obtain ⟨-, same, -, -, -, other, -⟩ := letters i lt
    rw [foldChar, if_neg other, same]
  · rfl

/-- **What folds to a character of a name** is what may be written for it. -/
theorem foldChar_eq_iff (plain : Plain c) : foldChar d = c ↔ Stands d c := by
  constructor
  · intro folded
    unfold foldChar at folded
    split at folded
    · rename_i under
      rw [under, ← folded]
      exact .underscore
    · by_cases capital : d.isUpper = true
      · -- A capital is that of the letter to which it folds.
        obtain ⟨i, lt, rfl⟩ := exists_capitalLetter capital
        obtain ⟨back, -, small, letter, -⟩ := letters i lt
        rw [← folded, small, ← back]
        exact .capital letter
      · have same : d.toLower = d := dif_neg fun range => capital (decide_eq_true range)
        rw [same] at folded
        exact folded ▸ .same d
  · rintro (_ | letter | _)
    · exact plain.foldChar_eq
    · obtain ⟨i, lt, rfl⟩ := exists_smallLetter letter
      obtain ⟨capital, -, small, -, -, -, other⟩ := letters i lt
      rw [capital, foldChar, if_neg other, small]
    · rfl

/-- A character that may stand in the name of a policy, in some spelling. -/
def Admitted (c : Char) : Prop := c.isAlpha = true ∨ c = '-' ∨ c = '_'

theorem Stands.admitted (stands : Stands d c) (plain : Plain c) : Admitted d := by
  cases stands with
  | same =>
    rcases plain with letter | rfl
    · exact .inl (Bool.or_eq_true_iff.2 (.inr letter))
    · exact .inr (.inl rfl)
  | capital letter =>
    obtain ⟨i, lt, rfl⟩ := exists_smallLetter letter
    obtain ⟨capital, -, -, -, alpha, -⟩ := letters i lt
    exact .inl (capital ▸ alpha)
  | underscore => exact .inr (.inr rfl)

theorem isBlank_of_isAlpha (letter : c.isAlpha = true) : isBlank c = false := by
  have blanks : ∀ i < 26, isBlank (capitalLetter i) = false ∧ isBlank (smallLetter i) = false := by decide
  rcases Bool.or_eq_true_iff.1 letter with capital | small
  · obtain ⟨i, lt, rfl⟩ := exists_capitalLetter capital
    exact (blanks i lt).1
  · obtain ⟨i, lt, rfl⟩ := exists_smallLetter small
    exact (blanks i lt).2

theorem Admitted.isBlank_eq (admitted : Admitted c) : isBlank c = false := by
  rcases admitted with letter | rfl | rfl
  · exact isBlank_of_isAlpha letter
  · rfl
  · rfl

/-! ## Texts -/

/-- A text that names a policy: its name as it may be written, and any blanks around it. -/
def Spells (text : List Char) (policy : Policy) : Prop :=
  ∃ front word back, text = front ++ word ++ back ∧ (∀ c ∈ front, isBlank c = true) ∧
    List.Forall₂ Stands word policy.name.toList ∧ ∀ c ∈ back, isBlank c = true

theorem map_foldChar_eq_iff {word name : List Char} (plain : ∀ c ∈ name, Plain c) :
    word.map foldChar = name ↔ List.Forall₂ Stands word name := by
  induction name generalizing word with
  | nil => rw [List.map_eq_nil_iff, List.forall₂_nil_right_iff]
  | cons c name ih =>
    obtain ⟨first, later⟩ := List.forall_mem_cons.1 plain
    cases word with
    | nil => exact iff_of_false (by simp) fun h => by cases h
    | cons d word =>
      rw [List.map_cons, List.cons.injEq, List.forall₂_cons, foldChar_eq_iff first, ih later]

theorem admitted_of_stands {word : List Char} (stands : List.Forall₂ Stands word policy.name.toList) :
    ∀ c ∈ word, Admitted c := by
  intro d mem
  obtain ⟨i, inside, rfl⟩ := List.getElem_of_mem mem
  have named := stands.length_eq ▸ inside
  exact (stands.get inside named).admitted (plain_of_mem_name policy _ (List.getElem_mem named))

/-- **A text names a policy if what is left of it without the blanks around folds to the name.** -/
theorem spells_iff_trim : Spells text policy ↔ (trim text).map foldChar = policy.name.toList := by
  rw [map_foldChar_eq_iff (plain_of_mem_name policy)]
  constructor
  · rintro ⟨front, word, back, rfl, inFront, stands, behind⟩
    have solid : ∀ c ∈ word, isBlank c = false := fun c mem => (admitted_of_stands stands c mem).isBlank_eq
    have whole : Trimmed isBlank (front ++ (word ++ back)) word :=
      ((Trimmed.self (fun c head => solid c (List.mem_of_mem_head? head))
        fun c last => solid c (List.mem_of_getLast? last)).append behind).prepend inFront
    rwa [List.append_assoc, trimmed_iff_trim.1 whole]
  · intro stands
    obtain ⟨front, back, whole, inFront, behind⟩ := (trimmed_trim text).factor
    exact ⟨front, trim text, back, whole, inFront, stands, behind⟩

theorem eq_of_name_eq (same : policy.name.toList = other.name.toList) : policy = other := by
  cases policy
  all_goals
    cases other
    all_goals first | rfl | exact absurd same (by decide)

theorem spells_iff {spelling : String} : ofName spelling = .ok policy ↔ Spells spelling.toList policy := by
  rw [spells_iff_trim]
  unfold ofName
  split
  · rename_i found given
    have named : found.name.toList = foldName spelling := by simpa using List.find?_some given
    constructor
    · rintro ⟨⟩
      exact named.symm
    · intro same
      rw [eq_of_name_eq (named.trans same)]
  · rename_i none
    refine iff_of_false (by simp) fun same => ?_
    have listed : policy ∈ all := by cases policy <;> decide
    exact List.find?_eq_none.1 none policy listed (by simp [foldName, same])

/-- What names no policy is refused, and the error quotes it. -/
theorem ofName_eq_error_iff {spelling : String} {error : AllocError} :
    ofName spelling = .error error ↔
      error = .invalidConfig (.unknownPolicy spelling) ∧ ∀ policy, ¬Spells spelling.toList policy := by
  have refused : ∀ policy, ¬Spells spelling.toList policy ↔ ofName spelling ≠ .ok policy := fun policy =>
    not_congr spells_iff.symm
  simp only [refused]
  unfold ofName
  split
  · rename_i found _
    exact iff_of_false (by simp) fun ⟨_, others⟩ => others found rfl
  · simp [eq_comm]

/-- The error in words quotes the text and lists the names. -/
theorem message_unknownPolicy (spelling : String) :
    (AllocError.invalidConfig (.unknownPolicy spelling)).message =
      "Invalid configuration: unknown policy '" ++ spelling ++
        ("' (expected one of: " ++ ", ".intercalate (all.map name) ++ ")") := by
  have names : "' (expected one of: " ++ ", ".intercalate (all.map name) ++ ")" =
      "' (expected one of: default, distance-first, round-robin, balanced)" := by
    decide +kernel
  have front : "Invalid configuration: " ++ "unknown policy '" = "Invalid configuration: unknown policy '" := by
    decide +kernel
  rw [names, ← front, String.append_assoc, String.append_assoc]
  show "Invalid configuration: " ++ ("unknown policy '" ++ spelling ++ _) = _
  rw [String.append_assoc]
  rfl

theorem ofName_name (policy : Policy) : ofName policy.name = .ok policy := by
  have whole : List.Forall₂ Stands policy.name.toList policy.name.toList := List.forall₂_same.2 fun c _ => .same c
  exact spells_iff.2 ⟨[], policy.name.toList, [], by simp, by simp, whole, by simp⟩

theorem Spells.admitted (named : Spells text policy) : ∀ c ∈ trim text, Admitted c :=
  admitted_of_stands ((map_foldChar_eq_iff (plain_of_mem_name policy)).1 (spells_iff_trim.1 named))

/-! ## The law -/

/-- **Names of policies are read by this grammar and no other.** A text is read as a policy just if it names it. If it
names none it is refused, by an error that quotes it as it is and lists the names. No text names two policies, and each
name is read as its policy. What is left of a text that is read, without the blanks around, are letters of the basic
alphabet, hyphens and underscores; so a text with any other character there, a blank or a look-alike of one of these, is
refused. -/
theorem names_are_read (spelling : String) :
    (∀ policy, ofName spelling = .ok policy ↔ Spells spelling.toList policy) ∧
      (∀ error, ofName spelling = .error error ↔
        error = .invalidConfig (.unknownPolicy spelling) ∧ ∀ policy, ¬Spells spelling.toList policy) ∧
      (AllocError.invalidConfig (.unknownPolicy spelling)).message =
        "Invalid configuration: unknown policy '" ++ spelling ++
          ("' (expected one of: " ++ ", ".intercalate (all.map name) ++ ")") ∧
      (∀ policy other, Spells spelling.toList policy → Spells spelling.toList other → policy = other) ∧
      (∀ policy, ofName policy.name = .ok policy) ∧
      ∀ c ∈ trim spelling.toList, ¬Admitted c →
        ofName spelling = .error (.invalidConfig (.unknownPolicy spelling)) := by
  refine ⟨fun policy => spells_iff, fun error => ofName_eq_error_iff, message_unknownPolicy spelling, ?_, ofName_name,
    ?_⟩
  · intro policy other named same
    rw [← spells_iff] at named same
    rw [named] at same
    exact Except.ok.inj same
  · intro c mem stranger
    exact ofName_eq_error_iff.2 ⟨rfl, fun policy named => stranger (named.admitted c mem)⟩

example : ofName "\u00a0Distance_First\n" = .ok .distanceFirst := by decide +kernel

end NodeHeap.Policy
