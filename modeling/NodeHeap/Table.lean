/-!
# Tables

A table is a list of keys with their values, newest first. A key may be bound more than once; the
newest binding is the one that is found, changed and erased.

* `Table.find?`, `Table.insert`, `Table.modify`, `Table.erase`.
* `find?_modify_of_ne`, `find?_erase_of_ne`: values of other keys are found as before.
* `find?_append`, `erase_append`: what is found in front of another table is found and erased there.
-/

namespace NodeHeap

/-- Keys with their values, newest first. -/
abbrev Table (κ α : Type) := List (κ × α)

namespace Table

variable {κ α : Type} [DecidableEq κ]

/-- The newest value of `key`. -/
def find? (key : κ) : Table κ α → Option α
  | [] => none
  | (k, v) :: rest => if k = key then some v else find? key rest

/-- Binds `key` anew; an older binding stays behind it. -/
def insert (key : κ) (value : α) (table : Table κ α) : Table κ α := (key, value) :: table

/-- Changes the newest value of `key`. -/
def modify (key : κ) (change : α → α) : Table κ α → Table κ α
  | [] => []
  | (k, v) :: rest => if k = key then (k, change v) :: rest else (k, v) :: modify key change rest

/-- Drops the newest binding of `key`. -/
def erase (key : κ) : Table κ α → Table κ α
  | [] => []
  | (k, v) :: rest => if k = key then rest else (k, v) :: erase key rest

/-- Gives `key` the value `value`, in place if it is bound and anew if not. -/
def assign (key : κ) (value : α) (table : Table κ α) : Table κ α :=
  match table.find? key with
  | some _ => table.modify key fun _ => value
  | none => table.insert key value

theorem find?_modify_of_ne {key other : κ} (change : α → α) (table : Table κ α) (h : key ≠ other) :
    (table.modify key change).find? other = table.find? other := by
  induction table with
  | nil => rfl
  | cons entry rest ih =>
    obtain ⟨k, v⟩ := entry
    by_cases hk : k = key
    · subst hk; simp [modify, find?, h]
    · by_cases ho : k = other <;> simp [modify, find?, hk, ho, ih, Ne.symm h]

theorem find?_erase_of_ne {key other : κ} (table : Table κ α) (h : key ≠ other) :
    (table.erase key).find? other = table.find? other := by
  induction table with
  | nil => rfl
  | cons entry rest ih =>
    obtain ⟨k, v⟩ := entry
    by_cases hk : k = key
    · subst hk; simp [erase, find?, h]
    · by_cases ho : k = other <;> simp [erase, find?, hk, ho, ih, Ne.symm h]

theorem find?_append {key : κ} {value : α} {table : Table κ α} (found : table.find? key = some value)
    (more : Table κ α) : find? key (table ++ more) = some value := by
  induction table with
  | nil => cases found
  | cons entry rest ih =>
    by_cases hk : entry.1 = key
    · simp only [find?, hk, if_true] at found
      simp only [List.cons_append, find?, hk, if_true, found]
    · simp only [find?, hk, if_false] at found
      simp only [List.cons_append, find?, hk, if_false]
      exact ih found

theorem erase_append {key : κ} {value : α} {table : Table κ α} (found : table.find? key = some value)
    (more : Table κ α) : erase key (table ++ more) = table.erase key ++ more := by
  induction table with
  | nil => cases found
  | cons entry rest ih =>
    by_cases hk : entry.1 = key
    · simp only [List.cons_append, erase, hk, if_true]
    · simp only [find?, hk, if_false] at found
      simp only [List.cons_append, erase, hk, if_false]
      exact congrArg _ (ih found)

end Table

end NodeHeap
