import NodeHeap.Buffer.Session
import NodeHeap.Proofs.Heap

/-!
# Byte strings by number

What a caller of a buffer session knows of its buffers: a table of byte strings, with no blocks, no room for
growth and no zero bytes after the content in it.

* `Bytes.trim`, `Bytes.range` — cutting at both ends and cutting out a range, as functions of byte strings;
  `trimBounds_spec`, `rangeBounds_spec` — the bounds that a buffer works with come to the same.
* `Strings`, `Strings.proceed` — the byte strings after a step; `find?_proceed` — most of them stay.
* `Strings.tell` — what a step tells its caller.
-/

namespace NodeHeap

namespace Bytes

/-- The byte string without the bytes of a set at its ends. -/
def trim (set content : Bytes) : Bytes :=
  ((content.dropWhile fun b => set.contains b).reverse.dropWhile fun b => set.contains b).reverse

/-- The bytes from `start` to `stop`, both included. Indices that are negative count from the end, and
indices beyond the end mean the last byte. -/
def range (start stop : Int) (content : Bytes) : Bytes :=
  let first := resolveIndex content.length start
  let last := resolveIndex content.length stop
  if last < first then []
  else (content.take (last + 1)).drop (min first (content.length - 1))

@[simp] theorem range_nil (start stop : Int) : Bytes.range start stop [] = [] := by simp [Bytes.range]

/-- What the bounds of a cut at both ends leave is what is left. -/
theorem trimBounds_spec (content set : Bytes) :
    (trimBounds content set).1 + (trimBounds content set).2 ≤ content.length ∧
      (content.drop (trimBounds content set).1).take (trimBounds content set).2 =
        Bytes.trim set content := by
  have front : (content.dropWhile fun b => set.contains b) =
      content.drop (content.findIdx fun b => !set.contains b) := List.dropWhile_eq_drop_findIdx_not
  have le : (content.findIdx fun b => !set.contains b) ≤ content.length := List.findIdx_le_length
  unfold Bytes.trim
  rw [front, List.dropWhile_eq_drop_findIdx_not]
  simp only [trimBounds]
  generalize first_eq : (content.findIdx fun b => !set.contains b) = first at le ⊢
  refine ⟨by omega, ?_⟩
  have back : (content.drop first).reverse = content.reverse.take (content.length - first) := by
    rw [List.take_reverse]
    congr 2
    omega
  rw [back, List.findIdx_take, ← back, List.drop_reverse, List.reverse_reverse, List.length_drop]
  generalize last_eq : (content.reverse.findIdx fun b => !set.contains b) = last
  by_cases covered : content.length - first ≤ last
  · -- All of what is left at the front is cut off from the back.
    rw [Nat.min_eq_left covered, Nat.sub_self, show content.length - last - first = 0 by omega]
  · rw [Nat.min_eq_right (Nat.le_of_not_le covered)]
    congr 1
    omega

theorem resolveIndex_lt {length : Nat} (bounded : length ≤ maxTotal) (index : Int64) :
    resolveIndex length index.toInt + 1 < wordLimit := by
  have low := index.le_toInt
  have high := index.toInt_lt
  simp only [maxTotal, blockAlign] at bounded
  simp only [wordLimit]
  unfold resolveIndex
  split <;> omega

theorem span_eq {first last : Nat} (word : last + 1 < wordLimit) :
    span first last = .ok (if last < first then 0 else last - first + 1) := by
  unfold span addWords
  split
  · rfl
  · rw [if_pos (by omega)]

/-- **The bounds of a range are words**, and so is all that is computed for them. What they take is the range. -/
theorem rangeBounds_spec (content : Bytes) (start stop : Int64) (filled : content.length ≠ 0)
    (bounded : content.length ≤ maxTotal) :
    ∃ first count, rangeBounds content.length start stop = .ok (first, count) ∧ first + count ≤ content.length ∧
      (content.drop first).take count = Bytes.range start.toInt stop.toInt content := by
  have word := resolveIndex_lt bounded stop
  unfold rangeBounds Bytes.range
  generalize resolveIndex content.length start.toInt = first
  generalize resolveIndex content.length stop.toInt = last at *
  simp only [span_eq word, bind, Except.bind]
  by_cases empty : last < first
  · refine ⟨0, 0, ?_, Nat.zero_le _, ?_⟩
    · rw [if_pos empty, if_pos rfl]
      rfl
    · rw [if_pos empty, List.take_zero]
  · have bound : min last (content.length - 1) + 1 < wordLimit := by omega
    have inside : min first (content.length - 1) +
        (min last (content.length - 1) - min first (content.length - 1) + 1) ≤ content.length := by omega
    have sum : addWords (min first (content.length - 1))
        (min last (content.length - 1) - min first (content.length - 1) + 1) =
          .ok (min first (content.length - 1) +
            (min last (content.length - 1) - min first (content.length - 1) + 1)) := by
      refine if_pos (Nat.lt_of_le_of_lt inside (Nat.lt_of_le_of_lt bounded ?_))
      decide
    refine ⟨_, _, ?_, inside, ?_⟩
    · simp only [if_neg empty, Nat.add_one_ne_zero, if_false, span_eq bound,
        if_neg (show ¬ min last (content.length - 1) < min first (content.length - 1) by omega), sum]
      rfl
    · rw [if_neg empty, List.take_drop]
      apply congrArg
      -- Beyond the end it does not matter how much is taken.
      rw [List.take_eq_take_iff]
      omega

end Bytes

theorem length_le_of_mem_piecesFrom {bytes separator : Bytes} (some : separator ≠ []) (start next : Nat) :
    ∀ piece ∈ piecesFrom bytes separator some start next, piece.length ≤ bytes.length := by
  fun_induction piecesFrom bytes separator some start next with
  | case1 start next room found ih =>
    intro piece mem
    rcases List.mem_cons.1 mem with rfl | mem
    · exact ((List.take_sublist _ _).trans (List.drop_sublist _ _)).length_le
    · exact ih piece mem
  | case2 start next room other ih => exact ih
  | case3 start next full =>
    intro piece mem
    obtain rfl := List.mem_singleton.1 mem
    exact (List.drop_sublist _ _).length_le

theorem length_le_of_mem_splitOn {bytes separator : Bytes} {pieces : List Bytes}
    (cut : splitOn bytes separator = some pieces) : ∀ piece ∈ pieces, piece.length ≤ bytes.length := by
  intro piece mem
  unfold splitOn at cut
  split at cut
  · cases cut
  · split at cut
    · cases cut
      cases mem
    · cases cut
      exact length_le_of_mem_piecesFrom _ 0 0 piece mem

/-- Values numbered from `first` on. -/
def Table.numbered {α : Type} (first : Nat) (values : List α) : Table Nat α :=
  (values.zipIdx first).map fun entry => (entry.2, entry.1)

theorem Table.mapValues_numbered {α β : Type} (f : α → β) (first : Nat) (values : List α) :
    (numbered first values).mapValues f = numbered first (values.map f) := by
  simp only [numbered, mapValues, List.zipIdx_map, List.map_map]
  rfl

theorem find?_insertByKey_of_ne {α : Type} {key other : Nat} (value : α) (table : Table Nat α)
    (h : key ≠ other) : (insertByKey key value table).find? other = table.find? other := by
  induction table with
  | nil => simp [insertByKey, Table.find?, h]
  | cons entry rest ih =>
    unfold insertByKey
    split
    · simp [Table.find?, h]
    · simp [Table.find?, ih]

/-- Byte strings by number. -/
abbrev Strings := Table Register Bytes

/-- What a step makes of the byte string of one register, in place of what it was. -/
def BufferStep.edit : BufferStep → Option (Register × (Bytes → Bytes))
  | .append register bytes => some (register, (· ++ bytes))
  | .appendAll register pieces => some (register, (· ++ pieces.flatten))
  | .replace register bytes => some (register, fun _ => bytes)
  | .trim register ends => some (register, Bytes.trim ends)
  | .range register start stop => some (register, Bytes.range start.toInt stop.toInt)
  | .toLower register => some (register, List.map lowerByte)
  | .toUpper register => some (register, List.map upperByte)
  | .updateLength register => some (register, List.takeWhile (· ≠ 0))
  | .reserve register _ => some (register, id)
  | .set register index value => some (register, (List.set · index value))
  | .reverse register => some (register, List.reverse)
  | _ => none

/-- The step with no more than so many of the pieces that it appends. -/
def BufferStep.upTo (count : Nat) : BufferStep → BufferStep
  | .appendAll register pieces => .appendAll register (pieces.take count)
  | step => step

/-- Whether a value is that of a step that came to its end. -/
def BufferValue.isWhole : BufferValue → Bool
  | .halted _ | .interrupted _ _ => false
  | _ => true

/-- Whether a step leaves the byte string of a register alone. -/
def BufferStep.spares (register : Register) : BufferStep → Bool
  | .ofBytes target _ | .zeros target _ | .empty target | .clone target _ | .drop target =>
    target ≠ register
  | .sort => false
  | step =>
    match step.edit with
    | some (target, _) => target ≠ register
    | none => true

namespace Strings

/-- The byte strings with one of them set, in place or in the order of numbers. -/
def put (strings : Strings) (register : Register) (bytes : Bytes) : Strings :=
  match strings.find? register with
  | some _ => strings.modify register fun _ => bytes
  | none => insertByKey register bytes strings

/-- The byte strings in the order of a dictionary. -/
def sorted (strings : Strings) : List Bytes :=
  (strings.map Prod.snd).mergeSort fun x y => compareBytes x y ≠ .gt

/-- The byte strings after a step that does not halt. -/
def proceed (strings : Strings) (step : BufferStep) : Strings :=
  match step with
  | .ofBytes register bytes => strings.put register bytes
  | .zeros register length => strings.put register (List.replicate length 0)
  | .empty register => strings.put register []
  | .clone register source =>
    match strings.find? source with
    | some bytes => strings.put register bytes
    | none => strings
  | .drop register => strings.erase register
  | .sort => Table.numbered 0 strings.sorted
  | step =>
    match step.edit with
    | some (register, change) => strings.modify register change
    | none => strings

/-- The byte strings after a step that gave a value: as they were before it, if it halted. -/
def settle (before after : Strings) : BufferValue → Strings
  | .halted _ => before
  | _ => after

/-- The byte strings after a step that gave a value. One that was interrupted did what the same step does with
as many pieces. -/
def next (strings : Strings) (step : BufferStep) (value : BufferValue) : Strings :=
  match value with
  | .interrupted _ count => strings.proceed (step.upTo count)
  | value => strings.settle (strings.proceed step) value

/-- The byte strings with the pieces of another one in front, numbered from `first` on. -/
def keep (strings : Strings) (first : Register) (bytes separator : Bytes) : Strings :=
  match splitOn bytes separator with
  | some pieces => Table.numbered first pieces ++ strings
  | none => strings

/-- What is told of the byte string of a register. -/
def look (strings : Strings) (register : Register) (tell : Bytes → BufferValue) : BufferValue :=
  match strings.find? register with
  | some bytes => tell bytes
  | none => .unknownRegister

/-- What can be seen of a buffer that holds a byte string and has room for `avail` bytes more. -/
def seen (avail : Nat) (bytes : Bytes) : BufferState := ⟨bytes, bytes.length, avail, true⟩

/-- A buffer in words that holds a byte string and has room for `avail` bytes more. -/
def described (avail : Nat) (bytes : Bytes) : String :=
  "Sds \x7b content: " ++ Text.quoted (Text.Utf8.lossy bytes) ++
    ", len: " ++ toString bytes.length ++ ", avail: " ++ toString avail ++ " \x7d"

/-- What a step tells its caller, where `avail` bytes of room are left in the buffer that it is about. -/
def tell (strings : Strings) (step : BufferStep) (avail : Nat) : BufferValue :=
  match step with
  | .ofBytes _ bytes => .state (seen avail bytes)
  | .zeros _ length => .state (seen avail (List.replicate length 0))
  | .empty _ => .state (seen avail [])
  | .clone _ source => strings.look source fun bytes => .state (seen avail bytes)
  | .drop register => .flag (strings.find? register).isSome
  | .split bytes separator => .tokens ((splitOn bytes separator).map (List.map (seen 0)))
  | .get register index => strings.look register fun bytes => .byte (bytes.getD index 0)
  | .content register => strings.look register .bytes
  | .compare first second =>
    strings.look first fun x => strings.look second fun y => .order (compareBytes x y)
  | .equals register bytes => strings.look register fun content => .flag (content = bytes)
  | .borrow register _ => strings.look register fun _ => .unit
  | .describe register => strings.look register fun bytes => .text (described avail bytes)
  | .display register => strings.look register fun bytes => .text (Text.Utf8.lossy bytes)
  | .sort => .contents strings.sorted
  | step =>
    match step.edit with
    | some (register, change) => strings.look register fun bytes => .state (seen avail (change bytes))
    | none => .unit

/-- A step that edits the byte string of a register does that, and tells what it made of it. -/
theorem of_edit {step : BufferStep} {register : Register} {change : Bytes → Bytes} (strings : Strings)
    (edit : step.edit = some (register, change)) :
    strings.proceed step = strings.modify register change ∧ ∀ avail,
      strings.tell step avail = strings.look register fun bytes => .state (seen avail (change bytes)) := by
  cases step with
  | append | appendAll | replace | trim | range | toLower | toUpper | updateLength | reserve | set
  | reverse =>
    cases edit
    exact ⟨rfl, fun _ => rfl⟩
  | _ => cases edit

theorem whole_tell (strings : Strings) (step : BufferStep) (avail : Nat) :
    (strings.tell step avail).isWhole = true := by
  have of_look {register : Register} {tell : Bytes → BufferValue} (told : ∀ bytes, (tell bytes).isWhole = true) :
      (strings.look register tell).isWhole = true := by
    unfold look
    split
    · exact told _
    · rfl
  cases step with
  | compare first second => exact of_look fun _ => of_look fun _ => rfl
  | ofBytes | zeros | empty | drop | split | sort => rfl
  | _ => exact of_look fun _ => rfl

theorem next_of_whole (strings : Strings) (step : BufferStep) {value : BufferValue} (whole : value.isWhole = true) :
    strings.next step value = strings.proceed step := by
  cases value with
  | halted | interrupted => cases whole
  | _ => rfl

/-! ## Steps leave other byte strings alone -/

theorem spares_upTo (count : Nat) (register : Register) (step : BufferStep) :
    (step.upTo count).spares register = step.spares register := by
  cases step <;> rfl

theorem find?_put_of_ne {register other : Register} (bytes : Bytes) (strings : Strings)
    (h : register ≠ other) : (strings.put register bytes).find? other = strings.find? other := by
  unfold put
  split
  · exact Table.find?_modify_of_ne _ strings h
  · exact find?_insertByKey_of_ne bytes strings h

/-- A step leaves the byte strings alone whose registers it does not set, edit or renumber. -/
theorem find?_proceed {step : BufferStep} {register : Register} (spared : step.spares register = true)
    (strings : Strings) : (strings.proceed step).find? register = strings.find? register := by
  cases step with
  | ofBytes | zeros | empty => exact find?_put_of_ne _ strings (of_decide_eq_true spared)
  | clone target source =>
    simp only [proceed]
    split
    · exact find?_put_of_ne _ strings (of_decide_eq_true spared)
    · rfl
  | drop target => exact Table.find?_erase_of_ne strings (of_decide_eq_true spared)
  | sort => cases spared
  | append | appendAll | replace | trim | range | toLower | toUpper | updateLength | reserve | set
  | reverse => exact Table.find?_modify_of_ne _ strings (of_decide_eq_true spared)
  | _ => rfl

theorem find?_next {step : BufferStep} {register : Register} (spared : step.spares register = true)
    (strings : Strings) (value : BufferValue) :
    (strings.next step value).find? register = strings.find? register := by
  cases value with
  | halted => rfl
  | interrupted halt count => exact find?_proceed ((spares_upTo count register step).trans spared) strings
  | _ => exact find?_proceed spared strings

end Strings

end NodeHeap
