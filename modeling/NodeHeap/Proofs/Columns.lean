import NodeHeap.Proofs.NodeNames

/-!
# Rows of distances

The row of a node is read word by word, and its values are the words that are distances. A word that is none takes no
column: the words behind it are read one column further to the front. So a bad word leaves the columns in front of it
alone, and spoils its own and those behind it.

* `NodeTree.Column`, `NodeTree.column_iff` — the value in a column of a row.
* `NodeTree.column_of_good`, `NodeTree.column_behind_bad` — where that is the word in this place, and where it is the
  next one.
* `NodeTree.rows_read_by_column` — the law of the distances.
* `NodeTree.columns_behind_bad_word` — a row with a bad word.
-/

namespace NodeHeap.NodeTree

open Text

variable {tree : NodeTree} {source target : NodeId} {word bad : List Char} {row front back : List (List Char)}
  {i d : Nat}

/-! ## Columns -/

/-- A word that is a distance: a decimal number below `2 ^ 32`. -/
def Distance (word : List Char) (d : Nat) : Prop := Decimal.Numeral word d ∧ d < 1 <<< 32

theorem distance_word_iff : Distance word d ↔ Decimal.parse? (1 <<< 32) word = some d :=
  Decimal.parse?_eq_some_iff.symm

def Bad (word : List Char) : Prop := ∀ d, ¬Distance word d

def Good (row : List (List Char)) : Prop := ∀ word ∈ row, ∃ d, Distance word d

theorem bad_iff : Bad word ↔ Decimal.parse? (1 <<< 32) word = none := by
  rw [Option.eq_none_iff_forall_ne_some]
  exact forall_congr' fun d => not_congr distance_word_iff

/-- The value in a column of a row, of which the words are given. A bad word takes no column. -/
inductive Column : List (List Char) → Nat → Nat → Prop
  | here {word : List Char} {row : List (List Char)} {d : Nat} (distance : Distance word d) : Column (word :: row) 0 d
  | next {word : List Char} {row : List (List Char)} {i d e : Nat} (distance : Distance word e)
    (column : Column row i d) : Column (word :: row) (i + 1) d
  | skip {word : List Char} {row : List (List Char)} {i d : Nat} (bad : Bad word) (column : Column row i d) :
    Column (word :: row) i d

/-- **The value in a column is read there.** -/
theorem column_iff : Column row i d ↔ (row.filterMap (Decimal.parse? (1 <<< 32)))[i]? = some d := by
  constructor
  · intro h
    induction h with
    | here distance => rw [List.filterMap_cons_some (distance_word_iff.1 distance), List.getElem?_cons_zero]
    | next distance _ ih =>
      rwa [List.filterMap_cons_some (distance_word_iff.1 distance), List.getElem?_cons_succ]
    | skip bad _ ih => rwa [List.filterMap_cons_none (bad_iff.1 bad)]
  · -- A word that is read takes a column, any other none: the cases of the row's word are the constructors.
    induction row generalizing i with
    | nil =>
      intro h
      cases h
    | cons word row ih =>
      intro h
      cases value : Decimal.parse? (1 <<< 32) word with
      | none =>
        rw [List.filterMap_cons_none value] at h
        exact .skip (bad_iff.2 value) (ih h)
      | some e =>
        rw [List.filterMap_cons_some value] at h
        have distance := distance_word_iff.2 value
        cases i with
        | zero =>
          cases h
          exact .here distance
        | succ i => exact .next distance (ih h)

theorem column_append (good : Good front) : Column (front ++ row) (front.length + i) d ↔ Column row i d := by
  induction front with
  | nil => rw [List.nil_append, List.length_nil, Nat.zero_add]
  | cons word front ih =>
    obtain ⟨⟨e, distance⟩, good⟩ := List.forall_mem_cons.1 good
    rw [column_iff, List.cons_append, List.filterMap_cons_some (distance_word_iff.1 distance), List.length_cons,
      Nat.add_right_comm, List.getElem?_cons_succ, ← column_iff]
    exact ih good

/-- **Of good words each is in its own column.** -/
theorem column_iff_of_good (good : Good row) : Column row i d ↔ ∃ word, row[i]? = some word ∧ Distance word d := by
  induction row generalizing i with
  | nil =>
    refine iff_of_false (fun h => ?_) fun ⟨_, placed, _⟩ => ?_
    · cases h
    · cases placed
  | cons first row ih =>
    obtain ⟨⟨e, distance⟩, good⟩ := List.forall_mem_cons.1 good
    cases i with
    | zero =>
      constructor
      · intro h
        cases h with
        | here distance => exact ⟨first, rfl, distance⟩
        | skip bad => exact absurd distance (bad e)
      · rintro ⟨word, ⟨⟩, distance⟩
        exact .here distance
    | succ i =>
      rw [List.getElem?_cons_succ, ← ih good]
      constructor
      · intro h
        cases h with
        | next _ column => exact column
        | skip bad => exact absurd distance (bad e)
      · exact fun column => .next distance column

theorem column_of_good (good : Good (row.take i)) (placed : row[i]? = some word) (distance : Distance word d) :
    Column row i d := by
  obtain ⟨inside, rfl⟩ := List.getElem?_eq_some_iff.1 placed
  have split : row.take i ++ row[i] :: row.drop (i + 1) = row := by
    rw [← List.drop_eq_getElem_cons inside, List.take_append_drop]
  have length : (row.take i).length + 0 = i := List.length_take_of_le (Nat.le_of_lt inside)
  have first : Column (row[i] :: row.drop (i + 1)) 0 d := .here distance
  rwa [← column_append good, length, split] at first

theorem not_column_of_length_le (short : row.length ≤ i) : ¬Column row i d := by
  intro column
  have inside := (List.getElem?_eq_some_iff.1 (column_iff.1 column)).1
  exact absurd (Nat.lt_of_lt_of_le inside (List.length_filterMap_le _ _)) (Nat.not_lt.2 short)

/-- **A bad word counts for nothing**: the others are read as if it was not there. -/
theorem column_of_bad (spoils : Bad bad) : Column (front ++ bad :: back) i d ↔ Column (front ++ back) i d := by
  rw [column_iff, column_iff, List.filterMap_append, List.filterMap_cons_none (bad_iff.1 spoils),
    List.filterMap_append]

theorem column_behind_bad (before : Good front) (spoils : Bad bad) (behind : Good back) (le : front.length ≤ i) :
    Column (front ++ bad :: back) i d ↔
      ∃ word, (front ++ bad :: back)[i + 1]? = some word ∧ Distance word d := by
  have all : Good (front ++ back) := List.forall_mem_append.2 ⟨before, behind⟩
  have next : (front ++ bad :: back)[i + 1]? = (front ++ back)[i]? := by
    rw [List.getElem?_append_right (Nat.le_succ_of_le le), List.getElem?_append_right le, Nat.succ_sub le,
      List.getElem?_cons_succ]
  rw [column_of_bad spoils, column_iff_of_good all, next]

/-! ## Distances -/

/-- The row of a node can be read and has these words. -/
def Row (tree : NodeTree) (source : NodeId) (row : List (List Char)) : Prop :=
  ∃ text, tree.content? source distanceName = some text ∧ Spaced text.toList row

/-- What is known of a distance without a row. -/
def knownDistance (source target : NodeId) : Nat := if source = target then localDistance else remoteDistance

theorem distanceRow_eq (read : tree.Row source row) :
    tree.distanceRow source = row.filterMap (Decimal.parse? (1 <<< 32)) := by
  obtain ⟨text, given, spaced⟩ := read
  rw [distanceRow, given]
  simp only [spaced.words_eq]

theorem bisect?_nodes (distinct : tree.nodes.Nodup) (placed : tree.nodes[i]? = some target) :
    bisect? tree.nodes target = some i := by
  have sorted : tree.nodes.Pairwise (· ≤ ·) := sorted_mergeSort _
  obtain ⟨j, found⟩ := bisect?_of_mem sorted (List.mem_of_getElem? placed)
  have there := getElem?_of_bisect? found
  obtain ⟨inside, given⟩ := List.getElem?_eq_some_iff.1 placed
  obtain ⟨inside', given'⟩ := List.getElem?_eq_some_iff.1 there
  rw [found, distinct.getElem_inj_iff.1 (given'.trans given.symm)]

theorem distance_of_column (distinct : tree.nodes.Nodup) (placed : tree.nodes[i]? = some target)
    (read : tree.Row source row) (column : Column row i d) : tree.distance source target = d := by
  rw [distance, bisect?_nodes distinct placed, Option.bind_some, distanceRow_eq read, column_iff.1 column]

theorem distance_of_no_column (distinct : tree.nodes.Nodup) (placed : tree.nodes[i]? = some target)
    (read : tree.Row source row) (none : ∀ d, ¬Column row i d) :
    tree.distance source target = knownDistance source target := by
  have lacks : (row.filterMap (Decimal.parse? (1 <<< 32)))[i]? = .none :=
    Option.eq_none_iff_forall_ne_some.2 fun d given => none d (column_iff.2 given)
  rw [distance, bisect?_nodes distinct placed, Option.bind_some, distanceRow_eq read, lacks]
  rfl

/-! ## The law -/

/-- How the distances between the nodes of a tree are read. -/
structure ReadsRows (tree : NodeTree) : Prop where
  /-- The distance to a node is the value in its column, if there is one. -/
  column : ∀ source row, tree.Row source row → ∀ i target, tree.nodes[i]? = some target →
    (∀ d, Column row i d → tree.distance source target = d) ∧
      ((∀ d, ¬Column row i d) → tree.distance source target = knownDistance source target)
  /-- That is the word in this place, if it is a distance and those in front of it are. -/
  aligned : ∀ source row, tree.Row source row → ∀ i target, tree.nodes[i]? = some target → Good (row.take i) →
    ∀ word d, row[i]? = some word → Distance word d → tree.distance source target = d
  /-- It is the next word, if just one word is bad, and is in this place or in front of it. -/
  shifted : ∀ source front bad back, tree.Row source (front ++ bad :: back) → Good front → Bad bad → Good back →
    ∀ i target, tree.nodes[i]? = some target → front.length ≤ i →
      ∀ word d, (front ++ bad :: back)[i + 1]? = some word → Distance word d → tree.distance source target = d
  /-- No value is there if the row is too short, if it cannot be read, or if the node is not listed. -/
  short : ∀ source row, tree.Row source row → ∀ i target, tree.nodes[i]? = some target → row.length ≤ i →
    tree.distance source target = knownDistance source target
  unread : ∀ source target, tree.content? source distanceName = none →
    tree.distance source target = knownDistance source target
  absent : ∀ source target, target ∉ tree.nodes → tree.distance source target = knownDistance source target

/-- **Rows are read by columns**, in a tree whose entries have the nodes' own names. -/
theorem rows_read_by_column (named : (tree.entries.filterMap Entry.name).Nodup) (own : tree.Canonical) :
    tree.ReadsRows := by
  have distinct : tree.nodes.Nodup := (own.ascending named).imp Nat.ne_of_lt
  refine
    { column := fun source row read i target placed =>
        ⟨fun d => distance_of_column distinct placed read, distance_of_no_column distinct placed read⟩
      aligned := fun source row read i target placed good word d there distance =>
        distance_of_column distinct placed read (column_of_good good there distance)
      shifted := fun source front bad back read before spoils behind i target placed le word d there distance =>
        distance_of_column distinct placed read
          ((column_behind_bad before spoils behind le).2 ⟨word, there, distance⟩)
      short := fun source row read i target placed le =>
        distance_of_no_column distinct placed read fun d => not_column_of_length_le le
      unread := fun source target none => ?_
      absent := fun source target missing => ?_ }
  · have empty : tree.distanceRow source = [] := by rw [distanceRow, none]
    rw [distance, empty]
    cases bisect? tree.nodes target with
    | none | some column => rfl
  · have lost : bisect? tree.nodes target = none :=
      Option.eq_none_iff_forall_ne_some.2 fun i found => missing (List.mem_of_getElem? (getElem?_of_bisect? found))
    rw [distance, lost]
    rfl

/-- Three nodes, the first of which has a row with a word that is no distance. -/
def oneBadWord : NodeTree :=
  .directory [⟨some "node0", .directory { distance := .text "10 x 30" }⟩, ⟨some "node1", .directory {}⟩,
    ⟨some "node2", .directory {}⟩]

theorem named_oneBadWord : (oneBadWord.entries.filterMap Entry.name).Nodup := by decide

theorem canonical_oneBadWord : oneBadWord.Canonical := by
  intro entry mem node stands
  have given := nodeOfEntry?_eq_some_iff.2 stands
  simp only [oneBadWord, entries, List.mem_cons, List.not_mem_nil, or_false] at mem
  rcases mem with rfl | rfl | rfl
  all_goals
    cases given
    decide

theorem nodes_oneBadWord : oneBadWord.nodes = [0, 1, 2] := nodes_eq_of_sorted rfl (by decide)

theorem row_oneBadWord : oneBadWord.Row 0 [['1', '0'], ['x'], ['3', '0']] := by
  have fits : (nameOfNode 0 ++ "/" ++ distanceName).utf8ByteSize ≤ Text.Path.limit := by decide +kernel
  refine ⟨"10 x 30", ?_, spaced_iff.2 (by decide +kernel)⟩
  rw [content?_of_directory named_oneBadWord List.mem_cons_self (by decide) (by decide)]
  exact if_pos fits

theorem oneBadWord_reads_rows :
    (oneBadWord.entries.filterMap Entry.name).Nodup ∧ oneBadWord.Canonical ∧ oneBadWord.ReadsRows :=
  ⟨named_oneBadWord, canonical_oneBadWord, rows_read_by_column named_oneBadWord canonical_oneBadWord⟩

/-- **A bad word spoils the columns behind it, too**: its column has the next word's value, and the next column has none
any more. -/
theorem columns_behind_bad_word :
    ((oneBadWord.entries.filterMap Entry.name).Nodup ∧ oneBadWord.Canonical ∧ oneBadWord.nodes = [0, 1, 2] ∧
      oneBadWord.Row 0 [['1', '0'], ['x'], ['3', '0']]) ∧
    (Bad ['x'] ∧ knownDistance 0 1 = 20 ∧ oneBadWord.distance 0 1 = 30) ∧
      Distance ['3', '0'] 30 ∧ knownDistance 0 2 = 20 ∧ oneBadWord.distance 0 2 = 20 := by
  have distinct : oneBadWord.nodes.Nodup := by rw [nodes_oneBadWord]; decide
  have second : oneBadWord.nodes[1]? = some 1 := by rw [nodes_oneBadWord]; rfl
  have third : oneBadWord.nodes[2]? = some 2 := by rw [nodes_oneBadWord]; rfl
  have value : Column [['1', '0'], ['x'], ['3', '0']] 1 30 := column_iff.2 (by decide +kernel)
  have none : ∀ d, ¬Column [['1', '0'], ['x'], ['3', '0']] 2 d := by
    intro d column
    have lacks : ([['1', '0'], ['x'], ['3', '0']].filterMap (Decimal.parse? (1 <<< 32)))[2]? = .none := by
      decide +kernel
    cases lacks.symm.trans (column_iff.1 column)
  exact ⟨⟨named_oneBadWord, canonical_oneBadWord, nodes_oneBadWord, row_oneBadWord⟩,
    ⟨bad_iff.2 (by decide +kernel), rfl, distance_of_column distinct second row_oneBadWord value⟩,
    distance_word_iff.2 (by decide +kernel), rfl,
    (distance_of_no_column distinct third row_oneBadWord none).trans rfl⟩

end NodeHeap.NodeTree
