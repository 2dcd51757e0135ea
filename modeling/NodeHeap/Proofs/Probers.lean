import NodeHeap.Proofs.Decimals
import NodeHeap.Ranking
import NodeHeap.Topology.Matrix
import NodeHeap.Topology.NodeTree

/-!
# Two ways to tell a topology

A matrix with nodes marked absent and a node tree with a directory for each node present tell the same of
these nodes, if the files of the tree list what the matrix has: the columns of a matrix are node ids, and
those of a tree are the places of the nodes present.

* `Topology.AgreeOn` — two topologies tell the same of the nodes present.
* `NodeTree.Shows` — a tree with the distances of a matrix in its files.
* `NodeTree.Shows.nodes_eq`, `NodeTree.Shows.distance_eq` — what is read back of it.
* `ofRows_agrees_shown` — the matrix and the tree agree.
-/

namespace NodeHeap

/-! ## Ascending lists -/

theorem eq_of_ascending {xs ys : List Nat} (hx : xs.Pairwise (· < ·)) (hy : ys.Pairwise (· < ·))
    (same : ∀ x, x ∈ xs ↔ x ∈ ys) : xs = ys := by
  have perm : xs.Perm ys :=
    (List.perm_ext_iff_of_nodup (hx.imp Nat.ne_of_lt) (hy.imp Nat.ne_of_lt)).2 same
  exact perm.eq_of_pairwise (fun a b _ _ ab ba => absurd ab (Nat.lt_asymm ba)) hx hy

theorem sorted_mergeSort (xs : List Nat) : (xs.mergeSort (· ≤ ·)).Pairwise (· ≤ ·) := by
  have sorted : (xs.mergeSort (· ≤ ·)).Pairwise fun a b => decide (a ≤ b) = true :=
    List.pairwise_mergeSort (fun a b c ab bc => by simp at ab bc ⊢; omega)
      (fun a b => by simp; omega) xs
  exact sorted.imp of_decide_eq_true

theorem ascending_mergeSort {xs : List Nat} (distinct : xs.Nodup) :
    (xs.mergeSort (· ≤ ·)).Pairwise (· < ·) := by
  have apart : (xs.mergeSort (· ≤ ·)).Pairwise (· ≠ ·) :=
    (List.mergeSort_perm xs _).nodup_iff.2 distinct
  exact ((sorted_mergeSort xs).and apart).imp fun le => Nat.lt_of_le_of_ne le.1 le.2

theorem mem_eraseReps_loop {x a : Nat} {xs acc : List Nat} :
    x ∈ List.eraseRepsBy.loop (· == ·) a xs acc ↔ x ∈ acc ∨ x = a ∨ x ∈ xs := by
  induction xs generalizing a acc with
  | nil => simp [List.eraseRepsBy.loop, or_comm]
  | cons b rest ih =>
    simp only [List.eraseRepsBy.loop]
    split
    · rename_i same
      obtain rfl := beq_iff_eq.1 same
      rw [ih, List.mem_cons]
      grind
    · rw [ih, List.mem_cons, List.mem_cons]
      grind

theorem mem_eraseReps {x : Nat} {xs : List Nat} : x ∈ xs.eraseReps ↔ x ∈ xs := by
  cases xs with
  | nil => rfl
  | cons a rest =>
    rw [List.eraseReps, List.eraseRepsBy, mem_eraseReps_loop]
    simp

theorem ascending_eraseReps_loop {a : Nat} {xs acc : List Nat} (sorted : (a :: xs).Pairwise (· ≤ ·))
    (kept : (a :: acc).reverse.Pairwise (· < ·)) :
    (List.eraseRepsBy.loop (· == ·) a xs acc).Pairwise (· < ·) := by
  induction xs generalizing a acc with
  | nil => exact kept
  | cons b rest ih =>
    obtain ⟨least, sorted'⟩ := List.pairwise_cons.1 sorted
    simp only [List.eraseRepsBy.loop]
    split
    · rename_i same
      obtain rfl := beq_iff_eq.1 same
      exact ih sorted' kept
    · rename_i other
      have beyond : a < b := by
        have le := least b List.mem_cons_self
        have ne : a ≠ b := by simpa using other
        omega
      apply ih sorted'
      rw [List.reverse_cons, List.pairwise_append]
      refine ⟨kept, List.pairwise_singleton _ _, ?_⟩
      intro x hx y hy
      -- All that is kept so far is at most `a`.
      obtain rfl := List.mem_singleton.1 hy
      rw [List.reverse_cons, List.pairwise_append] at kept
      rw [List.reverse_cons, List.mem_append, List.mem_singleton] at hx
      rcases hx with hx | rfl
      · exact Nat.lt_trans (kept.2.2 x hx a List.mem_cons_self) beyond
      · exact beyond

theorem ascending_eraseReps {xs : List Nat} (sorted : xs.Pairwise (· ≤ ·)) :
    xs.eraseReps.Pairwise (· < ·) := by
  cases xs with
  | nil => exact .nil
  | cons a rest =>
    unfold List.eraseReps List.eraseRepsBy
    apply ascending_eraseReps_loop sorted
    simp

/-! ## Agreement -/

namespace Topology

/-- Two topologies are available, list just these nodes, and tell the same of their distances and of what is
nearest to each of them. -/
structure AgreeOn (s t : Topology) (present : List NodeId) : Prop where
  available : s.availability = .available ∧ t.availability = .available
  nodes : s.nodes = present ∧ t.nodes = present
  distance : ∀ p ∈ present, ∀ q ∈ present, t.distance p q = s.distance p q
  ranking : ∀ reference ∈ present, Ranking.build t reference = Ranking.build s reference

/-- A ranking depends on nothing but the nodes and their distances from the reference node. -/
theorem build_congr {s t : Topology} {reference : NodeId} (available : t.isAvailable = s.isAvailable)
    (nodes : t.nodes = s.nodes)
    (distance : ∀ node ∈ s.nodes, t.distance reference node = s.distance reference node) :
    Ranking.build t reference = Ranking.build s reference := by
  have same : ∀ a ∈ s.nodes, ∀ b ∈ s.nodes,
      Ranking.nearerOrEqual t reference a b = Ranking.nearerOrEqual s reference (id a) (id b) := by
    intro a ha b hb
    simp only [Ranking.nearerOrEqual, distance a ha, distance b hb, id_eq]
  have sorted := List.map_mergeSort same
  rw [List.map_id, List.map_id] at sorted
  simp only [Ranking.build, available, nodes, sorted]

theorem AgreeOn.of_distance {s t : Topology} {present : List NodeId}
    (available : s.availability = .available ∧ t.availability = .available)
    (nodes : s.nodes = present ∧ t.nodes = present)
    (distance : ∀ p ∈ present, ∀ q ∈ present, t.distance p q = s.distance p q) :
    s.AgreeOn t present := by
  refine ⟨available, nodes, distance, fun reference mem => build_congr ?_ ?_ ?_⟩
  · rw [isAvailable, isAvailable, available.1, available.2]
  · rw [nodes.1, nodes.2]
  · rw [nodes.1]
    exact distance reference mem

end Topology

/-! ## The matrix -/

namespace MatrixTopology

variable {rows : List (List Nat)} {m : MatrixTopology} {absent present : List NodeId}

def value? (rows : List (List Nat)) (source target : NodeId) : Option Nat :=
  rows[source]?.bind fun row => row[target]?

/-- A square matrix has an entry for any two of its nodes. -/
theorem exists_value {source target : NodeId} (square : ∀ row ∈ rows, row.length = rows.length)
    (hs : source < rows.length) (ht : target < rows.length) :
    ∃ d, value? rows source target = some d := by
  have row : rows[source]? = some rows[source] := List.getElem?_eq_getElem hs
  have long : rows[source].length = rows.length := square _ (List.getElem_mem hs)
  have within : target < rows[source].length := by rw [long]; exact ht
  refine ⟨rows[source][target], ?_⟩
  rw [value?, row, Option.bind_some, List.getElem?_eq_getElem within]

theorem ofRows_of_square (some : rows ≠ []) (square : ∀ row ∈ rows, row.length = rows.length) :
    ofRows rows = .ok { state := .available, rows } := by
  have even : raggedRow? rows = none := by
    rw [raggedRow?, Option.map_eq_none_iff, List.find?_eq_none]
    intro entry mem
    have row := List.fst_mem_of_mem_zipIdx mem
    simp [square _ row]
  rw [ofRows, if_neg (by simp [some]), even]

theorem mem_withAbsent {nodes : List NodeId} {node : NodeId} :
    node ∈ (m.withAbsent nodes).absent ↔ node ∈ m.absent ∨ node ∈ nodes := by
  unfold withAbsent
  rw [mem_eraseReps, List.mem_mergeSort, List.mem_append]

theorem ascending_withAbsent (m : MatrixTopology) (nodes : List NodeId) :
    (m.withAbsent nodes).absent.Pairwise (· < ·) :=
  ascending_eraseReps (sorted_mergeSort _)

/-- While the absent ids are ascending, the nodes are the ids of the matrix that are none of them. -/
theorem mem_nodes (ascending : m.absent.Pairwise (· < ·)) {node : NodeId} :
    node ∈ m.nodes ↔ node < m.rows.length ∧ node ∉ m.absent := by
  unfold nodes
  rw [List.mem_filter, List.mem_range, Bool.not_eq_true', ← Bool.not_eq_true,
    bisects_iff (ascending.imp Nat.le_of_lt)]

/-- The nodes that are not marked absent are those present. -/
theorem nodes_withAbsent (ascending : present.Pairwise (· < ·))
    (inside : ∀ node ∈ present, node < m.rows.length) (none : m.absent = [])
    (missing : ∀ node < m.rows.length, node ∈ absent ↔ node ∉ present) :
    (m.withAbsent absent).nodes = present := by
  refine eq_of_ascending (List.pairwise_lt_range.filter _) ascending fun node => ?_
  have kept : node ∈ (m.withAbsent absent).nodes ↔ node < m.rows.length ∧ node ∉ absent := by
    rw [mem_nodes (ascending_withAbsent m absent), mem_withAbsent, none]
    simp [withAbsent]
  refine kept.trans ⟨?_, ?_⟩
  · rintro ⟨lt, there⟩
    exact Decidable.not_not.1 fun gone => there ((missing node lt).2 gone)
  · intro mem
    exact ⟨inside node mem, fun gone => (missing node (inside node mem)).1 gone mem⟩

theorem distance_eq {source target d : Nat} (h : value? m.rows source target = some d) :
    m.distance source target = d := by
  rw [distance, show (m.rows[source]?.bind fun row => row[target]?) = some d from h, Option.getD_some]

end MatrixTopology

/-! ## The tree -/

def TextFile.content? : TextFile → Option String
  | text content => some content
  | _ => none

namespace NodeTree

open Text

/-- A tree with the distances of a matrix between the nodes present. Each of these nodes has a directory
under its own name, with a file that lists its distances to all of them in ascending order; the paths of
these files can be followed; no two entries have one name; and no other entry stands for a node. -/
structure Shows (entries : List Entry) (reach : Reach) (rows : List (List Nat))
    (present : List NodeId) : Prop where
  listed : ∀ p ∈ present, ∃ files text row,
    ⟨some (nameOfNode p), .directory files⟩ ∈ entries ∧ files.distance = .text text ∧
      Decimal.Lists text.toList row ∧ row.map some = present.map (MatrixTopology.value? rows p)
  within : ∀ p ∈ present, (nameOfNode p ++ "/" ++ distanceName).utf8ByteSize ≤ reach.room
  named : (entries.filterMap Entry.name).Nodup
  others : ∀ entry ∈ entries, ∀ node, nodeOfEntry? (directory entries reach) entry = some node →
    node ∈ present ∧ entry.name = some (nameOfNode node)

theorem toList_nameOfNode (node : NodeId) :
    (nameOfNode node).toList = nodeStem.toList ++ (toString node).toList := by
  rw [nameOfNode, String.toList_append]

theorem nodeOfName?_nameOfNode {node : NodeId} (h : node < wordLimit) :
    nodeOfName? (nameOfNode node) = some node := by
  have stem : nodeStem.toList.isPrefixOf (nodeStem.toList ++ (toString node).toList) = true := by
    simp
  have rest : (nodeStem.toList ++ (toString node).toList).drop nodeStem.length =
      (toString node).toList := List.drop_left
  simp only [nodeOfName?, toList_nameOfNode, stem, if_true, rest]
  exact Decimal.parse?_of_writes (Decimal.writes_toString node) h

theorem nameOfNode_ne (node : NodeId) : nameOfNode node ≠ herePart ∧ nameOfNode node ≠ parentPart := by
  have first : (nameOfNode node).toList.head? = some 'n' := by
    rw [toList_nameOfNode]
    rfl
  refine ⟨fun same => ?_, fun same => ?_⟩
  · rw [same] at first
    cases first
  · rw [same] at first
    cases first

/-- The entry of a name, where no two entries have one. -/
theorem find?_of_mem {entries : List Entry} (named : (entries.filterMap Entry.name).Nodup) {name : String}
    {kind : EntryKind} (mem : ⟨some name, kind⟩ ∈ entries) :
    entries.find? (fun entry => entry.name = some name) = some ⟨some name, kind⟩ := by
  induction entries with
  | nil => cases mem
  | cons entry rest ih =>
    rcases List.mem_cons.1 mem with rfl | mem
    · simp
    · have there : name ∈ rest.filterMap Entry.name := List.mem_filterMap.2 ⟨_, mem, rfl⟩
      cases given : entry.name with
      | none =>
        rw [List.filterMap_cons_none given] at named
        rw [List.find?_cons_of_neg (by simp [given])]
        exact ih named mem
      | some other =>
        rw [List.filterMap_cons_some given] at named
        obtain ⟨apart, named⟩ := List.nodup_cons.1 named
        have differs : other ≠ name := fun same => apart (same ▸ there)
        rw [List.find?_cons_of_neg (by simp [given, differs])]
        exact ih named mem

variable {entries : List Entry} {reach : Reach} {rows : List (List Nat)} {present : List NodeId}
  {node : NodeId} {files : NodeFiles}

/-- What the name of an entry leads to. -/
theorem step_entry {tree : NodeTree} (named : (tree.entries.filterMap Entry.name).Nodup) {name : String}
    {kind : EntryKind} (mem : ⟨some name, kind⟩ ∈ tree.entries) (here : name ≠ herePart) (parent : name ≠ parentPart) :
    (tree.site tree.reach.around).step (.directory tree.reach.around.home) name =
      match kind with
      | .directory _ => .place (.directory (tree.reach.around.home ++ [name]))
      | .plainFile => .place (.file (some ""))
      | .link target => .link target := by
  have entry : (tree.site tree.reach.around).lookAtEntry name = some kind := by
    show (tree.entries.find? _).map Entry.kind = some kind
    rw [find?_of_mem named mem]
    rfl
  have home : (tree.site tree.reach.around).home = tree.reach.around.home := rfl
  simp only [Site.step, here, parent, if_false]
  rw [← home, Site.look_home_append, Site.lookInside, entry]
  cases kind with
  | directory files | plainFile | link target => rfl

/-- The directory of a node leads to its files. -/
theorem placeOf_file {tree : NodeTree} (named : (tree.entries.filterMap Entry.name).Nodup)
    (mem : ⟨some (nameOfNode node), .directory files⟩ ∈ tree.entries) {name : String} (here : name ≠ herePart)
    (parent : name ≠ parentPart) :
    (tree.placeOf [nameOfNode node, name]).text? = (files.find name).content? := by
  obtain ⟨nodeHere, nodeParent⟩ := nameOfNode_ne node
  have entry : (tree.site tree.reach.around).lookAtEntry (nameOfNode node) = some (.directory files) := by
    show (tree.entries.find? _).map Entry.kind = _
    rw [find?_of_mem named mem]
    rfl
  have home : (tree.site tree.reach.around).home = tree.reach.around.home := rfl
  have file : (tree.site tree.reach.around).look (tree.reach.around.home ++ [nameOfNode node] ++ [name]) =
      Site.lookAtFile (files.find name) := by
    rw [← home, List.append_assoc, Site.look_home_append]
    show Site.lookInside _ [nameOfNode node, name] = _
    rw [Site.lookInside, entry]
  rw [placeOf, Site.follow, step_entry named mem nodeHere nodeParent]
  simp only [Site.follow, Site.step, here, parent, if_false, file]
  cases files.find name with
  | missing | text | unreadable | directory => rfl

theorem content?_of_directory {tree : NodeTree} (named : (tree.entries.filterMap Entry.name).Nodup)
    (mem : ⟨some (nameOfNode node), .directory files⟩ ∈ tree.entries) {name : String} (here : name ≠ herePart)
    (parent : name ≠ parentPart) :
    tree.content? node name =
      if (nameOfNode node ++ "/" ++ name).utf8ByteSize ≤ tree.reach.room then (files.find name).content? else none := by
  rw [content?, placeOf_file named mem here parent]

/-- Where the entries that stand for nodes have the nodes' own names, no node is listed twice: its name would be there
twice. -/
theorem nodup_nodeOfEntry? {tree : NodeTree} (named : (tree.entries.filterMap Entry.name).Nodup)
    (own : ∀ entry ∈ tree.entries, ∀ node, tree.nodeOfEntry? entry = some node →
      entry.name = some (nameOfNode node)) : (tree.entries.filterMap tree.nodeOfEntry?).Nodup := by
  have names : ∀ {some : List Entry}, (∀ entry ∈ some, entry ∈ tree.entries) →
      ((some.filterMap tree.nodeOfEntry?).map nameOfNode).Sublist (some.filterMap Entry.name) := by
    intro some among
    induction some with
    | nil => exact List.Sublist.refl _
    | cons entry rest ih =>
      have later := ih fun entry mem => among entry (List.mem_cons_of_mem _ mem)
      cases stands : tree.nodeOfEntry? entry with
      | none =>
        rw [List.filterMap_cons_none stands]
        exact later.trans ((List.sublist_cons_self entry rest).filterMap Entry.name)
      | some node =>
        have given := own entry (among entry List.mem_cons_self) node stands
        rw [List.filterMap_cons_some stands, List.filterMap_cons_some given, List.map_cons]
        exact later.cons_cons _
  have apart := (names fun _ mem => mem).nodup named
  exact (List.pairwise_map.1 apart).imp fun differ same => differ (congrArg nameOfNode same)

theorem nodes_eq_of_sorted {tree : NodeTree} {ids : List NodeId}
    (read : tree.entries.filterMap tree.nodeOfEntry? = ids) (sorted : ids.Pairwise (· ≤ ·)) : tree.nodes = ids := by
  rw [nodes, read]
  exact List.mergeSort_of_pairwise (sorted.imp decide_eq_true)

namespace Shows

/-- What is read of the file of distances. -/
theorem distanceRow_eq (h : Shows entries reach rows present)
    (small : ∀ row ∈ rows, ∀ d ∈ row, d < 1 <<< 32) (mem : node ∈ present) :
    ((directory entries reach).distanceRow node).map some =
      present.map (MatrixTopology.value? rows node) := by
  obtain ⟨files, text, row, entry, holds, lists, same⟩ := h.listed node mem
  have read : (directory entries reach).content? node distanceName = some text := by
    have fits : (nameOfNode node ++ "/" ++ distanceName).utf8ByteSize ≤ (directory entries reach).reach.room :=
      h.within node mem
    have found : files.find distanceName = .text text := holds
    have named : ((directory entries reach).entries.filterMap Entry.name).Nodup := h.named
    rw [content?_of_directory named entry (by decide) (by decide), if_pos fits, found]
    rfl
  have below : ∀ d ∈ row, d < 1 <<< 32 := by
    intro d there
    have listed : some d ∈ present.map (MatrixTopology.value? rows node) :=
      same ▸ List.mem_map_of_mem there
    obtain ⟨q, -, found⟩ := List.mem_map.1 listed
    obtain ⟨values, row, found⟩ := Option.bind_eq_some_iff.1 found
    exact small values (List.mem_of_getElem? row) d (List.mem_of_getElem? found)
  rw [distanceRow, read]
  simp only [lists.numbers_eq below, same]

/-- The directory of a node present stands for it. -/
theorem nodeOfEntry?_eq (h : Shows entries reach rows present) (mem : node ∈ present)
    (word : node < wordLimit) :
    nodeOfEntry? (directory entries reach) ⟨some (nameOfNode node), .directory files⟩ = some node := by
  have fits : (nameOfNode node).utf8ByteSize ≤ reach.room := by
    have whole := h.within node mem
    simp only [String.utf8ByteSize_append] at whole
    omega
  have leads : (directory entries reach).isDirectory (nameOfNode node) (.directory files) = true := by
    rw [isDirectory, NodeTree.reach, decide_eq_true fits]
    rfl
  simp only [ nodeOfEntry?, bind, Option.bind, leads, if_true, nodeOfName?_nameOfNode word]

theorem distinct (h : Shows entries reach rows present) :
    (entries.filterMap ( nodeOfEntry? (directory entries reach))).Nodup := by
  have named : ((directory entries reach).entries.filterMap Entry.name).Nodup := h.named
  exact nodup_nodeOfEntry? named fun entry mem node stands => (h.others entry mem node stands).2

/-- **The nodes of the tree are those present.** -/
theorem nodes_eq (h : Shows entries reach rows present) (ascending : present.Pairwise (· < ·))
    (words : ∀ node ∈ present, node < wordLimit) :
    (directory entries reach).nodes = present := by
  refine eq_of_ascending (ascending_mergeSort h.distinct) ascending fun node => ?_
  have listed : node ∈ (directory entries reach).nodes ↔
      node ∈ entries.filterMap ( nodeOfEntry? (directory entries reach)) := List.mem_mergeSort
  refine listed.trans (List.mem_filterMap.trans ⟨?_, ?_⟩)
  · rintro ⟨entry, mem, stands⟩
    exact (h.others entry mem node stands).1
  · intro mem
    obtain ⟨files, text, row, entry, -⟩ := h.listed node mem
    exact ⟨_, entry, h.nodeOfEntry?_eq mem (words node mem)⟩

end Shows

/-- **The distances of the tree are those of the matrix.** -/
theorem Shows.distance_eq (h : Shows entries reach rows present)
    (small : ∀ row ∈ rows, ∀ d ∈ row, d < 1 <<< 32)
    (nodes : (directory entries reach).nodes = present) {p q d : Nat} (hp : p ∈ present)
    (hq : q ∈ present) (known : MatrixTopology.value? rows p q = some d) :
    (directory entries reach).distance p q = d := by
  have sorted : present.Pairwise (· ≤ ·) := nodes ▸ sorted_mergeSort _
  obtain ⟨column, found⟩ := bisect?_of_mem sorted hq
  have there := getElem?_of_bisect? found
  have read := congrArg (fun values : List (Option Nat) => values[column]?)
    (h.distanceRow_eq small hp)
  simp only [List.getElem?_map, there, Option.map_some, known] at read
  obtain ⟨value, value_eq, same⟩ := Option.map_eq_some_iff.1 read
  cases same
  rw [distance, nodes, found, Option.bind_some, value_eq]

end NodeTree

/-! ## Both -/

section Both

variable {rows : List (List Nat)} {present absent : List NodeId} {entries : List Entry}
  {reach : Reach}

/-- **The matrix and the tree agree.** A square matrix of distances is taken; with the other nodes marked
absent, it tells the same of the nodes present, of which there is at least one, as a tree that has their
distances in its files. -/
theorem ofRows_agrees_shown (square : ∀ row ∈ rows, row.length = rows.length)
    (small : ∀ row ∈ rows, ∀ d ∈ row, d < 1 <<< 32) (bounded : rows.length ≤ wordLimit)
    (ascending : present.Pairwise (· < ·)) (some : present ≠ [])
    (inside : ∀ node ∈ present, node < rows.length)
    (missing : ∀ node < rows.length, node ∈ absent ↔ node ∉ present)
    (shows : NodeTree.Shows entries reach rows present) (grants : Grants) (cpu : Option CpuId) :
    ∃ m, MatrixTopology.ofRows rows = .ok m ∧
      (m.withAbsent absent).topology.AgreeOn ((NodeTree.directory entries reach).topology grants cpu)
        present := by
  have filled : rows ≠ [] := by
    rintro rfl
    obtain ⟨node, mem⟩ := List.exists_mem_of_ne_nil present some
    exact Nat.not_lt_zero node (inside node mem)
  have tree := shows.nodes_eq ascending fun node mem => Nat.lt_of_lt_of_le (inside node mem) bounded
  have matrix : (MatrixTopology.withAbsent { state := .available, rows } absent).nodes = present :=
    MatrixTopology.nodes_withAbsent ascending inside rfl missing
  have listed : present.isEmpty = false := by simpa using some
  refine ⟨_, MatrixTopology.ofRows_of_square filled square, .of_distance ⟨?_, ?_⟩ ⟨matrix, tree⟩ ?_⟩
  · show MatrixTopology.availability _ = _
    rw [MatrixTopology.availability, matrix, listed]
    rfl
  · show (if (NodeTree.directory entries reach).nodes.isEmpty then _ else _) = _
    rw [tree, listed]
    rfl
  · intro p hp q hq
    obtain ⟨d, known⟩ := MatrixTopology.exists_value square (inside p hp) (inside q hq)
    have read : (NodeTree.directory entries reach).distance p q = d :=
      shows.distance_eq small tree hp hq known
    have entry : (MatrixTopology.withAbsent { state := .available, rows } absent).distance p q = d :=
      MatrixTopology.distance_eq known
    exact read.trans entry.symm

/-- The distances between three nodes, of which no two are the same both ways. -/
def threeRows : List (List Nat) := [[10, 21, 30], [22, 10, 41], [33, 44, 10]]

/-- A tree without the second of three nodes, with a file besides. -/
def sparseEntries : List Entry :=
  [⟨some "node2", .directory { distance := .text " 33\t010" }⟩, ⟨some "possible", .plainFile⟩,
    ⟨some "node0", .directory { distance := .text "10 30\n" }⟩]

theorem sparseEntries_show : NodeTree.Shows sparseEntries {} threeRows [0, 2] := by
  have first : Text.Decimal.Lists ([] ++ ['1', '0'] ++ ([' '] ++ ['3', '0'] ++ ['\n'])) [10, 30] :=
    .cons rfl ⟨0, rfl⟩ rfl (.cons rfl ⟨0, rfl⟩ rfl (.nil rfl))
  have last :
      Text.Decimal.Lists ([' '] ++ ['3', '3'] ++ (['\t'] ++ ['0', '1', '0'] ++ [])) [33, 10] :=
    .cons rfl ⟨0, rfl⟩ rfl (.cons rfl ⟨1, rfl⟩ rfl (.nil rfl))
  refine ⟨fun p mem => ?_, by decide, by decide, fun entry mem node stands => ?_⟩
  · rcases List.mem_cons.1 mem with rfl | mem
    · exact ⟨{ distance := .text "10 30\n" }, "10 30\n", [10, 30], by decide, rfl, first, rfl⟩
    · obtain rfl := List.mem_singleton.1 mem
      exact ⟨{ distance := .text " 33\t010" }, " 33\t010", [33, 10], by decide, rfl, last, rfl⟩
  · simp only [sparseEntries, List.mem_cons, List.not_mem_nil, or_false] at mem
    rcases mem with rfl | rfl | rfl
    · cases stands
      decide
    · cases stands
    · cases stands
      decide

/-- A matrix of three nodes and a tree with two of them, both of which are nearest to themselves. -/
theorem threeRows_agrees_sparse :
    NodeTree.Shows sparseEntries {} threeRows [0, 2] ∧
      ∃ m, MatrixTopology.ofRows threeRows = .ok m ∧
        (m.withAbsent [1]).topology.AgreeOn ((NodeTree.directory sparseEntries).topology (· ≤ 64) (some 0)) [0, 2] :=
  ⟨sparseEntries_show, ofRows_agrees_shown (by decide) (by decide) (by decide) (by decide) (by decide)
    (by decide) (by decide) sparseEntries_show (· ≤ 64) (some 0)⟩

end Both

end NodeHeap
