import Mathlib.Data.List.Nodup
import NodeHeap.Proofs.Probers

/-!
# Names of nodes

The listing of a node tree takes each entry for a node whose name has a decimal number behind the stem, however that
is written. The files of a node are looked for under its own name only, in which the number has neither a leading zero
nor a sign. So each node is listed once, and read where it was listed, if the entries have the nodes' own names, and
only then.

* `NodeTree.NamedFor`, `NodeTree.Stands` — the names that are taken for a node's, and the entries that stand for it.
* `NodeTree.mem_nodes_iff`, `NodeTree.count_nodes` — the nodes that are listed, and how often.
* `NodeTree.HasNode`, `NodeTree.hasNode_iff` — the nodes whose own name leads to a directory.
* `NodeTree.content?_eq`, `NodeTree.content?_of_not_hasNode` — their files are read there, and no others are.
* `NodeTree.Canonical`, `NodeTree.canonical_iff` — the trees whose entries have the nodes' own names.
* `NodeTree.nodes_enumerate` — the law of the listing and of the files.
-/

namespace NodeHeap.NodeTree

open Text

variable {tree : NodeTree} {entry : Entry} {node : NodeId} {name file : String}

/-! ## Entries that stand for a node -/

/-- A name that is taken for that of a node: behind the stem there is a decimal number that fits a word. -/
def NamedFor (name : String) (node : NodeId) : Prop :=
  ∃ id, name.toList = nodeStem.toList ++ id ∧ Decimal.Numeral id node ∧ node < wordLimit

theorem nodeOfName?_eq_some_iff : nodeOfName? name = some node ↔ NamedFor name node := by
  unfold nodeOfName?
  constructor
  · intro given
    simp only at given
    split at given
    · rename_i stem
      obtain ⟨id, whole⟩ := List.isPrefixOf_iff_prefix.1 stem
      have rest : name.toList.drop nodeStem.length = id := whole ▸ List.drop_left
      rw [rest] at given
      obtain ⟨numeral, word⟩ := Decimal.parse?_eq_some_iff.1 given
      exact ⟨id, whole.symm, numeral, word⟩
    · cases given
  · rintro ⟨id, whole, numeral, word⟩
    have stem : nodeStem.toList.isPrefixOf (nodeStem.toList ++ id) = true :=
      List.isPrefixOf_iff_prefix.2 (List.prefix_append _ _)
    have rest : (nodeStem.toList ++ id).drop nodeStem.length = id := List.drop_left
    simp only [whole, stem, if_true, rest]
    exact Decimal.parse?_eq_some_iff.2 ⟨numeral, word⟩

theorem namedFor_nameOfNode (word : node < wordLimit) : NamedFor (nameOfNode node) node :=
  nodeOfName?_eq_some_iff.1 (nodeOfName?_nameOfNode word)

/-- An entry stands for a node if it leads to a directory and has a name that is taken for the node's. -/
def Stands (tree : NodeTree) (entry : Entry) (node : NodeId) : Prop :=
  ∃ name, entry.name = some name ∧ tree.isDirectory name entry.kind = true ∧ NamedFor name node

theorem nodeOfEntry?_eq_some_iff : tree.nodeOfEntry? entry = some node ↔ tree.Stands entry node := by
  unfold nodeOfEntry? Stands
  refine Option.bind_eq_some_iff.trans (exists_congr fun name => and_congr_right fun _ => ?_)
  rw [Option.ite_none_right_eq_some, nodeOfName?_eq_some_iff]

instance : Decidable (tree.Stands entry node) := decidable_of_iff _ nodeOfEntry?_eq_some_iff

/-- **The nodes that are listed** are those that some entry stands for. -/
theorem mem_nodes_iff : node ∈ tree.nodes ↔ ∃ entry ∈ tree.entries, tree.Stands entry node := by
  rw [nodes, List.mem_mergeSort, List.mem_filterMap]
  exact exists_congr fun entry => and_congr_right fun _ => nodeOfEntry?_eq_some_iff

theorem count_nodes (tree : NodeTree) (node : NodeId) :
    tree.nodes.count node = tree.entries.countP fun entry => tree.Stands entry node := by
  rw [nodes, (List.mergeSort_perm _ _).count_eq, List.count, List.countP_filterMap]
  refine List.countP_congr fun entry _ => ?_
  rw [decide_eq_true_iff, ← nodeOfEntry?_eq_some_iff]
  cases tree.nodeOfEntry? entry with
  | none | some other => simp

/-! ## Nodes with a directory of their own -/

/-- A node's own name leads to a directory. -/
def HasNode (tree : NodeTree) (node : NodeId) : Prop :=
  ∃ kind, ⟨some (nameOfNode node), kind⟩ ∈ tree.entries ∧ tree.isDirectory (nameOfNode node) kind = true

theorem HasNode.mem_nodes (h : tree.HasNode node) (word : node < wordLimit) : node ∈ tree.nodes := by
  obtain ⟨kind, mem, leads⟩ := h
  exact mem_nodes_iff.2 ⟨_, mem, _, rfl, leads, namedFor_nameOfNode word⟩

/-- Where the own name of a node leads, and how many more links can be followed from there. -/
def entryOf (tree : NodeTree) (node : NodeId) : Place × Nat :=
  (tree.site tree.reach.around).follow tree.reach.hops (.directory tree.reach.around.home) [nameOfNode node]

theorem entryOf_of_place {place : Place}
    (turn : (tree.site tree.reach.around).step (.directory tree.reach.around.home) (nameOfNode node) = .place place) :
    tree.entryOf node = (place, tree.reach.hops) := by
  rw [entryOf, Site.follow, turn]
  simp only [Site.follow]

theorem entryOf_of_not_mem (none : some (nameOfNode node) ∉ tree.entries.map Entry.name) :
    tree.entryOf node = (.nowhere, tree.reach.hops) := by
  obtain ⟨here, parent⟩ := nameOfNode_ne node
  have missing : (tree.site tree.reach.around).lookAtEntry (nameOfNode node) = .none := by
    show (tree.entries.find? _).map Entry.kind = .none
    rw [Option.map_eq_none_iff, List.find?_eq_none]
    intro entry mem named
    exact none (List.mem_map.2 ⟨entry, mem, of_decide_eq_true named⟩)
  have home : (tree.site tree.reach.around).home = tree.reach.around.home := rfl
  refine entryOf_of_place ?_
  simp only [Site.step, here, parent, if_false]
  rw [← home, Site.look_home_append, Site.lookInside, missing]

/-- **The nodes with a directory of their own**, told by where their names lead. -/
theorem hasNode_iff (named : (tree.entries.filterMap Entry.name).Nodup) :
    tree.HasNode node ↔
      (nameOfNode node).utf8ByteSize ≤ tree.reach.room ∧ (tree.entryOf node).1.isDirectory = true := by
  obtain ⟨here, parent⟩ := nameOfNode_ne node
  have leads : ∀ kind, ⟨some (nameOfNode node), kind⟩ ∈ tree.entries →
      (tree.isDirectory (nameOfNode node) kind = true ↔
        (nameOfNode node).utf8ByteSize ≤ tree.reach.room ∧ (tree.entryOf node).1.isDirectory = true) := by
    intro kind mem
    unfold NodeTree.isDirectory
    rw [Bool.and_eq_true, decide_eq_true_iff]
    refine and_congr_right fun _ => ?_
    -- Where a link leads is what its entry is asked for; the other entries are where the name leads.
    cases kind with
    | directory files | plainFile =>
      rw [entryOf_of_place (step_entry named mem here parent)]
      simp [Place.isDirectory]
    | link target => rfl
  constructor
  · rintro ⟨kind, mem, directory⟩
    exact (leads kind mem).1 directory
  · intro h
    by_cases there : some (nameOfNode node) ∈ tree.entries.map Entry.name
    · obtain ⟨⟨name, kind⟩, mem, same⟩ := List.mem_map.1 there
      cases same
      exact ⟨kind, mem, (leads kind mem).2 h⟩
    · rw [entryOf_of_not_mem there] at h
      exact absurd h.2 Bool.false_ne_true

/-! ## Files of a node -/

/-- **The files of a node are looked for where its own name leads.** -/
theorem content?_eq (tree : NodeTree) (node : NodeId) (file : String) :
    tree.content? node file =
      if (nameOfNode node ++ "/" ++ file).utf8ByteSize ≤ tree.reach.room then
        ((tree.site tree.reach.around).follow (tree.entryOf node).2 (tree.entryOf node).1 [file]).1.text?
      else none := by
  have way := Site.follow_append (tree.site tree.reach.around) tree.reach.hops
    (.directory tree.reach.around.home) [nameOfNode node] [file]
  rw [List.singleton_append] at way
  rw [content?, placeOf, way]
  rfl

theorem content?_of_not_hasNode (named : (tree.entries.filterMap Entry.name).Nodup) (none : ¬tree.HasNode node)
    (file : String) : tree.content? node file = .none := by
  rw [content?_eq]
  split
  · rename_i fits
    have short : (nameOfNode node).utf8ByteSize ≤ tree.reach.room := by
      simp only [String.utf8ByteSize_append] at fits
      omega
    have other : (tree.entryOf node).1.isDirectory ≠ true := fun directory =>
      none ((hasNode_iff named).2 ⟨short, directory⟩)
    cases place : (tree.entryOf node).1 with
    | directory names => exact absurd (congrArg Place.isDirectory place) other
    | file text | nowhere =>
      simp only [Site.follow, Site.step]
      rfl
  · rfl

/-! ## Trees with the nodes' own names -/

/-- The entries that stand for nodes have the nodes' own names. -/
def Canonical (tree : NodeTree) : Prop :=
  ∀ entry ∈ tree.entries, ∀ node, tree.Stands entry node → entry.name = some (nameOfNode node)

theorem Canonical.ascending (h : tree.Canonical) (named : (tree.entries.filterMap Entry.name).Nodup) :
    tree.nodes.Pairwise (· < ·) :=
  ascending_mergeSort <| nodup_nodeOfEntry? named fun entry mem node stands =>
    h entry mem node (nodeOfEntry?_eq_some_iff.1 stands)

theorem Canonical.mem_nodes_iff (h : tree.Canonical) (word : node < wordLimit) :
    node ∈ tree.nodes ↔ tree.HasNode node := by
  refine ⟨fun listed => ?_, fun there => there.mem_nodes word⟩
  obtain ⟨entry, mem, name, given, leads, id⟩ := NodeTree.mem_nodes_iff.1 listed
  have own := h entry mem node ⟨name, given, leads, id⟩
  obtain rfl : name = nameOfNode node := Option.some.inj (given.symm.trans own)
  exact ⟨entry.kind, by rw [← given]; exact mem, leads⟩

/-- Of two members of a list that have a property, one is the other if no more than one has it. -/
theorem eq_of_countP_le_one {α : Type} {p : α → Bool} {list : List α} (few : list.countP p ≤ 1) {a b : α}
    (ha : a ∈ list) (hb : b ∈ list) (pa : p a = true) (pb : p b = true) : a = b := by
  rw [List.countP_eq_length_filter] at few
  have left : a ∈ list.filter p := List.mem_filter.2 ⟨ha, pa⟩
  have right : b ∈ list.filter p := List.mem_filter.2 ⟨hb, pb⟩
  obtain ⟨c, only⟩ : ∃ c, list.filter p = [c] :=
    List.length_eq_one_iff.1 (Nat.le_antisymm few (List.length_pos_of_mem left))
  rw [only, List.mem_singleton] at left right
  rw [left, right]

/-- **The trees that list each node once, and no node without a directory of its own**, are those whose entries have
the nodes' own names. -/
theorem canonical_iff (named : (tree.entries.filterMap Entry.name).Nodup) :
    tree.Canonical ↔
      tree.nodes.Pairwise (· < ·) ∧ ∀ node < wordLimit, node ∈ tree.nodes ↔ tree.HasNode node := by
  refine ⟨fun h => ⟨h.ascending named, fun node word => h.mem_nodes_iff word⟩, ?_⟩
  -- An entry with another name stands for its node beside the one with the node's own name, so the node would be
  -- listed twice.
  rintro ⟨ascending, own⟩ entry mem node stands
  have word : node < wordLimit := by
    obtain ⟨-, -, -, -, -, -, word⟩ := stands
    exact word
  have listed : node ∈ tree.nodes := NodeTree.mem_nodes_iff.2 ⟨entry, mem, stands⟩
  obtain ⟨kind, there, leads⟩ := (own node word).1 listed
  have once : tree.entries.countP (fun entry => tree.Stands entry node) ≤ 1 := by
    rw [← count_nodes]
    exact List.nodup_iff_count_le_one.1 (ascending.imp Nat.ne_of_lt) node
  have same : entry = ⟨some (nameOfNode node), kind⟩ :=
    eq_of_countP_le_one once mem there (decide_eq_true stands)
      (decide_eq_true ⟨_, rfl, leads, namedFor_nameOfNode word⟩)
  rw [same]

/-! ## The law -/

/-- How a node tree lists its nodes, and whose files are read. -/
structure Enumerates (tree : NodeTree) : Prop where
  /-- The nodes are listed in order, and each of them as often as entries stand for it. -/
  ordered : tree.nodes.Pairwise (· ≤ ·)
  counted : ∀ node, tree.nodes.count node = tree.entries.countP fun entry => tree.Stands entry node
  /-- A node with a directory of its own is listed. -/
  listed : ∀ node < wordLimit, tree.HasNode node → node ∈ tree.nodes
  /-- Each node is listed once, and none without a directory of its own, if entries have the nodes' own names, and
  only then. -/
  once : tree.Canonical ↔
    tree.nodes.Pairwise (· < ·) ∧ ∀ node < wordLimit, node ∈ tree.nodes ↔ tree.HasNode node
  /-- The files of a node with a directory of its own are read in the directory that its name leads to. -/
  read : ∀ node, tree.HasNode node → ∃ names hops, tree.entryOf node = (.directory names, hops) ∧
    ∀ file, tree.content? node file =
      if (nameOfNode node ++ "/" ++ file).utf8ByteSize ≤ tree.reach.room then
        ((tree.site tree.reach.around).follow hops (.directory names) [file]).1.text?
      else none
  /-- If that stands under the name itself, they are the files in it. -/
  within : ∀ node files, ⟨some (nameOfNode node), .directory files⟩ ∈ tree.entries →
    ∀ file ∈ [cpulistName, distanceName], tree.content? node file =
      if (nameOfNode node ++ "/" ++ file).utf8ByteSize ≤ tree.reach.room then (files.find file).content? else none
  /-- Other nodes have no files, also where they are listed. -/
  unread : ∀ node, ¬tree.HasNode node → ∀ file, tree.content? node file = none

/-- **Every directory with distinct names is enumerated this way.** -/
theorem nodes_enumerate (named : (tree.entries.filterMap Entry.name).Nodup) : tree.Enumerates where
  ordered := sorted_mergeSort _
  counted := count_nodes tree
  listed _ word there := there.mem_nodes word
  once := canonical_iff named
  read := by
    intro node there
    obtain ⟨-, directory⟩ := (hasNode_iff named).1 there
    cases place : (tree.entryOf node).1 with
    | directory names =>
      refine ⟨names, (tree.entryOf node).2, Prod.ext place rfl, fun file => ?_⟩
      rw [content?_eq, place]
    | file text | nowhere =>
      rw [place] at directory
      cases directory
  within := by
    intro node files mem file among
    have plain : file ≠ herePart ∧ file ≠ parentPart := by
      rcases List.mem_cons.1 among with rfl | among
      · decide
      · obtain rfl := List.mem_singleton.1 among
        decide
    exact content?_of_directory named mem plain.1 plain.2
  unread _ none file := content?_of_not_hasNode named none file

/-- Two directories with the id of one node, one of them with a leading zero, a link to the other one, and more. -/
def variousNames : List Entry :=
  [⟨some "node2", .link "node7"⟩, ⟨some "node7", .directory { cpulist := .text "0-3" }⟩,
    ⟨some "node07", .directory { cpulist := .text "4-7" }⟩, ⟨some "nodes", .directory {}⟩, ⟨none, .plainFile⟩]

theorem placeOf_variousNames : (directory variousNames).placeOf ["node2"] = .directory ["node7"] := by
  have first : ((directory variousNames).site {}).step (.directory []) "node2" = .link "node7" := rfl
  have steps : Path.steps "node7" = ["node7"] := by decide +kernel
  have start : Place.start [] "node7" = .directory [] := by decide +kernel
  have second : ((directory variousNames).site {}).step (.directory []) "node7" =
      .place (.directory ["node7"]) := rfl
  show (((directory variousNames).site {}).follow (39 + 1) (.directory []) ["node2"]).1 = _
  rw [Site.follow, first]
  simp only [steps, start, List.append_nil]
  rw [Site.follow, second]
  simp only [Site.follow]

theorem nodes_variousNames : (directory variousNames).nodes = [2, 7, 7] := by
  have leads : (directory variousNames).isDirectory "node2" (.link "node7") = true := by
    unfold NodeTree.isDirectory
    rw [placeOf_variousNames]
    rfl
  have link : nodeOfEntry? (directory variousNames) ⟨some "node2", .link "node7"⟩ = some 2 := by
    simp only [ nodeOfEntry?, bind, Option.bind, leads, if_true]
    rfl
  exact nodes_eq_of_sorted ((List.filterMap_cons_some link).trans rfl) (by decide)

theorem variousNames_enumerate :
    ((directory variousNames).entries.filterMap Entry.name).Nodup ∧ (directory variousNames).Enumerates ∧
      (directory variousNames).nodes = [2, 7, 7] :=
  ⟨by decide, nodes_enumerate (by decide), nodes_variousNames⟩

/-- A node with a directory under its own name and one with a leading zero in its name. -/
def twiceNamed : List Entry :=
  [⟨some "node01", .directory { cpulist := .text "0-3" }⟩, ⟨some "node1", .directory {}⟩]

/-- A node with a leading zero in the name of its only directory. -/
def otherNamed : List Entry := [⟨some "node01", .directory { cpulist := .text "0-3" }⟩]

/-- **Other spellings of a node's name are taken for it.** A node is listed twice if its name is there with a leading
zero and without one. If it is there with a leading zero only, the node is listed without a directory of its own, and
the list of processors in the directory that it is listed for is not read. -/
theorem nodes_of_other_spellings :
    ((twiceNamed.filterMap Entry.name).Nodup ∧ (directory twiceNamed).nodes = [1, 1] ∧
      ¬(directory twiceNamed).nodes.Pairwise (· < ·)) ∧
    (otherNamed.filterMap Entry.name).Nodup ∧ (directory otherNamed).nodes = [1] ∧
      ¬(directory otherNamed).HasNode 1 ∧ (directory otherNamed).content? 1 cpulistName = none := by
  have twice : (directory twiceNamed).nodes = [1, 1] := nodes_eq_of_sorted rfl (by decide)
  have other : (directory otherNamed).nodes = [1] := nodes_eq_of_sorted rfl (by decide)
  have absent : ¬(directory otherNamed).HasNode 1 := by
    rintro ⟨kind, mem, -⟩
    have same : some (nameOfNode 1) = some "node01" := congrArg Entry.name (List.mem_singleton.1 mem)
    exact absurd same (by decide)
  exact ⟨⟨by decide, twice, by rw [twice]; decide⟩, by decide, other, absent,
    content?_of_not_hasNode (by decide) absent cpulistName⟩

end NodeHeap.NodeTree
