import NodeHeap.Proofs.Probers

/-!
# Rankings as sorted lists

A ranking is the nodes of a topology in the one order in which nearer nodes come first and equally near
nodes go by their ids. It does not depend on the order in which the nodes are listed, it holds a node as
often as the topology lists it, and no property of the distances is needed for it.

* `Topology.Ranked` — a list in the order of a ranking.
* `Topology.Ranked.eq_of_perm` — no two arrangements of the same nodes are in this order.
* `Ranking.build_eq_empty_iff`, `Ranking.build_ranked` — when there is a ranking, and what it is.
* `MatrixTopology.Made` — the topologies that can be made of a matrix, and the ids marked absent in them.
* `MatrixTopology.Made.order_eq` — an arrangement of the nodes present in this order is the ranking.
* `build_canonical` — the ranking of any topology, and what follows for matrices.
-/

namespace NodeHeap

/-! ## The order -/

namespace Topology

variable {s t : Topology} {reference : NodeId} {xs ys : List NodeId}

/-- Nearer nodes come first, equally near ones go by their ids. -/
def Ranked (t : Topology) (reference : NodeId) (order : List NodeId) : Prop :=
  order.Pairwise fun (a b : Nat) => t.distance reference a < t.distance reference b ∨
    t.distance reference a = t.distance reference b ∧ a ≤ b

/-- No two arrangements of the same nodes are in the order of a ranking. -/
theorem Ranked.eq_of_perm (hx : t.Ranked reference xs) (hy : t.Ranked reference ys)
    (perm : xs.Perm ys) : xs = ys := by
  refine perm.eq_of_pairwise ?_ hx hy
  intro (a : Nat) (b : Nat) _ _ ab ba
  rcases ab with nearer | ⟨even, le⟩
  · rcases ba with back | ⟨back, -⟩ <;> omega
  · rcases ba with back | ⟨-, ge⟩
    · omega
    · exact Nat.le_antisymm le ge

/-- Only the distances of the nodes in the list count. -/
theorem Ranked.congr (ranked : s.Ranked reference xs)
    (same : ∀ node ∈ xs, s.distance reference node = t.distance reference node) :
    t.Ranked reference xs := by
  refine List.Pairwise.imp_of_mem ?_ ranked
  intro a b ha hb earlier
  rwa [same a ha, same b hb] at earlier

theorem Ranked.of_equal {d : Nat} (ascending : xs.Pairwise (· < ·))
    (equal : ∀ node ∈ xs, t.distance reference node = d) : t.Ranked reference xs := by
  refine List.Pairwise.imp_of_mem ?_ ascending
  intro a b ha hb lt
  refine .inr ⟨?_, Nat.le_of_lt lt⟩
  rw [equal a ha, equal b hb]

/-- A node that is nearer than all the others comes first. -/
theorem Ranked.cons_of_nearer {node : NodeId} (ranked : t.Ranked reference xs)
    (nearer : ∀ other ∈ xs, t.distance reference node < t.distance reference other) :
    t.Ranked reference (node :: xs) :=
  List.pairwise_cons.2 ⟨fun other mem => .inl (nearer other mem), ranked⟩

end Topology

/-! ## What is built -/

namespace Ranking

variable {s t : Topology} {reference : NodeId}

theorem nearerOrEqual_iff {a b : Nat} : nearerOrEqual t reference a b = true ↔
    t.distance reference a < t.distance reference b ∨
      t.distance reference a = t.distance reference b ∧ a ≤ b := by
  simp [nearerOrEqual]

/-- Sorting puts any list of nodes in the order of a ranking. -/
theorem ranked_mergeSort (nodes : List NodeId) :
    t.Ranked reference (nodes.mergeSort (nearerOrEqual t reference)) := by
  have sorted : (nodes.mergeSort (nearerOrEqual t reference)).Pairwise
      fun a b => nearerOrEqual t reference a b = true := by
    refine List.pairwise_mergeSort ?_ ?_ nodes
    · intro a b c ab bc
      rw [nearerOrEqual_iff] at ab bc ⊢
      omega
    · intro a b
      rw [Bool.or_eq_true, nearerOrEqual_iff, nearerOrEqual_iff]
      omega
  exact sorted.imp nearerOrEqual_iff.1

theorem build_eq_empty_iff : build t reference = {} ↔ t.isAvailable = false ∨ t.nodes = [] := by
  constructor
  · intro empty
    cases available : t.isAvailable with
    | false => exact .inl rfl
    | true =>
      refine .inr (Decidable.byContradiction fun listed => ?_)
      rw [build, if_pos (by simp [available, listed])] at empty
      cases empty
  · rintro (off | none)
    · exact build_of_not_available off reference
    · rw [build, none, List.isEmpty_nil, Bool.not_true, Bool.and_false]
      rfl

theorem build_ranked (reference : NodeId) (available : t.isAvailable = true) (some : t.nodes ≠ []) :
    (build t reference).reference = .some reference ∧
      (build t reference).order.Perm t.nodes ∧ t.Ranked reference (build t reference).order := by
  refine ⟨?_, order_perm available, ?_⟩
  · rw [build, if_pos (by simp [available, some])]
  · rw [build, if_pos (by simp [available, some])]
    exact ranked_mergeSort t.nodes

/-- An arrangement of the nodes in this order is the ranking. -/
theorem order_eq {order : List NodeId} (available : t.nodes ≠ [] → t.isAvailable = true)
    (perm : order.Perm t.nodes) (ranked : t.Ranked reference order) :
    (build t reference).order = order := by
  by_cases none : t.nodes = []
  · rw [build_eq_empty_iff.2 (.inr none)]
    rw [none] at perm
    exact perm.eq_nil.symm
  · obtain ⟨-, listed, sorted⟩ := build_ranked reference (available none) none
    exact sorted.eq_of_perm ranked (listed.trans perm.symm)

/-- How the nodes are listed does not matter. -/
theorem build_perm (available : s.isAvailable = t.isAvailable) (nodes : s.nodes.Perm t.nodes)
    (distance : ∀ node ∈ t.nodes, s.distance reference node = t.distance reference node) :
    build s reference = build t reference := by
  by_cases empty : t.isAvailable = false ∨ t.nodes = []
  · rw [build_eq_empty_iff.2 empty, build_eq_empty_iff.2]
    refine empty.imp (fun off => available.trans off) fun none => ?_
    rw [none] at nodes
    exact nodes.eq_nil
  · obtain ⟨on, some⟩ := not_or.1 empty
    rw [Bool.not_eq_false] at on
    obtain ⟨from', listed, ranked⟩ := build_ranked reference on some
    have some' : s.nodes ≠ [] := fun none => some (nodes.symm.trans (by rw [none])).eq_nil
    obtain ⟨from'', listed', ranked'⟩ :=
      build_ranked reference (available.trans on) some'
    have same : (build s reference).order = (build t reference).order := by
      refine (ranked'.congr fun node mem => ?_).eq_of_perm ranked
        ((listed'.trans nodes).trans listed.symm)
      exact distance node ((listed'.trans nodes).mem_iff.1 mem)
    calc build s reference
        = ⟨(build s reference).reference, (build s reference).order⟩ := rfl
      _ = ⟨(build t reference).reference, (build t reference).order⟩ := by rw [from'', from', same]

end Ranking

/-! ## Matrices -/

namespace MatrixTopology

variable {rows : List (List Nat)} {m : MatrixTopology} {gone : List NodeId} {reference : NodeId}

/-- The topologies that can be made of a matrix, with the ids that were marked absent on the way. -/
inductive Made : List (List Nat) → List NodeId → MatrixTopology → Prop
  | ofRows {rows : List (List Nat)} {m : MatrixTopology} (square : ofRows rows = .ok m) :
      Made rows [] m
  | unavailable : Made [] [] unavailable
  | degraded : Made [] [] degraded
  | withAbsent {rows : List (List Nat)} {gone : List NodeId} {m : MatrixTopology}
      (nodes : List NodeId) (made : Made rows gone m) : Made rows (gone ++ nodes) (m.withAbsent nodes)
  | withCaller {rows : List (List Nat)} {gone : List NodeId} {m : MatrixTopology}
      (caller : Option NodeId) (made : Made rows gone m) : Made rows gone (m.withCaller caller)

/-- The ids of a matrix that are not marked absent, ascending. -/
def remaining (rows : List (List Nat)) (gone : List NodeId) : List NodeId :=
  (List.range rows.length).filter fun node => !gone.contains node

theorem mem_remaining {node : NodeId} :
    node ∈ remaining rows gone ↔ node < rows.length ∧ node ∉ gone := by
  simp [remaining]

theorem remaining_ascending : (remaining rows gone).Pairwise (· < ·) :=
  List.pairwise_lt_range.filter _

theorem eq_of_ofRows (made : ofRows rows = .ok m) : m = { state := .available, rows } := by
  unfold ofRows at made
  split at made
  · cases made
  · split at made
    · cases made
    · cases made
      rfl

/-- What every topology made of a matrix has: the matrix, the ids marked absent in ascending order, and nodes
to list only in a state that lists them. -/
structure Made.Keeps (rows : List (List Nat)) (gone : List NodeId) (m : MatrixTopology) : Prop where
  matrix : m.rows = rows
  ascending : m.absent.Pairwise (· < ·)
  marked : ∀ node, node ∈ m.absent ↔ node ∈ gone
  listing : m.rows ≠ [] → m.state = .available

theorem Made.keeps (made : Made rows gone m) : Made.Keeps rows gone m := by
  induction made with
  | ofRows square =>
    obtain rfl := eq_of_ofRows square
    exact ⟨rfl, .nil, fun node => Iff.rfl, fun _ => rfl⟩
  | unavailable => exact ⟨rfl, .nil, fun node => Iff.rfl, fun some => absurd rfl some⟩
  | degraded => exact ⟨rfl, .nil, fun node => Iff.rfl, fun some => absurd rfl some⟩
  | withAbsent nodes _ ih =>
    refine ⟨ih.matrix, ascending_withAbsent _ nodes, fun node => ?_, ih.listing⟩
    rw [mem_withAbsent, List.mem_append, ih.marked]
  | withCaller caller _ ih => exact ⟨ih.matrix, ih.ascending, ih.marked, ih.listing⟩

theorem Made.nodes_eq (made : Made rows gone m) : m.nodes = remaining rows gone := by
  have keeps := made.keeps
  refine eq_of_ascending (List.pairwise_lt_range.filter _) remaining_ascending fun node => ?_
  rw [mem_remaining, ← keeps.marked, ← keeps.matrix]
  exact mem_nodes keeps.ascending

theorem Made.isAvailable (made : Made rows gone m) (some : m.nodes ≠ []) :
    m.topology.isAvailable = true := by
  have matrix : m.rows ≠ [] := by
    intro none
    rw [MatrixTopology.nodes, none] at some
    exact some rfl
  have listing := made.keeps.listing matrix
  simp [topology, Topology.isAvailable, availability, listing, some, Availability.isAvailable]

/-- An arrangement of the nodes present in the order of a ranking is the ranking. -/
theorem Made.order_eq {order : List NodeId} (made : Made rows gone m)
    (perm : order.Perm (remaining rows gone)) (ranked : m.topology.Ranked reference order) :
    (Ranking.build m.topology reference).order = order := by
  have nodes : m.topology.nodes = remaining rows gone := made.nodes_eq
  refine Ranking.order_eq (fun some => made.isAvailable some) ?_ ranked
  rw [nodes]
  exact perm

theorem distance_of_outside (outside : m.rows.length ≤ reference) (node : NodeId) :
    m.distance reference node = outsideDistance := by
  rw [distance, List.getElem?_eq_none outside]
  rfl

/-- From a node of a symmetric matrix the others are all equally far. -/
theorem distance_symmetricRows {n node : Nat} (made : m.rows = symmetricRows n) (inside : node < n)
    (within : reference < n) :
    m.distance reference node = if reference = node then localDistance else remoteDistance := by
  rw [distance, made, symmetricRows, List.getElem?_map, List.getElem?_range within, Option.map_some,
    Option.bind_some, List.getElem?_map, List.getElem?_range inside, Option.map_some,
    Option.getD_some]

theorem length_symmetricRows (n : Nat) : (symmetricRows n).length = n := by
  simp [symmetricRows]

theorem Made.order_of_outside (made : Made rows gone m) (outside : rows.length ≤ reference) :
    (Ranking.build m.topology reference).order = remaining rows gone := by
  have far : m.rows.length ≤ reference := by rwa [made.keeps.matrix]
  refine made.order_eq (.refl _) (.of_equal (d := outsideDistance) remaining_ascending ?_)
  intro node _
  exact distance_of_outside far node

/-- In a symmetric matrix the reference node comes first, if it is present, and the others follow by their
ids. -/
theorem Made.order_of_symmetric {n : Nat} (made : Made (symmetricRows n) gone m) :
    (Ranking.build m.topology reference).order =
      if reference ∈ remaining (symmetricRows n) gone then
        reference :: (remaining (symmetricRows n) gone).erase reference
      else remaining (symmetricRows n) gone := by
  have matrix : m.rows = symmetricRows n := made.keeps.matrix
  have inside : ∀ node ∈ remaining (symmetricRows n) gone, node < n := by
    intro node mem
    have lt := (mem_remaining.1 mem).1
    rwa [length_symmetricRows] at lt
  split
  · rename_i present
    have within : reference < n := inside reference present
    have others : ∀ node ∈ (remaining (symmetricRows n) gone).erase reference,
        m.topology.distance reference node = remoteDistance := by
      intro node mem
      have distinct : (remaining (symmetricRows n) gone).Nodup :=
        remaining_ascending.imp Nat.ne_of_lt
      obtain ⟨other, mem⟩ := (List.Nodup.mem_erase_iff distinct).1 mem
      exact (distance_symmetricRows matrix (inside node mem) within).trans (if_neg (Ne.symm other))
    refine made.order_eq (List.perm_cons_erase present).symm ?_
    refine Topology.Ranked.cons_of_nearer
      (.of_equal (remaining_ascending.sublist List.erase_sublist) others) fun other mem => ?_
    have near : m.topology.distance reference reference = localDistance :=
      (distance_symmetricRows matrix within within).trans (if_pos rfl)
    rw [near, others other mem]
    decide
  · rename_i missing
    by_cases within : reference < n
    · refine made.order_eq (.refl _) (.of_equal (d := remoteDistance) remaining_ascending ?_)
      intro node mem
      refine (distance_symmetricRows matrix (inside node mem) within).trans (if_neg ?_)
      rintro rfl
      exact missing mem
    · refine made.order_of_outside ?_
      rw [length_symmetricRows]
      exact Nat.le_of_not_lt within

end MatrixTopology

/-! ## The result -/

open MatrixTopology in
/-- A ranking is the one arrangement of the nodes listed in which nearer nodes come first and equally near
ones go by their ids; it is empty just where the topology is not available or lists no node. So topologies
that list the same nodes in any order, at the same distances, have one ranking; from an id outside a matrix
it is the nodes present by their ids; and in a symmetric matrix it is the reference node, if it is present,
and then the others by their ids. -/
theorem build_canonical (t : Topology) (reference : NodeId) :
    (Ranking.build t reference = { reference := none, order := [] } ↔
        t.isAvailable = false ∨ t.nodes = []) ∧
      (t.isAvailable = true → t.nodes ≠ [] →
        (Ranking.build t reference).reference = some reference ∧
          (Ranking.build t reference).order.Perm t.nodes ∧
          t.Ranked reference (Ranking.build t reference).order ∧
          ∀ order : List NodeId, order.Perm t.nodes → t.Ranked reference order →
            order = (Ranking.build t reference).order) ∧
      (∀ s : Topology, s.isAvailable = t.isAvailable → s.nodes.Perm t.nodes →
        (∀ node ∈ t.nodes, s.distance reference node = t.distance reference node) →
        Ranking.build s reference = Ranking.build t reference) ∧
      (∀ rows gone m, Made rows gone m → rows.length ≤ reference →
        (Ranking.build m.topology reference).order = remaining rows gone) ∧
      ∀ n gone m, Made (symmetricRows n) gone m →
        (Ranking.build m.topology reference).order =
          if reference ∈ remaining (symmetricRows n) gone then
            reference :: (remaining (symmetricRows n) gone).erase reference
          else remaining (symmetricRows n) gone := by
  refine ⟨Ranking.build_eq_empty_iff, ?_, ?_, ?_, ?_⟩
  · intro available some
    obtain ⟨from', listed, ranked⟩ := Ranking.build_ranked reference available some
    refine ⟨from', listed, ranked, fun order perm sorted => ?_⟩
    exact sorted.eq_of_perm ranked (perm.trans listed.symm)
  · intro s available nodes distance
    exact Ranking.build_perm available nodes distance
  · intro rows gone m made outside
    exact made.order_of_outside outside
  · intro n gone m made
    exact made.order_of_symmetric

/-- Nodes that are listed in no order, one of them twice, with node 0 farther than its id tells. -/
def shuffled : Topology where
  availability := .available
  maxNode := some 3
  nodes := [3, 1, 0, 3]
  callerNode := .ok none
  distance := fun source target => if target = 0 then 40 else source + 10

/-- The ranking of such a topology, and that of a symmetric matrix without one of its nodes. -/
theorem build_canonical_of_shuffled :
    Ranking.build shuffled 2 = { reference := some 2, order := [1, 3, 3, 0] } ∧
      (Ranking.build (MatrixTopology.withAbsent
        { state := .available, rows := MatrixTopology.symmetricRows 4 } [1]).topology 2).order =
        [2, 0, 3] := by
  constructor
  · obtain ⟨from', -, -, only⟩ := (build_canonical shuffled 2).2.1 rfl (by decide)
    have order := only [1, 3, 3, 0] (by decide) (by unfold Topology.Ranked; decide)
    calc Ranking.build shuffled 2
        = ⟨(Ranking.build shuffled 2).reference, (Ranking.build shuffled 2).order⟩ := rfl
      _ = ⟨some 2, [1, 3, 3, 0]⟩ := by rw [from', ← order]
  · have made : MatrixTopology.Made (MatrixTopology.symmetricRows 4) ([] ++ [1]) _ :=
      .withAbsent [1] (.ofRows rfl)
    exact (build_canonical shuffled 2).2.2.2.2 4 _ _ made

end NodeHeap
