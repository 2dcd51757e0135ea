import Mathlib.Data.List.Forall2
import NodeHeap.Proofs.Rankings

/-!
# Nodes marked absent

The absent nodes of a matrix add up to a set: what is listed depends on which ids were marked absent at any
time, not on how they were grouped, ordered or repeated on the way. A copy begins with the ids of the topology
that it is made of, and what is marked later in one of them is not marked in the other.

The topologies are kept in places, and beside each of them goes the record of the lists that were marked on the
way to it; both are carried through the same uses (`Use.apply`).

* `MatrixTopology.topologies`, `MatrixTopology.records` — what stands in the places after some uses.
* `MatrixTopology.Use.apply_related` — what a use preserves; `MatrixTopology.made_of_uses` — what a run does.
* `MatrixTopology.Without` — the matrix without the ids of a record.
* `MatrixTopology.absent_nodes_accumulate` — the result.
-/

namespace NodeHeap.MatrixTopology

/-! ## Topologies in places -/

/-- A use of topologies that are kept in places. -/
inductive Use where
  /-- More nodes are marked absent in the topology at a place. -/
  | absent (place : Nat) (ids : List NodeId)
  /-- The caller's node of the topology at a place is set. -/
  | caller (place : Nat) (node : Option NodeId)
  /-- The topology at a place is copied to a new place behind the others. -/
  | clone (place : Nat)
  deriving DecidableEq, Repr

section Uses

variable {α β : Type} (mark : List NodeId → α → α) (call : Option NodeId → α → α)
  (mark' : List NodeId → β → β) (call' : Option NodeId → β → β)

/-- What stands in the places after a use. A place at which nothing stands is not used. -/
def Use.apply (xs : List α) : Use → List α
  | .absent place ids => xs.modify place (mark ids)
  | .caller place node => xs.modify place (call node)
  | .clone place => xs ++ xs[place]?.toList

variable {mark call mark' call'} {related : α → β → Prop} {xs : List α} {ys : List β}

theorem forall₂_modify {f : α → α} {g : β → β} (step : ∀ x y, related x y → related (f x) (g y))
    (all : List.Forall₂ related xs ys) (place : Nat) :
    List.Forall₂ related (xs.modify place f) (ys.modify place g) := by
  induction all generalizing place with
  | nil => cases place <;> exact .nil
  | cons head tail ih =>
    cases place with
    | zero => exact .cons (step _ _ head) tail
    | succ place => exact .cons head (ih place)

theorem forall₂_getElem? (all : List.Forall₂ related xs ys) (place : Nat) :
    List.Forall₂ related xs[place]?.toList ys[place]?.toList := by
  induction all generalizing place with
  | nil => exact .nil
  | cons head tail ih =>
    cases place with
    | zero => exact .cons head .nil
    | succ place =>
      rw [List.getElem?_cons_succ, List.getElem?_cons_succ]
      exact ih place

/-- What stands in the same places stays related. -/
theorem Use.apply_related (marks : ∀ ids x y, related x y → related (mark ids x) (mark' ids y))
    (calls : ∀ node x y, related x y → related (call node x) (call' node y))
    (all : List.Forall₂ related xs ys) (use : Use) :
    List.Forall₂ related (use.apply mark call xs) (use.apply mark' call' ys) := by
  unfold Use.apply
  cases use with
  | absent place ids => exact forall₂_modify (marks ids) all place
  | caller place node => exact forall₂_modify (calls node) all place
  | clone place => exact List.rel_append all (forall₂_getElem? all place)

end Uses

/-- The topologies made of one by some uses. -/
def topologies (m : MatrixTopology) (uses : List Use) : List MatrixTopology :=
  uses.foldl (Use.apply (fun ids m => m.withAbsent ids) fun node m => m.withCaller node) [m]

/-- The lists of ids marked absent on the way to each of them, in the order of time. -/
def records (uses : List Use) : List (List (List NodeId)) :=
  uses.foldl (Use.apply (fun ids record => record ++ [ids]) fun _ record => record) [[]]

variable {rows : List (List Nat)} {m k k' : MatrixTopology} {record record' : List (List NodeId)}
  {uses : List Use} {place : Nat}

theorem made_of_uses (square : ofRows rows = .ok m) (uses : List Use) :
    List.Forall₂ (fun k record => Made rows record.flatten k) (topologies m uses) (records uses) := by
  unfold topologies records
  have start : List.Forall₂ (fun k record => Made rows record.flatten k) [m] [[]] :=
    .cons (.ofRows square) .nil
  generalize [m] = made at start ⊢
  generalize [[]] = recorded at start ⊢
  induction uses generalizing made recorded with
  | nil => exact start
  | cons use rest ih =>
    apply ih
    apply use.apply_related _ _ start
    · intro ids k record made
      rw [List.flatten_append, List.flatten_singleton]
      exact made.withAbsent ids
    · intro node k record made
      exact made.withCaller node

theorem exists_record (square : ofRows rows = .ok m) (kept : (topologies m uses)[place]? = some k) :
    ∃ record, (records uses)[place]? = some record ∧ Made rows record.flatten k := by
  have all := forall₂_getElem? (made_of_uses square uses) place
  rw [kept] at all
  cases found : (records uses)[place]? with
  | none =>
    rw [found] at all
    cases all
  | some record =>
    rw [found] at all
    cases all with
    | cons made _ => exact ⟨record, rfl, made⟩

/-! ## The matrix without the ids of a record -/

/-- A topology tells of a matrix without the ids that some list of a record has. -/
structure Without (m : MatrixTopology) (record : List (List NodeId)) (k : MatrixTopology) : Prop where
  ascending : k.absent.Pairwise (· < ·)
  absent : ∀ node, node ∈ k.absent ↔ ∃ ids ∈ record, node ∈ ids
  nodes : k.topology.nodes =
    (List.range m.rows.length).filter fun node => ∀ ids ∈ record, node ∉ ids
  availability : k.topology.availability =
    if k.topology.nodes = [] then .degraded else .available
  maxNode : k.topology.maxNode = some (m.rows.length - 1)
  distance : ∀ p < m.rows.length, ∀ q < m.rows.length,
    k.topology.distance p q = m.topology.distance p q

/-- Only which ids a record has counts. -/
theorem Without.congr (gone : Without m record k) (gone' : Without m record' k')
    (same : ∀ node, (∃ ids ∈ record, node ∈ ids) ↔ ∃ ids ∈ record', node ∈ ids) :
    k'.absent = k.absent ∧ k'.topology.nodes = k.topology.nodes ∧
      k'.topology.availability = k.topology.availability := by
  have absent : k'.absent = k.absent := by
    apply eq_of_ascending gone'.ascending gone.ascending
    intro node
    rw [gone'.absent, gone.absent, same]
  have nodes : k'.topology.nodes = k.topology.nodes := by
    rw [gone'.nodes, gone.nodes]
    apply List.filter_congr
    intro node _
    simpa using not_congr (same node).symm
  refine ⟨absent, nodes, ?_⟩
  rw [gone'.availability, gone.availability, nodes]

theorem rows_ne_nil (square : ofRows rows = .ok m) : rows ≠ [] := by
  rintro rfl
  cases square

theorem without_of_made (square : ofRows rows = .ok m) (made : Made rows record.flatten k) :
    Without m record k := by
  have keeps := made.keeps
  have some : rows ≠ [] := rows_ne_nil square
  have state : k.state = .available := by
    apply keeps.listing
    rw [keeps.matrix]
    exact some
  obtain rfl := eq_of_ofRows square
  constructor
  · exact keeps.ascending
  · intro node
    rw [keeps.marked, List.mem_flatten]
  · show k.nodes = _
    rw [made.nodes_eq]
    unfold remaining
    apply List.filter_congr
    intro node _
    rw [Bool.eq_iff_iff]
    simp
  · unfold topology availability
    rw [state]
    simp [Availability.isAvailable]
  · unfold topology maxNode
    simp [state, Availability.isAvailable, keeps.matrix, some]
  · intro p _ q _
    show k.distance p q = _
    unfold topology distance
    rw [keeps.matrix]

/-! ## The result -/

/-- **Absent nodes accumulate as a set.** Every topology made of a matrix of `n` rows, by marking nodes absent,
setting the caller's node and copying in any order, has its absent ids in strictly ascending order, and they are
those of the lists marked on the way to it; it lists the ids below `n` that are in none of these lists, in
ascending order; it is degraded if there is none and available otherwise; its largest id stays `n - 1`, and the
distances stay those of the matrix. On any other way with the same ids marked, however they are grouped, ordered
or repeated, the absent ids, the nodes and the state are the same. -/
theorem absent_nodes_accumulate (square : ofRows rows = .ok m)
    (kept : (topologies m uses)[place]? = some k) :
    ∃ record, (records uses)[place]? = some record ∧ Without m record k ∧
      ∀ (uses' : List Use) (place' : Nat) (k' : MatrixTopology)
        (record' : List (List NodeId)), (topologies m uses')[place']? = some k' →
        (records uses')[place']? = some record' →
        (∀ node, (∃ ids ∈ record, node ∈ ids) ↔ ∃ ids ∈ record', node ∈ ids) →
        k'.absent = k.absent ∧ k'.topology.nodes = k.topology.nodes ∧
          k'.topology.availability = k.topology.availability := by
  obtain ⟨record, found, made⟩ := exists_record square kept
  have gone := without_of_made square made
  refine ⟨record, found, gone, ?_⟩
  intro uses' place' k' record' kept' found' same
  obtain ⟨record'', found'', made'⟩ := exists_record square kept'
  obtain rfl : record'' = record' := by
    rw [found', Option.some.injEq] at found''
    exact found''.symm
  exact gone.congr (without_of_made square made') same

/-- Nodes 1 and 2 are marked absent in a matrix of four nodes; in a copy of it also node 0 and an id outside. -/
def copied : List Use :=
  [.absent 0 [2, 1, 2], .clone 0, .absent 1 [9, 0], .caller 0 (some 1)]

/-- The same ids as in that copy, marked one by one. -/
def oneByOne : List Use :=
  [.absent 0 [0], .clone 7, .absent 0 [1], .absent 0 [], .absent 0 [9], .absent 0 [2], .absent 0 [1]]

/-- The copy lists node 3 alone, and so does the topology with the same ids marked one by one. -/
theorem copied_accumulates :
    ∃ k k', (topologies { state := .available, rows := symmetricRows 4 } copied)[1]? = some k ∧
      (topologies { state := .available, rows := symmetricRows 4 } oneByOne)[0]? = some k' ∧
      k.topology.nodes = [3] ∧ k'.topology.nodes = [3] ∧ k'.absent = k.absent := by
  have square : ofRows (symmetricRows 4) = .ok { state := .available, rows := symmetricRows 4 } := rfl
  obtain ⟨k, kept⟩ : ∃ k,
      (topologies { state := .available, rows := symmetricRows 4 } copied)[1]? = some k := ⟨_, rfl⟩
  obtain ⟨k', kept'⟩ : ∃ k,
      (topologies { state := .available, rows := symmetricRows 4 } oneByOne)[0]? = some k := ⟨_, rfl⟩
  obtain ⟨record, found, gone, others⟩ := absent_nodes_accumulate square kept
  obtain rfl : [[2, 1, 2], [9, 0]] = record := Option.some.inj found
  have nodes : k.topology.nodes = [3] := gone.nodes
  have same : ∀ node, (∃ ids ∈ [[2, 1, 2], [9, 0]], node ∈ ids) ↔
      ∃ ids ∈ [[0], [1], [], [9], [2], [1]], node ∈ ids := by
    intro node
    simp
    omega
  obtain ⟨absent, nodes', -⟩ := others oneByOne 0 k' _ kept' rfl same
  exact ⟨k, k', kept, kept', nodes, nodes'.trans nodes, absent⟩

end NodeHeap.MatrixTopology
