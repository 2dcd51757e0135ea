import NodeHeap.Proofs.Sharing

/-!
# Splits from the left

What a split makes of bytes is told by a property of the pieces: joined by the separator they are the bytes,
none of them contains it, and a separator between two of them begins where the bytes contain it first, from the
end of the separator before on. So where two occurrences overlap, the left one counts.

* `Bytes.Decomposes` — this property; `Decomposes.unique` — only one list of pieces has it.
* `piecesFrom_decomposes` — the scan for separators finds it.
* `Buffer.Grants` — an allocator that grants every request of a list of new buffers;
  `Filled.ofAll_of_grants` — then they are all made.
* `Shared.split_leftmost` — a split makes the pieces of this list, each in a buffer of its own.
-/

namespace NodeHeap

/-! ## Pieces between separators -/

namespace Bytes

variable {separator bytes piece next : Bytes} {pieces rest : List Bytes}

/-- Where the separator after some pieces ends. -/
def extent (separator : Bytes) (pieces : List Bytes) : Nat :=
  (pieces.flatMap fun piece => piece ++ separator).length

/-- Bytes in pieces between separators. The pieces joined by the separator are the bytes, and none of them
contains it. A separator that follows a piece begins where the bytes contain it first from the end of the
separator before on: at the end of the piece, and nowhere inside of it. -/
structure Decomposes (separator bytes : Bytes) (pieces : List Bytes) : Prop where
  some : pieces ≠ []
  joined : separator.intercalate pieces = bytes
  clear : ∀ piece ∈ pieces, ¬ separator <:+: piece
  leftmost : ∀ front piece next rest, pieces = front ++ piece :: next :: rest →
    separator <+: bytes.drop (extent separator front + piece.length) ∧
      ∀ i < piece.length, ¬ separator <+: bytes.drop (extent separator front + i)

theorem intercalate_cons (separator piece next : Bytes) (rest : List Bytes) :
    separator.intercalate (piece :: next :: rest) =
      piece ++ (separator ++ separator.intercalate (next :: rest)) := by
  simp [List.intercalate, List.intersperse]

/-- Behind the first separator all is as it is without the first piece. -/
theorem drop_extent_cons (separator piece more : Bytes) (front : List Bytes) (i : Nat) :
    (piece ++ (separator ++ more)).drop (extent separator (piece :: front) + i) =
      more.drop (extent separator front + i) := by
  have width : extent separator (piece :: front) + i =
      piece.length + (separator.length + (extent separator front + i)) := by
    simp only [extent, List.flatMap_cons, List.length_append]
    omega
  rw [width, ← List.drop_drop, ← List.drop_drop, List.drop_left, List.drop_left]

/-- Where a piece contains the separator, there is a place inside of the piece where that begins. -/
theorem exists_drop_of_infix (more : Bytes) (some : separator ≠ []) (inside : separator <:+: piece) :
    ∃ i < piece.length, separator <+: (piece ++ more).drop i := by
  obtain ⟨before, behind, rfl⟩ := inside
  refine ⟨before.length, ?_, behind ++ more, ?_⟩
  · have filled := List.length_pos_iff.2 some
    simp only [List.length_append]
    omega
  · simp only [List.append_assoc, List.drop_left]

theorem Decomposes.single (clear : ¬ separator <:+: piece) : Decomposes separator piece [piece] where
  some := List.cons_ne_nil _ _
  joined := by simp [List.intercalate]
  clear other mem := by
    rwa [List.mem_singleton.1 mem]
  leftmost front other next rest cut := by
    have length := congrArg List.length cut
    simp only [List.length_append, List.length_cons, List.length_nil] at length
    omega

/-- A piece and a separator in front of other pieces. -/
theorem Decomposes.cons (some : separator ≠ []) (h : Decomposes separator bytes pieces)
    (first : ∀ i < piece.length, ¬ separator <+: (piece ++ (separator ++ bytes)).drop i) :
    Decomposes separator (piece ++ (separator ++ bytes)) (piece :: pieces) := by
  obtain ⟨next, rest, rfl⟩ := List.exists_cons_of_ne_nil h.some
  refine ⟨List.cons_ne_nil _ _, ?_, ?_, ?_⟩
  · rw [intercalate_cons, h.joined]
  · intro other mem
    rcases List.mem_cons.1 mem with rfl | mem
    · intro inside
      obtain ⟨i, lt, begins⟩ := exists_drop_of_infix (separator ++ bytes) some inside
      exact first i lt begins
    · exact h.clear other mem
  · intro front other next' rest' cut
    cases front with
    | nil =>
      obtain ⟨rfl, -⟩ := List.cons.inj cut
      simp only [extent, List.flatMap_nil, List.length_nil, Nat.zero_add]
      refine ⟨?_, first⟩
      rw [List.drop_left]
      exact List.prefix_append _ _
    | cons head front =>
      obtain ⟨rfl, behind⟩ := List.cons.inj cut
      obtain ⟨begins, before⟩ := h.leftmost front other next' rest' behind
      rw [drop_extent_cons]
      refine ⟨begins, fun i lt => ?_⟩
      rw [drop_extent_cons]
      exact before i lt

theorem Decomposes.tail (h : Decomposes separator bytes (piece :: next :: rest)) :
    ∃ more, bytes = piece ++ (separator ++ more) ∧ Decomposes separator more (next :: rest) := by
  have joined := h.joined
  rw [intercalate_cons] at joined
  refine ⟨separator.intercalate (next :: rest), joined.symm, List.cons_ne_nil _ _, rfl, ?_, ?_⟩
  · intro other mem
    exact h.clear other (List.mem_cons_of_mem piece mem)
  · intro front other next' rest' cut
    have later := h.leftmost (piece :: front) other next' rest' (by rw [cut]; rfl)
    rw [← joined, drop_extent_cons] at later
    refine ⟨later.1, fun i lt => ?_⟩
    have before := later.2 i lt
    rwa [drop_extent_cons] at before

/-- The first piece ends where the bytes contain the separator first. -/
theorem Decomposes.first (h : Decomposes separator bytes (piece :: next :: rest)) :
    separator <+: bytes.drop piece.length ∧ ∀ i < piece.length, ¬ separator <+: bytes.drop i := by
  have leftmost := h.leftmost [] piece next rest rfl
  simpa only [extent, List.flatMap_nil, List.length_nil, Nat.zero_add] using leftmost

theorem Decomposes.eq_of_single (h : Decomposes separator bytes [piece]) : piece = bytes := by
  have joined := h.joined
  simpa [List.intercalate] using joined

theorem Decomposes.not_several {other : Bytes} (h : Decomposes separator bytes [piece]) :
    ¬ Decomposes separator bytes (other :: next :: rest) := by
  intro several
  obtain ⟨more, whole, -⟩ := several.tail
  refine h.clear piece List.mem_cons_self ⟨other, more, ?_⟩
  rw [List.append_assoc, ← whole, h.eq_of_single]

/-- The first pieces of two lists are the same, and so is what comes after them. -/
theorem Decomposes.first_unique {piece' next' more more' : Bytes} {rest' : List Bytes}
    (h : Decomposes separator bytes (piece :: next :: rest))
    (h' : Decomposes separator bytes (piece' :: next' :: rest'))
    (whole : bytes = piece ++ (separator ++ more)) (whole' : bytes = piece' ++ (separator ++ more')) :
    piece' = piece ∧ more' = more := by
  have length : piece'.length = piece.length := by
    rcases Nat.lt_trichotomy piece'.length piece.length with lt | same | lt
    · exact absurd h'.first.1 (h.first.2 _ lt)
    · exact same
    · exact absurd h.first.1 (h'.first.2 _ lt)
  obtain ⟨same, behind⟩ := List.append_inj (whole'.symm.trans whole) length
  exact ⟨same, List.append_cancel_left behind⟩

/-- **There is only one such list of pieces.** -/
theorem Decomposes.unique {other : List Bytes} (h : Decomposes separator bytes pieces)
    (h' : Decomposes separator bytes other) : other = pieces := by
  induction pieces generalizing bytes other with
  | nil => exact absurd rfl h.some
  | cons piece pieces ih =>
    obtain ⟨piece', pieces', rfl⟩ := List.exists_cons_of_ne_nil h'.some
    cases pieces with
    | nil =>
      cases pieces' with
      | nil => rw [h.eq_of_single, h'.eq_of_single]
      | cons next' rest' => exact absurd h' h.not_several
    | cons next rest =>
      cases pieces' with
      | nil => exact absurd h h'.not_several
      | cons next' rest' =>
        obtain ⟨more, whole, later⟩ := h.tail
        obtain ⟨more', whole', later'⟩ := h'.tail
        obtain ⟨rfl, rfl⟩ := h.first_unique h' whole whole'
        rw [ih later later']

end Bytes

/-- **The scan for separators** finds this list. The induction is on the scan: no separator begins from the start of
the piece up to the place that is looked at next, so the piece ends there as soon as one is found. -/
theorem piecesFrom_decomposes {bytes separator : Bytes} (some : separator ≠ []) (start next : Nat)
    (ordered : start ≤ next) (scanned : ∀ i, start ≤ i → i < next → ¬ separator <+: bytes.drop i) :
    Bytes.Decomposes separator (bytes.drop start) (piecesFrom bytes separator some start next) := by
  fun_induction piecesFrom bytes separator some start next with
  | case1 start next room found ih =>
    have length : ((bytes.drop start).take (next - start)).length = next - start := by
      rw [List.length_take, List.length_drop]
      omega
    have behind : separator ++ bytes.drop (next + separator.length) = bytes.drop next := by
      have cut := List.take_append_drop separator.length (bytes.drop next)
      rwa [found, List.drop_drop] at cut
    have whole : (bytes.drop start).take (next - start) ++ (separator ++ bytes.drop (next + separator.length)) =
        bytes.drop start := by
      have cut := List.take_append_drop (next - start) (bytes.drop start)
      rwa [List.drop_drop, Nat.add_sub_cancel' ordered, ← behind] at cut
    have later := ih (Nat.le_refl _) fun i above below => absurd above (Nat.not_le.2 below)
    have before : ∀ i < ((bytes.drop start).take (next - start)).length, ¬ separator <+:
        ((bytes.drop start).take (next - start) ++ (separator ++ bytes.drop (next + separator.length))).drop i := by
      intro i lt
      rw [whole, List.drop_drop]
      exact scanned (start + i) (Nat.le_add_right _ _) (by omega)
    have first := later.cons some before
    rwa [whole] at first
  | case2 start next room other ih =>
    refine ih (Nat.le_succ_of_le ordered) fun i above below begins => ?_
    rcases Nat.lt_succ_iff_lt_or_eq.1 below with before | rfl
    · exact scanned i above before begins
    · exact other (List.prefix_iff_eq_take.1 begins).symm
  | case3 start next full =>
    refine .single fun inside => ?_
    obtain ⟨i, lt, begins⟩ := Bytes.exists_drop_of_infix [] some inside
    rw [List.append_nil, List.drop_drop] at begins
    -- What is behind the place that was looked at last is shorter than a separator.
    refine scanned (start + i) (Nat.le_add_right _ _) ?_ begins
    have short := begins.length_le
    rw [List.length_drop] at short
    have filled := List.length_pos_iff.2 some
    omega

/-! ## Buffers for the pieces -/

variable {σ : Type} [Source σ]

/-- The allocator grants the requests for new buffers with these contents, one after another: it does not run
out. -/
def Buffer.Grants (a : Allocator σ) : List Bytes → Prop
  | [] => True
  | content :: rest =>
    (∃ block b, a.tryAllocate (content.length + 1) none = .ok (.ok block, b)) ∧
      ∀ made b, Buffer.ofBytes a content = .ok (made, b) → Grants b rest

/-- The buffers of a list are all made where their requests are granted, none of them with room for more. -/
theorem Filled.ofAll_of_grants (contents : List Bytes) {a : Allocator σ} {held : List Holding}
    (h : a.Holds held) (grants : Buffer.Grants a contents) :
    ∃ (fills : List Filled) (b : Allocator σ), Buffer.ofAll a contents = .ok (fills.map Filled.buffer, b) ∧
      fills.map Filled.content = contents ∧ (∀ f ∈ fills, f.buffer.avail = 0) ∧
      b.Holds (fills.map Filled.holding ++ held) := by
  induction contents generalizing a held with
  | nil => exact ⟨[], a, rfl, rfl, fun _ mem => (List.not_mem_nil mem).elim, h⟩
  | cons content contents ih =>
    obtain ⟨⟨block, b, granted⟩, later⟩ := grants
    obtain ⟨f, b, made, holding, full, holds⟩ := ofBytes_of_granted h granted
    obtain ⟨fills, c, done, holdings, fulls, holds⟩ := ih holds (later f.buffer b made)
    refine ⟨f :: fills, c, ?_, ?_, ?_, holds.perm List.perm_middle⟩
    · simp only [Buffer.ofAll, made, bind, Except.bind, done]
      rfl
    · rw [List.map_cons, holding, holdings]
    · intro other mem
      rcases List.mem_cons.1 mem with rfl | mem
      · exact full
      · exact fulls other mem

namespace Shared

/-- **A split is the leftmost one.** Wherever an allocator came to that grants the requests of the split, bytes
are split into buffers without room for more. Their contents, joined by the separator, are the bytes; none of
them contains the separator; and each separator of the bytes that counts is the first one behind the one before.
There is no other such list. No bytes are split into no buffers. -/
theorem split_leftmost (a : Allocator σ) (made : Session.Initial { allocator := a })
    (steps : List (SharedStep σ)) (bytes separator : Bytes) (some : separator ≠ [])
    (grants : ∀ pieces, splitOn bytes separator = .some pieces →
      Buffer.Grants (run { allocator := a } steps).2.allocator pieces) :
    ∃ tokens after pieces,
      Buffer.split (run { allocator := a } steps).2.allocator bytes separator =
        .ok (.some tokens, after) ∧
      (tokens.map fun token => token.bytes after) = pieces.map .ok ∧
      (∀ token ∈ tokens, token.avail = 0) ∧
      (bytes = [] → tokens = []) ∧
      (bytes ≠ [] → Bytes.Decomposes separator bytes pieces ∧
        ∀ other, Bytes.Decomposes separator bytes other → other = pieces) := by
  obtain ⟨held, holds⟩ := ((models_of_initial made).run steps).holds
  obtain ⟨pieces, cut, empty, filled⟩ : ∃ pieces, splitOn bytes separator = .some pieces ∧
      (bytes = [] → pieces = []) ∧ (bytes ≠ [] → Bytes.Decomposes separator bytes pieces) := by
    by_cases none : bytes = []
    · refine ⟨[], by simp [splitOn, some, none], fun _ => rfl, fun filled => absurd none filled⟩
    · refine ⟨piecesFrom bytes separator some 0 0, by simp [splitOn, some, none],
        fun empty => absurd empty none, fun _ => ?_⟩
      exact piecesFrom_decomposes some 0 0 (Nat.le_refl 0) fun i _ lt => absurd lt (Nat.not_lt_zero i)
  obtain ⟨fills, after, done, contents, full, holds⟩ :=
    Filled.ofAll_of_grants pieces holds (grants pieces cut)
  refine ⟨fills.map Filled.buffer, after, pieces, ?_, ?_, ?_, ?_, ?_⟩
  · simp only [Buffer.split, cut, done, bind, Except.bind]
    rfl
  · rw [← contents, List.map_map, List.map_map]
    apply List.map_congr_left
    intro f mem
    exact Filled.bytes_eq holds (List.mem_append_left _ (List.mem_map_of_mem mem))
  · intro token mem
    obtain ⟨f, there, rfl⟩ := List.mem_map.1 mem
    exact full f there
  · intro none
    have gone : fills.map Filled.content = [] := contents.trans (empty none)
    rw [List.map_eq_nil_iff.1 gone]
    rfl
  · intro some
    exact ⟨filled some, fun other decomposes => (filled some).unique decomposes⟩

/-- Of three equal bytes two that overlap with the last two are the first separator. -/
theorem split_leftmost_of_overlap :
    Session.Initial Session.onPair ∧ ∃ tokens after,
      Buffer.split Session.onPair.allocator [97, 97, 97] [97, 97] = .ok (.some tokens, after) ∧
      (tokens.map fun token => token.bytes after) = [.ok [], .ok [97]] := by
  have made : Session.Initial Session.onPair := .new _ _
  refine ⟨made, ?_⟩
  have cut : splitOn [97, 97, 97] [97, 97] = some [[], [97]] := by decide +kernel
  have grants : Buffer.Grants Session.onPair.allocator [[], [97]] := by
    refine ⟨⟨_, _, rfl⟩, fun given b first => ?_⟩
    cases first
    exact ⟨⟨_, _, rfl⟩, fun _ _ _ => trivial⟩
  obtain ⟨tokens, after, pieces, done, told, -, -, filled⟩ :=
    split_leftmost Session.onPair.allocator made [] [97, 97, 97] [97, 97] (by decide) fun pieces same => by
      rw [cut] at same
      cases same
      exact grants
  have last : Bytes.Decomposes [97, 97] [97] [[97]] := .single (by decide)
  have leftmost : Bytes.Decomposes [97, 97] ([] ++ ([97, 97] ++ [97])) [[], [97]] :=
    last.cons (by decide) fun i lt => absurd lt (Nat.not_lt_zero i)
  refine ⟨tokens, after, done, ?_⟩
  rw [told, ← (filled (by decide)).2 _ leftmost]
  rfl

end Shared

end NodeHeap
