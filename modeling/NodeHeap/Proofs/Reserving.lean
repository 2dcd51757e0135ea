import NodeHeap.Proofs.Sharing

/-!
# Room for more bytes

A buffer that lacks room for what it is to hold asks for a block for twice of that. All that is computed on the
way are words, the content is kept, and there are only two reasons to halt.

* `Filled.Reserves`, `reserve_spec` — how a buffer gets room, with the request that it makes.
* `Buffer.ReservesExactly`, `Buffer.ReplacesExactly` — what a caller sees of that, where more is to be held and
  where something else is.
* `Shared.run_reserves_exactly` — so do the buffers of every run.
-/

namespace NodeHeap

variable {σ : Type} [Source σ]

/-! ## What is asked for -/

/-- What is granted to a caller that cannot do without is of a size that a block can have. -/
theorem Allocator.Holds.bounded_of_granted {a b : Allocator σ} {block new : BlockId} {cell : Cell}
    {rest : List Holding} {size : Nat} {hint : Option NodeId} (h : a.Holds ((block, cell) :: rest))
    (granted : a.reallocate (some block) size hint = .ok (new, b)) : size + headerWidth ≤ maxTotal := by
  obtain ⟨head, r, nodes, c, calls, -, ends⟩ := h.reallocate_cases granted
  exact ends.bounded

namespace Filled

variable {f : Filled} {a b : Allocator σ} {rest : List Holding} {block : BlockId} {more : Nat}

/-- How a buffer gets room for `more` bytes: it has that room, or it asks for a block for twice what it then
has to hold, if that is a word. -/
inductive Reserves (f : Filled) (a : Allocator σ) (rest : List Holding) (more : Nat) :
    Except Halt (Buffer × Allocator σ) → Prop
  | enough (room : more ≤ f.buffer.avail) : Reserves f a rest more (.ok (f.buffer, a))
  | tooLarge (short : f.buffer.avail < more) (large : wordLimit ≤ 2 * (f.buffer.length + more)) :
    Reserves f a rest more (.error .capacityOverflow)
  | halted {halt : Halt} (short : f.buffer.avail < more)
    (fits : 2 * (f.buffer.length + more) < wordLimit)
    (halted : a.reallocate (some f.buffer.block) (2 * (f.buffer.length + more) + 1) none = .error halt) :
    Reserves f a rest more (.error halt)
  | granted {block : BlockId} {b : Allocator σ} {g : Filled} (short : f.buffer.avail < more)
    (fits : 2 * (f.buffer.length + more) < wordLimit)
    (granted : a.reallocate (some f.buffer.block) (2 * (f.buffer.length + more) + 1) none =
      .ok (block, b))
    (buffer : g.buffer =
      { f.buffer with block, avail := 2 * (f.buffer.length + more) - f.buffer.length })
    (content : g.content = f.content) (holds : b.Holds (g.holding :: rest)) :
    Reserves f a rest more (.ok (g.buffer, b))

theorem reserve_spec (h : a.Holds (f.holding :: rest)) (more : Nat) :
    f.Reserves a rest more (f.buffer.reserve a more) := by
  unfold Buffer.reserve
  rw [Nat.mul_comm (f.buffer.length + more) 2]
  by_cases room : more ≤ f.buffer.avail
  · rw [if_pos room]
    exact .enough room
  · have short := Nat.lt_of_not_le room
    rw [if_neg room]
    by_cases fits : 2 * (f.buffer.length + more) < wordLimit
    · simp only [fits, if_true]
      have ends := h.reallocate (2 * (f.buffer.length + more) + 1) none
      cases asked : a.reallocate (some f.buffer.block) (2 * (f.buffer.length + more) + 1) none with
      | error halt => exact .halted short fits asked
      | ok given =>
        rw [asked] at ends
        cases ends with
        | ok grown =>
          obtain ⟨block, b⟩ := given
          obtain ⟨-, node, bytes, fitted, holds⟩ := grown
          obtain ⟨g, buffer, content, holds⟩ := grow h fitted holds (by omega)
          have reserves := Reserves.granted short fits asked buffer content holds
          rw [buffer] at reserves
          exact reserves
    · simp only [fits, if_false]
      exact .tooLarge short (Nat.le_of_not_lt fits)

/-- A buffer that lacks the room halts because twice what it has to hold is no word, or because its request
halts. -/
theorem reserve_eq_error_iff (h : a.Holds (f.holding :: rest)) (more : Nat) (halt : Halt) :
    f.buffer.reserve a more = .error halt ↔ f.buffer.avail < more ∧
      (wordLimit ≤ 2 * (f.buffer.length + more) ∧ halt = .capacityOverflow ∨
        2 * (f.buffer.length + more) < wordLimit ∧
          a.reallocate (some f.buffer.block) (2 * (f.buffer.length + more) + 1) none = .error halt) := by
  have spec := reserve_spec h more
  generalize f.buffer.reserve a more = done at spec
  cases spec with
  | enough room => exact ⟨fun halted => (by cases halted), fun short => absurd room (Nat.not_le.2 short.1)⟩
  | tooLarge short large =>
    refine ⟨fun same => ?_, fun ⟨_, because⟩ => ?_⟩
    · cases same
      exact ⟨short, .inl ⟨large, rfl⟩⟩
    · rcases because with ⟨-, rfl⟩ | ⟨fits, -⟩
      · rfl
      · exact absurd large (Nat.not_le.2 fits)
  | halted short fits halted =>
    refine ⟨fun same => ?_, fun ⟨_, because⟩ => ?_⟩
    · cases same
      exact ⟨short, .inr ⟨fits, halted⟩⟩
    · rcases because with ⟨large, -⟩ | ⟨-, halts⟩
      · exact absurd large (Nat.not_le.2 fits)
      · exact congrArg Except.error (Except.error.inj (halted.symm.trans halts))
  | granted short fits granted =>
    refine ⟨fun halted => (by cases halted), fun ⟨_, because⟩ => ?_⟩
    rcases because with ⟨large, -⟩ | ⟨-, halts⟩
    · exact absurd large (Nat.not_le.2 fits)
    · rw [granted] at halts
      cases halts

/-- The words for that are those of no other reason, unless the look at the topology has them. -/
theorem reserve_eq_overflow_iff (h : a.Holds (f.holding :: rest)) (more : Nat)
    (looks : a.survey ≠ .error .capacityOverflow) :
    f.buffer.reserve a more = .error .capacityOverflow ↔
      f.buffer.avail < more ∧ wordLimit ≤ 2 * (f.buffer.length + more) := by
  rw [reserve_eq_error_iff h]
  refine ⟨fun ⟨short, because⟩ => ⟨short, ?_⟩, fun ⟨short, large⟩ => ⟨short, .inl ⟨large, rfl⟩⟩⟩
  rcases because with ⟨large, -⟩ | ⟨-, halted⟩
  · exact large
  · rcases h.reallocate_error halted with look | refused
    · exact absurd look looks
    · cases refused

/-- A buffer that is granted what it asks for has the room. -/
theorem reserve_of_granted (h : a.Holds (f.holding :: rest)) (short : f.buffer.avail < more)
    (granted : a.reallocate (some f.buffer.block) (2 * (f.buffer.length + more) + 1) none = .ok (block, b)) :
    ∃ g : Filled, f.buffer.reserve a more = .ok (g.buffer, b) ∧ g.content = f.content ∧
      g.buffer.length = f.buffer.length ∧
      g.buffer.length + g.buffer.avail = 2 * (f.buffer.length + more) ∧ b.Holds (g.holding :: rest) := by
  have spec := reserve_spec h more
  generalize f.buffer.reserve a more = done at spec
  cases spec with
  | enough room => exact absurd room (Nat.not_le.2 short)
  | tooLarge short large =>
    have bounded := h.bounded_of_granted granted
    simp only [headerWidth, maxTotal, blockAlign, wordLimit] at bounded large
    omega
  | halted short fits halted =>
    rw [granted] at halted
    cases halted
  | granted short fits asked buffer content holds =>
    rw [granted] at asked
    cases asked
    refine ⟨_, rfl, content, ?_, ?_, holds⟩
    · rw [buffer]
    · rw [buffer]
      simp only
      omega

/-- A buffer that lacks the room for another content, and gets it, is given that content. -/
theorem edits_replace_of_reserved {g : Filled} {bytes : Bytes} (short : f.buffer.capacity < bytes.length)
    (reserved : f.buffer.reserve a (bytes.length - f.buffer.length) = .ok (g.buffer, b))
    (holds : b.Holds (g.holding :: rest)) (room : bytes.length ≤ g.buffer.capacity) :
    g.Edits b rest bytes (f.buffer.replace a bytes) := by
  simp only [Buffer.replace, short, if_true, reserved]
  exact edits_whole holds room

end Filled

/-! ## What a caller sees -/

/-- What a buffer with this content does to get room for `more` bytes. If it has the room, it stays as it is. If it
lacks it, it asks for a block that is larger than its own, and all that it computes are words. It halts for no
other reason than that twice what it has to hold is no word, or that its request halts; and if the request is
granted, it has the content and the room. -/
structure Buffer.ReservesExactly (b : Buffer) (a : Allocator σ) (content : Bytes) (more : Nat) : Prop where
  sized : a.usableSize b.block = .ok (b.length + b.avail + 1)
  enough : more ≤ b.avail → b.reserve a more = .ok (b, a)
  halts : ∀ halt, b.reserve a more = .error halt ↔ b.avail < more ∧
    (wordLimit ≤ 2 * (b.length + more) ∧ halt = .capacityOverflow ∨
      2 * (b.length + more) < wordLimit ∧
        a.reallocate (some b.block) (2 * (b.length + more) + 1) none = .error halt)
  overflows : a.survey ≠ .error .capacityOverflow →
    (b.reserve a more = .error .capacityOverflow ↔ b.avail < more ∧ wordLimit ≤ 2 * (b.length + more))
  words : b.avail < more → 2 * (b.length + more) < wordLimit →
    b.length + b.avail + 1 < 2 * (b.length + more) + 1 ∧ 2 * (b.length + more) + 1 < wordLimit ∧
      b.length ≤ 2 * (b.length + more)
  granted : b.avail < more → ∀ block later,
    a.reallocate (some b.block) (2 * (b.length + more) + 1) none = .ok (block, later) →
    ∃ c, b.reserve a more = .ok (c, later) ∧ c.Shows later content ∧ c.length = b.length ∧
      more ≤ c.avail ∧ c.length + c.avail = 2 * (b.length + more)

/-- What a buffer does to get another content. If that fits, the capacity stays. If it does not fit, the content is
longer than the old one, so that what it is longer is a word, and if the request for the room is granted, the
capacity is twice the content, however long the old one was. -/
structure Buffer.ReplacesExactly (b : Buffer) (a : Allocator σ) (content : Bytes) : Prop where
  words : b.length + b.avail < content.length → b.length ≤ content.length
  fits : content.length ≤ b.length + b.avail → ∃ c later, b.replace a content = .ok (c, later) ∧
    c.Shows later content ∧ c.length + c.avail = b.length + b.avail
  granted : b.length + b.avail < content.length → ∀ block later,
    a.reallocate (some b.block) (2 * content.length + 1) none = .ok (block, later) →
    ∃ c last, b.replace a content = .ok (c, last) ∧ c.Shows last content ∧
      c.length + c.avail = 2 * content.length

namespace Filled

variable {f : Filled} {a : Allocator σ} {rest : List Holding}

theorem reservesExactly (h : a.Holds (f.holding :: rest)) (more : Nat) :
    f.buffer.ReservesExactly a f.content more where
  sized := (h.usableSize List.mem_cons_self).trans (congrArg _ f.sized)
  enough room := by
    unfold Buffer.reserve
    rw [if_pos room]
  halts := reserve_eq_error_iff h more
  overflows := reserve_eq_overflow_iff h more
  words short fits := by
    simp only [wordLimit] at fits ⊢
    omega
  granted short block later granted := by
    obtain ⟨g, done, content, length, capacity, holds⟩ := reserve_of_granted h short granted
    refine ⟨g.buffer, done, content ▸ shows holds List.mem_cons_self, length, ?_, capacity⟩
    omega

theorem replacesExactly (h : a.Holds (f.holding :: rest)) (content : Bytes) :
    f.buffer.ReplacesExactly a content where
  words short := by omega
  fits room := by
    obtain ⟨c, later, done, shows, -, capacity⟩ := (edits_replace h room).shows
    exact ⟨c, later, done, shows, capacity⟩
  granted short block later granted := by
    have within := f.length_le_capacity
    have whole : f.buffer.length + (content.length - f.buffer.length) = content.length := by omega
    rw [← whole] at granted
    obtain ⟨g, reserved, -, -, capacity, holds⟩ :=
      reserve_of_granted h (show f.buffer.avail < content.length - f.buffer.length by omega) granted
    rw [whole] at capacity
    have room : content.length ≤ g.buffer.capacity := by
      unfold Buffer.capacity
      omega
    obtain ⟨c, last, done, shows, -, same⟩ := (edits_replace_of_reserved short reserved holds room).shows
    exact ⟨c, last, done, shows, same.trans capacity⟩

end Filled

namespace Shared

/-- A buffer that is asked for too much room stays as it is, and so does all else. -/
theorem step_of_reserve_error {s : Shared σ} {register : Register} {b : Buffer} {more : Nat} {halt : Halt}
    (found : s.buffers.find? register = some b) (halted : b.reserve s.allocator more = .error halt) :
    s.step (.buffer (.reserve register more)) = (.buffer (.halted halt), s) := by
  have attempted : s.bufferSession.attempt (.reserve register more) = .error halt := by
    simp only [BufferSession.attempt, BufferSession.perform, BufferSession.change, bufferSession, found, halted,
      bind, Except.bind]
  simp only [Shared.step, BufferSession.step, attempted]
  rfl

/-- **Buffers reserve exactly what they need.** After every run, each buffer gets room for more bytes, and other
contents, in the way of `ReservesExactly` and `ReplacesExactly`; and where a buffer halts for a capacity that is no
word, nothing has changed. -/
theorem run_reserves_exactly (a : Allocator σ) (made : Session.Initial { allocator := a })
    (steps : List (SharedStep σ)) :
    (∀ entry ∈ (run { allocator := a } steps).2.buffers,
      (∃ content, entry.2.Shows (run { allocator := a } steps).2.allocator content ∧
        ∀ more, entry.2.ReservesExactly (run { allocator := a } steps).2.allocator content more) ∧
      ∀ bytes, entry.2.ReplacesExactly (run { allocator := a } steps).2.allocator bytes) ∧
    ∀ register b more, (run { allocator := a } steps).2.buffers.find? register = some b →
      b.avail < more → wordLimit ≤ 2 * (b.length + more) → ∃ halt,
        (run { allocator := a } steps).2.step (.buffer (.reserve register more)) =
          (.buffer (.halted halt), (run { allocator := a } steps).2) ∧
        halt.message = "capacity overflow" := by
  have models := (models_of_initial made).run steps
  refine ⟨fun entry mem => ?_, fun register b more found short large => ?_⟩
  · obtain ⟨f, rest, same, holds⟩ := models.filled mem
    rw [← same]
    exact ⟨⟨f.content, Filled.shows holds List.mem_cons_self, Filled.reservesExactly holds⟩,
      Filled.replacesExactly holds⟩
  · obtain ⟨f, rest, rfl, holds⟩ := models.filled (Table.mem_of_find? found)
    refine ⟨.capacityOverflow, step_of_reserve_error found ?_, rfl⟩
    exact (Filled.reserve_eq_error_iff holds more _).2 ⟨short, .inl ⟨large, rfl⟩⟩

/-- A buffer of one byte gets room for three more, and none for so many that it is no word to double them. -/
theorem reserves_exactly_three :
    Session.Initial Session.onPair ∧ ∃ s b,
      s = (run { allocator := Session.onPair.allocator } [.buffer (.ofBytes 1 [97])]).2 ∧
      s.buffers = [(1, b)] ∧
      (∃ c later, b.reserve s.allocator 3 = .ok (c, later) ∧ c.Shows later [97] ∧ c.length = 1 ∧
        c.length + c.avail = 8) ∧
      ∃ halt, s.step (.buffer (.reserve 1 wordLimit)) = (.buffer (.halted halt), s) ∧
        halt.message = "capacity overflow" := by
  have made : Session.Initial Session.onPair := .new _ _
  refine ⟨made, _, ⟨0, 1, 0⟩, rfl, rfl, ?_, ?_⟩
  · obtain ⟨⟨content, shows, reserves⟩, -⟩ :=
      (run_reserves_exactly Session.onPair.allocator made [.buffer (.ofBytes 1 [97])]).1 _ List.mem_cons_self
    obtain ⟨c, done, shown, length, -, capacity⟩ := (reserves 3).granted (by decide) _ _ rfl
    have same : Except.ok content = Except.ok [97] := shows.bytes.symm.trans rfl
    cases same
    exact ⟨c, _, done, shown, length, capacity⟩
  · exact (run_reserves_exactly Session.onPair.allocator made [.buffer (.ofBytes 1 [97])]).2 1 ⟨0, 1, 0⟩ _ rfl
      (by decide) (by decide)

end Shared

end NodeHeap
