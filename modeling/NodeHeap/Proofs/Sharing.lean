import NodeHeap.Proofs.BufferSteps

/-!
# Blocks and buffers of one allocator

An allocator serves callers that hold blocks and callers that hold buffers, in any order of steps.

* `Shared`, `Shared.step`, `Shared.run` — an allocator with the blocks of a session and the buffers of a buffer
  session. Pieces of a split may be kept as buffers.
* `Plain`, `Plain.after` — what the callers know of it: a heap and byte strings.
* `Shared.Models` — the heap is true of the blocks, the buffers hold the byte strings, and there are no other
  blocks. This is the invariant: it holds of a new allocator, and every step keeps it.
* `Shared.ReadsAs` — what can be read of the buffers, and what every step tells of them, is that of the byte
  strings; `run_reads_as` — so it is after every run.
-/

namespace NodeHeap

/-- An allocator with the blocks and the buffers in use. -/
structure Shared (σ : Type) where
  allocator : Allocator σ
  blocks : Table BlockName BlockId := []
  buffers : Table Register Buffer := []

/-- One step of a caller that holds blocks, or of one that holds buffers. -/
inductive SharedStep (σ : Type) where
  | block (step : Step σ)
  | buffer (step : BufferStep)
  /-- Splits bytes into buffers that are kept, with the numbers from `first` on. -/
  | split (first : Register) (bytes separator : Bytes)

/-- The value that a step answers. -/
inductive SharedValue where
  | block (value : Value)
  | buffer (value : BufferValue)
  deriving DecidableEq, Repr

/-- What callers know of their blocks and buffers. -/
structure Plain where
  heap : Heap := []
  strings : Strings := []

/-- The heap and the byte strings after one step, given the value that the step answered. -/
def Plain.next {σ : Type} (plain : Plain) : SharedStep σ → SharedValue → Plain
  | .block step, .block value => { plain with heap := plain.heap.next step value }
  | .buffer step, .buffer value => { plain with strings := plain.strings.next step value }
  | .split first bytes separator, .buffer value =>
    { plain with strings := plain.strings.settle (plain.strings.keep first bytes separator) value }
  | _, _ => plain

/-- The heap and the byte strings after a list of steps, given the answers. -/
def Plain.after {σ : Type} (plain : Plain) : List (SharedStep σ) → List SharedValue → Plain
  | step :: steps, value :: values => (plain.next step value).after steps values
  | _, _ => plain

namespace Shared

variable {σ : Type}

/-- The blocks, and those of no buffer. -/
def blockSession (s : Shared σ) : Session σ := ⟨s.allocator, s.blocks⟩

/-- The buffers, and no other blocks. -/
def bufferSession (s : Shared σ) : BufferSession σ := ⟨s.allocator, s.buffers⟩

/-- The same blocks, with other buffers at a later allocator. -/
def withBuffers (s : Shared σ) (later : BufferSession σ) : Shared σ :=
  { s with allocator := later.allocator, buffers := later.buffers }

/-- What can be read of each buffer. -/
def contents (s : Shared σ) : Table Register (Except Halt Bytes) :=
  s.buffers.mapValues fun b => b.bytes s.allocator

/-- What can be read of each buffer as a terminated string. -/
def contentsWithNul (s : Shared σ) : Table Register (Except Halt Bytes) :=
  s.buffers.mapValues fun b => b.bytesWithNul s.allocator

variable [Source σ]

/-- One step and its answer. -/
def step (s : Shared σ) : SharedStep σ → SharedValue × Shared σ
  | .block step =>
    let (answer, after) := s.blockSession.step step
    (.block answer.value, { s with allocator := after.allocator, blocks := after.blocks })
  | .buffer step =>
    let (answer, after) := s.bufferSession.step step
    (.buffer answer.value, s.withBuffers after)
  | .split first bytes separator =>
    let (value, after) := s.bufferSession.settle (s.bufferSession.keepTokens first bytes separator)
    (.buffer value, s.withBuffers after)

/-- The answers to a list of steps, and what is in use after them. -/
def run (s : Shared σ) : List (SharedStep σ) → List SharedValue × Shared σ
  | [] => ([], s)
  | step :: rest =>
    let (value, after) := s.step step
    let (values, last) := after.run rest
    (value :: values, last)

/-! ## The invariant -/

/-- What is known of the blocks is true of them and the buffers hold the byte strings, and no other blocks are
live. -/
inductive Models (s : Shared σ) : Plain → Prop
  | intro {heap : Heap} (raw : Table BlockName Holding) (fills : Fills)
    (blocks : s.blocks = raw.mapValues Prod.fst) (buffers : s.buffers = fills.mapValues Filled.buffer)
    (told : Cells.ToldBy (raw.mapValues Prod.snd) heap)
    (holds : s.allocator.Holds (raw.map Prod.snd ++ fills.holdings)) : Models s ⟨heap, fills.strings⟩

variable {s : Shared σ} {plain : Plain}

omit [Source σ] in
/-- Of what is done to the buffers, the blocks notice nothing. -/
theorem models_withBuffers {raw : Table BlockName Holding} {heap : Heap} {fills : Fills}
    {later : BufferSession σ} (blocks : s.blocks = raw.mapValues Prod.fst)
    (told : Cells.ToldBy (raw.mapValues Prod.snd) heap) (keeps : later.Keeps fills (raw.map Prod.snd)) :
    (s.withBuffers later).Models ⟨heap, fills.strings⟩ :=
  .intro raw fills blocks keeps.buffers told (keeps.holds.perm List.perm_append_comm)

theorem Models.block (h : s.Models plain) (step : Step σ) :
    (s.step (.block step)).2.Models (plain.next (.block step) (s.step (.block step)).1) := by
  obtain ⟨raw, fills, blocks, buffers, told, holds⟩ := h
  have sound : s.blockSession.Sound := by
    have sound := Session.sound_of_holds holds
    rw [← blocks] at sound
    exact sound
  simp only [Shared.step, Plain.next]
  rcases Session.step_cases sound step with ⟨⟨halt, halted⟩, unchanged⟩ | performs
  · rw [halted, unchanged, Heap.next_halted]
    exact .intro raw fills blocks buffers told holds
  · obtain ⟨later, named, becomes, holds⟩ := Session.performs_holds performs blocks holds
    exact .intro later fills named buffers (becomes.toldBy told) holds

omit [Source σ] in
/-- The blocks are those that a session of the buffers leaves alone. -/
theorem keeps_bufferSession {raw : Table BlockName Holding} {fills : Fills}
    (buffers : s.buffers = fills.mapValues Filled.buffer)
    (holds : s.allocator.Holds (raw.map Prod.snd ++ fills.holdings)) :
    s.bufferSession.Keeps fills (raw.map Prod.snd) :=
  ⟨buffers, holds.perm List.perm_append_comm⟩

/-- A step told what there is to tell of the byte strings, as far as it came, or it halted for one of its reasons
and changed nothing. -/
def Tells (s : Shared σ) (strings : Strings) (step : BufferStep)
    (done : Except Halt (BufferValue × BufferSession σ)) (given : SharedValue × Shared σ) : Prop :=
  (∃ value, given.1 = .buffer value ∧ step.Answers s.allocator strings value) ∨
    ∃ halt, BufferSession.Halts (step.Stops s.allocator strings) done halt ∧
      given = (.buffer (.halted halt), s)

/-- What is done to the buffers is done to the byte strings, and what the step tells is told. -/
theorem Models.settle (h : s.Models plain) (next : Strings → BufferValue → Strings) (step : BufferStep)
    (done : Except Halt (BufferValue × BufferSession σ))
    (ends : ∀ {fills : Fills} {others : List Holding}, s.bufferSession.Keeps fills others →
      Ends (step.Stops s.allocator fills.strings)
        (BufferSession.Leaves s.allocator others (next fills.strings)
          (step.Answers s.allocator fills.strings)) done)
    (halted : ∀ strings halt, next strings (.halted halt) = strings) :
    (s.withBuffers (s.bufferSession.settle done).2).Models
        { plain with strings := next plain.strings (s.bufferSession.settle done).1 } ∧
      s.Tells plain.strings step done
        (.buffer (s.bufferSession.settle done).1, s.withBuffers (s.bufferSession.settle done).2) := by
  obtain ⟨raw, fills, blocks, buffers, told, holds⟩ := h
  have keeps := keeps_bufferSession buffers holds
  obtain ⟨⟨later, kept, same⟩, answers⟩ := keeps.settle (ends keeps) (halted fills.strings)
  refine ⟨?_, ?_⟩
  · rw [← same]
    exact models_withBuffers blocks told kept
  · refine answers.imp (fun answers => ⟨_, rfl, answers⟩) fun ⟨halt, halts, halted⟩ => ?_
    rw [halted]
    exact ⟨halt, halts, rfl⟩

theorem Models.buffer (h : s.Models plain) (step : BufferStep) :
    (s.step (.buffer step)).2.Models (plain.next (σ := σ) (.buffer step) (s.step (.buffer step)).1) ∧
      s.Tells plain.strings step (s.bufferSession.perform step) (s.step (.buffer step)) := by
  have settled := BufferSession.step_eq_settle s.bufferSession step
  have performed := h.settle (·.next step) step (s.bufferSession.perform step)
    (fun keeps => keeps.perform step) fun _ _ => rfl
  rw [← settled] at performed
  exact performed

theorem Models.split (h : s.Models plain) (first : Register) (bytes separator : Bytes) :
    (s.step (.split first bytes separator)).2.Models
        (plain.next (σ := σ) (.split first bytes separator) (s.step (.split first bytes separator)).1) ∧
      s.Tells plain.strings (.split bytes separator) (s.bufferSession.keepTokens first bytes separator)
        (s.step (.split first bytes separator)) := by
  exact h.settle (fun strings => strings.settle (strings.keep first bytes separator)) (.split bytes separator) _
    (fun keeps => keeps.keepTokens first bytes separator) fun _ _ => rfl

/-- **A step does to the blocks and buffers** what it does to the heap and the byte strings. -/
theorem Models.step (h : s.Models plain) (step : SharedStep σ) :
    (s.step step).2.Models (plain.next step (s.step step).1) := by
  cases step with
  | block step => exact h.block step
  | buffer step => exact (h.buffer step).1
  | split first bytes separator => exact (h.split first bytes separator).1

theorem Models.run (steps : List (SharedStep σ)) (h : s.Models plain) :
    (s.run steps).2.Models (plain.after steps (s.run steps).1) := by
  induction steps generalizing s plain with
  | nil => exact h
  | cons step rest ih => exact ih (h.step step)

omit [Source σ] in
theorem models_of_initial {a : Allocator σ} (made : Session.Initial { allocator := a }) :
    Models { allocator := a } {} :=
  .intro [] [] rfl rfl .nil made.holds

/-! ## What can be read of the buffers -/

/-- Something that was done touched memory that is not there, whether it halted for it or was interrupted. -/
def Strays (done : Except Halt (BufferValue × BufferSession σ)) : Prop :=
  done = .error .badAccess ∨ ∃ count after, done = .ok (.interrupted .badAccess count, after)

/-- The buffers read as byte strings: by their bytes, with one zero byte after them, in blocks that have room for
just that and for what is available. What is known of the other blocks is true of them. No step touches memory
that is not there. Every step tells what there is to tell of the byte strings, or it halts for want of memory, of a
byte or of a working source; and it leaves the buffers alone that it is not about. -/
structure ReadsAs (s : Shared σ) (plain : Plain) : Prop where
  contents : s.contents = plain.strings.mapValues .ok
  terminated : s.contentsWithNul = plain.strings.mapValues fun content => .ok (content ++ [0])
  room : ∀ entry ∈ s.buffers,
    s.allocator.usableSize entry.2.block = .ok (entry.2.length + entry.2.avail + 1)
  others : plain.heap.Describes s.blockSession.contents
  inside : ∀ step, Strays (s.bufferSession.perform step) →
    s.allocator.topology.callerNode = .error .badAccess
  cutInside : ∀ first bytes separator, Strays (s.bufferSession.keepTokens first bytes separator) →
    s.allocator.topology.callerNode = .error .badAccess
  told : ∀ step, s.Tells plain.strings step (s.bufferSession.perform step) (s.step (.buffer step))
  cut : ∀ first bytes separator, s.Tells plain.strings (.split bytes separator)
    (s.bufferSession.keepTokens first bytes separator) (s.step (.split first bytes separator))
  spared : ∀ step register, step.spares register = true →
    (s.step (.buffer step)).2.contents.find? register = s.contents.find? register

omit [Source σ] in
theorem holding_mem_append (raw : Table BlockName Holding) {fills : Fills} {entry : Register × Filled}
    (mem : entry ∈ fills) : entry.2.holding ∈ raw.map Prod.snd ++ fills.holdings :=
  List.mem_append_right _
    (List.mem_map_of_mem (f := fun entry : Register × Filled => entry.2.holding) mem)

omit [Source σ] in
theorem Models.holds (h : s.Models plain) : ∃ held, s.allocator.Holds held := by
  obtain ⟨raw, fills, -, -, -, holds⟩ := h
  exact ⟨_, holds⟩

omit [Source σ] in
theorem Models.filled (h : s.Models plain) {entry : Register × Buffer} (mem : entry ∈ s.buffers) :
    ∃ (f : Filled) (rest : List Holding), f.buffer = entry.2 ∧ s.allocator.Holds (f.holding :: rest) := by
  obtain ⟨raw, fills, -, buffers, -, holds⟩ := h
  rw [buffers] at mem
  obtain ⟨filled, inside, rfl⟩ := List.mem_map.1 mem
  obtain ⟨rest, focused⟩ := holds.focus (holding_mem_append raw inside)
  exact ⟨filled.2, rest, rfl, focused⟩

omit [Source σ] in
theorem Models.contents_eq (h : s.Models plain) : s.contents = plain.strings.mapValues .ok := by
  obtain ⟨raw, fills, -, buffers, -, holds⟩ := h
  rw [contents, buffers, Table.mapValues_mapValues, Fills.strings, Table.mapValues_mapValues]
  exact Table.mapValues_congr fun entry there => Filled.bytes_eq holds (holding_mem_append raw there)

omit [Source σ] in
theorem Models.contentsWithNul_eq (h : s.Models plain) :
    s.contentsWithNul = plain.strings.mapValues fun content => .ok (content ++ [0]) := by
  obtain ⟨raw, fills, -, buffers, -, holds⟩ := h
  rw [contentsWithNul, buffers, Table.mapValues_mapValues, Fills.strings, Table.mapValues_mapValues]
  exact Table.mapValues_congr (f := fun f : Filled => f.buffer.bytesWithNul s.allocator)
    fun entry there => Filled.bytesWithNul_eq holds (holding_mem_append raw there)

omit [Source σ] in
/-- The block of a buffer has room for what is there, what is available, and a zero byte. -/
theorem Models.room (h : s.Models plain) : ∀ entry ∈ s.buffers,
    s.allocator.usableSize entry.2.block = .ok (entry.2.length + entry.2.avail + 1) := by
  obtain ⟨raw, fills, -, buffers, -, holds⟩ := h
  rw [buffers]
  intro entry mem
  obtain ⟨filled, there, rfl⟩ := List.mem_map.1 mem
  exact (holds.usableSize (holding_mem_append raw there)).trans (congrArg _ filled.2.sized)

omit [Source σ] in
theorem Models.describes (h : s.Models plain) : plain.heap.Describes s.blockSession.contents := by
  obtain ⟨raw, fills, blocks, -, told, holds⟩ := h
  have among : ∀ entry ∈ raw, entry.2 ∈ raw.map Prod.snd ++ fills.map fun entry => entry.2.holding := fun entry mem =>
    List.mem_append_left _ (List.mem_map_of_mem mem)
  have read := holds.contents among
  rw [blockSession, blocks, read]
  exact told.describes

/-- A step touches no memory that is not there, unless the look for the caller's node does. -/
theorem Models.inside (h : s.Models plain) {step : BufferStep}
    {done : Except Halt (BufferValue × BufferSession σ)}
    {next : Fills → List Holding → BufferValue → Strings}
    (ends : ∀ {fills : Fills} {others : List Holding}, s.bufferSession.Keeps fills others →
      Ends (step.Stops s.allocator fills.strings)
        (BufferSession.Leaves s.allocator others (next fills others)
          (step.Answers s.allocator fills.strings)) done)
    (strays : Strays done) : s.allocator.topology.callerNode = .error .badAccess := by
  obtain ⟨raw, fills, blocks, buffers, told, holds⟩ := h
  have ended := ends (keeps_bufferSession buffers holds)
  rcases strays with halted | ⟨count, after, cut⟩
  · rw [halted] at ended
    cases ended with
    | error because => exact because.badAccess
  · rw [cut] at ended
    cases ended with
    | ok leaves =>
      obtain ⟨-, -, answers⟩ := leaves
      generalize value_eq : (BufferValue.interrupted .badAccess count, after).1 = value at answers
      cases answers with
      | told avail =>
        have whole := Strings.whole_tell fills.strings step avail
        rw [← value_eq] at whole
        cases whole
      | cut _ _ stops =>
        cases value_eq
        exact stops.badAccess

/-- A step leaves the buffers alone that it is not about, whether it halts or not. -/
theorem Models.spared (h : s.Models plain) {step : BufferStep} {register : Register}
    (spared : step.spares register = true) :
    (s.step (.buffer step)).2.contents.find? register = s.contents.find? register := by
  rw [(h.buffer step).1.contents_eq, h.contents_eq, Table.find?_mapValues, Table.find?_mapValues]
  exact congrArg (Option.map Except.ok) (Strings.find?_next spared plain.strings _)

theorem Models.readsAs (h : s.Models plain) : s.ReadsAs plain where
  contents := h.contents_eq
  terminated := h.contentsWithNul_eq
  room := h.room
  others := h.describes
  inside step := h.inside fun keeps => keeps.perform step
  cutInside first bytes separator := h.inside fun keeps => keeps.keepTokens first bytes separator
  told step := (h.buffer step).2
  cut first bytes separator := (h.split first bytes separator).2
  spared _ _ := h.spared

/-- **Buffers are byte strings to their callers**, whatever steps were taken and whatever the allocator, its
topology and its source answered, and whatever was in the memory that they got. -/
theorem run_reads_as (a : Allocator σ) (made : Session.Initial { allocator := a })
    (steps : List (SharedStep σ)) :
    ReadsAs (Shared.run { allocator := a } steps).2
      (Plain.after {} steps (Shared.run { allocator := a } steps).1) :=
  ((models_of_initial made).run steps).readsAs

/-- Buffers in memory that is full of what was there before: one of zeros, and one that was appended to, copied,
and cut at its first zero byte. -/
theorem reads_as_after_growth :
    Session.Initial Session.onLittered ∧
      (Shared.run { allocator := Session.onLittered.allocator } [.buffer (.zeros 0 2), .buffer (.ofBytes 1 [97]),
        .buffer (.appendAll 1 [[98], [0, 99]]), .buffer (.clone 2 1),
        .buffer (.updateLength 1)]).2.contentsWithNul =
          [(0, .ok [0, 0, 0]), (1, .ok [97, 98, 0]), (2, .ok [97, 98, 0, 99, 0])] := by
  have made : Session.Initial Session.onLittered := .new _ _
  refine ⟨made, ?_⟩
  rw [(run_reads_as Session.onLittered.allocator made _).terminated]
  rfl

end Shared

end NodeHeap
