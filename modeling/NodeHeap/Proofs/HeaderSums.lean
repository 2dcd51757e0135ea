import NodeHeap.Proofs.CrewSchedules

/-!
# Sums of headers

A header tells the size of a payload, and the block is larger than that by the header. The sum of the two, and the
difference of two such sums, are taken of what earlier steps have written, and nobody checks that they are words. They
are, because no block is larger than `maxTotal`, and every header that can be read is that of a block.

* `Checked` — a block is released or resized, and a worker takes a step, with each sum and difference checked.
* `Checked.release_eq`, `Checked.tryReallocate_eq`, `Worker.checked_advance` — nothing comes of the checks where the
  blocks are live.
* `Call.Fits` — a call names sizes that a block can have, with its header; `Asks.fits`, `Reallocates.fits`: the calls
  that are made do.
* `Session.Exact`, `Crew.Exact` — no sum of headers fails to be a word, whatever is done next.
* `header_sums_exact` — so it is after every run of a session and at every moment of a crew.
-/

namespace NodeHeap

variable {σ : Type}

/-! ## Checked words -/

namespace Word

def sum (cut : Halt) (a b : Nat) : Except Halt Nat := if a + b < wordLimit then .ok (a + b) else .error cut

def difference (cut : Halt) (a b : Nat) : Except Halt Nat := if b ≤ a then .ok (a - b) else .error cut

end Word

/-- There can be a block with this header. -/
def Header.Fits (head : Header) : Prop := head.size + headerWidth ≤ maxTotal

def IsTotal (size : Nat) : Prop := headerWidth ≤ size ∧ size ≤ 2 ^ 63 - 16

theorem isTotal_of_le {size : Nat} (bounded : size + headerWidth ≤ maxTotal) : IsTotal (size + headerWidth) :=
  ⟨Nat.le_add_left _ _, bounded⟩

/-! ## Checked steps -/

namespace Checked

variable (cut : Halt)

def total (head : Header) : Except Halt Nat := Word.sum cut head.size headerWidth

/-- The usage when a block of `old` bytes has become one of `new` bytes. -/
def correct (usage : Usage) (old new : Nat) : Except Halt Usage :=
  if old ≤ new then do return usage.add (← Word.difference cut new old)
  else do return usage.sub (← Word.difference cut old new)

variable [Source σ]

/-- The memory of a block is given back to where its header says it is from. -/
def giveBack (arena : Arena σ) (block : BlockId) (head : Header) (total : Nat) : Arena σ :=
  match head.node? with
  | some node => arena.freeOnNode block total node
  | none => arena.free block total

/-- `Allocator.release`, checked. -/
def release (a : Allocator σ) (block : BlockId) : Except Halt (Allocator σ) := do
  let head ← a.arena.header block
  let total ← total cut head
  return { a with
    arena := giveBack a.arena block head total
    usage := a.usage.sub total
    counters := a.counters.release }

def free (a : Allocator σ) : Option BlockId → Except Halt (Allocator σ)
  | some block => release cut a block
  | none => .ok a

/-- `Allocator.resizeInPlace`, checked. -/
def resizeInPlace (a : Allocator σ) (block : BlockId) (old : Header) (size new : Nat) :
    Except Halt (Except AllocError BlockId × Allocator σ) := do
  let before ← total cut old
  let (resized, arena) ← a.arena.resize block before new
  match resized with
  | none => return (.error (.outOfMemory size), { a with arena })
  | some region =>
    let arena ← arena.setHeader region { size, origin := .vacant }
    let usage ← correct cut a.usage before new
    return (.ok region, { a with arena, usage })

/-- `Allocator.moveBlock`, checked. -/
def moveBlock (a : Allocator σ) (block : BlockId) (old : Header) (size : Nat) (targets : List NodeId) :
    Except Halt (Except AllocError BlockId × Allocator σ) := do
  let (answer, a) ← a.allocateAt size targets
  match answer with
  | .error e => return (.error e, a)
  | .ok new =>
    let arena ← a.arena.copy block new headerWidth (min old.size size)
    let a ← release cut { a with arena } block
    return (.ok new, a)

/-- `Allocator.reallocateAt`, checked. The size that is asked for is checked in any case. -/
def reallocateAt (a : Allocator σ) (block : Option BlockId) (size : Nat) (targets : List NodeId) :
    Except Halt (Except AllocError BlockId × Allocator σ) :=
  match block, totalFor? size with
  | none, _ => a.allocateAt size targets
  | some _, none => .ok (.error (.outOfMemory size), a)
  | some block, some new => do
    let old ← a.arena.header block
    let a := { a with counters := a.counters.reallocation }
    if targets.isEmpty && old.node?.isNone then resizeInPlace cut a block old size new
    else moveBlock cut a block old size targets

/-- `Allocator.tryReallocate`, checked. -/
def tryReallocate (a : Allocator σ) (block : Option BlockId) (size : Nat) (hint : Option NodeId) :
    Except Halt (Except AllocError BlockId × Allocator σ) := do
  let (targets, a) ← a.targets hint
  reallocateAt cut a block size targets

/-- `Worker.advance`, checked. A sum is taken when a block is taken off the books and when it is given back. -/
def advance (w : Worker) (a : Allocator σ) (turn : Nat) : Except Halt (Worker × Allocator σ) :=
  match w.stage, w.tasks with
  | .ready, .free birth :: tasks =>
    match w.blocks.take? birth with
    | some (some block, blocks) => do
      let head ← a.arena.header block
      let total ← total cut head
      return ({ w with tasks, blocks, stage := .dropped block head }, { a with usage := a.usage.sub total })
    | _ => w.advance a turn
  | .uncounted block head, _ => do
    let total ← total cut head
    return ({ w with stage := .ready }, { a with arena := giveBack a.arena block head total })
  | _, _ => w.advance a turn

/-! ### Nothing comes of the checks -/

variable {cut} {a : Allocator σ} {block : BlockId} {head : Header} {payload : Bytes} {r : Region} {size : Nat}

theorem total_eq (fits : head.Fits) : total cut head = .ok head.total := by
  have word : head.size + headerWidth < wordLimit :=
    Nat.lt_of_le_of_lt fits (by decide)
  exact if_pos word

theorem correct_eq :
    correct cut = fun usage old new =>
      .ok (if old ≤ new then usage.add (new - old) else usage.sub (old - new)) := by
  funext usage old new
  unfold correct Word.difference
  split
  · rfl
  · rename_i less
    rw [if_pos (Nat.le_of_not_le less)]
    rfl

theorem release_eq (h : a.arena.HasBlock block head payload) : release cut a block = a.release block := by
  obtain ⟨r, hr, hb⟩ := h
  have headed : a.arena.header block = .ok head := Arena.HasBlock.header_eq ⟨r, hr, hb⟩
  simp only [release, Allocator.release, headed, total_eq hb.bounded, bind, Except.bind]
  rfl

theorem resizeInPlace_eq (fits : head.Fits) (size new : Nat) :
    resizeInPlace cut a block head size new = a.resizeInPlace block head size new := by
  unfold resizeInPlace
  rw [total_eq fits, correct_eq]
  rfl

theorem moveBlock_eq (hr : a.arena.regions[block]? = some r) (hb : r.IsBlock head payload)
    (other : block ≠ a.arena.next) (size : Nat) (targets : List NodeId) :
    moveBlock cut a block head size targets = a.moveBlock block head size targets := by
  obtain ⟨answer, b, calls, allocated, allocates⟩ := Allocator.allocateAt_spec a size targets
  simp only [moveBlock, Allocator.moveBlock, allocated, bind, Except.bind]
  cases allocates with
  | tooLarge | refused => rfl
  | @granted calls origin source events bounded asks heard =>
    -- The header that is read in the end is the one that was there in the beginning.
    obtain ⟨copied, has⟩ := Allocator.copy_of_granted hr hb other size calls origin source
      (Source.found source a.arena.next)
    simp only [Allocator.entered, copied]
    have released (b : Allocator σ) (arena : b.arena = a.arena.entered source calls
        (some (Allocator.movedBlock r head size origin (Source.found source a.arena.next)))) :
        release cut b block = b.release block := release_eq (arena ▸ has)
    rw [released _ rfl]

theorem tryReallocate_eq (hr : a.arena.regions[block]? = some r) (hb : r.IsBlock head payload)
    (other : block ≠ a.arena.next) (size : Nat) (hint : Option NodeId) :
    tryReallocate cut a (some block) size hint = a.tryReallocate (some block) size hint := by
  unfold tryReallocate Allocator.tryReallocate
  cases targets : a.targets hint with
  | error halt => rfl
  | ok answer =>
    obtain ⟨nodes, b⟩ := answer
    have arena : b.arena = a.arena := by rw [Allocator.targets_spec targets]
    rw [← arena] at hr other
    have headed : b.arena.header block = .ok head := Arena.HasBlock.header_eq ⟨r, hr, hb⟩
    show reallocateAt cut b (some block) size nodes = b.reallocateAt (some block) size nodes
    unfold reallocateAt Allocator.reallocateAt
    cases totalFor? size with
    | none => rfl
    | some new =>
      simp only [headed, bind, Except.bind, resizeInPlace_eq (show head.Fits from hb.bounded)]
      rw [moveBlock_eq (a := { b with counters := b.counters.reallocation }) hr hb other]

end Checked

/-! ## Calls -/

def Call.sizes : Call → List Nat
  | allocOnNode _ size _ | alloc size _ | freeOnNode _ size _ | free size _ => [size]
  | resize _ old new _ => [old, new]

/-- A call names sizes that a block can have, with its header. -/
def Call.Fits (call : Call) : Prop := ∀ size ∈ call.sizes, IsTotal size

theorem Call.fits_iff {call : Call} {size : Nat} (sizes : call.sizes = [size]) : call.Fits ↔ IsTotal size := by
  rw [Call.Fits, sizes, List.forall_mem_singleton]

theorem fits_releaseOf {block : BlockId} {head : Header} (fits : head.Fits) : (releaseOf block head).Fits := by
  unfold releaseOf
  split
  · exact (Call.fits_iff rfl).2 (isTotal_of_le fits)
  · exact (Call.fits_iff rfl).2 (isTotal_of_le fits)

theorem fits_resizeOf {block : BlockId} {head : Header} {size : Nat} (fits : head.Fits)
    (bounded : size + headerWidth ≤ maxTotal) (granted : Bool) :
    (Allocator.resizeOf block head size granted).Fits :=
  List.forall_mem_cons.2 ⟨isTotal_of_le fits, List.forall_mem_singleton.2 (isTotal_of_le bounded)⟩

/-- The calls of a request name its size. -/
theorem Asks.fits {next : RegionId} {total : Nat} {nodes : List NodeId} {calls : List Call}
    {served : Option (Option NodeId)} (asks : Asks next total nodes calls served) (fits : IsTotal total) :
    ∀ call ∈ calls, call.Fits := by
  have refused (tried : List NodeId) : ∀ call ∈ vain total tried, call.Fits :=
    List.forall_mem_map.2 fun _ _ => (Call.fits_iff rfl).2 fits
  have last (tried : List NodeId) {final : Call} (sizes : final.sizes = [total]) :
      ∀ call ∈ vain total tried ++ [final], call.Fits :=
    List.forall_mem_append.2 ⟨refused tried, List.forall_mem_singleton.2 ((Call.fits_iff sizes).2 fits)⟩
  cases asks with
  | onNode => exact last _ rfl
  | anywhere | nowhere => exact last nodes rfl

namespace Allocator

variable [Source σ] {a b : Allocator σ} {block : BlockId} {head : Header} {r : Region} {size : Nat}
  {nodes : List NodeId} {answer : Except AllocError BlockId} {calls : List Call}

theorem Allocates.fits (h : a.Allocates size nodes answer b calls) : ∀ call ∈ calls, call.Fits := by
  cases h with
  | tooLarge => exact fun _ mem => absurd mem List.not_mem_nil
  | refused events bounded asks | granted events bounded asks => exact asks.fits (isTotal_of_le bounded)

theorem Reallocates.fits (h : a.Reallocates block head r size nodes answer b calls) (fits : head.Fits) :
    ∀ call ∈ calls, call.Fits := by
  have released : ∀ call ∈ [releaseOf block head], call.Fits := List.forall_mem_singleton.2 (fits_releaseOf fits)
  cases h with
  | tooLarge => exact fun _ mem => absurd mem List.not_mem_nil
  | notResized bounded still heard asks =>
    refine List.forall_mem_singleton.2 ?_
    rcases asks with rfl | rfl
    · exact fits_resizeOf fits bounded false
    · exact (Call.fits_iff rfl).2 (isTotal_of_le bounded)
  | resized bounded => exact List.forall_mem_singleton.2 (fits_resizeOf fits bounded true)
  | exchanged bounded still asks =>
    exact List.forall_mem_cons.2 ⟨asks ▸ (Call.fits_iff rfl).2 (isTotal_of_le bounded), released⟩
  | notMoved bounded apart refused => exact refused.fits
  | moved events bounded apart asks =>
    exact List.forall_mem_append.2 ⟨asks.fits (isTotal_of_le bounded), released⟩

/-- All calls that were made so far name sizes that a block can have. -/
def CallsFit (a : Allocator σ) : Prop := ∀ call ∈ a.arena.calls, call.Fits

omit [Source σ] in
theorem CallsFit.congr (h : a.CallsFit) (same : b.arena.calls = a.arena.calls) : b.CallsFit := by
  unfold CallsFit
  rw [same]
  exact h

theorem CallsFit.heard (h : a.CallsFit) (heard : a.arena.Heard calls b.arena) (fits : ∀ call ∈ calls, call.Fits) :
    b.CallsFit := by
  unfold CallsFit
  rw [heard.recorded]
  exact List.forall_mem_append.2 ⟨fun call mem => fits call (List.mem_reverse.1 mem), h⟩

theorem CallsFit.alloc {granted : Option RegionId} {arena : Arena σ} (h : a.CallsFit) (fits : IsTotal size)
    (asked : a.arena.alloc size = (granted, arena)) : ∀ call ∈ arena.calls, call.Fits := by
  unfold Arena.alloc at asked
  split at asked
  all_goals
    cases asked
    exact List.forall_mem_cons.2 ⟨(Call.fits_iff rfl).2 fits, h⟩

theorem CallsFit.allocOnNode {node : NodeId} {granted : Option RegionId} {arena : Arena σ} (h : a.CallsFit)
    (fits : IsTotal size) (asked : a.arena.allocOnNode size node = (granted, arena)) :
    ∀ call ∈ arena.calls, call.Fits := by
  unfold Arena.allocOnNode at asked
  split at asked
  all_goals
    cases asked
    exact List.forall_mem_cons.2 ⟨(Call.fits_iff rfl).2 fits, h⟩

theorem CallsFit.released (h : a.CallsFit) (fits : head.Fits) :
    ∀ call ∈ (a.arena.released block head).calls, call.Fits := by
  rw [Arena.calls_released]
  exact List.forall_mem_cons.2 ⟨fits_releaseOf fits, h⟩

end Allocator

/-! ## Sessions -/

namespace Session

variable [Source σ] {s after : Session σ} {value : Value}

theorem Performs.callsFit {step : Step σ} (performs : s.Performs step value after)
    (h : s.allocator.CallsFit) : after.allocator.CallsFit := by
  have begun {hint : Option NodeId} {nodes : List NodeId} {a : Allocator σ}
      (targets : s.allocator.targets hint = .ok (nodes, a)) : a.CallsFit :=
    h.congr (Allocator.idle_targets targets).calls
  induction performs with
  | still quiet controls => exact h.congr controls.idle.calls
  | refused targets allocates | placed targets allocates => exact (begun targets).heard allocates.heard allocates.fits
  | copied targets allocates written =>
    obtain ⟨origin, r, -, -, rfl, -⟩ := allocates.written written
    exact ((begun targets).heard allocates.heard allocates.fits).congr rfl
  | afresh _ ih => exact ih
  | kept found hr hb targets ends | replaced found hr hb targets ends =>
    exact (begun targets).heard ends.heard (ends.fits hb.bounded)
  | freed found has =>
    obtain ⟨r, -, hb⟩ := has
    exact h.released hb.bounded
  | written => exact h

theorem Stored.callsFit_step (stores : s.Stored) (h : s.allocator.CallsFit) (step : Step σ) :
    (s.step step).2.allocator.CallsFit := by
  rcases step_cases stores.toSound step with ⟨-, unchanged⟩ | performs
  · rw [unchanged]
    exact h
  · exact performs.callsFit h

theorem Stored.callsFit_run (stores : s.Stored) (h : s.allocator.CallsFit)
    (steps : List (Step σ)) : (s.run steps).2.allocator.CallsFit := by
  induction steps generalizing s with
  | nil => exact h
  | cons first rest ih => exact ih (stores.step first) (stores.callsFit_step h first)

omit [Source σ] in
theorem Initial.callsFit (made : Initial s) : s.allocator.CallsFit := by
  unfold Allocator.CallsFit
  rw [made.untouched.2.2]
  exact fun _ mem => absurd mem List.not_mem_nil

def Owns (s : Session σ) (block : Option BlockId) : Prop := ∀ id ∈ block, id ∈ s.blocks.map Prod.snd

/-- No sum of headers fails to be a word: not so far, and not with what is asked for next, whether the request is
granted, refused or halts afterwards. -/
structure Exact (s : Session σ) : Prop where
  headers : ∀ entry ∈ s.blocks, ∃ head, s.allocator.arena.header entry.2 = .ok head ∧
    head.size + headerWidth ≤ 2 ^ 63 - 16
  frees : ∀ cut block, s.Owns block → Checked.free cut s.allocator block = s.allocator.free block
  reallocates : ∀ cut block size hint, s.Owns block →
    Checked.tryReallocate cut s.allocator block size hint = s.allocator.tryReallocate block size hint
  called : s.allocator.CallsFit
  allocating : ∀ size hint answer b, s.allocator.tryAllocate size hint = .ok (answer, b) → b.CallsFit
  reallocating : ∀ block size hint answer b, s.Owns block →
    s.allocator.tryReallocate block size hint = .ok (answer, b) → b.CallsFit
  freeing : ∀ block b, s.Owns block → s.allocator.free block = .ok b → b.CallsFit

omit [Source σ] in
theorem Sound.region {id : BlockId} (sound : s.Sound) (mem : id ∈ s.blocks.map Prod.snd) :
    id ≠ s.allocator.arena.next ∧ ∃ head payload r,
      s.allocator.arena.regions[id]? = some r ∧ r.IsBlock head payload := by
  obtain ⟨entry, there, rfl⟩ := List.mem_map.1 mem
  obtain ⟨head, payload, has⟩ := sound.live entry there
  exact ⟨Nat.ne_of_lt (sound.named entry there), head, payload, has⟩

/-- **No sum of headers fails to be a word where every name stands for a block**, and the calls so far fit. -/
theorem Sound.exact (sound : s.Sound) (h : s.allocator.CallsFit) : s.Exact := by
  have allocating : ∀ size hint answer b, s.allocator.tryAllocate size hint = .ok (answer, b) → b.CallsFit := by
    intro size hint answer b done
    obtain ⟨nodes, a, calls, targets, allocates⟩ := Allocator.tryAllocate_cases done
    exact (h.congr (Allocator.idle_targets targets).calls).heard allocates.heard allocates.fits
  refine ⟨?_, ?_, ?_, h, allocating, ?_, ?_⟩
  · intro entry mem
    obtain ⟨head, payload, r, hr, hb⟩ := sound.live entry mem
    exact ⟨head, Arena.HasBlock.header_eq ⟨r, hr, hb⟩, hb.bounded⟩
  · intro cut block owned
    cases block with
    | none => rfl
    | some id =>
      obtain ⟨-, head, payload, has⟩ := sound.region (owned id rfl)
      exact Checked.release_eq has
  · intro cut block size hint owned
    cases block with
    | none => rfl
    | some id =>
      obtain ⟨other, head, payload, r, hr, hb⟩ := sound.region (owned id rfl)
      exact Checked.tryReallocate_eq hr hb other size hint
  · intro block size hint answer b owned done
    cases block with
    | none => exact allocating size hint answer b done
    | some id =>
      obtain ⟨other, head, payload, r, hr, hb⟩ := sound.region (owned id rfl)
      obtain ⟨nodes, a, calls, targets, ends⟩ := Allocator.tryReallocate_cases done hr hb other
      exact (h.congr (Allocator.idle_targets targets).calls).heard ends.heard (ends.fits hb.bounded)
  · intro block b owned done
    cases block with
    | none =>
      cases done
      exact h
    | some id =>
      obtain ⟨-, head, payload, has⟩ := sound.region (owned id rfl)
      obtain rfl := Except.ok.inj ((Allocator.release_spec has).symm.trans done)
      obtain ⟨r, -, hb⟩ := has
      exact h.released hb.bounded

end Session

/-! ## Crews -/

/-- The sizes that a worker has in hand: of a block that it asks for or puts on the books, or of one that it takes off
the books and gives back. -/
def Stage.sizes : Stage → List Nat
  | ready => []
  | asking demand _ | missed demand _ | granted demand _ _ | counted demand _ _ => [demand.total]
  | dropped _ head | uncounted _ head => [head.total]

/-- A worker has sizes in hand that a block can have, with its header. -/
def Stage.SizesFit (stage : Stage) : Prop := ∀ size ∈ stage.sizes, IsTotal size

theorem Stage.sizesFit_iff {stage : Stage} {size : Nat} (sizes : stage.sizes = [size]) :
    stage.SizesFit ↔ IsTotal size := by
  rw [Stage.SizesFit, sizes, List.forall_mem_singleton]

variable [Source σ]

namespace Worker

variable {w v : Worker} {a b : Allocator σ} {turn : Nat}

/-- A step of a worker leaves it with sizes in hand that fit. -/
theorem Advances.sizesFit (advances : w.Advances turn a v b) (fits : w.stage.SizesFit)
    (live : ∀ named ∈ w.blocks.owned, ∃ head payload, a.arena.HasBlock named.2 head payload) :
    v.stage.SizesFit := by
  have none : Stage.ready.SizesFit := fun _ mem => absurd mem List.not_mem_nil
  cases advances with
  | rests => exact fits
  | skips | excludes | forgoes | books | returns => exact none
  | asks ready next targets total =>
    obtain ⟨bounded, rfl⟩ := totalFor?_eq_some.1 total
    exact (Stage.sizesFit_iff rfl).2 (isTotal_of_le bounded)
  | misses source call event stage | gets origin found source call stage | retries stage | counts counters stage
  | discounts stage =>
    rw [stage] at fits
    exact fits
  | drops ready next taken headed =>
    obtain ⟨head, payload, has⟩ := live _ ((BlockRow.perm_owned_of_take? taken).mem_iff.2 List.mem_cons_self)
    obtain rfl := Except.ok.inj (headed.symm.trans has.header_eq)
    obtain ⟨r, -, hb⟩ := has
    exact (Stage.sizesFit_iff rfl).2 (isTotal_of_le hb.bounded)

theorem callsFit_asking {demand : Demand} {nodes : List NodeId} (asking : w.stage = .asking demand nodes)
    (done : w.advance a turn = .ok (v, b)) (h : a.CallsFit) (fits : IsTotal demand.total) : b.CallsFit := by
  cases nodes with
  | nil =>
    simp only [advance, asking] at done
    split at done
    · rename_i asked
      cases done
      exact h.alloc fits asked
    · rename_i asked
      unfold goWithout at done
      split at done
      · cases done
      · cases done
        exact h.alloc fits asked
  | cons node nodes =>
    simp only [advance, asking] at done
    split at done
    all_goals
      rename_i asked
      cases done
      exact h.allocOnNode fits asked

theorem callsFit_advance (done : w.advance a turn = .ok (v, b)) (h : a.CallsFit) (fits : w.stage.SizesFit) :
    b.CallsFit := by
  have asks {demand : Demand} {nodes : List NodeId} (stage : w.stage = .asking demand nodes) : b.CallsFit :=
    callsFit_asking stage done h ((Stage.sizesFit_iff rfl).1 (stage ▸ fits))
  cases advance_cases done with
  | excludes ready next targets | asks ready next targets => exact h.congr (Allocator.idle_targets targets).calls
  | misses source call event stage | gets origin found source call stage | forgoes source call stage =>
    exact asks stage
  | returns stage =>
    rw [stage] at fits
    exact h.released (((Stage.sizesFit_iff rfl).1 fits).2)
  | books counted headed =>
    obtain ⟨r, -, written⟩ := bind_ok headed
    cases written
    exact h
  | _ => exact h

/-- **Nothing comes of the checks in a step of a worker**, if its blocks are live and the sizes it has in hand fit. -/
theorem checked_advance (cut : Halt) (turn : Nat) (fits : w.stage.SizesFit)
    (live : ∀ named ∈ w.blocks.owned, ∃ head payload, a.arena.HasBlock named.2 head payload) :
    Checked.advance cut w a turn = w.advance a turn := by
  cases stage : w.stage with
  | ready =>
    cases tasks : w.tasks with
    | nil => simp only [Checked.advance, stage, tasks]
    | cons task rest =>
      cases task with
      | allocate | handOver => simp only [Checked.advance, stage, tasks]
      | free birth =>
        cases taken : w.blocks.take? birth with
        | none => simp only [Checked.advance, stage, tasks, taken]
        | some entry =>
          obtain ⟨block, blocks⟩ := entry
          cases block with
          | none => simp only [Checked.advance, stage, tasks, taken]
          | some block =>
            obtain ⟨head, payload, has⟩ :=
              live _ ((BlockRow.perm_owned_of_take? taken).mem_iff.2 List.mem_cons_self)
            have headed := has.header_eq
            obtain ⟨r, -, hb⟩ := has
            have bounded : head.Fits := hb.bounded
            simp only [Checked.advance, advance, startFree, stage, tasks, taken, headed, Checked.total_eq bounded,
              bind, Except.bind]
  | uncounted block head =>
    rw [stage] at fits
    have bounded : head.Fits := ((Stage.sizesFit_iff rfl).1 fits).2
    simp only [Checked.advance, advance, stage, Checked.total_eq bounded, bind, Except.bind]
    rfl
  | _ => simp only [Checked.advance, stage]

end Worker

namespace Crew

variable {c after : Crew σ} {turn : Nat}

theorem advance_of_step (done : c.step turn = .ok after) :
    after.allocator = c.allocator ∨ ∃ w ∈ c.workers, ∃ v, w.advance c.allocator turn = .ok (v, after.allocator) := by
  cases step_cases done with
  | passes => exact .inl rfl
  | gives => exact .inl rfl
  | @works w v b found alone =>
    rw [step_eq found alone] at done
    obtain ⟨⟨v', b'⟩, advanced, done⟩ := bind_ok done
    obtain rfl : b' = b := congrArg Crew.allocator (Except.ok.inj done)
    cases working : w.advance c.allocator turn with
    | error halt =>
      rw [working] at advanced
      cases advanced
    | ok result =>
      rw [working] at advanced
      cases advanced
      exact .inr ⟨_, List.mem_of_getElem? found, _, working⟩

omit [Source σ] in
theorem Agrees.hasBlock {r : Record} {w : Worker} {named : Birth × BlockId} (h : c.Agrees r) (mem : w ∈ c.workers)
    (own : named ∈ w.blocks.owned) : ∃ head payload, c.allocator.arena.HasBlock named.2 head payload := by
  have there : named ∈ owned c.workers := List.mem_flatMap.2 ⟨w, mem, own⟩
  obtain ⟨entry, booked, rfl⟩ := List.mem_map.1 (h.owned.mem_iff.2 there)
  obtain ⟨head, payload, has, -⟩ := h.live entry booked
  exact ⟨head, payload, has⟩

/-- The calls so far fit, and the sizes that the workers have in hand do. -/
structure Fitting (c : Crew σ) : Prop where
  called : c.allocator.CallsFit
  inHand : ∀ stage ∈ c.workers.map Worker.stage, stage.SizesFit

theorem Fitting.step {r : Record} (h : c.Fitting) (agrees : c.Agrees r) (done : c.step turn = .ok after) :
    after.Fitting := by
  have inHand {w : Worker} (mem : w ∈ c.workers) : w.stage.SizesFit := h.inHand _ (List.mem_map_of_mem mem)
  constructor
  -- The calls are those of the worker's own step, of which `Steps` does not tell.
  · rcases advance_of_step done with same | ⟨w, mem, v, advanced⟩
    · rw [same]
      exact h.called
    · exact Worker.callsFit_advance advanced h.called (inHand mem)
  · cases step_cases done with
    | passes => exact h.inHand
    | gives found =>
      intro stage mem
      rw [map_handOver Worker.stage found (fun _ _ => rfl) fun _ => rfl] at mem
      exact h.inHand stage mem
    | @works w v b found alone advances =>
      intro stage mem
      obtain ⟨u, there, rfl⟩ := List.mem_map.1 mem
      rcases List.mem_or_eq_of_mem_set there with there | rfl
      · exact inHand there
      · have own := List.mem_of_getElem? found
        exact advances.sizesFit (inHand own) fun named mem => agrees.hasBlock own mem

theorem Fitting.run {r : Record} {schedule : List Nat} (h : c.Fitting) (agrees : c.Agrees r)
    (done : c.run schedule = .ok after) : after.Fitting := by
  induction schedule generalizing c r with
  | nil =>
    cases done
    exact h
  | cons turn rest ih =>
    obtain ⟨next, stepped, done⟩ := bind_ok done
    exact ih (h.step agrees stepped) (agrees.step (step_cases stepped)) done

/-- No sum of headers fails to be a word: not so far, and not in the next step of any worker. -/
structure Exact (c : Crew σ) : Prop where
  headers : ∀ w ∈ c.workers, ∀ named ∈ w.blocks.owned, ∃ head, c.allocator.arena.header named.2 = .ok head ∧
    head.size + headerWidth ≤ 2 ^ 63 - 16
  advances : ∀ cut turn, ∀ w ∈ c.workers,
    Checked.advance cut w c.allocator turn = w.advance c.allocator turn
  called : c.allocator.CallsFit
  inHand : ∀ w ∈ c.workers, w.stage.SizesFit

theorem Fitting.exact {r : Record} (h : c.Fitting) (agrees : c.Agrees r) : c.Exact := by
  have inHand : ∀ w ∈ c.workers, w.stage.SizesFit := fun w mem => h.inHand _ (List.mem_map_of_mem mem)
  refine ⟨?_, ?_, h.called, inHand⟩
  · intro w mem named own
    obtain ⟨head, payload, r, hr, hb⟩ := agrees.hasBlock mem own
    exact ⟨head, Arena.HasBlock.header_eq ⟨r, hr, hb⟩, hb.bounded⟩
  · exact fun cut turn w mem => Worker.checked_advance cut turn (inHand w mem) fun named => agrees.hasBlock mem

theorem Begins.fitting (begins : c.Begins) : c.Fitting := by
  refine ⟨?_, fun stage mem => ?_⟩
  · cases begins with
    | after made steps => exact made.stored.callsFit_run made.callsFit steps
  · obtain ⟨w, there, rfl⟩ := List.mem_map.1 mem
    rw [(begins.starts w there).ready]
    exact fun _ mem => absurd mem List.not_mem_nil

end Crew

/-! ## The law -/

/-- **The sums of headers are exact.** After every run of a session, for steps of any size, and at every moment of a
crew that takes over from there, whatever the source answers, each header that can be read tells of a block that
there can be; no sum of a header and no difference of two of them fails to be a word, so that checking them changes
nothing; and the source is asked only for sizes that a block can have, and told of no others. -/
theorem header_sums_exact :
    (∀ {s : Session σ}, s.Initial → ∀ steps : List (Step σ), (s.run steps).2.Exact) ∧
      ∀ {c last : Crew σ}, c.Begins → ∀ schedule, c.run schedule = .ok last → last.Exact := by
  constructor
  · intro s made steps
    exact (made.stored.run steps).toSound.exact (made.stored.callsFit_run made.callsFit steps)
  · intro c last begins schedule done
    exact (begins.fitting.run begins.agrees done).exact (begins.agrees.watch done)

/-- A block that is resized and moved, the largest one that there can be, and a size for which there is none. -/
def outsized : List (Step Scripted) :=
  [.allocate false 0 100 none, .reallocate false (some 0) 0 (2 ^ 64 - 1) none, .reallocate false (some 0) 0 40 none,
    .reallocate true (some 0) 1 60 (some 1), .allocate false 2 (2 ^ 63 - 32) none]

/-- The largest size was asked for, and one block is live in the end. Of two workers, one asks for a block while the
other releases one that it was handed. -/
theorem outsized_exact :
    ((Session.onPair.run outsized).2.Exact ∧
      (Session.onPair.run outsized).2.allocator.arena.calls.flatMap Call.sizes =
        [2 ^ 63 - 16, 56, 76, 116, 56, 116] ∧
      (Session.onPair.run outsized).2.blocks.length = 1) ∧
      Crew.pairAtWork.Begins ∧ ∃ last, Crew.pairAtWork.run [0, 0, 0, 0, 0, 1, 1, 1, 1, 1, 0] = .ok last ∧
        last.Exact ∧ last.workers.map (fun w => w.stage.sizes) = [[24], [18]] := by
  have law := header_sums_exact (σ := Scripted)
  have starts : ∀ w ∈ Crew.pairAtWork.workers, w.Starts := fun w mem => by
    rcases List.mem_pair.1 mem with rfl | rfl <;> exact ⟨rfl, rfl, fun _ none => nomatch none⟩
  have begins : Crew.pairAtWork.Begins := .after (.new _ _) [] Crew.pairAtWork.workers starts (.refl _)
  obtain ⟨last, ran, inHand⟩ : ∃ last, Crew.pairAtWork.run [0, 0, 0, 0, 0, 1, 1, 1, 1, 1, 0] = .ok last ∧
      last.workers.map (fun w => w.stage.sizes) = [[24], [18]] := ⟨_, rfl, by decide⟩
  refine ⟨⟨law.1 (.new _ _) outsized, ?_, ?_⟩, begins, last, ran, law.2 begins _ ran, inHand⟩
  · decide +kernel
  · decide +kernel

end NodeHeap
