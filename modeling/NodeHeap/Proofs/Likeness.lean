import NodeHeap.Allocator.Session
import NodeHeap.Proofs.Halts

/-!
# Allocators that are alike

Two allocators with the same memory and the same books do the same with their blocks, whatever else tells
them apart. What that may be is a parameter: a relation that neither a change of memory or books nor a word
to the log can break.

* `Matched` — two computations end alike: in related values or in the same halt.
* `Allocator.Steady`, `Allocator.Alike` — the relation, and two allocators that are alike by it.
* `Alike.place`, `Alike.allocateAt`, `Alike.reallocateAt`, `Alike.free` — what is done to blocks, for the
  same nodes to try, is done to both.
* `Session.performsAlike_of_handles` — so do two sessions with every step that is about blocks, if they try
  the same nodes.
* `Session.stepAlike` — the answers to a step that is performed alike are the same.
-/

namespace NodeHeap

variable {α β : Type}

/-- Two computations end alike: in related values or in the same halt. -/
inductive Matched (R : α → α → Prop) : Except Halt α → Except Halt α → Prop
  | ok {x y : α} (related : R x y) : Matched R (.ok x) (.ok y)
  | error (halt : Halt) : Matched R (.error halt) (.error halt)

theorem Matched.bind {R : α → α → Prop} {S : β → β → Prop} {x y : Except Halt α}
    {f g : α → Except Halt β} (h : Matched R x y) (later : ∀ v w, R v w → Matched S (f v) (g w)) :
    Matched S (x >>= f) (y >>= g) := by
  cases h with
  | ok related => exact later _ _ related
  | error halt => exact .error halt

/-- A computation that both make is followed by what each of them does with its value. -/
theorem Matched.after {S : β → β → Prop} {f g : α → Except Halt β} (x : Except Halt α)
    (later : ∀ value, Matched S (f value) (g value)) : Matched S (x >>= f) (x >>= g) := by
  cases x with
  | error halt => exact .error halt
  | ok value => exact later value

theorem Matched.imp {R S : α → α → Prop} {x y : Except Halt α} (h : Matched R x y)
    (weaker : ∀ v w, R v w → S v w) : Matched S x y := by
  cases h with
  | ok related => exact .ok (weaker _ _ related)
  | error halt => exact .error halt

theorem Matched.known {R : α → α → Prop} {x y : Except Halt α} (h : Matched R x y) :
    Matched (fun v w => x = .ok v ∧ y = .ok w ∧ R v w) x y := by
  cases h with
  | ok related => exact .ok ⟨rfl, rfl, related⟩
  | error halt => exact .error halt

namespace Allocator

variable {σ : Type} {like : Allocator σ → Allocator σ → Prop} {a b : Allocator σ}

/-- What allocators have in common besides memory and books is not lost where these change, nor when the
log is told something. -/
structure Steady (like : Allocator σ → Allocator σ → Prop) : Prop where
  books : ∀ {a b : Allocator σ}, like a b → ∀ arena arena' usage usage' counters counters',
    like { a with arena, usage, counters }
      { b with arena := arena', usage := usage', counters := counters' }
  note : ∀ {a b : Allocator σ} (event : Event), like a b → like (a.note event) (b.note event)

/-- The memory and the books are the same, and the rest is alike. -/
structure Alike (like : Allocator σ → Allocator σ → Prop) (a b : Allocator σ) : Prop where
  arena : b.arena = a.arena
  usage : b.usage = a.usage
  counters : b.counters = a.counters
  like : like a b

def Alike.Giving (like : Allocator σ → Allocator σ → Prop) (x y : α × Allocator σ) : Prop :=
  y.1 = x.1 ∧ Alike like x.2 y.2

theorem Alike.note (h : Alike like a b) (steady : Steady like) (event : Event) :
    Alike like (a.note event) (b.note event) :=
  ⟨h.arena, h.usage, h.counters, steady.note event h.like⟩

/-- The same new memory and books. -/
theorem Alike.change (h : Alike like a b) (steady : Steady like) (arena : Arena σ) (usage : Usage)
    (counters : Counters) :
    Alike like { a with arena, usage, counters } { b with arena, usage, counters } :=
  ⟨rfl, rfl, rfl, steady.books h.like _ _ _ _ _ _⟩

theorem Alike.serialize (h : Alike like a b) (steady : Steady like) :
    Alike like a.serialize b.serialize := by
  simp only [Allocator.serialize, h.arena, h.usage, h.counters]
  exact (h.change steady a.arena a.usage.serialize a.counters).note steady _

variable [Source σ]

theorem Alike.attempt (h : Alike like a b) (steady : Steady like) (total : Nat)
    (nodes : List NodeId) :
    Giving like (Allocator.attempt total nodes a) (Allocator.attempt total nodes b) := by
  induction nodes generalizing a b with
  | nil => exact ⟨rfl, h⟩
  | cons node rest ih =>
    simp only [Allocator.attempt, h.arena, h.usage, h.counters]
    rcases a.arena.allocOnNode total node with ⟨_ | region, arena⟩
    · exact ih ((h.change steady arena a.usage a.counters.failedAttempt).note steady _)
    · exact ⟨rfl, h.change steady arena a.usage a.counters⟩

theorem Alike.fallBack (h : Alike like a b) (steady : Steady like) (total : Nat)
    (nodes : List NodeId) : Giving like (a.fallBack total nodes) (b.fallBack total nodes) := by
  have told : Alike like (if nodes.isEmpty then a else a.note (.targetsExhausted total))
      (if nodes.isEmpty then b else b.note (.targetsExhausted total)) := by
    split
    · exact h
    · exact h.note steady _
  unfold Allocator.fallBack
  generalize (if nodes.isEmpty then a else a.note (.targetsExhausted total)) = c at told ⊢
  generalize (if nodes.isEmpty then b else b.note (.targetsExhausted total)) = d at told ⊢
  simp only [told.arena, told.usage, told.counters]
  rcases c.arena.alloc total with ⟨_ | region, arena⟩
  · exact ⟨rfl, told.change steady arena c.usage c.counters⟩
  · exact ⟨rfl, told.change steady arena c.usage c.counters.grantFallback⟩

theorem Alike.place (h : Alike like a b) (steady : Steady like) (total : Nat)
    (nodes : List NodeId) : Giving like (a.place total nodes) (b.place total nodes) := by
  have attempted := h.attempt steady total nodes
  unfold Allocator.place
  generalize Allocator.attempt total nodes a = x at attempted
  generalize Allocator.attempt total nodes b = y at attempted
  obtain ⟨served, a'⟩ := x
  obtain ⟨served', b'⟩ := y
  obtain ⟨rfl, tried⟩ : served' = served ∧ Alike like a' b' := attempted
  cases served' with
  | none => exact tried.fallBack steady total nodes
  | some served =>
    simp only [tried.arena, tried.usage, tried.counters]
    exact ⟨rfl, tried.change steady a'.arena a'.usage a'.counters.grantTargeted⟩

theorem Alike.allocateAt (h : Alike like a b) (steady : Steady like) (size : Nat)
    (nodes : List NodeId) :
    Matched (Giving like) (a.allocateAt size nodes) (b.allocateAt size nodes) := by
  unfold Allocator.allocateAt
  cases totalFor? size with
  | none => exact .ok ⟨rfl, h⟩
  | some total =>
    have done := h.place steady total nodes
    dsimp only
    generalize a.place total nodes = x at done
    generalize b.place total nodes = y at done
    obtain ⟨served, a'⟩ := x
    obtain ⟨served', b'⟩ := y
    obtain ⟨rfl, placed⟩ : served' = served ∧ Alike like a' b' := done
    cases served' with
    | none => exact .ok ⟨rfl, placed⟩
    | some served =>
      simp only [placed.arena, placed.usage, placed.counters]
      refine .after _ fun arena => .ok ⟨rfl, ?_⟩
      exact placed.change steady arena (a'.usage.add total) a'.counters

theorem Alike.release (h : Alike like a b) (steady : Steady like) (block : BlockId) :
    Matched (Alike like) (a.release block) (b.release block) := by
  unfold Allocator.release
  simp only [h.arena, h.usage, h.counters]
  exact .after _ fun header => .ok (h.change steady _ _ _)

theorem Alike.free (h : Alike like a b) (steady : Steady like) (block : Option BlockId) :
    Matched (Alike like) (a.free block) (b.free block) := by
  cases block with
  | none => exact .ok h
  | some block => exact h.release steady block

theorem Alike.resizeInPlace (h : Alike like a b) (steady : Steady like) (block : BlockId)
    (old : Header) (size total : Nat) :
    Matched (Giving like) (a.resizeInPlace block old size total)
      (b.resizeInPlace block old size total) := by
  unfold Allocator.resizeInPlace
  simp only [h.arena, h.usage, h.counters]
  refine .after _ fun resized => ?_
  obtain ⟨_ | region, arena⟩ := resized
  · exact .ok ⟨rfl, h.change steady arena a.usage a.counters⟩
  · refine .after _ fun arena => .ok ⟨rfl, ?_⟩
    exact h.change steady arena _ a.counters

theorem Alike.moveBlock (h : Alike like a b) (steady : Steady like) (block : BlockId)
    (old : Header) (size : Nat) (nodes : List NodeId) :
    Matched (Giving like) (a.moveBlock block old size nodes) (b.moveBlock block old size nodes) := by
  refine (h.allocateAt steady size nodes).bind fun x y related => ?_
  obtain ⟨answer, a'⟩ := x
  obtain ⟨answer', b'⟩ := y
  obtain ⟨rfl, allocated⟩ : answer' = answer ∧ Alike like a' b' := related
  cases answer' with
  | error error => exact .ok ⟨rfl, allocated⟩
  | ok new =>
    simp only [allocated.arena, allocated.usage, allocated.counters]
    refine .after _ fun arena => ?_
    have copied := allocated.change steady arena a'.usage a'.counters
    exact (copied.release steady block).bind fun c d related => .ok ⟨rfl, related⟩

/-- **What is done to give a block another size is done to both.** -/
theorem Alike.reallocateAt (h : Alike like a b) (steady : Steady like) (block : Option BlockId)
    (size : Nat) (nodes : List NodeId) :
    Matched (Giving like) (a.reallocateAt block size nodes) (b.reallocateAt block size nodes) := by
  unfold Allocator.reallocateAt
  cases block with
  | none => exact h.allocateAt steady size nodes
  | some block =>
    cases totalFor? size with
    | none => exact .ok ⟨rfl, h⟩
    | some total =>
      simp only [h.arena, h.usage, h.counters]
      refine .after _ fun old => ?_
      have counted := h.change steady a.arena a.usage a.counters.reallocation
      split
      · exact counted.resizeInPlace steady block old size total
      · exact counted.moveBlock steady block old size nodes

variable {hint : Option NodeId}

theorem Alike.tryAllocate (steady : Steady like)
    (targets : Matched (Giving like) (a.targets hint) (b.targets hint)) (size : Nat) :
    Matched (Giving like) (a.tryAllocate size hint) (b.tryAllocate size hint) := by
  refine targets.bind fun x y related => ?_
  obtain ⟨nodes, a'⟩ := x
  obtain ⟨nodes', b'⟩ := y
  obtain ⟨rfl, alike⟩ : nodes' = nodes ∧ Alike like a' b' := related
  exact alike.allocateAt steady size nodes'

theorem Alike.tryReallocate (steady : Steady like)
    (targets : Matched (Giving like) (a.targets hint) (b.targets hint)) (block : Option BlockId)
    (size : Nat) :
    Matched (Giving like) (a.tryReallocate block size hint) (b.tryReallocate block size hint) := by
  refine targets.bind fun x y related => ?_
  obtain ⟨nodes, a'⟩ := x
  obtain ⟨nodes', b'⟩ := y
  obtain ⟨rfl, alike⟩ : nodes' = nodes ∧ Alike like a' b' := related
  exact alike.reallocateAt steady block size nodes'

omit [Source σ] in
/-- Where a refusal ends one caller it ends the other. -/
theorem Alike.orHalt {size : Nat} {x y : Except AllocError BlockId × Allocator σ}
    (related : Giving like x y) :
    Matched (Giving like) (Allocator.orHalt size x) (Allocator.orHalt size y) := by
  obtain ⟨answer, a'⟩ := x
  obtain ⟨answer', b'⟩ := y
  obtain ⟨rfl, alike⟩ : answer' = answer ∧ Alike like a' b' := related
  cases answer' with
  | error error => exact .error _
  | ok block => exact .ok ⟨rfl, alike⟩

end Allocator

def Step.requests {σ : Type} : Step σ → Bool
  | .allocate .. | .allocateCopy .. | .reallocate .. => true
  | _ => false

/-- Whether a step is about blocks, or about the source that they come from. -/
def Step.handles {σ : Type} : Step σ → Bool
  | .allocate .. | .allocateCopy .. | .reallocate .. | .free _ | .write .. | .read .. | .info _
  | .changeSource _ => true
  | _ => false

namespace Session

open Allocator (Steady Alike)

variable {σ : Type} {like : Allocator σ → Allocator σ → Prop} {s t : Session σ}

/-- The caller has the same names for the same blocks of allocators that are alike. -/
structure Alike (like : Allocator σ → Allocator σ → Prop) (s t : Session σ) : Prop where
  allocator : Allocator.Alike like s.allocator t.allocator
  blocks : t.blocks = s.blocks

def Alike.Giving (like : Allocator σ → Allocator σ → Prop) (x y : Value × Session σ) : Prop :=
  y.1 = x.1 ∧ Alike like x.2 y.2

theorem Alike.answering (h : Alike like s t) {a b : Allocator σ}
    (alike : Allocator.Alike like a b) (value : Value) :
    Giving like (s.answering value a) (t.answering value b) :=
  ⟨rfl, alike, h.blocks⟩

theorem describe_congr {a b : Allocator σ} (h : b.arena = a.arena) (block : BlockId) :
    describe b block = describe a block := by
  simp only [describe, Allocator.usableSize, Allocator.blockNode, h]

theorem Alike.granted (h : Alike like s t) (name : BlockName)
    {x y : Except AllocError BlockId × Allocator σ} (related : Allocator.Alike.Giving like x y) :
    Matched (Giving like) (s.granted name x) (t.granted name y) := by
  obtain ⟨answer, a⟩ := x
  obtain ⟨answer', b⟩ := y
  obtain ⟨rfl, alike⟩ : answer' = answer ∧ Allocator.Alike like a b := related
  cases answer' with
  | error error => exact .ok (h.answering alike _)
  | ok block =>
    simp only [Session.granted, describe_congr alike.arena, h.blocks]
    exact .after _ fun value => .ok ⟨rfl, alike, rfl⟩

theorem Alike.request (fatal : Bool) (size : Nat)
    {x y : Except Halt (Except AllocError BlockId × Allocator σ)}
    (related : Matched (Allocator.Alike.Giving like) x y) :
    Matched (Allocator.Alike.Giving like) (Session.request fatal size x)
      (Session.request fatal size y) := by
  refine related.bind fun v w related => ?_
  cases fatal with
  | false => exact .ok related
  | true =>
    exact (Allocator.Alike.orHalt related).bind fun v w related =>
      .ok ⟨congrArg Except.ok related.1, related.2⟩

variable [Source σ]

/-- **Two sessions that try the same nodes do the same with blocks.** -/
theorem performsAlike_of_handles (h : Alike like s t) (steady : Steady like) {step : Step σ}
    (targets : step.requests = true → ∀ hint, Matched (Allocator.Alike.Giving like)
      (s.allocator.targets hint) (t.allocator.targets hint))
    (handles : step.handles = true) :
    Matched (Alike.Giving like) (s.perform step) (t.perform step) := by
  have tried : step.requests = true → ∀ size hint, Matched (Allocator.Alike.Giving like)
      (s.allocator.tryAllocate size hint) (t.allocator.tryAllocate size hint) :=
    fun requests size hint => Allocator.Alike.tryAllocate steady (targets requests hint) size
  have retried : step.requests = true → ∀ block size hint, Matched (Allocator.Alike.Giving like)
      (s.allocator.tryReallocate block size hint) (t.allocator.tryReallocate block size hint) :=
    fun requests block size hint =>
      Allocator.Alike.tryReallocate steady (targets requests hint) block size
  cases step with
  | allocate fatal name size hint =>
    exact (Alike.request fatal size (tried rfl size hint)).bind fun v w related => h.granted name related
  | allocateCopy name bytes =>
    have copied : Matched (Allocator.Alike.Giving like) (s.allocator.allocateCopy bytes)
        (t.allocator.allocateCopy bytes) := by
      refine ((tried rfl bytes.length none).bind fun v w related =>
        Allocator.Alike.orHalt related).bind fun v w related => ?_
      obtain ⟨block, a⟩ := v
      obtain ⟨block', b⟩ := w
      obtain ⟨rfl, alike⟩ : block' = block ∧ Allocator.Alike like a b := related
      simp only [alike.arena, alike.usage, alike.counters]
      exact .after _ fun arena => .ok ⟨rfl, alike.change steady arena a.usage a.counters⟩
    exact copied.bind fun v w related => h.granted name ⟨congrArg Except.ok related.1, related.2⟩
  | reallocate fatal source name size hint =>
    cases source with
    | none =>
      exact (Alike.request fatal size (retried rfl none size hint)).bind fun v w related =>
        h.granted name related
    | some source =>
      simp only [perform, h.blocks]
      cases s.blocks.find? source with
      | none => exact .ok ⟨rfl, h⟩
      | some block =>
        refine (Alike.request fatal size (retried rfl (some block) size hint)).bind fun v w related => ?_
        obtain ⟨answer, a⟩ := v
        obtain ⟨answer', b⟩ := w
        obtain ⟨rfl, alike⟩ : answer' = answer ∧ Allocator.Alike like a b := related
        cases answer' with
        | error error => exact .ok (h.answering alike _)
        | ok new =>
          exact Alike.granted (s := { s with blocks := s.blocks.erase source })
            (t := { t with blocks := s.blocks.erase source }) ⟨h.allocator, rfl⟩ name ⟨rfl, alike⟩
  | free name =>
    cases name with
    | none => exact .ok ⟨rfl, h.allocator, h.blocks⟩
    | some name =>
      simp only [perform, h.blocks]
      cases s.blocks.find? name with
      | none => exact .ok ⟨rfl, h⟩
      | some block =>
        exact (h.allocator.free steady (some block)).bind fun a b alike => .ok ⟨rfl, alike, rfl⟩
  | write name start bytes =>
    simp only [perform, h.blocks, h.allocator.arena, h.allocator.usage, h.allocator.counters]
    cases s.blocks.find? name with
    | none => exact .ok ⟨rfl, h⟩
    | some block =>
      exact .after _ fun arena => .ok (h.answering (h.allocator.change steady arena _ _) _)
  | read name start length =>
    simp only [perform, h.blocks, h.allocator.arena]
    cases s.blocks.find? name with
    | none => exact .ok ⟨rfl, h⟩
    | some block => exact .after _ fun bytes => .ok ⟨rfl, h⟩
  | info name =>
    simp only [perform, h.blocks, describe_congr h.allocator.arena]
    cases s.blocks.find? name with
    | none => exact .ok ⟨rfl, h⟩
    | some block => exact .after _ fun value => .ok ⟨rfl, h⟩
  | changeSource change =>
    simp only [perform, h.allocator.arena, h.allocator.usage, h.allocator.counters]
    exact .ok (h.answering (h.allocator.change steady _ _ _) _)
  | _ => cases handles

/-- Whether the source breaks down depends on memory only. -/
theorem attemptAlike {R : Value × Session σ → Value × Session σ → Prop} {step other : Step σ}
    (memory : ∀ x y, R x y → y.2.allocator.arena = x.2.allocator.arena)
    (performed : Matched R (s.perform step) (t.perform other)) :
    Matched R (s.attempt step) (t.attempt other) := by
  refine performed.bind fun v w related => ?_
  obtain ⟨value, after⟩ := v
  obtain ⟨value', after'⟩ := w
  have same : after'.allocator.arena = after.allocator.arena := memory _ _ related
  simp only [Allocator.unlessBroken, same]
  cases Source.breakdown? after.allocator.arena.source with
  | none => exact .ok related
  | some halt => exact .error halt

omit [Source σ] in
/-- The answer that a value makes is the same, where the logs are the same. -/
theorem Alike.answer (told : ∀ {a b : Allocator σ}, like a b → b.events = a.events)
    (h : Alike like s t) {after after' : Session σ} (later : Alike like after after') (value : Value) :
    Session.answer t after' value = Session.answer s after value := by
  simp only [Session.answer, Allocator.usedBytes, later.allocator.usage, later.allocator.counters,
    later.allocator.arena, h.allocator.arena, told later.allocator.like, told h.allocator.like]

/-- **A step that is performed alike is answered the same**, where the logs are the same. -/
theorem stepAlike (told : ∀ {a b : Allocator σ}, like a b → b.events = a.events)
    (h : Alike like s t) {step : Step σ}
    (performed : Matched (Alike.Giving like) (s.perform step) (t.perform step)) :
    (t.step step).1 = (s.step step).1 ∧ Alike like (s.step step).2 (t.step step).2 := by
  have attempted := attemptAlike (fun x y related => related.2.allocator.arena) performed
  simp only [Session.step_eq]
  generalize s.attempt step = x at attempted
  generalize t.attempt step = y at attempted
  cases attempted with
  | error halt => exact ⟨h.answer told h _, h⟩
  | @ok v w related =>
    obtain ⟨value, after⟩ := v
    obtain ⟨value', after'⟩ := w
    obtain ⟨rfl, alike⟩ : value' = value ∧ Alike like after after' := related
    exact ⟨h.answer told alike _, alike⟩

end Session

end NodeHeap
