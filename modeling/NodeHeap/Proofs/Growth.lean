import Mathlib.Algebra.Group.Nat.Defs
import NodeHeap.Proofs.CallCounts
import NodeHeap.Proofs.Reserving

/-!
# Growth by appending

A buffer that is only appended to grows rarely and keeps little room. Each time that it has to grow it has become
longer than its capacity, which it then doubles; so its length is about doubled from one growth to the next, and
the room that it keeps is never more than its content.

* `Appending`, `Buffer.appendEach` — calls that append to a buffer, and a list of them.
* `Buffer.Grew` — the invariant, for a number of growths; `Grew.longer` and `Grew.grow` — what appending does to it.
* `ends_append_grew`, `ends_perform_grew`, `ends_appendEach_grew` — it is kept by a piece, by a call and by a list
  of calls, and the growths are the requests for another size that the allocator counts.
* `Shared.run_appends_amortized` — the law for a new buffer, wherever an allocator came to.
-/

namespace NodeHeap

variable {σ : Type} [Source σ]

/-- A call that appends to a buffer: bytes, or a text in the pieces that it is made up of. -/
inductive Appending where
  | whole (bytes : Bytes)
  | pieced (pieces : List Bytes)

def Appending.content : Appending → Bytes
  | .whole bytes => bytes
  | .pieced pieces => pieces.flatten

def Appending.perform (b : Buffer) (a : Allocator σ) : Appending → Except Halt (Buffer × Allocator σ)
  | .whole bytes => b.append a bytes
  | .pieced pieces => b.appendAll a pieces

namespace Buffer

/-- The buffer after calls that append to it, one after another. -/
def appendEach (b : Buffer) (a : Allocator σ) : List Appending → Except Halt (Buffer × Allocator σ)
  | [] => .ok (b, a)
  | call :: rest => do
    let (b, a) ← call.perform b a
    b.appendEach a rest

/-! ## The invariant -/

omit [Source σ]

/-- A buffer that grew so often, by appending alone. It has no more room than content. Its length has doubled with
each growth, and will have doubled once more when it comes to the next one, for which it has to pass its
capacity. -/
structure Grew (b : Buffer) (growths : Nat) : Prop where
  slack : b.length + b.avail ≤ 2 * b.length
  doubled : 2 ^ growths ≤ b.length + 1
  next : 2 ^ (growths + 1) ≤ b.length + b.avail + 2

variable {b c : Buffer} {growths : Nat}

theorem grew_of_full (full : b.avail = 0) : b.Grew 0 := by
  refine ⟨by omega, ?_, ?_⟩
  · rw [Nat.pow_zero]
    omega
  · rw [Nat.zero_add, Nat.pow_one]
    omega

theorem Grew.longer (h : b.Grew growths) (length : b.length ≤ c.length)
    (capacity : c.length + c.avail = b.length + b.avail) : c.Grew growths := by
  obtain ⟨slack, doubled, next⟩ := h
  exact ⟨by omega, by omega, by omega⟩

theorem Grew.grow (h : b.Grew growths) (length : b.length + b.avail < c.length)
    (capacity : c.length + c.avail = 2 * c.length) : c.Grew (growths + 1) := by
  have next := h.next
  refine ⟨by omega, by omega, ?_⟩
  rw [Nat.pow_succ]
  omega

/-- A buffer grew with each of the requests for another size that the allocator has counted since it had counted
`before` of them. -/
def GrewSince (before : Nat) (b : Buffer) (a : Allocator σ) : Prop :=
  ∃ growths, a.counters.reallocations = before + growths ∧ b.Grew growths

end Buffer

/-- A request for another size that is granted is counted once. -/
theorem Allocator.Holds.reallocations_of_granted {a b : Allocator σ} {block new : BlockId} {cell : Cell}
    {rest : List Holding} {size : Nat} {hint : Option NodeId} (h : a.Holds ((block, cell) :: rest))
    (granted : a.reallocate (some block) size hint = .ok (new, b)) :
    b.counters.reallocations = a.counters.reallocations + 1 := by
  obtain ⟨head, r, nodes, c, calls, targets, ends⟩ := h.reallocate_cases granted
  rw [ends.reallocations, if_pos ends.bounded, (idle_targets targets).counters]

namespace Filled

variable {f : Filled} {a b : Allocator σ} {held rest : List Holding} {before : Nat}

/-! ## New buffers -/

omit [Source σ] in
theorem counters_of_put {b : Buffer} {a c : Allocator σ} {start : Nat} {bytes : Bytes}
    (done : b.put a start bytes = .ok c) : c.counters = a.counters := by
  obtain ⟨arena, -, done⟩ := bind_ok done
  cases done
  rfl

/-- To make a buffer asks for no other size. -/
theorem reallocations_of_ofBytes {bytes : Bytes} {given : Buffer × Allocator σ}
    (done : Buffer.ofBytes a bytes = .ok given) :
    given.2.counters.reallocations = a.counters.reallocations := by
  obtain ⟨size, -, done⟩ := bind_ok done
  obtain ⟨⟨block, b⟩, allocated, done⟩ := bind_ok done
  obtain ⟨⟨answer, c⟩, tried, allocated⟩ := bind_ok allocated
  obtain ⟨nodes, d, calls, targets, allocates⟩ := Allocator.tryAllocate_cases tried
  obtain ⟨e, first, done⟩ := bind_ok done
  obtain ⟨g, second, done⟩ := bind_ok done
  cases answer with
  | error error => cases allocated
  | ok new =>
    cases allocated
    cases done
    rw [counters_of_put second, counters_of_put first, allocates.reallocations,
      (Allocator.idle_targets targets).counters]

/-- A new buffer did not grow. -/
theorem ends_ofBytes_grew (h : a.Holds held) (bytes : Bytes) :
    Ends (Buffer.Stops a bytes.length)
      (fun given => Becomes a held bytes given ∧ given.1.GrewSince a.counters.reallocations given.2)
      (Buffer.ofBytes a bytes) := by
  refine ((ends_ofBytes h bytes).and fun given => reallocations_of_ofBytes).imp (fun _ => id) ?_
  intro given made
  exact ⟨made.1.1, 0, made.2, Buffer.grew_of_full made.1.2⟩

/-! ## Calls -/

omit [Source σ] in
theorem Edited.counters_eq {g : Filled} {content : Bytes} (edited : f.Edited a rest content g b) :
    b.counters = a.counters := by
  obtain ⟨r, rfl⟩ := edited.rewritten
  rfl

/-- **Bytes that are appended** keep the invariant. If the buffer has the room, there is no growth. If it lacks the
room, what it has to hold passes its capacity, and that is doubled by one request. -/
theorem ends_append_grew (h : a.Holds (f.holding :: rest)) (grew : f.buffer.GrewSince before a)
    (bytes : Bytes) :
    Ends (Buffer.Stops a (f.content ++ bytes).length)
      (fun given => Becomes a rest (f.content ++ bytes) given ∧ given.1.GrewSince before given.2)
      (f.buffer.append a bytes) := by
  refine (ends_append h bytes).and fun given done => ?_
  obtain ⟨growths, counted, grew⟩ := grew
  obtain ⟨⟨c, d⟩, reserved, appended⟩ := bind_ok done
  have spec := reserve_spec h bytes.length
  rw [reserved] at spec
  cases spec with
  | enough room =>
    obtain ⟨g, b, edit, edited⟩ := edits_behind h room
    cases appended.symm.trans edit
    have longer : f.buffer.length ≤ g.buffer.length := by
      rw [← g.measured, edited.content, List.length_append, f.measured]
      exact Nat.le_add_right _ _
    exact ⟨growths, (congrArg _ edited.counters_eq).trans counted, grew.longer longer edited.capacity⟩
  | @granted block d g short fits granted buffer content holds =>
    have avail : g.buffer.avail = 2 * (f.buffer.length + bytes.length) - f.buffer.length := by rw [buffer]
    have length : g.buffer.length = f.buffer.length := by rw [buffer]
    obtain ⟨k, b, edit, edited⟩ := edits_behind holds (show bytes.length ≤ g.buffer.avail by omega)
    cases appended.symm.trans edit
    have longer : k.buffer.length = f.buffer.length + bytes.length := by
      rw [← k.measured, edited.content, List.length_append, content, f.measured]
    have capacity : k.buffer.length + k.buffer.avail = g.buffer.length + g.buffer.avail := edited.capacity
    have once : b.counters.reallocations = before + (growths + 1) := by
      rw [edited.counters_eq, h.reallocations_of_granted granted, counted, Nat.add_assoc]
    have grown : k.buffer.Grew (growths + 1) := grew.grow (by omega) (by omega)
    exact ⟨growths + 1, once, grown⟩

theorem ends_appendAll_grew (pieces : List Bytes) {a : Allocator σ} {f : Filled}
    (h : a.Holds (f.holding :: rest)) (grew : f.buffer.GrewSince before a) :
    Ends (Buffer.Stops a (f.content ++ pieces.flatten).length)
      (fun given => Becomes a rest (f.content ++ pieces.flatten) given ∧ given.1.GrewSince before given.2)
      (f.buffer.appendAll a pieces) := by
  refine (ends_appendAll pieces h).and fun given done => ?_
  induction pieces generalizing a f with
  | nil =>
    cases done
    exact grew
  | cons piece pieces ih =>
    rw [Buffer.appendAll_cons] at done
    obtain ⟨⟨c, b⟩, appended, done⟩ := bind_ok done
    have ends := ends_append_grew h grew piece
    rw [appended] at ends
    cases ends with
    | ok reached =>
      obtain ⟨⟨-, g, same, -, holds⟩, later⟩ := reached
      obtain rfl : g.buffer = c := same
      exact ih holds later done

/-- **A call that appends** keeps the invariant. -/
theorem ends_perform_grew (call : Appending) (h : a.Holds (f.holding :: rest))
    (grew : f.buffer.GrewSince before a) :
    Ends (Buffer.Stops a (f.content ++ call.content).length)
      (fun given => Becomes a rest (f.content ++ call.content) given ∧ given.1.GrewSince before given.2)
      (call.perform f.buffer a) := by
  cases call with
  | whole bytes => exact ends_append_grew h grew bytes
  | pieced pieces => exact ends_appendAll_grew pieces h grew

/-- **So does a list of calls.** -/
theorem ends_appendEach_grew (calls : List Appending) {a : Allocator σ} {f : Filled}
    (h : a.Holds (f.holding :: rest)) (grew : f.buffer.GrewSince before a) :
    Ends (Buffer.Stops a (f.content ++ calls.flatMap Appending.content).length)
      (fun given => Becomes a rest (f.content ++ calls.flatMap Appending.content) given ∧
        given.1.GrewSince before given.2)
      (f.buffer.appendEach a calls) := by
  induction calls generalizing a f with
  | nil =>
    refine .ok ⟨⟨.refl, f, rfl, ?_, h⟩, grew⟩
    rw [List.flatMap_nil, List.append_nil]
  | cons call calls ih =>
    rw [List.flatMap_cons, ← List.append_assoc]
    have first := ends_perform_grew call h grew
    refine (first.imp (fun _ => Buffer.Stops.after .refl ?_) fun _ => id).bind fun given reached => ?_
    · simp only [List.length_append]
      omega
    · obtain ⟨⟨leads, g, same, content, holds⟩, grew⟩ := reached
      obtain ⟨b, a'⟩ := given
      obtain rfl : g.buffer = b := same
      have later := ih holds grew
      rw [content] at later
      exact later.imp (fun _ => Buffer.Stops.after leads (Nat.le_refl _)) fun _ reached =>
        ⟨reached.1.after leads, reached.2⟩

end Filled

namespace Shared

/-- **Growth is amortized.** Wherever an allocator came to: a new buffer that is only appended to makes `growths`
requests for another size only where it comes to hold `2 ^ growths - 1` bytes, and its capacity is at most twice
what it holds. That is so after each of its calls, since it is so after every list of calls. The calls halt only
for want of what the buffer has to hold. -/
theorem run_appends_amortized (a : Allocator σ) (made : Session.Initial { allocator := a })
    (steps : List (SharedStep σ)) (content : Bytes) (calls : List Appending) :
    Ends
      (Buffer.Stops (run { allocator := a } steps).2.allocator
        (content ++ calls.flatMap Appending.content).length)
      (fun given => given.1.Shows given.2 (content ++ calls.flatMap Appending.content) ∧
        given.1.length + given.1.avail ≤ 2 * given.1.length ∧
        ∃ growths, given.2.counters.reallocations =
            (run { allocator := a } steps).2.allocator.counters.reallocations + growths ∧
          2 ^ growths - 1 ≤ given.1.length)
      (do
        let (b, a) ← Buffer.ofBytes (run { allocator := a } steps).2.allocator content
        b.appendEach a calls) := by
  obtain ⟨held, holds⟩ := ((models_of_initial made).run steps).holds
  have new := Filled.ends_ofBytes_grew holds content
  refine (new.imp (fun _ => Buffer.Stops.after .refl ?_) fun _ => id).bind fun given new => ?_
  · rw [List.length_append]
    exact Nat.le_add_right _ _
  · obtain ⟨⟨leads, f, same, filled, holds⟩, grew⟩ := new
    obtain ⟨b, a'⟩ := given
    obtain rfl : f.buffer = b := same
    have ends := Filled.ends_appendEach_grew calls holds grew
    rw [filled] at ends
    refine ends.imp (fun _ => Buffer.Stops.after leads (Nat.le_refl _)) fun given reached => ?_
    obtain ⟨⟨-, g, same, shown, holds⟩, growths, counted, grew⟩ := reached
    rw [← same] at grew ⊢
    exact ⟨shown ▸ Filled.shows holds List.mem_cons_self, grew.slack, growths, counted,
      Nat.sub_le_of_le_add grew.doubled⟩

/-- A buffer of one byte that four bytes are appended to, in two requests for another size. -/
theorem amortized_in_pieces :
    Session.Initial Session.onPair ∧ ∃ b after,
      (do
        let (b, a) ← Buffer.ofBytes Session.onPair.allocator [97]
        b.appendEach a [.whole [98], .pieced [[99], [100]], .whole [101]]) = .ok (b, after) ∧
      after.counters.reallocations = 2 ∧ 2 ^ 2 - 1 ≤ b.length ∧ b.length + b.avail ≤ 2 * b.length := by
  have made : Session.Initial Session.onPair := .new _ _
  obtain ⟨b, after, done, twice⟩ : ∃ b after,
      (do
        let (b, a) ← Buffer.ofBytes Session.onPair.allocator [97]
        b.appendEach a [.whole [98], .pieced [[99], [100]], .whole [101]]) = .ok (b, after) ∧
      after.counters.reallocations = 2 := ⟨_, _, rfl, rfl⟩
  have ends := run_appends_amortized Session.onPair.allocator made [] [97]
    [.whole [98], .pieced [[99], [100]], .whole [101]]
  simp only [run] at ends
  rw [done] at ends
  cases ends with
  | ok reached =>
    obtain ⟨-, slack, growths, counted, bound⟩ := reached
    obtain rfl : 2 = growths := twice.symm.trans (counted.trans (Nat.zero_add _))
    exact ⟨made, b, after, done, twice, bound, slack⟩

end Shared

end NodeHeap
