import NodeHeap.Allocator.Blocks
import NodeHeap.Proofs.Layout

/-!
# Placing a block

What a request for a block asks of the source, call by call.

* `Source.hear`, `Source.hearAll` — the source given the calls of a record, as long as it gives the
  answers that are recorded.
* `Asks` — the calls of one request: the nodes in order up to the first that serves, then anywhere.
* `place_spec` — `place` makes the calls of `Asks`, enters the region that was granted, counts the
  calls, and changes nothing else.
* `Allocates`, `allocateAt_spec` — the same with the header written; no request halts.
-/

namespace NodeHeap

variable {σ : Type} [Source σ]

/-! ## Records of calls -/

namespace Source

/-- The source and the next name after an answer, if the answer is the recorded one. -/
def confirm (next : RegionId) (granted : Option RegionId) : Bool × σ → Option (σ × RegionId)
  | (true, source) => if granted = some next then some (source, next + 1) else none
  | (false, source) => if granted = none then some (source, next) else none

/-- The source and the next name after a call, if the call is answered as it is recorded. -/
def hear (now : σ × RegionId) : Call → Option (σ × RegionId)
  | .allocOnNode node size granted =>
    confirm now.2 granted (Source.allocOnNode now.1 now.2 size node)
  | .alloc size granted => confirm now.2 granted (Source.alloc now.1 now.2 size)
  | .resize region old new granted =>
    match Source.resize? (σ := σ) with
    | some ask =>
      if (ask now.1 region old new).1 = granted then some ((ask now.1 region old new).2, now.2)
      else none
    | none => none
  | .freeOnNode node size region => some (Source.freeOnNode now.1 region size node, now.2)
  | .free size region => some (Source.free now.1 region size, now.2)

/-- The source and the next name after a list of calls, oldest first. -/
def hearAll : σ × RegionId → List Call → Option (σ × RegionId)
  | now, [] => some now
  | now, call :: rest => (hear now call).bind fun now => hearAll now rest

theorem hearAll_append (now : σ × RegionId) (calls more : List Call) :
    hearAll now (calls ++ more) = (hearAll now calls).bind fun now => hearAll now more := by
  induction calls generalizing now with
  | nil => rfl
  | cons call rest ih =>
    simp only [List.cons_append, hearAll]
    cases hear now call with
    | none => rfl
    | some now => exact ih now

variable {source after : σ} {next : RegionId} {total : Nat}

theorem hearAll_granted (asked : Source.alloc source next total = (true, after)) :
    hearAll (source, next) [.alloc total (some next)] = some (after, next + 1) := by
  simp [hearAll, hear, asked, confirm]

theorem hearAll_refused (asked : Source.alloc source next total = (false, after)) :
    hearAll (source, next) [.alloc total none] = some (after, next) := by
  simp [hearAll, hear, asked, confirm]

end Source

/-- The source of `a` was given exactly these calls, oldest first, gave the recorded answers, and is
that of `b` since. -/
structure Arena.Heard (a : Arena σ) (calls : List Call) (b : Arena σ) : Prop where
  recorded : b.calls = calls.reverse ++ a.calls
  answered : Source.hearAll (a.source, a.next) calls = some (b.source, b.next)

theorem Arena.Heard.trans {a b c : Arena σ} {calls more : List Call} (h : a.Heard calls b)
    (h' : b.Heard more c) : a.Heard (calls ++ more) c := by
  refine ⟨?_, ?_⟩
  · rw [h'.recorded, h.recorded, List.reverse_append, List.append_assoc]
  · rw [Source.hearAll_append, h.answered]
    exact h'.answered

/-! ## The calls of one request -/

/-- Requests on nodes that did not serve. -/
def vain (total : Nat) (nodes : List NodeId) : List Call :=
  nodes.map fun node => .allocOnNode node total none

/-- What is not said of a refused request on a node is said of none of them. -/
theorem countP_vain {p : Call → Bool} {total : Nat}
    (refused : ∀ node, p (.allocOnNode node total none) = false) (nodes : List NodeId) :
    (vain total nodes).countP p = 0 := by
  rw [List.countP_eq_zero]
  intro call mem
  obtain ⟨node, -, rfl⟩ := List.mem_map.1 mem
  rw [refused]
  exact Bool.false_ne_true

/-- The calls of a request for `total` bytes, and the place where it was served: a node, anywhere, or
nowhere. A region that is granted is called `next`. -/
inductive Asks (next : RegionId) (total : Nat) (nodes : List NodeId) :
    List Call → Option (Option NodeId) → Prop
  | onNode {tried rest : List NodeId} {node : NodeId} (split : nodes = tried ++ node :: rest) :
    Asks next total nodes (vain total tried ++ [.allocOnNode node total (some next)])
      (some (some node))
  | anywhere : Asks next total nodes (vain total nodes ++ [.alloc total (some next)]) (some none)
  | nowhere : Asks next total nodes (vain total nodes ++ [.alloc total none]) none

/-- A node that served is one of those that were to be tried. -/
theorem Asks.mem {next : RegionId} {total : Nat} {nodes : List NodeId} {calls : List Call}
    {node : NodeId} (h : Asks next total nodes calls (some (some node))) : node ∈ nodes := by
  cases h with
  | onNode split => simp [split]

/-- The counters after a call that was made to place a block. -/
def Counters.count (c : Counters) : Call → Counters
  | .allocOnNode _ _ none => c.failedAttempt
  | .allocOnNode _ _ (some _) => c.grantTargeted
  | .alloc _ (some _) => c.grantFallback
  | _ => c

/-- The arena after calls of which at most one granted a region. -/
def Arena.entered (a : Arena σ) (source : σ) (calls : List Call) : Option Region → Arena σ
  | some region =>
    { source, regions := a.regions.insert a.next region, next := a.next + 1,
      calls := calls.reverse ++ a.calls }
  | none => { a with source, calls := calls.reverse ++ a.calls }

omit [Source σ] in
theorem Arena.entered_entered (a : Arena σ) (source last : σ) (calls more : List Call)
    (region : Option Region) :
    (a.entered source calls none).entered last more region = a.entered last (calls ++ more) region := by
  cases region <;> simp [entered]

/-- The region that a request is served with, and what is found in it. -/
def grantOf (total : Nat) (found : Nat → UInt8) (served : Option (Option NodeId)) : Option Region :=
  served.map fun origin => .fresh origin total found

namespace Allocator

/-- The allocator after calls of which at most one granted a region, the first `counted` ones made
to place a block. -/
def entered (a : Allocator σ) (source : σ) (events : List Event) (counted calls : List Call)
    (region : Option Region) : Allocator σ :=
  { a with
    arena := a.arena.entered source calls region
    counters := counted.foldl Counters.count a.counters
    events }

omit [Source σ] in
theorem entered_entered (a : Allocator σ) (source last : σ) (events more : List Event)
    (counted counting calls calling : List Call) (region : Option Region) :
    (a.entered source events counted calls none).entered last more counting calling region =
      a.entered last more (counted ++ counting) (calls ++ calling) region := by
  simp only [entered, Arena.entered_entered, List.foldl_append]

/-- The nodes are asked in order up to the first that serves. -/
theorem attempt_spec (total : Nat) : ∀ (nodes : List NodeId) (a : Allocator σ),
    (∃ source events,
      attempt total nodes a =
        (none, a.entered source events (vain total nodes) (vain total nodes) none) ∧
      Source.hearAll (a.arena.source, a.arena.next) (vain total nodes) =
        some (source, a.arena.next)) ∨
    (∃ tried node rest source events, nodes = tried ++ node :: rest ∧
      attempt total nodes a =
        (some (a.arena.next, node),
          a.entered source events (vain total tried)
            (vain total tried ++ [.allocOnNode node total (some a.arena.next)])
            (some (.fresh (some node) total (Source.found source a.arena.next)))) ∧
      Source.hearAll (a.arena.source, a.arena.next)
          (vain total tried ++ [.allocOnNode node total (some a.arena.next)]) =
        some (source, a.arena.next + 1))
  | [], a => .inl ⟨a.arena.source, a.events, rfl, rfl⟩
  | node :: rest, a => by
    obtain ⟨yes, source, answer⟩ :
        ∃ yes source, Source.allocOnNode a.arena.source a.arena.next total node = (yes, source) :=
      ⟨_, _, rfl⟩
    cases yes with
    | true =>
      refine .inr ⟨[], node, rest, source, a.events, rfl, ?_, ?_⟩
      · simp only [attempt, Arena.allocOnNode, answer]
        rfl
      · simp [vain, Source.hearAll, Source.hear, answer, Source.confirm]
    | false =>
      have refused : Source.hear (a.arena.source, a.arena.next) (.allocOnNode node total none) =
          some (source, a.arena.next) := by
        simp [Source.hear, answer, Source.confirm]
      have unfolded : attempt total (node :: rest) a = attempt total rest
          (({ a with
              arena := { a.arena with source }.record (.allocOnNode node total none)
              counters := a.counters.failedAttempt }).note (.attemptFailed total node)) := by
        simp only [attempt, Arena.allocOnNode, answer]
      rw [unfolded]
      -- The rest is asked of an allocator with one more call on record, which `entered` absorbs.
      rcases attempt_spec total rest _ with ⟨last, events, h, heard⟩ |
        ⟨tried, served, after, last, events, split, h, heard⟩
      · refine .inl ⟨last, events, ?_, ?_⟩
        · rw [h]
          simp [entered, Arena.entered, vain, note, Arena.record, Counters.count]
        · simp only [vain, List.map_cons, Source.hearAll, refused, Option.bind_some]
          exact heard
      · refine .inr ⟨node :: tried, served, after, last, events, by rw [split]; rfl, ?_, ?_⟩
        · rw [h]
          simp [entered, Arena.entered, vain, note, Arena.record, Counters.count]
        · simp only [vain, List.map_cons, List.cons_append, Source.hearAll, refused,
            Option.bind_some]
          exact heard

/-- Memory is asked for anywhere, once. -/
theorem fallBack_spec (total : Nat) (nodes : List NodeId) (a : Allocator σ) :
    ∃ source events,
      (a.fallBack total nodes =
          (some (a.arena.next, .vacant),
            a.entered source events [.alloc total (some a.arena.next)]
              [.alloc total (some a.arena.next)]
              (some (.fresh none total (Source.found source a.arena.next)))) ∧
        Source.hearAll (a.arena.source, a.arena.next) [.alloc total (some a.arena.next)] =
          some (source, a.arena.next + 1)) ∨
      (a.fallBack total nodes =
          (none, a.entered source events [.alloc total none] [.alloc total none] none) ∧
        Source.hearAll (a.arena.source, a.arena.next) [.alloc total none] =
          some (source, a.arena.next)) := by
  obtain ⟨yes, source, answer⟩ :
      ∃ yes source, Source.alloc a.arena.source a.arena.next total = (yes, source) := ⟨_, _, rfl⟩
  obtain ⟨events, told⟩ : ∃ events,
      (if nodes.isEmpty then a else a.note (.targetsExhausted total)) = { a with events } := by
    split
    · exact ⟨a.events, rfl⟩
    · exact ⟨_, rfl⟩
  refine ⟨source, events, ?_⟩
  cases yes with
  | true =>
    refine .inl ⟨?_, Source.hearAll_granted answer⟩
    simp only [fallBack, told, Arena.alloc, answer]
    rfl
  | false =>
    refine .inr ⟨?_, Source.hearAll_refused answer⟩
    simp only [fallBack, told, Arena.alloc, answer]
    rfl

/-- **What `place` asks for and what it leaves**: the calls of `Asks`, which the source answers as
recorded, the granted region, the calls counted, and all else as it was. -/
theorem place_spec (total : Nat) (nodes : List NodeId) (a : Allocator σ) :
    ∃ calls served source events, Asks a.arena.next total nodes calls served ∧
      a.arena.Heard calls
        (a.arena.entered source calls (grantOf total (Source.found source a.arena.next) served)) ∧
      a.place total nodes =
        (served.map fun origin => (a.arena.next, NodeSlot.ofOption origin),
          a.entered source events calls calls
            (grantOf total (Source.found source a.arena.next) served)) := by
  rcases attempt_spec total nodes a with ⟨source, events, h, heard⟩ |
    ⟨tried, node, rest, source, events, split, h, heard⟩
  · rcases fallBack_spec total nodes (a.entered source events (vain total nodes) (vain total nodes) none)
      with ⟨last, events, ⟨hf, asked⟩ | ⟨hf, asked⟩⟩
    · refine ⟨_, _, last, events, .anywhere, ⟨rfl, ?_⟩, ?_⟩
      · rw [Source.hearAll_append, heard]
        exact asked
      · simp only [place, h, hf, entered_entered]
        rfl
    · refine ⟨_, _, last, events, .nowhere, ⟨rfl, ?_⟩, ?_⟩
      · rw [Source.hearAll_append, heard]
        exact asked
      · simp only [place, h, hf, entered_entered]
        rfl
  · refine ⟨_, _, source, events, .onNode split, ⟨rfl, heard⟩, ?_⟩
    simp only [place, h, entered, List.foldl_append]
    rfl

/-- How a request for a block ends, with the calls made: refused because of its size or by the source,
or granted, with the header written and the block on the books. -/
inductive Allocates (a : Allocator σ) (size : Nat) (nodes : List NodeId) :
    Except AllocError BlockId → Allocator σ → List Call → Prop
  | tooLarge (large : maxTotal < size + headerWidth) :
    Allocates a size nodes (.error (.outOfMemory size)) a []
  | refused {calls : List Call} {source : σ} (events : List Event)
    (bounded : size + headerWidth ≤ maxTotal)
    (asks : Asks a.arena.next (size + headerWidth) nodes calls none)
    (heard : a.arena.Heard calls (a.arena.entered source calls none)) :
    Allocates a size nodes (.error (.outOfMemory size)) (a.entered source events calls calls none)
      calls
  | granted {calls : List Call} {origin : Option NodeId} {source : σ} (events : List Event)
    (bounded : size + headerWidth ≤ maxTotal)
    (asks : Asks a.arena.next (size + headerWidth) nodes calls (some origin))
    (heard : a.arena.Heard calls (a.arena.entered source calls
      (some (.newBlock size origin (Source.found source a.arena.next))))) :
    Allocates a size nodes (.ok a.arena.next)
      { a.entered source events calls calls
          (some (.newBlock size origin (Source.found source a.arena.next))) with
        usage := a.usage.add (size + headerWidth) }
      calls

/-- The block that is granted, on a node that was to be tried or anywhere. -/
theorem Allocates.region {a b : Allocator σ} {size : Nat} {nodes : List NodeId} {new : BlockId}
    {calls : List Call} (h : Allocates a size nodes (.ok new) b calls) :
    ∃ origin found, Asks a.arena.next (size + headerWidth) nodes calls (some origin) ∧
      size + headerWidth ≤ maxTotal ∧ new = a.arena.next ∧
      b.arena.regions = a.arena.regions.insert new (.newBlock size origin found) := by
  cases h with
  | granted events bounded asks heard => exact ⟨_, _, asks, bounded, rfl, rfl⟩

theorem Allocates.heard {a b : Allocator σ} {size : Nat} {nodes : List NodeId}
    {answer : Except AllocError BlockId} {calls : List Call}
    (h : Allocates a size nodes answer b calls) : a.arena.Heard calls b.arena := by
  cases h with
  | tooLarge => exact ⟨rfl, rfl⟩
  | refused events bounded asks heard => exact heard
  | granted events bounded asks heard => exact heard

/-- What an allocator places by: the topology and what was seen of it, the policy and the default
node. -/
structure Agrees (a b : Allocator σ) : Prop where
  topology : b.topology = a.topology
  snapshot : b.snapshot = a.snapshot
  policy : b.policy = a.policy
  defaultSlot : b.defaultSlot = a.defaultSlot
  localDefault : b.localDefault = a.localDefault

theorem Allocates.agrees {a b : Allocator σ} {size : Nat} {nodes : List NodeId}
    {answer : Except AllocError BlockId} {calls : List Call}
    (h : Allocates a size nodes answer b calls) : a.Agrees b := by
  cases h with
  | tooLarge => exact ⟨rfl, rfl, rfl, rfl, rfl⟩
  | refused => exact ⟨rfl, rfl, rfl, rfl, rfl⟩
  | granted => exact ⟨rfl, rfl, rfl, rfl, rfl⟩

omit [Source σ] in
/-- The payload of a new block is written as a whole. -/
theorem writePayload_newBlock {a : Arena σ} {block : BlockId} {bytes : Bytes}
    {origin : Option NodeId} {found : Nat → UInt8} (bounded : bytes.length + headerWidth ≤ maxTotal)
    (hr : a.regions[block]? = some (.newBlock bytes.length origin found)) :
    ∃ r, a.writePayload block 0 bytes = .ok { a with regions := a.regions.insert block r } ∧
      r.IsBlock ⟨bytes.length, (NodeSlot.ofOption origin).stored⟩ bytes := by
  have littered := Region.isBlock_newBlock bounded origin found
  have covered : (Region.newBlock bytes.length origin found).covers (headerWidth + 0) bytes.length = true :=
    littered.covers_iff.2 (show headerWidth + 0 + bytes.length ≤ bytes.length + headerWidth by omega)
  have hb := littered.overwrite (show 0 + bytes.length ≤ bytes.length by omega)
  rw [Bytes.patch_whole (Region.length_foundPayload bytes.length found).symm] at hb
  exact ⟨_, Arena.write_of_covers hr covered, hb⟩

/-- The block that is granted, once bytes of its size were written to it. -/
theorem Allocates.written {a b : Allocator σ} {bytes : Bytes} {nodes : List NodeId} {new : BlockId}
    {calls : List Call} {arena : Arena σ} (h : Allocates a bytes.length nodes (.ok new) b calls)
    (written : b.arena.writePayload new 0 bytes = .ok arena) :
    ∃ origin r, Asks a.arena.next (bytes.length + headerWidth) nodes calls (some origin) ∧
      new = a.arena.next ∧ arena = { b.arena with regions := a.arena.regions.insert new r } ∧
      r.IsBlock ⟨bytes.length, (NodeSlot.ofOption origin).stored⟩ bytes := by
  obtain ⟨origin, found, asks, bounded, same, regions⟩ := h.region
  have there : b.arena.regions[new]? = some (.newBlock bytes.length origin found) := by
    rw [regions, Std.ExtTreeMap.getElem?_insert_self]
  obtain ⟨r, filled, hb⟩ := writePayload_newBlock bounded there
  rw [filled, regions, Regions.insert_insert] at written
  cases written
  exact ⟨origin, r, asks, same, rfl, hb⟩

/-- **A request for a block is answered**, in one of the ways of `Allocates`. -/
theorem allocateAt_spec (a : Allocator σ) (size : Nat) (nodes : List NodeId) :
    ∃ answer b calls, a.allocateAt size nodes = .ok (answer, b) ∧ Allocates a size nodes answer b calls := by
  by_cases bounded : size + headerWidth ≤ maxTotal
  · have total : totalFor? size = some (size + headerWidth) := totalFor?_eq_some.2 ⟨bounded, rfl⟩
    obtain ⟨calls, served, source, events, asks, heard, placed⟩ :=
      place_spec (size + headerWidth) nodes a
    cases served with
    | none =>
      refine ⟨_, _, _, ?_, .refused events bounded asks heard⟩
      simp only [allocateAt, total, placed]
      rfl
    | some origin =>
      refine ⟨_, _, _, ?_, .granted events bounded asks ⟨heard.recorded, heard.answered⟩⟩
      have inside : (a.arena.entered source calls
          (some (.fresh origin (size + headerWidth) (Source.found source a.arena.next)))).regions[
            a.arena.next]? =
          some (.fresh origin (size + headerWidth) (Source.found source a.arena.next)) := by
        simp [Arena.entered]
      have written := Arena.setHeader_of_le inside (Nat.le_add_left _ _) ⟨size, .ofOption origin⟩
      simp only [allocateAt, total, placed, Option.map_some, grantOf, entered, written]
      simp only [Arena.entered, Regions.insert_insert]
      rfl
  · refine ⟨_, _, _, ?_, .tooLarge (Nat.lt_of_not_le bounded)⟩
    simp only [allocateAt, totalFor?_eq_none.2 (Nat.lt_of_not_le bounded)]

end Allocator

end NodeHeap
