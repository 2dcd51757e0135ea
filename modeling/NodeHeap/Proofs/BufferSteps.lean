import NodeHeap.Proofs.Buffers

/-!
# The steps of a session with buffers

A session does to its buffers what its caller sees of them as byte strings, whatever other blocks there are.

* `BufferStep.Stops` — why a step halts: for want of the memory that it demands, or of the byte that it is about;
  `BufferStep.Answers` — what else it tells.
* `BufferSession.Keeps` — the buffers of a session, and the other blocks of its allocator.
* `BufferSession.Refines` — the buffers are those of the byte strings after a step, and what was told is what
  there is to tell of them; `BufferSession.Mirrors` — so a step ends, or it halts for a reason;
  `BufferSession.Follows` — the same, where a step that appends pieces may end after some of them.
* `Keeps.change`, `Keeps.store`, `Keeps.inspect`, `Keeps.appendAll` — the kinds of steps; `Keeps.perform` — all
  steps.
* `BufferSession.keepTokens` — the pieces of a split as buffers that stay.
* `BufferSession.Halts`, `Keeps.settle` — what a caller gets: the reasons for which a step halts, and then nothing
  changes.
-/

namespace NodeHeap

variable {σ : Type}

namespace Table

variable {κ α β : Type} [DecidableEq κ]

theorem perm_modify {key : κ} {value : α} {table : Table κ α} (h : table.find? key = some value)
    (change : α → α) : (table.modify key change).Perm ((key, change value) :: table.erase key) := by
  induction table with
  | nil => cases h
  | cons entry rest ih =>
    by_cases hk : entry.1 = key
    · simp only [find?, hk, if_true, Option.some.injEq] at h
      simp only [modify, erase, hk, if_true, h]
      exact List.Perm.refl _
    · simp only [find?, hk, if_false] at h
      simp only [modify, erase, hk, if_false]
      exact ((ih h).cons entry).trans (List.Perm.swap _ _ _)

theorem modify_of_find?_none {key : κ} {table : Table κ α} (h : table.find? key = none)
    (change : α → α) : table.modify key change = table := by
  induction table with
  | nil => rfl
  | cons entry rest ih =>
    by_cases hk : entry.1 = key
    · simp [find?, hk] at h
    · simp only [find?, hk, if_false] at h
      simp only [modify, hk, if_false]
      exact congrArg _ (ih h)

theorem erase_of_find?_none {key : κ} {table : Table κ α} (h : table.find? key = none) :
    table.erase key = table := by
  induction table with
  | nil => rfl
  | cons entry rest ih =>
    by_cases hk : entry.1 = key
    · simp [find?, hk] at h
    · simp only [find?, hk, if_false] at h
      simp only [erase, hk, if_false]
      exact congrArg _ (ih h)

/-- A binding that is set changes what it stands for to what the new value stands for. -/
theorem mapValues_set {key : κ} {value new : α} {table : Table κ α} (h : table.find? key = some value)
    (f : α → β) (change : β → β) (same : f new = change (f value)) :
    (table.modify key fun _ => new).mapValues f = (table.mapValues f).modify key change := by
  induction table with
  | nil => cases h
  | cons entry rest ih =>
    by_cases hk : entry.1 = key
    · simp only [find?, hk, if_true, Option.some.injEq] at h
      simp only [modify, mapValues, List.map_cons, hk, if_true, same, h]
    · simp only [find?, hk, if_false] at h
      simp only [modify, mapValues, List.map_cons, hk, if_false]
      exact congrArg _ (ih h)

end Table

theorem perm_insertByKey {α : Type} (key : Nat) (value : α) (table : Table Nat α) :
    (insertByKey key value table).Perm ((key, value) :: table) := by
  induction table with
  | nil => exact List.Perm.refl _
  | cons entry rest ih =>
    unfold insertByKey
    split
    · exact List.Perm.refl _
    · exact (ih.cons entry).trans (List.Perm.swap _ _ _)

theorem mapValues_insertByKey {α β : Type} (f : α → β) (key : Nat) (value : α) (table : Table Nat α) :
    (insertByKey key value table).mapValues f = insertByKey key (f value) (table.mapValues f) := by
  induction table with
  | nil => rfl
  | cons entry rest ih =>
    simp only [insertByKey, Table.mapValues, List.map_cons]
    split
    · rfl
    · exact congrArg _ ih

def Strings.lengthOf (strings : Strings) (register : Register) : Nat :=
  ((strings.find? register).getD []).length

namespace BufferStep

/-- How many bytes a step has to hold that asks for memory. -/
def demand (strings : Strings) : BufferStep → Option Nat
  | .ofBytes _ bytes | .replace _ bytes | .split bytes _ => some bytes.length
  | .empty _ => some 0
  | .zeros _ length => some length
  | .clone _ source => some (strings.lengthOf source)
  | .append register bytes => some (strings.lengthOf register + bytes.length)
  | .appendAll register pieces => some (strings.lengthOf register + pieces.flatten.length)
  | .reserve register more => some (strings.lengthOf register + more)
  | .borrow _ size => some size
  | _ => none

/-- The byte that a step is about. -/
def index : BufferStep → Option (Register × Nat)
  | .get register index | .set register index _ => some (register, index)
  | _ => none

/-- Why a step halts: it does not get the memory that it demands, or the byte that it is about is beyond the
end. -/
inductive Stops [Source σ] (a : Allocator σ) (strings : Strings) (step : BufferStep) : Halt → Prop
  | demand {demand : Nat} {halt : Halt} (asks : step.demand strings = some demand)
    (stops : Buffer.Stops a demand halt) : Stops a strings step halt
  | index {register : Register} {index : Nat} {bytes : Bytes} (about : step.index = some (register, index))
    (found : strings.find? register = some bytes) (beyond : bytes.length ≤ index) :
    Stops a strings step (.indexOutOfBounds bytes.length index)

theorem Stops.badAccess [Source σ] {a : Allocator σ} {strings : Strings} {step : BufferStep}
    (stops : step.Stops a strings .badAccess) : a.topology.callerNode = .error .badAccess := by
  cases stops with
  | demand asks stops => exact stops.badAccess

/-- What a step tells that does not halt: what there is to tell of the byte strings, or how many of its pieces
were appended before one that was not, and why that was not. -/
inductive Answers [Source σ] (a : Allocator σ) (strings : Strings) (step : BufferStep) : BufferValue → Prop
  | told (avail : Nat) : Answers a strings step (strings.tell step avail)
  | cut {register : Register} {pieces : List Bytes} {count : Nat} {halt : Halt}
    (about : step = .appendAll register pieces) (short : count < pieces.length)
    (stops : step.Stops a strings halt) : Answers a strings step (.interrupted halt count)

end BufferStep

theorem Ends.of_demand [Source σ] {α : Type} {a : Allocator σ} {strings : Strings} {step : BufferStep}
    {demand : Nat} {post : α → Prop} {done : Except Halt α} (asks : step.demand strings = some demand)
    (ends : Ends (Buffer.Stops a demand) post done) : Ends (step.Stops a strings) post done :=
  ends.imp (fun _ => .demand asks) fun _ => id

/-- Buffers by number, with their cells and contents. -/
abbrev Fills := Table Register Filled

namespace Fills

variable {fills : Fills} {register : Register} {f : Filled}

def holdings (fills : Fills) : List Holding := fills.map fun entry => entry.2.holding

theorem holdings_eq (fills : Fills) : fills.holdings = (fills.map Prod.snd).map Filled.holding := by
  rw [List.map_map]
  rfl

def strings (fills : Fills) : Strings := fills.mapValues Filled.content

theorem find?_strings (fills : Fills) (register : Register) :
    fills.strings.find? register = (fills.find? register).map Filled.content :=
  Table.find?_mapValues _ _ _

theorem lengthOf_strings (found : fills.find? register = some f) :
    fills.strings.lengthOf register = f.content.length := by
  rw [Strings.lengthOf, find?_strings, found]
  rfl

/-- A step halts that is about a byte beyond the end of a buffer. -/
theorem stops_index [Source σ] {a : Allocator σ} {step : BufferStep} {index : Nat}
    (found : fills.find? register = some f) (about : step.index = some (register, index))
    (beyond : f.buffer.length ≤ index) :
    step.Stops a fills.strings (.indexOutOfBounds f.buffer.length index) := by
  have content : fills.strings.find? register = some f.content := by rw [find?_strings, found]; rfl
  rw [← f.measured]
  exact .index about content (f.measured ▸ beyond)

theorem holding_mem (found : fills.find? register = some f) : f.holding ∈ fills.holdings :=
  List.mem_map_of_mem (f := fun entry : Register × Filled => entry.2.holding) (Table.mem_of_find? found)

theorem perm_holdings (found : fills.find? register = some f) :
    fills.holdings.Perm (f.holding :: holdings (fills.erase register)) :=
  (Table.perm_of_find? found).map _

theorem perm_holdings_set (found : fills.find? register = some f) (g : Filled) :
    (holdings (fills.modify register fun _ => g)).Perm (g.holding :: holdings (fills.erase register)) :=
  (Table.perm_modify found _).map _

theorem perm_holdings_insert (register : Register) (g : Filled) :
    (holdings (insertByKey register g fills)).Perm (g.holding :: fills.holdings) :=
  (perm_insertByKey register g fills).map _

theorem look_strings (found : fills.find? register = some f) (tell : Bytes → BufferValue) :
    fills.strings.look register tell = tell f.content := by
  rw [Strings.look, find?_strings, found]
  rfl

theorem look_strings_none (unknown : fills.find? register = none) (tell : Bytes → BufferValue) :
    fills.strings.look register tell = .unknownRegister := by
  rw [Strings.look, find?_strings, unknown]
  rfl

def sorted (fills : Fills) : List Filled :=
  (fills.map Prod.snd).mergeSort fun x y => compareBytes x.content y.content ≠ .gt

theorem strings_sorted (fills : Fills) : fills.strings.sorted = fills.sorted.map Filled.content := by
  rw [Strings.sorted, strings, Table.map_snd_mapValues, sorted]
  exact (List.map_mergeSort (f := Filled.content) fun _ _ _ _ => rfl).symm

theorem holdings_numbered (first : Nat) (fills : List Filled) :
    holdings (Table.numbered first fills) = fills.map Filled.holding := by
  calc holdings (Table.numbered first fills)
      = ((fills.zipIdx first).map Prod.fst).map Filled.holding := by
        simp only [Table.numbered, holdings, List.map_map]
        rfl
    _ = fills.map Filled.holding := by rw [List.zipIdx_map_fst]

end Fills

namespace BufferSession

/-- The buffers of a session, and the other blocks of its allocator. -/
structure Keeps (s : BufferSession σ) (fills : Fills) (others : List Holding) : Prop where
  buffers : s.buffers = fills.mapValues Filled.buffer
  holds : s.allocator.Holds (fills.holdings ++ others)

variable {s : BufferSession σ} {fills : Fills} {others : List Holding} {register : Register}

theorem Keeps.find?_eq (keeps : s.Keeps fills others) (register : Register) :
    s.buffers.find? register = (fills.find? register).map Filled.buffer := by
  rw [keeps.buffers]
  exact Table.find?_mapValues _ _ _

theorem Keeps.focus (keeps : s.Keeps fills others) {f : Filled} (found : fills.find? register = some f) :
    s.allocator.Holds (f.holding :: (Fills.holdings (fills.erase register) ++ others)) :=
  keeps.holds.perm ((Fills.perm_holdings found).append_right others)

/-- A buffer in the place of another one. -/
theorem Keeps.set (keeps : s.Keeps fills others) {f g : Filled} (found : fills.find? register = some f)
    {a : Allocator σ}
    (holds : a.Holds (g.holding :: (Fills.holdings (fills.erase register) ++ others))) :
    Keeps ⟨a, s.buffers.modify register fun _ => g.buffer⟩ (fills.modify register fun _ => g) others := by
  refine ⟨?_, holds.perm (((Fills.perm_holdings_set found g).append_right others).symm)⟩
  rw [keeps.buffers]
  exact (Table.mapValues_set found Filled.buffer (fun _ => g.buffer) rfl).symm

variable [Source σ]

/-- A step led from this allocator to another one, told one of these values, and did to the buffers what makes
the byte strings of them that go with the value. -/
def Leaves (a : Allocator σ) (others : List Holding) (next : BufferValue → Strings) (told : BufferValue → Prop)
    (given : BufferValue × BufferSession σ) : Prop :=
  a.Leads given.2.allocator ∧
    (∃ later : Fills, given.2.Keeps later others ∧ later.strings = next given.1) ∧ told given.1

/-- A step led from this allocator to another one, did to the buffers what makes these byte strings of them, and
told this. -/
def Refines (a : Allocator σ) (others : List Holding) (strings : Strings) (tell : Nat → BufferValue) :
    BufferValue × BufferSession σ → Prop :=
  Leaves a others (fun _ => strings) fun value => ∃ avail, value = tell avail

/-- **A step that changes one buffer** does to it what it does to its byte string. -/
theorem Keeps.change (keeps : s.Keeps fills others) {reason : Halt → Prop} {change : Bytes → Bytes}
    {edit : Buffer → Allocator σ → Except Halt (Buffer × Allocator σ)}
    (edits : ∀ {f : Filled} {rest : List Holding}, fills.find? register = some f →
      s.allocator.Holds (f.holding :: rest) →
        Ends reason (Filled.Becomes s.allocator rest (change f.content)) (edit f.buffer s.allocator)) :
    Ends reason
      (Refines s.allocator others (fills.strings.modify register change) fun avail =>
        fills.strings.look register fun bytes => .state (Strings.seen avail (change bytes)))
      (s.change register edit) := by
  unfold BufferSession.change
  rw [keeps.find?_eq]
  cases found : fills.find? register with
  | none =>
    have unknown : fills.strings.find? register = none := by rw [Fills.find?_strings, found]; rfl
    refine .ok ⟨.refl, ⟨fills, keeps, (Table.modify_of_find?_none unknown change).symm⟩, 0, ?_⟩
    exact (Fills.look_strings_none found _).symm
  | some f =>
    refine (edits found (keeps.focus found)).bind fun given edited => ?_
    obtain ⟨leads, g, same, content, holds⟩ := edited
    obtain ⟨b, a⟩ := given
    obtain rfl : g.buffer = b := same
    simp only [Filled.state_eq holds List.mem_cons_self]
    refine .ok ⟨leads, ⟨fills.modify register fun _ => g, keeps.set found holds, ?_⟩, g.buffer.avail, ?_⟩
    · exact Table.mapValues_set found Filled.content change content
    · have told := Fills.look_strings found fun bytes =>
        .state (Strings.seen g.buffer.avail (change bytes))
      rw [← content] at told
      exact told.symm

/-- **A step that looks at one buffer** tells what there is to tell of its byte string. -/
theorem Keeps.inspect (keeps : s.Keeps fills others) {reason : Halt → Prop}
    {tell : Nat → Bytes → BufferValue}
    {look : Buffer → Allocator σ → Except Halt BufferValue}
    (looks : ∀ {f : Filled}, fills.find? register = some f → f.holding ∈ fills.holdings ++ others →
      Ends reason (· = tell f.buffer.avail f.content) (look f.buffer s.allocator)) :
    Ends reason
      (Refines s.allocator others fills.strings fun avail =>
        fills.strings.look register (tell avail))
      (s.inspect register look) := by
  unfold BufferSession.inspect
  rw [keeps.find?_eq]
  cases found : fills.find? register with
  | none =>
    exact .ok ⟨.refl, ⟨fills, keeps, rfl⟩, 0, (Fills.look_strings_none found _).symm⟩
  | some f =>
    refine (looks found (List.mem_append_left others (Fills.holding_mem found))).bind fun value told => ?_
    exact .ok ⟨.refl, ⟨fills, keeps, rfl⟩, f.buffer.avail, told.trans (Fills.look_strings found _).symm⟩

/-- **A step that makes a new buffer** gives back the one whose place it takes. -/
theorem Keeps.store (keeps : s.Keeps fills others) (register : Register) {reason : Halt → Prop}
    {content : Bytes} {made : Except Halt (Buffer × Allocator σ)}
    (makes : Ends reason (Filled.Becomes s.allocator (fills.holdings ++ others) content) made) :
    Ends reason
      (Refines s.allocator others (fills.strings.put register content) fun avail =>
        .state (Strings.seen avail content))
      (s.store register made) := by
  refine makes.bind fun given becomes => ?_
  obtain ⟨leads, g, same, rfl, holds⟩ := becomes
  obtain ⟨b, a⟩ := given
  obtain rfl : g.buffer = b := same
  simp only [keeps.find?_eq, Strings.put, Fills.find?_strings]
  cases found : fills.find? register with
  | none =>
    simp only [Option.map_none, Filled.state_eq holds List.mem_cons_self]
    refine .ok ⟨leads, ⟨insertByKey register g fills, ⟨?_, ?_⟩, ?_⟩, g.buffer.avail, rfl⟩
    · rw [keeps.buffers]
      exact (mapValues_insertByKey Filled.buffer register g fills).symm
    · exact holds.perm (((Fills.perm_holdings_insert register g).append_right others).symm)
    · exact mapValues_insertByKey Filled.content register g fills
  | some old =>
    have swapped : (g.holding :: (fills.holdings ++ others)).Perm
        (old.holding :: g.holding :: (Fills.holdings (fills.erase register) ++ others)) :=
      (((Fills.perm_holdings found).append_right others).cons _).trans (List.Perm.swap _ _ _)
    obtain ⟨c, dropped, holds, later⟩ := Filled.drop_eq (holds.perm swapped)
    simp only [Option.map_some, dropped, bind, Except.bind, Filled.state_eq holds List.mem_cons_self]
    exact .ok ⟨leads.trans later, ⟨fills.modify register fun _ => g, keeps.set found holds,
      Table.mapValues_set found Filled.content (fun _ => g.content) rfl⟩, g.buffer.avail, rfl⟩

/-- A step does to the buffers what it does to the byte strings, and tells what there is to tell of them, or it
halts for a reason. -/
def Mirrors (s : BufferSession σ) (fills : Fills) (others : List Holding) (step : BufferStep) : Prop :=
  Ends (step.Stops s.allocator fills.strings)
    (Refines s.allocator others (fills.strings.proceed step) (fills.strings.tell step))
    (s.perform step)

/-- A step does to the buffers what it does to the byte strings, as far as it came, and tells how far that was; or
it halts for a reason. -/
def Follows (s : BufferSession σ) (fills : Fills) (others : List Holding) (step : BufferStep) : Prop :=
  Ends (step.Stops s.allocator fills.strings)
    (Leaves s.allocator others (fills.strings.next step) (step.Answers s.allocator fills.strings))
    (s.perform step)

theorem Mirrors.follows {step : BufferStep} (mirrors : s.Mirrors fills others step) : s.Follows fills others step := by
  refine mirrors.imp (fun _ => id) fun given refines => ?_
  obtain ⟨leads, ⟨later, keeps, same⟩, avail, told⟩ := refines
  refine ⟨leads, ⟨later, keeps, ?_⟩, told ▸ .told avail⟩
  rw [same, told, Strings.next_of_whole _ _ (Strings.whole_tell _ _ _)]

theorem Keeps.drop (keeps : s.Keeps fills others) (register : Register) :
    s.Mirrors fills others (.drop register) := by
  unfold Mirrors
  simp only [perform, keeps.find?_eq]
  cases found : fills.find? register with
  | none =>
    have unknown : fills.strings.find? register = none := by rw [Fills.find?_strings, found]; rfl
    refine .ok ⟨.refl, ⟨fills, keeps, (Table.erase_of_find?_none unknown).symm⟩, 0, ?_⟩
    simp only [Strings.tell, unknown]
    rfl
  | some f =>
    have known : fills.strings.find? register = some f.content := by rw [Fills.find?_strings, found]; rfl
    obtain ⟨a, dropped, holds, leads⟩ := Filled.drop_eq (keeps.focus found)
    simp only [Option.map_some, dropped]
    refine .ok ⟨leads, ⟨fills.erase register, ⟨?_, holds⟩, ?_⟩, 0, ?_⟩
    · rw [keeps.buffers]
      exact (Table.mapValues_erase Filled.buffer register fills).symm
    · exact Table.mapValues_erase Filled.content register fills
    · simp only [Strings.tell, known]
      rfl

/-- What is told of the pieces of a split, each of which fills its buffer. -/
theorem tell_split {bytes separator : Bytes} {tokens : Option (List Filled)}
    (contents : tokens.map (List.map Filled.content) = splitOn bytes separator)
    (full : ∀ new, tokens = some new → ∀ f ∈ new, f.buffer.avail = 0) (strings : Strings) (avail : Nat) :
    strings.tell (.split bytes separator) avail =
      .tokens (tokens.map (List.map fun f => Strings.seen f.buffer.avail f.content)) := by
  simp only [Strings.tell, ← contents]
  refine congrArg _ ?_
  cases tokens with
  | none => rfl
  | some new =>
    refine congrArg some ?_
    show (new.map Filled.content).map (Strings.seen 0) = _
    rw [List.map_map]
    apply List.map_congr_left
    intro f mem
    rw [full new rfl f mem]
    rfl

theorem Keeps.split (keeps : s.Keeps fills others) (bytes separator : Bytes) :
    s.Mirrors fills others (.split bytes separator) := by
  refine (Ends.of_demand rfl (Filled.ends_split keeps.holds bytes separator)).bind fun given split => ?_
  obtain ⟨leads, tokens, buffers, contents, full, holds⟩ := split
  obtain ⟨given, a⟩ := given
  obtain rfl : given = tokens.map (List.map Filled.buffer) := buffers
  have told := tell_split contents full fills.strings 0
  cases tokens with
  | none => exact .ok ⟨leads, ⟨fills, ⟨keeps.buffers, holds⟩, rfl⟩, 0, told.symm⟩
  | some new =>
    have states := Filled.states_eq holds new fun f mem =>
      List.mem_append_left _ (List.mem_map_of_mem mem)
    obtain ⟨b, dropped, holds, later⟩ := Filled.dropAll_eq new holds
    simp only [Option.map_some, states, dropped]
    exact .ok ⟨leads.trans later, ⟨fills, ⟨keeps.buffers, holds⟩, rfl⟩, 0, told.symm⟩

/-- Splits bytes into buffers and keeps them, in front of the others and numbered from `first` on. -/
def keepTokens (s : BufferSession σ) (first : Register) (bytes separator : Bytes) :
    Except Halt (BufferValue × BufferSession σ) := do
  let (tokens, allocator) ← Buffer.split s.allocator bytes separator
  match tokens with
  | none => return (.tokens none, { s with allocator })
  | some tokens =>
    return (.tokens (some (← Buffer.states allocator tokens)),
      { allocator, buffers := Table.numbered first tokens ++ s.buffers })

/-- Bytes are split into buffers, which are kept. -/
theorem Keeps.keepTokens (keeps : s.Keeps fills others) (first : Register) (bytes separator : Bytes) :
    Ends ((BufferStep.split bytes separator).Stops s.allocator fills.strings)
      (Leaves s.allocator others (fills.strings.settle (fills.strings.keep first bytes separator))
        ((BufferStep.split bytes separator).Answers s.allocator fills.strings))
      (s.keepTokens first bytes separator) := by
  refine (Ends.of_demand rfl (Filled.ends_split keeps.holds bytes separator)).bind fun given split => ?_
  obtain ⟨leads, tokens, buffers, contents, full, holds⟩ := split
  obtain ⟨given, a⟩ := given
  obtain rfl : given = tokens.map (List.map Filled.buffer) := buffers
  have told := tell_split contents full fills.strings 0
  unfold Strings.keep
  rw [← contents]
  cases tokens with
  | none => exact .ok ⟨leads, ⟨fills, ⟨keeps.buffers, holds⟩, rfl⟩, told ▸ .told 0⟩
  | some new =>
    have states := Filled.states_eq holds new fun f mem =>
      List.mem_append_left _ (List.mem_map_of_mem mem)
    simp only [Option.map_some, states]
    refine .ok ⟨leads, ⟨Table.numbered first new ++ fills, ⟨?_, ?_⟩, ?_⟩, told ▸ .told 0⟩
    · rw [Table.mapValues_append, Table.mapValues_numbered, keeps.buffers]
    · rw [Fills.holdings, List.map_append, List.append_assoc]
      show a.Holds (Fills.holdings (Table.numbered first new) ++ _)
      rw [Fills.holdings_numbered]
      exact holds
    · rw [Fills.strings, Table.mapValues_append, Table.mapValues_numbered]
      rfl

theorem Keeps.sort (keeps : s.Keeps fills others) :
    s.Mirrors fills others .sort := by
  unfold Mirrors
  have buffers : s.buffers.map Prod.snd = (fills.map Prod.snd).map Filled.buffer := by
    rw [keeps.buffers, Table.map_snd_mapValues]
  have read := Filled.withContents_eq keeps.holds (fills.map Prod.snd) fun f mem => by
    obtain ⟨entry, there, rfl⟩ := List.mem_map.1 mem
    exact List.mem_append_left _ (List.mem_map_of_mem (f := fun entry : Register × Filled => entry.2.holding) there)
  have sorted : ((fills.map Prod.snd).map fun f => (f.content, f.buffer)).mergeSort
      (fun x y => decide (compareBytes x.1 y.1 ≠ .gt)) =
        fills.sorted.map fun f => (f.content, f.buffer) :=
    (List.map_mergeSort (f := fun f : Filled => (f.content, f.buffer)) fun _ _ _ _ => rfl).symm
  have order : (Fills.holdings (Table.numbered 0 fills.sorted)).Perm fills.holdings := by
    rw [Fills.holdings_numbered, Fills.holdings_eq]
    exact (List.mergeSort_perm _ _).map Filled.holding
  simp only [perform, buffers, read, bind, Except.bind, sorted]
  refine .ok ⟨.refl, ⟨Table.numbered 0 fills.sorted, ⟨?_, ?_⟩, ?_⟩, 0, ?_⟩
  · rw [Table.mapValues_numbered]
    simp only [Table.numbered, List.zipIdx_map, List.map_map]
    rfl
  · exact keeps.holds.perm ((order.append_right others).symm)
  · rw [Fills.strings, Table.mapValues_numbered, ← Fills.strings_sorted]
    rfl
  · simp only [Strings.tell, Fills.strings_sorted, List.map_map]
    rfl

/-- A step that edits one buffer does to it what it does to its byte string. -/
theorem Keeps.edits (keeps : s.Keeps fills others) {step : BufferStep} {change : Bytes → Bytes}
    (edit : Buffer → Allocator σ → Except Halt (Buffer × Allocator σ))
    (of : step.edit = some (register, change)) (performed : s.perform step = s.change register edit)
    (edits : ∀ {f : Filled} {rest : List Holding}, fills.find? register = some f →
      s.allocator.Holds (f.holding :: rest) → Ends (step.Stops s.allocator fills.strings)
        (Filled.Becomes s.allocator rest (change f.content)) (edit f.buffer s.allocator)) :
    s.Mirrors fills others step := by
  unfold Mirrors
  obtain ⟨proceeds, tells⟩ := Strings.of_edit fills.strings of
  rw [performed, proceeds]
  refine (keeps.change edits).imp (fun _ => id) fun given refines => ?_
  obtain ⟨leads, later, avail, told⟩ := refines
  exact ⟨leads, later, avail, told.trans (tells avail).symm⟩

/-- A step that only looks at one buffer tells what there is to tell of its byte string. -/
theorem Keeps.looks (keeps : s.Keeps fills others) {step : BufferStep}
    (look : Buffer → Allocator σ → Except Halt BufferValue) (tell : Nat → Bytes → BufferValue)
    (same : fills.strings.proceed step = fills.strings)
    (tells : ∀ avail, fills.strings.tell step avail = fills.strings.look register (tell avail))
    (performed : s.perform step = s.inspect register look)
    (looks : ∀ {f : Filled}, fills.find? register = some f → f.holding ∈ fills.holdings ++ others →
      Ends (step.Stops s.allocator fills.strings) (· = tell f.buffer.avail f.content)
        (look f.buffer s.allocator)) :
    s.Mirrors fills others step := by
  unfold Mirrors
  rw [performed, same]
  refine (keeps.inspect looks).imp (fun _ => id) fun given refines => ?_
  obtain ⟨leads, later, avail, told⟩ := refines
  exact ⟨leads, later, avail, told.trans (tells avail).symm⟩

theorem Keeps.reads (keeps : s.Keeps fills others) {step : BufferStep} (tell : Bytes → BufferValue)
    (same : fills.strings.proceed step = fills.strings)
    (tells : ∀ avail, fills.strings.tell step avail = fills.strings.look register tell)
    (performed : s.perform step = s.inspect register fun b a => do return tell (← b.bytes a)) :
    s.Mirrors fills others step := by
  refine keeps.looks _ (fun _ => tell) same tells performed fun _ mem => ?_
  simp only [Filled.bytes_eq keeps.holds mem]
  exact .ok rfl

theorem Keeps.clone (keeps : s.Keeps fills others) (register source : Register) :
    s.Mirrors fills others (.clone register source) := by
  unfold Mirrors
  simp only [BufferSession.perform, keeps.find?_eq, Strings.proceed, Fills.find?_strings]
  cases found : fills.find? source with
  | none => exact .ok ⟨.refl, ⟨fills, keeps, rfl⟩, 0, (Fills.look_strings_none found _).symm⟩
  | some f =>
    have mem := List.mem_append_left others (Fills.holding_mem found)
    have asks : (BufferStep.clone register source).demand fills.strings = some f.content.length :=
      congrArg some (Fills.lengthOf_strings found)
    have stored := keeps.store register (Ends.of_demand asks (Filled.ends_clone keeps.holds mem))
    refine stored.imp (fun _ => id) fun given refines => ?_
    obtain ⟨leads, later, avail, told⟩ := refines
    refine ⟨leads, later, avail, told.trans ?_⟩
    exact (Fills.look_strings found fun bytes => .state (Strings.seen avail bytes)).symm

theorem Keeps.get (keeps : s.Keeps fills others) (register : Register) (index : Nat) :
    s.Mirrors fills others (.get register index) := by
  refine keeps.looks (fun b a => do return .byte (← b.get a index))
    (fun _ bytes => .byte (bytes.getD index 0)) rfl (fun _ => rfl) rfl fun {f} found mem => ?_
  have sized := f.sized
  have capacity := f.length_le_capacity
  by_cases inside : index < f.buffer.length
  · have read := keeps.holds.read mem (show index + 1 ≤ f.cell.size by omega)
    rw [f.part_content inside] at read
    simp only [Buffer.get, inside, if_true, read]
    refine .ok ?_
    have there : index < f.content.length := f.measured ▸ inside
    rw [List.drop_eq_getElem_cons there, List.getD_eq_getElem?_getD, List.getElem?_eq_getElem there]
    rfl
  · simp only [Buffer.get, inside, if_false]
    exact .error (Fills.stops_index found rfl (Nat.le_of_not_lt inside))

theorem Keeps.compare (keeps : s.Keeps fills others) (first second : Register) :
    s.Mirrors fills others (.compare first second) := by
  unfold Mirrors
  simp only [BufferSession.perform, keeps.find?_eq]
  cases found : fills.find? first with
  | none => exact .ok ⟨.refl, ⟨fills, keeps, rfl⟩, 0, (Fills.look_strings_none found _).symm⟩
  | some f =>
    have told := Fills.look_strings found fun x =>
      fills.strings.look second fun y => .order (compareBytes x y)
    cases other : fills.find? second with
    | none =>
      refine .ok ⟨.refl, ⟨fills, keeps, rfl⟩, 0, ?_⟩
      exact (told.trans (Fills.look_strings_none other _)).symm
    | some g =>
      have first_bytes := Filled.bytes_eq keeps.holds (List.mem_append_left others (Fills.holding_mem found))
      have second_bytes := Filled.bytes_eq keeps.holds (List.mem_append_left others (Fills.holding_mem other))
      simp only [Option.map_some, first_bytes, second_bytes]
      refine .ok ⟨.refl, ⟨fills, keeps, rfl⟩, 0, ?_⟩
      exact (told.trans (Fills.look_strings other _)).symm

theorem Keeps.borrow (keeps : s.Keeps fills others) (register : Register) (size : Nat) :
    s.Mirrors fills others (.borrow register size) := by
  unfold Mirrors
  simp only [BufferSession.perform, keeps.find?_eq]
  cases found : fills.find? register with
  | none => exact .ok ⟨.refl, ⟨fills, keeps, rfl⟩, 0, (Fills.look_strings_none found _).symm⟩
  | some f =>
    refine ((keeps.holds.allocate size none).imp (fun _ fails => ?_) fun _ => id).bind fun given lent => ?_
    · exact .demand rfl (.fails (fails.after .refl (by omega)))
    obtain ⟨leads, node, bytes, holds⟩ := lent
    obtain ⟨a, returned, holds, later⟩ := holds.release
    simp only [Allocator.free, returned]
    refine .ok ⟨leads.trans later, ⟨fills, ⟨keeps.buffers, holds⟩, rfl⟩, 0, ?_⟩
    exact (Fills.look_strings found fun _ => .unit).symm

/-- **Pieces are appended**, all of them, or those before one that is not. -/
theorem Keeps.appendAll (keeps : s.Keeps fills others) (register : Register) (pieces : List Bytes) :
    s.Follows fills others (.appendAll register pieces) := by
  unfold Follows
  simp only [BufferSession.perform, BufferSession.appendTo, keeps.find?_eq]
  cases found : fills.find? register with
  | none =>
    have unknown : fills.strings.find? register = none := by rw [Fills.find?_strings, found]; rfl
    have told := Fills.look_strings_none found fun bytes =>
      .state (Strings.seen 0 (bytes ++ pieces.flatten))
    refine .ok ⟨.refl, ⟨fills, keeps, ?_⟩, told ▸ .told 0⟩
    exact (Table.modify_of_find?_none unknown (· ++ pieces.flatten)).symm
  | some f =>
    have appends := Filled.appends pieces (keeps.focus found)
    simp only [Option.map_some]
    generalize f.buffer.appendPieces s.allocator pieces = came at appends ⊢
    obtain ⟨b, a, count, halt⟩ := came
    obtain ⟨leads, g, same, content, holds⟩ := appends.becomes
    obtain rfl : g.buffer = b := same
    have kept := keeps.set found holds
    have strings (appended : Bytes) (eq : g.content = f.content ++ appended) :
        Fills.strings (fills.modify register fun _ => g) = fills.strings.modify register (· ++ appended) :=
      Table.mapValues_set found Filled.content (· ++ appended) eq
    cases halt with
    | none =>
      obtain rfl : count = pieces.length := appends.whole rfl
      rw [List.take_length] at content
      have told := Fills.look_strings found fun bytes =>
        .state (Strings.seen g.buffer.avail (bytes ++ pieces.flatten))
      rw [← content] at told
      simp only [Filled.state_eq holds List.mem_cons_self]
      exact .ok ⟨leads, ⟨_, kept, strings _ content⟩, told ▸ .told g.buffer.avail⟩
    | some halt =>
      obtain ⟨short, stops⟩ := appends.cut halt rfl
      have stops : (BufferStep.appendAll register pieces).Stops s.allocator fills.strings halt := by
        refine .demand ?_ stops
        rw [BufferStep.demand, Fills.lengthOf_strings found, List.length_append]
      simp only
      split
      · exact .error stops
      · exact .ok ⟨leads, ⟨_, kept, strings _ content⟩, .cut rfl short stops⟩

/-- **A step does to the buffers what it does to the byte strings**, whichever it is. -/
theorem Keeps.perform (keeps : s.Keeps fills others) (step : BufferStep) :
    s.Follows fills others step := by
  -- All steps but one come to their end where they do not halt.
  have whole (mirrors : s.Mirrors fills others step) : s.Follows fills others step := mirrors.follows
  cases step with
  | ofBytes register bytes =>
    exact whole <| keeps.store register
      ((Filled.ends_ofBytes keeps.holds bytes).imp (fun _ => .demand rfl) fun _ => And.left)
  | zeros register length => exact whole <| keeps.store register (.of_demand rfl (Filled.ends_zeros keeps.holds length))
  | empty register =>
    exact whole <| keeps.store register
      ((Filled.ends_ofBytes keeps.holds []).imp (fun _ => .demand rfl) fun _ => And.left)
  | clone register source => exact whole <| keeps.clone register source
  | append register bytes =>
    refine whole <| keeps.edits (fun b a => b.append a bytes) rfl rfl fun found h => ?_
    refine .of_demand ?_ (Filled.ends_append h bytes)
    rw [BufferStep.demand, Fills.lengthOf_strings found, List.length_append]
  | appendAll register pieces => exact keeps.appendAll register pieces
  | replace register bytes =>
    exact whole <| keeps.edits (fun b a => b.replace a bytes) rfl rfl fun _ h =>
      .of_demand rfl (Filled.ends_replace h bytes)
  | trim register ends =>
    exact whole <| keeps.edits (fun b a => b.trim a ends) rfl rfl fun _ h => (Filled.edits_trim h ends).ends _
  | range register start stop =>
    exact whole <| keeps.edits (fun b a => b.range a start stop) rfl rfl fun _ h =>
      (Filled.edits_range h start stop).ends _
  | toLower register =>
    exact whole <| keeps.edits Buffer.toLower rfl rfl fun _ h =>
      (Filled.edits_mapContent h fun _ => List.length_map _).ends _
  | toUpper register =>
    exact whole <| keeps.edits Buffer.toUpper rfl rfl fun _ h =>
      (Filled.edits_mapContent h fun _ => List.length_map _).ends _
  | updateLength register =>
    exact whole <| keeps.edits Buffer.updateLength rfl rfl fun _ h => (Filled.edits_updateLength h).ends _
  | reserve register more =>
    refine whole <| keeps.edits (fun b a => b.reserve a more) rfl rfl fun found h => ?_
    refine .of_demand (congrArg (some <| · + more) (Fills.lengthOf_strings found)) ?_
    refine (Filled.ends_reserve h more).imp (fun _ => id) fun given reserved => ?_
    obtain ⟨leads, g, same, content, -, holds⟩ := reserved
    exact ⟨leads, g, same, content, holds⟩
  | set register index value =>
    refine whole <| keeps.edits (fun b a => b.set a index value) rfl rfl fun {f rest} found h => ?_
    by_cases inside : index < f.buffer.length
    · exact (Filled.edits_set h inside value).ends _
    · simp only [Buffer.set, inside, if_false]
      exact .error (Fills.stops_index found rfl (Nat.le_of_not_lt inside))
  | reverse register =>
    exact whole <| keeps.edits Buffer.reverse rfl rfl fun _ h =>
      (Filled.edits_mapContent h fun _ => List.length_reverse).ends _
  | drop register => exact whole <| keeps.drop register
  | split bytes separator => exact whole <| keeps.split bytes separator
  | get register index => exact whole <| keeps.get register index
  | content register => exact whole <| keeps.reads .bytes rfl (fun _ => rfl) rfl
  | compare first second => exact whole <| keeps.compare first second
  | equals register bytes =>
    exact whole <| keeps.reads (fun content => .flag (content = bytes)) rfl (fun _ => rfl) rfl
  | borrow register size => exact whole <| keeps.borrow register size
  | describe register =>
    refine whole <| keeps.looks (fun b a => do return .text (← b.describe a))
      (fun avail bytes => .text (Strings.described avail bytes)) rfl (fun _ => rfl) rfl fun _ mem => ?_
    simp only [Filled.describe_eq keeps.holds mem]
    exact .ok rfl
  | display register =>
    refine whole <| keeps.looks (fun b a => do return .text (← b.display a))
      (fun _ bytes => .text (Text.Utf8.lossy bytes)) rfl (fun _ => rfl) rfl fun _ mem => ?_
    simp only [Filled.display_eq keeps.holds mem]
    exact .ok rfl
  | sort => exact whole <| keeps.sort

/-! ## Steps that halt -/

/-- What a caller gets from something that is done: the value and the session after it, or the halt and the
session as it was, also where the source breaks down. -/
def settle (s : BufferSession σ) (done : Except Halt (BufferValue × BufferSession σ)) :
    BufferValue × BufferSession σ :=
  match (do let (value, after) ← done; after.allocator.unlessBroken (value, after)) with
  | .ok (value, after) => (value, after)
  | .error halt => (.halted halt, s)

theorem step_eq_settle (s : BufferSession σ) (step : BufferStep) :
    ((s.step step).1.value, (s.step step).2) = s.settle (s.perform step) := by
  unfold BufferSession.step settle
  show _ = match s.attempt step with
    | .ok (value, after) => (value, after)
    | .error halt => (.halted halt, s)
  cases s.attempt step with
  | ok given => rfl
  | error halt => rfl

/-- Why something that is done halts: for one of its own reasons, or because the source breaks down. -/
inductive Halts (reason : Halt → Prop) (done : Except Halt (BufferValue × BufferSession σ)) : Halt → Prop
  | stops {halt : Halt} (ended : done = .error halt) (because : reason halt) : Halts reason done halt
  | broken {halt : Halt} {value : BufferValue} {after : BufferSession σ}
    (ended : done = .ok (value, after))
    (broken : Source.breakdown? after.allocator.arena.source = some halt) : Halts reason done halt

/-- **What is done to the buffers is done to the byte strings**, and what there is to tell of them is told; or
it halts for a reason, and nothing changes. -/
theorem Keeps.settle {reason : Halt → Prop} {next : BufferValue → Strings} {told : BufferValue → Prop}
    {done : Except Halt (BufferValue × BufferSession σ)} (keeps : s.Keeps fills others)
    (ends : Ends reason (Leaves s.allocator others next told) done)
    (halted : ∀ halt, next (.halted halt) = fills.strings) :
    (∃ later : Fills, (s.settle done).2.Keeps later others ∧ later.strings = next (s.settle done).1) ∧
      (told (s.settle done).1 ∨ ∃ halt, Halts reason done halt ∧ s.settle done = (.halted halt, s)) := by
  cases ended : done with
  | error halt =>
    rw [ended] at ends
    cases ends with
    | error because =>
      exact ⟨⟨fills, keeps, (halted halt).symm⟩, .inr ⟨halt, .stops rfl because, rfl⟩⟩
  | ok given =>
    rw [ended] at ends
    obtain ⟨value, after⟩ := given
    cases ends with
    | ok leaves =>
      obtain ⟨-, ⟨later, kept, same⟩, told⟩ := leaves
      cases broke : Source.breakdown? after.allocator.arena.source with
      | some halt =>
        have settled : s.settle (.ok (value, after)) = (.halted halt, s) := by
          simp only [BufferSession.settle, bind, Except.bind, Allocator.unlessBroken, broke]
        rw [settled]
        exact ⟨⟨fills, keeps, (halted halt).symm⟩, .inr ⟨halt, .broken rfl broke, rfl⟩⟩
      | none =>
        have settled : s.settle (.ok (value, after)) = (value, after) := by
          simp only [BufferSession.settle, bind, Except.bind, Allocator.unlessBroken, broke]
        rw [settled]
        exact ⟨⟨later, kept, same⟩, .inl told⟩

end BufferSession

end NodeHeap
