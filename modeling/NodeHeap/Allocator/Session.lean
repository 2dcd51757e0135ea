import NodeHeap.Allocator.Control
import NodeHeap.Table

/-!
# Sessions with an allocator

A session is an allocator in use: its caller names the blocks it gets, gives steps one after another
and gets an answer to each. A step that halts leaves what it had done by then (`Session.cut`). A name
that is bound again hides the block it stood for, which stays live.

* `Session.step`: one step and its answer.
* `Session.run`: the answers to a list of steps.
-/

namespace NodeHeap

/-- What a caller calls a block. -/
abbrev BlockName := Nat

/-- One step of a session. -/
inductive Step (σ : Type) where
  /-- A new block; `fatal` callers cannot do without it. -/
  | allocate (fatal : Bool) (name : BlockName) (size : Nat) (node : Option NodeId)
  | allocateCopy (name : BlockName) (bytes : Bytes)
  /-- The block `source`, or a new one, with another size, under the name `name`. -/
  | reallocate (fatal : Bool) (source : Option BlockName) (name : BlockName) (size : Nat)
      (node : Option NodeId)
  | free (name : Option BlockName)
  | write (name : BlockName) (start : Nat) (bytes : Bytes)
  | read (name : BlockName) (start length : Nat)
  | info (name : BlockName)
  | setPolicy (policy : Policy)
  | setDefaultNode (node : NodeId)
  | clearDefaultNode
  | resetTopology
  | shutdown
  | serialize
  | policy
  | defaultNode
  | currentNode
  | availability
  | isSerialized
  | ranking
  /-- From now on the topology answers otherwise. -/
  | changeTopology (topology : Topology)
  /-- From now on the source of memory answers otherwise. -/
  | changeSource (change : σ → σ)
  /-- An attempt to replace the process-wide allocator by one with a configuration. -/
  | install (config : Except AllocError Config)

/-- The value that a step answers. -/
inductive Value where
  | unit
  | flag (on : Bool)
  | node (node : Option NodeId)
  | policy (policy : Policy)
  | availability (availability : Availability)
  | ranking (ranking : Ranking)
  | block (size : Nat) (node : Option NodeId)
  | bytes (bytes : Bytes)
  | refused (error : AllocError)
  | halted (halt : Halt)
  /-- The caller named a block that it does not have. -/
  | unknownBlock
  deriving DecidableEq, Repr

/-- The answer to a step. -/
structure Answer where
  value : Value
  used : Nat
  counters : Counters
  /-- The calls to the source that the step made, oldest first. -/
  calls : List Call
  /-- What the step told the log, oldest first. -/
  events : List Event
  deriving DecidableEq, Repr

/-- An allocator in use. -/
structure Session (σ : Type) where
  allocator : Allocator σ
  /-- The blocks the caller holds, by name. -/
  blocks : Table BlockName BlockId := []

namespace Session

variable {σ : Type}

def answering (s : Session σ) (value : Value) (allocator : Allocator σ) : Value × Session σ :=
  (value, { s with allocator })

def describe (a : Allocator σ) (block : BlockId) : Except Halt Value := do
  return .block (← a.usableSize block) (← a.blockNode block)

/-- The answer to a request for a block; a block that was granted gets a name. -/
def granted (s : Session σ) (name : BlockName) :
    Except AllocError BlockId × Allocator σ → Except Halt (Value × Session σ)
  | (.error e, a) => .ok (s.answering (.refused e) a)
  | (.ok block, a) => do
    return (← describe a block, { allocator := a, blocks := s.blocks.insert name block })

variable [Source σ]

/-- A request for a block, by a caller that can or cannot do without it. -/
def request (fatal : Bool) (size : Nat)
    (answer : Except Halt (Except AllocError BlockId × Allocator σ)) :
    Except Halt (Except AllocError BlockId × Allocator σ) := do
  let answer ← answer
  if fatal then
    let (block, a) ← Allocator.orHalt size answer
    return (.ok block, a)
  else return answer

/-- What a step does, unless it halts. -/
def perform (s : Session σ) : Step σ → Except Halt (Value × Session σ)
  | .allocate fatal name size node => do
    s.granted name (← request fatal size (s.allocator.tryAllocate size node))
  | .allocateCopy name bytes => do
    let (block, a) ← s.allocator.allocateCopy bytes
    s.granted name (.ok block, a)
  | .reallocate fatal none name size node => do
    s.granted name (← request fatal size (s.allocator.tryReallocate none size node))
  | .reallocate fatal (some source) name size node =>
    match s.blocks.find? source with
    | none => .ok (.unknownBlock, s)
    | some block => do
      let (answer, a) ← request fatal size (s.allocator.tryReallocate (some block) size node)
      match answer with
      | .error e => return s.answering (.refused e) a
      | .ok _ => granted { s with blocks := s.blocks.erase source } name (answer, a)
  | .free none => do
    return s.answering .unit (← s.allocator.free none)
  | .free (some name) =>
    match s.blocks.find? name with
    | none => .ok (.unknownBlock, s)
    | some block => do
      let allocator ← s.allocator.free (some block)
      return (.unit, { allocator, blocks := s.blocks.erase name })
  | .write name start bytes =>
    match s.blocks.find? name with
    | none => .ok (.unknownBlock, s)
    | some block => do
      let arena ← s.allocator.arena.writePayload block start bytes
      return s.answering .unit { s.allocator with arena }
  | .read name start length =>
    match s.blocks.find? name with
    | none => .ok (.unknownBlock, s)
    | some block => do
      return (.bytes (← s.allocator.arena.readPayload block start length), s)
  | .info name =>
    match s.blocks.find? name with
    | none => .ok (.unknownBlock, s)
    | some block => do
      return (← describe s.allocator block, s)
  | .setPolicy policy => .ok (s.answering .unit (s.allocator.setPolicy policy))
  | .setDefaultNode node => do
    let (answer, a) ← s.allocator.setDefaultNode node
    return s.answering (match answer with
      | .ok () => .unit
      | .error e => .refused e) a
  | .clearDefaultNode => .ok (s.answering .unit s.allocator.clearDefaultNode)
  | .resetTopology => .ok (s.answering .unit s.allocator.resetTopology)
  | .shutdown => .ok (s.answering .unit s.allocator.shutdown)
  | .serialize => .ok (s.answering .unit s.allocator.serialize)
  | .policy => .ok (.policy s.allocator.policy, s)
  | .defaultNode => .ok (.node s.allocator.defaultNode, s)
  | .currentNode => do
    let (node, a) ← s.allocator.currentNode
    return s.answering (.node node) a
  | .availability => do
    let (availability, a) ← s.allocator.epochAvailability
    return s.answering (.availability availability) a
  | .isSerialized => .ok (.flag s.allocator.usage.serialized, s)
  | .ranking => do
    let (ranking, a) ← s.allocator.epochRanking
    return s.answering (.ranking ranking) a
  | .changeTopology topology => .ok (s.answering .unit { s.allocator with topology })
  | .changeSource change =>
    let arena := { s.allocator.arena with source := change s.allocator.arena.source }
    .ok (s.answering .unit { s.allocator with arena })
  | .install (.error e) => .ok (.refused e, s)
  | .install (.ok config) => do
    let a := s.allocator
    let (answer, _) ← Allocator.install (some a) a.topology a.arena.source config
    return (match answer with
      | .ok () => .unit
      | .error e => .refused e, s)

/-- What a list of records, newest first, has gained since it was shorter, oldest first. -/
def since {α : Type} (older newer : List α) : List α :=
  (newer.take (newer.length - older.length)).reverse

/-- The answer that a value makes, given the session before and after. -/
def answer (before after : Session σ) (value : Value) : Answer where
  value
  used := after.allocator.usedBytes
  counters := after.allocator.counters
  calls := since before.allocator.arena.calls after.allocator.arena.calls
  events := since before.allocator.events after.allocator.events

/-- What a step does, unless it halts or the source breaks down. -/
def attempt (s : Session σ) (step : Step σ) : Except Halt (Value × Session σ) := do
  let (value, after) ← s.perform step
  after.allocator.unlessBroken (value, after)

/-- What a step leaves behind that halts. The search for the caller's node comes after the look at the
topology, which is kept; all else that halts has changed nothing before, or takes the process with it. -/
def cut (s : Session σ) (step : Step σ) : Session σ :=
  match step, s.perform step, s.allocator.survey with
  | .currentNode, .error _, .ok (_, allocator) => { s with allocator }
  | _, _, _ => s

/-- One step and its answer. -/
def step (s : Session σ) (step : Step σ) : Answer × Session σ :=
  match s.attempt step with
  | .ok (value, after) => (answer s after value, after)
  | .error halt => (answer s (s.cut step) (.halted halt), s.cut step)

/-- The answers to a list of steps, and the session after them. -/
def run (s : Session σ) : List (Step σ) → List Answer × Session σ
  | [] => ([], s)
  | step :: rest =>
    let (answer, after) := s.step step
    let (answers, last) := after.run rest
    (answer :: answers, last)

end Session

end NodeHeap
