import NodeHeap.Error
import NodeHeap.Text.Blank

/-!
# Placement policies

A policy turns what is known at the time of a request into the nodes to try, in order.

* `Policy.name` and `Policy.ofName`: a policy is written by its name and read from any spelling that
  trims, folds and hyphenates to it.
* `Policy.byte` and `Policy.ofByte`: a policy is kept in a byte and read back from it.
* `Policy.targets`: nothing without a topology, else the hint, else what the policy's own
  `strategy` proposes.
-/

namespace NodeHeap

/-- How blocks are placed when the caller gives no hint. -/
inductive Policy where
  /-- On the default node if there is one. -/
  | default
  /-- On the nodes of the ranking, nearest first. -/
  | distanceFirst
  /-- Reserved; places as `default`. -/
  | roundRobin
  /-- Reserved; places as `default`. -/
  | balanced
  deriving DecidableEq, Repr, Inhabited

namespace Policy

/-- The policies in the order of their numbers. -/
def all : List Policy := [default, distanceFirst, roundRobin, balanced]

/-- The policy's name. -/
def name : Policy → String
  | default => "default"
  | distanceFirst => "distance-first"
  | roundRobin => "round-robin"
  | balanced => "balanced"

/-- The policy's number. -/
def number : Policy → Nat
  | default => 0
  | distanceFirst => 1
  | roundRobin => 2
  | balanced => 3

/-- The policy with a number; a number of no policy means `default`. -/
def ofNumber : Nat → Policy
  | 1 => distanceFirst
  | 2 => roundRobin
  | 3 => balanced
  | _ => default

def byte (policy : Policy) : UInt8 := .ofNat policy.number

def ofByte (byte : UInt8) : Policy := ofNumber byte.toNat

/-- ASCII letters in lower case, underscores as hyphens, all else as it is. -/
def foldChar (c : Char) : Char := if c = '_' then '-' else c.toLower

/-- The spelling that is compared with the names. -/
def foldName (spelling : String) : List Char := (Text.trim spelling.toList).map foldChar

/-- The policy that a spelling names. -/
def ofName (spelling : String) : Except AllocError Policy :=
  match all.find? fun policy => policy.name.toList = foldName spelling with
  | some policy => .ok policy
  | none => .error (.invalidConfig (.unknownPolicy spelling))

@[simp] theorem ofByte_byte (policy : Policy) : ofByte policy.byte = policy := by
  cases policy <;> rfl

end Policy

/-- What is known when a block is to be placed. -/
structure PlacementContext where
  /-- The node asked for, if it is addressable. -/
  hint : Option NodeId
  /-- Whether blocks can be placed on nodes at all. -/
  available : Bool
  defaultNode : Option NodeId
  /-- The nodes, nearest first. -/
  ranking : List NodeId
  deriving DecidableEq, Repr

namespace Policy

/-- The default node, if there is one. -/
def defaultStrategy (context : PlacementContext) : List NodeId := context.defaultNode.toList

/-- The whole ranking; without one, what the default strategy proposes. -/
def distanceFirstStrategy (context : PlacementContext) : List NodeId :=
  if context.ranking.isEmpty then defaultStrategy context else context.ranking

/-- Reserved; for now, what the default strategy proposes. -/
def roundRobinStrategy (context : PlacementContext) : List NodeId := defaultStrategy context

/-- Reserved; for now, what the default strategy proposes. -/
def balancedStrategy (context : PlacementContext) : List NodeId := defaultStrategy context

/-- The nodes the policy itself proposes; it looks at neither hint nor availability. -/
def strategy : Policy → PlacementContext → List NodeId
  | default => defaultStrategy
  | distanceFirst => distanceFirstStrategy
  | roundRobin => roundRobinStrategy
  | balanced => balancedStrategy

/-- The nodes to try, in order. With none, the block is placed anywhere. -/
def targets (policy : Policy) (context : PlacementContext) : List NodeId :=
  if context.available then
    match context.hint with
    | some node => [node]
    | none => policy.strategy context
  else []

theorem targets_of_hint (policy : Policy) {context : PlacementContext} {node : NodeId}
    (ha : context.available = true) (hh : context.hint = some node) :
    policy.targets context = [node] := by
  simp [targets, ha, hh]

end Policy

end NodeHeap
