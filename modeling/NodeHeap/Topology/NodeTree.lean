import NodeHeap.Topology.Basic
import NodeHeap.Topology.Bisection
import NodeHeap.Topology.CpuList
import NodeHeap.Topology.Site

/-!
# Topologies read from a node tree

A node tree is a directory with an entry for each memory node, named `node` and the node's id. The
entry holds a list of processors and a row of distances, one for each node present in ascending
order. A row that cannot be read, or that has no word in the right place, leaves the two distances
that are known without it.

Lists of processors are read only where they are asked for, and one with more processors than the machine grants
memory for halts whoever asks for it.
-/

namespace NodeHeap

/-- How many links are followed on one way. -/
def linkLimit : Nat := 40

/-- How far the paths behind the root of a node tree can go. -/
structure Reach where
  /-- How many links they can follow. -/
  hops : Nat := linkLimit
  /-- How many bytes they can have. -/
  room : Nat := Text.Path.limit
  /-- Where they lie. -/
  around : Surroundings := {}
  deriving DecidableEq, Repr

/-- What lies at the root of a node tree. -/
inductive NodeTree where
  | missing
  | plainFile
  | directory (entries : List Entry) (reach : Reach := {})
  deriving DecidableEq, Repr

/-- What comes before a node's id in the name of its entry. -/
def nodeStem : String := "node"

namespace NodeTree

/-- The entries at the root. -/
def entries : NodeTree → List Entry
  | directory entries _ => entries
  | _ => []

/-- How far the paths behind the root can go. -/
def reach : NodeTree → Reach
  | directory _ reach => reach
  | _ => {}

/-- The tree in its surroundings. -/
def site (tree : NodeTree) (around : Surroundings) : Site where
  toSurroundings := around
  top :=
    match tree with
    | missing => .nothing
    | plainFile => .file (some "")
    | directory .. => .directory
  entries := tree.entries

/-- Where a path from the root leads. -/
def placeOf (tree : NodeTree) (parts : List String) : Place :=
  let around := tree.reach.around
  ((tree.site around).follow tree.reach.hops (.directory around.home) parts).1

/-- The node id that an entry's name gives. -/
def nodeOfName? (name : String) : Option NodeId :=
  let text := name.toList
  if nodeStem.toList.isPrefixOf text then
    Text.Decimal.parse? wordLimit (text.drop nodeStem.length)
  else none

/-- The name of the entry of a node. -/
def nameOfNode (node : NodeId) : String := nodeStem ++ toString node

/-- Whether a name at the root, which stands for something of a kind, leads to a directory. -/
def isDirectory (tree : NodeTree) (name : String) (kind : EntryKind) : Bool :=
  name.utf8ByteSize ≤ tree.reach.room &&
    match kind with
    | .directory _ => true
    | .plainFile => false
    | .link _ => (tree.placeOf [name]).isDirectory

/-- The node that an entry stands for, if it leads to a directory and is named for a node. -/
def nodeOfEntry? (tree : NodeTree) (entry : Entry) : Option NodeId := do
  let name ← entry.name
  if tree.isDirectory name entry.kind then nodeOfName? name else none

/-- The nodes that have a directory, ascending. Two names of one id list it twice. -/
def nodes (tree : NodeTree) : List NodeId :=
  (tree.entries.filterMap tree.nodeOfEntry?).mergeSort (· ≤ ·)

/-- Whether nodes are listed. -/
def availability (tree : NodeTree) : Availability :=
  match tree with
  | directory .. => if tree.nodes.isEmpty then .degraded else .available
  | _ => .unavailable

/-- The text of a file of a node, if it can be read. It is looked for under the node's own name. -/
def content? (tree : NodeTree) (node : NodeId) (name : String) : Option String :=
  if (nameOfNode node ++ "/" ++ name).utf8ByteSize ≤ tree.reach.room then
    (tree.placeOf [nameOfNode node, name]).text?
  else none

/-- The processors of a node, in the order of its list. -/
def cpusOfNode (tree : NodeTree) (grants : Grants) (node : NodeId) : Except Halt CpuList := do
  match tree.content? node cpulistName with
  | some text =>
    let cpus := CpuList.parse text.toList
    let _ ← cpus.records grants
    return cpus
  | none => return {}

/-- The first of the given nodes whose list names the processor. -/
def firstWithCpu (tree : NodeTree) (grants : Grants) (cpu : CpuId) : List NodeId → Except Halt (Option NodeId)
  | [] => .ok none
  | node :: rest => do
    let cpus ← tree.cpusOfNode grants node
    if cpus.contains cpu then return some node else tree.firstWithCpu grants cpu rest

/-- The first node whose list names the processor. -/
def nodeOfCpu (tree : NodeTree) (grants : Grants) (cpu : CpuId) : Except Halt (Option NodeId) :=
  tree.firstWithCpu grants cpu tree.nodes

/-- The distances a node's row gives: its words that are numbers below `2 ^ 32`. -/
def distanceRow (tree : NodeTree) (node : NodeId) : List Nat :=
  match tree.content? node distanceName with
  | some text => (Text.words text.toList).filterMap (Text.Decimal.parse? (1 <<< 32))
  | none => []

/-- The distance that the row of `source` gives in the column of `target`, or the one known without
the row. -/
def distance (tree : NodeTree) (source target : NodeId) : Nat :=
  match (bisect? tree.nodes target).bind fun column => (tree.distanceRow source)[column]? with
  | some distance => distance
  | none => if source = target then localDistance else remoteDistance

/-- The node of the caller, if the processor is told that it runs on. -/
def nodeOfCaller (tree : NodeTree) (grants : Grants) : Option CpuId → Except Halt (Option NodeId)
  | some cpu => tree.nodeOfCpu grants cpu
  | none => .ok none

/-- What the tree says about the machine to a caller on a processor. -/
def topology (tree : NodeTree) (grants : Grants) (cpu : Option CpuId) : Topology where
  availability := tree.availability
  maxNode := tree.nodes.getLast?
  nodes := tree.nodes
  callerNode := tree.nodeOfCaller grants cpu
  distance := tree.distance

/-- The lines of the summary: the availability, and each node with the number of its processors. -/
def summaryLines (tree : NodeTree) (grants : Grants) : Except Halt (List String) := do
  let counts ← tree.nodes.mapM fun node => do
    let cpus ← tree.cpusOfNode grants node
    return s!"  Node {node}: {cpus.length} CPUs"
  return s!"Topology: {tree.availability.name}, {tree.nodes.length} nodes" :: counts

/-- The summary as a text. -/
def summary (tree : NodeTree) (grants : Grants) : Except Halt String := do
  return "\n".intercalate (← tree.summaryLines grants)

end NodeTree

end NodeHeap
