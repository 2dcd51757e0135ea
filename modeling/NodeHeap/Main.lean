import NodeHeap.Memory.System
import NodeHeap.Probe.Run

/-!
# The probe as a program

Reads the command line, looks at the machine, and prints what the probe answers. Nodes are looked for
by id, below the largest count of nodes that a kernel is built for.
-/

namespace NodeHeap.Probe.Program

/-- One more than the largest node id that is looked for. -/
def nodeLimit : Nat := 1024

def abortStatus : Nat := 134

/-- The text of a file, if it can be read. -/
def readText? (path : String) : IO (Option String) := do
  try
    return some (← IO.FS.readFile path)
  catch _ =>
    return none

/-- A file that may be there and may hold text. -/
def readFile (path : String) : IO TextFile := do
  match ← readText? path with
  | some content => return .text content
  | none => return .missing

/-- The entry of a node in the tree at `root`, if one of its files can be read. -/
def readNode? (root : String) (node : NodeId) : IO (Option Entry) := do
  let name := NodeTree.nameOfNode node
  let cpulist ← readFile s!"{root}/{name}/{cpulistName}"
  let distance ← readFile s!"{root}/{name}/{distanceName}"
  if cpulist ≠ .missing || distance ≠ .missing then
    return some { name := some name, kind := .directory { cpulist, distance } }
  else return none

/-- What lies at `root` where no node is found. -/
def readEmpty (root : String) : IO NodeTree := do
  try
    let _ ← IO.FS.readFile root
    return .plainFile
  catch
    | .noFileOrDirectory _ _ _ => return .missing
    | _ => return .directory []

def readTree (root : String) : IO NodeTree := do
  let entries ← (List.range nodeLimit).filterMapM (readNode? root)
  if entries.isEmpty then readEmpty root else return .directory entries

/-- The processor that the program runs on: the field after 36 others behind the program's name. -/
def readProcessor : IO (Option CpuId) := do
  let status := ((← readText? "/proc/self/stat").getD "").toList
  let fields := Text.words (status.reverse.takeWhile (· ≠ ')')).reverse
  return fields[36]?.bind (Text.Decimal.parse? wordLimit)

def readProcessors : IO Nat := do
  let online := (← readText? "/sys/devices/system/cpu/online").getD ""
  return max 1 (CpuList.parse online.toList).length

/-- What the probe finds now, whenever it looks. Memory for records of its own is granted. -/
def readMoments : IO Moments := do
  let cpu ← readProcessor
  return fun _ => { cpu, grants := fun _ => true }

/-- What the probe finds when it is to look at the tree at `root`. -/
def readMachine (root : String) : IO Machine := do
  let tree ← readTree root
  return { tree := fun _ => tree, moments := ← readMoments, processors := ← readProcessors }

/-- The machine that a command line asks about. -/
def machineFor (arguments : List String) : IO Machine :=
  match Request.ofArguments arguments with
  | .ok (.run options) => readMachine options.root
  | _ => return { tree := fun _ => .missing, moments := ← readMoments, processors := ← readProcessors }

end NodeHeap.Probe.Program

/-- Prints what the probe answers to a command line. -/
def main (arguments : List String) : IO UInt32 := do
  let machine ← NodeHeap.Probe.Program.machineFor arguments
  let outcome := NodeHeap.Probe.respond machine ({} : NodeHeap.SystemMemory) arguments
  for line in outcome.lines do
    IO.println line
  match outcome.complaint with
  | some complaint => IO.eprintln complaint
  | none => pure ()
  return (outcome.exit.getD NodeHeap.Probe.Program.abortStatus).toUInt32
