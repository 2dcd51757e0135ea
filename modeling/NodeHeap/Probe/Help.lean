import NodeHeap.Probe.Options

/-!
# The probe's help

The help lists the options with what they do, in two columns, and the default of each option that has
one.
-/

namespace NodeHeap.Probe

def programName : String := "numalloc-probe"

/-- The program and its version. -/
def versionLine : String := programName ++ " 0.1.0"

namespace Opt

/-- What an option does. -/
def about : Opt → String
  | root => "Root of the sysfs node tree"
  | policy => "Placement policy (default, distance-first, round-robin, balanced)"
  | localDefault => "Use the caller's node as default node"
  | threads => "Worker threads for the thread-safety phase [default: number of CPUs]"
  | blocks => "Blocks allocated in the performance phase"
  | blockSize => "Size of each block in the performance phase"
  | logLevel => "Log level"
  | help => "Print help"
  | version => "Print version"

/-- The value of an option that is not given, if it is the same everywhere. -/
def default? : Opt → Option String
  | root => some ({} : Options).root
  | policy => some ({} : Options).policy.name
  | blocks => some (toString ({} : Options).blocks)
  | blockSize => some (toString ({} : Options).blockSize)
  | logLevel => some ({} : Options).logLevel
  | _ => none

/-- The left column: the letter, if there is one, and the name. -/
def left (o : Opt) : String :=
  match o.letter? with
  | some letter => String.ofList [' ', ' ', '-', letter, ',', ' '] ++ o.usage
  | none => "      " ++ o.usage

/-- The right column. -/
def right (o : Opt) : String :=
  o.about ++
    match o.default? with
    | some value => s!" [default: {value}]"
    | none => ""

end Opt

/-- The width of the left column: two blanks more than its longest entry. -/
def leftWidth : Nat := ((Opt.all.map fun o => o.left.length).foldl max 0) + 2

/-- The lines of the help. -/
def helpLines : List String :=
  ["Diagnostics harness for the numalloc allocator", "", s!"Usage: {programName} [OPTIONS]", "",
    "Options:"] ++
    Opt.all.map fun o => o.left.pushn ' ' (leftWidth - o.left.length) ++ o.right

end NodeHeap.Probe
