import NodeHeap.Probe.Help
import NodeHeap.Probe.LogFilter
import NodeHeap.Probe.Phases

/-!
# Runs of the probe

A run reads the command line and the filter of its log, makes an allocator as the options say, and goes
through the phases.

* `Probe.phases`: all phases over an allocator.
* `Probe.run`, `Probe.runFiltered`: what a run with given options prints, and how it ends, without and
  with the filter of its log.
* `Probe.respond`: the same for a request of any kind, or a command line that is none.
-/

namespace NodeHeap.Probe

/-- What the probe finds where it runs. -/
structure Machine where
  /-- The node tree at a path. -/
  tree : String → NodeTree
  moments : Moments
  processors : Nat

/-- What a run prints, and how it ends. -/
structure Outcome where
  /-- The exit status; none if the process was aborted. -/
  exit : Option Nat
  lines : List String
  /-- What it says of an error. -/
  complaint : Option String := none
  deriving DecidableEq, Repr

/-- The exit status that a stop leads to. When one of its workers halted, the probe goes on to end by
itself. -/
def Stop.exit : Stop → Option Nat
  | .halted .workerHalted => some 1
  | .halted halt => if halt.endsProcess then none else some 101
  | _ => some 1

def Options.settings (options : Options) : List Setting :=
  [.policy options.policy, .localDefault options.localDefault, .sysfsRoot options.root]

section Phases

open Phase

variable {σ : Type} [Source σ]

/-- All phases, with a number of workers that overlap as the schedule says. -/
def phases (options : Options) (tree : NodeTree) (moments : Moments) (workers : Nat)
    (schedule : List Nat) : Phase σ Unit := do
  topologyPhase tree moments
  let baseline ← used
  basicPhase baseline
  placementPhase ((moments .placement).topology tree) baseline
  crewPhase (moments .workers).grants baseline workers schedule
  bulkPhase (moments .blocks).grants baseline options.blocks options.blockSize
  perform fun a => .ok a.shutdown
  print "All phases passed"

/-- The outcome of phases over an allocator. -/
def outcomeOf (phase : Phase σ Unit) (a : Allocator σ) : Outcome :=
  match (ExceptT.run phase).run { allocator := a } with
  | (.ok (), t) => { exit := some 0, lines := t.lines }
  | (.error stop, t) => { exit := stop.exit, lines := t.lines, complaint := some stop.message }

/-- The outcome of a run that ends before anything is printed. -/
def stopped (stop : Stop) : Outcome :=
  { exit := stop.exit, lines := [], complaint := some stop.message }

/-- The outcome of a run that had something to complain of first. -/
def Outcome.after (outcome : Outcome) (complaints : List String) : Outcome :=
  match complaints ++ outcome.complaint.toList with
  | [] => outcome
  | all => { outcome with complaint := some ("\n".intercalate all) }

/-- What a run with given options prints, and how it ends. -/
def run (machine : Machine) (source : σ) (schedule : List Nat) (options : Options) : Outcome :=
  let tree := machine.tree options.root
  match Config.build {} options.settings with
  | .error e => stopped (.refused "invalid allocator configuration" e)
  | .ok config =>
    match Allocator.install none ((machine.moments .summary).topology tree) source config with
    | .error halt => stopped (.halted halt)
    | .ok (.error e, _) => stopped (.refused "failed to install allocator" e)
    | .ok (.ok (), none) => stopped (.refused "failed to install allocator" .alreadyInstalled)
    | .ok (.ok (), some a) =>
      outcomeOf
        (phases options tree machine.moments (options.threads.getD machine.processors) schedule) a

/-- What a run prints that reads the filter of its log first, and how it ends. -/
def runFiltered (machine : Machine) (source : σ) (schedule : List Nat) (options : Options) : Outcome :=
  let filter := LogFilter.read options.logFilter
  match filter.halt with
  | some halt => (stopped (.halted halt)).after filter.complaints
  | none => (run machine source schedule options).after filter.complaints

/-- The outcome that a command line leads to. -/
def respond (machine : Machine) (source : σ) (arguments : List String) : Outcome :=
  match Request.ofArguments arguments with
  | .error fault => { exit := some 2, lines := [], complaint := some fault.report }
  | .ok .help => { exit := some 0, lines := helpLines }
  | .ok .version => { exit := some 0, lines := [versionLine] }
  | .ok (.run options) => runFiltered machine source [] options

end Phases

end NodeHeap.Probe
