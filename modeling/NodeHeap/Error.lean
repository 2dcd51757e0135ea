import NodeHeap.Word

/-!
# Errors and halts

An `AllocError` is an answer: the caller gets it and goes on. A `Halt` is the end of a call that does
not return: what the call had done so far is given up. `message` is the wording of each.
-/

namespace NodeHeap

/-- What is wrong with a configuration. -/
inductive ConfigFault where
  | unknownPolicy (name : String)
  | exclusiveDefaults
  | emptyRoot
  | other (text : String)
  deriving DecidableEq, Repr

/-- The fault in words. -/
def ConfigFault.message : ConfigFault → String
  | .unknownPolicy name =>
    s!"unknown policy '{name}' (expected one of: default, distance-first, round-robin, balanced)"
  | .exclusiveDefaults => "default_node and local_default are mutually exclusive"
  | .emptyRoot => "sysfs_root must not be empty"
  | .other text => text

/-- What is wrong with a description of a topology. -/
inductive TopologyFault where
  | emptyMatrix
  | raggedRow (row entries expected : Nat)
  | other (text : String)
  deriving DecidableEq, Repr

/-- The fault in words. -/
def TopologyFault.message : TopologyFault → String
  | .emptyMatrix => "distance matrix must not be empty"
  | .raggedRow row entries expected =>
    s!"distance matrix row {row} has {entries} entries, expected {expected}"
  | .other text => text

/-- Why a request was refused. -/
inductive AllocError where
  /-- No source of memory could serve a payload of `size` bytes. -/
  | outOfMemory (size : Nat)
  /-- `node` is not one of the `available` addressable nodes. -/
  | invalidNode (node : NodeId) (available : Nat)
  | invalidConfig (fault : ConfigFault)
  | topology (fault : TopologyFault)
  /-- The process-wide allocator exists already. -/
  | alreadyInstalled
  | io (text : String)
  deriving DecidableEq, Repr

namespace AllocError

/-- The error in words. -/
def message : AllocError → String
  | outOfMemory size => s!"Out of memory trying to allocate {size} bytes"
  | invalidNode node available => s!"Invalid NUMA node: {node} (system has {available} nodes)"
  | invalidConfig fault => "Invalid configuration: " ++ fault.message
  | topology fault => "Topology error: " ++ fault.message
  | alreadyInstalled => "Global allocator already initialized"
  | io text => "I/O error: " ++ text

def isOutOfMemory : AllocError → Bool
  | outOfMemory _ => true
  | _ => false

end AllocError

/-- Why a call did not return. -/
inductive Halt where
  /-- A call that never fails ran out of memory, and the process ends. -/
  | exhausted (size : Nat)
  /-- A buffer was asked to grow past the largest word. -/
  | capacityOverflow
  /-- A sum passed the largest word. -/
  | sumOverflow
  /-- Byte `index` of a buffer of `length` bytes was asked for. -/
  | indexOutOfBounds (length index : Nat)
  /-- Memory was touched that is not part of a live region. -/
  | badAccess
  /-- The program could not get `bytes` bytes for its own records, and the process ends. -/
  | recordsExhausted (bytes : Nat)
  /-- A text was cut at byte `index`, which is inside of a character. -/
  | splitCharacter (index : Nat)
  /-- One of several workers did not return. -/
  | workerHalted
  deriving DecidableEq, Repr

namespace Halt

/-- The halt in words. -/
def message : Halt → String
  | exhausted size => "numalloc: " ++ (AllocError.outOfMemory size).message
  | capacityOverflow => "capacity overflow"
  | sumOverflow => "attempt to add with overflow"
  | indexOutOfBounds length index =>
    s!"index out of bounds: the len is {length} but the index is {index}"
  | badAccess => "invalid memory access"
  | recordsExhausted bytes => s!"memory allocation of {bytes} bytes failed"
  | splitCharacter index => s!"byte index {index} is not a char boundary"
  | workerHalted => "a scoped thread panicked"

/-- Whether the halt ends the process, and not only the call. -/
def endsProcess : Halt → Bool
  | exhausted _ | recordsExhausted _ => true
  | _ => false

/-- The halt of a worker, as it is seen by those who wait for the worker: the end of the process is the
same for all, and of any other halt they learn no more than that there was one. -/
def ofWorker (halt : Halt) : Halt := if halt.endsProcess then halt else workerHalted

end Halt

end NodeHeap
