import NodeHeap.Memory.Records
import NodeHeap.Memory.Source
import NodeHeap.Memory.Word

/-!
# The system's own memory

The source that stands for the running system where no memory can be bound to a node: requests on
nodes are refused, and memory is resized in place. What else the machine grants depends on the size of a request
and on what is held already. A node is named to the system by a mask with a bit for each node up to it; where
there is no room for the mask the source breaks down.
-/

namespace NodeHeap

/-- The system's memory. -/
structure SystemMemory where
  /-- What the machine grants where so many bytes are held in the end. -/
  grants : (held : Nat) → Grants := fun _ _ => true
  /-- The bytes that are granted. -/
  held : Nat := 0
  broken : Option Halt := none

namespace SystemMemory

/-- The answer to a request for memory in place of what held `old` bytes. -/
def grant (s : SystemMemory) (old new : Nat) : Bool × SystemMemory :=
  let held := s.held - old + new
  if s.grants held new then (true, { s with held }) else (false, s)

/-- The number of words in the mask that names a node. -/
def maskWords (node : NodeId) : Nat := node / (8 * Word.width) + 1

/-- The source after memory was asked for on a node. -/
def named (s : SystemMemory) (size : Nat) (node : NodeId) : SystemMemory :=
  match (s.grant 0 size).1, reserveRecords (s.grants s.held) (maskWords node) Word.width with
  | true, .error halt => { s with broken := s.broken.or (some halt) }
  | _, _ => s

instance : Source SystemMemory where
  allocOnNode s _ size node := (false, s.named size node)
  alloc s _ size := s.grant 0 size
  resize? := some fun s _ old new => s.grant old new
  freeOnNode s _ _ _ := s
  free s _ size := { s with held := s.held - size }
  found _ _ _ := 0
  breakdown? s := s.broken

end SystemMemory

end NodeHeap
