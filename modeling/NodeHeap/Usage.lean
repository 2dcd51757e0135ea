/-!
# Usage accounting

The bytes of live blocks, headers included, as one machine word: additions and subtractions wrap at
`2 ^ 64`, so the word is exact as soon as what is taken off has been put on. Serialized accounting
is switched on once and for all; serialized updates do not overlap, so any number of workers leaves
the same word as their updates in a row (`SharedUsage` takes such updates apart into their steps).
-/

namespace NodeHeap

/-- The bytes in use, and whether updates are serialized. -/
structure Usage where
  used : UInt64 := 0
  serialized : Bool := false
  deriving DecidableEq, Repr

namespace Usage

/-- `n` bytes more. -/
def add (usage : Usage) (n : Nat) : Usage := { usage with used := usage.used + UInt64.ofNat n }

/-- `n` bytes fewer. -/
def sub (usage : Usage) (n : Nat) : Usage := { usage with used := usage.used - UInt64.ofNat n }

/-- Serialized from now on. -/
def serialize (usage : Usage) : Usage := { usage with serialized := true }

/-- The bytes in use as a number. -/
def bytes (usage : Usage) : Nat := usage.used.toNat

/-- One change to a usage word. -/
inductive Step where
  | add (n : Nat)
  | sub (n : Nat)
  | serialize
  /-- `count` workers, each adding and then subtracting, `rounds` times. -/
  | workers (count rounds added subtracted : Nat)
  deriving DecidableEq, Repr

/-- The usage after one change. -/
def step (usage : Usage) : Step → Usage
  | .add n => usage.add n
  | .sub n => usage.sub n
  | .serialize => usage.serialize
  | .workers count rounds added subtracted =>
    Nat.repeat (fun u => (u.add added).sub subtracted) (count * rounds) usage

/-- The usage after each of the changes. -/
def run (usage : Usage) : List Step → List Usage
  | [] => []
  | change :: rest => usage.step change :: run (usage.step change) rest

end Usage

end NodeHeap
