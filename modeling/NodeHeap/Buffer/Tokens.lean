import NodeHeap.Buffer.Basic

/-!
# Splitting and comparing bytes

`splitOn` cuts bytes at each occurrence of a separator that starts at or after the end of the one
before; `compareBytes` orders bytes as a dictionary does. `Buffer.split` puts each piece into a buffer
of its own.
-/

namespace NodeHeap

/-- The pieces of `bytes` from `start` on, where no separator begins before `next`: the scan goes on as long as there
is place for a separator. -/
def piecesFrom (bytes separator : Bytes) (some : separator ≠ []) (start next : Nat) : List Bytes :=
  if next + separator.length ≤ bytes.length then
    if (bytes.drop next).take separator.length = separator then
      (bytes.drop start).take (next - start) ::
        piecesFrom bytes separator some (next + separator.length) (next + separator.length)
    else piecesFrom bytes separator some start (next + 1)
  else [bytes.drop start]
  termination_by bytes.length - next
  decreasing_by
    · have filled := List.length_pos_iff.2 some
      omega
    · have filled := List.length_pos_iff.2 some
      omega

/-- The pieces of `bytes` between separators. There are none in no bytes, and no pieces at all
without a separator. -/
def splitOn (bytes separator : Bytes) : Option (List Bytes) :=
  if none : separator = [] then .none
  else if bytes.isEmpty then some []
  else some (piecesFrom bytes separator none 0 0)

/-- Bytes in the order of a dictionary. -/
def compareBytes : Bytes → Bytes → Ordering
  | [], [] => .eq
  | [], _ :: _ => .lt
  | _ :: _, [] => .gt
  | x :: xs, y :: ys => if x < y then .lt else if y < x then .gt else compareBytes xs ys

namespace Buffer

variable {σ : Type} [Source σ]

/-- A new buffer for each of a list of contents. -/
def ofAll (a : Allocator σ) : List Bytes → Except Halt (List Buffer × Allocator σ)
  | [] => .ok ([], a)
  | content :: rest => do
    let (b, a) ← ofBytes a content
    let (bs, a) ← ofAll a rest
    return (b :: bs, a)

/-- A new buffer for each piece of `bytes` between separators. -/
def split (a : Allocator σ) (bytes separator : Bytes) :
    Except Halt (Option (List Buffer) × Allocator σ) :=
  match splitOn bytes separator with
  | none => .ok (none, a)
  | some pieces => do
    let (tokens, a) ← ofAll a pieces
    return (some tokens, a)

/-- Gives the blocks of buffers back, in order. -/
def dropAll (a : Allocator σ) : List Buffer → Except Halt (Allocator σ)
  | [] => .ok a
  | b :: rest => do
    let a ← b.drop a
    dropAll a rest

end Buffer

end NodeHeap
