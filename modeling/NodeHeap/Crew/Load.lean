import NodeHeap.Crew.Basic

/-!
# Loads for crews

Lists of tasks that keep a bounded number of blocks: `rolling` releases one block for each one too many,
`batches` releases all of them when there are enough. What is kept at the end is released, or left.
Workers under such a load cannot do without their blocks.
-/

namespace NodeHeap

namespace Task

/-- The names without the one at a place, which the last one takes. -/
def swapRemove (names : Array Birth) (place : Nat) : Array Birth :=
  match names.back? with
  | some last => (names.setIfInBounds place last).pop
  | none => names

/-- A block of each size, of which at most `hold` are kept: after round `i` the block at place `i`,
counted around the list of those that are kept, is released if there is one too many. The blocks kept at the
end are left if `leak` is set. -/
def rollingFrom (worker hold : Nat) (leak : Bool) (round : Nat) (kept : Array Birth) : List Nat → List Task
  | [] => if leak then [] else kept.toList.map .free
  | size :: sizes =>
    let birth := .asked worker round
    let kept := kept.push birth
    if hold < kept.size then
      let place := round % kept.size
      .allocate true size :: .free (kept[place]?.getD birth) ::
        rollingFrom worker hold leak (round + 1) (swapRemove kept place) sizes
    else .allocate true size :: rollingFrom worker hold leak (round + 1) kept sizes

/-- A block of each size, of which at most `hold` are kept. -/
def rolling (worker hold : Nat) (leak : Bool) (sizes : List Nat) : List Task :=
  rollingFrom worker hold leak 0 #[] sizes

/-- So many blocks are released that were asked for one after another. -/
def releases (worker first count : Nat) : List Task :=
  (List.range' first count).map fun index => .free (.asked worker index)

/-- A block of each size; whenever `limit` blocks are held all of them are released, and so are the
blocks held at the end. -/
def batchesFrom (worker limit first held : Nat) : List Nat → List Task
  | [] => releases worker first held
  | size :: sizes =>
    if held + 1 = limit then
      .allocate true size ::
        (releases worker first (held + 1) ++ batchesFrom worker limit (first + (held + 1)) 0 sizes)
    else .allocate true size :: batchesFrom worker limit first (held + 1) sizes

/-- A block of each size, released in batches of `limit`. -/
def batches (worker limit : Nat) (sizes : List Nat) : List Task := batchesFrom worker limit 0 0 sizes

end Task

/-- The sizes that worker `t` asks for in a number of rounds: they run through the `span` sizes from
`smallest`, `stride` further each round, and each worker starts at another one. -/
def loadSizes (smallest span stride rounds t : Nat) : List Nat :=
  (List.range rounds).map fun i => smallest + (i * stride + t) % span

/-- A crew of `count` workers, each with the tasks that its number is given. -/
def Crew.ofTasks {σ : Type} (a : Allocator σ) (count : Nat) (tasks : Nat → List Task) : Crew σ where
  allocator := a
  workers := (List.range count).map fun t => { tasks := tasks t }

end NodeHeap
