import NodeHeap.Allocator.Session
import NodeHeap.Proofs.Layout

/-!
# The heap that a caller sees

What a caller knows of its blocks from the steps it took and the answers it got, with no regions, headers or
sources of memory in it. What nobody wrote is not known: new memory holds anything.

* `Known`, `Heap` — the size that was last asked for, the node, and the bytes that were written of each live
  block.
* `Heap.next`, `Heap.after`, `Heap.trace` — the heap after one step, after a list of steps, and after
  each of them.
* `Heap.total` — the bytes of the live blocks, headers included.
* `Cell`, `Session.contents` — what a session lets its caller read of each live block.
* `Cells.Becomes` — what a step does to that. `Becomes.tells`: what is known stays true.
-/

namespace NodeHeap

/-! ## Tables -/

namespace Table

variable {κ α β : Type}

def mapValues (f : α → β) (table : Table κ α) : Table κ β := table.map fun entry => (entry.1, f entry.2)

theorem mapValues_congr {f g : α → β} {table : Table κ α} (h : ∀ entry ∈ table, f entry.2 = g entry.2) :
    table.mapValues f = table.mapValues g := by
  apply List.map_congr_left
  intro entry mem
  rw [h entry mem]

@[simp] theorem mapValues_insert (f : α → β) (key : κ) (value : α) (table : Table κ α) :
    (table.insert key value).mapValues f = (table.mapValues f).insert key (f value) := rfl

variable [DecidableEq κ]

theorem find?_mapValues (f : α → β) (key : κ) (table : Table κ α) :
    (table.mapValues f).find? key = (table.find? key).map f := by
  induction table with
  | nil => rfl
  | cons entry rest ih =>
    by_cases h : entry.1 = key
    · simp [mapValues, find?, h]
    · simp only [mapValues, List.map_cons, find?, h, if_false]
      exact ih

theorem mapValues_erase (f : α → β) (key : κ) (table : Table κ α) :
    (table.erase key).mapValues f = (table.mapValues f).erase key := by
  induction table with
  | nil => rfl
  | cons entry rest ih =>
    by_cases h : entry.1 = key
    · simp [mapValues, erase, h]
    · simp only [mapValues, erase, h, if_false, List.map_cons, List.cons.injEq, true_and]
      exact ih

theorem mapValues_modify (f : α → β) (change : α → α) (other : β → β)
    (h : ∀ value, f (change value) = other (f value)) (key : κ) (table : Table κ α) :
    (table.modify key change).mapValues f = (table.mapValues f).modify key other := by
  induction table with
  | nil => rfl
  | cons entry rest ih =>
    by_cases hk : entry.1 = key
    · simp [mapValues, modify, hk, h]
    · simp only [mapValues, modify, hk, if_false, List.map_cons, List.cons.injEq, true_and]
      exact ih

theorem perm_of_find? {key : κ} {value : α} {table : Table κ α} (h : table.find? key = some value) :
    table.Perm ((key, value) :: table.erase key) := by
  induction table with
  | nil => cases h
  | cons entry rest ih =>
    by_cases hk : entry.1 = key
    · simp only [find?, hk, if_true, Option.some.injEq] at h
      simp only [erase, hk, if_true]
      rw [← hk, ← h]
    · simp only [find?, hk, if_false] at h
      simp only [erase, hk, if_false]
      exact ((ih h).cons entry).trans (List.Perm.swap _ _ _)

theorem mem_of_find? {key : κ} {value : α} {table : Table κ α} (h : table.find? key = some value) :
    (key, value) ∈ table :=
  (perm_of_find? h).mem_iff.2 List.mem_cons_self

theorem mem_of_mem_erase {key : κ} {entry : κ × α} {table : Table κ α} (h : entry ∈ table.erase key) :
    entry ∈ table := by
  induction table with
  | nil => cases h
  | cons head rest ih =>
    by_cases hk : head.1 = key
    · simp only [erase, hk, if_true] at h
      exact List.mem_cons_of_mem _ h
    · simp only [erase, hk, if_false, List.mem_cons] at h
      exact List.mem_cons.2 (h.imp_right ih)

/-- A change of the value that is found changes no other one, if no two values are the same. -/
theorem mapValues_modify_found {f g : α → β} {change : β → β} {key : κ} {value : α}
    {table : Table κ α} (found : table.find? key = some value) (apart : (table.map Prod.snd).Nodup)
    (changed : g value = change (f value)) (others : ∀ other, other ≠ value → g other = f other) :
    table.mapValues g = (table.mapValues f).modify key change := by
  induction table with
  | nil => rfl
  | cons entry rest ih =>
    obtain ⟨fresh, apart⟩ := List.nodup_cons.1 apart
    by_cases hk : entry.1 = key
    · simp only [find?, hk, if_true, Option.some.injEq] at found
      have kept : mapValues g rest = mapValues f rest := by
        apply mapValues_congr
        intro other mem
        apply others
        rintro rfl
        exact fresh (found ▸ List.mem_map_of_mem mem)
      simp only [mapValues, List.map_cons, modify, hk, if_true, found, changed]
      exact congrArg _ kept
    · simp only [find?, hk, if_false] at found
      have other : entry.2 ≠ value := by
        intro same
        exact fresh (same ▸ List.mem_map_of_mem (f := Prod.snd) (mem_of_find? found))
      simp only [mapValues, List.map_cons, modify, hk, if_false, others _ other]
      exact congrArg _ (ih found apart)

/-- Two tables with the same names in the same order have related values. -/
inductive Related (R : α → β → Prop) : Table κ α → Table κ β → Prop
  | nil : Related R [] []
  | cons {key : κ} {x : α} {y : β} {table : Table κ α} {other : Table κ β} (here : R x y)
    (rest : Related R table other) : Related R ((key, x) :: table) ((key, y) :: other)

namespace Related

variable {R : α → β → Prop} {table : Table κ α} {other : Table κ β} {key : κ}

omit [DecidableEq κ] in
theorem length_eq (h : Related R table other) : List.length table = List.length other := by
  induction h with
  | nil => rfl
  | cons _ _ ih => exact congrArg (· + 1) ih

theorem find? {y : β} (h : Related R table other) (found : other.find? key = some y) :
    ∃ x, table.find? key = some x ∧ R x y := by
  induction h with
  | nil => cases found
  | @cons head x y' table other here rest ih =>
    by_cases hk : head = key
    · simp only [Table.find?, hk, if_true, Option.some.injEq] at found
      exact ⟨x, by simp only [Table.find?, hk, if_true], found ▸ here⟩
    · simp only [Table.find?, hk, if_false] at found ⊢
      exact ih found

omit [DecidableEq κ] in
theorem mem {entry : κ × β} (h : Related R table other) (mem : entry ∈ other) :
    ∃ x, (entry.1, x) ∈ table ∧ R x entry.2 := by
  induction h with
  | nil => exact absurd mem List.not_mem_nil
  | @cons head x y table other here rest ih =>
    rcases List.mem_cons.1 mem with rfl | mem
    · exact ⟨x, List.mem_cons_self, here⟩
    · obtain ⟨x', there, related⟩ := ih mem
      exact ⟨x', List.mem_cons_of_mem _ there, related⟩

theorem erase (h : Related R table other) : Related R (table.erase key) (other.erase key) := by
  induction h with
  | nil => exact .nil
  | @cons head x y table other here rest ih =>
    by_cases hk : head = key
    · simp only [Table.erase, hk, if_true]
      exact rest
    · simp only [Table.erase, hk, if_false]
      exact .cons here ih

theorem modify {f : α → α} {g : β → β} {y : β} (h : Related R table other)
    (found : other.find? key = some y) (changed : ∀ x, R x y → R (f x) (g y)) :
    Related R (table.modify key f) (other.modify key g) := by
  induction h with
  | nil => cases found
  | @cons head x y' table other here rest ih =>
    by_cases hk : head = key
    · simp only [Table.find?, hk, if_true, Option.some.injEq] at found
      simp only [Table.modify, hk, if_true]
      exact .cons (found ▸ changed x (found ▸ here)) rest
    · simp only [Table.find?, hk, if_false] at found
      simp only [Table.modify, hk, if_false]
      exact .cons here (ih found)

end Related

end Table

/-- The name of the live block that a step changes, replaces or releases. -/
def Step.target {σ : Type} : Step σ → Option BlockName
  | .reallocate _ source _ _ _ => source
  | .free name => name
  | .write name _ _ => some name
  | _ => none

/-! ## What is known of blocks -/

/-- What a caller knows of a live block. -/
structure Known where
  /-- The size of the payload as it was last asked for. -/
  size : Nat
  /-- The node that the caller was told. -/
  node : Option NodeId
  /-- Each byte of the payload as it was last written; none where nothing was. -/
  bytes : List (Option UInt8)
  deriving DecidableEq, Repr

namespace Known

def blank (size : Nat) (node : Option NodeId) : Known := ⟨size, node, List.replicate size none⟩

def whole (bytes : Bytes) (node : Option NodeId) : Known := ⟨bytes.length, node, bytes.map some⟩

/-- The block at another size: it keeps what fits of it, and nothing is known of what is added. -/
def resized (known : Known) (size : Nat) (node : Option NodeId) : Known :=
  ⟨size, node, known.bytes.take size ++ List.replicate (size - known.bytes.length) none⟩

/-- The block with `bytes` written from `start`. -/
def written (start : Nat) (bytes : Bytes) (known : Known) : Known :=
  { known with bytes := Bytes.patch start (bytes.map some) known.bytes }

end Known

/-- The live blocks of a caller by name. A block whose name was bound again is still there. -/
abbrev Heap := Table BlockName Known

namespace Heap

/-- The heap after one step, given the value that the step answered. -/
def next {σ : Type} (heap : Heap) (step : Step σ) (value : Value) : Heap :=
  match step, value with
  | .allocate _ name size _, .block _ node => heap.insert name (.blank size node)
  | .allocateCopy name bytes, .block _ node => heap.insert name (.whole bytes node)
  | .reallocate _ none name size _, .block _ node => heap.insert name (.blank size node)
  | .reallocate _ (some source) name size _, .block _ node =>
    match heap.find? source with
    | some known => (heap.erase source).insert name (known.resized size node)
    | none => heap
  | .free (some name), .unit => heap.erase name
  | .write name start bytes, .unit => heap.modify name (Known.written start bytes)
  | _, _ => heap

theorem next_reallocate_none {σ : Type} (heap : Heap) (fatal : Bool) (name : BlockName) (size : Nat)
    (hint : Option NodeId) (value : Value) :
    heap.next (σ := σ) (.reallocate fatal none name size hint) value =
      heap.next (σ := σ) (.allocate fatal name size hint) value := by
  cases value <;> rfl

theorem next_halted {σ : Type} (heap : Heap) (step : Step σ) (halt : Halt) :
    heap.next step (.halted halt) = heap := by
  unfold next
  split <;> first | rfl | contradiction

/-- A block that got another size is another block to its caller. -/
theorem next_reallocate_ne {σ : Type} {fatal : Bool} {source name : BlockName} {size told : Nat}
    {hint node : Option NodeId} :
    ¬ ∀ heap : Heap, heap.next (σ := σ) (.reallocate fatal (some source) name size hint) (.block told node) = heap := by
  intro quiet
  have same := quiet [(source, .blank (size + 1) none)]
  simp [Heap.next, Table.find?, Table.erase, Table.insert, Known.resized, Known.blank] at same

/-- The heap after a list of steps, given the answers. -/
def after {σ : Type} (heap : Heap) : List (Step σ) → List Answer → Heap
  | step :: steps, answer :: answers => (heap.next step answer.value).after steps answers
  | _, _ => heap

/-- The heaps after each of a list of steps. -/
def trace {σ : Type} (heap : Heap) : List (Step σ) → List Answer → List Heap
  | step :: steps, answer :: answers =>
    heap.next step answer.value :: (heap.next step answer.value).trace steps answers
  | _, _ => []

def total (heap : Heap) : Nat := heap.foldr (fun entry n => entry.2.size + headerWidth + n) 0

end Heap

/-! ## What can be read of blocks -/

/-- What an allocator lets a caller read of a live block. -/
structure Cell where
  size : Nat
  node : Option NodeId
  /-- The payload. -/
  bytes : Bytes
  deriving DecidableEq, Repr

/-- The cell with a changed payload of the same length. -/
def Cell.rewrite (change : Bytes → Bytes) (cell : Cell) : Cell :=
  { cell with bytes := change cell.bytes }

variable {σ : Type}

/-- What an allocator lets a caller read of a block. -/
def Allocator.cell (a : Allocator σ) (block : BlockId) : Except Halt Cell := do
  let size ← a.usableSize block
  let node ← a.blockNode block
  let bytes ← a.arena.readPayload block 0 size
  return ⟨size, node, bytes⟩

/-- What a session lets its caller read of each live block. -/
def Session.contents (s : Session σ) : Table BlockName (Except Halt Cell) :=
  s.blocks.mapValues s.allocator.cell

/-- The size, the node and each byte that was written are what is known of them. -/
structure Known.Tells (known : Known) (cell : Cell) : Prop where
  size_eq : cell.size = known.size
  node_eq : cell.node = known.node
  length_eq : cell.bytes.length = known.bytes.length
  byte : ∀ (i : Nat) (value : UInt8), known.bytes[i]? = some (some value) → cell.bytes[i]? = some value

/-- All blocks can be read, and what is read is what is known of them. -/
def Heap.Describes (heap : Heap) (contents : Table BlockName (Except Halt Cell)) : Prop :=
  Table.Related (fun known read => ∃ cell, read = .ok cell ∧ known.Tells cell) heap contents

/-- The live blocks of a caller by name, with all that can be read of them. -/
abbrev Cells := Table BlockName Cell

namespace Cells

/-- What is known of the blocks is true of them. -/
def ToldBy (cells : Cells) (heap : Heap) : Prop := Table.Related Known.Tells heap cells

def total (cells : Cells) : Nat := cells.foldr (fun entry n => entry.2.size + headerWidth + n) 0

@[simp] theorem total_insert (name : BlockName) (cell : Cell) (cells : Cells) :
    total (cells.insert name cell) = cell.size + headerWidth + cells.total := rfl

theorem total_of_find? {name : BlockName} {cell : Cell} {cells : Cells}
    (h : cells.find? name = some cell) :
    cells.total = cell.size + headerWidth + total (cells.erase name) := by
  unfold total
  apply (Table.perm_of_find? h).foldr_eq'
  intro x _ y _ n
  exact Nat.add_left_comm _ _ _

theorem total_rewrite (change : Bytes → Bytes) (name : BlockName) (cells : Cells) :
    total (cells.modify name (Cell.rewrite change)) = cells.total := by
  induction cells with
  | nil => rfl
  | cons entry rest ih =>
    by_cases hk : entry.1 = name
    · simp [total, Table.modify, hk, Cell.rewrite]
    · simp only [total, Table.modify, hk, if_false, List.foldr_cons]
      exact congrArg (entry.2.size + headerWidth + ·) ih

/-- What a step that answers a value does to the blocks. A new block holds anything, and so does what is added
to a block that grows. -/
inductive Becomes (cells : Cells) : Step σ → Value → Cells → Prop
  | same {step : Step σ} {value : Value} (quiet : ∀ heap : Heap, heap.next step value = heap) :
    Becomes cells step value cells
  | placed {fatal : Bool} {name : BlockName} {size told : Nat} {hint node : Option NodeId} {bytes : Bytes}
    (long : bytes.length = size) :
    Becomes cells (.allocate fatal name size hint) (.block told node)
      (cells.insert name ⟨size, node, bytes⟩)
  | copied {name : BlockName} {bytes : Bytes} {told : Nat} {node : Option NodeId} :
    Becomes cells (.allocateCopy name bytes) (.block told node)
      (cells.insert name ⟨bytes.length, node, bytes⟩)
  | afresh {fatal : Bool} {name : BlockName} {size : Nat} {hint : Option NodeId} {value : Value} {later : Cells}
    (allocates : Becomes cells (.allocate fatal name size hint) value later) :
    Becomes cells (.reallocate fatal none name size hint) value later
  | replaced {fatal : Bool} {source name : BlockName} {size told : Nat} {hint node : Option NodeId}
    {cell : Cell} {bytes : Bytes} (found : cells.find? source = some cell)
    (fitted : Bytes.Fitted size cell.bytes bytes) :
    Becomes cells (.reallocate fatal (some source) name size hint) (.block told node)
      ((cells.erase source).insert name ⟨size, node, bytes⟩)
  | freed {name : BlockName} : Becomes cells (.free (some name)) .unit (cells.erase name)
  | written {name : BlockName} {start : Nat} {bytes : Bytes} {cell : Cell}
    (found : cells.find? name = some cell) (inside : start + bytes.length ≤ cell.bytes.length) :
    Becomes cells (.write name start bytes) .unit
      (cells.modify name (Cell.rewrite (Bytes.patch start bytes)))

end Cells

/-! ## What is known is true -/

namespace Known

variable {known : Known} {cell : Cell} {size : Nat} {node : Option NodeId} {bytes : Bytes}

theorem tells_blank (long : bytes.length = size) : (blank size node).Tells ⟨size, node, bytes⟩ where
  size_eq := rfl
  node_eq := rfl
  length_eq := by simp [blank, long]
  byte i value known := by
    rw [blank, List.getElem?_replicate] at known
    split at known <;> cases known

theorem tells_whole : (whole bytes node).Tells ⟨bytes.length, node, bytes⟩ where
  size_eq := rfl
  node_eq := rfl
  length_eq := (List.length_map _).symm
  byte i value known := by
    rw [whole, List.getElem?_map, Option.map_eq_some_iff] at known
    obtain ⟨byte, there, same⟩ := known
    rw [there, same]

theorem Tells.resized (h : known.Tells cell) (fitted : Bytes.Fitted size cell.bytes bytes) :
    (known.resized size node).Tells ⟨size, node, bytes⟩ where
  size_eq := rfl
  node_eq := rfl
  length_eq := by
    simp only [Known.resized, List.length_append, List.length_take, List.length_replicate,
      fitted.length_eq]
    omega
  byte i value told := by
    have same := (Bytes.fitted_iff.1 fitted).2
    rw [Known.resized, List.getElem?_append] at told
    split at told
    · rename_i front
      rw [List.length_take] at front
      rw [List.getElem?_take, if_pos (by omega)] at told
      rw [same i (by omega) (by rw [h.length_eq]; omega)]
      exact h.byte i value told
    · rw [List.getElem?_replicate] at told
      split at told <;> cases told

theorem Tells.written {start : Nat} (h : known.Tells cell)
    (inside : start + bytes.length ≤ cell.bytes.length) :
    (known.written start bytes).Tells (cell.rewrite (Bytes.patch start bytes)) where
  size_eq := h.size_eq
  node_eq := h.node_eq
  length_eq := by
    have room : start + (bytes.map some).length ≤ known.bytes.length := by
      rw [List.length_map, ← h.length_eq]
      exact inside
    simp only [Known.written, Cell.rewrite, Bytes.length_patch inside, Bytes.length_patch room,
      h.length_eq]
  byte i value told := by
    have room : start + (bytes.map some).length ≤ known.bytes.length := by
      rw [List.length_map, ← h.length_eq]
      exact inside
    simp only [Known.written, Bytes.getElem?_patch room, List.length_map] at told
    simp only [Cell.rewrite, Bytes.getElem?_patch inside]
    split
    · rename_i reached
      rw [if_pos reached, List.getElem?_map, Option.map_eq_some_iff] at told
      obtain ⟨byte, there, same⟩ := told
      rw [there, Option.some.inj same]
    · rename_i apart
      rw [if_neg apart] at told
      exact h.byte i value told

end Known

namespace Cells

variable {cells later : Cells} {heap : Heap} {step : Step σ} {value : Value}

theorem ToldBy.total_eq (h : cells.ToldBy heap) : cells.total = heap.total := by
  induction h with
  | nil => rfl
  | cons here rest ih =>
    simp only [total, Heap.total, List.foldr_cons, here.size_eq] at ih ⊢
    rw [ih]

theorem ToldBy.describes (h : cells.ToldBy heap) : heap.Describes (cells.mapValues .ok) := by
  induction h with
  | nil => exact .nil
  | cons here rest ih => exact .cons ⟨_, rfl, here⟩ ih

/-- **What is known of the blocks stays true** when a step changes them. -/
theorem Becomes.toldBy (becomes : cells.Becomes step value later) (h : cells.ToldBy heap) :
    later.ToldBy (heap.next step value) := by
  induction becomes with
  | same quiet =>
    rw [quiet]
    exact h
  | placed long => exact .cons (Known.tells_blank long) h
  | copied => exact .cons Known.tells_whole h
  | afresh _ ih =>
    rw [Heap.next_reallocate_none]
    exact ih
  | @replaced fatal source name size told hint node cell bytes found fitted =>
    obtain ⟨known, there, tells⟩ := Table.Related.find? h found
    simp only [Heap.next, there]
    exact .cons (tells.resized fitted) (Table.Related.erase h)
  | freed => exact Table.Related.erase h
  | written found inside => exact Table.Related.modify h found fun _ tells => tells.written inside

end Cells

variable {a : Allocator σ} {block : BlockId} {head : Header} {payload : Bytes}

theorem Allocator.cell_eq (h : a.arena.HasBlock block head payload) :
    a.cell block = .ok ⟨head.size, head.node?, payload⟩ := by
  have whole : (payload.drop 0).take head.size = payload := by
    obtain ⟨r, -, hb⟩ := h
    rw [List.drop_zero, ← hb.length_payload, List.take_length]
  simp only [cell, usableSize, blockNode, h.header_eq, bind, Except.bind, pure, Except.pure,
    h.readPayload_eq (Nat.le_of_eq (Nat.zero_add head.size)), whole]

theorem Session.describe_eq (h : a.arena.HasBlock block head payload) :
    Session.describe a block = .ok (.block head.size head.node?) := by
  simp only [describe, Allocator.usableSize, Allocator.blockNode, h.header_eq, bind, Except.bind,
    pure, Except.pure]

theorem Session.describe_cases {value : Value} (described : describe a block = .ok value) :
    ∃ size node, value = .block size node := by
  simp only [describe, bind, Except.bind] at described
  split at described
  · cases described
  · split at described
    · cases described
    · cases described
      exact ⟨_, _, rfl⟩

theorem Allocator.cell_congr {b : Allocator σ} (h : b.arena.regions[block]? = a.arena.regions[block]?) :
    b.cell block = a.cell block := by
  simp only [cell, usableSize, blockNode, Arena.header, Arena.readPayload, Arena.read, Arena.touch, h]

end NodeHeap
