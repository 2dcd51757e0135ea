import NodeHeap.Proofs.Replacement

/-!
# Leases

What a source is owed, by the record of its calls alone.

* `Lease` — an outstanding region, with its size and the node that it was asked for on.
* `Lease.settle`, `Lease.settleAll` — the leases after a call, and after a list of calls, as long as
  every region that is given back is outstanding with just that size and origin, and every region that
  is granted is not.
* `Asks.settleAll_eq`, `Replaces.settleAll_eq` — the calls that place or replace a block settle, and
  leave one lease more or another one.
-/

namespace NodeHeap

/-- Memory that is outstanding at a source. -/
structure Lease where
  region : RegionId
  size : Nat
  /-- The node the memory was asked for on; none if it was asked for anywhere. -/
  origin : Option NodeId
  deriving DecidableEq, Repr

/-- The lease that a call gives back. Memory that the source resizes itself is given back at its old
size. -/
def Call.givenBack? : Call → Option Lease
  | .freeOnNode node size region => some ⟨region, size, some node⟩
  | .free size region => some ⟨region, size, none⟩
  | .resize region old _ true => some ⟨region, old, none⟩
  | _ => none

/-- The lease that a call takes out. Memory that the source resizes itself is taken out at its new
size. -/
def Call.takenOut? : Call → Option Lease
  | .allocOnNode node size (some region) => some ⟨region, size, some node⟩
  | .alloc size (some region) => some ⟨region, size, none⟩
  | .resize region _ new true => some ⟨region, new, none⟩
  | _ => none

def Call.isResize : Call → Bool
  | .resize .. => true
  | _ => false

namespace Lease

/-- The leases without one that is given back, which has to be among them. -/
def giveBack (leases : List Lease) : Option Lease → Option (List Lease)
  | some lease => if lease ∈ leases then some (leases.erase lease) else none
  | none => some leases

/-- The leases with one that is taken out, whose region has to be a new one. -/
def takeOut (leases : List Lease) : Option Lease → Option (List Lease)
  | some lease => if lease.region ∈ leases.map region then none else some (lease :: leases)
  | none => some leases

/-- The leases after a call, if it settles. -/
def settle (leases : List Lease) (call : Call) : Option (List Lease) :=
  (giveBack leases call.givenBack?).bind fun leases => takeOut leases call.takenOut?

def settleAll (leases : List Lease) : List Call → Option (List Lease)
  | [] => some leases
  | call :: calls => (settle leases call).bind fun leases => settleAll leases calls

variable {leases : List Lease} {block : BlockId} {head : Header}

theorem settleAll_append (leases : List Lease) (calls more : List Call) :
    settleAll leases (calls ++ more) =
      (settleAll leases calls).bind fun leases => settleAll leases more := by
  induction calls generalizing leases with
  | nil => rfl
  | cons call rest ih =>
    simp only [List.cons_append, settleAll]
    cases settle leases call with
    | none => rfl
    | some leases => exact ih leases

theorem settle_of_takenOut {call : Call} (lease : Lease) (back : call.givenBack? = none)
    (out : call.takenOut? = some lease) (fresh : lease.region ∉ leases.map region) :
    settle leases call = some (lease :: leases) := by
  simp only [settle, back, out, giveBack, takeOut, Option.bind_some, fresh, if_false]

theorem settle_of_none {call : Call} (back : call.givenBack? = none) (out : call.takenOut? = none) :
    settle leases call = some leases := by
  simp only [settle, back, out, giveBack, takeOut, Option.bind_some]

@[simp] theorem settleAll_singleton (leases : List Lease) (call : Call) :
    settleAll leases [call] = settle leases call := by
  simp only [settleAll, Option.bind_fun_some]

theorem settleAll_vain (leases : List Lease) (total : Nat) (nodes : List NodeId) :
    settleAll leases (vain total nodes) = some leases := by
  induction nodes with
  | nil => rfl
  | cons node rest ih =>
    simp only [vain, List.map_cons, settleAll]
    rw [settle_of_none rfl rfl]
    exact ih

def ofBlock (block : BlockId) (head : Header) : Lease := ⟨block, head.total, head.node?⟩

theorem givenBack_releaseOf (block : BlockId) (head : Header) :
    (releaseOf block head).givenBack? = some (ofBlock block head) := by
  unfold releaseOf ofBlock
  split
  · rename_i node held
    rw [held]
    rfl
  · rename_i held
    rw [held]
    rfl

theorem takenOut_releaseOf (block : BlockId) (head : Header) :
    (releaseOf block head).takenOut? = none := by
  unfold releaseOf
  split
  · rfl
  · rfl

theorem settle_releaseOf (mem : ofBlock block head ∈ leases) :
    settle leases (releaseOf block head) = some (leases.erase (ofBlock block head)) := by
  simp only [settle, givenBack_releaseOf, takenOut_releaseOf, giveBack, takeOut, mem, if_true,
    Option.bind_some]

end Lease

/-- **The calls that place a block settle**, and leave one lease more where one of them served. -/
theorem Asks.settleAll_eq {next : RegionId} {total : Nat} {nodes : List NodeId} {calls : List Call}
    {served : Option (Option NodeId)} {leases : List Lease} (h : Asks next total nodes calls served)
    (fresh : next ∉ leases.map Lease.region) :
    Lease.settleAll leases calls =
      some (served.elim leases fun origin => ⟨next, total, origin⟩ :: leases) := by
  cases h with
  | @onNode tried rest node split =>
    rw [Lease.settleAll_append, Lease.settleAll_vain, Option.bind_some, Lease.settleAll_singleton,
      Lease.settle_of_takenOut ⟨next, total, some node⟩ rfl rfl fresh]
    rfl
  | anywhere =>
    rw [Lease.settleAll_append, Lease.settleAll_vain, Option.bind_some, Lease.settleAll_singleton,
      Lease.settle_of_takenOut ⟨next, total, none⟩ rfl rfl fresh]
    rfl
  | nowhere =>
    rw [Lease.settleAll_append, Lease.settleAll_vain, Option.bind_some, Lease.settleAll_singleton,
      Lease.settle_of_none rfl rfl]
    rfl

namespace Allocator

variable {σ : Type} [Source σ] {a b : Allocator σ} {block new : BlockId} {head : Header}
  {payload : Bytes} {size : Nat} {nodes : List NodeId} {calls : List Call} {leases : List Lease}

theorem Allocates.settleAll_of_error {error : AllocError}
    (h : a.Allocates size nodes (.error error) b calls) (fresh : a.arena.next ∉ leases.map Lease.region) :
    Lease.settleAll leases calls = some leases := by
  cases h with
  | tooLarge => rfl
  | refused events bounded asks heard => exact asks.settleAll_eq fresh

theorem Reallocates.settleAll_of_error {r : Region} {error : AllocError}
    (h : a.Reallocates block head r size nodes (.error error) b calls)
    (fresh : a.arena.next ∉ leases.map Lease.region) :
    Lease.settleAll leases calls = some leases := by
  cases h with
  | tooLarge => rfl
  | notResized bounded still heard asks =>
    rw [Lease.settleAll_singleton]
    rcases asks with rfl | rfl
    · exact Lease.settle_of_none rfl rfl
    · exact Lease.settle_of_none rfl rfl
  | notMoved bounded apart refused => exact refused.settleAll_of_error fresh

omit [Source σ] in
/-- **The calls that replace a block settle**, and leave the new lease in place of the old one. -/
theorem Replaces.settleAll_eq {origin : Option NodeId}
    (h : a.Replaces block head payload size nodes origin new b calls)
    (mem : Lease.ofBlock block head ∈ leases) (fresh : a.arena.next ∉ leases.map Lease.region)
    (apart : (leases.map Lease.region).Nodup) :
    Lease.settleAll leases calls =
      some (⟨new, size + headerWidth, origin⟩ :: leases.erase (Lease.ofBlock block head)) := by
  rcases h.name with ⟨rfl, -, rfl, anywhere, rfl⟩ | ⟨rfl, -, asked, asks, rfl⟩
  · have back : (resizeOf new head size true).givenBack? = some (Lease.ofBlock new head) := by
      simp only [resizeOf, Call.givenBack?, Lease.ofBlock, anywhere]
    have rest : new ∉ (leases.erase (Lease.ofBlock new head)).map Lease.region := by
      have apart := ((List.perm_cons_erase mem).map Lease.region).nodup_iff.1 apart
      exact (List.nodup_cons.1 apart).1
    rw [Lease.settleAll_singleton]
    simp only [Lease.settle, back, Lease.giveBack, mem, if_true, Option.bind_some]
    simp only [resizeOf, Call.takenOut?, Lease.takeOut, rest, if_false]
  · -- The old block is released last, so for a while both of them are outstanding.
    have there : Lease.ofBlock block head ∈
        (⟨a.arena.next, size + headerWidth, origin⟩ : Lease) :: leases := List.mem_cons_of_mem _ mem
    have other : (⟨a.arena.next, size + headerWidth, origin⟩ : Lease) ≠ Lease.ofBlock block head := by
      rintro same
      exact fresh (by rw [← same] at mem; exact List.mem_map_of_mem mem)
    rw [Lease.settleAll_append, asks.settleAll_eq fresh, Option.bind_some, Lease.settleAll_singleton]
    simp only [Option.elim_some]
    rw [Lease.settle_releaseOf there, List.erase_cons_tail (by simpa using other)]

end Allocator

end NodeHeap
