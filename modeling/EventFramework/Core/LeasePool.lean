import EventFramework.Core.Msg
import Mathlib.Logic.Function.Basic

/-!
# The lease pool

`ev_lease_pool.c`. There is one pool; a slot pointer is the index of its slot, and the
`pool` field of a slot is that pool. `κ` is the type of the addresses that are none of
the pool's own.
-/

namespace EventFramework
set_option autoImplicit false

variable {κ ν : Type}

/-- The addresses a leased message can carry. `storage` is an offset into the backing
bytes, `slot` is `&pool->slots[index]`. -/
inductive LeasePtr (κ : Type) where
  | storage (offset : Nat)
  | slot (index : Nat)
  | retainFromSlot
  | releaseFromSlot
  | foreign (ptr : κ)
  deriving DecidableEq, Repr

/-- A null `slot` pointer is `none`. -/
structure LeaseHandle where
  slot : Option Nat
  generation : UInt32
  deriving DecidableEq, Repr

structure LeasePoolStats where
  acquires : UInt32 := 0
  failedAcquires : UInt32 := 0
  retains : UInt32 := 0
  releases : UInt32 := 0
  staleHandles : UInt32 := 0
  inUse : Nat := 0
  highWatermark : Nat := 0
  deriving DecidableEq, Repr

structure LeaseSlot where
  slotIndex : Nat := 0
  generation : UInt32 := 0
  refcount : UInt32 := 0
  payloadSize : Nat := 0
  inUse : Bool := false
  deriving DecidableEq, Repr

structure LeasePool where
  slots : Nat → LeaseSlot
  storage : Nat → UInt8
  slotCount : Nat
  slotSize : Nat
  stats : LeasePoolStats

namespace LeasePool

/-- The pool after a successful `ev_lease_pool_init`. -/
def fresh (slotCount slotSize : Nat) : LeasePool where
  slots := fun index => { slotIndex := index }
  storage := fun _ => 0
  slotCount := slotCount
  slotSize := slotSize
  stats := {}

def init (slotCount slotSize : Nat) : Except Result LeasePool :=
  if slotCount = 0 ∨ slotSize = 0 then .error .errOutOfRange else .ok (fresh slotCount slotSize)

def slotMetadataIsValid (pool : LeasePool) (index : Nat) : Bool :=
  pool.slotCount != 0 && pool.slotSize != 0 &&
    decide ((pool.slots index).slotIndex < pool.slotCount) &&
    decide (index = (pool.slots index).slotIndex) &&
    !((pool.slots index).inUse && decide (pool.slotSize < (pool.slots index).payloadSize))

/-- `ev_lease_slot_data_ptr`: the offset of the slot's region, or null. -/
def slotDataPtr (pool : LeasePool) (index : Nat) : Option (LeasePtr κ) :=
  if pool.slotMetadataIsValid index then
    some (.storage ((pool.slots index).slotIndex * pool.slotSize))
  else none

/-- The comparison of a payload pointer with the data pointer of a valid slot. -/
def isSlotData (pool : LeasePool) (index : Nat) : Option (LeasePtr κ) → Bool
  | some (.storage offset) => offset == (pool.slots index).slotIndex * pool.slotSize
  | _ => false

def handleIsLive (pool : LeasePool) (handle : LeaseHandle) : Bool :=
  match handle.slot with
  | none => false
  | some index =>
    pool.slotMetadataIsValid index && (pool.slots index).inUse &&
      (pool.slots index).generation == handle.generation && decide (0 < (pool.slots index).refcount)

def countStale (pool : LeasePool) : LeasePool :=
  { pool with stats := { pool.stats with staleHandles := pool.stats.staleHandles + 1 } }

/-- `++stats.stale_handles`, when the handle has a slot at all. -/
def countStaleHandle (pool : LeasePool) (handle : LeaseHandle) : LeasePool :=
  if handle.slot.isSome then pool.countStale else pool

def setSlot (pool : LeasePool) (index : Nat) (slot : LeaseSlot) : LeasePool :=
  { pool with slots := Function.update pool.slots index slot }

/-- `memset` of the region of a slot. -/
def clearRegion (pool : LeasePool) (index : Nat) : LeasePool :=
  { pool with storage := fun offset =>
      if index * pool.slotSize ≤ offset ∧ offset < (index + 1) * pool.slotSize then 0
      else pool.storage offset }

def retain (pool : LeasePool) (handle : LeaseHandle) : Result × LeasePool :=
  match handle.slot, pool.handleIsLive handle with
  | some index, true =>
    let slot := pool.slots index
    let pool := pool.setSlot index { slot with refcount := slot.refcount + 1 }
    (.ok, { pool with stats := { pool.stats with retains := pool.stats.retains + 1 } })
  | _, _ => (.errState, pool.countStaleHandle handle)

def release (pool : LeasePool) (handle : LeaseHandle) : Result × LeasePool :=
  match handle.slot, pool.handleIsLive handle with
  | some index, true =>
    let slot := pool.slots index
    let refcount := slot.refcount - 1
    let pool := { pool with stats := { pool.stats with releases := pool.stats.releases + 1 } }
    if refcount = 0 then
      let pool := (pool.clearRegion index).setSlot index
        { slot with refcount := refcount, payloadSize := 0, inUse := false }
      (.ok, { pool with stats := { pool.stats with inUse := pool.stats.inUse - 1 } })
    else (.ok, pool.setSlot index { slot with refcount := refcount })
  | _, _ => (.errState, pool.countStaleHandle handle)

def retainFromSlot (pool : LeasePool) (ctx payload : Option (LeasePtr κ)) (payloadSize : Nat) :
    Result × LeasePool :=
  match ctx with
  | some (.slot index) =>
    if !pool.slotMetadataIsValid index || !(pool.slots index).inUse then
      (.errState, pool.countStale)
    else if !pool.isSlotData index payload || (pool.slots index).payloadSize != payloadSize then
      (.errState, pool.countStale)
    else pool.retain ⟨some index, (pool.slots index).generation⟩
  | _ => (.errState, pool)

def releaseFromSlot (pool : LeasePool) (ctx payload : Option (LeasePtr κ)) (payloadSize : Nat) :
    LeasePool :=
  match ctx with
  | some (.slot index) =>
    if !pool.slotMetadataIsValid index || !(pool.slots index).inUse then pool.countStale
    else if !pool.isSlotData index payload || (pool.slots index).payloadSize != payloadSize then
      pool.countStale
    else (pool.release ⟨some index, (pool.slots index).generation⟩).2
  | _ => pool

/-- The search loop of `ev_lease_pool_acquire`: the first free slot from `index`, with `n`
slots left. -/
def findFree (pool : LeasePool) : Nat → Nat → Option Nat
  | 0, _ => none
  | n + 1, index => if (pool.slots index).inUse then findFree pool n (index + 1) else some index

def acquire (pool : LeasePool) (payloadSize : Nat) : Result × Option LeaseHandle × LeasePool :=
  if pool.slotSize < payloadSize then (.errOutOfRange, none, pool)
  else match pool.findFree pool.slotCount 0 with
    | none =>
      (.errFull, none,
        { pool with stats := { pool.stats with failedAcquires := pool.stats.failedAcquires + 1 } })
    | some index =>
      let slot := pool.slots index
      let next := slot.generation + 1
      let generation := if next = 0 then 1 else next
      let pool := (pool.clearRegion index).setSlot index
        { slot with inUse := true, refcount := 1, payloadSize := payloadSize, generation := generation }
      let inUse := pool.stats.inUse + 1
      (.ok, some ⟨some index, generation⟩, { pool with stats := { pool.stats with
        acquires := pool.stats.acquires + 1
        inUse := inUse
        highWatermark := max pool.stats.highWatermark inUse } })

def handleIsValid (pool : LeasePool) (handle : LeaseHandle) : Bool := pool.handleIsLive handle

def handleData (pool : LeasePool) (handle : LeaseHandle) : Option (LeasePtr κ) :=
  match handle.slot, pool.handleIsLive handle with
  | some index, true => pool.slotDataPtr index
  | _, _ => none

def handleSize (pool : LeasePool) (handle : LeaseHandle) : Nat :=
  match handle.slot, pool.handleIsLive handle with
  | some index, true => (pool.slots index).payloadSize
  | _, _ => 0

def handleRefcount (pool : LeasePool) (handle : LeaseHandle) : UInt32 :=
  match handle.slot, pool.handleIsLive handle with
  | some index, true => (pool.slots index).refcount
  | _, _ => 0

end LeasePool

/-- The payload owners of a system with one lease pool: a message's callback is the
pool's own, or one of the `foreign` callbacks, which cannot reach the pool. -/
def leaseCallbacks (foreign : Callbacks (LeasePtr κ) ν) :
    Callbacks (LeasePtr κ) (LeasePool × ν) where
  retain fn ctx data size w :=
    match fn with
    | .retainFromSlot =>
      let out := w.1.retainFromSlot ctx data size
      (out.1, out.2, w.2)
    | fn =>
      let out := foreign.retain fn ctx data size w.2
      (out.1, w.1, out.2)
  release fn ctx data size w :=
    match fn with
    | .releaseFromSlot => (w.1.releaseFromSlot ctx data size, w.2)
    | fn => (w.1, foreign.release fn ctx data size w.2)

namespace LeasePool

/-- `ev_lease_pool_attach_msg`: one share for the message, given back when the message
refuses the payload. -/
def attachMsg (foreign : Callbacks (LeasePtr κ) ν) (msg : Msg (LeasePtr κ)) (handle : LeaseHandle)
    (w : LeasePool × ν) : Result × Msg (LeasePtr κ) × LeasePool × ν :=
  if !w.1.handleIsLive handle then (.errState, msg, w.1.countStaleHandle handle, w.2)
  else
    let data : Option (LeasePtr κ) := w.1.handleData handle
    let size := w.1.handleSize handle
    if data.isNone ∧ 0 < size then (.errState, msg, w)
    else if 0 < size then
      let retained := w.1.retain handle
      if retained.1 ≠ .ok then (retained.1, msg, retained.2, w.2)
      else
        let attached := msg.setExternalPayload (leaseCallbacks foreign) data size
          (some .retainFromSlot) (some .releaseFromSlot) (handle.slot.map .slot) (retained.2, w.2)
        if attached.1 ≠ .ok then
          (attached.1, attached.2.1, (attached.2.2.1.release handle).2, attached.2.2.2)
        else attached
    else
      msg.setExternalPayload (leaseCallbacks foreign) none 0 none none (handle.slot.map .slot) w

end LeasePool

end EventFramework
