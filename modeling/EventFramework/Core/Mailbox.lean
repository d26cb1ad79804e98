import EventFramework.Core.Msg
import Mathlib.Logic.Function.Basic

/-!
# Actor mailboxes

`ev_mailbox_t` and the functions of `ev_mailbox.c`. The storage array is a function of
the slot index; `storageCount` bounds the indices the code may touch. Operations that
can call a lifecycle callback pass the state `w` of the payload owners through.
-/

namespace EventFramework
set_option autoImplicit false

variable {P ω : Type}

inductive MailboxDeliveryEffect where
  | posted
  | dropped
  | replaced
  | coalesced
  | rejected
  deriving DecidableEq, Repr

/-- `slotIndex = none` is `EV_MAILBOX_NO_SLOT`. -/
structure MailboxDeliveryReport where
  effect : MailboxDeliveryEffect := .rejected
  result : Result := .ok
  queueDepthBefore : Nat := 0
  queueDepthAfter : Nat := 0
  slotIndex : Option Nat := none
  deriving DecidableEq, Repr

structure MailboxStats where
  posted : UInt32 := 0
  dropped : UInt32 := 0
  replaced : UInt32 := 0
  coalesced : UInt32 := 0
  popped : UInt32 := 0
  rejected : UInt32 := 0
  highWatermark : Nat := 0
  deriving DecidableEq, Repr

structure Mailbox (P : Type) where
  kind : MailboxKind
  storage : Nat → Msg P
  storageCount : Nat
  storageMask : Nat
  head : Nat
  tail : Nat
  count : Nat
  stats : MailboxStats

def MailboxKind.capacity : MailboxKind → Nat
  | .fifo8 => 8
  | .fifo16 => 16
  | .mailbox1 => 1
  | .lossyRing8 => 8
  | .coalescedFlag => 1

namespace Mailbox

def capacityIsPowerOfTwo (storageCount : Nat) : Bool :=
  storageCount != 0 && storageCount &&& (storageCount - 1) == 0

def indexAdvance (mb : Mailbox P) (index : Nat) : Nat := (index + 1) &&& mb.storageMask

def recordHighWatermark (mb : Mailbox P) : Mailbox P :=
  if mb.stats.highWatermark < mb.count then
    { mb with stats := { mb.stats with highWatermark := mb.count } }
  else mb

/-- `++mailbox->stats.rejected`. -/
def countRejected (mb : Mailbox P) : Mailbox P :=
  { mb with stats := { mb.stats with rejected := mb.stats.rejected + 1 } }

/-- The mailbox after a successful `ev_mailbox_init`. -/
def fresh (kind : MailboxKind) : Mailbox P where
  kind := kind
  storage := fun _ => Msg.zeroed
  storageCount := kind.capacity
  storageMask := kind.capacity - 1
  head := 0
  tail := 0
  count := 0
  stats := {}

def init (kind : MailboxKind) (storageCount : Nat) : Except Result (Mailbox P) :=
  if kind.capacity = 0 then .error .errOutOfRange
  else if storageCount ≠ kind.capacity then .error .errOutOfRange
  else if !capacityIsPowerOfTwo storageCount then .error .errOutOfRange
  else .ok (fresh kind)

def disposeSlot (cb : Callbacks P ω) (mb : Mailbox P) (index : Nat) (w : ω) :
    Result × Mailbox P × ω :=
  if mb.storageCount ≤ index then (.errInvalidArg, mb, w)
  else
    let disposed := (mb.storage index).dispose cb w
    (disposed.1, { mb with storage := Function.update mb.storage index Msg.blank }, disposed.2.2)

def storeAt (mb : Mailbox P) (index : Nat) (msg : Msg P) : Result × Mailbox P :=
  if mb.storageCount ≤ index then (.errInvalidArg, mb)
  else (.ok, { mb with storage := Function.update mb.storage index msg })

def releaseRetainedQueueCopy (cb : Callbacks P ω) (msg : Msg P) (w : ω) : ω :=
  (msg.dispose cb w).2.2

def retainForQueue (cb : Callbacks P ω) (msg : Msg P) (w : ω) : Result × ω :=
  if msg.storage ≠ .external ∨ msg.payloadSize = 0 then (.ok, w)
  else msg.retain cb w

def pendingIndexAt (mb : Mailbox P) (offset : Nat) : Option Nat :=
  if mb.count ≤ offset then none else some ((mb.head + offset) &&& mb.storageMask)

/-- The loop of `ev_mailbox_find_event_slot` from offset `i`, with `n` offsets left. -/
def findEventSlotFrom (mb : Mailbox P) (eventId : EventId) (latest : Bool) :
    Nat → Nat → Option Nat → Option Nat
  | 0, _, found => found
  | n + 1, i, found =>
    match mb.pendingIndexAt i with
    | none => findEventSlotFrom mb eventId latest n (i + 1) found
    | some index =>
      if (mb.storage index).eventId = eventId then
        if latest then findEventSlotFrom mb eventId latest n (i + 1) (some index)
        else some index
      else findEventSlotFrom mb eventId latest n (i + 1) found

def findEventSlot (mb : Mailbox P) (eventId : EventId) (latest : Bool) : Option Nat :=
  findEventSlotFrom mb eventId latest mb.count 0 none

def replaceSlot (cb : Callbacks P ω) (mb : Mailbox P) (index : Nat) (msg : Msg P) (w : ω) :
    Result × Mailbox P × ω :=
  let retained := retainForQueue cb msg w
  if retained.1 ≠ .ok then (retained.1, mb, retained.2)
  else
    let disposed := mb.disposeSlot cb index retained.2
    if disposed.1 ≠ .ok then
      (disposed.1, disposed.2.1, releaseRetainedQueueCopy cb msg disposed.2.2)
    else
      let stored := disposed.2.1.storeAt index msg
      if stored.1 ≠ .ok then
        (stored.1, stored.2, releaseRetainedQueueCopy cb msg disposed.2.2)
      else (.ok, stored.2, disposed.2.2)

/-- The loop of `ev_mailbox_reset` over the first `n` slots. -/
def disposeSlots (cb : Callbacks P ω) : Nat → Mailbox P → ω → Mailbox P × ω
  | 0, mb, w => (mb, w)
  | n + 1, mb, w =>
    let before := disposeSlots cb n mb w
    (before.1.disposeSlot cb n before.2).2

def reset (cb : Callbacks P ω) (mb : Mailbox P) (w : ω) : Result × Mailbox P × ω :=
  let cleared := disposeSlots cb mb.storageCount mb w
  (.ok, { cleared.1 with head := 0, tail := 0, count := 0, stats := {} }, cleared.2)

/-- The tail of the FIFO and LOSSY_RING branches: store at `tail`, advance, count. -/
def appendAtTail (cb : Callbacks P ω) (mb : Mailbox P) (msg : Msg P) (w : ω) :
    Result × Mailbox P × ω :=
  let stored := mb.storeAt mb.tail msg
  if stored.1 ≠ .ok then (stored.1, stored.2.countRejected, releaseRetainedQueueCopy cb msg w)
  else
    let mb := stored.2
    (.ok, recordHighWatermark { mb with
      tail := mb.indexAdvance mb.tail
      count := mb.count + 1
      stats := { mb.stats with posted := mb.stats.posted + 1 } }, w)

def pushFifo (cb : Callbacks P ω) (mb : Mailbox P) (msg : Msg P) (w : ω) :
    Result × Mailbox P × ω :=
  if mb.storageCount ≤ mb.count then (.errFull, mb.countRejected, w)
  else
    let retained := retainForQueue cb msg w
    if retained.1 ≠ .ok then (retained.1, mb.countRejected, retained.2)
    else mb.appendAtTail cb msg retained.2

def pushMailbox1 (cb : Callbacks P ω) (mb : Mailbox P) (msg : Msg P) (w : ω) :
    Result × Mailbox P × ω :=
  let retained := retainForQueue cb msg w
  if retained.1 ≠ .ok then (retained.1, mb.countRejected, retained.2)
  else
    let cleared := if mb.count ≠ 0 then (mb.disposeSlot cb 0 retained.2).2 else (mb, retained.2)
    let stored := cleared.1.storeAt 0 msg
    if stored.1 ≠ .ok then
      (stored.1, stored.2.countRejected, releaseRetainedQueueCopy cb msg cleared.2)
    else
      let mb := stored.2
      let mb := if mb.count = 0 then
          { mb with count := 1, stats := { mb.stats with posted := mb.stats.posted + 1 } }
        else { mb with stats := { mb.stats with replaced := mb.stats.replaced + 1 } }
      (.ok, mb.recordHighWatermark, cleared.2)

/-- The eviction of the LOSSY_RING branch: the oldest message goes, the head moves. -/
def evictHead (cb : Callbacks P ω) (mb : Mailbox P) (w : ω) : Mailbox P × ω :=
  let disposed := (mb.disposeSlot cb mb.head w).2
  let mb := disposed.1
  ({ mb with
    head := mb.indexAdvance mb.head
    count := mb.count - 1
    stats := { mb.stats with dropped := mb.stats.dropped + 1 } }, disposed.2)

def pushLossyRing (cb : Callbacks P ω) (mb : Mailbox P) (msg : Msg P) (w : ω) :
    Result × Mailbox P × ω :=
  let retained := retainForQueue cb msg w
  if retained.1 ≠ .ok then (retained.1, mb.countRejected, retained.2)
  else
    let room := if mb.storageCount ≤ mb.count then mb.evictHead cb retained.2 else (mb, retained.2)
    room.1.appendAtTail cb msg room.2

def pushCoalescedFlag (mb : Mailbox P) (msg : Msg P) (w : ω) : Result × Mailbox P × ω :=
  if msg.storage ≠ .none ∨ msg.payloadSize ≠ 0 then (.errContract, mb.countRejected, w)
  else if mb.count = 0 then
    let stored := mb.storeAt 0 msg
    if stored.1 ≠ .ok then (stored.1, stored.2.countRejected, w)
    else
      let mb := stored.2
      (.ok, recordHighWatermark { mb with
        count := 1, stats := { mb.stats with posted := mb.stats.posted + 1 } }, w)
  else if (mb.storage 0).eventId ≠ msg.eventId then (.errContract, mb.countRejected, w)
  else (.ok, { mb with stats := { mb.stats with coalesced := mb.stats.coalesced + 1 } }, w)

def push (cb : Callbacks P ω) (mb : Mailbox P) (msg : Msg P) (w : ω) : Result × Mailbox P × ω :=
  if msg.validate ≠ .ok then (msg.validate, mb.countRejected, w)
  else match mb.kind with
    | .fifo8 | .fifo16 => mb.pushFifo cb msg w
    | .mailbox1 => mb.pushMailbox1 cb msg w
    | .lossyRing8 => mb.pushLossyRing cb msg w
    | .coalescedFlag => mb.pushCoalescedFlag msg w

/-- `ev_mailbox_push` followed by the report that `push_qos` and its helpers fill. -/
def pushReported (cb : Callbacks P ω) (mb : Mailbox P) (msg : Msg P) (w : ω) :
    Result × MailboxDeliveryReport × Mailbox P × ω :=
  let pushed := mb.push cb msg w
  let mb' := pushed.2.1
  (pushed.1,
    { effect := if pushed.1 = .ok then .posted else .rejected
      result := pushed.1
      queueDepthBefore := mb.count
      queueDepthAfter := mb'.count
      slotIndex := if pushed.1 = .ok then
          some ((mb'.tail + mb'.storageCount - 1) &&& mb'.storageMask)
        else none },
    mb', pushed.2.2)

/-- `++mailbox->stats.dropped` and the DROPPED report of the full branches. -/
def dropArrival (mb : Mailbox P) (w : ω) : Result × MailboxDeliveryReport × Mailbox P × ω :=
  (.ok, ⟨.dropped, .ok, mb.count, mb.count, none⟩,
    { mb with stats := { mb.stats with dropped := mb.stats.dropped + 1 } }, w)

def pushCoalesced (cb : Callbacks P ω) (mb : Mailbox P) (msg : Msg P) (w : ω) :
    Result × MailboxDeliveryReport × Mailbox P × ω :=
  match mb.findEventSlot msg.eventId false with
  | some slot =>
    (.ok, ⟨.coalesced, .ok, mb.count, mb.count, some slot⟩,
      { mb with stats := { mb.stats with coalesced := mb.stats.coalesced + 1 } }, w)
  | none =>
    if mb.storageCount ≤ mb.count then mb.dropArrival w else mb.pushReported cb msg w

def pushLatestOnly (cb : Callbacks P ω) (mb : Mailbox P) (msg : Msg P) (w : ω) :
    Result × MailboxDeliveryReport × Mailbox P × ω :=
  match mb.findEventSlot msg.eventId true with
  | some slot =>
    let swapped := mb.replaceSlot cb slot msg w
    let mb' := swapped.2.1
    if swapped.1 = .ok then
      (.ok, ⟨.replaced, .ok, mb.count, mb'.count, some slot⟩,
        { mb' with stats := { mb'.stats with replaced := mb'.stats.replaced + 1 } }, swapped.2.2)
    else
      (swapped.1, ⟨.rejected, swapped.1, mb.count, mb'.count, some slot⟩, mb'.countRejected,
        swapped.2.2)
  | none =>
    if mb.storageCount ≤ mb.count then mb.dropArrival w else mb.pushReported cb msg w

def pushQos (cb : Callbacks P ω) (mb : Mailbox P) (msg : Msg P) (qos : RouteQos) (w : ω) :
    Result × MailboxDeliveryReport × Mailbox P × ω :=
  if msg.validate ≠ .ok then
    (msg.validate, ⟨.rejected, msg.validate, mb.count, mb.count, none⟩, mb.countRejected, w)
  else if qos = .coalesced then mb.pushCoalesced cb msg w
  else if qos = .latestOnly then mb.pushLatestOnly cb msg w
  else mb.pushReported cb msg w

def pop (mb : Mailbox P) : Result × Option (Msg P) × Mailbox P :=
  if mb.count = 0 then (.errEmpty, none, mb)
  else match mb.kind with
    | .fifo8 | .fifo16 | .lossyRing8 =>
      (.ok, some (mb.storage mb.head), { mb with
        storage := Function.update mb.storage mb.head Msg.blank
        head := mb.indexAdvance mb.head
        count := mb.count - 1
        stats := { mb.stats with popped := mb.stats.popped + 1 } })
    | .mailbox1 | .coalescedFlag =>
      (.ok, some (mb.storage 0), { mb with
        storage := Function.update mb.storage 0 Msg.blank
        count := 0
        stats := { mb.stats with popped := mb.stats.popped + 1 } })

def isEmpty (mb : Mailbox P) : Bool := mb.count == 0

theorem pop_cases (mb : Mailbox P) :
    (mb.count = 0 ∧ mb.pop = (.errEmpty, none, mb)) ∨
      ∃ msg mb', mb.count ≠ 0 ∧ mb.pop = (.ok, some msg, mb') ∧
        mb'.stats.popped = mb.stats.popped + 1 := by
  by_cases hempty : mb.count = 0
  · exact Or.inl ⟨hempty, if_pos hempty⟩
  · right
    unfold pop
    rw [if_neg hempty]
    cases mb.kind
    all_goals exact ⟨_, _, hempty, rfl, rfl⟩

section Popped

variable (cb : Callbacks P ω) (mb : Mailbox P) (msg : Msg P) (w : ω)

@[simp] theorem recordHighWatermark_popped :
    mb.recordHighWatermark.stats.popped = mb.stats.popped := by
  unfold recordHighWatermark
  split <;> rfl

@[simp] theorem storeAt_popped (index : Nat) : (mb.storeAt index msg).2.stats.popped = mb.stats.popped := by
  unfold storeAt
  split <;> rfl

@[simp] theorem disposeSlot_popped (index : Nat) :
    (mb.disposeSlot cb index w).2.1.stats.popped = mb.stats.popped := by
  unfold disposeSlot
  split <;> rfl

theorem replaceSlot_popped (index : Nat) :
    (mb.replaceSlot cb index msg w).2.1.stats.popped = mb.stats.popped := by
  unfold replaceSlot
  simp only
  split
  · rfl
  · split
    · exact disposeSlot_popped ..
    · split <;> simp

@[simp] theorem appendAtTail_popped : (mb.appendAtTail cb msg w).2.1.stats.popped = mb.stats.popped := by
  unfold appendAtTail
  simp only
  split <;> simp [countRejected]

theorem pushFifo_popped : (mb.pushFifo cb msg w).2.1.stats.popped = mb.stats.popped := by
  unfold pushFifo
  simp only
  split
  · rfl
  · split
    · rfl
    · exact appendAtTail_popped ..

theorem pushMailbox1_popped : (mb.pushMailbox1 cb msg w).2.1.stats.popped = mb.stats.popped := by
  unfold pushMailbox1
  simp only
  split
  · rfl
  · generalize hcleared : (if mb.count ≠ 0 then
      (mb.disposeSlot cb 0 (retainForQueue cb msg w).2).2 else (mb, (retainForQueue cb msg w).2)) = cleared
    have hkept : cleared.1.stats.popped = mb.stats.popped := by
      rw [← hcleared]
      split <;> simp
    split
    · simp [countRejected, hkept]
    · simp only [recordHighWatermark_popped]
      split <;> simp [hkept]

theorem pushLossyRing_popped : (mb.pushLossyRing cb msg w).2.1.stats.popped = mb.stats.popped := by
  unfold pushLossyRing
  simp only
  split
  · rfl
  · rw [appendAtTail_popped]
    split
    · simp [evictHead]
    · rfl

theorem pushCoalescedFlag_popped : (mb.pushCoalescedFlag msg w).2.1.stats.popped = mb.stats.popped := by
  unfold pushCoalescedFlag
  simp only
  split
  · rfl
  · split
    · split <;> simp [countRejected]
    · split <;> rfl

theorem push_popped : (mb.push cb msg w).2.1.stats.popped = mb.stats.popped := by
  unfold push
  split
  · rfl
  · split
    · exact pushFifo_popped ..
    · exact pushFifo_popped ..
    · exact pushMailbox1_popped ..
    · exact pushLossyRing_popped ..
    · exact pushCoalescedFlag_popped ..

theorem pushReported_popped : (mb.pushReported cb msg w).2.2.1.stats.popped = mb.stats.popped :=
  push_popped ..

theorem pushCoalesced_popped :
    (mb.pushCoalesced cb msg w).2.2.1.stats.popped = mb.stats.popped := by
  have hreported := pushReported_popped cb mb msg w
  unfold pushCoalesced
  generalize mb.pushReported cb msg w = reported at hreported ⊢
  split
  · rfl
  · split
    · rfl
    · exact hreported

theorem pushLatestOnly_popped :
    (mb.pushLatestOnly cb msg w).2.2.1.stats.popped = mb.stats.popped := by
  have hreported := pushReported_popped cb mb msg w
  unfold pushLatestOnly
  generalize mb.pushReported cb msg w = reported at hreported ⊢
  split
  · rename_i slot _
    have hreplaced := replaceSlot_popped cb mb msg w slot
    generalize mb.replaceSlot cb slot msg w = swapped at hreplaced ⊢
    simp only
    split
    · exact hreplaced
    · exact hreplaced
  · split
    · rfl
    · exact hreported

theorem pushQos_popped (qos : RouteQos) :
    (mb.pushQos cb msg qos w).2.2.1.stats.popped = mb.stats.popped := by
  have hcoalesced := pushCoalesced_popped cb mb msg w
  have hlatest := pushLatestOnly_popped cb mb msg w
  have hreported := pushReported_popped cb mb msg w
  unfold pushQos
  split
  · rfl
  · split
    · exact hcoalesced
    · split
      · exact hlatest
      · exact hreported

end Popped
end Mailbox

end EventFramework
