import EventFramework.Library.Machine
import EventFramework.Runtime.NetworkOutbox
import Mathlib.Order.Bounds.Basic

/-!
# The history of the network outbox

Items leave the ring at its head only, popped or evicted, so the outbox is the end of the
list of accepted items. The history keeps that list; no operation reads it.
-/

namespace EventFramework
set_option autoImplicit false

open RingWindow

/-- The arguments of one push: `size` bytes can be read behind a payload pointer. -/
structure NetworkPush where
  policy : NetworkBackpressurePolicy
  category : NetworkMsgCategory
  payload : Option (List UInt8)
  size : Nat
  readable : ∀ data, payload = some data → size ≤ data.length

inductive OutboxCall where
  | push (request : NetworkPush)
  | pop

inductive OutboxExit where
  | popped
  | evicted
  deriving DecidableEq, Repr

structure OutboxHistory where
  outbox : NetworkOutbox := .init
  /-- The pushes that returned `EV_OK` and the items they stored. -/
  accepted : List (NetworkPush × NetworkOutboxItem) := []
  /-- The items that left, in their order. -/
  left : List (NetworkOutboxItem × OutboxExit) := []

namespace OutboxHistory

/-- A push that moves `read_seq` has evicted the head. -/
def step (h : OutboxHistory) : OutboxCall → OutboxHistory
  | .push request =>
    let out := h.outbox.push request.policy request.category request.payload request.size
    { outbox := out.2
      accepted := if out.1 = .ok then
          h.accepted ++ [(request, h.outbox.stored request.category request.payload request.size)]
        else h.accepted
      left := if out.2.readSeq = h.outbox.readSeq then h.left
        else h.left ++ [(h.outbox.items h.outbox.headIndex, .evicted)] }
  | .pop =>
    let out := h.outbox.pop
    { outbox := out.2.2
      accepted := h.accepted
      left := h.left ++ out.2.1.toList.map fun item => (item, .popped) }

def popped (h : OutboxHistory) : List NetworkOutboxItem :=
  (h.left.filter fun exit => exit.2 = .popped).map Prod.fst

def evicted (h : OutboxHistory) : List NetworkOutboxItem :=
  (h.left.filter fun exit => exit.2 = .evicted).map Prod.fst

/-- The outbox is a bounded first-in first-out queue whose counters count. -/
structure Kept (h : OutboxHistory) : Prop where
  wf : h.outbox.Wf
  order : h.accepted.map Prod.snd = h.left.map Prod.fst ++ h.outbox.queued
  accepted : h.outbox.accepted = UInt32.ofNat h.accepted.length
  dropped : h.outbox.dropped = UInt32.ofNat h.evicted.length
  highWater : h.outbox.pending ≤ h.outbox.highWater.toNat

theorem init_kept : Kept {} := by
  refine ⟨NetworkOutbox.init_wf, ?_, rfl, rfl, by decide⟩
  have hnone : NetworkOutbox.init.queued = [] := rfl
  rw [hnone]
  rfl

end OutboxHistory

namespace NetworkOutbox

theorem dropHead_fields (outbox : NetworkOutbox) :
    outbox.dropHead.readSeq = outbox.readSeq + 1 ∧ outbox.dropHead.dropped = outbox.dropped + 1 ∧
      outbox.dropHead.accepted = outbox.accepted ∧ outbox.dropHead.highWater = outbox.highWater ∧
      outbox.dropHead.writeSeq = outbox.writeSeq := by
  unfold dropHead uncount
  simp only
  split <;> exact ⟨rfl, rfl, rfl, rfl, rfl⟩

structure Enqueued (outbox : NetworkOutbox) (out : Result × NetworkOutbox) : Prop where
  readSeq : out.2.readSeq = outbox.readSeq
  dropped : out.2.dropped = outbox.dropped
  accepted : out.2.accepted = if out.1 = .ok then outbox.accepted + 1 else outbox.accepted
  highWater : out.2.highWater.toNat = max outbox.highWater.toNat
    (if out.1 = .ok then outbox.pending + 1 else 0)

theorem enqueue_enqueued {outbox : NetworkOutbox} (h : outbox.Wf) (category : NetworkMsgCategory)
    (payload : Option (List UInt8)) (size : Nat) :
    Enqueued outbox (outbox.enqueue category payload size outbox.pendingU32) := by
  have hle := h.pending_le
  have hsucc : (outbox.pendingU32 + 1).toNat = outbox.pending + 1 := by
    rw [UInt32.toNat_add, UInt32.toNat_one]
    exact Nat.mod_eq_of_lt (by unfold pending at hle; omega)
  unfold enqueue
  split
  · exact ⟨rfl, rfl, rfl, by simp [reject]⟩
  · refine ⟨rfl, rfl, rfl, ?_⟩
    simp only [if_true]
    split
    · rename_i hlt
      rw [UInt32.lt_iff_toNat_lt, hsucc] at hlt
      rw [hsucc]
      omega
    · rename_i hge
      rw [UInt32.lt_iff_toNat_lt, hsucc] at hge
      omega

theorem push_enqueued {outbox : NetworkOutbox} (h : outbox.Wf) (policy : NetworkBackpressurePolicy)
    (category : NetworkMsgCategory) (payload : Option (List UInt8)) (size : Nat) :
    (outbox.Drops policy category →
        outbox.dropHead.Wf ∧
          Enqueued outbox.dropHead (outbox.push policy category payload size)) ∧
      (¬ outbox.Drops policy category →
        Enqueued outbox (outbox.push policy category payload size)) := by
  have hseqs := outbox.dropHead_fields
  have hpending : outbox.pendingU32 - 1 = outbox.dropHead.pendingU32 := by
    simp only [pendingU32, hseqs]
    grind
  constructor
  · rintro ⟨hvalid, hlimit, hdrop⟩
    have hwf : outbox.dropHead.Wf := by
      cases hq : outbox.queued with
      | nil =>
        have hlen := outbox.length_queued
        have hpos : 0 < outbox.pending := by
          have := hdrop.2
          rwa [UInt32.lt_iff_toNat_lt] at this
        rw [hq, List.length_nil] at hlen
        omega
      | cons first rest => exact (h.dropHead hq).1
    refine ⟨hwf, ?_⟩
    have henqueued := enqueue_enqueued hwf category payload size
    rw [← hpending] at henqueued
    simpa only [push, hvalid, hlimit, hdrop, Bool.not_true, Bool.false_eq_true, if_false, if_true,
      ne_eq, not_false_eq_true, and_self] using henqueued
  · intro hkeeps
    have hsame : ∀ rc, rc ≠ .ok → Enqueued outbox (rc, outbox) := by
      intro rc hrc
      exact ⟨rfl, rfl, (if_neg hrc).symm, by simp [hrc]⟩
    unfold push
    split
    · exact hsame _ (by simp)
    · rename_i hvalid
      simp only
      split
      · rename_i hlimit
        split
        · rename_i hdrop
          exact absurd ⟨by simpa using hvalid, hlimit, hdrop⟩ hkeeps
        · exact ⟨rfl, rfl, rfl, by simp [reject]⟩
      · exact enqueue_enqueued h category payload size

theorem pop_counters (outbox : NetworkOutbox) :
    outbox.pop.2.2.accepted = outbox.accepted ∧ outbox.pop.2.2.dropped = outbox.dropped ∧
      outbox.pop.2.2.highWater = outbox.highWater := by
  unfold pop uncount
  split
  · exact ⟨rfl, rfl, rfl⟩
  · simp only
    split <;> exact ⟨rfl, rfl, rfl⟩

end NetworkOutbox

namespace OutboxHistory

theorem evicted_append (outbox : NetworkOutbox) (accepted : List (NetworkPush × NetworkOutboxItem))
    (left : List (NetworkOutboxItem × OutboxExit)) (item : NetworkOutboxItem) :
    (evicted ⟨outbox, accepted, left ++ [(item, .evicted)]⟩).length =
        (evicted ⟨outbox, accepted, left⟩).length + 1 ∧
      (evicted ⟨outbox, accepted, left ++ [(item, .popped)]⟩).length =
        (evicted ⟨outbox, accepted, left⟩).length := by
  simp [evicted, List.filter_append]

inductive Pushed (h : OutboxHistory) (request : NetworkPush) : OutboxHistory → Prop where
  | evicted (outbox : NetworkOutbox) (first : NetworkOutboxItem) (rest : List NetworkOutboxItem)
      (item : NetworkOutboxItem)
      (hitem : item = h.outbox.stored request.category request.payload request.size)
      (hqueued : h.outbox.queued = first :: rest) (hafter : outbox.queued = rest ++ [item])
      (haccepted : outbox.accepted = h.outbox.accepted + 1)
      (hdropped : outbox.dropped = h.outbox.dropped + 1)
      (hhigh : outbox.highWater.toNat = max h.outbox.highWater.toNat outbox.pending) :
      Pushed h request ⟨outbox, h.accepted ++ [(request, item)], h.left ++ [(first, .evicted)]⟩
  | refused (outbox : NetworkOutbox) (hafter : outbox.queued = h.outbox.queued)
      (haccepted : outbox.accepted = h.outbox.accepted)
      (hdropped : outbox.dropped = h.outbox.dropped)
      (hhigh : outbox.highWater.toNat = h.outbox.highWater.toNat) :
      Pushed h request ⟨outbox, h.accepted, h.left⟩
  | stored (outbox : NetworkOutbox) (item : NetworkOutboxItem)
      (hitem : item = h.outbox.stored request.category request.payload request.size)
      (hafter : outbox.queued = h.outbox.queued ++ [item])
      (haccepted : outbox.accepted = h.outbox.accepted + 1)
      (hdropped : outbox.dropped = h.outbox.dropped)
      (hhigh : outbox.highWater.toNat = max h.outbox.highWater.toNat outbox.pending) :
      Pushed h request ⟨outbox, h.accepted ++ [(request, item)], h.left⟩

theorem push_pushed {h : OutboxHistory} (hwf : h.outbox.Wf) (request : NetworkPush) :
    (h.step (.push request)).outbox.Wf ∧ Pushed h request (h.step (.push request)) := by
  obtain ⟨hevicting, hkeeping⟩ := NetworkOutbox.push_enqueued hwf request.policy request.category
    request.payload request.size
  obtain ⟨hwf', hcases⟩ := NetworkOutbox.push_cases hwf request.policy request.category
    request.payload request.size
  refine ⟨hwf', ?_⟩
  have hlength := (h.outbox.push request.policy request.category request.payload
    request.size).2.length_queued
  have hlength' := h.outbox.length_queued
  simp only [step]
  generalize h.outbox.push request.policy request.category request.payload request.size = out at *
  rcases hcases with ⟨hdrops, hok, first, rest, hq, hafter⟩ | ⟨hkeeps, hfail, hsame⟩ |
    ⟨hkeeps, hok, hafter, _⟩
  · obtain ⟨_, henqueued⟩ := hevicting hdrops
    obtain ⟨hread, hdropped, haccepted, hhighWater, _⟩ := h.outbox.dropHead_fields
    obtain ⟨_, hrest⟩ := hwf.dropHead hq
    have hleft : ¬ out.2.readSeq = h.outbox.readSeq := by
      rw [henqueued.readSeq, hread]
      intro he
      have hnat := congrArg UInt32.toNat he
      have hlt := h.outbox.readSeq.toNat_lt
      rw [UInt32.toNat_add, UInt32.toNat_one] at hnat
      omega
    rw [if_pos hok, if_neg hleft, NetworkOutbox.queued_head hq]
    refine .evicted out.2 first rest _ rfl hq hafter ?_ ?_ ?_
    · rw [henqueued.accepted, if_pos hok, haccepted]
    · rw [henqueued.dropped, hdropped]
    · rw [henqueued.highWater, if_pos hok, hhighWater, ← NetworkOutbox.length_queued, hrest,
        ← hlength, hafter, List.length_append, List.length_singleton]
  · have henqueued := hkeeping hkeeps
    rw [if_neg hfail, if_pos henqueued.readSeq]
    refine .refused out.2 hsame ?_ henqueued.dropped ?_
    · rw [henqueued.accepted, if_neg hfail]
    · rw [henqueued.highWater, if_neg hfail, Nat.max_zero]
  · have henqueued := hkeeping hkeeps
    rw [if_pos hok, if_pos henqueued.readSeq]
    refine .stored out.2 _ rfl hafter ?_ henqueued.dropped ?_
    · rw [henqueued.accepted, if_pos hok]
    · rw [henqueued.highWater, if_pos hok, ← hlength', ← hlength, hafter, List.length_append,
        List.length_singleton]

theorem ofNat_succ (n : Nat) : UInt32.ofNat n + 1 = UInt32.ofNat (n + 1) := by
  rw [UInt32.ofNat_add]
  rfl

/-- Step lemma: every call keeps order, counters and the high watermark. -/
theorem step_kept {h : OutboxHistory} (hkept : h.Kept) (call : OutboxCall) :
    (h.step call).Kept ∧ (h.step call).outbox.highWater.toNat =
      max h.outbox.highWater.toNat (h.step call).outbox.pending := by
  obtain ⟨hwf, horder, haccepted, hdropped, hhigh⟩ := hkept
  cases call with
  | push request =>
    obtain ⟨hwf', hpushed⟩ := push_pushed hwf request
    generalize h.step (.push request) = h' at hwf' hpushed
    cases hpushed with
    | evicted outbox first rest item _ hq hafter hacc hdrop hmax =>
      refine ⟨⟨hwf', ?_, ?_, ?_, ?_⟩, hmax⟩
      · simp [horder, hq, hafter]
      · rw [hacc, haccepted, ofNat_succ, List.length_append, List.length_singleton]
      · rw [hdrop, hdropped, (evicted_append ..).1, ofNat_succ]
        rfl
      · rw [hmax]
        exact Nat.le_max_right _ _
    | refused outbox hafter hacc hdrop hsame =>
      have hpending : outbox.pending = h.outbox.pending := by
        rw [← NetworkOutbox.length_queued, hafter, NetworkOutbox.length_queued]
      refine ⟨⟨hwf', ?_, hacc.trans haccepted, hdrop.trans hdropped, ?_⟩, ?_⟩
      · simp [horder, hafter]
      · simp only [hsame, hpending]
        exact hhigh
      · simp only [hsame, hpending]
        omega
    | stored outbox item _ hafter hacc hdrop hmax =>
      refine ⟨⟨hwf', ?_, ?_, hdrop.trans hdropped, ?_⟩, hmax⟩
      · simp [horder, hafter]
      · rw [hacc, haccepted, ofNat_succ, List.length_append, List.length_singleton]
      · rw [hmax]
        exact Nat.le_max_right _ _
  | pop =>
    obtain ⟨hacc, hdrop, hsame⟩ := h.outbox.pop_counters
    obtain ⟨hwf', ⟨hnone, hpop⟩ | ⟨first, hq, _, hout⟩⟩ := NetworkOutbox.pop_cases hwf
    · have hstill : h.step .pop = h := by simp [step, hpop]
      rw [hstill]
      exact ⟨⟨hwf, horder, haccepted, hdropped, hhigh⟩, by omega⟩
    · have hlength := congrArg List.length hq
      rw [NetworkOutbox.length_queued, List.length_cons, NetworkOutbox.length_queued] at hlength
      have hleft : h.step .pop = ⟨h.outbox.pop.2.2, h.accepted, h.left ++ [(first, .popped)]⟩ := by
        simp [step, hout]
      rw [hleft]
      refine ⟨⟨hwf', ?_, hacc.trans haccepted, ?_, ?_⟩, ?_⟩
      · simp [horder, hq]
      · rw [(evicted_append ..).2]
        exact hdrop.trans hdropped
      · simp only [hsame]
        omega
      · simp only [hsame]
        omega

/-- What the outbox is for, said of one history. -/
structure Fifo (h : OutboxHistory) : Prop where
  pending_le : h.outbox.pending ≤ networkOutboxCapacity.toNat
  queuedByCategory : ∀ category, h.outbox.queuedByCategory category =
    (h.outbox.queued.filter fun item => item.category = category).length
  /-- The accepted items are those that left, in that order, and then those queued. -/
  order : h.accepted.map Prod.snd = h.left.map Prod.fst ++ h.outbox.queued
  length : h.accepted.length = h.popped.length + h.evicted.length + h.outbox.pending
  counters : h.outbox.accepted = UInt32.ofNat h.accepted.length ∧
    h.outbox.dropped = UInt32.ofNat h.evicted.length ∧
    h.outbox.accepted = UInt32.ofNat h.popped.length + h.outbox.dropped + h.outbox.pendingU32
  refused : ∀ policy category payload size,
    (h.outbox.push policy category payload size).1 ≠ .ok →
      (h.outbox.push policy category payload size).2.queued = h.outbox.queued

theorem popped_evicted_length (left : List (NetworkOutboxItem × OutboxExit)) :
    (left.filter fun exit => exit.2 = .popped).length +
      (left.filter fun exit => exit.2 = .evicted).length = left.length := by
  induction left with
  | nil => rfl
  | cons exit rest ih =>
    obtain ⟨item, way⟩ := exit
    cases way <;> simp <;> omega

theorem Kept.fifo {h : OutboxHistory} (hkept : h.Kept) : h.Fifo := by
  obtain ⟨hwf, horder, haccepted, hdropped, _⟩ := hkept
  have hlength : h.accepted.length = h.popped.length + h.evicted.length + h.outbox.pending := by
    have hsum := congrArg List.length horder
    have hsplit := popped_evicted_length h.left
    simp only [List.length_map, List.length_append, NetworkOutbox.length_queued] at hsum
    simp only [popped, evicted, List.length_map]
    omega
  refine ⟨hwf.pending_le, ?_, horder, hlength, ⟨haccepted, hdropped, ?_⟩, ?_⟩
  · intro category
    rw [hwf.counts, NetworkOutbox.inCategory, List.countP_eq_length_filter]
    rfl
  · have hpending : h.outbox.pendingU32 = UInt32.ofNat h.outbox.pending :=
      (UInt32.ofNat_toNat).symm
    rw [haccepted, hlength, UInt32.ofNat_add, UInt32.ofNat_add, hdropped, hpending]
  · intro policy category payload size hfail
    rcases (NetworkOutbox.push_cases hwf policy category payload size).2 with
      ⟨_, hok, _⟩ | ⟨_, _, hsame⟩ | ⟨_, hok, _⟩
    · exact absurd hok hfail
    · exact hsame
    · exact absurd hok hfail

theorem always_kept (calls : List OutboxCall) : Machine.Always step Kept {} calls := by
  have hkeep : ∀ h call, Kept h → Kept (step h call) := fun _ call hkept => (step_kept hkept call).1
  exact Machine.always_of_step hkeep init_kept calls

theorem run_kept (calls : List OutboxCall) : Kept (Machine.run step {} calls) :=
  (always_kept calls).last

/-- Run lemma: the high watermark is the largest number of pending items met on the way. -/
theorem run_highWater (calls : List OutboxCall) :
    IsGreatest {n | ∃ earlier, earlier <+: calls ∧
      (Machine.run step {} earlier).outbox.pending = n}
      (Machine.run step {} calls).outbox.highWater.toNat := by
  induction calls using List.reverseRecOn with
  | nil =>
    refine ⟨⟨[], List.prefix_refl _, by decide⟩, ?_⟩
    rintro n ⟨earlier, hpre, rfl⟩
    rw [List.prefix_nil.mp hpre]
    decide
  | append_singleton calls call ih =>
    obtain ⟨⟨highest, hhighest, hreached⟩, hbound⟩ := ih
    have hmax := (step_kept (run_kept calls) call).2
    have hrun : Machine.run step {} (calls ++ [call]) = (Machine.run step {} calls).step call := by
      rw [Machine.run_append]
      rfl
    rw [hrun, hmax]
    constructor
    · rcases Nat.le_total (Machine.run step {} calls).outbox.highWater.toNat
        ((Machine.run step {} calls).step call).outbox.pending with hle | hle
      · exact ⟨calls ++ [call], List.prefix_refl _, by rw [hrun, Nat.max_eq_right hle]⟩
      · exact ⟨highest, hhighest.trans (List.prefix_append _ _), by rw [hreached, Nat.max_eq_left hle]⟩
    · rintro n ⟨earlier, hpre, rfl⟩
      rcases List.prefix_concat_iff.mp hpre with rfl | hpre
      · rw [hrun]
        exact Nat.le_max_right _ _
      · exact Nat.le_trans (hbound ⟨earlier, hpre, rfl⟩) (Nat.le_max_left _ _)

/-- Over every history of pushes under any policies and of pops the outbox is a bounded first-in
first-out queue with exact counts, and its high watermark is the largest pending ever. -/
theorem run_fifo (calls : List OutboxCall) :
    Fifo (Machine.run step {} calls) ∧
      IsGreatest {n | ∃ earlier, earlier <+: calls ∧
        (Machine.run step {} earlier).outbox.pending = n}
        (Machine.run step {} calls).outbox.highWater.toNat :=
  ⟨(run_kept calls).fifo, run_highWater calls⟩

end OutboxHistory

/-! ### Payloads -/

/-- The bytes that a push hands over; a null pointer has none to hand over. -/
def NetworkPush.message (request : NetworkPush) : Option (List UInt8) :=
  match request.payload with
  | some data => some (data.take request.size)
  | none => if request.size = 0 then some [] else none

/-- The bytes of an item: a reader looks at the first `size` ones. -/
def NetworkOutboxItem.content (item : NetworkOutboxItem) : List UInt8 := item.payload.take item.size

/-- A payload that fits in an item, and that is there. -/
def NetworkPush.Storable (request : NetworkPush) : Prop :=
  request.size ≤ networkPayloadBytes ∧ (request.payload = none → request.size = 0)

/-- The item holds the message of the push and nothing else. -/
def NetworkPush.KeptIn (request : NetworkPush) (item : NetworkOutboxItem) : Prop :=
  item.size = request.size ∧ request.message = some item.content

/-- A push that finds room, or a head that its policy lets it evict. -/
def NetworkOutbox.Accepts (outbox : NetworkOutbox) (request : NetworkPush) : Prop :=
  request.category.isValid = true ∧
    if request.policy.categoryLimit request.category ≠ 0 ∧
        request.policy.categoryLimit request.category ≤ outbox.queuedByCategory request.category then
      request.policy.dropOldest request.category ≠ 0 ∧ 0 < outbox.pending
    else outbox.pending < networkOutboxCapacity.toNat

/-- What a push stores is its message just when the payload is storable. -/
theorem NetworkOutbox.stored_keptIn_iff (outbox : NetworkOutbox) (request : NetworkPush) :
    request.KeptIn (outbox.stored request.category request.payload request.size) ↔
      request.Storable := by
  have hreadable := request.readable
  unfold NetworkPush.KeptIn NetworkPush.Storable NetworkPush.message NetworkOutboxItem.content stored
    copyPayload
  cases hpayload : request.payload with
  | none =>
    by_cases hzero : request.size = 0
    · simp [hzero]
    · simp [hzero]
  | some data =>
    have hlength := hreadable data hpayload
    by_cases hfits : request.size ≤ networkPayloadBytes
    · have hmin : min request.size networkPayloadBytes = request.size := Nat.min_eq_left hfits
      simp only [hmin, hfits, true_and, reduceCtorEq, false_implies, and_true, iff_true,
        Option.some.injEq]
      by_cases hpos : 0 < request.size
      · rw [if_pos hpos, List.take_append_of_le_length (by rw [List.length_take]; omega),
          List.take_take, Nat.min_self]
      · have hzero : request.size = 0 := by omega
        simp [hzero]
    · refine iff_of_false ?_ fun h => hfits h.1
      rintro ⟨hsize, _⟩
      simp only at hsize
      omega

namespace OutboxHistory

/-- Every accepted push is answered by the item that left for it or still waits: same size,
same bytes. -/
def Delivers (h : OutboxHistory) : Prop :=
  List.Forall₂ NetworkPush.KeptIn (h.accepted.map Prod.fst) (h.left.map Prod.fst ++ h.outbox.queued)

/-- A push that would be accepted is storable. -/
def StorableCall (h : OutboxHistory) : OutboxCall → Prop
  | .push request => h.outbox.Accepts request → request.Storable
  | .pop => True

theorem delivers_iff {h : OutboxHistory} (hkept : h.Kept) :
    h.Delivers ↔ ∀ entry ∈ h.accepted, entry.1.KeptIn entry.2 := by
  unfold Delivers
  rw [← hkept.order, List.forall₂_map_left_iff, List.forall₂_map_right_iff, List.forall₂_same]

theorem accepts_iff {outbox : NetworkOutbox} (hwf : outbox.Wf) (request : NetworkPush) :
    (outbox.push request.policy request.category request.payload request.size).1 = .ok ↔
      outbox.Accepts request := by
  have hle := hwf.pending_le
  have henqueue : ∀ (box : NetworkOutbox) (pending : UInt32),
      (box.enqueue request.category request.payload request.size pending).1 = .ok ↔
        pending.toNat < networkOutboxCapacity.toNat := by
    intro box pending
    rw [← UInt32.lt_iff_toNat_lt]
    unfold NetworkOutbox.enqueue
    by_cases hfull : networkOutboxCapacity ≤ pending
    · rw [if_pos hfull]
      exact iff_of_false (by simp [NetworkOutbox.reject]) (UInt32.not_lt.mpr hfull)
    · rw [if_neg hfull]
      exact iff_of_true rfl (UInt32.not_le.mp hfull)
  unfold NetworkOutbox.push NetworkOutbox.Accepts
  by_cases hvalid : request.category.isValid = true
  · simp only [hvalid, Bool.not_true, Bool.false_eq_true, if_false, true_and]
    split
    · have hpos : 0 < outbox.pendingU32 ↔ 0 < outbox.pending := UInt32.lt_iff_toNat_lt
      rw [← hpos]
      by_cases hdrop : request.policy.dropOldest request.category ≠ 0 ∧ 0 < outbox.pendingU32
      · rw [if_pos hdrop, henqueue]
        refine iff_of_true ?_ hdrop
        have hsmall : outbox.pendingU32.toNat ≤ 8 := hle
        have hsome : 0 < outbox.pendingU32.toNat := hpos.mp hdrop.2
        have hone : (1 : UInt32) ≤ outbox.pendingU32 := UInt32.le_iff_toNat_le.mpr hsome
        have hcapacity : networkOutboxCapacity.toNat = 8 := rfl
        rw [UInt32.toNat_sub_of_le _ _ hone, hcapacity, UInt32.toNat_one]
        omega
      · rw [if_neg hdrop]
        exact iff_of_false (by simp [NetworkOutbox.reject]) hdrop
    · exact henqueue _ _
  · simp [hvalid]

theorem step_delivers_iff {h : OutboxHistory} (hkept : h.Kept) (hdelivers : h.Delivers)
    (call : OutboxCall) : (h.step call).Delivers ↔ h.StorableCall call := by
  have hkept' := (step_kept hkept call).1
  have hold := (delivers_iff hkept).mp hdelivers
  rw [delivers_iff hkept']
  cases call with
  | pop => exact iff_of_true hold trivial
  | push request =>
    have haccepts := accepts_iff hkept.wf request
    have hstored := h.outbox.stored_keptIn_iff request
    simp only [StorableCall, ← haccepts, ← hstored, step]
    by_cases hok : (h.outbox.push request.policy request.category request.payload request.size).1 = .ok
    · rw [if_pos hok]
      simp only [List.forall_mem_append, List.forall_mem_singleton, hok, forall_const]
      exact and_iff_right hold
    · rw [if_neg hok]
      exact iff_of_true hold fun hrc => absurd hrc hok

/-- In the histories whose accepted pushes are all storable, and only in those, every accepted
message leaves the outbox, or waits in it, with its size and its bytes. -/
theorem always_delivers_iff (calls : List OutboxCall) :
    Machine.Always step Delivers {} calls ↔ Machine.Each step StorableCall {} calls := by
  have hboth := Machine.always_iff_each (fun h => Kept h ∧ Delivers h) StorableCall
    (fun h call hh => by
      rw [step_delivers_iff hh.1 hh.2 call]
      exact and_iff_right (step_kept hh.1 call).1) {} calls
  have hstart : Kept {} ∧ Delivers {} := ⟨init_kept, .nil⟩
  rw [and_iff_right hstart] at hboth
  rw [← hboth]
  exact ⟨fun h earlier hpre => ⟨always_kept calls earlier hpre, h earlier hpre⟩,
    fun h earlier hpre => (h earlier hpre).2⟩

def unlimitedPolicy : NetworkBackpressurePolicy := ⟨fun _ => 0, fun _ => 0⟩

def longPush : NetworkPush where
  policy := unlimitedPolicy
  category := .telemetryPeriodic
  payload := some (List.replicate 65 1)
  size := 65
  readable := by
    rintro data ⟨⟩
    decide

/-- A message of 65 bytes is accepted, and 64 bytes of it come out. -/
theorem not_delivers_long :
    (NetworkOutbox.init.push unlimitedPolicy .telemetryPeriodic longPush.payload 65).1 = .ok ∧
      (Machine.run step {} [.push longPush, .pop]).popped.map NetworkOutboxItem.content =
        [List.replicate 64 1] ∧
      ¬ Machine.Always step Delivers {} [.push longPush, .pop] := by
  refine ⟨by decide +kernel, by decide +kernel, fun halways => ?_⟩
  have hpush := halways [.push longPush] ⟨[.pop], rfl⟩
  have hstorable := (step_delivers_iff init_kept .nil (.push longPush)).mp hpush
  exact absurd (hstorable ⟨by decide, by decide⟩).1 (by decide)

end OutboxHistory

end EventFramework
