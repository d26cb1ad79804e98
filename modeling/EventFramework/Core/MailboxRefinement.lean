import EventFramework.Library.RingWindow
import EventFramework.Core.MailboxQueue

/-!
# The mailbox refines the bounded queue

`Holds mb queued` says that the ring of `mb` is well formed and that its live window
reads as `queued`. Every mailbox operation is one step of the queue on that list.
-/

namespace EventFramework
set_option autoImplicit false

open RingWindow

variable {P ω : Type}

theorem MailboxKind.capacity_pos (kind : MailboxKind) : 0 < kind.capacity := by
  cases kind <;> decide

namespace Mailbox

/-- The messages read from `head`. -/
def queued (mb : Mailbox P) : List (Msg P) := window mb.storage mb.storageCount mb.head mb.count

/-- The ring invariant. The one-slot kinds satisfy it with `head` and `tail` at zero. -/
structure Wf (mb : Mailbox P) : Prop where
  storageCount_eq : mb.storageCount = mb.kind.capacity
  storageMask_eq : mb.storageMask = mb.kind.capacity - 1
  count_le : mb.count ≤ mb.storageCount
  head_lt : mb.head < mb.storageCount
  tail_eq : mb.tail = cell mb.storageCount mb.head mb.count
  valid : ∀ msg ∈ mb.queued, msg.validate = .ok
  vacant : ∀ slot, slot < mb.storageCount →
    (∀ i, i < mb.count → cell mb.storageCount mb.head i ≠ slot) → (mb.storage slot).Empty

def Holds (mb : Mailbox P) (q : List (Msg P)) : Prop := mb.Wf ∧ mb.queued = q

theorem fresh_holds (kind : MailboxKind) : (fresh kind : Mailbox P).Holds [] := by
  refine ⟨⟨rfl, rfl, Nat.zero_le _, kind.capacity_pos, ?_, by simp [queued, fresh], ?_⟩, rfl⟩
  · exact (cell_zero kind.capacity_pos).symm
  · intro slot _ _
    exact Msg.zeroed_empty

theorem init_eq_fresh (kind : MailboxKind) :
    (init kind kind.capacity : Except Result (Mailbox P)) = .ok (fresh kind) := by
  cases kind <;> rfl

namespace Wf

variable {mb : Mailbox P}

theorem storageCount_pos (h : mb.Wf) : 0 < mb.storageCount := by
  rw [h.storageCount_eq]
  exact mb.kind.capacity_pos

theorem and_mask (h : mb.Wf) (index : Nat) : index &&& mb.storageMask = index % mb.storageCount := by
  rw [h.storageMask_eq, h.storageCount_eq]
  cases mb.kind
  · exact Nat.and_two_pow_sub_one_eq_mod index 3
  · exact Nat.and_two_pow_sub_one_eq_mod index 4
  · exact Nat.and_two_pow_sub_one_eq_mod index 0
  · exact Nat.and_two_pow_sub_one_eq_mod index 3
  · exact Nat.and_two_pow_sub_one_eq_mod index 0

theorem indexAdvance_eq (h : mb.Wf) (index : Nat) :
    mb.indexAdvance index = cell mb.storageCount index 1 := h.and_mask (index + 1)

theorem tail_lt (h : mb.Wf) : mb.tail < mb.storageCount := by
  rw [h.tail_eq]
  exact cell_lt h.storageCount_pos _ _

theorem cell_lt (h : mb.Wf) (i : Nat) : cell mb.storageCount mb.head i < mb.storageCount :=
  RingWindow.cell_lt h.storageCount_pos _ _

end Wf

theorem holds_withStats {mb : Mailbox P} {q : List (Msg P)} (stats : MailboxStats) :
    Holds { mb with stats := stats } q ↔ mb.Holds q :=
  ⟨fun ⟨⟨a, b, c, d, e, f, g⟩, hq⟩ => ⟨⟨a, b, c, d, e, f, g⟩, hq⟩,
    fun ⟨⟨a, b, c, d, e, f, g⟩, hq⟩ => ⟨⟨a, b, c, d, e, f, g⟩, hq⟩⟩

theorem holds_countRejected {mb : Mailbox P} {q : List (Msg P)} :
    mb.countRejected.Holds q ↔ mb.Holds q := holds_withStats _

theorem holds_recordHighWatermark {mb : Mailbox P} {q : List (Msg P)} :
    mb.recordHighWatermark.Holds q ↔ mb.Holds q := by
  unfold recordHighWatermark
  split
  · exact holds_withStats _
  · exact Iff.rfl

@[simp] theorem recordHighWatermark_kind (mb : Mailbox P) :
    mb.recordHighWatermark.kind = mb.kind := by
  unfold recordHighWatermark
  split <;> rfl

namespace Holds

variable {mb : Mailbox P} {q : List (Msg P)}

theorem count_eq (h : mb.Holds q) : mb.count = q.length := by
  rw [← h.2, queued, window_length]

theorem getElem? (h : mb.Holds q) {i : Nat} (hi : i < q.length) :
    q[i]? = some (mb.storage (cell mb.storageCount mb.head i)) := by
  rw [← h.2, queued, window_getElem?, if_pos (by rw [h.count_eq]; exact hi)]

theorem store (h : mb.Holds q) {msg : Msg P} (hv : msg.validate = .ok)
    (hroom : mb.count < mb.storageCount) (stats : MailboxStats) :
    Holds { mb with
      storage := Function.update mb.storage mb.tail msg
      tail := cell mb.storageCount mb.tail 1
      count := mb.count + 1
      stats := stats } (q ++ [msg]) := by
  obtain ⟨hwf, hq⟩ := h
  have hread : window (Function.update mb.storage mb.tail msg) mb.storageCount mb.head (mb.count + 1)
      = q ++ [msg] := by
    rw [hwf.tail_eq, window_push mb.storage msg hroom, ← hq, queued]
  refine ⟨⟨hwf.storageCount_eq, hwf.storageMask_eq, hroom, hwf.head_lt, ?_, ?_, ?_⟩, hread⟩
  · change cell mb.storageCount mb.tail 1 = cell mb.storageCount mb.head (mb.count + 1)
    rw [hwf.tail_eq]
    unfold cell
    rw [Nat.mod_add_mod, Nat.add_assoc]
  · intro m hm
    change m ∈ window _ _ _ _ at hm
    rw [hread] at hm
    rcases List.mem_append.mp hm with hm | hm
    · exact hwf.valid m (hq ▸ hm)
    · rw [List.mem_singleton.mp hm]
      exact hv
  · intro slot hslot hdead
    have hne : slot ≠ mb.tail := by
      intro he
      exact hdead mb.count (Nat.lt_succ_self _) (he ▸ hwf.tail_eq.symm)
    change (Function.update mb.storage mb.tail msg slot).Empty
    rw [Function.update_of_ne hne]
    exact hwf.vacant slot hslot fun i hi => hdead i (Nat.lt_succ_of_lt hi)

theorem dropHead {first : Msg P} {rest : List (Msg P)} (h : mb.Holds (first :: rest))
    (stats : MailboxStats) :
    Holds { mb with
      storage := Function.update mb.storage mb.head Msg.blank
      head := cell mb.storageCount mb.head 1
      count := mb.count - 1
      stats := stats } rest := by
  have hcount := h.count_eq
  obtain ⟨hwf, hq⟩ := h
  obtain ⟨n, hn⟩ : ∃ n, mb.count = n + 1 := ⟨rest.length, hcount⟩
  have hle := hwf.count_le
  have hhead : ∀ i, i < n → cell mb.storageCount (cell mb.storageCount mb.head 1) i ≠ mb.head := by
    intro i hi he
    rw [cell_succ] at he
    have hzero := cell_inj (i := i + 1) (j := 0) (by omega) (by omega)
      (he.trans (cell_zero hwf.head_lt).symm)
    omega
  have hread : window (Function.update mb.storage mb.head Msg.blank) mb.storageCount
      (cell mb.storageCount mb.head 1) n = rest := by
    rw [window_update_outside _ _ hhead]
    have hcons := window_cons mb.storage hwf.head_lt n
    rw [queued, hn, hcons] at hq
    exact (List.cons.inj hq).2
  simp only [hn, Nat.add_sub_cancel]
  refine ⟨⟨hwf.storageCount_eq, hwf.storageMask_eq, ?_, hwf.cell_lt 1, ?_, ?_, ?_⟩, hread⟩
  · change n ≤ mb.storageCount
    omega
  · change mb.tail = cell mb.storageCount (cell mb.storageCount mb.head 1) n
    rw [hwf.tail_eq, hn, cell_succ]
  · intro m hm
    change m ∈ window _ _ _ _ at hm
    rw [hread] at hm
    exact hwf.valid m (hq ▸ List.mem_cons_of_mem _ hm)
  · intro slot hslot hdead
    change (Function.update mb.storage mb.head Msg.blank slot).Empty
    by_cases he : slot = mb.head
    · rw [he, Function.update_self]
      exact Msg.blank_empty
    · rw [Function.update_of_ne he]
      apply hwf.vacant slot hslot
      intro i hi
      cases i with
      | zero =>
        rw [cell_zero hwf.head_lt]
        exact Ne.symm he
      | succ i =>
        rw [← cell_succ]
        exact hdead i (by change i < n; omega)

theorem overwrite (h : mb.Holds q) {msg : Msg P} (hv : msg.validate = .ok) {i : Nat}
    (hi : i < q.length) :
    Holds { mb with
      storage := Function.update mb.storage (cell mb.storageCount mb.head i) msg } (q.set i msg) := by
  have hcount := h.count_eq
  obtain ⟨hwf, hq⟩ := h
  have hread : window (Function.update mb.storage (cell mb.storageCount mb.head i) msg)
      mb.storageCount mb.head mb.count = q.set i msg := by
    rw [window_set mb.storage msg hwf.count_le (by omega), ← hq, queued]
  refine ⟨⟨hwf.storageCount_eq, hwf.storageMask_eq, hwf.count_le, hwf.head_lt, hwf.tail_eq, ?_, ?_⟩,
    hread⟩
  · intro m hm
    change m ∈ window _ _ _ _ at hm
    rw [hread] at hm
    rcases List.mem_or_eq_of_mem_set hm with hm | hm
    · exact hwf.valid m (hq ▸ hm)
    · exact hm ▸ hv
  · intro slot hslot hdead
    have hne : slot ≠ cell mb.storageCount mb.head i :=
      fun he => hdead i (by change i < mb.count; omega) he.symm
    change (Function.update mb.storage _ msg slot).Empty
    rw [Function.update_of_ne hne]
    exact hwf.vacant slot hslot hdead

end Holds

/-- A mailbox operation ended as the queue operation `spec` did. -/
structure Matches (kind : MailboxKind) (out : Result × Mailbox P × ω)
    (spec : Result × QueueState P ω) : Prop where
  result : out.1 = spec.1
  holds : out.2.1.Holds spec.2.queued
  kind_eq : out.2.1.kind = kind
  owners : out.2.2 = spec.2.owners

section Push

variable {mb : Mailbox P} {q : List (Msg P)} (cb : Callbacks P ω)

theorem offer_invalid {s : QueueState P ω} {arrival : Arrival} {msg : Msg P}
    (hv : msg.validate ≠ .ok) : s.offer cb arrival msg = (msg.validate, s) := by
  simp [QueueState.offer, hv]

/-- A queued message is live, so disposing its slot releases its share. -/
theorem disposeSlot_queued (h : mb.Holds q) {i : Nat} {msg : Msg P} (hi : q[i]? = some msg) (w : ω) :
    mb.disposeSlot cb (cell mb.storageCount mb.head i) w =
      (.ok, { mb with
        storage := Function.update mb.storage (cell mb.storageCount mb.head i) Msg.blank },
        msg.releasePayload cb w) := by
  have hlt := (List.getElem?_eq_some_iff.mp hi).1
  have hslot : mb.storage (cell mb.storageCount mb.head i) = msg := by
    have hget := h.getElem? hlt
    rw [hi] at hget
    exact (Option.some.inj hget).symm
  have hvalid : msg.validate = .ok := h.1.valid msg (h.2 ▸ List.mem_of_getElem? hi)
  obtain ⟨hcookie, hlive⟩ := Msg.validate_live hvalid
  have hbound := h.1.cell_lt i
  simp only [disposeSlot, Nat.not_le.mpr hbound, if_false, hslot, Msg.dispose_result,
    Msg.dispose_live cb hcookie hlive]

theorem appendAtTail_holds (h : mb.Holds q) {msg : Msg P} (hv : msg.validate = .ok)
    (hroom : mb.count < mb.storageCount) (w : ω) :
    (mb.appendAtTail cb msg w).1 = .ok ∧ (mb.appendAtTail cb msg w).2.1.Holds (q ++ [msg]) ∧
      (mb.appendAtTail cb msg w).2.1.kind = mb.kind ∧ (mb.appendAtTail cb msg w).2.2 = w := by
  have hstore := h.store hv hroom { mb.stats with posted := mb.stats.posted + 1 }
  have hadvance := h.1.indexAdvance_eq mb.tail
  have htail := h.1.tail_lt
  simp only [appendAtTail, storeAt, Nat.not_le.mpr htail, if_false, ne_eq, not_true_eq_false,
    recordHighWatermark_kind, and_self, true_and, and_true]
  rw [holds_recordHighWatermark]
  unfold indexAdvance at hadvance ⊢
  rw [hadvance]
  exact hstore

theorem pushFifo_matches (h : mb.Holds q) {msg : Msg P} (hv : msg.validate = .ok)
    (hk : mb.kind = .fifo8 ∨ mb.kind = .fifo16) (w : ω) :
    Matches mb.kind (mb.pushFifo cb msg w)
      ((QueueState.mk q w).offer cb (mb.kind.arrival q msg) msg) := by
  have hcount := h.count_eq
  have hcap := h.1.storageCount_eq
  have harrival : mb.kind.arrival q msg =
      if mb.kind.capacity ≤ q.length then .reject .errFull else .append := by
    rcases hk with hk | hk <;> rw [hk] <;> rfl
  rw [harrival, ← hcap, ← hcount]
  by_cases hfull : mb.storageCount ≤ mb.count
  · simp only [pushFifo, hfull, if_true, QueueState.offer, hv, ne_eq, not_true_eq_false, if_false]
    exact ⟨rfl, holds_countRejected.mpr h, rfl, rfl⟩
  · simp only [pushFifo, hfull, if_false, QueueState.offer, hv, ne_eq, not_true_eq_false]
    by_cases hr : (retainForQueue cb msg w).1 = .ok
    · obtain ⟨hrc, hholds, hkind, howners⟩ :=
        appendAtTail_holds cb h hv (Nat.lt_of_not_le hfull) (retainForQueue cb msg w).2
      simp only [hr, not_true_eq_false, if_false]
      exact ⟨hrc, hholds, hkind, howners⟩
    · simp only [hr, not_false_eq_true, if_true]
      exact ⟨rfl, holds_countRejected.mpr h, rfl, rfl⟩

theorem evictHead_holds {first : Msg P} {rest : List (Msg P)} (h : mb.Holds (first :: rest)) (w : ω) :
    (mb.evictHead cb w).1.Holds rest ∧ (mb.evictHead cb w).1.kind = mb.kind ∧
      (mb.evictHead cb w).1.storageCount = mb.storageCount ∧
      (mb.evictHead cb w).1.count = mb.count - 1 ∧
      (mb.evictHead cb w).2 = first.releasePayload cb w := by
  have hdispose := disposeSlot_queued cb h (i := 0) rfl w
  rw [cell_zero h.1.head_lt] at hdispose
  have hadvance := h.1.indexAdvance_eq mb.head
  have hdrop := h.dropHead { mb.stats with dropped := mb.stats.dropped + 1 }
  unfold indexAdvance at hadvance
  simp only [evictHead, hdispose, indexAdvance, hadvance, and_self, and_true]
  exact hdrop

theorem pushLossyRing_matches (h : mb.Holds q) {msg : Msg P} (hv : msg.validate = .ok)
    (hk : mb.kind = .lossyRing8) (w : ω) :
    Matches mb.kind (mb.pushLossyRing cb msg w)
      ((QueueState.mk q w).offer cb (mb.kind.arrival q msg) msg) := by
  have hcount := h.count_eq
  have harrival : mb.kind.arrival q msg =
      if mb.storageCount ≤ mb.count then .evictOldest else .append := by
    rw [h.1.storageCount_eq, hcount, hk]
    rfl
  rw [harrival]
  by_cases hr : (retainForQueue cb msg w).1 = .ok
  · by_cases hfull : mb.storageCount ≤ mb.count
    · cases q with
      | nil =>
        have := h.1.storageCount_pos
        simp only [List.length_nil] at hcount
        omega
      | cons first rest =>
        obtain ⟨hholds, hkind, hsize, hless, howners⟩ :=
          evictHead_holds cb h (retainForQueue cb msg w).2
        have hpos := h.1.storageCount_pos
        have hle := h.1.count_le
        obtain ⟨hrc, hholds', hkind', howners'⟩ := appendAtTail_holds cb hholds hv
          (by rw [hsize, hless]; omega) ((mb.evictHead cb (retainForQueue cb msg w).2).2)
        simp only [pushLossyRing, QueueState.offer, hr, hv, hfull, if_true, if_false, ne_eq,
          not_true_eq_false, Arrival.place, Arrival.removed, List.head?_cons, List.tail_cons,
          Option.elim]
        exact ⟨hrc, hholds', hkind'.trans hkind, howners'.trans howners⟩
    · obtain ⟨hrc, hholds, hkind, howners⟩ :=
        appendAtTail_holds cb h hv (Nat.lt_of_not_le hfull) (retainForQueue cb msg w).2
      simp only [pushLossyRing, QueueState.offer, hr, hv, hfull, if_false, ne_eq,
        not_true_eq_false]
      exact ⟨hrc, hholds, hkind, howners⟩
  · have hoffer : (QueueState.mk q w).offer cb
        (if mb.storageCount ≤ mb.count then .evictOldest else .append) msg =
        ((retainForQueue cb msg w).1, ⟨q, (retainForQueue cb msg w).2⟩) := by
      split <;> simp [QueueState.offer, hv, hr]
    rw [hoffer]
    simp only [pushLossyRing, hr, ne_eq, not_false_eq_true, if_true]
    exact ⟨rfl, holds_countRejected.mpr h, rfl, rfl⟩

/-- Retain first, then dispose the old copy, then store: the replacement of both
`MAILBOX_1` and `LATEST_ONLY`. -/
theorem replaceSlot_eq (h : mb.Holds q) {old : Msg P} {i : Nat} (hi : q[i]? = some old)
    (msg : Msg P) (w : ω) :
    mb.replaceSlot cb (cell mb.storageCount mb.head i) msg w =
      if (retainForQueue cb msg w).1 ≠ .ok then
        ((retainForQueue cb msg w).1, mb, (retainForQueue cb msg w).2)
      else
        (.ok, { mb with
          storage := Function.update mb.storage (cell mb.storageCount mb.head i) msg },
          old.releasePayload cb (retainForQueue cb msg w).2) := by
  have hdispose := disposeSlot_queued cb h hi (retainForQueue cb msg w).2
  have hbound := Nat.not_le.mpr (h.1.cell_lt i)
  simp only [replaceSlot, hdispose, ne_eq, not_true_eq_false, if_false, storeAt, hbound,
    Function.update_idem]

theorem pushMailbox1_matches (h : mb.Holds q) {msg : Msg P} (hv : msg.validate = .ok)
    (hk : mb.kind = .mailbox1) (w : ω) :
    Matches mb.kind (mb.pushMailbox1 cb msg w)
      ((QueueState.mk q w).offer cb (mb.kind.arrival q msg) msg) := by
  have hcount := h.count_eq
  have hsize : mb.storageCount = 1 := by rw [h.1.storageCount_eq, hk]; rfl
  have hhead : mb.head = 0 := by have := h.1.head_lt; omega
  have htail : mb.tail = 0 := by have := h.1.tail_lt; omega
  have hlow : ¬ mb.storageCount ≤ 0 := by omega
  have harrival : mb.kind.arrival q msg = if q.isEmpty then .append else .replaceAt 0 := by
    rw [hk]
    rfl
  rw [harrival]
  by_cases hr : (retainForQueue cb msg w).1 = .ok
  · cases q with
    | nil =>
      have hzero : mb.count = 0 := by simpa using hcount
      have hstore := h.store hv (by omega) { mb.stats with posted := mb.stats.posted + 1 }
      simp only [pushMailbox1, hr, hzero, storeAt, hlow, QueueState.offer, hv, ne_eq,
        not_true_eq_false, if_false, if_true, List.isEmpty_nil]
      refine ⟨rfl, ?_, by simp, rfl⟩
      rw [holds_recordHighWatermark]
      simpa only [htail, hzero, hsize, Nat.zero_add, cell, Nat.mod_one, Arrival.place] using hstore
    | cons old rest =>
      have hone : rest = [] := by
        have := h.1.count_le
        simp only [List.length_cons] at hcount
        exact List.length_eq_zero_iff.mp (by omega)
      subst hone
      have hpos : ¬ mb.count = 0 := by rw [hcount]; simp
      have hcell : cell mb.storageCount mb.head 0 = 0 := by rw [hhead, hsize]; rfl
      have hdispose := disposeSlot_queued cb h (i := 0) rfl (retainForQueue cb msg w).2
      have hover := h.overwrite hv (i := 0) (by simp)
      rw [hcell] at hdispose hover
      simp only [pushMailbox1, hr, hpos, hdispose, storeAt, hlow, QueueState.offer, hv, ne_eq,
        not_true_eq_false, not_false_eq_true, if_false, if_true, Function.update_idem,
        List.isEmpty_cons, Bool.false_eq_true, Arrival.place, Arrival.removed]
      refine ⟨rfl, ?_, by simp, rfl⟩
      rw [holds_recordHighWatermark]
      exact (holds_withStats _).mpr hover
  · have hoffer : (QueueState.mk q w).offer cb (if q.isEmpty then .append else .replaceAt 0) msg =
        ((retainForQueue cb msg w).1, ⟨q, (retainForQueue cb msg w).2⟩) := by
      split <;> simp [QueueState.offer, hv, hr]
    rw [hoffer]
    simp only [pushMailbox1, hr, ne_eq, not_false_eq_true, if_true]
    exact ⟨rfl, holds_countRejected.mpr h, rfl, rfl⟩

theorem retainForQueue_empty {msg : Msg P} (he : msg.Empty) (w : ω) :
    retainForQueue cb msg w = (.ok, w) := by
  simp [retainForQueue, he.1]

theorem pushCoalescedFlag_matches (h : mb.Holds q) {msg : Msg P} (hv : msg.validate = .ok)
    (hk : mb.kind = .coalescedFlag) (w : ω) :
    Matches mb.kind (mb.pushCoalescedFlag msg w)
      ((QueueState.mk q w).offer cb (mb.kind.arrival q msg) msg) := by
  have hcount := h.count_eq
  have hsize : mb.storageCount = 1 := by rw [h.1.storageCount_eq, hk]; rfl
  have hhead : mb.head = 0 := by have := h.1.head_lt; omega
  have htail : mb.tail = 0 := by have := h.1.tail_lt; omega
  have hlow : ¬ mb.storageCount ≤ 0 := by omega
  rw [hk]
  by_cases hload : msg.storage ≠ .none ∨ msg.payloadSize ≠ 0
  · simp only [pushCoalescedFlag, hload, if_true, QueueState.offer, hv, ne_eq, not_true_eq_false,
      if_false, MailboxKind.arrival]
    exact ⟨rfl, holds_countRejected.mpr h, hk, rfl⟩
  · have hempty : msg.Empty := by
      obtain ⟨hs, hp⟩ := not_or.mp hload
      exact ⟨not_not.mp hs, not_not.mp hp⟩
    cases q with
    | nil =>
      have hzero : mb.count = 0 := by simpa using hcount
      have hstore := h.store hv (by omega) { mb.stats with posted := mb.stats.posted + 1 }
      simp only [pushCoalescedFlag, hload, hzero, storeAt, hlow, QueueState.offer, hv, ne_eq,
        not_true_eq_false, if_false, if_true, MailboxKind.arrival, retainForQueue_empty cb hempty]
      refine ⟨rfl, ?_, by simpa using hk, rfl⟩
      rw [holds_recordHighWatermark]
      simpa only [htail, hzero, hsize, Nat.zero_add, cell, Nat.mod_one, Arrival.place] using hstore
    | cons first rest =>
      have hslot : mb.storage 0 = first := by
        have hget := h.getElem? (i := 0) (by simp)
        have hcell : cell mb.storageCount mb.head 0 = 0 := by rw [hhead, hsize]; rfl
        rw [hcell] at hget
        exact (Option.some.inj hget).symm
      have hpos : mb.count ≠ 0 := by rw [hcount]; simp
      by_cases hsame : first.eventId = msg.eventId
      · simp only [pushCoalescedFlag, hload, hpos, hslot, hsame, QueueState.offer, hv, ne_eq,
          not_true_eq_false, if_false, if_true, MailboxKind.arrival]
        exact ⟨rfl, (holds_withStats _).mpr h, hk, rfl⟩
      · simp only [pushCoalescedFlag, hload, hpos, hslot, hsame, QueueState.offer, hv, ne_eq,
          not_true_eq_false, not_false_eq_true, if_false, if_true, MailboxKind.arrival]
        exact ⟨rfl, holds_countRejected.mpr h, hk, rfl⟩

theorem push_matches (h : mb.Holds q) (msg : Msg P) (w : ω) :
    Matches mb.kind (mb.push cb msg w)
      ((QueueState.mk q w).offer cb (mb.kind.arrival q msg) msg) := by
  by_cases hv : msg.validate = .ok
  · cases hk : mb.kind with
    | fifo8 =>
      have hm := pushFifo_matches cb h hv (Or.inl hk) w
      simpa only [push, hv, hk, ne_eq, not_true_eq_false, if_false] using hm
    | fifo16 =>
      have hm := pushFifo_matches cb h hv (Or.inr hk) w
      simpa only [push, hv, hk, ne_eq, not_true_eq_false, if_false] using hm
    | mailbox1 =>
      have hm := pushMailbox1_matches cb h hv hk w
      simpa only [push, hv, hk, ne_eq, not_true_eq_false, if_false] using hm
    | lossyRing8 =>
      have hm := pushLossyRing_matches cb h hv hk w
      simpa only [push, hv, hk, ne_eq, not_true_eq_false, if_false] using hm
    | coalescedFlag =>
      have hm := pushCoalescedFlag_matches cb h hv hk w
      simpa only [push, hv, hk, ne_eq, not_true_eq_false, if_false] using hm
  · rw [offer_invalid cb hv]
    simp only [push, hv, ne_eq, not_false_eq_true, if_true]
    exact ⟨rfl, holds_countRejected.mpr h, rfl, rfl⟩

theorem pendingIndexAt_eq (h : mb.Holds q) {i : Nat} (hi : i < q.length) :
    mb.pendingIndexAt i = some (cell mb.storageCount mb.head i) := by
  have hcount := h.count_eq
  rw [pendingIndexAt, if_neg (by omega), h.1.and_mask]
  rfl

/-- The scan for the newest match, from offset `i` to the end of the window. -/
theorem findEventSlotFrom_latest (h : mb.Holds q) (eventId : EventId) (n : Nat) :
    ∀ i found, i + n = q.length →
      mb.findEventSlotFrom eventId true n i found =
        ((newestOf eventId (q.drop i)).map fun k => cell mb.storageCount mb.head (i + k)).or found := by
  induction n with
  | zero =>
    intro i found hi
    have hdrop : q.drop i = [] := List.drop_eq_nil_of_le (by omega)
    simp [findEventSlotFrom, hdrop, newestOf]
  | succ n ih =>
    intro i found hi
    have hlt : i < q.length := by omega
    have hdrop : q.drop i = mb.storage (cell mb.storageCount mb.head i) :: q.drop (i + 1) := by
      have hget := h.getElem? hlt
      rw [List.getElem?_eq_getElem hlt] at hget
      rw [List.drop_eq_getElem_cons hlt, Option.some.inj hget]
    simp only [findEventSlotFrom, pendingIndexAt_eq h hlt, if_true]
    rw [ih (i + 1) _ (by omega), ih (i + 1) _ (by omega), hdrop, newestOf]
    cases newestOf eventId (q.drop (i + 1)) with
    | some k => simp [Nat.add_comm, Nat.add_left_comm]
    | none => split <;> simp

theorem findEventSlotFrom_first (h : mb.Holds q) (eventId : EventId) (n : Nat) :
    ∀ i, i + n = q.length →
      (mb.findEventSlotFrom eventId false n i none).isSome = (newestOf eventId (q.drop i)).isSome := by
  induction n with
  | zero =>
    intro i hi
    have hdrop : q.drop i = [] := List.drop_eq_nil_of_le (by omega)
    simp [findEventSlotFrom, hdrop, newestOf]
  | succ n ih =>
    intro i hi
    have hlt : i < q.length := by omega
    have hdrop : q.drop i = mb.storage (cell mb.storageCount mb.head i) :: q.drop (i + 1) := by
      have hget := h.getElem? hlt
      rw [List.getElem?_eq_getElem hlt] at hget
      rw [List.drop_eq_getElem_cons hlt, Option.some.inj hget]
    have hrest := ih (i + 1) (by omega)
    simp only [findEventSlotFrom, pendingIndexAt_eq h hlt, Bool.false_eq_true, if_false]
    rw [hdrop, newestOf]
    cases hnew : newestOf eventId (q.drop (i + 1)) with
    | some k =>
      rw [hnew] at hrest
      split
      · rfl
      · exact hrest
    | none =>
      rw [hnew] at hrest
      split
      · rfl
      · exact hrest

theorem findEventSlot_latest (h : mb.Holds q) (eventId : EventId) :
    mb.findEventSlot eventId true =
      (newestOf eventId q).map fun k => cell mb.storageCount mb.head k := by
  rw [findEventSlot, findEventSlotFrom_latest h eventId mb.count 0 none (by rw [h.count_eq]; simp)]
  simp

theorem findEventSlot_first (h : mb.Holds q) (eventId : EventId) :
    (mb.findEventSlot eventId false).isSome = (newestOf eventId q).isSome := by
  rw [findEventSlot, findEventSlotFrom_first h eventId mb.count 0 (by rw [h.count_eq]; simp)]
  simp

theorem Holds.full_iff (h : mb.Holds q) :
    mb.storageCount ≤ mb.count ↔ mb.kind.capacity ≤ q.length := by
  rw [h.1.storageCount_eq, h.count_eq]

theorem pushCoalesced_cases (h : mb.Holds q) (msg : Msg P) (w : ω) :
    ((newestOf msg.eventId q).isSome = true ∧ ∃ slot,
      mb.pushCoalesced cb msg w = (.ok, ⟨.coalesced, .ok, mb.count, mb.count, some slot⟩,
        { mb with stats := { mb.stats with coalesced := mb.stats.coalesced + 1 } }, w)) ∨
    newestOf msg.eventId q = none ∧
      ((mb.kind.capacity ≤ q.length ∧ mb.pushCoalesced cb msg w = mb.dropArrival w) ∨
        (q.length < mb.kind.capacity ∧
          mb.pushCoalesced cb msg w = mb.pushReported cb msg w)) := by
  have hfind := findEventSlot_first h msg.eventId
  unfold pushCoalesced
  cases hslot : mb.findEventSlot msg.eventId false with
  | some slot =>
    rw [hslot] at hfind
    exact Or.inl ⟨hfind.symm, slot, rfl⟩
  | none =>
    rw [hslot] at hfind
    refine Or.inr ⟨Option.isSome_eq_false_iff.mp hfind.symm |> Option.isNone_iff_eq_none.mp, ?_⟩
    by_cases hfull : mb.storageCount ≤ mb.count
    · exact Or.inl ⟨h.full_iff.mp hfull, if_pos hfull⟩
    · exact Or.inr ⟨Nat.lt_of_not_le fun hlong => hfull (h.full_iff.mpr hlong), if_neg hfull⟩

/-- A push that keeps the latest only replaces a queued message of its event if the new one can
be retained, and otherwise meets a full mailbox or room for an ordinary push. -/
theorem pushLatestOnly_cases (h : mb.Holds q) (msg : Msg P) (w : ω) :
    (∃ k, ∃ hk : k < q.length, newestOf msg.eventId q = some k ∧
      (((retainForQueue cb msg w).1 ≠ .ok ∧ mb.pushLatestOnly cb msg w =
          ((retainForQueue cb msg w).1,
            ⟨.rejected, (retainForQueue cb msg w).1, mb.count, mb.count,
              some (cell mb.storageCount mb.head k)⟩,
            mb.countRejected, (retainForQueue cb msg w).2)) ∨
        ((retainForQueue cb msg w).1 = .ok ∧ mb.pushLatestOnly cb msg w =
          (.ok,
            ⟨.replaced, .ok, mb.count, mb.count, some (cell mb.storageCount mb.head k)⟩,
            { mb with
              storage := Function.update mb.storage (cell mb.storageCount mb.head k) msg
              stats := { mb.stats with replaced := mb.stats.replaced + 1 } },
            q[k].releasePayload cb (retainForQueue cb msg w).2)))) ∨
    newestOf msg.eventId q = none ∧
      ((mb.kind.capacity ≤ q.length ∧ mb.pushLatestOnly cb msg w = mb.dropArrival w) ∨
        (q.length < mb.kind.capacity ∧
          mb.pushLatestOnly cb msg w = mb.pushReported cb msg w)) := by
  have hfind := findEventSlot_latest h msg.eventId
  unfold pushLatestOnly
  cases hnew : newestOf msg.eventId q with
  | some k =>
    have hk := newestOf_lt hnew
    have hreplace := replaceSlot_eq cb h (List.getElem?_eq_getElem hk) msg w
    rw [hnew, Option.map_some] at hfind
    refine Or.inl ⟨k, hk, rfl, ?_⟩
    by_cases hretain : (retainForQueue cb msg w).1 = .ok
    · refine Or.inr ⟨hretain, ?_⟩
      simp only [hfind, hreplace, hretain, ne_eq, not_true_eq_false, if_false, if_true]
    · refine Or.inl ⟨hretain, ?_⟩
      simp only [hfind, hreplace, hretain, ne_eq, not_false_eq_true, if_true, if_false]
  | none =>
    rw [hnew, Option.map_none] at hfind
    rw [hfind]
    refine Or.inr ⟨rfl, ?_⟩
    by_cases hfull : mb.storageCount ≤ mb.count
    · exact Or.inl ⟨h.full_iff.mp hfull, if_pos hfull⟩
    · exact Or.inr ⟨Nat.lt_of_not_le fun hlong => hfull (h.full_iff.mpr hlong), if_neg hfull⟩

def unreported (out : Result × MailboxDeliveryReport × Mailbox P × ω) : Result × Mailbox P × ω :=
  (out.1, out.2.2)

theorem pushCoalesced_matches (h : mb.Holds q) {msg : Msg P} (hv : msg.validate = .ok) (w : ω) :
    Matches mb.kind (unreported (mb.pushCoalesced cb msg w))
      ((QueueState.mk q w).offer cb (RouteQos.arrival .coalesced mb.kind q msg) msg) := by
  simp only [RouteQos.arrival]
  rcases pushCoalesced_cases cb h msg w with
    ⟨hknown, _, heq⟩ | ⟨hnew, ⟨hfull, heq⟩ | ⟨hroom, heq⟩⟩
  · simp only [heq, hknown, unreported, QueueState.offer, hv, ne_eq, not_true_eq_false, if_true,
      if_false]
    exact ⟨rfl, (holds_withStats _).mpr h, rfl, rfl⟩
  · simp only [heq, hnew, hfull, unreported, dropArrival, QueueState.offer, hv, Option.isSome_none,
      Bool.false_eq_true, ne_eq, not_true_eq_false, if_true, if_false]
    exact ⟨rfl, (holds_withStats _).mpr h, rfl, rfl⟩
  · simp only [heq, hnew, Nat.not_le.mpr hroom, unreported, pushReported, Option.isSome_none,
      Bool.false_eq_true, if_false]
    exact push_matches cb h msg w

theorem pushLatestOnly_matches (h : mb.Holds q) {msg : Msg P} (hv : msg.validate = .ok) (w : ω) :
    Matches mb.kind (unreported (mb.pushLatestOnly cb msg w))
      ((QueueState.mk q w).offer cb (RouteQos.arrival .latestOnly mb.kind q msg) msg) := by
  simp only [RouteQos.arrival]
  rcases pushLatestOnly_cases cb h msg w with
    ⟨k, hk, hnew, ⟨hretain, heq⟩ | ⟨hretain, heq⟩⟩ | ⟨hnew, ⟨hfull, heq⟩ | ⟨hroom, heq⟩⟩
  · simp only [heq, hnew, unreported, QueueState.offer, hv, hretain, ne_eq, not_true_eq_false,
      not_false_eq_true, if_true, if_false]
    exact ⟨rfl, holds_countRejected.mpr h, rfl, rfl⟩
  · have hold : q[k]? = some q[k] := List.getElem?_eq_getElem hk
    simp only [heq, hnew, unreported, QueueState.offer, hv, hretain, ne_eq, not_true_eq_false,
      if_false, Arrival.place, Arrival.removed, hold, Option.elim]
    exact ⟨rfl, (holds_withStats _).mpr (h.overwrite hv hk), rfl, rfl⟩
  · simp only [heq, hnew, hfull, unreported, dropArrival, QueueState.offer, hv, ne_eq,
      not_true_eq_false, if_true, if_false]
    exact ⟨rfl, (holds_withStats _).mpr h, rfl, rfl⟩
  · simp only [heq, hnew, Nat.not_le.mpr hroom, unreported, pushReported, if_false]
    exact push_matches cb h msg w

theorem pushQos_matches (h : mb.Holds q) (msg : Msg P) (qos : RouteQos) (w : ω) :
    Matches mb.kind (unreported (mb.pushQos cb msg qos w))
      ((QueueState.mk q w).offer cb (qos.arrival mb.kind q msg) msg) := by
  by_cases hv : msg.validate = .ok
  · cases qos with
    | coalesced => simpa [pushQos, hv] using pushCoalesced_matches cb h hv w
    | latestOnly => simpa [pushQos, hv] using pushLatestOnly_matches cb h hv w
    | critical | bestEffort | lossy | wakeupCritical | telemetry | command =>
      have hm := push_matches cb h msg w
      simpa [pushQos, hv, RouteQos.arrival, unreported, pushReported] using hm
  · rw [offer_invalid cb hv]
    simp only [pushQos, hv, ne_eq, not_false_eq_true, if_true]
    exact ⟨rfl, holds_countRejected.mpr h, rfl, rfl⟩

end Push

theorem pop_empty {mb : Mailbox P} (h : mb.Holds []) : mb.pop = (.errEmpty, none, mb) := by
  have hcount : mb.count = 0 := h.count_eq
  simp [pop, hcount]

theorem pop_holds {mb : Mailbox P} {first : Msg P} {rest : List (Msg P)}
    (h : mb.Holds (first :: rest)) :
    mb.pop.1 = .ok ∧ mb.pop.2.1 = some first ∧ mb.pop.2.2.Holds rest ∧
      mb.pop.2.2.kind = mb.kind := by
  have hcount := h.count_eq
  have hpos : mb.count ≠ 0 := by rw [hcount]; simp
  have hslot : mb.storage mb.head = first := by
    have hget := h.getElem? (i := 0) (by simp)
    rw [cell_zero h.1.head_lt] at hget
    exact (Option.some.inj hget).symm
  have hdrop := h.dropHead { mb.stats with popped := mb.stats.popped + 1 }
  have hadvance := h.1.indexAdvance_eq mb.head
  have hsize := h.1.storageCount_eq
  have hhead := h.1.head_lt
  have hle := h.1.count_le
  rw [← hadvance] at hdrop
  cases hk : mb.kind with
  | fifo8 | fifo16 | lossyRing8 =>
    simp only [pop, hpos, if_false, hk, hslot, true_and, and_true]
    simpa only [hk, indexAdvance] using hdrop
  | mailbox1 | coalescedFlag =>
    have hone : mb.storageCount = 1 := by rw [hsize, hk]; rfl
    have hzero : mb.head = 0 := by omega
    have hlast : mb.count - 1 = 0 := by omega
    have hstay : mb.indexAdvance mb.head = 0 := by rw [hadvance, hone]; exact Nat.mod_one _
    rw [hzero] at hslot
    simp only [pop, hpos, if_false, hk, hslot, true_and, and_true]
    rw [hstay, hlast] at hdrop
    simpa only [hk, hzero] using hdrop

section Reset

variable {mb : Mailbox P} {q : List (Msg P)} (cb : Callbacks P ω)

/-- Outside the window nothing is owned, inside every message is live: either way
disposing a slot is one release of what it holds. -/
theorem dispose_slot_owners (h : mb.Holds q) {slot : Nat} (hslot : slot < mb.storageCount) (w : ω) :
    ((mb.storage slot).dispose cb w).2.2 = (mb.storage slot).releasePayload cb w := by
  by_cases hlive : ∃ i, i < mb.count ∧ cell mb.storageCount mb.head i = slot
  · have hmem : mb.storage slot ∈ mb.queued := by
      obtain ⟨i, hi, hcell⟩ := hlive
      exact mem_window.mpr ⟨i, hi, by rw [hcell]⟩
    obtain ⟨hcookie, hlive⟩ := Msg.validate_live (h.1.valid _ hmem)
    exact Msg.dispose_live cb hcookie hlive w
  · have hempty := h.1.vacant slot hslot fun i hi hcell => hlive ⟨i, hi, hcell⟩
    rw [Msg.dispose_empty cb hempty, Msg.releasePayload_of_empty cb hempty]

theorem disposeSlots_eq (h : mb.Holds q) (w : ω) (n : Nat) (hn : n ≤ mb.storageCount) :
    disposeSlots cb n mb w =
      ({ mb with storage := fun slot => if slot < n then Msg.blank else mb.storage slot },
        ((List.range n).map mb.storage).foldl (fun w msg => msg.releasePayload cb w) w) := by
  induction n with
  | zero => simp [disposeSlots]
  | succ n ih =>
    have hbound : ¬ mb.storageCount ≤ n := by omega
    simp only [disposeSlots, ih (by omega), disposeSlot, hbound, if_false, Nat.lt_irrefl,
      dispose_slot_owners cb h (by omega : n < mb.storageCount), List.range_succ, List.map_append,
      List.map_cons, List.map_nil, List.foldl_append, List.foldl_cons, List.foldl_nil]
    congr 1
    simp only [Mailbox.mk.injEq, true_and, and_true]
    funext slot
    by_cases he : slot = n
    · simp [he]
    · rw [Function.update_of_ne he]
      have hiff : slot < n ↔ slot < n + 1 := by omega
      simp only [hiff]

theorem foldl_release_filter (storage : Nat → Msg P) (live : Nat → Bool) (slots : List Nat)
    (hvacant : ∀ slot ∈ slots, live slot = false → (storage slot).Empty) (w : ω) :
    (slots.map storage).foldl (fun w msg => msg.releasePayload cb w) w =
      ((slots.filter live).map storage).foldl (fun w msg => msg.releasePayload cb w) w := by
  induction slots generalizing w with
  | nil => rfl
  | cons slot rest ih =>
    have hrest := ih fun s hs => hvacant s (List.mem_cons_of_mem _ hs)
    cases hl : live slot with
    | true => simpa [hl] using hrest _
    | false =>
      have hempty := hvacant slot List.mem_cons_self hl
      simpa [hl, Msg.releasePayload_of_empty cb hempty] using hrest w

/-- The slots are disposed in storage order: a permutation of the queue. -/
theorem range_release_perm (h : mb.Holds q) (w : ω) :
    ∃ released : List (Msg P), released.Perm q ∧
      ((List.range mb.storageCount).map mb.storage).foldl (fun w msg => msg.releasePayload cb w) w =
        released.foldl (fun w msg => msg.releasePayload cb w) w := by
  let cells := (List.range mb.count).map fun i => cell mb.storageCount mb.head i
  have hcells : cells.Nodup := by
    apply List.Nodup.map_on _ List.nodup_range
    intro i hi j hj he
    have hle := h.1.count_le
    exact cell_inj (by have := List.mem_range.mp hi; omega)
      (by have := List.mem_range.mp hj; omega) he
  have hperm : ((List.range mb.storageCount).filter fun slot => decide (slot ∈ cells)).Perm cells := by
    apply (List.perm_ext_iff_of_nodup (List.nodup_range.filter _) hcells).mpr
    intro slot
    simp only [List.mem_filter, List.mem_range, decide_eq_true_eq, and_iff_right_iff_imp]
    intro hmem
    obtain ⟨i, _, rfl⟩ := List.mem_map.mp hmem
    exact h.1.cell_lt i
  refine ⟨_, ?_, foldl_release_filter cb mb.storage (fun slot => decide (slot ∈ cells)) _ ?_ w⟩
  · have hmap := hperm.map mb.storage
    have hread : cells.map mb.storage = q := by
      rw [← h.2, queued, window, List.map_map]
      rfl
    rwa [hread] at hmap
  · intro slot hslot hdead
    apply h.1.vacant slot (List.mem_range.mp hslot)
    intro i hi hcell
    have hmem : slot ∈ cells := List.mem_map.mpr ⟨i, List.mem_range.mpr hi, hcell⟩
    simp [hmem] at hdead

theorem reset_holds (h : mb.Holds q) (w : ω) :
    ∃ released : List (Msg P), released.Perm q ∧ (mb.reset cb w).1 = .ok ∧
      (mb.reset cb w).2.1.Holds [] ∧ (mb.reset cb w).2.1.kind = mb.kind ∧
      (mb.reset cb w).2.2 = released.foldl (fun w msg => msg.releasePayload cb w) w := by
  obtain ⟨released, hperm, hfold⟩ := range_release_perm cb h w
  refine ⟨released, hperm, rfl, ⟨⟨?_, ?_, Nat.zero_le _, ?_, ?_, by simp [queued, reset], ?_⟩, rfl⟩, ?_, ?_⟩
  all_goals simp only [reset, disposeSlots_eq cb h w mb.storageCount (Nat.le_refl _)]
  · exact h.1.storageCount_eq
  · exact h.1.storageMask_eq
  · exact h.1.storageCount_pos
  · exact (cell_zero h.1.storageCount_pos).symm
  · intro slot hslot _
    simp only [hslot, if_true]
    exact Msg.blank_empty
  · exact hfold

end Reset

def exec (cb : Callbacks P ω) (mb : Mailbox P) (op : MailboxOp P) (w : ω) :
    MailboxOutput P × Mailbox P × ω :=
  match op with
  | .push msg =>
    let out := mb.push cb msg w
    ((out.1, none), out.2)
  | .pushQos msg qos =>
    let out := mb.pushQos cb msg qos w
    ((out.1, none), out.2.2)
  | .pop =>
    let out := mb.pop
    ((out.1, out.2.1), out.2.2, w)
  | .reset =>
    let out := mb.reset cb w
    ((out.1, none), out.2)

def run (cb : Callbacks P ω) : Mailbox P → List (MailboxOp P) → ω →
    List (MailboxOutput P) × Mailbox P × ω
  | mb, [], w => ([], mb, w)
  | mb, op :: ops, w =>
    let out := mb.exec cb op w
    let rest := run cb out.2.1 ops out.2.2
    (out.1 :: rest.1, rest.2)

/-- Step lemma: every operation is one step of the bounded queue. -/
theorem exec_refines (cb : Callbacks P ω) {mb : Mailbox P} {q : List (Msg P)} (h : mb.Holds q)
    (op : MailboxOp P) (w : ω) :
    ∃ q', (mb.exec cb op w).2.1.Holds q' ∧ (mb.exec cb op w).2.1.kind = mb.kind ∧
      QueueStep cb mb.kind ⟨q, w⟩ op (mb.exec cb op w).1 ⟨q', (mb.exec cb op w).2.2⟩ := by
  cases op with
  | push msg =>
    obtain ⟨hrc, hholds, hkind, howners⟩ := push_matches cb h msg w
    refine ⟨_, hholds, hkind, ?_⟩
    have hstep : QueueStep cb mb.kind ⟨q, w⟩ (.push msg) _ _ := .push ⟨q, w⟩ msg
    simpa only [exec, hrc, howners] using hstep
  | pushQos msg qos =>
    obtain ⟨hrc, hholds, hkind, howners⟩ := pushQos_matches cb h msg qos w
    refine ⟨_, hholds, hkind, ?_⟩
    have hstep : QueueStep cb mb.kind ⟨q, w⟩ (.pushQos msg qos) _ _ := .pushQos ⟨q, w⟩ msg qos
    simp only [unreported] at hrc howners
    simpa only [exec, hrc, howners] using hstep
  | pop =>
    cases q with
    | nil =>
      refine ⟨[], ?_, ?_, ?_⟩ <;> simp only [exec, pop_empty h]
      · exact h
      · exact QueueStep.popEmpty w
    | cons first rest =>
      obtain ⟨hrc, hout, hholds, hkind⟩ := pop_holds h
      refine ⟨rest, hholds, hkind, ?_⟩
      simp only [exec, hrc, hout]
      exact QueueStep.pop first rest w
  | reset =>
    obtain ⟨released, hperm, hrc, hholds, hkind, howners⟩ := reset_holds cb h w
    refine ⟨[], hholds, hkind, ?_⟩
    simp only [exec, hrc, howners]
    exact QueueStep.reset ⟨q, w⟩ released hperm

theorem run_refines (cb : Callbacks P ω) (ops : List (MailboxOp P)) :
    ∀ {mb : Mailbox P} {q : List (Msg P)}, mb.Holds q → ∀ w,
      ∃ q', (mb.run cb ops w).2.1.Holds q' ∧ (mb.run cb ops w).2.1.kind = mb.kind ∧
        QueueRun cb mb.kind ⟨q, w⟩ ops (mb.run cb ops w).1 ⟨q', (mb.run cb ops w).2.2⟩ := by
  induction ops with
  | nil =>
    intro mb q h w
    exact ⟨q, h, rfl, .nil _⟩
  | cons op ops ih =>
    intro mb q h w
    obtain ⟨q₁, hholds, hkind, hstep⟩ := exec_refines cb h op w
    obtain ⟨q₂, hholds', hkind', hrun⟩ := ih hholds (mb.exec cb op w).2.2
    rw [hkind] at hkind' hrun
    exact ⟨q₂, hholds', hkind', .cons hstep hrun⟩

/-- Every run of a mailbox from `ev_mailbox_init` is a run of the bounded queue of its
kind, with the same results and popped messages, whatever the payload owners do. The
live window reads as the queue, `tail` closes it, and no other slot owns a payload. -/
theorem mailbox_refines_queue (cb : Callbacks P ω) (kind : MailboxKind) (ops : List (MailboxOp P))
    (w : ω) :
    (init kind kind.capacity : Except Result (Mailbox P)) = .ok (fresh kind) ∧
    ∀ outs mb w', (fresh kind : Mailbox P).run cb ops w = (outs, mb, w') →
      QueueRun cb kind ⟨[], w⟩ ops outs ⟨mb.queued, w'⟩ ∧
      mb.count = mb.queued.length ∧ mb.count ≤ kind.capacity ∧
      mb.tail = (mb.head + mb.count) % kind.capacity ∧
      ∀ slot, slot < kind.capacity →
        (∀ i, i < mb.count → (mb.head + i) % kind.capacity ≠ slot) → (mb.storage slot).Empty := by
  refine ⟨init_eq_fresh kind, ?_⟩
  intro outs mb w' hrun
  obtain ⟨q, ⟨hwf, hq⟩, hkind, hqueue⟩ := run_refines cb ops (fresh_holds kind) w
  rw [hrun] at hwf hq hkind hqueue
  have hsize : mb.storageCount = kind.capacity := by
    rw [hwf.storageCount_eq]
    exact congrArg MailboxKind.capacity hkind
  have hcount := hwf.count_le
  have htail := hwf.tail_eq
  have hvacant := hwf.vacant
  rw [hsize] at hcount htail hvacant
  subst hq
  exact ⟨hqueue, Holds.count_eq ⟨hwf, rfl⟩, hcount, htail, hvacant⟩

end Mailbox

end EventFramework
