import EventFramework.Core.LeasePool
import EventFramework.Core.MailboxRefinement

/-!
# A failed enqueue is atomic

Every failing branch of the push functions comes before the first write to the ring, so
only the rejected counter moves. The payload callback is the one thing that may have run.
-/

namespace EventFramework
set_option autoImplicit false

open RingWindow

variable {P ω κ ν : Type}

namespace Mailbox

section Failure

variable {mb : Mailbox P} {q : List (Msg P)} (cb : Callbacks P ω)

/-- A push that failed: one more rejection, and at most a failed retain call. -/
def RejectedOnly (cb : Callbacks P ω) (mb : Mailbox P) (msg : Msg P) (w : ω)
    (out : Result × Mailbox P × ω) : Prop :=
  out.2.1 = mb.countRejected ∧
    (out.2.2 = w ∨ (retainForQueue cb msg w).1 ≠ .ok ∧ out.2.2 = (retainForQueue cb msg w).2)

/-- An offer that stores its message fails in the retain call or not at all. -/
theorem retain_failed_of_matches {out : Result × Mailbox P × ω} {arrival : Arrival} {msg : Msg P}
    {w : ω} {kind : MailboxKind} (hm : Matches kind out ((QueueState.mk q w).offer cb arrival msg))
    (hv : msg.validate = .ok) (hreject : ∀ rc, arrival ≠ .reject rc) (hfailed : out.1 ≠ .ok) :
    (retainForQueue cb msg w).1 ≠ .ok := by
  intro hr
  apply hfailed
  rw [hm.result]
  cases arrival with
  | reject rc => exact absurd rfl (hreject rc)
  | keep => simp [QueueState.offer, hv]
  | append | evictOldest | replaceAt _ => simp [QueueState.offer, hv, hr]

theorem pushFifo_failed (h : mb.Holds q) {msg : Msg P} (hv : msg.validate = .ok)
    (hk : mb.kind = .fifo8 ∨ mb.kind = .fifo16) (w : ω) (hfailed : (mb.pushFifo cb msg w).1 ≠ .ok) :
    RejectedOnly cb mb msg w (mb.pushFifo cb msg w) := by
  by_cases hfull : mb.storageCount ≤ mb.count
  · simp only [pushFifo, hfull, if_true]
    exact ⟨rfl, Or.inl rfl⟩
  · have harrival : mb.kind.arrival q msg = .append := by
      rw [h.1.storageCount_eq, h.count_eq] at hfull
      rcases hk with hk | hk <;> rw [hk] at hfull ⊢ <;> exact if_neg hfull
    have hm := pushFifo_matches cb h hv hk w
    rw [harrival] at hm
    have hr := retain_failed_of_matches cb hm hv (by simp) hfailed
    simp only [pushFifo, hfull, if_false, hr, ne_eq, not_false_eq_true, if_true]
    exact ⟨rfl, Or.inr ⟨hr, rfl⟩⟩

theorem pushMailbox1_failed (h : mb.Holds q) {msg : Msg P} (hv : msg.validate = .ok)
    (hk : mb.kind = .mailbox1) (w : ω) (hfailed : (mb.pushMailbox1 cb msg w).1 ≠ .ok) :
    RejectedOnly cb mb msg w (mb.pushMailbox1 cb msg w) := by
  have hm := pushMailbox1_matches cb h hv hk w
  have hstored : ∀ rc, mb.kind.arrival q msg ≠ .reject rc := by
    intro rc
    rw [hk]
    simp only [MailboxKind.arrival]
    split <;> simp
  have hr := retain_failed_of_matches cb hm hv hstored hfailed
  simp only [pushMailbox1, hr, ne_eq, not_false_eq_true, if_true]
  exact ⟨rfl, Or.inr ⟨hr, rfl⟩⟩

theorem pushLossyRing_failed (h : mb.Holds q) {msg : Msg P} (hv : msg.validate = .ok)
    (hk : mb.kind = .lossyRing8) (w : ω) (hfailed : (mb.pushLossyRing cb msg w).1 ≠ .ok) :
    RejectedOnly cb mb msg w (mb.pushLossyRing cb msg w) := by
  have hm := pushLossyRing_matches cb h hv hk w
  have hstored : ∀ rc, mb.kind.arrival q msg ≠ .reject rc := by
    intro rc
    rw [hk]
    simp only [MailboxKind.arrival]
    split <;> simp
  have hr := retain_failed_of_matches cb hm hv hstored hfailed
  simp only [pushLossyRing, hr, ne_eq, not_false_eq_true, if_true]
  exact ⟨rfl, Or.inr ⟨hr, rfl⟩⟩

theorem pushCoalescedFlag_failed (h : mb.Holds q) {msg : Msg P} (w : ω)
    (hfailed : (mb.pushCoalescedFlag msg w).1 ≠ .ok) :
    RejectedOnly cb mb msg w (mb.pushCoalescedFlag msg w) := by
  have hlow : ¬ mb.storageCount ≤ 0 := by
    have := h.1.storageCount_pos
    omega
  unfold pushCoalescedFlag at hfailed ⊢
  split
  · exact ⟨rfl, Or.inl rfl⟩
  · rename_i hload
    split
    · rename_i hempty
      simp [hload, hempty, storeAt, hlow] at hfailed
    · rename_i hcount
      split
      · exact ⟨rfl, Or.inl rfl⟩
      · rename_i hsame
        simp [hload, hcount, hsame] at hfailed

theorem push_failed (h : mb.Holds q) (msg : Msg P) (w : ω) (hfailed : (mb.push cb msg w).1 ≠ .ok) :
    RejectedOnly cb mb msg w (mb.push cb msg w) := by
  by_cases hv : msg.validate = .ok
  · unfold push at hfailed ⊢
    simp only [hv, ne_eq, not_true_eq_false, if_false] at hfailed ⊢
    cases hk : mb.kind with
    | fifo8 =>
      rw [hk] at hfailed
      exact pushFifo_failed cb h hv (Or.inl hk) w hfailed
    | fifo16 =>
      rw [hk] at hfailed
      exact pushFifo_failed cb h hv (Or.inr hk) w hfailed
    | mailbox1 =>
      rw [hk] at hfailed
      exact pushMailbox1_failed cb h hv hk w hfailed
    | lossyRing8 =>
      rw [hk] at hfailed
      exact pushLossyRing_failed cb h hv hk w hfailed
    | coalescedFlag =>
      rw [hk] at hfailed
      exact pushCoalescedFlag_failed cb h w hfailed
  · simp only [push, hv, ne_eq, not_false_eq_true, if_true]
    exact ⟨rfl, Or.inl rfl⟩

theorem pushLatestOnly_failed (h : mb.Holds q) (msg : Msg P) (w : ω)
    (hfailed : (mb.pushLatestOnly cb msg w).1 ≠ .ok) :
    RejectedOnly cb mb msg w (unreported (mb.pushLatestOnly cb msg w)) := by
  rcases pushLatestOnly_cases cb h msg w with
    ⟨_, _, _, ⟨hretain, heq⟩ | ⟨_, heq⟩⟩ | ⟨_, ⟨_, heq⟩ | ⟨_, heq⟩⟩
  · rw [heq]
    exact ⟨rfl, Or.inr ⟨hretain, rfl⟩⟩
  · rw [heq] at hfailed
    exact absurd rfl hfailed
  · rw [heq] at hfailed
    exact absurd rfl hfailed
  · rw [heq] at hfailed ⊢
    exact push_failed cb h msg w hfailed

theorem pushCoalesced_failed (h : mb.Holds q) (msg : Msg P) (w : ω)
    (hfailed : (mb.pushCoalesced cb msg w).1 ≠ .ok) :
    RejectedOnly cb mb msg w (unreported (mb.pushCoalesced cb msg w)) := by
  rcases pushCoalesced_cases cb h msg w with ⟨_, _, heq⟩ | ⟨_, ⟨_, heq⟩ | ⟨_, heq⟩⟩
  · rw [heq] at hfailed
    exact absurd rfl hfailed
  · rw [heq] at hfailed
    exact absurd rfl hfailed
  · rw [heq] at hfailed ⊢
    exact push_failed cb h msg w hfailed

theorem pushQos_failed (h : mb.Holds q) (msg : Msg P) (qos : RouteQos) (w : ω)
    (hfailed : (mb.pushQos cb msg qos w).1 ≠ .ok) :
    RejectedOnly cb mb msg w (unreported (mb.pushQos cb msg qos w)) := by
  unfold pushQos at hfailed ⊢
  split
  · exact ⟨rfl, Or.inl rfl⟩
  · rename_i hv
    simp only [hv, if_false] at hfailed
    split
    · rename_i hqos
      simp only [hqos, if_true] at hfailed
      exact pushCoalesced_failed cb h msg w hfailed
    · rename_i hqos
      simp only [hqos, if_false] at hfailed
      split
      · rename_i hqos'
        simp only [hqos', if_true] at hfailed
        exact pushLatestOnly_failed cb h msg w hfailed
      · rename_i hqos'
        simp only [hqos', if_false] at hfailed
        exact push_failed cb h msg w hfailed

end Failure

end Mailbox

namespace LeasePool

/-- A pool call that failed leaves the slots, the backing bytes and all counters but the
stale one. -/
def StaleOnly (pool pool' : LeasePool) : Prop := pool' = pool ∨ pool' = pool.countStale

theorem retain_failed {pool : LeasePool} {handle : LeaseHandle} (h : (pool.retain handle).1 ≠ .ok) :
    pool.StaleOnly (pool.retain handle).2 := by
  unfold retain at h ⊢
  split at h
  · simp at h
  · unfold countStaleHandle
    split
    · exact Or.inr rfl
    · exact Or.inl rfl

theorem retainFromSlot_failed {pool : LeasePool} {ctx payload : Option (LeasePtr κ)}
    {payloadSize : Nat} (h : (pool.retainFromSlot ctx payload payloadSize).1 ≠ .ok) :
    pool.StaleOnly (pool.retainFromSlot ctx payload payloadSize).2 := by
  unfold retainFromSlot at h ⊢
  split
  · split
    · exact Or.inr rfl
    · rename_i hmeta
      split
      · exact Or.inr rfl
      · rename_i hdata
        simp only [hmeta, hdata] at h
        exact retain_failed h
  · exact Or.inl rfl

theorem retainForQueue_failed (foreign : Callbacks (LeasePtr κ) ν) {msg : Msg (LeasePtr κ)}
    {w : LeasePool × ν}
    (h : (Mailbox.retainForQueue (leaseCallbacks foreign) msg w).1 ≠ .ok) :
    w.1.StaleOnly (Mailbox.retainForQueue (leaseCallbacks foreign) msg w).2.1 := by
  unfold Mailbox.retainForQueue at h ⊢
  split
  · exact Or.inl rfl
  · rename_i hload
    simp only [hload, if_false] at h
    rcases msg.retain_cases (leaseCallbacks foreign) w with
      ⟨rc, _, heq⟩ | ⟨_, heq⟩ | ⟨fn, _, _, _, heq⟩ <;> rw [heq] at h ⊢
    · exact Or.inl rfl
    · exact Or.inl rfl
    · cases fn with
      | retainFromSlot => exact retainFromSlot_failed h
      | storage _ | slot _ | releaseFromSlot | foreign _ => exact Or.inl rfl

end LeasePool

namespace Mailbox

/-- The ring, its messages and every lease are as before; one more rejection is counted,
and perhaps a stale handle. -/
structure Untouched (mb : Mailbox (LeasePtr κ)) (w : LeasePool × ν) (mb' : Mailbox (LeasePtr κ))
    (w' : LeasePool × ν) : Prop where
  head_eq : mb'.head = mb.head
  tail_eq : mb'.tail = mb.tail
  count_eq : mb'.count = mb.count
  storage_eq : mb'.storage = mb.storage
  queued_eq : mb'.queued = mb.queued
  stats_eq : mb'.stats = { mb.stats with rejected := mb.stats.rejected + 1 }
  slots_eq : w'.1.slots = w.1.slots
  region_eq : w'.1.storage = w.1.storage
  pool_stats_eq : w'.1.stats = { w.1.stats with staleHandles := w'.1.stats.staleHandles }

theorem untouched_of_rejectedOnly {foreign : Callbacks (LeasePtr κ) ν} {mb : Mailbox (LeasePtr κ)}
    {msg : Msg (LeasePtr κ)} {w : LeasePool × ν}
    {out : Result × Mailbox (LeasePtr κ) × LeasePool × ν}
    (h : RejectedOnly (leaseCallbacks foreign) mb msg w out) : Untouched mb w out.2.1 out.2.2 := by
  obtain ⟨hbox, howners⟩ := h
  have hpool : w.1.StaleOnly out.2.2.1 := by
    rcases howners with hsame | ⟨hr, hretained⟩
    · exact Or.inl (congrArg Prod.fst hsame)
    · rw [hretained]
      exact LeasePool.retainForQueue_failed foreign hr
  rw [hbox]
  rcases hpool with hpool | hpool <;> rw [show out.2.2 = (out.2.2.1, out.2.2.2) from rfl, hpool] <;>
    exact ⟨rfl, rfl, rfl, rfl, rfl, rfl, rfl, rfl, rfl⟩

/-- In every reachable mailbox a push that fails, for whatever reason, leaves the ring,
the queued messages and the leases as they were. -/
theorem failed_push_atomic (foreign : Callbacks (LeasePtr κ) ν) (kind : MailboxKind)
    (ops : List (MailboxOp (LeasePtr κ))) (w₀ : LeasePool × ν)
    (outs : List (MailboxOutput (LeasePtr κ))) (mb : Mailbox (LeasePtr κ)) (w : LeasePool × ν)
    (hrun : (fresh kind).run (leaseCallbacks foreign) ops w₀ = (outs, mb, w))
    (msg : Msg (LeasePtr κ)) :
    (∀ rc mb' w', mb.push (leaseCallbacks foreign) msg w = (rc, mb', w') → rc ≠ .ok →
      Untouched mb w mb' w') ∧
    ∀ qos rc report mb' w', mb.pushQos (leaseCallbacks foreign) msg qos w = (rc, report, mb', w') →
      rc ≠ .ok → Untouched mb w mb' w' := by
  obtain ⟨q, hholds, _, _⟩ := run_refines (leaseCallbacks foreign) ops (fresh_holds kind) w₀
  rw [hrun] at hholds
  refine ⟨?_, ?_⟩
  · intro rc mb' w' hpush hrc
    have hfailed : (mb.push (leaseCallbacks foreign) msg w).1 ≠ .ok := by
      rw [hpush]
      exact hrc
    have huntouched := untouched_of_rejectedOnly (push_failed _ hholds msg w hfailed)
    rw [hpush] at huntouched
    exact huntouched
  · intro qos rc report mb' w' hpush hrc
    have hfailed : (mb.pushQos (leaseCallbacks foreign) msg qos w).1 ≠ .ok := by
      rw [hpush]
      exact hrc
    have huntouched := untouched_of_rejectedOnly (pushQos_failed _ hholds msg qos w hfailed)
    rw [hpush] at huntouched
    exact huntouched

def refusingOwner : Callbacks (LeasePtr Unit) Unit :=
  ⟨fun _ _ _ _ w => (.errState, w), fun _ _ _ _ w => w⟩

def plainMsg : Msg (LeasePtr Unit) := { (Msg.blank : Msg (LeasePtr Unit)) with targetActor := .none }

def refusedMsg : Msg (LeasePtr Unit) := { plainMsg with
  eventId := .streamChunkReady, storage := .external, payloadSize := 4
  external := ⟨some (.foreign ()), 4, some (.foreign ()), some (.foreign ()), none⟩ }

/-- A `MAILBOX_1` whose new message cannot be retained keeps the old one. -/
theorem failed_push_atomic_mailbox1 :
    ∃ (mb mb' : Mailbox (LeasePtr Unit)) (w w' : LeasePool × Unit),
      (fresh .mailbox1).run (leaseCallbacks refusingOwner) [.push plainMsg]
        (LeasePool.fresh 1 8, ()) = ([(.ok, none)], mb, w) ∧ mb.count = 1 ∧
      mb.push (leaseCallbacks refusingOwner) refusedMsg w = (.errState, mb', w') ∧
      Untouched mb w mb' w' := by
  refine ⟨_, _, _, _, rfl, rfl, rfl, ?_⟩
  exact (failed_push_atomic refusingOwner .mailbox1 [.push plainMsg] (LeasePool.fresh 1 8, ()) _ _ _
    rfl refusedMsg).1 .errState _ _ rfl (by decide)

end Mailbox

end EventFramework
