import EventFramework.Core.MailboxRefinement

/-!
# Pushes into FIFO mailboxes

Every push counts as one arrival in the statistics. A push with the QoS of its route is the
plain push, unless the QoS coalesces, replaces or drops the message.
-/

namespace EventFramework
set_option autoImplicit false

variable {P ω κ : Type}

namespace MailboxStats

def arrivals (stats : MailboxStats) : UInt32 :=
  stats.posted + stats.rejected + (stats.dropped + stats.replaced + stats.coalesced)

def diverted (stats : MailboxStats) : UInt32 := stats.dropped + stats.replaced + stats.coalesced

end MailboxStats

/-- What the retain callbacks return and do depends on what `f` sees of the outside only. -/
def Callbacks.RetainsBy (f : ω → κ) (cb : Callbacks P ω) : Prop :=
  ∀ fn ctx data size w w', f w = f w' →
    (cb.retain fn ctx data size w).1 = (cb.retain fn ctx data size w').1 ∧
      f (cb.retain fn ctx data size w).2 = f (cb.retain fn ctx data size w').2

namespace Mailbox

variable {mb : Mailbox P} {q : List (Msg P)} {cb : Callbacks P ω} {f : ω → κ}

def IsFifo (mb : Mailbox P) : Prop := mb.kind = .fifo8 ∨ mb.kind = .fifo16

def appended (mb : Mailbox P) (msg : Msg P) : Mailbox P :=
  recordHighWatermark { mb with
    storage := Function.update mb.storage mb.tail msg
    tail := mb.indexAdvance mb.tail
    count := mb.count + 1
    stats := { mb.stats with posted := mb.stats.posted + 1 } }

@[simp] theorem recordHighWatermark_arrivals (mb : Mailbox P) :
    mb.recordHighWatermark.stats.arrivals = mb.stats.arrivals ∧
      mb.recordHighWatermark.stats.diverted = mb.stats.diverted := by
  unfold recordHighWatermark
  split <;> exact ⟨rfl, rfl⟩

/-- A push into a FIFO: invalid, full, not retained, or appended. -/
theorem push_fifo (h : mb.Wf) (hk : mb.IsFifo) (msg : Msg P) (w : ω) :
    mb.push cb msg w =
      if msg.validate ≠ .ok then (msg.validate, mb.countRejected, w)
      else if mb.storageCount ≤ mb.count then (.errFull, mb.countRejected, w)
      else if (retainForQueue cb msg w).1 ≠ .ok then
        ((retainForQueue cb msg w).1, mb.countRejected, (retainForQueue cb msg w).2)
      else (.ok, mb.appended msg, (retainForQueue cb msg w).2) := by
  have hpush : mb.push cb msg w = if msg.validate ≠ .ok then (msg.validate, mb.countRejected, w)
      else mb.pushFifo cb msg w := by
    unfold push
    rcases hk with hk | hk <;> rw [hk]
  have htail := Nat.not_le.mpr h.tail_lt
  have happend : ∀ v : ω, mb.appendAtTail cb msg v = (.ok, mb.appended msg, v) := by
    intro v
    simp only [appendAtTail, storeAt, htail, ↓reduceIte, ne_eq, not_true_eq_false, appended]
    rfl
  rw [hpush, pushFifo]
  simp only [happend]

theorem countRejected_counts (mb : Mailbox P) :
    mb.countRejected.stats.arrivals = mb.stats.arrivals + 1 ∧
      mb.countRejected.stats.diverted = mb.stats.diverted := by
  refine ⟨?_, rfl⟩
  simp only [countRejected, MailboxStats.arrivals]
  ac_rfl

theorem appended_counts (mb : Mailbox P) (msg : Msg P) :
    (mb.appended msg).stats.arrivals = mb.stats.arrivals + 1 ∧
      (mb.appended msg).stats.diverted = mb.stats.diverted := by
  unfold appended
  rw [(recordHighWatermark_arrivals _).1, (recordHighWatermark_arrivals _).2]
  refine ⟨?_, rfl⟩
  simp only [MailboxStats.arrivals]
  ac_rfl

theorem push_counts (h : mb.Wf) (hk : mb.IsFifo) (msg : Msg P) (w : ω) :
    (mb.push cb msg w).2.1.stats.arrivals = mb.stats.arrivals + 1 ∧
      (mb.push cb msg w).2.1.stats.diverted = mb.stats.diverted := by
  rw [push_fifo h hk]
  split
  · exact mb.countRejected_counts
  · split
    · exact mb.countRejected_counts
    · split
      · exact mb.countRejected_counts
      · exact mb.appended_counts msg

theorem push_ok_iff (h : mb.Wf) (hk : mb.IsFifo) (msg : Msg P) (w : ω) :
    (mb.push cb msg w).1 = .ok ↔ msg.validate = .ok ∧ mb.count < mb.kind.capacity ∧
      (retainForQueue cb msg w).1 = .ok := by
  rw [push_fifo h hk, ← h.storageCount_eq]
  split
  · rename_i hinvalid
    exact ⟨fun hok => absurd hok hinvalid, fun hok => absurd hok.1 hinvalid⟩
  · rename_i hvalid
    split
    · rename_i hfull
      exact ⟨(fun hok => by cases hok), fun hok => absurd hok.2.1 (Nat.not_lt.mpr hfull)⟩
    · rename_i hroom
      split
      · rename_i hfailed
        exact ⟨fun hok => absurd hok hfailed, fun hok => absurd hok.2.2 hfailed⟩
      · rename_i hretained
        exact ⟨fun _ => ⟨not_not.mp hvalid, Nat.not_le.mp hroom, not_not.mp hretained⟩, fun _ => rfl⟩

theorem retainForQueue_by (hcb : cb.RetainsBy f) (msg : Msg P) {w w' : ω} (hw : f w = f w') :
    (retainForQueue cb msg w).1 = (retainForQueue cb msg w').1 ∧
      f (retainForQueue cb msg w).2 = f (retainForQueue cb msg w').2 := by
  have hretain : (msg.retain cb w).1 = (msg.retain cb w').1 ∧
      f (msg.retain cb w).2 = f (msg.retain cb w').2 := by
    unfold Msg.retain
    split
    · exact ⟨rfl, hw⟩
    · cases eventMeta msg.eventId with
      | none => exact ⟨rfl, hw⟩
      | some info =>
        simp only
        split
        · exact ⟨rfl, hw⟩
        · cases info.payloadKind with
          | inline | copyFixed | streamView => exact ⟨rfl, hw⟩
          | lease =>
            simp only
            cases msg.external.retainFn with
            | none => exact ⟨rfl, hw⟩
            | some fn => exact hcb fn _ _ _ w w' hw
  unfold retainForQueue
  split
  · exact ⟨rfl, hw⟩
  · exact hretain

theorem push_by (hcb : cb.RetainsBy f) (h : mb.Wf) (hk : mb.IsFifo) (msg : Msg P) {w w' : ω}
    (hw : f w = f w') :
    (mb.push cb msg w).1 = (mb.push cb msg w').1 ∧
      (mb.push cb msg w).2.1 = (mb.push cb msg w').2.1 ∧
      f (mb.push cb msg w).2.2 = f (mb.push cb msg w').2.2 := by
  obtain ⟨hrc, howners⟩ := retainForQueue_by hcb msg hw
  rw [push_fifo h hk, push_fifo h hk, hrc]
  split
  · exact ⟨rfl, rfl, hw⟩
  · split
    · exact ⟨rfl, rfl, hw⟩
    · split
      · exact ⟨rfl, rfl, howners⟩
      · exact ⟨rfl, rfl, howners⟩

end Mailbox

/-- The QoS values that look for a queued message of the same event. -/
def RouteQos.merges (qos : RouteQos) : Bool := qos == .coalesced || qos == .latestOnly

namespace Mailbox

variable {mb : Mailbox P} {q : List (Msg P)} (cb : Callbacks P ω)

theorem unreported_pushReported (mb : Mailbox P) (msg : Msg P) (w : ω) :
    unreported (mb.pushReported cb msg w) = mb.push cb msg w := rfl

theorem pushQos_of_not_merges {qos : RouteQos} (hqos : qos.merges = false) (mb : Mailbox P)
    (msg : Msg P) (w : ω) : unreported (mb.pushQos cb msg qos w) = mb.push cb msg w := by
  unfold pushQos
  split
  · rename_i hinvalid
    rw [push, if_pos hinvalid]
    rfl
  · cases qos <;> first | rfl | cases hqos

/-- Without a queued message of its event and with room, every QoS is a plain push. -/
theorem pushQos_of_fresh (h : mb.Holds q) (msg : Msg P) (qos : RouteQos) (w : ω)
    (hroom : mb.count < mb.kind.capacity) (hfresh : ∀ queued ∈ q, queued.eventId ≠ msg.eventId) :
    unreported (mb.pushQos cb msg qos w) = mb.push cb msg w := by
  have hnone : newestOf msg.eventId q = none := newestOf_eq_none_iff.mpr hfresh
  rw [h.count_eq] at hroom
  by_cases hmerges : qos.merges = true
  · unfold pushQos
    split
    · rename_i hinvalid
      rw [push, if_pos hinvalid]
      rfl
    · cases qos with
      | coalesced =>
        rcases pushCoalesced_cases cb h msg w with ⟨hknown, _⟩ | ⟨_, ⟨hfull, _⟩ | ⟨_, heq⟩⟩
        · rw [hnone] at hknown
          cases hknown
        · exact absurd hroom (Nat.not_lt.mpr hfull)
        · exact (congrArg unreported heq).trans (unreported_pushReported cb mb msg w)
      | latestOnly =>
        rcases pushLatestOnly_cases cb h msg w with ⟨_, _, hnew, _⟩ | ⟨_, ⟨hfull, _⟩ | ⟨_, heq⟩⟩
        · cases hnone.symm.trans hnew
        · exact absurd hroom (Nat.not_lt.mpr hfull)
        · exact (congrArg unreported heq).trans (unreported_pushReported cb mb msg w)
      | critical | bestEffort | lossy | wakeupCritical | telemetry | command => cases hmerges
  · exact pushQos_of_not_merges cb (Bool.eq_false_iff.mpr hmerges) mb msg w

/-- One arrival that was diverted. -/
def Diverts (mb mb' : Mailbox P) : Prop :=
  mb'.stats.arrivals = mb.stats.arrivals + 1 ∧ mb'.stats.diverted = mb.stats.diverted + 1

theorem diverts_coalesced (mb : Mailbox P) :
    mb.Diverts { mb with stats := { mb.stats with coalesced := mb.stats.coalesced + 1 } } := by
  refine ⟨?_, ?_⟩ <;> simp only [MailboxStats.arrivals, MailboxStats.diverted] <;> ac_rfl

theorem diverts_dropped (mb : Mailbox P) :
    mb.Diverts { mb with stats := { mb.stats with dropped := mb.stats.dropped + 1 } } := by
  refine ⟨?_, ?_⟩ <;> simp only [MailboxStats.arrivals, MailboxStats.diverted] <;> ac_rfl

theorem diverts_replaced (mb : Mailbox P) (storage : Nat → Msg P) :
    mb.Diverts { mb with
      storage := storage, stats := { mb.stats with replaced := mb.stats.replaced + 1 } } := by
  refine ⟨?_, ?_⟩ <;> simp only [MailboxStats.arrivals, MailboxStats.diverted] <;> ac_rfl

/-- A push that finds a queued message of its event merges with it, or fails to retain. -/
theorem pushQos_of_match (h : mb.Holds q) {msg : Msg P} (hv : msg.validate = .ok) {qos : RouteQos}
    (hqos : qos.merges = true) (w : ω) (hmatch : ∃ queued ∈ q, queued.eventId = msg.eventId) :
    ((mb.pushQos cb msg qos w).1 = .ok ∧ mb.Diverts (mb.pushQos cb msg qos w).2.2.1) ∨
      ((retainForQueue cb msg w).1 ≠ .ok ∧ (mb.pushQos cb msg qos w).2.2.1 = mb.countRejected) := by
  have hsome : newestOf msg.eventId q ≠ none := by
    obtain ⟨queued, hmem, hevent⟩ := hmatch
    exact fun hnone => newestOf_eq_none_iff.mp hnone queued hmem hevent
  unfold pushQos
  rw [if_neg (not_not.mpr hv)]
  cases qos with
  | coalesced =>
    rcases pushCoalesced_cases cb h msg w with ⟨_, _, heq⟩ | ⟨hnew, _⟩
    · left
      simp only [if_true, heq, true_and]
      exact mb.diverts_coalesced
    · exact absurd hnew hsome
  | latestOnly =>
    rcases pushLatestOnly_cases cb h msg w with
      ⟨_, _, _, ⟨hretain, heq⟩ | ⟨_, heq⟩⟩ | ⟨hnew, _⟩
    · right
      simp only [reduceCtorEq, if_false, if_true, heq]
      exact ⟨hretain, trivial⟩
    · left
      simp only [reduceCtorEq, if_false, if_true, heq, true_and]
      exact mb.diverts_replaced _
    · exact absurd hnew hsome
  | critical | bestEffort | lossy | wakeupCritical | telemetry | command => cases hqos

/-- A push that finds none but a full mailbox is dropped by its QoS. -/
theorem pushQos_of_full (h : mb.Holds q) {msg : Msg P} (hv : msg.validate = .ok) {qos : RouteQos}
    (hqos : qos.merges = true) (w : ω) (hfresh : ∀ queued ∈ q, queued.eventId ≠ msg.eventId)
    (hfull : mb.kind.capacity ≤ mb.count) :
    (mb.pushQos cb msg qos w).1 = .ok ∧ mb.Diverts (mb.pushQos cb msg qos w).2.2.1 := by
  have hnone : newestOf msg.eventId q = none := newestOf_eq_none_iff.mpr hfresh
  rw [h.count_eq] at hfull
  unfold pushQos
  rw [if_neg (not_not.mpr hv)]
  cases qos with
  | coalesced =>
    rcases pushCoalesced_cases cb h msg w with ⟨hknown, _⟩ | ⟨_, ⟨_, heq⟩ | ⟨hroom, _⟩⟩
    · rw [hnone] at hknown
      cases hknown
    · simp only [if_true, heq]
      exact ⟨rfl, mb.diverts_dropped⟩
    · exact absurd hroom (Nat.not_lt.mpr hfull)
  | latestOnly =>
    rcases pushLatestOnly_cases cb h msg w with ⟨_, _, hnew, _⟩ | ⟨_, ⟨_, heq⟩ | ⟨hroom, _⟩⟩
    · cases hnone.symm.trans hnew
    · simp only [reduceCtorEq, if_false, if_true, heq]
      exact ⟨rfl, mb.diverts_dropped⟩
    · exact absurd hroom (Nat.not_lt.mpr hfull)
  | critical | bestEffort | lossy | wakeupCritical | telemetry | command => cases hqos

theorem pushQos_counts (h : mb.Holds q) (hk : mb.IsFifo) (msg : Msg P) (qos : RouteQos) (w : ω) :
    (mb.pushQos cb msg qos w).2.2.1.stats.arrivals = mb.stats.arrivals + 1 ∧
      ((mb.pushQos cb msg qos w).2.2.1.stats.diverted = mb.stats.diverted ∨
        (mb.pushQos cb msg qos w).2.2.1.stats.diverted = mb.stats.diverted + 1) := by
  have hplain : unreported (mb.pushQos cb msg qos w) = mb.push cb msg w →
      (mb.pushQos cb msg qos w).2.2.1.stats.arrivals = mb.stats.arrivals + 1 ∧
        (mb.pushQos cb msg qos w).2.2.1.stats.diverted = mb.stats.diverted := by
    intro hsame
    have hmb : (mb.pushQos cb msg qos w).2.2.1 = (mb.push cb msg w).2.1 :=
      congrArg (fun out => out.2.1) hsame
    rw [hmb]
    exact push_counts h.1 hk msg w
  by_cases hv : msg.validate = .ok
  · by_cases hqos : qos.merges = true
    · by_cases hmatch : ∃ queued ∈ q, queued.eventId = msg.eventId
      · rcases pushQos_of_match cb h hv hqos w hmatch with ⟨_, harrived, hdiverted⟩ | ⟨_, hmb⟩
        · exact ⟨harrived, Or.inr hdiverted⟩
        · rw [hmb]
          exact ⟨mb.countRejected_counts.1, Or.inl mb.countRejected_counts.2⟩
      · have hfresh : ∀ queued ∈ q, queued.eventId ≠ msg.eventId :=
          fun queued hmem hevent => hmatch ⟨queued, hmem, hevent⟩
        by_cases hroom : mb.count < mb.kind.capacity
        · obtain ⟨harrived, hdiverted⟩ := hplain (pushQos_of_fresh cb h msg qos w hroom hfresh)
          exact ⟨harrived, Or.inl hdiverted⟩
        · obtain ⟨_, harrived, hdiverted⟩ :=
            pushQos_of_full cb h hv hqos w hfresh (Nat.not_lt.mp hroom)
          exact ⟨harrived, Or.inr hdiverted⟩
    · obtain ⟨harrived, hdiverted⟩ :=
        hplain (pushQos_of_not_merges cb (Bool.eq_false_iff.mpr hqos) mb msg w)
      exact ⟨harrived, Or.inl hdiverted⟩
  · obtain ⟨harrived, hdiverted⟩ := hplain (by
      rw [push, if_pos hv]
      simp only [pushQos, hv, ne_eq, not_false_eq_true, ↓reduceIte]
      rfl)
    exact ⟨harrived, Or.inl hdiverted⟩

theorem push_kind (h : mb.Holds q) (msg : Msg P) (qos : RouteQos) (w : ω) :
    (mb.pushQos cb msg qos w).2.2.1.kind = mb.kind ∧ (mb.pushQos cb msg qos w).2.2.1.Wf := by
  obtain ⟨_, hholds, hkind, _⟩ := pushQos_matches cb h msg qos w
  exact ⟨hkind, hholds.1⟩

end Mailbox

end EventFramework
