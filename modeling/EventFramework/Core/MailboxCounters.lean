import EventFramework.Core.MailboxRefinement

/-!
# What the mailbox counters count

A push has one effect on the queue, except the eviction of `LOSSY_RING`, which counts as
a drop and a post. The counters record exactly these effects.
-/

namespace EventFramework
set_option autoImplicit false

open RingWindow

variable {P ω : Type}

/-- The effects of a push with result `rc`; `known` tells whether an equal event was queued. -/
def Arrival.effects (rc : Result) (known : Bool) : Arrival → List MailboxDeliveryEffect
  | .reject _ => [.rejected]
  | .append => if rc = .ok then [.posted] else [.rejected]
  | .replaceAt _ => if rc = .ok then [.replaced] else [.rejected]
  | .evictOldest => if rc = .ok then [.dropped, .posted] else [.rejected]
  | .keep => if rc ≠ .ok then [.rejected] else if known then [.coalesced] else [.dropped]

/-- A kind refuses with an error and evicts from a full queue only. -/
theorem MailboxKind.arrival_sound (kind : MailboxKind) (queued : List (Msg P)) (msg : Msg P) :
    (∀ rc, kind.arrival queued msg = .reject rc → rc ≠ .ok) ∧
      (kind.arrival queued msg = .evictOldest → queued ≠ []) := by
  cases kind with
  | fifo8 | fifo16 =>
    simp only [MailboxKind.arrival]
    split <;> simp
  | mailbox1 =>
    simp only [MailboxKind.arrival]
    split <;> simp
  | lossyRing8 =>
    simp only [MailboxKind.arrival]
    split
    · rename_i hfull
      refine ⟨by simp, ?_⟩
      rintro - rfl
      simp [MailboxKind.capacity] at hfull
    · simp
  | coalescedFlag =>
    simp only [MailboxKind.arrival]
    split
    · simp
    · split
      · simp
      · split <;> simp

theorem RouteQos.arrival_sound (qos : RouteQos) (kind : MailboxKind) (queued : List (Msg P))
    (msg : Msg P) :
    (∀ rc, qos.arrival kind queued msg = .reject rc → rc ≠ .ok) ∧
      (qos.arrival kind queued msg = .evictOldest → queued ≠ []) := by
  have hkind := kind.arrival_sound queued msg
  cases qos with
  | coalesced =>
    simp only [RouteQos.arrival]
    split
    · simp
    · split
      · simp
      · exact hkind
  | latestOnly =>
    simp only [RouteQos.arrival]
    split
    · simp
    · split
      · simp
      · exact hkind
  | critical | bestEffort | lossy | wakeupCritical | telemetry | command => exact hkind

namespace MailboxStats

def counters (stats : MailboxStats) : MailboxStats := { stats with highWatermark := 0 }

def record (stats : MailboxStats) : MailboxDeliveryEffect → MailboxStats
  | .posted => { stats with posted := stats.posted + 1 }
  | .dropped => { stats with dropped := stats.dropped + 1 }
  | .replaced => { stats with replaced := stats.replaced + 1 }
  | .coalesced => { stats with coalesced := stats.coalesced + 1 }
  | .rejected => { stats with rejected := stats.rejected + 1 }

def recordAll (stats : MailboxStats) (effects : List MailboxDeliveryEffect) : MailboxStats :=
  effects.foldl record stats

end MailboxStats

namespace Mailbox

/-- `effects` is all that a push added to the counters of `mb`. -/
def Recorded (mb mb' : Mailbox P) (effects : List MailboxDeliveryEffect) : Prop :=
  mb'.stats.counters = mb.stats.counters.recordAll effects

@[simp] theorem recordHighWatermark_counters (mb : Mailbox P) :
    mb.recordHighWatermark.stats.counters = mb.stats.counters := by
  unfold recordHighWatermark
  split <;> rfl

section Push

variable {mb : Mailbox P} {q : List (Msg P)} (cb : Callbacks P ω)

theorem countRejected_recorded : Recorded mb mb.countRejected [.rejected] := rfl

theorem appendAtTail_recorded (h : mb.Wf) (msg : Msg P) (w : ω) :
    (mb.appendAtTail cb msg w).1 = .ok ∧ Recorded mb (mb.appendAtTail cb msg w).2.1 [.posted] := by
  have htail := h.tail_lt
  simp only [appendAtTail, storeAt, Nat.not_le.mpr htail, if_false, ne_eq, not_true_eq_false,
    true_and, Recorded, recordHighWatermark_counters]
  rfl

theorem pushFifo_recorded (h : mb.Holds q) (msg : Msg P) (known : Bool)
    (hk : mb.kind = .fifo8 ∨ mb.kind = .fifo16) (w : ω) :
    Recorded mb (mb.pushFifo cb msg w).2.1
      ((mb.kind.arrival q msg).effects (mb.pushFifo cb msg w).1 known) := by
  have harrival : mb.kind.arrival q msg =
      if mb.storageCount ≤ mb.count then .reject .errFull else .append := by
    rw [h.1.storageCount_eq, h.count_eq]
    rcases hk with hk | hk <;> rw [hk] <;> rfl
  rw [harrival]
  by_cases hfull : mb.storageCount ≤ mb.count
  · simp only [pushFifo, hfull, if_true]
    exact countRejected_recorded
  · by_cases hr : (retainForQueue cb msg w).1 = .ok
    · obtain ⟨hrc, hrecorded⟩ := appendAtTail_recorded cb h.1 msg (retainForQueue cb msg w).2
      simp only [pushFifo, hfull, hr, hrc, if_false, ne_eq, not_true_eq_false, Arrival.effects, if_true]
      exact hrecorded
    · simp only [pushFifo, hfull, hr, if_false, ne_eq, not_false_eq_true, if_true, Arrival.effects]
      exact countRejected_recorded

theorem disposeSlot_stats (mb : Mailbox P) (cb : Callbacks P ω) (index : Nat) (w : ω) :
    (mb.disposeSlot cb index w).2.1.stats = mb.stats ∧
      (mb.disposeSlot cb index w).2.1.storageCount = mb.storageCount ∧
      (mb.disposeSlot cb index w).2.1.count = mb.count := by
  unfold disposeSlot
  split <;> exact ⟨rfl, rfl, rfl⟩

theorem pushMailbox1_recorded (h : mb.Holds q) (msg : Msg P) (known : Bool)
    (hk : mb.kind = .mailbox1) (w : ω) :
    Recorded mb (mb.pushMailbox1 cb msg w).2.1
      ((mb.kind.arrival q msg).effects (mb.pushMailbox1 cb msg w).1 known) := by
  have hsize := h.1.storageCount_pos
  have harrival : mb.kind.arrival q msg = if mb.count = 0 then .append else .replaceAt 0 := by
    rw [hk, h.count_eq]
    cases q <;> rfl
  rw [harrival]
  by_cases hr : (retainForQueue cb msg w).1 = .ok
  · by_cases hzero : mb.count = 0
    · simp only [pushMailbox1, hr, hzero, storeAt, Nat.not_le.mpr hsize, if_false, ne_eq,
        not_true_eq_false, if_true, Arrival.effects, Recorded, recordHighWatermark_counters]
      rfl
    · obtain ⟨hstats, hcapacity, hcount⟩ :=
        mb.disposeSlot_stats cb 0 (retainForQueue cb msg w).2
      simp only [pushMailbox1, hr, hzero, storeAt, hcapacity, hcount, Nat.not_le.mpr hsize, if_false,
        ne_eq, not_true_eq_false, not_false_eq_true, if_true, Arrival.effects, Recorded,
        recordHighWatermark_counters, hstats]
      rfl
  · have heffects : (if mb.count = 0 then .append else .replaceAt 0 : Arrival).effects
        (retainForQueue cb msg w).1 known = [.rejected] := by
      split <;> simp [Arrival.effects, hr]
    simp only [pushMailbox1, hr, ne_eq, not_false_eq_true, if_true, heffects]
    exact countRejected_recorded

theorem pushLossyRing_recorded (h : mb.Holds q) (msg : Msg P) (known : Bool)
    (hk : mb.kind = .lossyRing8) (w : ω) :
    Recorded mb (mb.pushLossyRing cb msg w).2.1
      ((mb.kind.arrival q msg).effects (mb.pushLossyRing cb msg w).1 known) := by
  have harrival : mb.kind.arrival q msg =
      if mb.storageCount ≤ mb.count then .evictOldest else .append := by
    rw [h.1.storageCount_eq, h.count_eq, hk]
    rfl
  rw [harrival]
  by_cases hr : (retainForQueue cb msg w).1 = .ok
  · by_cases hfull : mb.storageCount ≤ mb.count
    · cases q with
      | nil =>
        have := h.1.storageCount_pos
        have hcount : mb.count = 0 := h.count_eq
        omega
      | cons first rest =>
        obtain ⟨hevicted, _⟩ := evictHead_holds cb h (retainForQueue cb msg w).2
        obtain ⟨hrc, hrecorded⟩ := appendAtTail_recorded cb hevicted.1 msg
          (mb.evictHead cb (retainForQueue cb msg w).2).2
        have hstats : (mb.evictHead cb (retainForQueue cb msg w).2).1.stats =
            { mb.stats with dropped := mb.stats.dropped + 1 } := by
          simp only [evictHead, (disposeSlot_stats _ cb _ _).1]
        simp only [pushLossyRing, hr, hfull, hrc, if_true, if_false, ne_eq, not_true_eq_false,
          Arrival.effects]
        rw [Recorded, hstats] at hrecorded
        exact hrecorded
    · obtain ⟨hrc, hrecorded⟩ := appendAtTail_recorded cb h.1 msg (retainForQueue cb msg w).2
      simp only [pushLossyRing, hr, hfull, hrc, if_true, if_false, ne_eq, not_true_eq_false,
        Arrival.effects]
      exact hrecorded
  · have heffects : (if mb.storageCount ≤ mb.count then .evictOldest else .append : Arrival).effects
        (retainForQueue cb msg w).1 known = [.rejected] := by
      split <;> simp [Arrival.effects, hr]
    simp only [pushLossyRing, hr, ne_eq, not_false_eq_true, if_true, heffects]
    exact countRejected_recorded

theorem pushCoalescedFlag_recorded (h : mb.Holds q) (msg : Msg P)
    (hk : mb.kind = .coalescedFlag) (w : ω) :
    Recorded mb (mb.pushCoalescedFlag msg w).2.1
      ((mb.kind.arrival q msg).effects (mb.pushCoalescedFlag msg w).1
        (newestOf msg.eventId q).isSome) := by
  have hsize := h.1.storageCount_pos
  have hone : mb.storageCount = 1 := by rw [h.1.storageCount_eq, hk]; rfl
  rw [hk]
  by_cases hload : msg.storage ≠ .none ∨ msg.payloadSize ≠ 0
  · simp only [pushCoalescedFlag, hload, if_true, MailboxKind.arrival]
    exact countRejected_recorded
  · cases q with
    | nil =>
      have hzero : mb.count = 0 := h.count_eq
      simp only [pushCoalescedFlag, hload, hzero, storeAt, Nat.not_le.mpr hsize, ne_eq,
        not_true_eq_false, if_false, if_true, MailboxKind.arrival, Arrival.effects, Recorded,
        recordHighWatermark_counters]
      rfl
    | cons first rest =>
      have hslot : mb.storage 0 = first := by
        have hhead : mb.head = 0 := by have := h.1.head_lt; omega
        have hcell : cell mb.storageCount mb.head 0 = 0 := by rw [hhead, hone]; rfl
        have hget := h.getElem? (i := 0) (by simp)
        rw [hcell] at hget
        exact (Option.some.inj hget).symm
      have hpos : mb.count ≠ 0 := by rw [h.count_eq]; simp
      by_cases hsame : first.eventId = msg.eventId
      · have hknown : (newestOf msg.eventId (first :: rest)).isSome = true := by
          rw [Option.isSome_iff_ne_none, ne_eq, newestOf_eq_none_iff]
          exact fun hnone => hnone first List.mem_cons_self hsame
        simp only [pushCoalescedFlag, hload, hpos, hslot, hsame, hknown, ne_eq, not_true_eq_false,
          if_false, if_true, MailboxKind.arrival, Arrival.effects]
        rfl
      · simp only [pushCoalescedFlag, hload, hpos, hslot, hsame, ne_eq, not_false_eq_true, if_false,
          if_true, MailboxKind.arrival]
        exact countRejected_recorded

theorem push_recorded (h : mb.Holds q) (msg : Msg P) (w : ω) :
    Recorded mb (mb.push cb msg w).2.1
      ((mb.kind.arrival q msg).effects (mb.push cb msg w).1 (newestOf msg.eventId q).isSome) := by
  by_cases hv : msg.validate = .ok
  · cases hk : mb.kind with
    | fifo8 =>
      have hr := pushFifo_recorded cb h msg (newestOf msg.eventId q).isSome (Or.inl hk) w
      simpa only [push, hv, hk, ne_eq, not_true_eq_false, if_false] using hr
    | fifo16 =>
      have hr := pushFifo_recorded cb h msg (newestOf msg.eventId q).isSome (Or.inr hk) w
      simpa only [push, hv, hk, ne_eq, not_true_eq_false, if_false] using hr
    | mailbox1 =>
      have hr := pushMailbox1_recorded cb h msg (newestOf msg.eventId q).isSome hk w
      simpa only [push, hv, hk, ne_eq, not_true_eq_false, if_false] using hr
    | lossyRing8 =>
      have hr := pushLossyRing_recorded cb h msg (newestOf msg.eventId q).isSome hk w
      simpa only [push, hv, hk, ne_eq, not_true_eq_false, if_false] using hr
    | coalescedFlag =>
      have hr := pushCoalescedFlag_recorded h msg hk w
      simpa only [push, hv, hk, ne_eq, not_true_eq_false, if_false] using hr
  · have heffects : (mb.kind.arrival q msg).effects msg.validate (newestOf msg.eventId q).isSome =
        [.rejected] := by
      cases mb.kind.arrival q msg <;> simp [Arrival.effects, hv]
    simp only [push, hv, ne_eq, not_false_eq_true, if_true, heffects]
    exact countRejected_recorded

theorem pushCoalesced_recorded (h : mb.Holds q) (msg : Msg P) (w : ω) :
    Recorded mb (mb.pushCoalesced cb msg w).2.2.1
      ((RouteQos.arrival .coalesced mb.kind q msg).effects (mb.pushCoalesced cb msg w).1
        (newestOf msg.eventId q).isSome) := by
  simp only [RouteQos.arrival]
  rcases pushCoalesced_cases cb h msg w with
    ⟨hknown, _, heq⟩ | ⟨hnew, ⟨hfull, heq⟩ | ⟨hroom, heq⟩⟩
  · rw [heq, if_pos hknown, hknown]
    rfl
  · rw [heq, hnew, Option.isSome_none, if_neg Bool.false_ne_true, if_pos hfull]
    rfl
  · have hpush := push_recorded cb h msg w
    rw [hnew] at hpush
    rw [heq, hnew, Option.isSome_none, if_neg Bool.false_ne_true, if_neg (Nat.not_le.mpr hroom)]
    exact hpush

theorem pushLatestOnly_recorded (h : mb.Holds q) (msg : Msg P) (w : ω) :
    Recorded mb (mb.pushLatestOnly cb msg w).2.2.1
      ((RouteQos.arrival .latestOnly mb.kind q msg).effects (mb.pushLatestOnly cb msg w).1
        (newestOf msg.eventId q).isSome) := by
  simp only [RouteQos.arrival]
  rcases pushLatestOnly_cases cb h msg w with
    ⟨k, hk, hnew, ⟨hretain, heq⟩ | ⟨hretain, heq⟩⟩ | ⟨hnew, ⟨hfull, heq⟩ | ⟨hroom, heq⟩⟩
  · rw [heq, hnew]
    simp only [Arrival.effects, if_neg hretain]
    exact countRejected_recorded
  · rw [heq, hnew]
    rfl
  · simp only [heq, hnew, if_pos hfull]
    rfl
  · have hpush := push_recorded cb h msg w
    rw [hnew] at hpush
    simp only [heq, hnew, if_neg (Nat.not_le.mpr hroom)]
    exact hpush

theorem pushQos_recorded (h : mb.Holds q) (msg : Msg P) (qos : RouteQos) (w : ω) :
    Recorded mb (mb.pushQos cb msg qos w).2.2.1
      ((qos.arrival mb.kind q msg).effects (mb.pushQos cb msg qos w).1
        (newestOf msg.eventId q).isSome) := by
  by_cases hv : msg.validate = .ok
  · cases qos with
    | coalesced => simpa [pushQos, hv] using pushCoalesced_recorded cb h msg w
    | latestOnly => simpa [pushQos, hv] using pushLatestOnly_recorded cb h msg w
    | critical | bestEffort | lossy | wakeupCritical | telemetry | command =>
      simpa [pushQos, hv, RouteQos.arrival, pushReported] using push_recorded cb h msg w
  · have heffects : (qos.arrival mb.kind q msg).effects msg.validate
        (newestOf msg.eventId q).isSome = [.rejected] := by
      cases qos.arrival mb.kind q msg <;> simp [Arrival.effects, hv]
    simp only [pushQos, hv, ne_eq, not_false_eq_true, if_true, heffects]
    exact countRejected_recorded

end Push

theorem pop_counters {mb : Mailbox P} (hpos : mb.count ≠ 0) :
    mb.pop.2.2.stats.counters = { mb.stats.counters with popped := mb.stats.popped + 1 } := by
  unfold pop
  rw [if_neg hpos]
  cases mb.kind <;> rfl

end Mailbox

/-! ### Conservation -/

/-- What happened to a mailbox since its statistics were last cleared. -/
structure MailboxTally where
  pushes : Nat := 0
  posted : Nat := 0
  dropped : Nat := 0
  replaced : Nat := 0
  coalesced : Nat := 0
  popped : Nat := 0
  rejected : Nat := 0
  /-- Arrivals that a full mailbox dropped. -/
  arrivalsDropped : Nat := 0
  /-- Queued messages that made way for an arrival. -/
  evicted : Nat := 0
  deriving DecidableEq, Repr

namespace MailboxTally

def record (t : MailboxTally) : MailboxDeliveryEffect → MailboxTally
  | .posted => { t with posted := t.posted + 1 }
  | .dropped => { t with dropped := t.dropped + 1 }
  | .replaced => { t with replaced := t.replaced + 1 }
  | .coalesced => { t with coalesced := t.coalesced + 1 }
  | .rejected => { t with rejected := t.rejected + 1 }

/-- A push call with result `rc` that met `arrival`. -/
def arrived (t : MailboxTally) (rc : Result) (known : Bool) (arrival : Arrival) : MailboxTally :=
  let t := (arrival.effects rc known).foldl record { t with pushes := t.pushes + 1 }
  if rc = .ok ∧ arrival = .evictOldest then { t with evicted := t.evicted + 1 }
  else if rc = .ok ∧ arrival = .keep ∧ known = false then
    { t with arrivalsDropped := t.arrivalsDropped + 1 }
  else t

/-- No counter of the statistics went past its 32 bits. -/
structure NoWrap (t : MailboxTally) : Prop where
  posted : t.posted < 2 ^ 32
  dropped : t.dropped < 2 ^ 32
  replaced : t.replaced < 2 ^ 32
  coalesced : t.coalesced < 2 ^ 32
  popped : t.popped < 2 ^ 32
  rejected : t.rejected < 2 ^ 32

/-- Every push is accounted for, and so is every posted message, with `queued` left. -/
structure Balanced (t : MailboxTally) (queued : Nat) : Prop where
  pushes : t.pushes = t.posted + t.replaced + t.coalesced + t.rejected + t.arrivalsDropped
  posted : t.posted = t.popped + queued + t.evicted
  dropped : t.dropped = t.arrivalsDropped + t.evicted

/-- The counters of `stats` hold the tally, up to their width. -/
def Agrees (t : MailboxTally) (stats : MailboxStats) : Prop :=
  stats.counters = {
    posted := UInt32.ofNat t.posted
    dropped := UInt32.ofNat t.dropped
    replaced := UInt32.ofNat t.replaced
    coalesced := UInt32.ofNat t.coalesced
    popped := UInt32.ofNat t.popped
    rejected := UInt32.ofNat t.rejected }

theorem Agrees.record {t : MailboxTally} {stats : MailboxStats} (h : t.Agrees stats.counters)
    (effect : MailboxDeliveryEffect) : (t.record effect).Agrees (stats.counters.record effect) := by
  unfold Agrees at h ⊢
  have hcounters : stats.counters.counters = stats.counters := rfl
  rw [hcounters] at h
  rw [h]
  cases effect
  all_goals simp [MailboxStats.record, MailboxStats.counters, MailboxTally.record, UInt32.ofNat_add]

theorem Agrees.recordAll {t : MailboxTally} {stats : MailboxStats} (h : t.Agrees stats.counters)
    (effects : List MailboxDeliveryEffect) :
    (effects.foldl MailboxTally.record t).Agrees (stats.counters.recordAll effects) := by
  induction effects generalizing t stats with
  | nil => exact h
  | cons effect rest ih =>
    have hcounters : stats.counters.record effect = (stats.counters.record effect).counters := by
      cases effect <;> rfl
    have hstep := h.record effect
    simp only [List.foldl_cons, MailboxStats.recordAll]
    rw [hcounters] at hstep ⊢
    exact ih hstep

theorem Agrees.arrived {t : MailboxTally} {mb mb' : Mailbox P} (h : t.Agrees mb.stats) {rc : Result}
    {known : Bool} {arrival : Arrival}
    (hrecorded : mb.Recorded mb' (arrival.effects rc known)) :
    (t.arrived rc known arrival).Agrees mb'.stats := by
  have hstart : ({ t with pushes := t.pushes + 1 } : MailboxTally).Agrees mb.stats.counters := h
  have hall := hstart.recordAll (arrival.effects rc known)
  rw [← hrecorded] at hall
  unfold MailboxTally.arrived
  simp only
  split
  · exact hall
  · split
    · exact hall
    · exact hall

theorem Balanced.arrived {t : MailboxTally} {queued queued' : List (Msg P)} {rc : Result}
    {known : Bool} {arrival : Arrival} (h : t.Balanced queued.length) (msg : Msg P)
    (hreject : ∀ refusal, arrival = .reject refusal → rc ≠ .ok)
    (hevict : arrival = .evictOldest → queued ≠ [])
    (hplace : queued' = if rc = .ok then arrival.place msg queued else queued) :
    (t.arrived rc known arrival).Balanced queued'.length := by
  obtain ⟨hpushes, hposted, hdropped⟩ := h
  subst hplace
  by_cases hrc : rc = .ok
  · cases arrival with
    | reject refusal => exact absurd hrc (hreject refusal rfl)
    | keep =>
      cases known
      all_goals
        simp only [MailboxTally.arrived, Arrival.effects, hrc, ne_eq, not_true_eq_false, if_false,
          if_true, Bool.false_eq_true, List.foldl_cons, List.foldl_nil, MailboxTally.record,
          reduceCtorEq, and_false, and_self, Bool.true_eq_false, Arrival.place]
        constructor <;> simp only <;> omega
    | append =>
      simp only [MailboxTally.arrived, Arrival.effects, hrc, if_true, List.foldl_cons, List.foldl_nil,
        MailboxTally.record, reduceCtorEq, and_false, false_and, if_false, Arrival.place,
        List.length_append, List.length_singleton]
      constructor <;> simp only <;> omega
    | evictOldest =>
      have hpos := List.length_pos_iff.mpr (hevict rfl)
      simp only [MailboxTally.arrived, Arrival.effects, hrc, if_true, List.foldl_cons, List.foldl_nil,
        MailboxTally.record, and_self, Arrival.place, List.length_append, List.length_singleton,
        List.length_tail]
      constructor <;> simp only <;> omega
    | replaceAt index =>
      simp only [MailboxTally.arrived, Arrival.effects, hrc, if_true, List.foldl_cons, List.foldl_nil,
        MailboxTally.record, reduceCtorEq, and_false, false_and, if_false, Arrival.place,
        List.length_set]
      constructor <;> simp only <;> omega
  · have heffects : arrival.effects rc known = [.rejected] := by
      cases arrival <;> simp [Arrival.effects, hrc]
    simp only [MailboxTally.arrived, heffects, hrc, if_false, false_and, List.foldl_cons,
      List.foldl_nil, MailboxTally.record]
    constructor <;> simp only <;> omega

end MailboxTally

namespace Mailbox

/-- The tally after one operation on `mb`. -/
def tallied (cb : Callbacks P ω) (mb : Mailbox P) (op : MailboxOp P) (w : ω) (t : MailboxTally) :
    MailboxTally :=
  match op with
  | .push msg =>
    t.arrived (mb.push cb msg w).1 (newestOf msg.eventId mb.queued).isSome
      (mb.kind.arrival mb.queued msg)
  | .pushQos msg qos =>
    t.arrived (mb.pushQos cb msg qos w).1 (newestOf msg.eventId mb.queued).isSome
      (qos.arrival mb.kind mb.queued msg)
  | .pop => if mb.pop.1 = .ok then { t with popped := t.popped + 1 } else t
  | .reset => {}

def tally (cb : Callbacks P ω) : Mailbox P → List (MailboxOp P) → ω → MailboxTally → MailboxTally
  | _, [], _, t => t
  | mb, op :: ops, w, t =>
    let out := mb.exec cb op w
    tally cb out.2.1 ops out.2.2 (mb.tallied cb op w t)

theorem offer_place (cb : Callbacks P ω) (q : List (Msg P)) (w : ω) (arrival : Arrival) (msg : Msg P) :
    let out := (QueueState.mk q w).offer cb arrival msg
    (∀ refusal, refusal ≠ .ok → arrival = .reject refusal → out.1 ≠ .ok) ∧
      out.2.queued = if out.1 = .ok then arrival.place msg q else q := by
  by_cases hv : msg.validate = .ok
  · cases arrival with
    | reject refusal =>
      simp only [QueueState.offer, hv, ne_eq, not_true_eq_false, if_false, Arrival.place, ite_self,
        and_true]
      rintro _ hr ⟨⟩
      exact hr
    | keep => simp [QueueState.offer, hv, Arrival.place]
    | append | evictOldest | replaceAt _ =>
      by_cases hr : (retainForQueue cb msg w).1 = .ok
      · simp [QueueState.offer, hv, hr]
      · simp [QueueState.offer, hv, hr]
  · simp [QueueState.offer, hv]

/-- One push call, whatever its kind-specific path: counters and queue move together. -/
theorem arrived_conserves (cb : Callbacks P ω) {mb : Mailbox P} {msg : Msg P}
    {arrival : Arrival} {out : Result × Mailbox P × ω} {w : ω} {t : MailboxTally}
    (hagrees : t.Agrees mb.stats) (hbalanced : t.Balanced mb.queued.length)
    (hmatches : Matches mb.kind out ((QueueState.mk mb.queued w).offer cb arrival msg))
    (hrecorded : mb.Recorded out.2.1 (arrival.effects out.1 (newestOf msg.eventId mb.queued).isSome))
    (hreject : ∀ rc, arrival = .reject rc → rc ≠ .ok)
    (hevict : arrival = .evictOldest → mb.queued ≠ []) :
    let t' := t.arrived out.1 (newestOf msg.eventId mb.queued).isSome arrival
    t'.Agrees out.2.1.stats ∧ t'.Balanced out.2.1.queued.length := by
  obtain ⟨hrefused, hplace⟩ := offer_place cb mb.queued w arrival msg
  rw [← hmatches.result, ← hmatches.holds.2] at hplace
  rw [← hmatches.result] at hrefused
  exact ⟨hagrees.arrived hrecorded,
    hbalanced.arrived msg (fun rc harrival => hrefused rc (hreject rc harrival) harrival) hevict hplace⟩

/-- Step lemma: every operation keeps the counters on the tally and the tally balanced. -/
theorem exec_conserves (cb : Callbacks P ω) {mb : Mailbox P} (h : mb.Wf) (op : MailboxOp P) (w : ω)
    {t : MailboxTally} (hagrees : t.Agrees mb.stats) (hbalanced : t.Balanced mb.queued.length) :
    (mb.tallied cb op w t).Agrees (mb.exec cb op w).2.1.stats ∧
      (mb.tallied cb op w t).Balanced (mb.exec cb op w).2.1.queued.length := by
  have hholds : mb.Holds mb.queued := ⟨h, rfl⟩
  cases op with
  | push msg =>
    obtain ⟨hreject, hevict⟩ := mb.kind.arrival_sound mb.queued msg
    exact arrived_conserves cb hagrees hbalanced (push_matches cb hholds msg w)
      (push_recorded cb hholds msg w) hreject hevict
  | pushQos msg qos =>
    obtain ⟨hreject, hevict⟩ := qos.arrival_sound mb.kind mb.queued msg
    exact arrived_conserves cb hagrees hbalanced (pushQos_matches cb hholds msg qos w)
      (pushQos_recorded cb hholds msg qos w) hreject hevict
  | pop =>
    cases hq : mb.queued with
    | nil =>
      have hempty := pop_empty (hq ▸ hholds : mb.Holds [])
      simp only [tallied, exec, hempty, reduceCtorEq, if_false]
      exact ⟨hagrees, hbalanced⟩
    | cons first rest =>
      have hcons : mb.Holds (first :: rest) := hq ▸ hholds
      obtain ⟨hrc, _, hrest, _⟩ := pop_holds hcons
      have hpos : mb.count ≠ 0 := by rw [hcons.count_eq]; simp
      have hcounters := pop_counters hpos
      obtain ⟨hpushes, hposted, hdropped⟩ := hbalanced
      simp only [tallied, exec, hrc, if_true, hrest.2]
      refine ⟨?_, hpushes, ?_, hdropped⟩
      · unfold MailboxTally.Agrees at hagrees ⊢
        have hpopped : mb.stats.popped = UInt32.ofNat t.popped := congrArg MailboxStats.popped hagrees
        rw [hcounters, hagrees, hpopped]
        simp [UInt32.ofNat_add]
      · rw [hq, List.length_cons] at hposted
        simp only
        omega
  | reset =>
    obtain ⟨_, _, _, hcleared, _⟩ := reset_holds cb hholds w
    simp only [tallied, exec, hcleared.2]
    exact ⟨rfl, rfl, rfl, rfl⟩

theorem run_conserves (cb : Callbacks P ω) (ops : List (MailboxOp P)) {mb : Mailbox P} (h : mb.Wf)
    (w : ω) {t : MailboxTally} (hagrees : t.Agrees mb.stats)
    (hbalanced : t.Balanced mb.queued.length) :
    (mb.tally cb ops w t).Agrees (mb.run cb ops w).2.1.stats ∧
      (mb.tally cb ops w t).Balanced (mb.run cb ops w).2.1.count := by
  induction ops generalizing mb w t with
  | nil =>
    rw [← Holds.count_eq ⟨h, rfl⟩] at hbalanced
    exact ⟨hagrees, hbalanced⟩
  | cons op ops ih =>
    obtain ⟨_, hholds, _, _⟩ := exec_refines cb ⟨h, rfl⟩ op w
    obtain ⟨hagrees', hbalanced'⟩ := exec_conserves cb h op w hagrees hbalanced
    exact ih hholds.1 (mb.exec cb op w).2.2 hagrees' hbalanced'

/-- Over every run from `ev_mailbox_init`, and from each `ev_mailbox_reset` on, the
statistics conserve messages as long as no counter wraps. -/
theorem counters_conserve (cb : Callbacks P ω) (kind : MailboxKind) (storageCount : Nat)
    (ops : List (MailboxOp P)) (w : ω) {mb : Mailbox P} (hinit : init kind storageCount = .ok mb)
    (hwrap : (mb.tally cb ops w {}).NoWrap) :
    let t := mb.tally cb ops w {}
    let end_ := (mb.run cb ops w).2.1
    t.pushes = end_.stats.posted.toNat + end_.stats.replaced.toNat + end_.stats.coalesced.toNat +
        end_.stats.rejected.toNat + t.arrivalsDropped ∧
      end_.stats.posted.toNat = end_.stats.popped.toNat + end_.count + t.evicted ∧
      end_.stats.dropped.toNat = t.arrivalsDropped + t.evicted := by
  have hfresh : mb = fresh kind := by
    unfold init at hinit
    split at hinit
    · cases hinit
    · split at hinit
      · cases hinit
      · split at hinit
        · cases hinit
        · exact (Except.ok.inj hinit).symm
  subst hfresh
  have hholds := fresh_holds (P := P) kind
  obtain ⟨hagrees, hpushes, hposted, hdropped⟩ := run_conserves cb ops hholds.1 w
    (t := {}) rfl (by rw [hholds.2]; exact ⟨rfl, rfl, rfl⟩)
  intro t end_
  have hcounter : ∀ (field : MailboxStats → UInt32) (n : Nat),
      field end_.stats = UInt32.ofNat n → n < 2 ^ 32 → (field end_.stats).toNat = n := by
    intro field n hfield hn
    rw [hfield, UInt32.toNat_ofNat']
    exact Nat.mod_eq_of_lt hn
  rw [hcounter MailboxStats.posted t.posted (congrArg MailboxStats.posted hagrees) hwrap.posted,
    hcounter MailboxStats.replaced t.replaced (congrArg MailboxStats.replaced hagrees) hwrap.replaced,
    hcounter MailboxStats.coalesced t.coalesced (congrArg MailboxStats.coalesced hagrees)
      hwrap.coalesced,
    hcounter MailboxStats.rejected t.rejected (congrArg MailboxStats.rejected hagrees) hwrap.rejected,
    hcounter MailboxStats.popped t.popped (congrArg MailboxStats.popped hagrees) hwrap.popped,
    hcounter MailboxStats.dropped t.dropped (congrArg MailboxStats.dropped hagrees) hwrap.dropped]
  exact ⟨hpushes, hposted, hdropped⟩

def bootEvent : Msg Unit := { (Msg.blank : Msg Unit) with targetActor := .none }

/-- Nine posts and a coalesced-QoS push on a lossy ring, then one pop: one message evicted. -/
theorem counters_conserve_evicted :
    let ops := List.replicate 9 (.push bootEvent) ++ [.pushQos bootEvent .coalesced, .pop]
    let mb : Mailbox Unit := fresh .lossyRing8
    let end_ := (mb.run Callbacks.none ops ()).2.1
    (mb.tally Callbacks.none ops () {}).pushes = 10 ∧
      end_.stats.posted.toNat = end_.stats.popped.toNat + end_.count +
        (mb.tally Callbacks.none ops () {}).evicted ∧
      (mb.tally Callbacks.none ops () {}).evicted = 1 := by
  have hnowrap : ((fresh .lossyRing8 : Mailbox Unit).tally Callbacks.none
      (List.replicate 9 (.push bootEvent) ++ [.pushQos bootEvent .coalesced, .pop]) () {}).NoWrap := by
    constructor <;> decide +kernel
  have hconserve := counters_conserve Callbacks.none .lossyRing8 8
    (List.replicate 9 (.push bootEvent) ++ [.pushQos bootEvent .coalesced, .pop]) () rfl hnowrap
  exact ⟨by decide +kernel, hconserve.2.1, by decide +kernel⟩

end Mailbox

end EventFramework
