import EventFramework.Core.MailboxCounters

/-!
# The delivery report of a mailbox push

`ev_mailbox_push_qos` fills its report from the result code, after the kind-specific push
ran. What the push did to the bounded queue is its `Arrival`; here the two are compared.
-/

namespace EventFramework
set_option autoImplicit false

open RingWindow

variable {P ω : Type}

def Arrival.position {α : Type} (queued : List α) : Arrival → Option Nat
  | .append => some queued.length
  | .evictOldest => some (queued.length - 1)
  | .replaceAt index => some index
  | .reject _ | .keep => none

namespace Mailbox

/-- The report of a push that took `mb` to `mb'` says what happened to the queue of `mb`. -/
structure Truthful (mb : Mailbox P) (msg : Msg P) (arrival : Arrival) (rc : Result)
    (report : MailboxDeliveryReport) (mb' : Mailbox P) : Prop where
  posted : report.effect = .posted ↔ rc = .ok ∧ arrival = .append
  replaced : report.effect = .replaced ↔ rc = .ok ∧ ∃ index, arrival = .replaceAt index
  coalesced : report.effect = .coalesced ↔
    rc = .ok ∧ arrival = .keep ∧ ∃ old ∈ mb.queued, old.eventId = msg.eventId
  dropped : report.effect = .dropped ↔ rc = .ok ∧ (arrival = .evictOldest ∨
    arrival = .keep ∧ ∀ old ∈ mb.queued, old.eventId ≠ msg.eventId)
  rejected : report.effect = .rejected ↔ rc ≠ .ok
  result : report.result = rc
  queueDepthBefore : report.queueDepthBefore = mb.queued.length
  queueDepthAfter : report.queueDepthAfter = mb'.queued.length
  slotIndex : report.effect = .posted ∨ report.effect = .replaced →
    ∃ position, arrival.position mb.queued = some position ∧ position < mb'.count ∧
      report.slotIndex = some ((mb'.head + position) % mb'.storageCount) ∧
      mb'.storage ((mb'.head + position) % mb'.storageCount) = msg
  counters : mb'.stats.counters = mb.stats.counters.record report.effect

def AcceptsWhenFull (cb : Callbacks P ω) (mb : Mailbox P) (msg : Msg P) (w : ω) : Prop :=
  match mb.kind with
  | .fifo8 | .fifo16 => False
  | .mailbox1 | .lossyRing8 => (retainForQueue cb msg w).1 = .ok
  | .coalescedFlag =>
    msg.storage = .none ∧ msg.payloadSize = 0 ∧ (mb.storage mb.head).eventId = msg.eventId

/-- A push on a full mailbox whose QoS leaves the loss to the kind, and which the kind
accepts. -/
def PlainOnFull (cb : Callbacks P ω) (mb : Mailbox P) (msg : Msg P) (qos : RouteQos) (w : ω) : Prop :=
  qos ≠ .coalesced ∧ qos ≠ .latestOnly ∧ msg.validate = .ok ∧ mb.count = mb.kind.capacity ∧
    AcceptsWhenFull cb mb msg w

section Push

variable {mb : Mailbox P} {q : List (Msg P)} (cb : Callbacks P ω)

theorem arrival_with_room {kind : MailboxKind} (hroom : q.length < kind.capacity) (msg : Msg P) :
    kind.arrival q msg = .append ∨ ∃ rc, kind.arrival q msg = .reject rc := by
  cases kind with
  | fifo8 | fifo16 | lossyRing8 =>
    left
    simp only [MailboxKind.arrival, Nat.not_le.mpr hroom, if_false]
  | mailbox1 =>
    left
    have hnil : q = [] := List.length_eq_zero_iff.mp (Nat.lt_one_iff.mp hroom)
    subst hnil
    rfl
  | coalescedFlag =>
    have hnil : q = [] := List.length_eq_zero_iff.mp (Nat.lt_one_iff.mp hroom)
    subst hnil
    simp only [MailboxKind.arrival]
    split
    · exact Or.inr ⟨_, rfl⟩
    · exact Or.inl rfl

theorem last_slot {rest : List (Msg P)} {msg : Msg P} (h : mb.Holds (rest ++ [msg])) :
    (mb.tail + mb.storageCount - 1) &&& mb.storageMask =
        (mb.head + rest.length) % mb.storageCount ∧
      mb.storage ((mb.head + rest.length) % mb.storageCount) = msg ∧ rest.length < mb.count := by
  have hcount := h.count_eq
  rw [List.length_append, List.length_singleton] at hcount
  have hpos := h.1.storageCount_pos
  have hget := h.getElem? (i := rest.length) (by simp)
  rw [List.getElem?_concat_length] at hget
  refine ⟨?_, (Option.some.inj hget).symm, by omega⟩
  rw [h.1.and_mask, h.1.tail_eq, hcount]
  unfold cell
  rw [Nat.add_sub_assoc hpos, Nat.mod_add_mod]
  rw [show mb.head + (rest.length + 1) + (mb.storageCount - 1) =
    mb.head + rest.length + mb.storageCount by omega, Nat.add_mod_right]

theorem truthful_rejected {mb' : Mailbox P} {msg : Msg P} {arrival : Arrival} {rc : Result}
    {report : MailboxDeliveryReport} (hrc : rc ≠ .ok) (heffect : report.effect = .rejected)
    (hresult : report.result = rc) (hbefore : report.queueDepthBefore = mb.queued.length)
    (hafter : report.queueDepthAfter = mb'.queued.length)
    (hcounters : mb'.stats.counters = mb.stats.counters.record .rejected) :
    Truthful mb msg arrival rc report mb' := by
  constructor
  case slotIndex => rw [heffect]; rintro (h | h) <;> cases h
  case counters => rw [heffect]; exact hcounters
  all_goals first | assumption | simp [heffect, hrc]

theorem pushReported_truthful (h : mb.Holds q) (msg : Msg P) (w : ω)
    (happend : (mb.push cb msg w).1 = .ok → mb.kind.arrival q msg = .append) :
    Truthful mb msg (mb.kind.arrival q msg) (mb.push cb msg w).1
      (mb.pushReported cb msg w).2.1 (mb.push cb msg w).2.1 := by
  have hmatches := push_matches cb h msg w
  have hrecorded := push_recorded cb h msg w
  have hafter : (mb.push cb msg w).2.1.count = (mb.push cb msg w).2.1.queued.length :=
    Holds.count_eq ⟨hmatches.holds.1, rfl⟩
  have hbefore : mb.count = mb.queued.length := Holds.count_eq ⟨h.1, rfl⟩
  obtain ⟨hrefused, hplace⟩ := offer_place cb q w (mb.kind.arrival q msg) msg
  rw [← hmatches.result] at hplace
  by_cases hrc : (mb.push cb msg w).1 = .ok
  · have harrival := happend hrc
    have hholds := hmatches.holds
    rw [hplace, if_pos hrc, harrival] at hholds
    obtain ⟨hslot, hstored, hlt⟩ := last_slot hholds
    rw [harrival, hrc] at hrecorded
    rw [harrival, hrc]
    simp only [pushReported, hrc, if_true]
    constructor
    case slotIndex =>
      intro _
      rw [h.2]
      exact ⟨q.length, rfl, hlt, congrArg some hslot, hstored⟩
    case counters => exact hrecorded
    case queueDepthBefore => exact hbefore
    case queueDepthAfter => exact hafter
    all_goals simp
  · have heffects : (mb.kind.arrival q msg).effects (mb.push cb msg w).1
        (newestOf msg.eventId q).isSome = [.rejected] := by
      cases mb.kind.arrival q msg <;> simp [Arrival.effects, hrc]
    rw [heffects] at hrecorded
    apply truthful_rejected hrc _ rfl hbefore hafter hrecorded
    simp [pushReported, hrc]

theorem appended_with_room (h : mb.Holds q) (hroom : q.length < mb.kind.capacity) (msg : Msg P)
    (w : ω) (hrc : (mb.push cb msg w).1 = .ok) : mb.kind.arrival q msg = .append := by
  obtain ⟨hsound, _⟩ := mb.kind.arrival_sound q msg
  obtain ⟨hrefused, _⟩ := offer_place cb q w (mb.kind.arrival q msg) msg
  rw [← (push_matches cb h msg w).result] at hrefused
  rcases arrival_with_room hroom msg with happend | ⟨rc, hreject⟩
  · exact happend
  · exact absurd hrc (hrefused rc (hsound rc hreject) hreject)

theorem keep_truthful (h : mb.Holds q) (msg : Msg P) (slot : Option Nat) :
    Truthful mb msg .keep .ok
      ⟨if (newestOf msg.eventId q).isSome then .coalesced else .dropped, .ok, mb.count, mb.count, slot⟩
      { mb with
        stats := mb.stats.record
          (if (newestOf msg.eventId q).isSome then .coalesced else .dropped) } := by
  have hbefore : mb.count = mb.queued.length := Holds.count_eq ⟨h.1, rfl⟩
  cases hknown : newestOf msg.eventId q with
  | none =>
    have hnone := newestOf_eq_none_iff.mp hknown
    rw [← h.2] at hnone
    simp only [Option.isSome_none, Bool.false_eq_true, if_false]
    constructor
    case coalesced => simpa using hnone
    case dropped => simpa using hnone
    case queueDepthBefore => exact hbefore
    case queueDepthAfter => exact hbefore
    case counters => rfl
    all_goals simp
  | some index =>
    obtain ⟨⟨old, hold, hsame⟩, _⟩ := newestOf_spec hknown
    have hmem : old ∈ mb.queued := h.2 ▸ List.mem_of_getElem? hold
    simp only [Option.isSome_some, if_true]
    constructor
    case coalesced => simpa using ⟨old, hmem, hsame⟩
    case dropped => simpa using ⟨old, hmem, hsame⟩
    case queueDepthBefore => exact hbefore
    case queueDepthAfter => exact hbefore
    case counters => rfl
    all_goals simp

theorem pushCoalesced_truthful (h : mb.Holds q) (msg : Msg P) (w : ω) :
    Truthful mb msg (RouteQos.arrival .coalesced mb.kind q msg) (mb.pushCoalesced cb msg w).1
      (mb.pushCoalesced cb msg w).2.1 (mb.pushCoalesced cb msg w).2.2.1 := by
  have hkeep := keep_truthful h msg
  simp only [RouteQos.arrival]
  rcases pushCoalesced_cases cb h msg w with
    ⟨hknown, slot, heq⟩ | ⟨hnew, ⟨hfull, heq⟩ | ⟨hroom, heq⟩⟩
  · simp only [hknown, if_true] at hkeep
    rw [heq, if_pos hknown]
    exact hkeep (some slot)
  · simp only [hnew, Option.isSome_none, Bool.false_eq_true, if_false] at hkeep
    rw [heq, hnew, Option.isSome_none, if_neg Bool.false_ne_true, if_pos hfull]
    exact hkeep none
  · rw [heq, hnew, Option.isSome_none, if_neg Bool.false_ne_true, if_neg (Nat.not_le.mpr hroom)]
    exact pushReported_truthful cb h msg w fun hrc => appended_with_room cb h hroom msg w hrc

theorem pushLatestOnly_truthful (h : mb.Holds q) {msg : Msg P} (hv : msg.validate = .ok) (w : ω) :
    Truthful mb msg (RouteQos.arrival .latestOnly mb.kind q msg) (mb.pushLatestOnly cb msg w).1
      (mb.pushLatestOnly cb msg w).2.1 (mb.pushLatestOnly cb msg w).2.2.1 := by
  have hbefore : mb.count = mb.queued.length := Holds.count_eq ⟨h.1, rfl⟩
  simp only [RouteQos.arrival]
  rcases pushLatestOnly_cases cb h msg w with
    ⟨k, hk, hnew, ⟨hretain, heq⟩ | ⟨hretain, heq⟩⟩ | ⟨hnew, ⟨hfull, heq⟩ | ⟨hroom, heq⟩⟩
  · rw [heq, hnew]
    exact truthful_rejected hretain rfl rfl hbefore hbefore rfl
  · have hover := h.overwrite hv hk
    rw [heq, hnew]
    constructor
    case queueDepthBefore => exact hbefore
    case queueDepthAfter => exact hover.count_eq.trans (congrArg List.length hover.2.symm)
    case slotIndex =>
      intro _
      have hcount : k < mb.count := by rw [h.count_eq]; exact hk
      exact ⟨k, rfl, hcount, rfl, Function.update_self ..⟩
    case counters => rfl
    all_goals simp
  · have hkeep := keep_truthful h msg none
    simp only [hnew, Option.isSome_none, Bool.false_eq_true, if_false] at hkeep
    simp only [heq, hnew, if_pos hfull]
    exact hkeep
  · simp only [heq, hnew, if_neg (Nat.not_le.mpr hroom)]
    exact pushReported_truthful cb h msg w fun hrc => appended_with_room cb h hroom msg w hrc

/-- A full mailbox appends nothing, and accepts what its kind says. -/
theorem push_when_full (h : mb.Holds q) {msg : Msg P} (hv : msg.validate = .ok)
    (hfull : mb.count = mb.kind.capacity) (w : ω) :
    mb.kind.arrival q msg ≠ .append ∧
      ((mb.push cb msg w).1 = .ok ↔ AcceptsWhenFull cb mb msg w) := by
  have hlong : mb.kind.capacity ≤ q.length := by
    rw [← hfull, h.count_eq]
  have hresult := (push_matches cb h msg w).result
  unfold AcceptsWhenFull
  rw [hresult]
  cases hk : mb.kind with
  | fifo8 | fifo16 =>
    rw [hk] at hlong
    simp only [MailboxKind.arrival, hlong, if_true, QueueState.offer, hv, ne_eq, not_true_eq_false,
      if_false, reduceCtorEq, not_false_eq_true, and_self]
  | lossyRing8 =>
    rw [hk] at hlong
    simp only [MailboxKind.arrival, hlong, if_true, QueueState.offer, hv, ne_eq, not_true_eq_false,
      if_false, reduceCtorEq, not_false_eq_true, true_and]
    split <;> simp_all
  | mailbox1 =>
    have hne : q.isEmpty = false := by
      cases q with
      | nil => simp [hk, MailboxKind.capacity] at hlong
      | cons first rest => rfl
    simp only [MailboxKind.arrival, hne, Bool.false_eq_true, if_false, QueueState.offer, hv, ne_eq,
      not_true_eq_false, reduceCtorEq, not_false_eq_true, true_and]
    split <;> simp_all
  | coalescedFlag =>
    cases q with
    | nil => simp [hk, MailboxKind.capacity] at hlong
    | cons first rest =>
      have hget := h.getElem? (i := 0) (by simp)
      rw [cell_zero h.1.head_lt] at hget
      have hslot : mb.storage mb.head = first := (Option.some.inj hget).symm
      rw [hslot]
      simp only [MailboxKind.arrival]
      by_cases hload : msg.storage ≠ .none ∨ msg.payloadSize ≠ 0
      · have hnone : ¬ (msg.storage = .none ∧ msg.payloadSize = 0 ∧ first.eventId = msg.eventId) := by
          rintro ⟨hs, hp, _⟩
          rcases hload with hs' | hp'
          · exact hs' hs
          · exact hp' hp
        simp [hload, QueueState.offer, hv, hnone]
      · obtain ⟨hs, hp⟩ := not_or.mp hload
        by_cases hsame : first.eventId = msg.eventId
        · simp [not_not.mp hs, not_not.mp hp, hsame, QueueState.offer, hv]
        · simp [not_not.mp hs, not_not.mp hp, hsame, QueueState.offer, hv]

/-- A plain push is reported truly unless a full mailbox accepts it. -/
theorem pushReported_truthful_iff (h : mb.Holds q) {msg : Msg P} {qos : RouteQos}
    (hqos : qos ≠ .coalesced ∧ qos ≠ .latestOnly) (hv : msg.validate = .ok) (w : ω) :
    Truthful mb msg (mb.kind.arrival q msg) (mb.push cb msg w).1
      (mb.pushReported cb msg w).2.1 (mb.push cb msg w).2.1 ↔ ¬ PlainOnFull cb mb msg qos w := by
  constructor
  · rintro htruth ⟨_, _, _, hfull, haccepts⟩
    obtain ⟨hnone, hrc⟩ := push_when_full cb h hv hfull w
    have heffect : (mb.pushReported cb msg w).2.1.effect = .posted := by
      simp [pushReported, hrc.mpr haccepts]
    exact hnone (htruth.posted.mp heffect).2
  · intro hplain
    apply pushReported_truthful cb h msg w
    intro hrc
    by_cases hroom : q.length < mb.kind.capacity
    · exact appended_with_room cb h hroom msg w hrc
    · have hle := h.1.count_le
      rw [h.1.storageCount_eq] at hle
      have hfull : mb.count = mb.kind.capacity := by
        have := h.count_eq
        omega
      obtain ⟨_, haccepted⟩ := push_when_full cb h hv hfull w
      exact absurd ⟨hqos.1, hqos.2, hv, hfull, haccepted.mp hrc⟩ hplain

theorem pushQos_truthful_iff (h : mb.Holds q) (msg : Msg P) (qos : RouteQos) (w : ω) :
    Truthful mb msg (qos.arrival mb.kind q msg) (mb.pushQos cb msg qos w).1
      (mb.pushQos cb msg qos w).2.1 (mb.pushQos cb msg qos w).2.2.1 ↔
    ¬ PlainOnFull cb mb msg qos w := by
  by_cases hv : msg.validate = .ok
  · cases qos with
    | coalesced =>
      have htruth := pushCoalesced_truthful cb h msg w
      simpa [pushQos, hv, PlainOnFull] using htruth
    | latestOnly =>
      have htruth := pushLatestOnly_truthful cb h hv w
      simpa [pushQos, hv, PlainOnFull] using htruth
    | critical | bestEffort | lossy | wakeupCritical | telemetry | command =>
      rw [← pushReported_truthful_iff cb h ⟨by simp, by simp⟩ hv w]
      simp [pushQos, hv, RouteQos.arrival, pushReported]
  · have hbefore : mb.count = mb.queued.length := Holds.count_eq ⟨h.1, rfl⟩
    have htruth : Truthful mb msg (qos.arrival mb.kind q msg) msg.validate
        ⟨.rejected, msg.validate, mb.count, mb.count, none⟩ mb.countRejected :=
      truthful_rejected hv rfl rfl hbefore hbefore rfl
    have hplain : ¬ PlainOnFull cb mb msg qos w := fun hfull => hv hfull.2.2.1
    simpa only [pushQos, hv, ne_eq, not_false_eq_true, if_true, hplain, iff_true] using htruth

end Push

/-- In every reachable mailbox, and whatever the payload owners do, the push moves the
queue as its kind and QoS say, and the report tells the truth about it unless the queue
was full and the QoS left the loss to a kind that accepted the message. -/
theorem report_truthful_iff (cb : Callbacks P ω) (kind : MailboxKind) (ops : List (MailboxOp P))
    (w₀ w : ω) (msg : Msg P) (qos : RouteQos) :
    let mb := ((fresh kind).run cb ops w₀).2.1
    let out := mb.pushQos cb msg qos w
    let arrival := qos.arrival kind mb.queued msg
    out.2.2.1.queued = (if out.1 = .ok then arrival.place msg mb.queued else mb.queued) ∧
      (Truthful mb msg arrival out.1 out.2.1 out.2.2.1 ↔ ¬ PlainOnFull cb mb msg qos w) := by
  intro mb out arrival
  obtain ⟨_, hholds, hkind, _⟩ := run_refines cb ops (fresh_holds (P := P) kind) w₀
  have h : mb.Holds mb.queued := ⟨hholds.1, rfl⟩
  have hkind' : mb.kind = kind := hkind
  have hmatches := pushQos_matches cb h msg qos w
  obtain ⟨_, hplace⟩ := offer_place cb mb.queued w (qos.arrival mb.kind mb.queued msg) msg
  rw [← hmatches.result, ← hmatches.holds.2, hkind'] at hplace
  have htruth := pushQos_truthful_iff cb h msg qos w
  rw [hkind'] at htruth
  exact ⟨hplace, htruth⟩

/-- The second push on a `MAILBOX_1` overwrites the first and is reported as posted. -/
theorem report_untrue_mailbox1 :
    let mb := ((fresh .mailbox1 : Mailbox Unit).run Callbacks.none [.push bootEvent] ()).2.1
    let out := mb.pushQos Callbacks.none bootEvent .critical ()
    bootEvent.validate = .ok ∧ out.1 = .ok ∧ out.2.2.1.queued = mb.queued.set 0 bootEvent ∧
      out.2.2.1.stats.posted = 1 ∧ out.2.2.1.stats.replaced = 1 ∧ out.2.1.effect = .posted ∧
      ¬ Truthful mb bootEvent (RouteQos.arrival .critical .mailbox1 mb.queued bootEvent) out.1 out.2.1
        out.2.2.1 := by
  refine ⟨by decide, by decide, by decide, by decide, by decide, by decide, ?_⟩
  intro htruth
  exact absurd (htruth.posted.mp (by decide)).2 (by decide)

end Mailbox

end EventFramework
