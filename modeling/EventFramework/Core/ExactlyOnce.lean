import EventFramework.Core.PumpRules
import EventFramework.Core.MailboxRefinement

/-!
# Every accepted message is handled once, in order

The ledger of a registry: what its handlers were given and what its FIFO mailboxes still
hold is what was accepted, and the counters of both layers agree with it. Deliveries and
single handled messages keep it, so every run of the pumps does.
-/

namespace EventFramework
set_option autoImplicit false

variable {P ω : Type}

/-- A QoS under which a FIFO mailbox appends or rejects. -/
def RouteQos.Plain (qos : RouteQos) : Prop := qos ≠ .coalesced ∧ qos ≠ .latestOnly

def MailboxKind.Fifo (kind : MailboxKind) : Prop := kind = .fifo8 ∨ kind = .fifo16

theorem Mailbox.pushQos_plain (cb : Callbacks P ω) {mb : Mailbox P} {q : List (Msg P)}
    (h : mb.Holds q) (hfifo : mb.kind.Fifo) {qos : RouteQos} (hqos : qos.Plain) (msg : Msg P) (w : ω) :
    (mb.pushQos cb msg qos w).2.2.1.kind = mb.kind ∧
      (((mb.pushQos cb msg qos w).1 = .ok ∧ (mb.pushQos cb msg qos w).2.2.1.Holds (q ++ [msg]) ∧
        (mb.pushQos cb msg qos w).2.1.effect ≠ .dropped) ∨
      ((mb.pushQos cb msg qos w).1 ≠ .ok ∧ (mb.pushQos cb msg qos w).2.2.1.Holds q)) := by
  have hmatches := Mailbox.pushQos_matches cb h msg qos w
  have harrival : qos.arrival mb.kind q msg =
      if mb.kind.capacity ≤ q.length then .reject .errFull else .append := by
    have hplain : qos.arrival mb.kind q msg = mb.kind.arrival q msg := by
      cases qos <;> first | rfl | exact absurd rfl hqos.1 | exact absurd rfl hqos.2
    rw [hplain]
    rcases hfifo with hk | hk <;> rw [hk] <;> rfl
  have heffect : (mb.pushQos cb msg qos w).2.1.effect ≠ .dropped := by
    unfold Mailbox.pushQos
    split
    · exact MailboxDeliveryEffect.noConfusion
    · rw [if_neg hqos.1, if_neg hqos.2]
      simp only [Mailbox.pushReported]
      split <;> exact MailboxDeliveryEffect.noConfusion
  obtain ⟨hresult, hholds, hkind, _⟩ := hmatches
  refine ⟨hkind, ?_⟩
  rw [harrival] at hresult hholds
  simp only [Mailbox.unreported] at hresult hholds
  by_cases hv : msg.validate = .ok
  · by_cases hfull : mb.kind.capacity ≤ q.length
    · simp only [QueueState.offer, hv, hfull, ne_eq, not_true_eq_false, if_false, if_true]
        at hresult hholds
      exact Or.inr ⟨by rw [hresult]; exact Result.noConfusion, hholds⟩
    · by_cases hretained : (Mailbox.retainForQueue cb msg w).1 = .ok
      · simp only [QueueState.offer, hv, hfull, hretained, ne_eq, not_true_eq_false, if_false]
          at hresult hholds
        exact Or.inl ⟨hresult, hholds, heffect⟩
      · simp only [QueueState.offer, hv, hfull, hretained, ne_eq, not_true_eq_false,
          not_false_eq_true, if_false, if_true] at hresult hholds
        exact Or.inr ⟨by rw [hresult]; exact hretained, hholds⟩
  · rw [Mailbox.offer_invalid cb hv] at hresult hholds
    exact Or.inr ⟨by rw [hresult]; exact hv, hholds⟩

def handled (actor : ActorId) (history : List (Moment P)) : List (Msg P) :=
  history.filterMap fun m => match m.event with
    | .invoked other msg => if other = actor then some msg else none
    | _ => none

def accepted (actor : ActorId) (history : List (Moment P)) : List (Msg P) :=
  history.filterMap fun m => match m.event with
    | .delivered target msg rc => if target = actor ∧ rc = .ok then some msg else none
    | _ => none

namespace ActorRegistry

def queued (registry : ActorRegistry P) (actor : ActorId) : List (Msg P) :=
  (registry.slots actor).elim [] fun runtime => runtime.mailbox.queued

def enqueued (registry : ActorRegistry P) (actor : ActorId) : UInt32 :=
  (registry.slots actor).elim 0 fun runtime => runtime.stats.enqueued

def enqueueFailed (registry : ActorRegistry P) (actor : ActorId) : UInt32 :=
  (registry.slots actor).elim 0 fun runtime => runtime.stats.enqueueFailed

end ActorRegistry

/-- The books of a registry after a history. -/
structure Ledger (history : List (Moment P)) (registry : ActorRegistry P) : Prop where
  mailbox : ∀ actor runtime, registry.slots actor = some runtime →
    actor.isValid = true ∧ runtime.mailbox.kind.Fifo ∧ runtime.mailbox.Wf
  order : ∀ actor, handled actor history ++ registry.queued actor = accepted actor history
  enqueued : ∀ actor, registry.enqueued actor =
    UInt32.ofNat ((handled actor history).length + registry.pending actor)
  attempted : registry.stats.deliveryAttempted =
    registry.stats.deliverySucceeded + registry.stats.deliveryFailed
  succeeded : registry.stats.deliverySucceeded = (actorCatalog.map registry.enqueued).sum
  failed : registry.stats.deliveryFailed =
    registry.stats.deliveryTargetMissing + (actorCatalog.map registry.enqueueFailed).sum

@[simp] theorem handled_append (actor : ActorId) (history later : List (Moment P)) :
    handled actor (history ++ later) = handled actor history ++ handled actor later :=
  List.filterMap_append

@[simp] theorem accepted_append (actor : ActorId) (history later : List (Moment P)) :
    accepted actor (history ++ later) = accepted actor history ++ accepted actor later :=
  List.filterMap_append

theorem accepted_delivered (actor target : ActorId) (msg : Msg P) (rc : Result)
    (registry : ActorRegistry P) :
    accepted actor [⟨.delivered target msg rc, registry⟩] =
      if target = actor ∧ rc = .ok then [msg] else [] := by
  by_cases h : target = actor ∧ rc = .ok
  · simp only [accepted, List.filterMap_cons, List.filterMap_nil, if_pos h]
  · simp only [accepted, List.filterMap_cons, List.filterMap_nil, if_neg h]

theorem handled_invoked (actor other : ActorId) (msg : Msg P) (registry : ActorRegistry P) :
    handled actor [⟨.invoked other msg, registry⟩] = if other = actor then [msg] else [] := by
  by_cases h : other = actor
  · simp only [handled, List.filterMap_cons, List.filterMap_nil, if_pos h]
  · simp only [handled, List.filterMap_cons, List.filterMap_nil, if_neg h]

namespace ActorRegistry

variable {registry : ActorRegistry P} {actor : ActorId}

theorem slots_setRuntime (registry : ActorRegistry P) (runtime : ActorRuntime P) (actor : ActorId) :
    (registry.setRuntime runtime).slots actor =
      if actor = runtime.actorId then some runtime else registry.slots actor := by
  by_cases he : actor = runtime.actorId
  · simp [setRuntime, he]
  · simp [setRuntime, he]

theorem books_of_slot {runtime : ActorRuntime P} (h : registry.slots actor = some runtime) :
    registry.queued actor = runtime.mailbox.queued ∧ registry.pending actor = runtime.mailbox.count ∧
      registry.enqueued actor = runtime.stats.enqueued ∧
      registry.enqueueFailed actor = runtime.stats.enqueueFailed := by
  simp [queued, pending, ActorRuntime.pending, enqueued, enqueueFailed, h]

theorem books_congr {registry' : ActorRegistry P} (h : registry'.slots actor = registry.slots actor) :
    registry'.queued actor = registry.queued actor ∧ registry'.pending actor = registry.pending actor ∧
      registry'.enqueued actor = registry.enqueued actor ∧
      registry'.enqueueFailed actor = registry.enqueueFailed actor := by
  simp [queued, pending, enqueued, enqueueFailed, h]

end ActorRegistry

/-- What one actor gains, all actors together gain. -/
theorem sum_gain {count count' : ActorId → UInt32} {actor : ActorId} {gain : UInt32}
    (hself : count' actor = count actor + gain)
    (hothers : ∀ other, other ≠ actor → count' other = count other) (hactor : actor.isValid = true) :
    (actorCatalog.map count').sum = (actorCatalog.map count).sum + gain := by
  have hlist : ∀ actors : List ActorId, actors.Nodup →
      (actors.map count').sum = (actors.map count).sum + if actor ∈ actors then gain else 0 := by
    intro actors hnodup
    induction actors with
    | nil => rfl
    | cons first actors ih =>
      obtain ⟨hnew, hnodup⟩ := List.nodup_cons.mp hnodup
      rw [List.map_cons, List.sum_cons, List.map_cons, List.sum_cons, ih hnodup]
      by_cases he : first = actor
      · subst he
        rw [hself, if_neg hnew, if_pos (List.mem_cons_self ..)]
        grind
      · rw [hothers first he]
        by_cases hin : actor ∈ actors
        · rw [if_pos hin, if_pos (List.mem_cons_of_mem _ hin)]
          grind
        · rw [if_neg hin, if_neg (by simp [Ne.symm he, hin])]
          grind
  rw [hlist actorCatalog actorCatalog_nodup, if_pos ((mem_actorCatalog_iff actor).mpr hactor)]

namespace Ledger

variable {history : List (Moment P)} {registry : ActorRegistry P}

theorem quiet (h : Ledger history registry) {m : Moment P}
    (hhandled : ∀ actor, handled actor [m] = []) (haccepted : ∀ actor, accepted actor [m] = []) :
    Ledger (history ++ [m]) registry where
  mailbox := h.mailbox
  order := by
    intro actor
    rw [handled_append, accepted_append, hhandled, haccepted, List.append_nil, List.append_nil]
    exact h.order actor
  enqueued := by
    intro actor
    rw [handled_append, hhandled, List.append_nil]
    exact h.enqueued actor
  attempted := h.attempted
  succeeded := h.succeeded
  failed := h.failed

/-- One actor accepts or handles messages, and its counters and those of the registry
follow. -/
theorem move (h : Ledger history registry) (later : List (Moment P)) {stats : ActorRegistryStats}
    {runtime : ActorRuntime P} (runtime' : ActorRuntime P) (failures : UInt32)
    (hslot : registry.slots runtime'.actorId = some runtime)
    (hkind : runtime'.mailbox.kind = runtime.mailbox.kind) (hwf : runtime'.mailbox.Wf)
    (hothers : ∀ other, other ≠ runtime'.actorId → handled other later = [] ∧ accepted other later = [])
    (horder : handled runtime'.actorId later ++ runtime'.mailbox.queued =
      runtime.mailbox.queued ++ accepted runtime'.actorId later)
    (henqueued : runtime'.stats.enqueued =
      runtime.stats.enqueued + UInt32.ofNat (accepted runtime'.actorId later).length)
    (hfailed : runtime'.stats.enqueueFailed = runtime.stats.enqueueFailed + failures)
    (hattempted : stats.deliveryAttempted = registry.stats.deliveryAttempted +
      UInt32.ofNat (accepted runtime'.actorId later).length + failures)
    (hsucceeded : stats.deliverySucceeded =
      registry.stats.deliverySucceeded + UInt32.ofNat (accepted runtime'.actorId later).length)
    (hfailures : stats.deliveryFailed = registry.stats.deliveryFailed + failures)
    (hmissing : stats.deliveryTargetMissing = registry.stats.deliveryTargetMissing) :
    Ledger (history ++ later) (({ registry with stats := stats } : ActorRegistry P).setRuntime runtime') := by
  obtain ⟨hvalid, hfifo, hwf₀⟩ := h.mailbox _ _ hslot
  obtain ⟨hqueued, hpending, henq, hfail⟩ := ActorRegistry.books_of_slot hslot
  have hself : (({ registry with stats := stats } : ActorRegistry P).setRuntime runtime').slots
      runtime'.actorId = some runtime' := by
    rw [ActorRegistry.slots_setRuntime, if_pos rfl]
  obtain ⟨hqueued', hpending', henq', hfail'⟩ := ActorRegistry.books_of_slot hself
  have hsame : ∀ other, other ≠ runtime'.actorId →
      (({ registry with stats := stats } : ActorRegistry P).setRuntime runtime').slots other =
        registry.slots other := by
    intro other hne
    rw [ActorRegistry.slots_setRuntime, if_neg hne]
  have hcount : runtime.mailbox.count = runtime.mailbox.queued.length := Mailbox.Holds.count_eq ⟨hwf₀, rfl⟩
  have hcount' : runtime'.mailbox.count = runtime'.mailbox.queued.length :=
    Mailbox.Holds.count_eq ⟨hwf, rfl⟩
  have hlength : (handled runtime'.actorId later).length + runtime'.mailbox.count =
      runtime.mailbox.count + (accepted runtime'.actorId later).length := by
    rw [hcount, hcount', ← List.length_append, horder, List.length_append]
  refine ⟨?_, ?_, ?_, ?_, ?_, ?_⟩
  · intro actor other hother
    rw [ActorRegistry.slots_setRuntime] at hother
    split at hother
    · rename_i he
      obtain rfl := Option.some.inj hother
      rw [hkind, he]
      exact ⟨hvalid, hfifo, hwf⟩
    · exact h.mailbox actor other hother
  · intro actor
    rw [handled_append, accepted_append]
    by_cases he : actor = runtime'.actorId
    · rw [he, hqueued', ← h.order, List.append_assoc, horder, hqueued, List.append_assoc]
    · obtain ⟨hh, ha⟩ := hothers actor he
      rw [(ActorRegistry.books_congr (hsame actor he)).1, hh, ha, List.append_nil, List.append_nil]
      exact h.order actor
  · intro actor
    rw [handled_append]
    by_cases he : actor = runtime'.actorId
    · have hold := h.enqueued runtime'.actorId
      rw [henq, hpending] at hold
      rw [he, henq', hpending', henqueued, hold, ← UInt32.ofNat_add, List.length_append]
      congr 1
      omega
    · obtain ⟨hh, _⟩ := hothers actor he
      obtain ⟨_, hp, hen, _⟩ := ActorRegistry.books_congr (hsame actor he)
      rw [hen, hp, hh, List.append_nil]
      exact h.enqueued actor
  · change stats.deliveryAttempted = stats.deliverySucceeded + stats.deliveryFailed
    rw [hattempted, hsucceeded, hfailures, h.attempted]
    grind
  · change stats.deliverySucceeded = _
    rw [sum_gain (by rw [henq', henqueued, henq])
      (fun other hne => (ActorRegistry.books_congr (hsame other hne)).2.2.1) hvalid, ← h.succeeded,
      hsucceeded]
  · change stats.deliveryFailed = stats.deliveryTargetMissing + _
    rw [sum_gain (by rw [hfail', hfailed, hfail])
      (fun other hne => (ActorRegistry.books_congr (hsame other hne)).2.2.2) hvalid, hfailures, hmissing,
      h.failed]
    grind

theorem updateStats {w : World P ω} (h : Ledger history w.registry) (actor : ActorId)
    (f : ActorRuntimeStats → ActorRuntimeStats)
    (hf : ∀ s, (f s).enqueued = s.enqueued ∧ (f s).enqueueFailed = s.enqueueFailed) :
    Ledger history (w.updateStats actor f).registry := by
  unfold World.updateStats
  split
  · exact h
  · rename_i runtime hslot
    have hid := w.registry.slot_id _ _ hslot
    have hsome : w.registry.slots runtime.actorId = some runtime := by rw [hid, hslot]
    have hmove := h.move [] { runtime with stats := f runtime.stats } 0 hsome rfl
      (h.mailbox _ _ hslot).2.2 (fun _ _ => ⟨rfl, rfl⟩) (List.append_nil _).symm
      (by rw [(hf _).1]; exact (UInt32.add_zero _).symm) (by rw [(hf _).2]; exact (UInt32.add_zero _).symm)
      (by change _ = _ + 0 + 0; grind) (UInt32.add_zero _).symm (UInt32.add_zero _).symm rfl
    rwa [List.append_nil] at hmove

theorem invoked {w : World P ω} (h : Ledger history w.registry) {actor : ActorId}
    {runtime : ActorRuntime P} {msg : Msg P} {mb : Mailbox P} (registry' : ActorRegistry P)
    (hslot : w.registry.slots actor = some runtime) (hpop : runtime.mailbox.pop = (.ok, some msg, mb)) :
    Ledger (history ++ [⟨.invoked actor msg, registry'⟩])
      (w.setRuntime { runtime with mailbox := mb }).registry := by
  obtain rfl := w.registry.slot_id _ _ hslot
  obtain ⟨_, _, hwf⟩ := h.mailbox _ _ hslot
  cases hqueued : runtime.mailbox.queued with
  | nil =>
    have hempty := Mailbox.pop_empty ⟨hwf, hqueued⟩
    rw [hpop] at hempty
    cases hempty
  | cons first rest =>
    obtain ⟨_, hfirst, hholds, hkind⟩ := Mailbox.pop_holds ⟨hwf, hqueued⟩
    rw [hpop] at hfirst hholds hkind
    obtain rfl : msg = first := Option.some.inj hfirst
    refine h.move _ { runtime with mailbox := mb } 0 hslot hkind hholds.1
      (fun other hne => ⟨by rw [handled_invoked, if_neg (Ne.symm hne)], rfl⟩) ?_ (UInt32.add_zero _).symm
      (UInt32.add_zero _).symm (by change _ = _ + 0 + 0; grind) (UInt32.add_zero _).symm
      (UInt32.add_zero _).symm rfl
    rw [handled_invoked, if_pos rfl, hholds.2, hqueued]
    exact (List.append_nil _).symm

theorem missing (h : Ledger history registry) {target : ActorId} {msg : Msg P} {rc : Result}
    {registry' : ActorRegistry P} {stats : ActorRegistryStats} (hrc : rc ≠ .ok)
    (hattempted : stats.deliveryAttempted = registry.stats.deliveryAttempted + 1)
    (hsucceeded : stats.deliverySucceeded = registry.stats.deliverySucceeded)
    (hfailed : stats.deliveryFailed = registry.stats.deliveryFailed + 1)
    (hmissing : stats.deliveryTargetMissing = registry.stats.deliveryTargetMissing + 1) :
    Ledger (history ++ [⟨.delivered target msg rc, registry'⟩]) { registry with stats := stats } := by
  have haccepted : ∀ actor, accepted actor [(⟨.delivered target msg rc, registry'⟩ : Moment P)] = [] := by
    intro actor
    rw [accepted_delivered, if_neg fun he => hrc he.2]
  have hquiet := h.quiet (m := ⟨.delivered target msg rc, registry'⟩) (fun _ => rfl) haccepted
  refine ⟨hquiet.mailbox, hquiet.order, hquiet.enqueued, ?_, ?_, ?_⟩
  · change stats.deliveryAttempted = stats.deliverySucceeded + stats.deliveryFailed
    rw [hattempted, hsucceeded, hfailed, h.attempted]
    grind
  · change stats.deliverySucceeded = _
    rw [hsucceeded]
    exact h.succeeded
  · change stats.deliveryFailed = stats.deliveryTargetMissing + _
    have hold := h.failed
    rw [hfailed, hmissing, hold]
    change _ = registry.stats.deliveryTargetMissing + 1 + (actorCatalog.map registry.enqueueFailed).sum
    grind

theorem deliver (cb : Callbacks P ω) {w : World P ω} (h : Ledger w.history w.registry)
    (target : ActorId) (msg : Msg P) {qos : RouteQos} (hqos : qos.Plain) (wantReport : Bool) :
    Ledger (w.deliver cb target msg qos wantReport).2.2.history
      (w.deliver cb target msg qos wantReport).2.2.registry := by
  rw [w.deliver_history]
  rcases w.deliver_cases cb target msg qos wantReport with
    ⟨_, hrc, _, hregistry⟩ | ⟨runtime, rc, report, mailbox, outside, stats, counts, hfind, hpush, hrc, _,
      hregistry, hattempted, hmissing, hcounts⟩
  · rw [hregistry]
    exact h.missing (by rw [hrc]; exact Result.noConfusion) rfl rfl rfl rfl
  · rw [hregistry, hrc]
    have hslot : w.registry.slots target = some runtime := by
      unfold ActorRegistry.find at hfind
      split at hfind
      · exact hfind
      · cases hfind
    obtain rfl := w.registry.slot_id _ _ hslot
    obtain ⟨_, hfifo, hwf⟩ := h.mailbox _ _ hslot
    obtain ⟨hkind, hplain⟩ := Mailbox.pushQos_plain cb ⟨hwf, rfl⟩ hfifo hqos msg
      w.outside
    rw [hpush] at hkind hplain
    have hothers : ∀ other registry', other ≠ runtime.actorId →
        accepted other [(⟨.delivered runtime.actorId msg rc, registry'⟩ : Moment P)] = [] := by
      intro other registry' hne
      rw [accepted_delivered, if_neg fun he => hne he.1.symm]
    rcases hcounts with ⟨hok, hsucceeded, hfailed, henqueued, henqueueFailed⟩ |
      ⟨hbad, hsucceeded, hfailed, henqueued, henqueueFailed⟩
    · have hholds : mailbox.Holds (runtime.mailbox.queued ++ [msg]) := by
        rcases hplain with ⟨_, hholds, _⟩ | ⟨hnot, _⟩
        · exact hholds
        · exact absurd hok hnot
      have hself : ∀ registry', accepted runtime.actorId
          [(⟨.delivered runtime.actorId msg rc, registry'⟩ : Moment P)] = [msg] := by
        intro registry'
        rw [accepted_delivered, if_pos ⟨rfl, hok⟩]
      refine h.move _ { runtime with mailbox := mailbox, stats := counts } 0 hslot hkind hholds.1
        (fun other hne => ⟨rfl, hothers other _ hne⟩) ?_ ?_ ?_ ?_ ?_ ?_ hmissing
      · rw [hself, hholds.2]
        rfl
      · rw [hself]
        exact henqueued
      · rw [henqueueFailed]
        exact (UInt32.add_zero _).symm
      · rw [hself, hattempted]
        exact (UInt32.add_zero _).symm
      · rw [hself]
        exact hsucceeded
      · rw [hfailed]
        exact (UInt32.add_zero _).symm
    · have hnot : rc ≠ .ok ∧ mailbox.Holds runtime.mailbox.queued := by
        rcases hplain with ⟨hok, _, heffect⟩ | hnot
        · exact absurd hok (hbad.resolve_right heffect)
        · exact hnot
      have hself : ∀ registry', accepted runtime.actorId
          [(⟨.delivered runtime.actorId msg rc, registry'⟩ : Moment P)] = [] := by
        intro registry'
        rw [accepted_delivered, if_neg fun he => hnot.1 he.2]
      refine h.move _ { runtime with mailbox := mailbox, stats := counts } 1 hslot hkind hnot.2.1
        (fun other hne => ⟨rfl, hothers other _ hne⟩) ?_ ?_ henqueueFailed ?_ ?_
        hfailed hmissing
      · rw [hself, hnot.2.2]
        exact (List.append_nil _).symm
      · rw [hself, henqueued]
        exact (UInt32.add_zero _).symm
      · rw [hself, hattempted]
        change _ = _ + 0 + 1
        grind
      · rw [hself, hsucceeded]
        exact (UInt32.add_zero _).symm

end Ledger

/-- The books are right now and were right after every event. -/
def Booked (w : World P ω) : Prop :=
  Ledger w.history w.registry ∧
    ∀ before m after, w.history = before ++ m :: after → Ledger (before ++ [m]) m.registry

namespace Booked

variable {w w' : World P ω}

theorem event (h : Booked w) {m : Moment P} (hhistory : w'.history = w.history ++ [m])
    (hregistry : m.registry = w'.registry) (hledger : Ledger w'.history w'.registry) : Booked w' := by
  refine ⟨hledger, ?_⟩
  intro before m' after heq
  rcases List.eq_nil_or_concat after with rfl | ⟨after', last, rfl⟩
  · rw [heq, ← List.singleton_append, ← List.append_assoc, List.append_nil] at hledger
    rw [hhistory] at heq
    obtain ⟨_, hm⟩ := List.append_inj' heq rfl
    obtain rfl : m = m' := by simpa using hm
    rw [hregistry]
    simpa using hledger
  · rw [hhistory, List.concat_eq_append, ← List.cons_append, ← List.append_assoc] at heq
    exact h.2 before m' after' (List.append_inj' heq rfl).1

theorem same (h : Booked w) (hhistory : w'.history = w.history)
    (hledger : Ledger w.history w'.registry) : Booked w' := by
  refine ⟨by rwa [hhistory], ?_⟩
  rw [hhistory]
  exact h.2

theorem note (h : Booked w) {event : PumpEvent P}
    (hhandled : ∀ actor, handled actor [(⟨event, w.registry⟩ : Moment P)] = [])
    (haccepted : ∀ actor, accepted actor [(⟨event, w.registry⟩ : Moment P)] = []) :
    Booked (w.note event) :=
  h.event rfl rfl (h.1.quiet hhandled haccepted)

theorem updateStats (h : Booked w) (actor : ActorId) (f : ActorRuntimeStats → ActorRuntimeStats)
    (hf : ∀ s, (f s).enqueued = s.enqueued ∧ (f s).enqueueFailed = s.enqueueFailed) :
    Booked (w.updateStats actor f) :=
  h.same (by simp) (h.1.updateStats actor f hf)

theorem deliver (cb : Callbacks P ω) (h : Booked w) (target : ActorId) (msg : Msg P) {qos : RouteQos}
    (hqos : qos.Plain) (wantReport : Bool) : Booked (w.deliver cb target msg qos wantReport).2.2 :=
  h.event (w.deliver_history cb target msg qos wantReport) rfl
    (h.1.deliver cb target msg hqos wantReport)

end Booked

def lifecycle (history : List (Moment P)) : List (PumpEvent P) :=
  history.filterMap fun m => match m.event with
    | .invoked .. | .returned .. | .disposed .. => some m.event
    | _ => none

/-- Handlers run one after the other, and each message is disposed after its handler. -/
inductive Lifecycles : List (PumpEvent P) → Prop where
  | nil : Lifecycles []
  | handled {events : List (PumpEvent P)} (h : Lifecycles events) (actor : ActorId) (msg : Msg P)
      (rc : Result) :
      Lifecycles (events ++ [.invoked actor msg, .returned actor rc, .disposed actor msg])

@[simp] theorem lifecycle_append (history later : List (Moment P)) :
    lifecycle (history ++ later) = lifecycle history ++ lifecycle later :=
  List.filterMap_append

/-- What a handler does keeps the books and starts no other life. -/
def KeepsBooks (w w' : World P ω) : Prop :=
  (Booked w → Booked w') ∧ lifecycle w'.history = lifecycle w.history

theorem KeepsBooks.handlerFrame (cb : Callbacks P ω) :
    HandlerFrame cb RouteQos.Plain (KeepsBooks (P := P) (ω := ω)) where
  refl := fun _ => ⟨id, rfl⟩
  trans := fun h h' => ⟨h'.1 ∘ h.1, h'.2.trans h.2⟩
  deliver := by
    intro w target msg qos wantReport hqos
    refine ⟨fun h => h.deliver cb target msg hqos wantReport, ?_⟩
    rw [w.deliver_history, lifecycle_append]
    exact List.append_nil _
  outside := fun w act => ⟨fun h => h.same rfl h.1, rfl⟩

def Settled (w : World P ω) : Prop := Booked w ∧ Lifecycles (lifecycle w.history)

section Settled

variable {prog : Program P ω}

theorem handle_settled {actor : ActorId} {msg : Msg P} (hprog : (prog.handler actor msg).Delivers RouteQos.Plain)
    {w : World P ω} (hbooked : Booked (w.note (.invoked actor msg)))
    (hlives : Lifecycles (lifecycle w.history)) : Settled (handle prog actor msg w).2.2 := by
  have hrun := (KeepsBooks.handlerFrame prog.callbacks).exec hprog (w.note (.invoked actor msg))
  unfold handle
  generalize (prog.handler actor msg).exec prog.callbacks (w.note (.invoked actor msg)) = out at hrun
  obtain ⟨hbooks, hsame⟩ := hrun
  have hreturned : Booked (out.2.note (.returned actor out.1)) :=
    (hbooks hbooked).note (fun _ => rfl) fun _ => rfl
  have hreleased : Booked { out.2.note (.returned actor out.1) with
      outside := (msg.dispose prog.callbacks (out.2.note (.returned actor out.1)).outside).2.2 } :=
    hreturned.same rfl hreturned.1
  refine ⟨hreleased.note (fun _ => rfl) fun _ => rfl, ?_⟩
  have hlife := hlives.handled actor msg out.1
  have hinvoked : lifecycle (w.note (.invoked actor msg)).history =
      lifecycle w.history ++ [.invoked actor msg] := lifecycle_append _ _
  change Lifecycles (lifecycle ((out.2.history ++ [⟨.returned actor out.1, _⟩]) ++
    [⟨.disposed actor msg, _⟩]))
  rw [lifecycle_append, lifecycle_append, hsame, hinvoked, List.append_assoc, List.append_assoc]
  exact hlife

theorem processOne_settled (hprog : ∀ actor msg, (prog.handler actor msg).Delivers RouteQos.Plain)
    {w : World P ω} (h : Settled w) (actor : ActorId) : Settled (processOne prog actor w).2 := by
  rcases processOne_cases prog actor w with
    ⟨_, heq⟩ | ⟨runtime, hslot, ⟨_, _, heq⟩ |
      ⟨msg, mb, handled, disposed, w', _, hpop, _, hhandle, _, heq⟩⟩
  · rw [heq]
    exact h
  · rw [heq]
    exact ⟨h.1.updateStats actor _ fun _ => ⟨rfl, rfl⟩, by rw [World.updateStats_history]; exact h.2⟩
  · have hbooked : Booked ((w.setRuntime { runtime with mailbox := mb }).note (.invoked actor msg)) :=
      h.1.event rfl rfl (h.1.1.invoked _ hslot hpop)
    have hsettled := handle_settled (hprog actor msg) hbooked h.2
    rw [hhandle] at hsettled
    rw [heq]
    exact ⟨hsettled.1.updateStats actor _ fun _ => ⟨rfl, rfl⟩, by
      rw [World.updateStats_history]
      exact hsettled.2⟩

theorem Settled.pumpFrame (hprog : ∀ actor msg, (prog.handler actor msg).Delivers RouteQos.Plain) :
    PumpFrame prog (fun event => ¬event.ofHandling) (fun w w' => Settled w → Settled w') where
  refl := fun _ => id
  trans := fun h h' => h' ∘ h
  stats := fun w actor f hf h => ⟨h.1.updateStats actor f hf, by rw [w.updateStats_history]; exact h.2⟩
  note := by
    intro w event hscan h
    refine ⟨h.1.note ?_ ?_, ?_⟩
    · intro actor
      cases event <;> first | rfl | exact absurd trivial hscan
    · intro actor
      cases event <;> first | rfl | exact absurd trivial hscan
    · have hnone : lifecycle [(⟨event, w.registry⟩ : Moment P)] = [] := by
        cases event <;> first | rfl | exact absurd trivial hscan
      change Lifecycles (lifecycle (w.history ++ [⟨event, w.registry⟩]))
      rw [lifecycle_append, hnone, List.append_nil]
      exact h.2
  processOne := fun w actor h => processOne_settled hprog h actor

end Settled

def Untouched (registry : ActorRegistry P) : Prop :=
  registry.stats = {} ∧ ∀ actor runtime, registry.slots actor = some runtime →
    actor.isValid = true ∧ runtime.stats = {} ∧
      ∃ kind : MailboxKind, kind.Fifo ∧ runtime.mailbox = Mailbox.fresh kind

theorem bindActor_untouched {registry : ActorRegistry P} (h : Untouched registry) (actor : ActorId)
    (kind : MailboxKind) : Untouched (registry.bindActor actor kind) := by
  unfold ActorRegistry.bindActor
  cases hinit : ActorRuntime.init actor (Mailbox.fresh kind : Mailbox P) with
  | error rc => exact h
  | ok runtime =>
    have hbound : actor.isValid = true ∧ kind.Fifo ∧
        runtime = { actorId := actor, mailbox := Mailbox.fresh kind } := by
      unfold ActorRuntime.init at hinit
      cases hmeta : actorMeta actor with
      | none => simp [hmeta] at hinit
      | some info =>
        have hkind := actorMeta_fifo hmeta
        by_cases hsame : kind = info.mailboxKind
        · by_cases hdrain : info.drainBudget = 0
          · simp [hmeta, hsame, hdrain, Mailbox.fresh] at hinit
          · simp only [hmeta, hdrain, Mailbox.fresh, hsame, ne_eq, not_true_eq_false, if_false,
              Except.ok.injEq] at hinit
            exact ⟨by simp [ActorId.isValid, hmeta], hsame ▸ hkind, by rw [← hinit, hsame]; rfl⟩
        · simp [hmeta, hsame, Mailbox.fresh] at hinit
    obtain ⟨hvalid, hfifo, rfl⟩ := hbound
    unfold ActorRegistry.bind
    simp only
    split
    · exact h
    · split
      · exact h
      · refine ⟨h.1, ?_⟩
        intro other runtime hslot
        rw [ActorRegistry.slots_setRuntime] at hslot
        split at hslot
        · rename_i he
          obtain rfl := Option.some.inj hslot
          exact ⟨he ▸ hvalid, rfl, kind, hfifo, rfl⟩
        · exact h.2 other runtime hslot

theorem setup_untouched (actors : List (ActorId × MailboxKind)) :
    Untouched (ActorRegistry.setup actors : ActorRegistry P) := by
  have hfold : ∀ registry : ActorRegistry P, Untouched registry →
      Untouched (actors.foldl (fun registry actor => registry.bindActor actor.1 actor.2) registry) := by
    induction actors with
    | nil => exact fun _ h => h
    | cons actor actors ih => exact fun registry h => ih _ (bindActor_untouched h actor.1 actor.2)
  exact hfold _ ⟨rfl, by simp [ActorRegistry.fresh]⟩

/-- The books of a setup are right. -/
theorem Untouched.ledger {registry : ActorRegistry P} (h : Untouched registry) : Ledger [] registry := by
  obtain ⟨hstats, hslots⟩ := h
  have hbooks : ∀ actor, registry.queued actor = [] ∧ registry.pending actor = 0 ∧
      registry.enqueued actor = 0 ∧ registry.enqueueFailed actor = 0 := by
    intro actor
    cases hslot : registry.slots actor with
    | none => simp [ActorRegistry.queued, ActorRegistry.pending, ActorRegistry.enqueued,
        ActorRegistry.enqueueFailed, hslot]
    | some runtime =>
      obtain ⟨_, hcounts, kind, _, hmailbox⟩ := hslots actor runtime hslot
      obtain ⟨hqueued, hpending, henqueued, hfailed⟩ := ActorRegistry.books_of_slot hslot
      rw [hqueued, hpending, henqueued, hfailed, hcounts, hmailbox]
      exact ⟨(Mailbox.fresh_holds kind).2, rfl, rfl, rfl⟩
  have hnone : ∀ count : ActorId → UInt32, (∀ actor, count actor = 0) →
      (actorCatalog.map count).sum = 0 := by
    intro count hcount
    rw [funext hcount]
    rfl
  refine ⟨?_, ?_, ?_, ?_, ?_, ?_⟩
  · intro actor runtime hslot
    obtain ⟨hvalid, _, kind, hfifo, hmailbox⟩ := hslots actor runtime hslot
    rw [hmailbox]
    exact ⟨hvalid, hfifo, (Mailbox.fresh_holds kind).1⟩
  · intro actor
    rw [(hbooks actor).1]
    rfl
  · intro actor
    rw [(hbooks actor).2.1, (hbooks actor).2.2.1]
    rfl
  · rw [hstats]
    rfl
  · rw [hstats, hnone _ fun actor => (hbooks actor).2.2.1]
  · rw [hstats, hnone _ fun actor => (hbooks actor).2.2.2]
    rfl

/-- What happens to a running system, from outside its handlers. -/
inductive SystemOp (P ω : Type) where
  | delivery (target : ActorId) (msg : Msg P)
  | deliveryQos (target : ActorId) (msg : Msg P) (qos : RouteQos) (wantReport : Bool)
  | outside (act : ω → ω)
  | pump (turnBudget : Nat)

def SystemOp.Plain : SystemOp P ω → Prop
  | .deliveryQos _ _ qos _ => qos.Plain
  | .delivery .. | .outside _ | .pump _ => True

def SystemOp.exec (prog : Program P ω) (s : SystemPump × World P ω) : SystemOp P ω → SystemPump × World P ω
  | .delivery target msg => (s.1, (s.2.delivery prog.callbacks target msg).2.2)
  | .deliveryQos target msg qos wantReport =>
    (s.1, (s.2.deliver prog.callbacks target msg qos wantReport).2.2)
  | .outside act => (s.1, { s.2 with outside := act s.2.outside })
  | .pump turnBudget =>
    let out := s.1.run prog turnBudget s.2
    (out.2.2.1, out.2.2.2)

/-- A system that binds its actors and domains and then runs. -/
def serve (prog : Program P ω) (actors : List (ActorId × MailboxKind)) (pumps : List DomainPump)
    (ops : List (SystemOp P ω)) (outside : ω) : World P ω :=
  (ops.foldl (SystemOp.exec prog) (SystemPump.init.bindAll pumps, ⟨.setup actors, outside, []⟩)).2

theorem SystemOp.exec_settled {prog : Program P ω}
    (hprog : ∀ actor msg, (prog.handler actor msg).Delivers RouteQos.Plain) {op : SystemOp P ω}
    (hop : op.Plain) {s : SystemPump × World P ω} (h : Settled s.2) : Settled (op.exec prog s).2 := by
  cases op with
  | delivery target msg =>
    have hkept := (KeepsBooks.handlerFrame prog.callbacks).deliver s.2 target msg .critical false
      ⟨RouteQos.noConfusion, RouteQos.noConfusion⟩
    refine ⟨hkept.1 h.1, ?_⟩
    rw [SystemOp.exec, World.delivery, hkept.2]
    exact h.2
  | deliveryQos target msg qos wantReport =>
    have hkept := (KeepsBooks.handlerFrame prog.callbacks).deliver s.2 target msg qos wantReport hop
    refine ⟨hkept.1 h.1, ?_⟩
    rw [SystemOp.exec, hkept.2]
    exact h.2
  | outside act => exact ⟨h.1.same rfl h.1.1, h.2⟩
  | pump turnBudget => exact (Settled.pumpFrame hprog).systemRun (fun _ => id) s.1 turnBudget s.2 h

/-- In every run, handlers are given what was accepted, each message once and in order,
what they were not given is still queued, and the counters of both layers say so: now and
right after every event. Every message is disposed once, after its handler. -/
theorem exactly_once (prog : Program P ω) (actors : List (ActorId × MailboxKind))
    (pumps : List DomainPump) (ops : List (SystemOp P ω)) (outside : ω)
    (hprog : ∀ actor msg, (prog.handler actor msg).Delivers RouteQos.Plain)
    (hops : ∀ op ∈ ops, op.Plain) : Settled (serve prog actors pumps ops outside) := by
  have hstart : Settled (⟨.setup actors, outside, []⟩ : World P ω) :=
    ⟨⟨(setup_untouched actors).ledger, by simp⟩, .nil⟩
  have hrun : ∀ (ops : List (SystemOp P ω)) (s : SystemPump × World P ω), (∀ op ∈ ops, op.Plain) →
      Settled s.2 → Settled (ops.foldl (SystemOp.exec prog) s).2 := by
    intro ops
    induction ops with
    | nil => exact fun _ _ h => h
    | cons op ops ih =>
      intro s hplain h
      exact ih _ (fun op hop => hplain op (List.mem_cons_of_mem _ hop))
        (SystemOp.exec_settled hprog (hplain op (List.mem_cons_self ..)) h)
  exact hrun ops _ hops hstart

def signal (target : ActorId) : Msg Unit := (Msg.blank.initSend .bootStarted .boot target).2

/-- The boot actor delivers to itself and to the runtime actor and fails. -/
def echoProgram : Program Unit Unit where
  callbacks := ⟨fun _ _ _ _ w => (.ok, w), fun _ _ _ _ w => w⟩
  handler := fun actor _ =>
    if actor = .boot then
      .deliver .boot (signal .boot) .critical false fun _ _ =>
        .deliver .runtime (signal .runtime) .telemetry true fun _ _ => .ret .errState
    else .ret .ok

def echoRun : World Unit Unit :=
  serve echoProgram [(.boot, .fifo8), (.runtime, .fifo8)] [.init .fastLoop]
    [.delivery .boot (signal .boot), .pump 1, .pump 1] ()

theorem exactly_once_echo :
    Settled echoRun ∧ handled .boot echoRun.history = [signal .boot, signal .boot] ∧
      handled .runtime echoRun.history = [signal .runtime] ∧
      echoRun.registry.queued .boot = [signal .boot] := by
  refine ⟨exactly_once echoProgram _ _ _ () ?_ ?_, by decide, by decide, by decide⟩
  · intro actor msg
    by_cases he : actor = .boot
    · simp [echoProgram, he, HandlerProg.Delivers, RouteQos.Plain]
    · simp [echoProgram, he, HandlerProg.Delivers]
  · intro op hop
    simp only [List.mem_cons, List.not_mem_nil, or_false] at hop
    rcases hop with rfl | rfl | rfl <;> trivial

end EventFramework
