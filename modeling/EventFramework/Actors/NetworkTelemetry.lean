import EventFramework.Actors.NetworkEffect

/-!
# The telemetry of the network actor

Telemetry is sent in an MQTT session only, with its whole body, and not too often on one topic. Every
piece of telemetry and every transmission is counted by its outcome.
-/

namespace EventFramework
set_option autoImplicit false

variable {P ω : Type}

namespace NetworkActor

def isTick (msg : Inbound) : Bool := msg.eventId == .tick1s

def ticksAmong (events : List (ActorEvent P NetCall)) : Nat :=
  events.countP fun
    | .received msg => isTick msg
    | _ => false

def sinceNext (topic : List UInt8) (since : Option Nat) : ActorEvent P NetCall → Option Nat
  | .received msg => since.map (· + if isTick msg then 1 else 0)
  | .called (.publishMqttView view .ok) => if view.topic = topic then some 0 else since
  | _ => since

/-- The ticks since a topic was last sent, `none` if it never was. -/
def sinceSent (topic : List UInt8) (history : List (ActorEvent P NetCall)) : Option Nat :=
  history.foldl (sinceNext topic) none

/-- Two successful sends of one topic have ticks between them. -/
def Spaced (history : List (ActorEvent P NetCall)) : Prop :=
  ∀ before view between view' later,
    history = before ++ .called (.publishMqttView view .ok) ::
      (between ++ .called (.publishMqttView view' .ok) :: later) →
    view.topic = view'.topic → networkTelemetryMinIntervalTicks.toNat ≤ ticksAmong between

/-- A successful send comes long enough after the last one of its topic. -/
def SendSpaced (earlier : List (ActorEvent P NetCall)) (event : ActorEvent P NetCall) : Prop :=
  ∀ view, event = .called (.publishMqttView view .ok) →
    ∀ since, sinceSent view.topic earlier = some since →
      networkTelemetryMinIntervalTicks.toNat ≤ since

/-- What the ticks of the context say of the history. -/
structure Spacing (ticks : Nat) (s : NetworkActorState P ω) : Prop where
  counter : s.ctx.telemetryTickCounter.toNat = ticks
  never : ∀ source : TelemetryClass, sinceSent source.topic s.world.history = none →
    s.ctx.lastTick source = networkTelemetryTickNever
  since : ∀ (source : TelemetryClass) since, sinceSent source.topic s.world.history = some since →
    (s.ctx.lastTick source).toNat + since = ticks
  spaced : Machine.Justified SendSpaced s.world.history

theorem sinceSent_append (topic : List UInt8) (earlier later : List (ActorEvent P NetCall)) :
    sinceSent topic (earlier ++ later) = later.foldl (sinceNext topic) (sinceSent topic earlier) :=
  List.foldl_append

theorem sinceNext_some (topic : List UInt8) (event : ActorEvent P NetCall) (start : Nat) :
    ∃ since, sinceNext topic (some start) event = some since ∧ since ≤ start + ticksAmong [event] := by
  unfold sinceNext
  split
  · rename_i msg
    refine ⟨_, rfl, Nat.le_of_eq ?_⟩
    rw [ticksAmong, List.countP_singleton]
  · split
    · exact ⟨0, rfl, Nat.zero_le _⟩
    · exact ⟨start, rfl, Nat.le_add_right _ _⟩
  · exact ⟨start, rfl, Nat.le_add_right _ _⟩

theorem sinceNext_le (topic : List UInt8) (events : List (ActorEvent P NetCall)) : ∀ start : Nat,
    ∃ since, events.foldl (sinceNext topic) (some start) = some since ∧
      since ≤ start + ticksAmong events := by
  induction events with
  | nil => exact fun start => ⟨start, rfl, Nat.le_refl _⟩
  | cons event events ih =>
    intro start
    obtain ⟨next, hnext, hle⟩ := sinceNext_some topic event start
    obtain ⟨since, hsince, hsum⟩ := ih next
    refine ⟨since, by rw [List.foldl_cons, hnext, hsince], ?_⟩
    have hticks : ticksAmong ([event] ++ events) = ticksAmong [event] + ticksAmong events :=
      List.countP_append
    rw [List.singleton_append] at hticks
    omega

theorem spaced_of_justified {history : List (ActorEvent P NetCall)}
    (h : Machine.Justified SendSpaced history) : Spaced history := by
  intro before view between view' later hhistory htopic
  obtain ⟨since, hsince, hle⟩ := sinceNext_le view'.topic between 0
  have hpre : before ++ .called (.publishMqttView view .ok) :: between ++
      [.called (.publishMqttView view' .ok)] <+: history := by
    rw [hhistory]
    exact ⟨later, by simp⟩
  have hsent : sinceSent view'.topic (before ++ .called (.publishMqttView view .ok) :: between) =
      some since := by
    rw [sinceSent_append, List.foldl_cons]
    change between.foldl _ (if view.topic = view'.topic then some 0 else _) = _
    rw [if_pos htopic]
    exact hsince
  exact (h _ _ hpre view' rfl since hsent).trans (by omega)

/-- Calls without a successful send leave the ticks since the last one. -/
theorem sinceNext_calls (topic : List UInt8) {made : List NetCall}
    (h : ∀ view, .publishMqttView view .ok ∉ made) (since : Option Nat) :
    (made.map ActorEvent.called : List (ActorEvent P NetCall)).foldl (sinceNext topic) since = since := by
  induction made with
  | nil => rfl
  | cons call made ih =>
    obtain ⟨hcall, hmade⟩ : (∀ view, call ≠ .publishMqttView view .ok) ∧
        ∀ view, .publishMqttView view .ok ∉ made := by
      constructor
      · exact fun view heq => h view (heq ▸ List.mem_cons_self)
      · exact fun view hmem => h view (List.mem_cons_of_mem _ hmem)
    have hnext : sinceNext topic since (.called call : ActorEvent P NetCall) = since := by
      unfold sinceNext
      split
      · rename_i heq
        cases heq
      · rename_i view heq
        exact absurd (ActorEvent.called.inj heq) (hcall view)
      · rfl
    rw [List.map_cons, List.foldl_cons, hnext]
    exact ih hmade

theorem not_rateLimited {ctx : NetworkActor} {source : TelemetryClass} {since : Nat}
    (hfree : ctx.rateLimited (ctx.lastTick source) = false)
    (hsince : (ctx.lastTick source).toNat + since = ctx.telemetryTickCounter.toNat)
    (hbound : ctx.telemetryTickCounter.toNat < 2 ^ 32 - 1) :
    networkTelemetryMinIntervalTicks.toNat ≤ since := by
  have hne : ctx.lastTick source ≠ networkTelemetryTickNever := by
    intro hnever
    rw [hnever] at hsince
    have hvalue : networkTelemetryTickNever.toNat = 2 ^ 32 - 1 := rfl
    omega
  rw [rateLimited, if_neg hne, decide_eq_false_iff_not, UInt32.not_lt, UInt32.le_iff_toNat_le,
    UInt32.toNat_sub_of_le _ _ (UInt32.le_iff_toNat_le.mpr (by omega))] at hfree
  omega

theorem sendSpaced_of_ne {earlier : List (ActorEvent P NetCall)} {event : ActorEvent P NetCall}
    (h : ∀ view, event ≠ .called (.publishMqttView view .ok)) : SendSpaced earlier event :=
  fun view heq => absurd heq (h view)

theorem Spacing.unsent {ticks tick : Nat} {s s' : NetworkActorState P ω} (h : Spacing ticks s)
    {msg : Inbound} {made : List NetCall} {rc : Result} (htick : tick = if isTick msg then 1 else 0)
    (hhistory : s'.world.history =
      s.world.history ++ .received msg :: (made.map .called ++ [.returned rc]))
    (hcounter : s'.ctx.telemetryTickCounter.toNat = ticks + tick)
    (hmade : ∀ view, .publishMqttView view .ok ∉ made)
    (hlast : ∀ source, s'.ctx.lastTick source = s.ctx.lastTick source) :
    Spacing (ticks + tick) s' := by
  have hsince (topic : List UInt8) : sinceSent topic s'.world.history =
      (sinceSent topic s.world.history).map (· + tick) := by
    rw [hhistory, sinceSent_append, List.foldl_cons, List.foldl_append, sinceNext_calls topic hmade,
      htick]
    rfl
  refine ⟨hcounter, ?_, ?_, ?_⟩
  · intro source hnone
    rw [hsince, Option.map_eq_none_iff] at hnone
    rw [hlast]
    exact h.never source hnone
  · intro source since hsome
    rw [hsince] at hsome
    obtain ⟨before, hbefore, rfl⟩ := Option.map_eq_some_iff.mp hsome
    rw [hlast, ← Nat.add_assoc, h.since source before hbefore]
  · rw [hhistory]
    apply Machine.justified_append _ h.spaced
    intro earlier event hpre
    apply sendSpaced_of_ne
    rintro view rfl
    have hmem := hpre.subset (List.mem_append_right _ List.mem_cons_self)
    simp only [List.mem_cons, List.mem_append, List.mem_map, reduceCtorEq, List.not_mem_nil,
      false_or, or_false, ActorEvent.called.injEq, exists_eq_right] at hmem
    exact hmade view hmem

theorem Spacing.sent {ticks : Nat} {s s' : NetworkActorState P ω} (h : Spacing ticks s)
    {msg : Inbound} {rc : Result} {source : TelemetryClass} {view : NetMqttPublishView}
    (htick : isTick msg = false) (htopic : view.topic = source.topic)
    (hhistory : s'.world.history = s.world.history ++
      .received msg :: ([.called (.publishMqttView view .ok)] ++ [.returned rc]))
    (hcounter : s'.ctx.telemetryTickCounter.toNat = ticks) (hbound : ticks < 2 ^ 32 - 1)
    (hfree : s.ctx.rateLimited (s.ctx.lastTick source) = false)
    (hlast : ∀ other, s'.ctx.lastTick other =
      if other = source then s.ctx.telemetryTickCounter else s.ctx.lastTick other) :
    Spacing ticks s' := by
  have hreceived (topic : List UInt8) : sinceSent topic (s.world.history ++ [.received msg]) =
      sinceSent topic s.world.history := by
    rw [sinceSent_append]
    change (sinceSent topic s.world.history).map (· + if isTick msg then 1 else 0) = _
    rw [htick]
    exact Option.map_id'
  have hsince (topic : List UInt8) : sinceSent topic s'.world.history =
      if view.topic = topic then some 0 else sinceSent topic s.world.history := by
    have hsplit : s'.world.history = s.world.history ++ [.received msg] ++
        ([.called (.publishMqttView view .ok)] ++ [.returned rc]) := by
      rw [hhistory, List.append_cons]
    rw [hsplit, sinceSent_append, hreceived]
    rfl
  have hother {other : TelemetryClass} (hne : other ≠ source) : view.topic ≠ other.topic := by
    rw [htopic]
    exact fun heq => hne (TelemetryClass.topic_injective heq).symm
  refine ⟨hcounter, ?_, ?_, ?_⟩
  · intro other hnone
    rw [hsince] at hnone
    by_cases heq : other = source
    · rw [heq, if_pos htopic] at hnone
      cases hnone
    · rw [if_neg (hother heq)] at hnone
      rw [hlast, if_neg heq]
      exact h.never other hnone
  · intro other since hsome
    rw [hsince] at hsome
    by_cases heq : other = source
    · rw [heq, if_pos htopic] at hsome
      rw [hlast, if_pos heq, h.counter, ← Option.some.inj hsome]
      rfl
    · rw [if_neg (hother heq)] at hsome
      rw [hlast, if_neg heq]
      exact h.since other since hsome
  · rw [hhistory]
    apply Machine.justified_append _ h.spaced
    refine Machine.justified_cons.mpr ⟨sendSpaced_of_ne (by simp), ?_⟩
    refine Machine.justified_cons.mpr ⟨?_, ?_⟩
    · intro other heq since hsome
      have hview : view = other := by
        have hcall := ActorEvent.called.inj heq
        exact (NetCall.publishMqttView.inj hcall).1
      rw [hreceived, ← hview, htopic] at hsome
      apply not_rateLimited hfree
      · rw [h.since source since hsome, h.counter]
      · rw [h.counter]
        exact hbound
    · exact Machine.justified_cons.mpr ⟨sendSpaced_of_ne (by simp), Machine.justified_nil⟩

theorem Spacing.step (net : Option (NetPublishPort ω)) {ticks : Nat} {s : NetworkActorState P ω}
    (h : Spacing ticks s) (msg : Inbound)
    (hbound : ticks + (if isTick msg then 1 else 0) < 2 ^ 32 - 1) :
    Spacing (ticks + if isTick msg then 1 else 0) (step net s msg) := by
  obtain ⟨made, rc, hhistory, -, hhandled⟩ := step_handled net s msg
  have hcounter : (NetworkActor.step net s msg).ctx.telemetryTickCounter.toNat =
      ticks + if isTick msg then 1 else 0 := by
    rw [hhandled.ticks, UInt32.toNat_add, h.counter]
    by_cases htick : msg.eventId = .tick1s
    · have hyes : isTick msg = true := beq_iff_eq.mpr htick
      rw [if_pos htick, if_pos hyes]
      rw [if_pos hyes] at hbound
      exact Nat.mod_eq_of_lt (Nat.lt_of_lt_of_le hbound (by decide))
    · have hno : isTick msg = false := beq_eq_false_iff_ne.mpr htick
      rw [if_neg htick, hno]
      rw [hno] at hbound
      exact Nat.mod_eq_of_lt (Nat.lt_of_lt_of_le hbound (by decide))
  rcases hhandled.sends with ⟨hmade, hlast⟩ | ⟨source, view, rfl, htopic, hevent, hfree, hlast⟩
  · exact h.unsent rfl hhistory hcounter hmade hlast
  · have htick : isTick msg = false := by
      rw [isTick, hevent]
      cases source <;> rfl
    rw [htick] at hcounter hbound ⊢
    exact h.sent htick htopic hhistory hcounter hbound hfree hlast

theorem start_spacing (outside : ω) : Spacing 0 (start outside : NetworkActorState P ω) := by
  refine ⟨rfl, fun source _ => ?_, fun source since hsome => ?_, Machine.justified_nil⟩
  · cases source <;> rfl
  · cases hsome

/-- Every piece of telemetry and every transmission has its outcome. A telemetry send that fails with
an unexpected code also counts as a failed transmission. -/
structure Accounted (s : NetworkActorState P ω) : Prop where
  telemetry : s.ctx.stats.telemetrySeen = s.ctx.stats.telemetryTotal
  tx : s.ctx.stats.txCommandsSeen + telemetryFailures (calls s) = s.ctx.stats.txTotal

theorem telemetryFailures_append (earlier later : List NetCall) :
    telemetryFailures (earlier ++ later) = telemetryFailures earlier + telemetryFailures later := by
  rw [telemetryFailures, List.countP_append, UInt32.ofNat_add]
  rfl

theorem Accounted.step (net : Option (NetPublishPort ω)) {s : NetworkActorState P ω}
    (h : Accounted s) (msg : Inbound) : Accounted (step net s msg) := by
  obtain ⟨made, _, _, hcalls, hhandled⟩ := step_handled net s msg
  constructor
  · have hnext := hhandled.telemetry
    rw [h.telemetry, UInt32.add_comm] at hnext
    exact (UInt32.add_right_inj _).mp hnext
  · have hnext := hhandled.tx
    rw [← h.tx] at hnext
    rw [hcalls, telemetryFailures_append]
    apply (UInt32.add_right_inj s.ctx.stats.txCommandsSeen).mp
    rw [← hnext]
    ac_rfl

def tickCount (msgs : List Inbound) : Nat := msgs.countP isTick

/-- In a run of fewer than `2 ^ 32 - 1` ticks the port is called in an MQTT session only, telemetry is
whole and spaced, and everything is counted. -/
theorem telemetry_accounted (net : Option (NetPublishPort ω)) (outside : ω) (msgs : List Inbound)
    (hticks : tickCount msgs < 2 ^ 32 - 1) :
    let after (earlier : List Inbound) : NetworkActorState P ω :=
      Machine.run (step net) (start outside) earlier
    let stats := (after msgs).ctx.stats
    (∀ earlier msg, earlier ++ [msg] <+: msgs → ∃ made,
      calls (after (earlier ++ [msg])) = calls (after earlier) ++ made ∧
      (made ≠ [] → (after earlier).ctx.state = .mqttConnected ∧
        (after (earlier ++ [msg])).ctx.state = .mqttConnected) ∧
      ∀ view result, .publishMqttView view result ∈ made → CompleteView msg view) ∧
    Spaced (after msgs).world.history ∧
    stats.telemetrySeen = stats.telemetrySent + (stats.telemetryDroppedDisabled +
      stats.telemetryDroppedDisconnected + stats.telemetryDroppedRateLimit +
      stats.telemetryDroppedOversize + stats.telemetryDroppedUnsupported) ∧
    stats.txCommandsSeen + telemetryFailures (calls (after msgs)) =
      stats.txRejectedNotConnected + stats.txOk + stats.txFailed := by
  intro after stats
  have hsnoc (earlier : List Inbound) (msg : Inbound) :
      after (earlier ++ [msg]) = step net (after earlier) msg :=
    Machine.run_append _ _ _ [msg]
  have hrun (earlier : List Inbound) : earlier <+: msgs →
      Spacing (tickCount earlier) (after earlier) ∧ Accounted (after earlier) := by
    induction earlier using List.reverseRecOn with
    | nil => exact fun _ => ⟨start_spacing outside, rfl, rfl⟩
    | append_singleton earlier msg ih =>
      intro hpre
      obtain ⟨hspacing, haccounted⟩ := ih ((List.prefix_append _ _).trans hpre)
      have hcount : tickCount (earlier ++ [msg]) =
          tickCount earlier + if isTick msg then 1 else 0 := by
        rw [tickCount, List.countP_append, List.countP_singleton]
        rfl
      have hbound : tickCount (earlier ++ [msg]) < 2 ^ 32 - 1 :=
        Nat.lt_of_le_of_lt hpre.sublist.countP_le hticks
      rw [hcount] at hbound
      rw [hsnoc, hcount]
      exact ⟨hspacing.step net msg hbound, haccounted.step net msg⟩
  obtain ⟨hspacing, haccounted⟩ := hrun msgs (List.prefix_refl _)
  refine ⟨?_, spaced_of_justified hspacing.spaced, haccounted.telemetry, haccounted.tx⟩
  intro earlier msg _
  obtain ⟨made, _, _, hcalls, hhandled⟩ := step_handled net (after earlier) msg
  rw [hsnoc]
  exact ⟨made, hcalls, hhandled.gated, hhandled.complete⟩

def viewPort (result : Result) : NetPublishPort Unit where
  publishMqtt := some fun _ w => (.ok, w)
  publishMqttView := some fun _ w => (result, w)

/-- The links come up and a sample is sent. The next one comes too early, and the one after a tick is
sent again. -/
def sampleMsgs : List Inbound :=
  [⟨.netWifiUp, none, 0⟩, ⟨.netMqttUp, none, 0⟩, ⟨.tempUpdated, some fun _ => 1, 2⟩,
    ⟨.tempUpdated, some fun _ => 1, 2⟩, ⟨.tick1s, none, 0⟩, ⟨.tempUpdated, some fun _ => 1, 2⟩]

theorem telemetry_accounted_samples :
    let s := Machine.run (step (some (viewPort .ok))) (start () : NetworkActorState Empty Unit) sampleMsgs
    s.ctx.stats.telemetrySent = 2 ∧ s.ctx.stats.telemetryDroppedRateLimit = 1 ∧
      Spaced s.world.history :=
  ⟨by decide, by decide, (telemetry_accounted (some (viewPort .ok)) () sampleMsgs (by decide)).2.1⟩

/-- Telemetry that the port has no room for counts as a failed transmission, and no transmission was
seen. -/
theorem not_txAccounted :
    let stats := (Machine.run (step (some (viewPort .errFull)))
      (start () : NetworkActorState Empty Unit) sampleMsgs).ctx.stats
    ¬stats.txCommandsSeen = stats.txRejectedNotConnected + stats.txOk + stats.txFailed := by
  decide

end NetworkActor

end EventFramework
