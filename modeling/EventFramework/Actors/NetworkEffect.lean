import EventFramework.Actors.NetworkActor

/-!
# What the network actor does with a message

Every handler in one relation: the context that a message leaves and the calls of the port that it
makes.
-/

namespace EventFramework
set_option autoImplicit false

variable {P ω : Type}

/-- The state that an event leaves. -/
def NetworkState.after (state : NetworkState) : EventId → NetworkState
  | .netWifiUp => if state = .disconnected then .wifiUp else state
  | .netWifiDown => .disconnected
  | .netMqttUp => .mqttConnected
  | .netMqttDown => .wifiUp
  | _ => state

namespace TelemetryClass

def eventId : TelemetryClass → EventId
  | .temp => .tempUpdated
  | .time => .timeUpdated
  | .inputs => .mcp23008InputChanged
  | .light => .lightUpdated

def topic : TelemetryClass → List UInt8
  | .temp => NetworkActor.tempTopic
  | .time => NetworkActor.timeTopic
  | .inputs => NetworkActor.inputsTopic
  | .light => NetworkActor.lightTopic

def text : TelemetryClass → (Nat → UInt8) → List UInt8
  | .temp => NetworkActor.tempText
  | .time => NetworkActor.timeText
  | .inputs => NetworkActor.inputsText
  | .light => NetworkActor.lightText

theorem topic_injective {source source' : TelemetryClass} (h : source.topic = source'.topic) :
    source = source' := by
  cases source <;> cases source' <;> first | rfl | exact absurd h (by decide)

end TelemetryClass

namespace NetworkActorStats

def telemetryTotal (stats : NetworkActorStats) : UInt32 :=
  stats.telemetrySent + (stats.telemetryDroppedDisabled + stats.telemetryDroppedDisconnected +
    stats.telemetryDroppedRateLimit + stats.telemetryDroppedOversize +
    stats.telemetryDroppedUnsupported)

def txTotal (stats : NetworkActorStats) : UInt32 :=
  stats.txRejectedNotConnected + stats.txOk + stats.txFailed

structure SameTallies (stats stats' : NetworkActorStats) : Prop where
  txCommandsSeen : stats'.txCommandsSeen = stats.txCommandsSeen
  txTotal : stats'.txTotal = stats.txTotal
  telemetrySeen : stats'.telemetrySeen = stats.telemetrySeen
  telemetryTotal : stats'.telemetryTotal = stats.telemetryTotal

theorem drop_tallies (reason : TelemetryDrop) (stats : NetworkActorStats) :
    (stats.drop reason).txCommandsSeen = stats.txCommandsSeen ∧
      (stats.drop reason).txTotal = stats.txTotal ∧
      (stats.drop reason).telemetrySeen = stats.telemetrySeen ∧
      (stats.drop reason).telemetryTotal = stats.telemetryTotal + 1 := by
  cases reason <;> refine ⟨rfl, rfl, rfl, ?_⟩ <;> simp only [drop, telemetryTotal] <;> ac_rfl

end NetworkActorStats

/-- A telemetry send that fails with another code than the actor expects. -/
def NetCall.isFailedTelemetry : NetCall → Bool
  | .publishMqttView _ result => result != .ok && result != .errUnsupported && result != .errState
  | .publishMqtt _ _ => false

def telemetryFailures (calls : List NetCall) : UInt32 :=
  UInt32.ofNat (calls.countP NetCall.isFailedTelemetry)

namespace NetworkActor

/-- A telemetry call for a message: its whole body, below the bound. -/
def CompleteView (msg : Inbound) (view : NetMqttPublishView) : Prop :=
  ∃ source payload, msg.eventId = TelemetryClass.eventId source ∧ msg.payload = some payload ∧
    view = {
      topic := source.topic
      topicLen := source.topic.length
      payload := source.text payload
      payloadLen := (source.text payload).length
      qos := 0
      retain := 0 } ∧
    (source.text payload).length < networkTelemetryPayloadMaxBytes

/-- What the last ticks show of the calls: only a successful send moves one, and it was not
limited. -/
inductive Sends (msg : Inbound) (ctx ctx' : NetworkActor) (calls : List NetCall) : Prop where
  | none : (∀ view, .publishMqttView view .ok ∉ calls) →
    (∀ source, ctx'.lastTick source = ctx.lastTick source) → Sends msg ctx ctx' calls
  | one (source : TelemetryClass) (view : NetMqttPublishView) :
    calls = [.publishMqttView view .ok] → view.topic = source.topic →
    msg.eventId = source.eventId → ctx.rateLimited (ctx.lastTick source) = false →
    (∀ other, ctx'.lastTick other =
      if other = source then ctx.telemetryTickCounter else ctx.lastTick other) →
    Sends msg ctx ctx' calls

structure Handled (msg : Inbound) (ctx ctx' : NetworkActor) (calls : List NetCall) : Prop where
  state : ctx'.state = ctx.state.after msg.eventId
  gated : calls ≠ [] → ctx.state = .mqttConnected ∧ ctx'.state = .mqttConnected
  telemetry : ctx'.stats.telemetrySeen + ctx.stats.telemetryTotal =
    ctx.stats.telemetrySeen + ctx'.stats.telemetryTotal
  tx : ctx'.stats.txCommandsSeen + telemetryFailures calls + ctx.stats.txTotal =
    ctx.stats.txCommandsSeen + ctx'.stats.txTotal
  complete : ∀ view result, .publishMqttView view result ∈ calls → CompleteView msg view
  ticks : ctx'.telemetryTickCounter =
    ctx.telemetryTickCounter + if msg.eventId = .tick1s then 1 else 0
  sends : Sends msg ctx ctx' calls

/-- What a handler of a message leaves. -/
def Handles (msg : Inbound) (s : NetworkActorState P ω) (out : Result × NetworkActorState P ω) :
    Prop :=
  ∃ outside calls, out.2.world = ⟨outside, s.world.history ++ calls.map .called⟩ ∧
    Handled msg s.ctx out.2.ctx calls

/-- An event that moves neither the state nor the tick. -/
def Still (eventId : EventId) : Prop :=
  eventId ≠ .tick1s ∧ ∀ state : NetworkState, state.after eventId = state

theorem still_of_class (source : TelemetryClass) : Still source.eventId := by
  cases source <;> exact ⟨by decide, fun _ => rfl⟩

variable {msg : Inbound} {ctx : NetworkActor} {s : NetworkActorState P ω}

theorem Handled.counted (hstill : Still msg.eventId) {stats : NetworkActorStats}
    {calls : List NetCall} (hgated : calls ≠ [] → ctx.state = .mqttConnected)
    (htelemetry : stats.telemetrySeen + ctx.stats.telemetryTotal =
      ctx.stats.telemetrySeen + stats.telemetryTotal)
    (htx : stats.txCommandsSeen + telemetryFailures calls + ctx.stats.txTotal =
      ctx.stats.txCommandsSeen + stats.txTotal)
    (hcomplete : ∀ view result, .publishMqttView view result ∈ calls → CompleteView msg view)
    (hnone : ∀ view, .publishMqttView view .ok ∉ calls) :
    Handled msg ctx { ctx with stats := stats } calls := by
  refine ⟨(hstill.2 _).symm, fun hcalls => ⟨hgated hcalls, hgated hcalls⟩, htelemetry, htx,
    hcomplete, ?_, .none hnone fun source => ?_⟩
  · rw [if_neg hstill.1]
    exact (UInt32.add_zero _).symm
  · cases source <;> rfl

theorem Handled.quiet (hstill : Still msg.eventId) {stats : NetworkActorStats}
    (h : ctx.stats.SameTallies stats) : Handled msg ctx { ctx with stats := stats } [] := by
  apply Handled.counted hstill
  · exact fun hne => absurd rfl hne
  · rw [h.telemetrySeen, h.telemetryTotal]
  · rw [h.txCommandsSeen, h.txTotal]
    exact congrArg (· + _) (UInt32.add_zero _)
  · exact fun _ _ hmem => absurd hmem List.not_mem_nil
  · exact fun _ hmem => absurd hmem List.not_mem_nil

/-- Telemetry is dropped, after a refused call or with none. -/
theorem Handled.dropped (hstill : Still msg.eventId) {stats : NetworkActorStats}
    (h : ctx.stats.SameTallies stats) (reason : TelemetryDrop) {calls : List NetCall}
    (hgated : calls ≠ [] → ctx.state = .mqttConnected) (hfailures : telemetryFailures calls = 0)
    (hcomplete : ∀ view result, .publishMqttView view result ∈ calls → CompleteView msg view)
    (hnone : ∀ view, .publishMqttView view .ok ∉ calls) :
    Handled msg ctx { ctx with stats := stats.seeTelemetry.drop reason } calls := by
  obtain ⟨htxSeen, htxTotal, hseen, htotal⟩ := NetworkActorStats.drop_tallies reason stats.seeTelemetry
  apply Handled.counted hstill hgated
  · rw [hseen, htotal]
    change stats.telemetrySeen + 1 + _ = _ + (stats.telemetryTotal + 1)
    rw [h.telemetrySeen, h.telemetryTotal]
    ac_rfl
  · rw [htxSeen, htxTotal, hfailures]
    change stats.txCommandsSeen + 0 + _ = _ + stats.txTotal
    rw [h.txCommandsSeen, h.txTotal, UInt32.add_zero]
  · exact hcomplete
  · exact hnone

theorem Handles.of_same_world {out : Result × NetworkActorState P ω} (hworld : out.2.world = s.world)
    (h : Handled msg s.ctx out.2.ctx []) : Handles msg s out :=
  ⟨s.world.outside, [], by rw [hworld, List.map_nil, List.append_nil], h⟩

theorem not_mem_refused {view : NetMqttPublishView} {rc : Result} (h : rc ≠ .ok) :
    ∀ other, NetCall.publishMqttView other .ok ∉ [NetCall.publishMqttView view rc] := by
  intro other hmem
  have heq := List.mem_singleton.mp hmem
  exact h (NetCall.publishMqttView.inj heq).2.symm

theorem telemetryFailures_one (call : NetCall) :
    telemetryFailures [call] = if call.isFailedTelemetry then 1 else 0 := by
  rw [telemetryFailures, List.countP_singleton]
  split <;> rfl

theorem concludeTelemetry_failed {view : NetMqttPublishView} {rc : Result}
    (h : (NetCall.publishMqttView view rc).isFailedTelemetry = true) (source : TelemetryClass) :
    concludeTelemetry source rc s = dropTelemetry .unsupported
      (count (fun stats => { stats with txFailed := stats.txFailed + 1 }) s) := by
  cases rc <;> first | rfl | cases h

@[simp] theorem setLastTick_state (ctx : NetworkActor) (tick : UInt32) (source : TelemetryClass) :
    (ctx.setLastTick tick source).state = ctx.state := by
  cases source <;> rfl

@[simp] theorem setLastTick_stats (ctx : NetworkActor) (tick : UInt32) (source : TelemetryClass) :
    (ctx.setLastTick tick source).stats = ctx.stats := by
  cases source <;> rfl

@[simp] theorem setLastTick_counter (ctx : NetworkActor) (tick : UInt32) (source : TelemetryClass) :
    (ctx.setLastTick tick source).telemetryTickCounter = ctx.telemetryTickCounter := by
  cases source <;> rfl

theorem setLastTick_lastTick (ctx : NetworkActor) (tick : UInt32) (source other : TelemetryClass) :
    (ctx.setLastTick tick source).lastTick other =
      if other = source then tick else ctx.lastTick other := by
  cases source <;> cases other <;> rfl

/-- The call of `publish_mqtt_view` and what follows it. -/
theorem concludeTelemetry_handled (ctx : NetworkActor) (s : NetworkActorState P ω)
    {source : TelemetryClass} (hevent : msg.eventId = source.eventId)
    (hconnected : ctx.state = .mqttConnected) {stats : NetworkActorStats}
    (h : ctx.stats.SameTallies stats) {view : NetMqttPublishView} (htopic : view.topic = source.topic)
    (hview : CompleteView msg view) (hfree : ctx.rateLimited (ctx.lastTick source) = false)
    (rc : Result) (hctx : s.ctx = { ctx with stats := stats.seeTelemetry }) :
    (concludeTelemetry source rc s).2.world = s.world ∧
      Handled msg ctx (concludeTelemetry source rc s).2.ctx [.publishMqttView view rc] := by
  have hstill : Still msg.eventId := hevent ▸ still_of_class source
  have hcomplete : ∀ other result, NetCall.publishMqttView other result ∈
      [NetCall.publishMqttView view rc] → CompleteView msg other := by
    intro other result hmem
    have heq := List.mem_singleton.mp hmem
    rw [(NetCall.publishMqttView.inj heq).1]
    exact hview
  have hdropped (reason : TelemetryDrop) (hne : rc ≠ .ok)
      (hfailed : (NetCall.publishMqttView view rc).isFailedTelemetry = false) :
      (dropTelemetry reason s).2.world = s.world ∧
        Handled msg ctx (dropTelemetry reason s).2.ctx [.publishMqttView view rc] := by
    have hleft : (dropTelemetry reason s).2.ctx =
        { ctx with stats := stats.seeTelemetry.drop reason } := by
      rw [dropTelemetry, count, Running.setCtx, hctx]
    rw [hleft]
    refine ⟨rfl, .dropped hstill h reason (fun _ => hconnected) ?_ hcomplete (not_mem_refused hne)⟩
    rw [telemetryFailures_one, hfailed]
    rfl
  by_cases hfailed : (NetCall.publishMqttView view rc).isFailedTelemetry = true
  · have hne : rc ≠ .ok := by
      rintro rfl
      cases hfailed
    have hleft : (concludeTelemetry source rc s).2.ctx = { ctx with
        stats := ({ stats.seeTelemetry with txFailed := stats.txFailed + 1 } :
          NetworkActorStats).drop .unsupported } := by
      rw [concludeTelemetry_failed hfailed, dropTelemetry, count, Running.setCtx, count,
        Running.setCtx, hctx]
      rfl
    refine ⟨by rw [concludeTelemetry_failed hfailed]; rfl, ?_⟩
    rw [hleft]
    apply Handled.counted hstill (fun _ => hconnected)
    · change stats.telemetrySeen + 1 + _ = _
      rw [(NetworkActorStats.drop_tallies _ _).2.2.2, h.telemetrySeen]
      change _ = _ + (stats.telemetryTotal + 1)
      rw [h.telemetryTotal]
      ac_rfl
    · rw [telemetryFailures_one, if_pos hfailed]
      change stats.txCommandsSeen + 1 + _ = _ + (stats.txRejectedNotConnected + stats.txOk +
        (stats.txFailed + 1))
      rw [h.txCommandsSeen, ← h.txTotal, NetworkActorStats.txTotal]
      ac_rfl
    · exact hcomplete
    · exact not_mem_refused hne
  by_cases hok : rc = .ok
  · subst hok
    have hleft : (concludeTelemetry source .ok s).2.ctx = ({ ctx with
        stats := { stats.seeTelemetry with telemetrySent := stats.telemetrySent + 1 } } :
          NetworkActor).setLastTick ctx.telemetryTickCounter source := by
      rw [concludeTelemetry, count, Running.setCtx, Running.setCtx, hctx]
      rfl
    refine ⟨rfl, ?_⟩
    rw [hleft]
    refine ⟨?_, ?_, ?_, ?_, hcomplete, ?_, .one source view rfl htopic hevent hfree fun other => ?_⟩
    · rw [setLastTick_state, hstill.2]
    · rw [setLastTick_state]
      exact fun _ => ⟨hconnected, hconnected⟩
    · rw [setLastTick_stats]
      change stats.telemetrySeen + 1 + _ = _ + (stats.telemetrySent + 1 + _)
      rw [h.telemetrySeen, ← h.telemetryTotal, NetworkActorStats.telemetryTotal]
      ac_rfl
    · rw [setLastTick_stats, telemetryFailures_one, if_neg hfailed, UInt32.add_zero]
      change stats.txCommandsSeen + _ = _ + stats.txTotal
      rw [h.txCommandsSeen, h.txTotal]
    · rw [setLastTick_counter, if_neg hstill.1, UInt32.add_zero]
    · rw [setLastTick_lastTick]
      rfl
  by_cases hunsupported : rc = .errUnsupported
  · subst hunsupported
    exact hdropped .unsupported (by decide) rfl
  · have hstate : rc = .errState := by
      cases rc <;> first | rfl | exact absurd rfl hok | exact absurd rfl hunsupported | exact absurd rfl hfailed
    subst hstate
    exact hdropped .disconnected (by decide) rfl

theorem publishTelemetry_handles (net : Option (NetPublishPort ω)) {source : TelemetryClass}
    {payload : Nat → UInt8} (hevent : msg.eventId = source.eventId)
    (hpayload : msg.payload = some payload)
    (hfits : (source.text payload).length < networkTelemetryPayloadMaxBytes)
    {stats : NetworkActorStats} (h : s.ctx.stats.SameTallies stats) :
    Handles msg s (publishTelemetry net source.topic (source.text payload) source
      (s.setCtx { s.ctx with stats := stats })) := by
  have hstill : Still msg.eventId := hevent ▸ still_of_class source
  have hdrop (reason : TelemetryDrop) : Handles msg s (dropTelemetry reason
      (s.setCtx { s.ctx with stats := stats.seeTelemetry })) := by
    refine Handles.of_same_world (s := s) rfl ?_
    exact .dropped hstill h reason (fun hne => absurd rfl hne) rfl
      (fun _ _ hmem => absurd hmem List.not_mem_nil) fun _ hmem => absurd hmem List.not_mem_nil
  have hsee : count .seeTelemetry (s.setCtx { s.ctx with stats := stats }) =
      s.setCtx { s.ctx with stats := stats.seeTelemetry } := rfl
  unfold publishTelemetry
  rw [if_neg (by decide), hsee]
  cases net with
  | none => exact hdrop .disconnected
  | some port =>
    simp only
    split
    · exact hdrop .disconnected
    rename_i hconnected
    split
    · exact hdrop .rateLimit
    rename_i hfree
    split
    · exact hdrop .oversize
    cases port.publishMqttView with
    | none => exact hdrop .unsupported
    | some publish =>
      have hview : CompleteView msg (telemetryView source.topic (source.text payload)) :=
        ⟨source, payload, hevent, hpayload, rfl, hfits⟩
      have hstate : s.ctx.state = .mqttConnected := not_not.mp hconnected
      have hrate : s.ctx.rateLimited (s.ctx.lastTick source) = false :=
        Bool.eq_false_iff.mpr hfree
      let sent := (s.setCtx { s.ctx with stats := stats.seeTelemetry }).call
        (publish (telemetryView source.topic (source.text payload)))
        (NetCall.publishMqttView (telemetryView source.topic (source.text payload)))
      obtain ⟨hworld, hhandled⟩ :=
        concludeTelemetry_handled s.ctx sent.2 hevent hstate h rfl hview hrate sent.1 rfl
      exact ⟨sent.2.world.outside, [_], hworld, hhandled⟩

theorem decimalText_length_le {value : Nat} (digits : Nat) (hpos : 0 < digits)
    (h : value < 10 ^ digits) : (decimalText value).length ≤ digits := by
  rw [decimalText, asciiBytes, List.length_map]
  exact (Nat.length_toDigits_le_iff (by decide) hpos).mpr h

theorem signedText_length_le (value : Int16) : (signedText value.toInt).length ≤ 6 := by
  have hlow := value.le_toInt
  have hhigh := value.toInt_lt
  have hdigits : (decimalText value.toInt.natAbs).length ≤ 5 := by
    apply decimalText_length_le 5 (by decide)
    omega
  rw [signedText]
  split
  · rw [List.length_append]
    exact Nat.add_le_add_left hdigits 1
  · exact Nat.le_succ_of_le hdigits

theorem text_length_lt (source : TelemetryClass) (payload : Nat → UInt8) :
    (source.text payload).length < networkTelemetryPayloadMaxBytes := by
  have hword : (decimalText (wordAt payload 0).toNat).length ≤ 10 :=
    decimalText_length_le 10 (by decide) (Nat.lt_trans (wordAt payload 0).toNat_lt (by decide))
  have hbyte (i : Nat) : (decimalText (payload i).toNat).length ≤ 3 :=
    decimalText_length_le 3 (by decide) (Nat.lt_trans (payload i).toNat_lt (by decide))
  have hfirst := hbyte 0
  have hsecond := hbyte 1
  cases source with
  | temp =>
    have hsigned := signedText_length_le
      (Int16.ofNat ((payload 0).toNat + 256 * (payload 1).toNat))
    simp only [TelemetryClass.text, tempText, asciiBytes, List.length_append, List.length_map,
      List.length_cons, List.length_nil, networkTelemetryPayloadMaxBytes]
    omega
  | time =>
    simp only [TelemetryClass.text, timeText, asciiBytes, List.length_append, List.length_map,
      List.length_cons, List.length_nil, networkTelemetryPayloadMaxBytes]
    omega
  | inputs =>
    simp only [TelemetryClass.text, inputsText, asciiBytes, List.length_append, List.length_map,
      List.length_cons, List.length_nil, networkTelemetryPayloadMaxBytes]
    omega
  | light =>
    have hraw : (decimalText ((payload 4).toNat + 256 * (payload 5).toNat)).length ≤ 5 := by
      apply decimalText_length_le 5 (by decide)
      have := (payload 4).toNat_lt
      have := (payload 5).toNat_lt
      omega
    simp only [TelemetryClass.text, lightText, asciiBytes, List.length_append, List.length_map,
      List.length_cons, List.length_nil, networkTelemetryPayloadMaxBytes]
    omega

theorem handleTelemetry_handles (net : Option (NetPublishPort ω)) (source : TelemetryClass)
    (payloadSize : Nat) {see : NetworkActorStats → NetworkActorStats}
    (hsee : ∀ stats, NetworkActorStats.SameTallies stats (see stats))
    (hevent : msg.eventId = source.eventId) :
    Handles msg s (handleTelemetry net source payloadSize see source.topic source.text s msg) := by
  have hstill : Still msg.eventId := hevent ▸ still_of_class source
  unfold handleTelemetry
  cases hpayload : exactPayload msg payloadSize with
  | none =>
    refine Handles.of_same_world (s := s) rfl ?_
    exact .quiet hstill ⟨rfl, rfl, rfl, rfl⟩
  | some payload =>
    have hmemory : msg.payload = some payload := by
      rw [exactPayload] at hpayload
      split at hpayload
      · exact hpayload
      · cases hpayload
    have hcopy : copyTopic networkTelemetryTopicMaxBytes source.topic = some source.topic := by
      cases source <;> rfl
    have hfits := text_length_lt source payload
    have hformat : formatChecked networkTelemetryPayloadMaxBytes (source.text payload) =
        some (source.text payload) := by
      rw [formatChecked, if_neg (by decide), if_pos hfits]
      exact congrArg some (List.take_of_length_le (Nat.le_sub_one_of_lt hfits))
    simp only [hcopy, hformat]
    exact publishTelemetry_handles net hevent hmemory hfits (hsee s.ctx.stats)

theorem handleMqttRx_handles (hstill : Still msg.eventId) (payloadSize : Nat)
    {see : NetworkActorStats → NetworkActorStats}
    (hsee : ∀ stats, NetworkActorStats.SameTallies stats (see stats)) :
    Handles msg s (handleMqttRx payloadSize see s msg) := by
  unfold handleMqttRx
  cases exactPayload msg payloadSize with
  | none =>
    refine Handles.of_same_world (s := s) rfl ?_
    exact .quiet hstill ⟨rfl, rfl, rfl, rfl⟩
  | some rx =>
    obtain ⟨htxSeen, htxTotal, hseen, htotal⟩ := hsee s.ctx.stats
    refine Handles.of_same_world (s := s) rfl ?_
    exact .quiet hstill ⟨htxSeen, htxTotal, hseen, htotal⟩

/-- A transmission is counted once when it is seen and once by its outcome. -/
theorem Handled.transmission (hstill : Still msg.eventId) {stats : NetworkActorStats}
    {calls : List NetCall} (hgated : calls ≠ [] → ctx.state = .mqttConnected)
    (hcalls : ∀ call ∈ calls, ∃ cmd rc, call = NetCall.publishMqtt cmd rc)
    (hseen : stats.telemetrySeen = ctx.stats.telemetrySeen)
    (htotal : stats.telemetryTotal = ctx.stats.telemetryTotal)
    (htxSeen : stats.txCommandsSeen = ctx.stats.txCommandsSeen + 1)
    (htxTotal : stats.txTotal = ctx.stats.txTotal + 1) :
    Handled msg ctx { ctx with stats := stats } calls := by
  have hno (view : NetMqttPublishView) (rc : Result) : NetCall.publishMqttView view rc ∉ calls := by
    intro hmem
    obtain ⟨cmd, result, heq⟩ := hcalls _ hmem
    cases heq
  have hfailures : calls.countP NetCall.isFailedTelemetry = 0 := by
    apply List.countP_eq_zero.mpr
    intro call hmem
    obtain ⟨cmd, rc, rfl⟩ := hcalls call hmem
    exact Bool.false_ne_true
  apply Handled.counted hstill hgated
  · rw [hseen, htotal]
  · rw [telemetryFailures, hfailures, htxSeen, htxTotal]
    change _ + 1 + 0 + _ = _
    rw [UInt32.add_zero]
    ac_rfl
  · exact fun view rc hmem => absurd hmem (hno view rc)
  · exact fun view => hno view .ok

theorem handleTx_handles (net : Option (NetPublishPort ω)) (hstill : Still msg.eventId) :
    Handles msg s (handleTx net s msg) := by
  have hnil : ∀ call ∈ ([] : List NetCall), ∃ cmd rc, call = NetCall.publishMqtt cmd rc :=
    fun _ hmem => absurd hmem List.not_mem_nil
  unfold handleTx
  cases exactPayload msg netMqttInlinePayloadSize with
  | none =>
    refine Handles.of_same_world (s := s) rfl ?_
    exact .quiet hstill ⟨rfl, rfl, rfl, rfl⟩
  | some cmd =>
    simp only
    split
    · refine Handles.of_same_world (s := s) rfl ?_
      refine .transmission hstill (fun hne => absurd rfl hne) hnil rfl rfl rfl ?_
      change _ + 1 + _ + _ = _ + _ + _ + 1
      ac_rfl
    rename_i hconnected
    cases net.bind NetPublishPort.publishMqtt with
    | none =>
      refine Handles.of_same_world (s := s) rfl ?_
      exact .transmission hstill (fun hne => absurd rfl hne) hnil rfl rfl rfl
        (UInt32.add_assoc _ _ _).symm
    | some publish =>
      have hone (cmd : List UInt8) (rc : Result) : ∀ call ∈ [NetCall.publishMqtt cmd rc],
          ∃ cmd rc, call = NetCall.publishMqtt cmd rc :=
        fun call hmem => ⟨cmd, rc, List.mem_singleton.mp hmem⟩
      simp only
      split
      · refine ⟨_, [_], rfl, ?_⟩
        refine .transmission hstill (fun _ => not_not.mp hconnected) (hone _ _) rfl rfl rfl ?_
        change _ + (_ + 1) + _ = _ + _ + _ + 1
        ac_rfl
      · refine ⟨_, [_], rfl, ?_⟩
        exact .transmission hstill (fun _ => not_not.mp hconnected) (hone _ _) rfl rfl rfl
          (UInt32.add_assoc _ _ _).symm

theorem Handled.moved {ctx' : NetworkActor} (h : ctx.stats.SameTallies ctx'.stats)
    (hstate : ctx'.state = ctx.state.after msg.eventId)
    (hticks : ctx'.telemetryTickCounter =
      ctx.telemetryTickCounter + if msg.eventId = .tick1s then 1 else 0)
    (hlast : ∀ source, ctx'.lastTick source = ctx.lastTick source) : Handled msg ctx ctx' [] := by
  refine ⟨hstate, fun hne => absurd rfl hne, ?_, ?_, fun _ _ hmem => absurd hmem List.not_mem_nil,
    hticks, .none (fun _ hmem => absurd hmem List.not_mem_nil) hlast⟩
  · rw [h.telemetrySeen, h.telemetryTotal]
  · rw [h.txCommandsSeen, h.txTotal]
    exact congrArg (· + _) (UInt32.add_zero _)

theorem handle_handles (net : Option (NetPublishPort ω)) (s : NetworkActorState P ω)
    (msg : Inbound) : Handles msg s (handle net s msg) := by
  have hlast (source : TelemetryClass) (state : NetworkState) (stats : NetworkActorStats)
      (tick : UInt32) : ({ s.ctx with state := state, stats := stats, telemetryTickCounter := tick } :
        NetworkActor).lastTick source = s.ctx.lastTick source := by
    cases source <;> rfl
  have hmoved {out : Result × NetworkActorState P ω} {state : NetworkState}
      {stats : NetworkActorStats} (hworld : out.2.world = s.world)
      (hctx : out.2.ctx = { s.ctx with state := state, stats := stats })
      (hstate : state = s.ctx.state.after msg.eventId) (htick : msg.eventId ≠ .tick1s)
      (h : s.ctx.stats.SameTallies stats) : Handles msg s out := by
    apply Handles.of_same_world hworld
    rw [hctx]
    apply Handled.moved h hstate
    · rw [if_neg htick, UInt32.add_zero]
    · exact fun source => hlast source _ _ _
  unfold handle
  split
  · rename_i hevent
    refine Handles.of_same_world (s := s) rfl (.moved ⟨rfl, rfl, rfl, rfl⟩ ?_ ?_ ?_)
    · rw [hevent]
      rfl
    · rw [if_pos hevent]
      rfl
    · exact fun source => hlast source _ _ _
  · rename_i hevent
    unfold handleWifiUp
    simp only
    split
    · rename_i hdown
      refine hmoved rfl rfl ?_ (hevent ▸ by decide) ⟨rfl, rfl, rfl, rfl⟩
      rw [hevent]
      exact (if_pos hdown).symm
    · rename_i hup
      refine hmoved rfl rfl ?_ (hevent ▸ by decide) ⟨rfl, rfl, rfl, rfl⟩
      rw [hevent]
      exact (if_neg hup).symm
  · rename_i hevent
    exact hmoved rfl rfl (by rw [hevent]; rfl) (hevent ▸ by decide) ⟨rfl, rfl, rfl, rfl⟩
  · rename_i hevent
    exact hmoved rfl rfl (by rw [hevent]; rfl) (hevent ▸ by decide) ⟨rfl, rfl, rfl, rfl⟩
  · rename_i hevent
    exact hmoved rfl rfl (by rw [hevent]; rfl) (hevent ▸ by decide) ⟨rfl, rfl, rfl, rfl⟩
  · rename_i hevent
    exact handleMqttRx_handles (hevent ▸ ⟨by decide, fun _ => rfl⟩) _ fun _ => ⟨rfl, rfl, rfl, rfl⟩
  · rename_i hevent
    exact handleMqttRx_handles (hevent ▸ ⟨by decide, fun _ => rfl⟩) _ fun _ => ⟨rfl, rfl, rfl, rfl⟩
  · rename_i hevent
    exact handleTx_handles net (hevent ▸ ⟨by decide, fun _ => rfl⟩)
  · rename_i hevent
    exact handleTelemetry_handles net .temp 2 (fun _ => ⟨rfl, rfl, rfl, rfl⟩) hevent
  · rename_i hevent
    exact handleTelemetry_handles net .time 12 (fun _ => ⟨rfl, rfl, rfl, rfl⟩) hevent
  · rename_i hevent
    exact handleTelemetry_handles net .inputs 2 (fun _ => ⟨rfl, rfl, rfl, rfl⟩) hevent
  · rename_i hevent
    exact handleTelemetry_handles net .light 8 (fun _ => ⟨rfl, rfl, rfl, rfl⟩) hevent
  · rename_i htick hwifiUp hwifiDown hmqttUp hmqttDown _ _ _ _ _ _ _
    refine hmoved rfl rfl ?_ htick ⟨rfl, rfl, rfl, rfl⟩
    unfold NetworkState.after
    split
    · exact absurd ‹_› hwifiUp
    · exact absurd ‹_› hwifiDown
    · exact absurd ‹_› hmqttUp
    · exact absurd ‹_› hmqttDown
    · rfl

def calls (s : NetworkActorState P ω) : List NetCall :=
  s.world.history.filterMap fun
    | .called call => some call
    | _ => none

/-- One message: its reception, the calls for it and the result. -/
theorem step_handled (net : Option (NetPublishPort ω)) (s : NetworkActorState P ω) (msg : Inbound) :
    ∃ made rc, (step net s msg).world.history =
        s.world.history ++ .received msg :: (made.map .called ++ [.returned rc]) ∧
      calls (step net s msg) = calls s ++ made ∧ Handled msg s.ctx (step net s msg).ctx made := by
  obtain ⟨outside, made, hworld, hhandled⟩ := handle_handles net (s.note (.received msg)) msg
  have hhistory : (step net s msg).world.history = s.world.history ++ .received msg ::
      (made.map .called ++ [.returned (handle net (s.note (.received msg)) msg).1]) := by
    change (handle net (s.note (.received msg)) msg).2.world.history ++ _ = _
    rw [hworld]
    change s.world.history ++ [.received msg] ++ made.map .called ++ _ = _
    simp
  refine ⟨made, _, hhistory, ?_, hhandled⟩
  rw [calls, calls, hhistory]
  simp [List.filterMap_append]

end NetworkActor

end EventFramework
