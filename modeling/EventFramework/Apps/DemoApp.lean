import EventFramework.Actors.PowerActor
import EventFramework.Adapters.IrqAdapter
import EventFramework.Core.PortNet
import EventFramework.Runtime.DeliveryTrace
import EventFramework.Runtime.Quiescence
import EventFramework.Runtime.RuntimeLoop

/-!
# The demo application

Of `ev_demo_app.c` the ingress and the poll, of `ev_demo_policy.c` the sleep guard. `ε` is what
lies behind the ports: the adapters, the lease pool and the contexts of the actors.
-/

namespace EventFramework
set_option autoImplicit false

variable {P ε : Type}

/-- The part of `ev_demo_app_stats_t` that the modelled functions count in. -/
structure DemoAppStats where
  publishErrors : UInt32 := 0
  disabledRouteDeliveries : UInt32 := 0
  watchdogDisabledRouteDeliveries : UInt32 := 0
  networkDisabledRouteDeliveries : UInt32 := 0
  netIngressDrained : UInt32 := 0
  sleepArmAttempts : UInt32 := 0
  sleepArmSuccesses : UInt32 := 0
  sleepArmFailures : UInt32 := 0
  sleepDisarmCalls : UInt32 := 0
  deriving DecidableEq, Repr

/-- What `collect_ingress` takes from a port. -/
inductive IngressItem (P : Type) where
  | irq (sample : IrqSample)
  | net (event : NetIngressEvent P)
  deriving DecidableEq, Repr

/-- The application without its mailboxes, timers and scheduler. An actor that the board lacks has
nothing pending. `popped` is read by no function: it records the ingress that was collected. -/
structure DemoApp (P ε : Type) where
  bootPublished : Bool := false
  sleepArming : Bool := false
  stats : DemoAppStats := {}
  routes : RouteGraph := {}
  traceRing : TraceRing := {}
  actorEnabled : ActorId → Bool
  ingressService : IngressService P
  quiescenceService : QuiescenceService := {}
  logPending : Option (Result × UInt32) := none
  oledPendingFlush : Bool := false
  ds18b20ConversionPending : Bool := false
  bh1750MeasurementPending : Bool := false
  popped : List (IngressItem P) := []
  env : ε
  trace_bounded : traceRing.count ≤ traceRingCapacity := by decide
  oled_enabled : oledPendingFlush = true → actorEnabled .oled = true := by decide
  ds18b20_enabled : ds18b20ConversionPending = true → actorEnabled .ds18b20 = true := by decide
  bh1750_enabled : bh1750MeasurementPending = true → actorEnabled .bh1750 = true := by decide

/-- The functions of `ev_irq_port_t` that the application calls; `getStats` returns the pending
samples. -/
structure IngressIrqPort (ε : Type) where
  pop : Option (ε → Result × IrqSample × ε)
  getStats : Option (ε → Result × UInt32 × ε)
  wait : Option (ε → Result × Bool × ε)

/-- The functions of `ev_net_port_t` that the application calls; `getStats` returns the pending
events. -/
structure IngressNetPort (P ε : Type) where
  pollIngress : Option (ε → Result × NetIngressEvent P × ε)
  getStats : Option (ε → Result × UInt32 × ε)

structure DemoPorts (P ε : Type) where
  callbacks : Callbacks P ε
  clock : ε → Result × UInt64 × ε
  irq : Option (IngressIrqPort ε)
  net : Option (IngressNetPort P ε)

/-- What the handlers of the application act on. -/
abbrev DemoOutside (P ε : Type) := TimerService × DemoApp P ε

abbrev DemoGraph (P ε : Type) := RuntimeGraph P (DemoApp P ε)

namespace DemoPorts

def onOutside {α : Type} (act : ε → α × ε) (w : DemoOutside P ε) : α × DemoOutside P ε :=
  let out := act w.2.env
  (out.1, w.1, { w.2 with env := out.2 })

def outsideCallbacks (ports : DemoPorts P ε) : Callbacks P (DemoOutside P ε) where
  retain fn ctx data size w := onOutside (ports.callbacks.retain fn ctx data size) w
  release fn ctx data size w :=
    (onOutside (fun e => ((), ports.callbacks.release fn ctx data size e)) w).2

def appCallbacks (ports : DemoPorts P ε) : Callbacks P (DemoApp P ε) where
  retain fn ctx data size app :=
    let out := ports.callbacks.retain fn ctx data size app.env
    (out.1, { app with env := out.2 })
  release fn ctx data size app :=
    { app with env := ports.callbacks.release fn ctx data size app.env }

/-- What `ev_delivery_publish` takes from outside the graph. -/
def delivery (ports : DemoPorts P ε) : DeliveryPorts P (DemoOutside P ε) where
  callbacks := ports.outsideCallbacks
  clock := some fun w =>
    let out := onOutside (fun e => (((ports.clock e).1, (ports.clock e).2.1), (ports.clock e).2.2)) w
    (out.1.1, out.1.2, out.2)
  routes := .generated

/-- `ev_demo_app_now_ms`; a failure leaves the out parameter at zero. -/
def nowMs (ports : DemoPorts P ε) (e : ε) : Result × UInt32 × ε :=
  let out := ports.clock e
  if out.1 ≠ .ok then (out.1, 0, out.2.2) else (.ok, (out.2.1 / 1000).toUInt32, out.2.2)

end DemoPorts

namespace DemoGraph

def app (graph : DemoGraph P ε) : DemoApp P ε := graph.world.outside.2

def setApp (graph : DemoGraph P ε) (app : DemoApp P ε) : DemoGraph P ε :=
  { graph with world := { graph.world with outside := (graph.world.outside.1, app) } }

def setEnv (graph : DemoGraph P ε) (e : ε) : DemoGraph P ε :=
  graph.setApp { app graph with env := e }

def deliveryGraph (graph : DemoGraph P ε) : DeliveryGraph P (DemoOutside P ε) where
  toRouteGraph := (app graph).routes
  world := graph.world
  traceRing := (app graph).traceRing

/-- `ev_runtime_graph_publish`. -/
def publish (ports : DemoPorts P ε) (msg : Msg P) (graph : DemoGraph P ε) :
    Result × DeliveryReport × DemoGraph P ε :=
  let out := Delivery.publish ports.delivery (deliveryGraph graph) msg
  let world := out.2.graph.world
  (out.1, out.2.report,
    { graph with
      world := { world with
        outside := (world.outside.1, { world.outside.2 with
          routes := out.2.graph.toRouteGraph
          traceRing := out.2.graph.traceRing
          trace_bounded := Delivery.publish_bounded ports.delivery msg (app graph).trace_bounded }) } })

end DemoGraph

namespace DemoApp

open DemoGraph

def countStats (f : DemoAppStats → DemoAppStats) (graph : DemoGraph P ε) : DemoGraph P ε :=
  graph.setApp { app graph with stats := f (app graph).stats }

/-- `ev_demo_app_record_delivery_report`. -/
def recordDeliveryReport (report : DeliveryReport) (stats : DemoAppStats) : DemoAppStats :=
  { stats with
    disabledRouteDeliveries :=
      stats.disabledRouteDeliveries + UInt32.ofNat report.optionalDisabledRoutes
    watchdogDisabledRouteDeliveries :=
      stats.watchdogDisabledRouteDeliveries + UInt32.ofNat report.optionalDisabledWatchdogRoutes
    networkDisabledRouteDeliveries :=
      stats.networkDisabledRouteDeliveries + UInt32.ofNat report.optionalDisabledNetworkRoutes }

/-- `ev_msg_dispose` of a message on the stack. -/
def disposeMsg (ports : DemoPorts P ε) (msg : Msg P) (graph : DemoGraph P ε) :
    Result × DemoGraph P ε :=
  let out := msg.dispose ports.callbacks (app graph).env
  (out.1, graph.setEnv out.2.2)

def publishOwned (ports : DemoPorts P ε) (msg : Msg P) (graph : DemoGraph P ε) :
    Result × DemoGraph P ε :=
  let out := graph.publish ports msg
  let graph := countStats (recordDeliveryReport out.2.1) out.2.2
  let graph :=
    if out.1 ≠ .ok then countStats (fun s => { s with publishErrors := s.publishErrors + 1 }) graph
    else graph
  let disposed := disposeMsg ports msg graph
  if out.1 = .ok ∧ disposed.1 ≠ .ok then disposed else (out.1, disposed.2)

/-- `ev_demo_app_publish_system_event`. -/
def publishSystemEvent (ports : DemoPorts P ε) (eventId : EventId) (payload : List UInt8)
    (graph : DemoGraph P ε) : Result × DemoGraph P ε :=
  let started := (Msg.zeroed (P := P)).initPublish eventId .boot
  if started.1 ≠ .ok then (started.1, graph)
  else if 0 < payload.length then
    let filled := started.2.setInlinePayload ports.callbacks (some payload) payload.length
      (app graph).env
    let graph := graph.setEnv filled.2.2
    if filled.1 ≠ .ok then (filled.1, (disposeMsg ports filled.2.1 graph).2)
    else publishOwned ports filled.2.1 graph
  else publishOwned ports started.2 graph

/-- The memory of an `ev_irq_sample_t`. -/
def irqSampleBytes (sample : IrqSample) : List UInt8 :=
  let edge := match sample.edge with
    | .rising => 1
    | .falling => 2
  [sample.lineId, edge, if sample.level then 1 else 0, 0] ++ wordBytes sample.timestampUs

def publishIrqSample (ports : DemoPorts P ε) (sample : IrqSample) (graph : DemoGraph P ε) :
    Result × DemoGraph P ε :=
  publishSystemEvent ports .gpioIrq (irqSampleBytes sample) graph

/-- `ev_demo_app_release_net_event_external_payload`. -/
def releaseNetEventExternalPayload (ports : DemoPorts P ε) (event : NetIngressEvent P)
    (graph : DemoGraph P ε) : DemoGraph P ε :=
  let external := event.externalPayload
  match external.releaseFn with
  | none => graph
  | some fn =>
    if event.payloadStorage = .lease ∧ external.data.isSome ∧ 0 < external.size then
      graph.setEnv (ports.callbacks.release fn external.lifecycleCtx external.data external.size
        (app graph).env)
    else graph

/-- The event that an ingress event is published as. -/
def netEventId (event : NetIngressEvent P) : Option EventId :=
  match event.kind with
  | .wifiUp => some .netWifiUp
  | .wifiDown => some .netWifiDown
  | .mqttUp => some .netMqttUp
  | .mqttDown => some .netMqttDown
  | .mqttMsgRx =>
    some (if event.payloadStorage = .lease then .netMqttMsgRxLease else .netMqttMsgRx)
  | .none => none

/-- The memory of an `ev_net_mqtt_inline_payload_t`, whose `qos` and `retain` stay zero. -/
def inlinePayloadBytes (event : NetIngressEvent P) : List UInt8 :=
  let pad := fun (bytes : List UInt8) (len : UInt8) (size : Nat) =>
    bytes.take len.toNat ++ List.replicate (size - len.toNat) 0
  [event.topicLen, event.payloadLen, 0, 0] ++ pad event.topic event.topicLen netMaxTopicBytes ++
    pad event.payload event.payloadLen netMaxInlinePayloadBytes

def publishInlineEvent (ports : DemoPorts P ε) (event : NetIngressEvent P) (msg : Msg P)
    (graph : DemoGraph P ε) : Result × DemoGraph P ε :=
  if event.payloadStorage ≠ .inline then
    (.errContract, releaseNetEventExternalPayload ports event (disposeMsg ports msg graph).2)
  else if netMaxTopicBytes < event.topicLen.toNat ∨
      netMaxInlinePayloadBytes < event.payloadLen.toNat then
    (.errContract, (disposeMsg ports msg graph).2)
  else
    let bytes := inlinePayloadBytes event
    let filled := msg.setInlinePayload ports.callbacks (some bytes) bytes.length (app graph).env
    let graph := graph.setEnv filled.2.2
    if filled.1 ≠ .ok then (filled.1, (disposeMsg ports filled.2.1 graph).2)
    else publishOwned ports filled.2.1 graph

def publishLeasedEvent (ports : DemoPorts P ε) (event : NetIngressEvent P) (msg : Msg P)
    (graph : DemoGraph P ε) : Result × DemoGraph P ε :=
  let external := event.externalPayload
  if external.data.isNone ∨ external.size ≠ netMqttRxPayloadSize ∨ external.retainFn.isNone ∨
      external.releaseFn.isNone then
    (.errContract, releaseNetEventExternalPayload ports event (disposeMsg ports msg graph).2)
  else
    let filled := msg.setExternalPayload ports.callbacks external.data external.size
      external.retainFn external.releaseFn external.lifecycleCtx (app graph).env
    let graph := graph.setEnv filled.2.2
    if filled.1 ≠ .ok then
      (filled.1, releaseNetEventExternalPayload ports event (disposeMsg ports filled.2.1 graph).2)
    else publishOwned ports filled.2.1 graph

def publishNetEvent (ports : DemoPorts P ε) (event : NetIngressEvent P) (graph : DemoGraph P ε) :
    Result × DemoGraph P ε :=
  match netEventId event with
  | none => (.errContract, releaseNetEventExternalPayload ports event graph)
  | some eventId =>
    let started := (Msg.zeroed (P := P)).initPublish eventId .runtime
    if started.1 ≠ .ok then (started.1, releaseNetEventExternalPayload ports event graph)
    else if eventId = .netMqttMsgRx then publishInlineEvent ports event started.2 graph
    else if eventId = .netMqttMsgRxLease then publishLeasedEvent ports event started.2 graph
    else publishOwned ports started.2 graph

end DemoApp

/-- `ev_poll_budget_t`. -/
structure PollBudget where
  pumpCallsUsed : Nat
  messagesUsed : Nat
  turnsUsed : Nat
  irqSamplesUsed : Nat
  netSamplesUsed : Nat
  exhausted : Bool
  deriving DecidableEq, Repr

def appPollMaxIrqSamples : Nat := 16
def appPollReservedIrqSamples : Nat := 4
def appPollMaxNetSamples : Nat := 16
def appPollReservedNetSamples : Nat := 4
def appPollMaxMessages : Nat := 32
def appPollMaxPumpTurns : Nat := 10

namespace PollBudget

/-- `ev_demo_app_budget_exhausted`. -/
def isExhausted (budget : PollBudget) : Bool :=
  decide (appPollMaxPumpTurns ≤ budget.pumpCallsUsed) ||
  decide (appPollMaxMessages ≤ budget.messagesUsed) ||
  decide (appPollMaxPumpTurns ≤ budget.turnsUsed) ||
  decide (appPollMaxIrqSamples ≤ budget.irqSamplesUsed) ||
  decide (appPollMaxNetSamples ≤ budget.netSamplesUsed)

def recordExhausted (budget : PollBudget) : PollBudget :=
  { budget with exhausted := budget.isExhausted }

end PollBudget

namespace DemoApp

open DemoGraph

def pop {α : Type} (act : ε → Result × α × ε) (item : α → IngressItem P) (graph : DemoGraph P ε) :
    Result × α × DemoGraph P ε :=
  let out := act (app graph).env
  let graph := graph.setEnv out.2.2
  (out.1, out.2.1,
    if out.1 = .ok then
      graph.setApp { app graph with popped := (app graph).popped ++ [item out.2.1] }
    else graph)

/-- The loop over the interrupt samples, with `n` of the reserved ones left. -/
def collectIrq (ports : DemoPorts P ε) (act : ε → Result × IrqSample × ε) :
    Nat → PollBudget → DemoGraph P ε → Result × PollBudget × DemoGraph P ε
  | 0, budget, graph => (.ok, budget, graph)
  | n + 1, budget, graph =>
    if budget.irqSamplesUsed < appPollMaxIrqSamples ∧ budget.exhausted = false then
      let popped := pop act .irq graph
      if popped.1 = .errEmpty then (.ok, budget, popped.2.2)
      else if popped.1 ≠ .ok then (popped.1, budget, popped.2.2)
      else
        let budget := { budget with irqSamplesUsed := budget.irqSamplesUsed + 1 }
        let published := publishIrqSample ports popped.2.1 popped.2.2
        if published.1 ≠ .ok then (published.1, budget, published.2)
        else collectIrq ports act n budget.recordExhausted published.2
    else (.ok, budget, graph)

/-- The loop over the network events. -/
def collectNet (ports : DemoPorts P ε) (act : ε → Result × NetIngressEvent P × ε) :
    Nat → PollBudget → DemoGraph P ε → Result × PollBudget × DemoGraph P ε
  | 0, budget, graph => (.ok, budget, graph)
  | n + 1, budget, graph =>
    if budget.netSamplesUsed < appPollMaxNetSamples ∧ budget.exhausted = false then
      let popped := pop act .net graph
      if popped.1 = .errEmpty then (.ok, budget, popped.2.2)
      else if popped.1 ≠ .ok then (popped.1, budget, popped.2.2)
      else
        let budget := { budget with netSamplesUsed := budget.netSamplesUsed + 1 }
        let graph :=
          countStats (fun s => { s with netIngressDrained := s.netIngressDrained + 1 }) popped.2.2
        let published := publishNetEvent ports popped.2.1 graph
        if published.1 ≠ .ok then (published.1, budget, published.2)
        else collectNet ports act n budget.recordExhausted published.2
    else (.ok, budget, graph)

/-- The interrupt samples of `ev_demo_app_collect_ingress`. -/
def irqIngress (ports : DemoPorts P ε) (budget : PollBudget) (graph : DemoGraph P ε) :
    Result × PollBudget × DemoGraph P ε :=
  match ports.irq.bind IngressIrqPort.pop with
  | none => (.ok, budget, graph)
  | some act =>
    let out := collectIrq ports act appPollReservedIrqSamples budget graph
    if out.1 ≠ .ok then out
    else if appPollMaxIrqSamples ≤ out.2.1.irqSamplesUsed then
      (.ok, { out.2.1 with exhausted := true }, out.2.2)
    else out

/-- The network events of `ev_demo_app_collect_ingress`. -/
def netIngress (ports : DemoPorts P ε) (budget : PollBudget) (graph : DemoGraph P ε) :
    Result × PollBudget × DemoGraph P ε :=
  match ports.net.bind IngressNetPort.pollIngress with
  | none => (.ok, budget, graph)
  | some act =>
    if (app graph).sleepArming = false ∧ budget.exhausted = false then
      collectNet ports act appPollReservedNetSamples budget graph
    else (.ok, budget, graph)

def collectIngress (ports : DemoPorts P ε) (budget : PollBudget) (graph : DemoGraph P ε) :
    Result × PollBudget × DemoGraph P ε :=
  if (app graph).sleepArming = true ∨ budget.exhausted = true then (.ok, budget, graph)
  else
    let irq := irqIngress ports budget graph
    if irq.1 ≠ .ok then irq
    else
      let net := netIngress ports irq.2.1 irq.2.2
      if net.1 ≠ .ok then net
      else if appPollMaxNetSamples ≤ net.2.1.netSamplesUsed then
        (.ok, { net.2.1 with exhausted := true }, net.2.2)
      else net

/-- `ev_demo_app_loop_collect`: what it adds to the two sample counters. -/
def loopCollect (ports : DemoPorts P ε) (_policy : RuntimeLoopPolicy) (report : RuntimeLoopReport)
    (graph : DemoGraph P ε) : Result × Nat × Nat × DemoGraph P ε :=
  let out := collectIngress ports
    { pumpCallsUsed := report.pumpCalls.toNat
      messagesUsed := report.messages.toNat
      turnsUsed := report.turns.toNat
      irqSamplesUsed := report.irqSamples
      netSamplesUsed := report.netSamples
      exhausted := report.exhausted } graph
  (out.1, out.2.1.irqSamplesUsed - report.irqSamples, out.2.1.netSamplesUsed - report.netSamples,
    out.2.2)

/-- The mailbox of an actor, as the quiescence service counts it. -/
def countedMailbox (registry : ActorRegistry P) (actor : ActorId) :
    { mb : Mailbox P // mb.count ≤ mb.kind.capacity } :=
  match registry.slots actor with
  | none => ⟨Mailbox.fresh .fifo8, Nat.zero_le _⟩
  | some runtime =>
    if h : runtime.mailbox.count ≤ runtime.mailbox.kind.capacity then ⟨runtime.mailbox, h⟩
    else ⟨{ runtime.mailbox with count := runtime.mailbox.kind.capacity }, Nat.le_refl _⟩

def actorBit (actor : ActorId) : UInt32 := 1 <<< UInt32.ofInt actor.code

/-- The body of the quiescence callbacks: the bit of the actor while its work is pending. -/
def actorQuiescence (actor : ActorId) (pending : Bool) : QuiescenceFn := fun report =>
  (.ok,
    if pending then
      { report with sleepBlockerActorMask := report.sleepBlockerActorMask ||| actorBit actor }
    else report)

/-- `ev_demo_oled_quiescence`. -/
def oledQuiescence (app : DemoApp P ε) : QuiescenceFn := actorQuiescence .oled app.oledPendingFlush

/-- `ev_demo_ds18b20_quiescence`. -/
def ds18b20Quiescence (app : DemoApp P ε) : QuiescenceFn :=
  actorQuiescence .ds18b20 app.ds18b20ConversionPending

/-- `ev_demo_bh1750_quiescence`. -/
def bh1750Quiescence (app : DemoApp P ε) : QuiescenceFn :=
  actorQuiescence .bh1750 app.bh1750MeasurementPending

/-- `ev_demo_runtime_quiescence_for`. -/
def quiescenceFor (app : DemoApp P ε) : ActorId → Option QuiescenceFn
  | .oled => some app.oledQuiescence
  | .ds18b20 => some app.ds18b20Quiescence
  | .bh1750 => some app.bh1750Quiescence
  | _ => none

/-- `ev_default_quiescence`. -/
def defaultQuiescence : QuiescenceFn := fun report => (.ok, report)

/-- The part of the graph that the quiescence service reads and writes. An instance is bound for
every actor of the board. -/
def quiescenceGraph (registry : ActorRegistry P) (w : DemoOutside P ε) : QuiescenceGraph P where
  actorEnabled := w.2.actorEnabled
  mailboxes actor := (countedMailbox registry actor).1
  instanceQuiescence actor := if w.2.actorEnabled actor then w.2.quiescenceFor actor else none
  descriptorQuiescence actor := (actorModuleFind actor).map fun _ => defaultQuiescence
  ingressService := w.2.ingressService
  timers := w.1
  traceRing := w.2.traceRing
  faults := w.2.routes.faults
  metrics := w.2.routes.metrics
  logPending := w.2.logPending
  quiescenceService := w.2.quiescenceService
  bounded actor := (countedMailbox registry actor).2
  trace_bounded := w.2.trace_bounded

/-- `ev_runtime_is_quiescent_at` on the graph of the application. -/
def isQuiescentAt (nowMs : UInt32) (policy : QuiescencePolicy) (registry : ActorRegistry P)
    (w : DemoOutside P ε) : Result × QuiescenceReport × DemoOutside P ε :=
  let out := (quiescenceGraph registry w).isQuiescentAt nowMs (some policy)
  (out.1, out.2.1, w.1, { w.2 with
    routes := { w.2.routes with metrics := out.2.2.metrics }
    quiescenceService := out.2.2.quiescenceService })

def sleepPolicy : QuiescencePolicy where
  tracePolicy := .blockNever
  faultPolicy := .blockCriticalOnly
  logPolicy := .blockNever
  blockDueTimers := true
  blockActorSleepBlockers := true

def pendingIrqSamples (ports : DemoPorts P ε) (e : ε) : Result × UInt32 × ε :=
  match ports.irq.bind IngressIrqPort.getStats with
  | some getStats =>
    let out := getStats e
    if out.1 ≠ .ok then (out.1, 0, out.2.2) else out
  | none =>
    match ports.irq.bind IngressIrqPort.wait with
    | some wait =>
      let out := wait e
      if out.1 ≠ .ok then (out.1, 0, out.2.2) else (.ok, if out.2.1 then 1 else 0, out.2.2)
    | none => (.ok, 0, e)

def hasBit (mask : UInt32) (actor : ActorId) : UInt32 := if mask &&& actorBit actor ≠ 0 then 1 else 0

/-- `ev_demo_app_sleep_quiescence_guard`. -/
def sleepQuiescenceGuard (ports : DemoPorts P ε) (registry : ActorRegistry P) (w : DemoOutside P ε) :
    Result × PowerQuiescenceReport × DemoOutside P ε :=
  let irq := DemoPorts.onOutside
    (fun e => (((pendingIrqSamples ports e).1, (pendingIrqSamples ports e).2.1),
      (pendingIrqSamples ports e).2.2)) w
  if irq.1.1 ≠ .ok then (irq.1.1, {}, irq.2)
  else
    let report : PowerQuiescenceReport := { pendingIrqSamples := irq.1.2 }
    let clock := DemoPorts.onOutside
      (fun e => (((ports.nowMs e).1, (ports.nowMs e).2.1), (ports.nowMs e).2.2)) irq.2
    if clock.1.1 ≠ .ok then (clock.1.1, report, clock.2)
    else
      let out := isQuiescentAt clock.1.2 sleepPolicy registry clock.2
      let report : PowerQuiescenceReport :=
        { report with
          pendingActorMessages := out.2.1.pendingActorMessages
          pendingOledFlush := hasBit out.2.1.sleepBlockerActorMask .oled
          pendingDs18b20Conversion := hasBit out.2.1.sleepBlockerActorMask .ds18b20
          dueTimerCount := out.2.1.dueTimers }
      if out.1 ≠ .ok ∨ report.pendingIrqSamples ≠ 0 then
        (.errState, { report with reason := .notQuiescent }, out.2.2)
      else (.ok, report, out.2.2)

def updateApp (f : DemoApp P ε → DemoApp P ε) (w : DemoOutside P ε) : DemoOutside P ε := (w.1, f w.2)

/-- `++app->stats.sleep_arm_failures` and its siblings. -/
def countOutside (f : DemoAppStats → DemoAppStats) : DemoOutside P ε → DemoOutside P ε :=
  updateApp fun app => { app with stats := f app.stats }

def setArming (arming : Bool) : DemoOutside P ε → DemoOutside P ε :=
  updateApp fun app => { app with sleepArming := arming }

def countArmFailure : DemoOutside P ε → DemoOutside P ε :=
  countOutside fun s => { s with sleepArmFailures := s.sleepArmFailures + 1 }

/-- `ev_demo_app_sleep_arm`. -/
def sleepArm (ports : DemoPorts P ε) (registry : ActorRegistry P) (w : DemoOutside P ε) :
    Result × PowerQuiescenceReport × DemoOutside P ε :=
  let w := countOutside (fun s => { s with sleepArmAttempts := s.sleepArmAttempts + 1 }) w
  if w.2.sleepArming then (.errState, { reason := .armingFailed }, countArmFailure w)
  else
    let out := sleepQuiescenceGuard ports registry (setArming true w)
    if out.1 ≠ .ok then (out.1, out.2.1, countArmFailure (setArming false out.2.2))
    else
      (.ok, out.2.1,
        countOutside (fun s => { s with sleepArmSuccesses := s.sleepArmSuccesses + 1 }) out.2.2)

/-- `ev_demo_app_sleep_disarm`. -/
def sleepDisarm (w : DemoOutside P ε) : Result × DemoOutside P ε :=
  (.ok, setArming false
    (countOutside (fun s => { s with sleepDisarmCalls := s.sleepDisarmCalls + 1 }) w))

/-- `ev_demo_app_timer_delivery`, on the graph without its timers. -/
def timerDelivery (ports : DemoPorts P ε) : TimerPort P (RuntimeRest P (DemoApp P ε)) :=
  fun _ rest target msg =>
    if !target.isValid then (.errOutOfRange, [], rest)
    else
      let out := rest.2.deliver ports.appCallbacks target { msg with targetActor := target }
        .critical false
      (out.1, [], rest.1, out.2.2)

/-- `ev_demo_app_loop_now`. -/
def loopNow (ports : DemoPorts P ε) (app : DemoApp P ε) : Result × UInt32 × DemoApp P ε :=
  let out := ports.nowMs app.env
  (out.1, out.2.1, { app with env := out.2.2 })

def duePolicy : QuiescencePolicy where
  blockDueTimers := true

/-- `ev_demo_app_loop_work_pending`. -/
def loopWorkPending (ports : DemoPorts P ε) (nowMs : UInt32) (_report : RuntimeLoopReport)
    (graph : DemoGraph P ε) : Result × Bool × DemoGraph P ε :=
  let irq : Bool × ε := match ports.irq.bind IngressIrqPort.wait with
    | some wait => ((wait (app graph).env).2.1, (wait (app graph).env).2.2)
    | none => (false, (app graph).env)
  let net : Bool × ε := match ports.net.bind IngressNetPort.getStats with
    | some getStats =>
      ((getStats irq.2).1 == .ok && decide (0 < (getStats irq.2).2.1), (getStats irq.2).2.2)
    | none => (false, irq.2)
  let graph := graph.setEnv net.2
  let out := isQuiescentAt nowMs duePolicy graph.world.registry graph.world.outside
  let timerDue := out.1 != .ok && decide (0 < out.2.1.dueTimers)
  (.ok, irq.1 || net.1 || timerDue, { graph with world := { graph.world with outside := out.2.2 } })

def loopPorts (ports : DemoPorts P ε) : RuntimeLoopPorts P (DemoApp P ε) where
  collectIngress := some (loopCollect ports)
  timerDelivery := some (timerDelivery ports)
  nowMs := loopNow ports
  workPending := some (loopWorkPending ports)

/-- `EV_DEMO_APP_TURN_BUDGET`. -/
def demoAppTurnBudget : UInt32 := 4

def pollPolicy (app : DemoApp P ε) : RuntimeLoopPolicy where
  maxPumpCalls := UInt32.ofNat appPollMaxPumpTurns
  maxMessages := UInt32.ofNat appPollMaxMessages
  maxTurns := UInt32.ofNat appPollMaxPumpTurns
  maxIrqSamples := UInt32.ofNat appPollMaxIrqSamples
  maxNetSamples := UInt32.ofNat appPollMaxNetSamples
  timerPublishBudget := 1
  schedulerTurnBudget := demoAppTurnBudget
  skipTimersWhenSchedulerPending := true
  runSchedulerAfterTimers := true
  skipTimers := app.sleepArming

/-- The statistics that the ports are asked for after a poll. -/
def recordPortStats (ports : DemoPorts P ε) (graph : DemoGraph P ε) : DemoGraph P ε :=
  let irq := match ports.irq.bind IngressIrqPort.getStats with
    | some getStats => (getStats (app graph).env).2.2
    | none => (app graph).env
  let net := match ports.net.bind IngressNetPort.getStats with
    | some getStats => (getStats irq).2.2
    | none => irq
  graph.setEnv net

/-- The program that the pumps run: the handlers of the actors over the callbacks of the ports. -/
def program (ports : DemoPorts P ε) (handler : ActorId → Msg P → HandlerProg P (DemoOutside P ε)) :
    Program P (DemoOutside P ε) where
  callbacks := ports.outsideCallbacks
  handler := handler

/-- `ev_demo_app_poll`. Before the boot was published it leaves the graph alone. -/
def poll (ports : DemoPorts P ε) (handler : ActorId → Msg P → HandlerProg P (DemoOutside P ε))
    (fuel : Nat) (graph : DemoGraph P ε) : Option (Result × LoopState P (DemoApp P ε)) :=
  if (app graph).bootPublished = false then some (.errState, { graph := graph, report := {} })
  else
    match RuntimeLoop.pollOnce (program ports handler) (some (app graph).pollPolicy) (loopPorts ports)
      fuel graph with
    | none => none
    | some (rc, s) => some (rc, { s with graph := recordPortStats ports s.graph })

end DemoApp

end EventFramework
