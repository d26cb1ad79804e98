import EventFramework.Actors.CommandParser
import EventFramework.Actors.DevicePorts
import EventFramework.Core.PortNet

/-!
# The network actor

`ev_network_actor.c`: it follows the WiFi and MQTT links, sends MQTT commands while the session is
up, and publishes the samples of four sensors as telemetry.
-/

namespace EventFramework
set_option autoImplicit false

variable {P ω : Type}

def networkTelemetryEnabled : Bool := true

def networkTelemetryTopicMaxBytes : Nat := 32

def networkTelemetryPayloadMaxBytes : Nat := 64

def networkTelemetryMinIntervalTicks : UInt32 := 1

def networkTelemetryTickNever : UInt32 := 0xFFFFFFFF

/-- `sizeof(ev_net_mqtt_inline_payload_t)`. -/
def netMqttInlinePayloadSize : Nat := 4 + netMaxTopicBytes + netMaxInlinePayloadBytes

inductive NetworkState where
  | disconnected
  | wifiUp
  | mqttConnected
  | degraded
  deriving DecidableEq, Repr

structure NetworkActorStats where
  wifiUpEvents : UInt32 := 0
  wifiDownEvents : UInt32 := 0
  mqttUpEvents : UInt32 := 0
  mqttDownEvents : UInt32 := 0
  mqttRxEvents : UInt32 := 0
  mqttRxIgnoredFoundation : UInt32 := 0
  mqttRxBytes : UInt32 := 0
  mqttRxInlineEvents : UInt32 := 0
  mqttRxSlotEvents : UInt32 := 0
  txCommandsSeen : UInt32 := 0
  txAttempts : UInt32 := 0
  txOk : UInt32 := 0
  txFailed : UInt32 := 0
  txRejectedNotConnected : UInt32 := 0
  badPayloads : UInt32 := 0
  badEvents : UInt32 := 0
  telemetryTicks : UInt32 := 0
  telemetrySeen : UInt32 := 0
  telemetrySent : UInt32 := 0
  telemetryDroppedDisabled : UInt32 := 0
  telemetryDroppedDisconnected : UInt32 := 0
  telemetryDroppedRateLimit : UInt32 := 0
  telemetryDroppedOversize : UInt32 := 0
  telemetryDroppedUnsupported : UInt32 := 0
  telemetryTempSeen : UInt32 := 0
  telemetryTimeSeen : UInt32 := 0
  telemetryInputsSeen : UInt32 := 0
  telemetryLightSeen : UInt32 := 0
  deriving DecidableEq, Repr

/-- `ev_network_actor_ctx_t`, with its port left out. -/
structure NetworkActor where
  state : NetworkState := .disconnected
  stats : NetworkActorStats := {}
  telemetryTickCounter : UInt32 := 0
  lastTempTelemetryTick : UInt32 := networkTelemetryTickNever
  lastTimeTelemetryTick : UInt32 := networkTelemetryTickNever
  lastInputsTelemetryTick : UInt32 := networkTelemetryTickNever
  lastLightTelemetryTick : UInt32 := networkTelemetryTickNever
  deriving DecidableEq, Repr

/-- `ev_net_mqtt_publish_view_t`. -/
structure NetMqttPublishView where
  topic : List UInt8
  topicLen : Nat
  payload : List UInt8
  payloadLen : Nat
  qos : UInt8
  retain : UInt8
  deriving DecidableEq, Repr

/-- The publish functions of `ev_net_port_t`, `none` for null. A command is its bytes. -/
structure NetPublishPort (ω : Type) where
  publishMqtt : Option (List UInt8 → ω → Result × ω)
  publishMqttView : Option (NetMqttPublishView → ω → Result × ω)

/-- A call of the network port and its outcome. -/
inductive NetCall where
  | publishMqtt (cmd : List UInt8) (result : Result)
  | publishMqttView (view : NetMqttPublishView) (result : Result)
  deriving DecidableEq, Repr

abbrev NetworkActorState (P ω : Type) := Running NetworkActor P NetCall ω

/-- The producers of telemetry. Each has its own last tick. -/
inductive TelemetryClass where
  | temp
  | time
  | inputs
  | light
  deriving DecidableEq, Repr

inductive TelemetryDrop where
  | disabled
  | disconnected
  | rateLimit
  | oversize
  | unsupported
  deriving DecidableEq, Repr

/-- `%lu`. -/
def decimalText (value : Nat) : List UInt8 := asciiBytes (Nat.toDigits 10 value)

/-- `%d`. -/
def signedText (value : Int) : List UInt8 :=
  if value < 0 then asciiBytes ['-'] ++ decimalText value.natAbs else decimalText value.natAbs

namespace NetworkActorStats

def badPayload (stats : NetworkActorStats) : NetworkActorStats :=
  { stats with badPayloads := stats.badPayloads + 1 }

def seeTelemetry (stats : NetworkActorStats) : NetworkActorStats :=
  { stats with telemetrySeen := stats.telemetrySeen + 1 }

def drop (reason : TelemetryDrop) (stats : NetworkActorStats) : NetworkActorStats :=
  match reason with
  | .disabled => { stats with telemetryDroppedDisabled := stats.telemetryDroppedDisabled + 1 }
  | .disconnected =>
    { stats with telemetryDroppedDisconnected := stats.telemetryDroppedDisconnected + 1 }
  | .rateLimit => { stats with telemetryDroppedRateLimit := stats.telemetryDroppedRateLimit + 1 }
  | .oversize => { stats with telemetryDroppedOversize := stats.telemetryDroppedOversize + 1 }
  | .unsupported =>
    { stats with telemetryDroppedUnsupported := stats.telemetryDroppedUnsupported + 1 }

end NetworkActorStats

namespace NetworkActor

def lastTick (ctx : NetworkActor) : TelemetryClass → UInt32
  | .temp => ctx.lastTempTelemetryTick
  | .time => ctx.lastTimeTelemetryTick
  | .inputs => ctx.lastInputsTelemetryTick
  | .light => ctx.lastLightTelemetryTick

def setLastTick (ctx : NetworkActor) (tick : UInt32) : TelemetryClass → NetworkActor
  | .temp => { ctx with lastTempTelemetryTick := tick }
  | .time => { ctx with lastTimeTelemetryTick := tick }
  | .inputs => { ctx with lastInputsTelemetryTick := tick }
  | .light => { ctx with lastLightTelemetryTick := tick }

/-- `ev_network_actor_init`. -/
def init : NetworkActor := {}

/-- `ev_network_message_has_exact_payload`, with the payload. -/
def exactPayload (msg : Inbound) (payloadSize : Nat) : Option (Nat → UInt8) :=
  if msg.payloadSize = payloadSize then msg.payload else none

def rateLimited (ctx : NetworkActor) (lastTick : UInt32) : Bool :=
  if lastTick = networkTelemetryTickNever then false
  else ctx.telemetryTickCounter - lastTick < networkTelemetryMinIntervalTicks

def copyTopic (dstLen : Nat) (topic : List UInt8) : Option (List UInt8) :=
  if dstLen = 0 ∨ topic.length = 0 ∨ dstLen ≤ topic.length then none else some topic

/-- `ev_network_format_checked`: `snprintf` writes what fits before the terminator and returns the
length of the whole text. -/
def formatChecked (dstLen : Nat) (text : List UInt8) : Option (List UInt8) :=
  if dstLen = 0 then none
  else if text.length < dstLen then some (text.take (dstLen - 1))
  else none

def count (f : NetworkActorStats → NetworkActorStats) (s : NetworkActorState P ω) :
    NetworkActorState P ω :=
  s.setCtx { s.ctx with stats := f s.ctx.stats }

def dropTelemetry (reason : TelemetryDrop) (s : NetworkActorState P ω) :
    Result × NetworkActorState P ω :=
  (.ok, count (.drop reason) s)

def telemetryView (topic payload : List UInt8) : NetMqttPublishView where
  topic := topic
  topicLen := topic.length
  payload := payload
  payloadLen := payload.length
  qos := 0
  retain := 0

/-- What follows the call of `publish_mqtt_view`. -/
def concludeTelemetry (source : TelemetryClass) (rc : Result) (s : NetworkActorState P ω) :
    Result × NetworkActorState P ω :=
  match rc with
  | .ok =>
    let s := count (fun stats => { stats with telemetrySent := stats.telemetrySent + 1 }) s
    (.ok, s.setCtx (s.ctx.setLastTick s.ctx.telemetryTickCounter source))
  | .errUnsupported => dropTelemetry .unsupported s
  | .errState => dropTelemetry .disconnected s
  | _ =>
    dropTelemetry .unsupported (count (fun stats => { stats with txFailed := stats.txFailed + 1 }) s)

def publishTelemetry (net : Option (NetPublishPort ω)) (topic payload : List UInt8)
    (source : TelemetryClass) (s : NetworkActorState P ω) : Result × NetworkActorState P ω :=
  let s := count .seeTelemetry s
  if networkTelemetryEnabled = false then dropTelemetry .disabled s
  else
    match net with
    | none => dropTelemetry .disconnected s
    | some port =>
      if s.ctx.state ≠ .mqttConnected then dropTelemetry .disconnected s
      else if s.ctx.rateLimited (s.ctx.lastTick source) then dropTelemetry .rateLimit s
      else if payload.length = 0 ∨ topic.length = 0 ∨
          networkTelemetryTopicMaxBytes ≤ topic.length ∨
          networkTelemetryPayloadMaxBytes ≤ payload.length then
        dropTelemetry .oversize s
      else
        match port.publishMqttView with
        | none => dropTelemetry .unsupported s
        | some publish =>
          let view := telemetryView topic payload
          let out := s.call (publish view) (NetCall.publishMqttView view)
          concludeTelemetry source out.1 out.2

/-- The body that the telemetry handlers share. -/
def handleTelemetry (net : Option (NetPublishPort ω)) (source : TelemetryClass) (payloadSize : Nat)
    (see : NetworkActorStats → NetworkActorStats) (topic : List UInt8)
    (text : (Nat → UInt8) → List UInt8) (s : NetworkActorState P ω) (msg : Inbound) :
    Result × NetworkActorState P ω :=
  match exactPayload msg payloadSize with
  | none => (.errContract, count .badPayload s)
  | some payload =>
    let s := count see s
    match copyTopic networkTelemetryTopicMaxBytes topic with
    | none => dropTelemetry .oversize (count .seeTelemetry s)
    | some topic =>
      match formatChecked networkTelemetryPayloadMaxBytes (text payload) with
      | none => dropTelemetry .oversize (count .seeTelemetry s)
      | some body => publishTelemetry net topic body source s

def tempTopic : List UInt8 :=
  asciiBytes ['t', 'e', 'l', 'e', 'm', 'e', 't', 'r', 'y', '/', 't', 'e', 'm', 'p']

def timeTopic : List UInt8 :=
  asciiBytes ['t', 'e', 'l', 'e', 'm', 'e', 't', 'r', 'y', '/', 't', 'i', 'm', 'e']

def inputsTopic : List UInt8 :=
  asciiBytes ['t', 'e', 'l', 'e', 'm', 'e', 't', 'r', 'y', '/', 'i', 'n', 'p', 'u', 't', 's']

def lightTopic : List UInt8 :=
  asciiBytes ['t', 'e', 'l', 'e', 'm', 'e', 't', 'r', 'y', '/', 'l', 'i', 'g', 'h', 't']

/-- `ev_temp_payload_t` holds an `int16_t`. -/
def tempText (payload : Nat → UInt8) : List UInt8 :=
  asciiBytes ['{', '"', 'c', 'C', '"', ':'] ++
    signedText (Int16.ofNat ((payload 0).toNat + 256 * (payload 1).toNat)).toInt ++ asciiBytes ['}']

def timeText (payload : Nat → UInt8) : List UInt8 :=
  asciiBytes ['{', '"', 'u', 'n', 'i', 'x', '"', ':'] ++ decimalText (wordAt payload 0).toNat ++
    asciiBytes ['}']

def inputsText (payload : Nat → UInt8) : List UInt8 :=
  asciiBytes ['{', '"', 'p', 'r', 'e', 's', 's', 'e', 'd', '"', ':'] ++
    decimalText (payload 0).toNat ++
    asciiBytes [',', '"', 'c', 'h', 'a', 'n', 'g', 'e', 'd', '"', ':'] ++
    decimalText (payload 1).toNat ++ asciiBytes ['}']

/-- `ev_light_payload_t` holds a `uint32_t` and a `uint16_t`. -/
def lightText (payload : Nat → UInt8) : List UInt8 :=
  asciiBytes ['{', '"', 'm', 'L', 'u', 'x', '"', ':'] ++ decimalText (wordAt payload 0).toNat ++
    asciiBytes [',', '"', 'r', 'a', 'w', '"', ':'] ++
    decimalText ((payload 4).toNat + 256 * (payload 5).toNat) ++ asciiBytes ['}']

def handleTempUpdated (net : Option (NetPublishPort ω)) :
    NetworkActorState P ω → Inbound → Result × NetworkActorState P ω :=
  handleTelemetry net .temp 2
    (fun stats => { stats with telemetryTempSeen := stats.telemetryTempSeen + 1 }) tempTopic tempText

def handleTimeUpdated (net : Option (NetPublishPort ω)) :
    NetworkActorState P ω → Inbound → Result × NetworkActorState P ω :=
  handleTelemetry net .time 12
    (fun stats => { stats with telemetryTimeSeen := stats.telemetryTimeSeen + 1 }) timeTopic timeText

def handleInputsChanged (net : Option (NetPublishPort ω)) :
    NetworkActorState P ω → Inbound → Result × NetworkActorState P ω :=
  handleTelemetry net .inputs 2
    (fun stats => { stats with telemetryInputsSeen := stats.telemetryInputsSeen + 1 }) inputsTopic
    inputsText

def handleLightUpdated (net : Option (NetPublishPort ω)) :
    NetworkActorState P ω → Inbound → Result × NetworkActorState P ω :=
  handleTelemetry net .light 8
    (fun stats => { stats with telemetryLightSeen := stats.telemetryLightSeen + 1 }) lightTopic
    lightText

def handleWifiUp (s : NetworkActorState P ω) : Result × NetworkActorState P ω :=
  let s := count (fun stats => { stats with wifiUpEvents := stats.wifiUpEvents + 1 }) s
  if s.ctx.state = .disconnected then (.ok, s.setCtx { s.ctx with state := .wifiUp }) else (.ok, s)

def handleWifiDown (s : NetworkActorState P ω) : Result × NetworkActorState P ω :=
  let s := count (fun stats => { stats with wifiDownEvents := stats.wifiDownEvents + 1 }) s
  (.ok, s.setCtx { s.ctx with state := .disconnected })

def handleMqttUp (s : NetworkActorState P ω) : Result × NetworkActorState P ω :=
  let s := count (fun stats => { stats with mqttUpEvents := stats.mqttUpEvents + 1 }) s
  (.ok, s.setCtx { s.ctx with state := .mqttConnected })

def handleMqttDown (s : NetworkActorState P ω) : Result × NetworkActorState P ω :=
  let s := count (fun stats => { stats with mqttDownEvents := stats.mqttDownEvents + 1 }) s
  (.ok, s.setCtx { s.ctx with state := .wifiUp })

/-- The body that the two handlers of received data share. The second byte of the payload is its
`payload_len`. -/
def handleMqttRx (payloadSize : Nat) (see : NetworkActorStats → NetworkActorStats)
    (s : NetworkActorState P ω) (msg : Inbound) : Result × NetworkActorState P ω :=
  match exactPayload msg payloadSize with
  | none => (.errContract, count .badPayload s)
  | some rx =>
    (.ok, count (fun stats =>
      { see stats with
        mqttRxEvents := stats.mqttRxEvents + 1
        mqttRxIgnoredFoundation := stats.mqttRxIgnoredFoundation + 1
        mqttRxBytes := stats.mqttRxBytes + (rx 1).toUInt32 }) s)

def handleMqttRxInline : NetworkActorState P ω → Inbound → Result × NetworkActorState P ω :=
  handleMqttRx netMqttInlinePayloadSize fun stats =>
    { stats with mqttRxInlineEvents := stats.mqttRxInlineEvents + 1 }

def handleMqttRxLease : NetworkActorState P ω → Inbound → Result × NetworkActorState P ω :=
  handleMqttRx netMqttRxPayloadSize fun stats =>
    { stats with mqttRxSlotEvents := stats.mqttRxSlotEvents + 1 }

def handleTx (net : Option (NetPublishPort ω)) (s : NetworkActorState P ω) (msg : Inbound) :
    Result × NetworkActorState P ω :=
  match exactPayload msg netMqttInlinePayloadSize with
  | none => (.errContract, count .badPayload s)
  | some cmd =>
    let s := count (fun stats => { stats with txCommandsSeen := stats.txCommandsSeen + 1 }) s
    if s.ctx.state ≠ .mqttConnected then
      (.ok, count (fun stats =>
        { stats with txRejectedNotConnected := stats.txRejectedNotConnected + 1 }) s)
    else
      match net.bind NetPublishPort.publishMqtt with
      | none => (.errUnsupported, count (fun stats => { stats with txFailed := stats.txFailed + 1 }) s)
      | some publish =>
        let s := count (fun stats => { stats with txAttempts := stats.txAttempts + 1 }) s
        let cmd := (List.range netMqttInlinePayloadSize).map cmd
        let out := s.call (publish cmd) (NetCall.publishMqtt cmd)
        if out.1 = .ok then
          (out.1, count (fun stats => { stats with txOk := stats.txOk + 1 }) out.2)
        else (out.1, count (fun stats => { stats with txFailed := stats.txFailed + 1 }) out.2)

def handle (net : Option (NetPublishPort ω)) (s : NetworkActorState P ω) (msg : Inbound) :
    Result × NetworkActorState P ω :=
  match msg.eventId with
  | .tick1s =>
    let s := count (fun stats => { stats with telemetryTicks := stats.telemetryTicks + 1 }) s
    (.ok, s.setCtx { s.ctx with telemetryTickCounter := s.ctx.telemetryTickCounter + 1 })
  | .netWifiUp => handleWifiUp s
  | .netWifiDown => handleWifiDown s
  | .netMqttUp => handleMqttUp s
  | .netMqttDown => handleMqttDown s
  | .netMqttMsgRx => handleMqttRxInline s msg
  | .netMqttMsgRxLease => handleMqttRxLease s msg
  | .netTxCmd => handleTx net s msg
  | .tempUpdated => handleTempUpdated net s msg
  | .timeUpdated => handleTimeUpdated net s msg
  | .mcp23008InputChanged => handleInputsChanged net s msg
  | .lightUpdated => handleLightUpdated net s msg
  | _ =>
    (.errContract, count (fun stats => { stats with badEvents := stats.badEvents + 1 }) s)

def step (net : Option (NetPublishPort ω)) :
    NetworkActorState P ω → Inbound → NetworkActorState P ω :=
  Running.step (handle net)

def start (outside : ω) : NetworkActorState P ω where
  ctx := init
  world := { outside := outside }

end NetworkActor

end EventFramework
