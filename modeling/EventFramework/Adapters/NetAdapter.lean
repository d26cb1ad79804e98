import EventFramework.Core.PortNet
import Mathlib.Data.Fintype.Basic
import Mathlib.Data.List.FinRange
import Mathlib.Logic.Function.Basic

/-!
# The network adapter

`ev_net_adapter.c` with `EV_ESP8266_NET_ENABLE_MQTT`: the callbacks of the SDK keep the state of the
two links, copy MQTT data into four payload slots or into the event itself, and push events into a
ring that the runtime polls. Each function here is one critical section of the source, or a body that
calls them in turn. The SDK itself is outside.
-/

namespace EventFramework
set_option autoImplicit false

variable {κ : Type}

/-- `EV_ESP8266_NET_RECONNECT_MIN_INTERVAL_US`. -/
def netReconnectMinIntervalUs : Int := 1000 * 1000

abbrev NetSlotIndex := Fin netPayloadSlotCount

/-- The addresses a leased payload carries: the callbacks of the adapter, a slot and the payload in
it. Addresses of others are foreign. -/
inductive NetPtr (κ : Type) where
  | payloadRetain
  | payloadRelease
  | slot (index : NetSlotIndex)
  | slotPayload (index : NetSlotIndex)
  | foreign (ptr : κ)
  deriving DecidableEq, Repr

structure NetPayloadSlot where
  inUse : Bool := false
  refcount : UInt32 := 0
  generation : UInt32 := 0
  payload : NetMqttRxPayload := {}
  deriving DecidableEq, Repr

structure NetCounters where
  highWatermark : UInt32 := 0
  droppedEvents : UInt32 := 0
  droppedOversize : UInt32 := 0
  droppedNoPayloadSlot : UInt32 := 0
  payloadSlotsHighWatermark : UInt32 := 0
  payloadSlotAcquireOk : UInt32 := 0
  payloadSlotAcquireFailed : UInt32 := 0
  payloadSlotReleaseCount : UInt32 := 0
  mqttRxBytes : UInt32 := 0
  mqttRxInlineEvents : UInt32 := 0
  mqttRxSlotEvents : UInt32 := 0
  wifiUpEvents : UInt32 := 0
  wifiDownEvents : UInt32 := 0
  reconnectAttempts : UInt32 := 0
  reconnectSuppressed : UInt32 := 0
  duplicateWifiDownSuppressed : UInt32 := 0
  duplicateWifiUpSuppressed : UInt32 := 0
  stateSnapshots : UInt32 := 0
  callbackStateUpdates : UInt32 := 0
  mqttDisabled : UInt32 := 0
  mqttUpEvents : UInt32 := 0
  mqttDownEvents : UInt32 := 0
  mqttRxEvents : UInt32 := 0
  deriving DecidableEq, Repr

/-- `ev_esp8266_net_ctx_t`; the client is a pointer that is null or not. -/
structure NetAdapter (κ : Type) where
  ring : Nat → NetIngressEvent (NetPtr κ) := fun _ => {}
  payloadSlots : NetSlotIndex → NetPayloadSlot := fun _ => {}
  writeSeq : UInt32 := 0
  readSeq : UInt32 := 0
  payloadSlotsInUse : UInt32 := 0
  counters : NetCounters := {}
  lastReconnectAttemptUs : Int := 0
  initialized : Bool := false
  wifiStarted : Bool := false
  wifiConnected : Bool := false
  mqttSupported : Bool := false
  mqttStarted : Bool := false
  mqttConnected : Bool := false
  mqttClient : Bool := false

structure NetStateSnapshot where
  initialized : Bool
  wifiStarted : Bool
  wifiConnected : Bool
  mqttSupported : Bool
  mqttStarted : Bool
  mqttConnected : Bool
  mqttClient : Bool
  deriving DecidableEq, Repr

structure NetWifiDownActions where
  pushWifiDown : Bool
  pushMqttDown : Bool
  reconnect : Bool
  deriving DecidableEq, Repr

/-- The events of the WiFi station that the adapter handles; a disconnect with the time. -/
inductive WifiEvent where
  | gotIp
  | disconnected (nowUs : Int)

structure MqttData where
  topic : Option (Nat → UInt8)
  topicLen : Int
  payload : Option (Nat → UInt8)
  payloadLen : Int

inductive MqttEvent where
  | connected
  | disconnected
  | error
  | data (data : MqttData)

/-- `memcpy` of `n` bytes to the start of an array. -/
def copyBytes (array : List UInt8) (source : Option (Nat → UInt8)) (n : Nat) : List UInt8 :=
  match source with
  | none => array
  | some bytes => array.mapIdx fun i byte => if i < n then bytes i else byte

namespace MqttData

def isValid (data : MqttData) : Bool :=
  data.topic.isSome && decide (0 ≤ data.topicLen) && decide (0 ≤ data.payloadLen) &&
    (data.payload.isSome || decide (data.payloadLen ≤ 0))

def fitsInline (data : MqttData) : Bool :=
  decide (data.topicLen.toNat ≤ netMaxTopicBytes) &&
    decide (data.payloadLen.toNat ≤ netMaxInlinePayloadBytes)

def fitsStorage (data : MqttData) : Bool :=
  decide (data.topicLen.toNat ≤ netMaxTopicStorageBytes) &&
    decide (data.payloadLen.toNat ≤ netMaxPayloadStorageBytes)

def inlineEvent (data : MqttData) : NetIngressEvent (NetPtr κ) where
  kind := .mqttMsgRx
  payloadStorage := .inline
  topicLen := UInt8.ofNat data.topicLen.toNat
  payloadLen := UInt8.ofNat data.payloadLen.toNat
  topic := copyBytes (List.replicate netMaxTopicBytes 0) data.topic data.topicLen.toNat
  payload := copyBytes (List.replicate netMaxInlinePayloadBytes 0) data.payload data.payloadLen.toNat

def fill (data : MqttData) (payload : NetMqttRxPayload) : NetMqttRxPayload :=
  { payload with
    topicLen := UInt8.ofNat data.topicLen.toNat
    payloadLen := UInt8.ofNat data.payloadLen.toNat
    topic := copyBytes payload.topic data.topic data.topicLen.toNat
    payload := copyBytes payload.payload data.payload data.payloadLen.toNat }

end MqttData

namespace NetAdapter

def setSlot (net : NetAdapter κ) (index : NetSlotIndex) (slot : NetPayloadSlot) : NetAdapter κ :=
  { net with payloadSlots := Function.update net.payloadSlots index slot }

def count (net : NetAdapter κ) (f : NetCounters → NetCounters) : NetAdapter κ :=
  { net with counters := f net.counters }

/-- `ev_esp8266_net_pending_unsafe`. -/
def pending (net : NetAdapter κ) : UInt32 := net.writeSeq - net.readSeq

/-- `ev_esp8266_net_record_high_watermark_unsafe`. -/
def recordHighWatermark (net : NetAdapter κ) : NetAdapter κ :=
  if net.pending > net.counters.highWatermark then
    net.count fun c => { c with highWatermark := net.pending }
  else net

/-- The critical section of `ev_esp8266_net_payload_retain`. -/
def retainSlot (index : NetSlotIndex) (net : NetAdapter κ) : Result × NetAdapter κ :=
  if !(net.payloadSlots index).inUse || (net.payloadSlots index).refcount == 0 then (.errState, net)
  else
    (.ok, net.setSlot index
      { net.payloadSlots index with refcount := (net.payloadSlots index).refcount + 1 })

def dropShare (index : NetSlotIndex) (net : NetAdapter κ) : NetAdapter κ :=
  if (net.payloadSlots index).refcount - 1 = 0 then
    { net.setSlot index
        { net.payloadSlots index with inUse := false, refcount := 0, payload := {} } with
      payloadSlotsInUse :=
        if net.payloadSlotsInUse > 0 then net.payloadSlotsInUse - 1 else net.payloadSlotsInUse }
  else
    net.setSlot index
      { net.payloadSlots index with refcount := (net.payloadSlots index).refcount - 1 }

/-- The critical section of `ev_esp8266_net_payload_release`. -/
def releaseSlot (index : NetSlotIndex) (net : NetAdapter κ) : NetAdapter κ :=
  if (net.payloadSlots index).inUse && decide ((net.payloadSlots index).refcount > 0) then
    (net.dropShare index).count fun c =>
      { c with payloadSlotReleaseCount := c.payloadSlotReleaseCount + 1 }
  else net

/-- The slot that the arguments of a payload callback name, when they pass its checks. An address of
another object is taken for null. -/
def checkedSlot (ctx payload : Option (NetPtr κ)) (payloadSize : Nat) : Option NetSlotIndex :=
  match ctx, payload with
  | some (.slot index), some (.slotPayload other) =>
    if other ≠ index ∨ payloadSize ≠ netMqttRxPayloadSize then none else some index
  | _, _ => none

/-- `ev_esp8266_net_payload_retain`. -/
def payloadRetain (ctx payload : Option (NetPtr κ)) (payloadSize : Nat) (net : NetAdapter κ) :
    Result × NetAdapter κ :=
  match checkedSlot ctx payload payloadSize with
  | none => (.errInvalidArg, net)
  | some index => net.retainSlot index

/-- `ev_esp8266_net_payload_release`. -/
def payloadRelease (ctx payload : Option (NetPtr κ)) (payloadSize : Nat) (net : NetAdapter κ) :
    NetAdapter κ :=
  match checkedSlot ctx payload payloadSize with
  | none => net
  | some index => net.releaseSlot index

def acquiredSlot (slot : NetPayloadSlot) : NetPayloadSlot where
  inUse := true
  refcount := 1
  generation := if slot.generation + 1 = 0 then 1 else slot.generation + 1
  payload := {}

def firstFree (net : NetAdapter κ) : Option NetSlotIndex :=
  (List.finRange netPayloadSlotCount).find? fun index => !(net.payloadSlots index).inUse

def payloadAcquire (net : NetAdapter κ) : Option NetSlotIndex × NetAdapter κ :=
  match net.firstFree with
  | some index =>
    let inUse := net.payloadSlotsInUse + 1
    (some index, { (net.setSlot index (acquiredSlot (net.payloadSlots index))).count fun c =>
      { c with
        payloadSlotAcquireOk := c.payloadSlotAcquireOk + 1
        payloadSlotsHighWatermark :=
          if inUse > c.payloadSlotsHighWatermark then inUse else c.payloadSlotsHighWatermark } with
      payloadSlotsInUse := inUse })
  | none =>
    (none, net.count fun c =>
      { c with
        payloadSlotAcquireFailed := c.payloadSlotAcquireFailed + 1
        droppedNoPayloadSlot := c.droppedNoPayloadSlot + 1 })

/-- `ev_esp8266_net_payload_make_lease` of a slot. -/
def payloadMakeLease (index : NetSlotIndex) : ExternalPayload (NetPtr κ) where
  data := some (.slotPayload index)
  size := netMqttRxPayloadSize
  retainFn := some .payloadRetain
  releaseFn := some .payloadRelease
  lifecycleCtx := some (.slot index)

def snapshotState (net : NetAdapter κ) : NetStateSnapshot × NetAdapter κ :=
  ({ initialized := net.initialized
     wifiStarted := net.wifiStarted
     wifiConnected := net.wifiConnected
     mqttSupported := net.mqttSupported
     mqttStarted := net.mqttStarted
     mqttConnected := net.mqttConnected
     mqttClient := net.mqttClient },
    net.count fun c => { c with stateSnapshots := c.stateSnapshots + 1 })

/-- `++net->callback_state_updates`. -/
def countUpdate (net : NetAdapter κ) : NetAdapter κ :=
  net.count fun c => { c with callbackStateUpdates := c.callbackStateUpdates + 1 }

def setInitialized (initialized : Bool) (net : NetAdapter κ) : NetAdapter κ :=
  { net with initialized := initialized }.countUpdate

def setWifiStarted (started : Bool) (net : NetAdapter κ) : NetAdapter κ :=
  { net with wifiStarted := started }.countUpdate

def setMqttStarted (started : Bool) (net : NetAdapter κ) : NetAdapter κ :=
  { net with mqttStarted := started }.countUpdate

def setMqttSupported (supported : Bool) (net : NetAdapter κ) : NetAdapter κ :=
  { net with mqttSupported := supported }.countUpdate

def noteWifiUp (net : NetAdapter κ) : Bool × NetAdapter κ :=
  if !net.wifiConnected then
    (true, { net with wifiConnected := true }.count fun c =>
      { c with
        wifiUpEvents := c.wifiUpEvents + 1
        callbackStateUpdates := c.callbackStateUpdates + 1 })
  else
    (false, net.count fun c =>
      { c with duplicateWifiUpSuppressed := c.duplicateWifiUpSuppressed + 1 })

def noteMqttUp (net : NetAdapter κ) : Bool × NetAdapter κ :=
  if !net.mqttConnected then
    (true, { net with mqttConnected := true }.count fun c =>
      { c with
        mqttUpEvents := c.mqttUpEvents + 1
        callbackStateUpdates := c.callbackStateUpdates + 1 })
  else (false, net)

def noteMqttDown (net : NetAdapter κ) : Bool × NetAdapter κ :=
  if net.mqttConnected then
    (true, { net with mqttConnected := false }.count fun c =>
      { c with
        mqttDownEvents := c.mqttDownEvents + 1
        callbackStateUpdates := c.callbackStateUpdates + 1 })
  else (false, net)

/-- The reconnect attempt of a disconnect: its flag and the counts. -/
def noteReconnect (nowUs : Int) (net : NetAdapter κ) : Bool × NetAdapter κ :=
  if net.lastReconnectAttemptUs = 0 ∨
      nowUs - net.lastReconnectAttemptUs ≥ netReconnectMinIntervalUs then
    (true, { net with lastReconnectAttemptUs := nowUs }.count fun c =>
      { c with reconnectAttempts := c.reconnectAttempts + 1 })
  else
    (false, net.count fun c => { c with reconnectSuppressed := c.reconnectSuppressed + 1 })

/-- The WiFi part of `ev_esp8266_net_note_wifi_down`. -/
def clearWifi (net : NetAdapter κ) : Bool × NetAdapter κ :=
  if net.wifiConnected then
    (true, { net with wifiConnected := false }.count fun c =>
      { c with
        wifiDownEvents := c.wifiDownEvents + 1
        callbackStateUpdates := c.callbackStateUpdates + 1 })
  else
    (false, net.count fun c =>
      { c with duplicateWifiDownSuppressed := c.duplicateWifiDownSuppressed + 1 })

/-- `ev_esp8266_net_note_wifi_down`; its MQTT part is that of `ev_esp8266_net_note_mqtt_down`. -/
def noteWifiDown (nowUs : Int) (net : NetAdapter κ) : NetWifiDownActions × NetAdapter κ :=
  let wifi := net.clearWifi
  let mqtt := wifi.2.noteMqttDown
  let reconnect := mqtt.2.noteReconnect nowUs
  (⟨wifi.1, mqtt.1, reconnect.1⟩, reconnect.2)

def pushEvent (event : NetIngressEvent (NetPtr κ)) (net : NetAdapter κ) : Result × NetAdapter κ :=
  if net.pending ≥ netIngressRingCapacity then
    (.errFull, net.count fun c => { c with droppedEvents := c.droppedEvents + 1 })
  else
    (.ok, recordHighWatermark { net with
      ring := Function.update net.ring (net.writeSeq &&& netIngressRingMask).toNat event
      writeSeq := net.writeSeq + 1 })

/-- `ev_esp8266_net_push_kind`: the result of the push is ignored. -/
def pushKind (kind : NetEventKind) (net : NetAdapter κ) : NetAdapter κ :=
  (net.pushEvent { kind := kind }).2

def recordMqttRxSuccess (payloadLen : UInt32) (leased : Bool) (net : NetAdapter κ) : NetAdapter κ :=
  net.count fun c =>
    { c with
      mqttRxEvents := c.mqttRxEvents + 1
      mqttRxBytes := c.mqttRxBytes + payloadLen
      mqttRxSlotEvents := if leased then c.mqttRxSlotEvents + 1 else c.mqttRxSlotEvents
      mqttRxInlineEvents := if leased then c.mqttRxInlineEvents else c.mqttRxInlineEvents + 1 }

def countOversize (net : NetAdapter κ) : NetAdapter κ :=
  net.count fun c => { c with droppedOversize := c.droppedOversize + 1 }

def fillSlot (index : NetSlotIndex) (data : MqttData) (net : NetAdapter κ) : NetAdapter κ :=
  let slot := net.payloadSlots index
  net.setSlot index { slot with payload := data.fill slot.payload }

def leaseEvent (index : NetSlotIndex) (net : NetAdapter κ) : NetIngressEvent (NetPtr κ) where
  kind := .mqttMsgRx
  payloadStorage := .lease
  topicLen := (net.payloadSlots index).payload.topicLen
  payloadLen := (net.payloadSlots index).payload.payloadLen
  externalPayload := payloadMakeLease index

/-- `ev_esp8266_net_push_mqtt_data`. -/
def pushMqttData (data : MqttData) (net : NetAdapter κ) : NetAdapter κ :=
  if !data.isValid then net
  else if data.fitsInline then
    let pushed := net.pushEvent data.inlineEvent
    if pushed.1 = .ok then pushed.2.recordMqttRxSuccess (UInt32.ofNat data.payloadLen.toNat) false
    else pushed.2
  else if !data.fitsStorage then net.countOversize
  else
    let acquired := net.payloadAcquire
    match acquired.1 with
    | none => acquired.2
    | some index =>
      let net := acquired.2.fillSlot index data
      let pushed := net.pushEvent (net.leaseEvent index)
      if pushed.1 ≠ .ok then pushed.2.releaseSlot index
      else pushed.2.recordMqttRxSuccess (UInt32.ofNat data.payloadLen.toNat) true

/-- `ev_esp8266_wifi_event_handler`; the reconnect is a call of the SDK. -/
def wifiEventHandler (event : WifiEvent) (net : NetAdapter κ) : NetAdapter κ :=
  match event with
  | .gotIp =>
    let noted := net.noteWifiUp
    if noted.1 then noted.2.pushKind .wifiUp else noted.2
  | .disconnected nowUs =>
    let noted := net.noteWifiDown nowUs
    let net := if noted.1.pushMqttDown then noted.2.pushKind .mqttDown else noted.2
    if noted.1.pushWifiDown then net.pushKind .wifiDown else net

/-- `ev_esp8266_mqtt_event_handler`. -/
def mqttEventHandler (event : MqttEvent) (net : NetAdapter κ) : NetAdapter κ :=
  match event with
  | .connected =>
    let noted := net.noteMqttUp
    if noted.1 then noted.2.pushKind .mqttUp else noted.2
  | .disconnected | .error =>
    let noted := net.noteMqttDown
    if noted.1 then noted.2.pushKind .mqttDown else noted.2
  | .data data => net.pushMqttData data

/-- `ev_esp8266_net_poll_ingress_fn`. -/
def pollIngress (net : NetAdapter κ) : Result × Option (NetIngressEvent (NetPtr κ)) × NetAdapter κ :=
  if net.pending = 0 then (.errEmpty, none, net)
  else
    (.ok, some (net.ring (net.readSeq &&& netIngressRingMask).toNat),
      { net with readSeq := net.readSeq + 1 })

/-- The last critical section of `ev_esp8266_net_stop_fn`: the flag goes without an event. -/
def clearWifiConnected (net : NetAdapter κ) : NetAdapter κ :=
  { net with wifiConnected := false }.countUpdate

/-- `ev_esp8266_net_stop_fn`. -/
def stopFn (net : NetAdapter κ) : NetAdapter κ :=
  let snapshot := net.snapshotState
  let net :=
    if snapshot.1.mqttClient && snapshot.1.mqttStarted then
      (snapshot.2.setMqttStarted false).noteMqttDown.2
    else snapshot.2
  let snapshot := net.snapshotState
  if snapshot.1.wifiStarted then (snapshot.2.setWifiStarted false).clearWifiConnected
  else snapshot.2

/-- `ev_esp8266_net_start_fn`, with the results of the SDK. -/
def startFn (wifiStartOk wifiConnectOk : Bool) (net : NetAdapter κ) : Result × NetAdapter κ :=
  let snapshot := net.snapshotState
  if !snapshot.1.initialized then (.errState, snapshot.2)
  else if !snapshot.1.wifiStarted && !wifiStartOk then (.errState, snapshot.2)
  else
    (if wifiConnectOk then .ok else .errState,
      if snapshot.1.wifiStarted then snapshot.2 else snapshot.2.setWifiStarted true)

/-- What a successful `ev_esp8266_net_init_fn` leaves of the zeroed context. -/
def initialised (brokerUri : Bool) : NetAdapter κ :=
  let net : NetAdapter κ := ({} : NetAdapter κ).snapshotState.2.countUpdate
  let net := (net.setMqttSupported brokerUri).snapshotState.2
  let net :=
    if brokerUri then { net with mqttClient := true }
    else net.count fun c => { c with mqttDisabled := c.mqttDisabled + 1 }
  net.setInitialized true

end NetAdapter

end EventFramework
