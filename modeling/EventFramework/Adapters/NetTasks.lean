import EventFramework.Adapters.NetAdapter
import EventFramework.Library.Machine
import EventFramework.Library.SeqRing

/-!
# The tasks over the network adapter

The event handlers of WiFi and MQTT, the runtime that polls, and the start and stop of the adapter run
in tasks of their own. A step of the system is one critical section of one of them, and each task goes
on where it stood. Beside the adapter the state keeps the link edges that the ring took and that the
polls returned, and how a link was last parted from them.
-/

namespace EventFramework
set_option autoImplicit false

variable {κ : Type}

inductive NetLink where
  | wifi
  | mqtt
  deriving DecidableEq, Repr

abbrev LinkEdge := NetLink × Bool

def NetEventKind.edge : NetEventKind → Option LinkEdge
  | .wifiUp => some (.wifi, true)
  | .wifiDown => some (.wifi, false)
  | .mqttUp => some (.mqtt, true)
  | .mqttDown => some (.mqtt, false)
  | .none | .mqttMsgRx => Option.none

def NetLink.edges (link : NetLink) (kinds : List NetEventKind) : List Bool :=
  kinds.filterMap fun kind =>
    kind.edge.bind fun edge => if edge.1 = link then some edge.2 else none

/-- What a reader of the edges takes for the state of a link. -/
def NetLink.lastUp (link : NetLink) (edges : List LinkEdge) : Bool :=
  edges.foldl (fun up edge => if edge.1 = link then edge.2 else up) false

def NetAdapter.connected (net : NetAdapter κ) : NetLink → Bool
  | .wifi => net.wifiConnected
  | .mqtt => net.mqttConnected

/-- What can part the state of a link from its edges: the ring refused an edge, a stop cleared the
state, or the handlers pushed two edges in the other order than they noted them. -/
inductive LinkLoss where
  | refused
  | cleared
  | crossed
  deriving DecidableEq, Repr

/-- Where the MQTT handler stands between two critical sections. -/
inductive MqttTask where
  | idle
  | pushKind (kind : NetEventKind)
  | fill (index : NetSlotIndex) (data : MqttData)
  | pushLease (index : NetSlotIndex) (data : MqttData)
  | releaseSlot (index : NetSlotIndex)
  | record (payloadLen : UInt32) (leased : Bool)

def MqttTask.owes : MqttTask → List NetEventKind
  | .pushKind kind => [kind]
  | _ => []

inductive NetControlTask where
  | idle
  | markWifiStarted
  | clearMqttStarted
  | noteMqttDown
  | readWifi
  | clearWifiStarted
  | clearWifiConnected

structure NetSystem (κ : Type) where
  net : NetAdapter κ
  wifiOwes : List NetEventKind := []
  mqtt : MqttTask := .idle
  control : NetControlTask := .idle
  accepted : List LinkEdge := []
  returned : List LinkEdge := []
  lost : NetLink → Option LinkLoss := fun _ => none

inductive NetInput (κ : Type) where
  | wifi (event : WifiEvent)
  | wifiStep
  | mqtt (event : MqttEvent)
  | mqttStep
  | poll
  | start (wifiStartOk : Bool)
  | stop
  | controlStep
  | payloadRetain (ctx payload : Option (NetPtr κ)) (payloadSize : Nat)
  | payloadRelease (ctx payload : Option (NetPtr κ)) (payloadSize : Nat)

namespace NetSystem

def owed (s : NetSystem κ) (link : NetLink) : List Bool := link.edges (s.wifiOwes ++ s.mqtt.owes)

def lose (s : NetSystem κ) (link : NetLink) (loss : LinkLoss) : NetSystem κ :=
  { s with lost := Function.update s.lost link (some loss) }

/-- The ring took an edge. The link is as its edges say, unless an older edge of it is still owed. -/
def accept (s : NetSystem κ) (edge : LinkEdge) : NetSystem κ :=
  { s with
    accepted := s.accepted ++ [edge]
    lost :=
      if edge.2 = s.net.connected edge.1 then
        Function.update s.lost edge.1 (if s.owed edge.1 = [] then none else some .crossed)
      else s.lost }

def pushEvent (s : NetSystem κ) (event : NetIngressEvent (NetPtr κ)) : Result × NetSystem κ :=
  let pushed := s.net.pushEvent event
  let t := { s with net := pushed.2 }
  match event.kind.edge with
  | none => (pushed.1, t)
  | some edge => (pushed.1, if pushed.1 = .ok then t.accept edge else t.lose edge.1 .refused)

def wifiEvent (s : NetSystem κ) : WifiEvent → NetSystem κ
  | .gotIp =>
    let noted := s.net.noteWifiUp
    { s with net := noted.2, wifiOwes := if noted.1 then [.wifiUp] else [] }
  | .disconnected nowUs =>
    let noted := s.net.noteWifiDown nowUs
    { s with
      net := noted.2
      wifiOwes := (if noted.1.pushMqttDown then [.mqttDown] else []) ++
        if noted.1.pushWifiDown then [.wifiDown] else [] }

def wifiStep (s : NetSystem κ) : NetSystem κ :=
  match s.wifiOwes with
  | [] => s
  | kind :: rest => ({ s with wifiOwes := rest }.pushEvent { kind := kind }).2

def mqttNoted (s : NetSystem κ) (noted : Bool × NetAdapter κ) (kind : NetEventKind) : NetSystem κ :=
  { s with net := noted.2, mqtt := if noted.1 then .pushKind kind else .idle }

/-- The first critical section of `ev_esp8266_net_push_mqtt_data`. -/
def mqttData (s : NetSystem κ) (data : MqttData) : NetSystem κ :=
  if !data.isValid then s
  else if data.fitsInline then
    let pushed := s.pushEvent data.inlineEvent
    { pushed.2 with
      mqtt := if pushed.1 = .ok then .record (UInt32.ofNat data.payloadLen.toNat) false else .idle }
  else if !data.fitsStorage then { s with net := s.net.countOversize }
  else
    let acquired := s.net.payloadAcquire
    { s with net := acquired.2, mqtt := acquired.1.elim .idle fun index => .fill index data }

def mqttEvent (s : NetSystem κ) : MqttEvent → NetSystem κ
  | .connected => s.mqttNoted s.net.noteMqttUp .mqttUp
  | .disconnected | .error => s.mqttNoted s.net.noteMqttDown .mqttDown
  | .data data => s.mqttData data

def mqttStep (s : NetSystem κ) : NetSystem κ :=
  match s.mqtt with
  | .idle => s
  | .pushKind kind => ({ s with mqtt := .idle }.pushEvent { kind := kind }).2
  | .fill index data => { s with net := s.net.fillSlot index data, mqtt := .pushLease index data }
  | .pushLease index data =>
    let pushed := s.pushEvent (s.net.leaseEvent index)
    { pushed.2 with
      mqtt := if pushed.1 ≠ .ok then .releaseSlot index
        else .record (UInt32.ofNat data.payloadLen.toNat) true }
  | .releaseSlot index => { s with net := s.net.releaseSlot index, mqtt := .idle }
  | .record payloadLen leased =>
    { s with net := s.net.recordMqttRxSuccess payloadLen leased, mqtt := .idle }

def poll (s : NetSystem κ) : NetSystem κ :=
  let polled := s.net.pollIngress
  { s with
    net := polled.2.2
    returned := s.returned ++ (polled.2.1.bind fun event => event.kind.edge).toList }

def start (s : NetSystem κ) (wifiStartOk : Bool) : NetSystem κ :=
  let snapshot := s.net.snapshotState
  { s with
    net := snapshot.2
    control := if snapshot.1.initialized && !snapshot.1.wifiStarted && wifiStartOk then
      .markWifiStarted else .idle }

def stop (s : NetSystem κ) : NetSystem κ :=
  let snapshot := s.net.snapshotState
  { s with
    net := snapshot.2
    control := if snapshot.1.mqttClient && snapshot.1.mqttStarted then .clearMqttStarted
      else .readWifi }

def controlStep (s : NetSystem κ) : NetSystem κ :=
  match s.control with
  | .idle => s
  | .markWifiStarted => { s with net := s.net.setWifiStarted true, control := .idle }
  | .clearMqttStarted => { s with net := s.net.setMqttStarted false, control := .noteMqttDown }
  | .noteMqttDown =>
    { (if s.net.mqttConnected then s.lose .mqtt .cleared else s) with
      net := s.net.noteMqttDown.2, control := .readWifi }
  | .readWifi =>
    let snapshot := s.net.snapshotState
    { s with
      net := snapshot.2, control := if snapshot.1.wifiStarted then .clearWifiStarted else .idle }
  | .clearWifiStarted => { s with net := s.net.setWifiStarted false, control := .clearWifiConnected }
  | .clearWifiConnected =>
    { (if s.net.wifiConnected then s.lose .wifi .cleared else s) with
      net := s.net.clearWifiConnected, control := .idle }

/-- One critical section. An event of a handler that is busy and a call of start or stop while one is
under way wait: here they do nothing. -/
def step (s : NetSystem κ) : NetInput κ → NetSystem κ
  | .wifi event => if s.wifiOwes.isEmpty then s.wifiEvent event else s
  | .wifiStep => s.wifiStep
  | .mqtt event => match s.mqtt with
    | .idle => s.mqttEvent event
    | _ => s
  | .mqttStep => s.mqttStep
  | .poll => s.poll
  | .start wifiStartOk => match s.control with
    | .idle => s.start wifiStartOk
    | _ => s
  | .stop => match s.control with
    | .idle => s.stop
    | _ => s
  | .controlStep => s.controlStep
  | .payloadRetain ctx payload payloadSize =>
    { s with net := (s.net.payloadRetain ctx payload payloadSize).2 }
  | .payloadRelease ctx payload payloadSize =>
    { s with net := s.net.payloadRelease ctx payload payloadSize }

def run (s : NetSystem κ) (inputs : List (NetInput κ)) : NetSystem κ := Machine.run step s inputs

theorem pushEvent_eq (s : NetSystem κ) (event : NetIngressEvent (NetPtr κ)) :
    (s.pushEvent event).1 = (s.net.pushEvent event).1 ∧
      (s.pushEvent event).2.net = (s.net.pushEvent event).2 ∧
      (s.pushEvent event).2.wifiOwes = s.wifiOwes ∧ (s.pushEvent event).2.mqtt = s.mqtt := by
  unfold pushEvent
  cases hedge : event.kind.edge with
  | none => exact ⟨rfl, rfl, rfl, rfl⟩
  | some edge =>
    refine ⟨rfl, ?_⟩
    simp only
    split
    · exact ⟨rfl, rfl, rfl⟩
    · exact ⟨rfl, rfl, rfl⟩

/-- The WiFi handler that nothing interrupts is the function of the source. -/
theorem wifi_uninterrupted {s : NetSystem κ} (hidle : s.wifiOwes = []) (event : WifiEvent) :
    (s.run [.wifi event, .wifiStep, .wifiStep]).net = s.net.wifiEventHandler event := by
  have hpushed : ∀ (t : NetSystem κ) (kind : NetEventKind), t.wifiOwes = [kind] →
      t.wifiStep.wifiStep.net = t.net.pushKind kind := by
    intro t kind howes
    obtain ⟨_, hnet, hrest, _⟩ := pushEvent_eq { t with wifiOwes := [] } { kind := kind }
    have hstep : t.wifiStep = ({ t with wifiOwes := [] }.pushEvent { kind := kind }).2 := by
      rw [wifiStep, howes]
    rw [hstep, wifiStep, hrest]
    exact hnet
  have hidle' : s.wifiOwes.isEmpty = true := List.isEmpty_iff.mpr hidle
  change ((if s.wifiOwes.isEmpty then s.wifiEvent event else s).wifiStep.wifiStep).net = _
  rw [if_pos hidle']
  cases event with
  | gotIp =>
    cases hnoted : s.net.noteWifiUp.1 with
    | false => simp [wifiEvent, wifiStep, NetAdapter.wifiEventHandler, hnoted]
    | true =>
      rw [hpushed _ .wifiUp (by simp [wifiEvent, hnoted])]
      simp [wifiEvent, NetAdapter.wifiEventHandler, hnoted]
  | disconnected nowUs =>
    cases hmqtt : (s.net.noteWifiDown nowUs).1.pushMqttDown with
    | false =>
      cases hwifi : (s.net.noteWifiDown nowUs).1.pushWifiDown with
      | false => simp [wifiEvent, wifiStep, NetAdapter.wifiEventHandler, hmqtt, hwifi]
      | true =>
        rw [hpushed _ .wifiDown (by simp [wifiEvent, hmqtt, hwifi])]
        simp [wifiEvent, NetAdapter.wifiEventHandler, hmqtt, hwifi]
    | true =>
      cases hwifi : (s.net.noteWifiDown nowUs).1.pushWifiDown with
      | false =>
        rw [hpushed _ .mqttDown (by simp [wifiEvent, hmqtt, hwifi])]
        simp [wifiEvent, NetAdapter.wifiEventHandler, hmqtt, hwifi]
      | true =>
        have howes : (s.wifiEvent (.disconnected nowUs)).wifiOwes = [.mqttDown, .wifiDown] := by
          simp [wifiEvent, hmqtt, hwifi]
        have hfirst := pushEvent_eq
          { s.wifiEvent (.disconnected nowUs) with wifiOwes := [.wifiDown] } { kind := .mqttDown }
        have hsecond := pushEvent_eq
          { ({ s.wifiEvent (.disconnected nowUs) with wifiOwes := [.wifiDown] }.pushEvent
            { kind := .mqttDown }).2 with wifiOwes := [] } { kind := .wifiDown }
        rw [wifiStep, wifiStep, howes]
        simp only
        rw [hfirst.2.2.1]
        simp only
        rw [hsecond.2.1, hfirst.2.1]
        simp [wifiEvent, NetAdapter.wifiEventHandler, NetAdapter.pushKind, hmqtt, hwifi]

/-- The copy into an acquired slot and the push of its lease. -/
theorem lease_uninterrupted {t : NetSystem κ} {index : NetSlotIndex} {data : MqttData}
    (htask : t.mqtt = .fill index data) :
    t.mqttStep.mqttStep.mqttStep.net =
      let net := t.net.fillSlot index data
      let pushed := net.pushEvent (net.leaseEvent index)
      if pushed.1 ≠ .ok then pushed.2.releaseSlot index
      else pushed.2.recordMqttRxSuccess (UInt32.ofNat data.payloadLen.toNat) true := by
  let filled : NetSystem κ :=
    { t with net := t.net.fillSlot index data, mqtt := .pushLease index data }
  obtain ⟨hresult, hnet, _, _⟩ := pushEvent_eq filled (filled.net.leaseEvent index)
  have hfirst : t.mqttStep = filled := by rw [mqttStep, htask]
  rw [hfirst]
  simp only
  change _ = if (filled.net.pushEvent (filled.net.leaseEvent index)).1 ≠ .ok then
    (filled.net.pushEvent (filled.net.leaseEvent index)).2.releaseSlot index
    else (filled.net.pushEvent (filled.net.leaseEvent index)).2.recordMqttRxSuccess _ true
  rw [← hresult, ← hnet]
  cases hrc : (filled.pushEvent (filled.net.leaseEvent index)).1 with
  | ok => simp [filled, mqttStep, hrc]
  | _ => simp [filled, mqttStep, hrc]

/-- The MQTT handler that nothing interrupts is the function of the source. -/
theorem mqtt_uninterrupted {s : NetSystem κ} (hidle : s.mqtt = .idle) (event : MqttEvent) :
    (s.run [.mqtt event, .mqttStep, .mqttStep, .mqttStep]).net = s.net.mqttEventHandler event := by
  have hrest : ∀ t : NetSystem κ, t.mqtt = .idle → t.mqttStep = t := by
    intro t hidle
    rw [mqttStep, hidle]
  have hnoted : ∀ (noted : Bool × NetAdapter κ) (kind : NetEventKind),
      (s.mqttNoted noted kind).mqttStep.mqttStep.mqttStep.net =
        if noted.1 then noted.2.pushKind kind else noted.2 := by
    intro noted kind
    cases hnoted : noted.1 with
    | false =>
      have hstay : (s.mqttNoted noted kind).mqtt = .idle := by simp [mqttNoted, hnoted]
      rw [hrest _ hstay, hrest _ hstay, hrest _ hstay]
      rfl
    | true =>
      have hpush : (s.mqttNoted noted kind).mqttStep =
          ({ s.mqttNoted noted kind with mqtt := .idle }.pushEvent { kind := kind }).2 := by
        simp [mqttStep, mqttNoted, hnoted]
      have hpushed := pushEvent_eq { s.mqttNoted noted kind with mqtt := .idle } { kind := kind }
      rw [hpush, hrest _ hpushed.2.2.2, hrest _ hpushed.2.2.2, hpushed.2.1]
      rfl
  change ((match s.mqtt with
    | .idle => s.mqttEvent event
    | _ => s).mqttStep.mqttStep.mqttStep).net = _
  rw [hidle]
  cases event with
  | connected => exact hnoted s.net.noteMqttUp .mqttUp
  | disconnected => exact hnoted s.net.noteMqttDown .mqttDown
  | error => exact hnoted s.net.noteMqttDown .mqttDown
  | data data =>
    change (s.mqttData data).mqttStep.mqttStep.mqttStep.net = s.net.pushMqttData data
    have hrecord : ∀ (t : NetSystem κ) (payloadLen : UInt32) (leased : Bool),
        t.mqtt = .record payloadLen leased →
        t.mqttStep.mqtt = .idle ∧ t.mqttStep.net = t.net.recordMqttRxSuccess payloadLen leased := by
      intro t payloadLen leased htask
      rw [mqttStep, htask]
      exact ⟨rfl, rfl⟩
    unfold mqttData NetAdapter.pushMqttData
    split
    · rw [hrest s hidle, hrest s hidle, hrest s hidle]
    · split
      · obtain ⟨hresult, hnet, _, _⟩ := pushEvent_eq s data.inlineEvent
        simp only [hresult]
        split
        · have htask := hrecord { (s.pushEvent data.inlineEvent).2 with
            mqtt := .record (UInt32.ofNat data.payloadLen.toNat) false } _ _ rfl
          rw [hrest _ htask.1, hrest _ htask.1, htask.2, ← hnet]
        · rw [hrest _ rfl, hrest _ rfl, hrest _ rfl]
          exact hnet
      · split
        · have hoversize := hrest { s with net := s.net.countOversize } hidle
          rw [hoversize, hoversize, hoversize]
        · cases hslot : s.net.payloadAcquire.1 with
          | none =>
            simp only [hslot, Option.elim]
            rw [hrest _ rfl, hrest _ rfl, hrest _ rfl]
          | some index =>
            simp only [hslot, Option.elim]
            exact lease_uninterrupted rfl

/-- The stop that nothing interrupts is the function of the source. -/
theorem stop_uninterrupted {s : NetSystem κ} (hidle : s.control = .idle) :
    (s.run [.stop, .controlStep, .controlStep, .controlStep, .controlStep, .controlStep]).net =
      s.net.stopFn := by
  have hrest : ∀ t : NetSystem κ, t.control = .idle → t.controlStep = t := by
    intro t hidle
    rw [controlStep, hidle]
  have hwifi : ∀ t : NetSystem κ, t.control = .readWifi →
      t.controlStep.controlStep.controlStep.control = .idle ∧
        t.controlStep.controlStep.controlStep.net =
          if t.net.snapshotState.1.wifiStarted then
            (t.net.snapshotState.2.setWifiStarted false).clearWifiConnected
          else t.net.snapshotState.2 := by
    intro t hread
    cases hstarted : t.net.snapshotState.1.wifiStarted with
    | false => simp [controlStep, hread, hstarted]
    | true => simp [controlStep, hread, hstarted]
  change ((match s.control with
    | .idle => s.stop
    | _ => s).controlStep.controlStep.controlStep.controlStep.controlStep).net = _
  rw [hidle]
  simp only
  unfold NetAdapter.stopFn
  cases hmqtt : s.net.snapshotState.1.mqttClient && s.net.snapshotState.1.mqttStarted with
  | false =>
    have hread : s.stop.control = .readWifi := by simp [stop, hmqtt]
    obtain ⟨hdone, hnet⟩ := hwifi s.stop hread
    rw [hrest _ hdone, hrest _ hdone, hnet]
    simp [stop, hmqtt]
  | true =>
    have hclear : s.stop.control = .clearMqttStarted := by simp [stop, hmqtt]
    have hnote : s.stop.controlStep =
        { s.stop with net := s.stop.net.setMqttStarted false, control := .noteMqttDown } := by
      rw [controlStep, hclear]
    have hread : s.stop.controlStep.controlStep.control = .readWifi := by
      rw [hnote, controlStep]
    have hdown : s.stop.controlStep.controlStep.net =
        (s.net.snapshotState.2.setMqttStarted false).noteMqttDown.2 := by
      rw [hnote, controlStep]
      rfl
    rw [(hwifi _ hread).2, hdown]
    simp only [hmqtt, if_true]

end NetSystem

end EventFramework
