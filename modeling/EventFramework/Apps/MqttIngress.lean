import EventFramework.Apps.NetMessages

/-!
# MQTT data from the callbacks to the messages

The callbacks of the MQTT client, the polls of the application and the owners of messages share the
payload slots. Beside the adapter the state keeps the data that was queued, the messages that were
built from it, and what each callback did.
-/

namespace EventFramework
set_option autoImplicit false

variable {κ : Type}

abbrev MqttRecord := List UInt8 × List UInt8

structure DataTally where
  oversize : UInt32 := 0
  noSlot : UInt32 := 0
  events : UInt32 := 0
  queued : UInt32 := 0
  slots : UInt32 := 0
  deriving DecidableEq, Repr

namespace DataTally

def add (a b : DataTally) : DataTally where
  oversize := a.oversize + b.oversize
  noSlot := a.noSlot + b.noSlot
  events := a.events + b.events
  queued := a.queued + b.queued
  slots := a.slots + b.slots

def advance (tally before after : DataTally) : DataTally where
  oversize := tally.oversize + (after.oversize - before.oversize)
  noSlot := tally.noSlot + (after.noSlot - before.noSlot)
  events := tally.events + (after.events - before.events)
  queued := tally.queued + (after.queued - before.queued)
  slots := tally.slots + (after.slots - before.slots)

/-- One drop counted, nothing queued and no slot kept. -/
def Dropped (tally : DataTally) : Prop :=
  tally ∈ [({ oversize := 1 } : DataTally), { noSlot := 1 }, { events := 1 }]

/-- One event queued, in itself or with a slot. -/
def Queued (tally : DataTally) : Prop :=
  tally ∈ [({ queued := 1 } : DataTally), { queued := 1, slots := 1 }]

theorem advance_add (tally before delta : DataTally) :
    tally.advance before (before.add delta) = tally.add delta := by
  have hcancel (a b : UInt32) : a + b - a = b := by
    rw [UInt32.add_comm, UInt32.add_sub_cancel]
  simp only [advance, add, hcancel]

theorem advance_self (tally before : DataTally) : tally.advance before before = tally := by
  simp [advance]

end DataTally

namespace NetAdapter

def tally (net : NetAdapter κ) : DataTally where
  oversize := net.counters.droppedOversize
  noSlot := net.counters.droppedNoPayloadSlot
  events := net.counters.droppedEvents
  queued := net.writeSeq
  slots := net.payloadSlotsInUse

/-- The payload callbacks of the adapter. A pointer that is none of them calls nothing. -/
def callbacks : Callbacks (NetPtr κ) (NetAdapter κ) where
  retain
    | .payloadRetain, ctx, payload, payloadSize, net => net.payloadRetain ctx payload payloadSize
    | _, _, _, _, net => (.ok, net)
  release
    | .payloadRelease, ctx, payload, payloadSize, net => net.payloadRelease ctx payload payloadSize
    | _, _, _, _, net => net

/-- `ev_demo_app_release_net_event_external_payload`. -/
def releaseExternal (event : NetIngressEvent (NetPtr κ)) (net : NetAdapter κ) : NetAdapter κ :=
  let external := event.externalPayload
  match external.releaseFn with
  | none => net
  | some fn =>
    if event.payloadStorage = .lease ∧ external.data.isSome ∧ 0 < external.size then
      callbacks.release fn external.lifecycleCtx external.data external.size net
    else net

end NetAdapter

def MqttTask.isIdle : MqttTask → Bool
  | .idle => true
  | _ => false

/-- More copies of messages than this do not fit into memory. -/
def messageCopyLimit : Nat := 2 ^ 28

/-- The adapter with its tasks, the application and the owners of messages. `call` is the data
callback under way and `calls` those that returned, with what they did; `queued` is the data that was
queued, `built` what the messages built from it carried, and `copies` are the messages and their
copies that are not disposed, each with what it carried when it was built. -/
structure MqttIngress (κ : Type) where
  sys : NetSystem κ
  call : Option (MqttData × DataTally) := none
  calls : List (MqttData × DataTally) := []
  queued : List MqttRecord := []
  polled : Option (NetIngressEvent (NetPtr κ)) := none
  built : List (Option MqttRecord) := []
  copies : List (Msg (NetPtr κ) × Option MqttRecord) := []

inductive MqttIngressInput where
  | wifi (event : WifiEvent)
  | wifiStep
  | mqtt (event : MqttEvent)
  | mqttStep
  | start (wifiStartOk : Bool)
  | stop
  | controlStep
  | poll
  | publish
  | retain (copy : Nat)
  | release (copy : Nat)

namespace MqttIngress

def isMessage (event : NetIngressEvent (NetPtr κ)) : Bool := decide (event.kind = .mqttMsgRx)

def setNet (s : MqttIngress κ) (net : NetAdapter κ) : MqttIngress κ :=
  { s with sys := { s.sys with net := net } }

def link (s : MqttIngress κ) (input : NetInput κ) : MqttIngress κ := { s with sys := s.sys.step input }

/-- A critical section of a data callback, which brought the adapter into the state `sys`. -/
def handled (s : MqttIngress κ) (data : MqttData) (tally : DataTally) (sys : NetSystem κ) :
    MqttIngress κ :=
  let tally := tally.advance s.sys.net.tally sys.net.tally
  { s with
    sys := sys
    queued := if sys.net.writeSeq = s.sys.net.writeSeq then s.queued else s.queued ++ [data.record]
    call := if sys.mqtt.isIdle then none else some (data, tally)
    calls := if sys.mqtt.isIdle then s.calls ++ [(data, tally)] else s.calls }

/-- `ev_demo_app_publish_net_event`, as far as the message. -/
def publishEvent (s : MqttIngress κ) (event : NetIngressEvent (NetPtr κ)) : MqttIngress κ :=
  match DemoApp.netMessage event with
  | none =>
    { s.setNet (s.sys.net.releaseExternal event) with
      built := if isMessage event then s.built ++ [none] else s.built }
  | some msg =>
    let carried := CommandActor.mqttRecord (s.sys.net.inbound msg)
    if isMessage event then
      { s with built := s.built ++ [carried], copies := s.copies ++ [(msg, carried)] }
    else s

/-- A step of one of the tasks, or of an owner of a message. A data callback waits for the one under
way, and the application publishes what it polled before it polls again. -/
def step (s : MqttIngress κ) : MqttIngressInput → MqttIngress κ
  | .wifi event => s.link (.wifi event)
  | .wifiStep => s.link .wifiStep
  | .mqtt event => match event with
    | .data data => if s.sys.mqtt.isIdle then s.handled data {} (s.sys.mqttData data) else s
    | .connected => s.link (.mqtt .connected)
    | .disconnected => s.link (.mqtt .disconnected)
    | .error => s.link (.mqtt .error)
  | .mqttStep => match s.call with
    | none => s.link .mqttStep
    | some (data, tally) => s.handled data tally s.sys.mqttStep
  | .start wifiStartOk => s.link (.start wifiStartOk)
  | .stop => s.link .stop
  | .controlStep => s.link .controlStep
  | .poll =>
    if s.polled.isSome then s
    else { s with sys := s.sys.poll, polled := s.sys.net.pollIngress.2.1 }
  | .publish => match s.polled with
    | none => s
    | some event => { s with polled := none }.publishEvent event
  | .retain copy => match s.copies[copy]? with
    | none => s
    | some held =>
      if s.copies.length < messageCopyLimit then
        let out := held.1.retain NetAdapter.callbacks s.sys.net
        { s.setNet out.2 with copies := if out.1 = .ok then s.copies ++ [held] else s.copies }
      else s
  | .release copy => match s.copies[copy]? with
    | none => s
    | some held =>
      { s.setNet (held.1.dispose NetAdapter.callbacks s.sys.net).2.2 with
        copies := s.copies.eraseIdx copy }

/-- The adapter after its initialisation, with the ring wherever it may stand. -/
def start (brokerUri : Bool) (seq : UInt32) : MqttIngress κ where
  sys := { net := { NetAdapter.initialised brokerUri with writeSeq := seq, readSeq := seq } }

def waiting (s : MqttIngress κ) : List (NetIngressEvent (NetPtr κ)) :=
  s.polled.toList ++ s.sys.net.events

/-- What the message built from an event carries. -/
def eventRecord (net : NetAdapter κ) (event : NetIngressEvent (NetPtr κ)) : Option MqttRecord :=
  (DemoApp.netMessage event).bind fun msg => CommandActor.mqttRecord (net.inbound msg)

def waitingRecords (s : MqttIngress κ) : List (Option MqttRecord) :=
  (s.waiting.filter isMessage).map (eventRecord s.sys.net)

end MqttIngress

namespace NetAdapter

variable {net net' : NetAdapter κ} {c : NetSlotIndex → Nat} {index : NetSlotIndex}

theorem pushEvent_tally (event : NetIngressEvent (NetPtr κ)) (net : NetAdapter κ) :
    (net.pushEvent event).1 = .ok ∧ (net.pushEvent event).2.tally = net.tally.add { queued := 1 } ∨
      (net.pushEvent event).1 ≠ .ok ∧ (net.pushEvent event).2.tally = net.tally.add { events := 1 } := by
  have hadd (a : UInt32) : a + 0 = a := UInt32.add_zero a
  unfold pushEvent recordHighWatermark
  split
  · refine Or.inr ⟨Result.noConfusion, ?_⟩
    simp [tally, DataTally.add, count]
  · refine Or.inl ⟨rfl, ?_⟩
    split <;> simp [tally, DataTally.add, count]

theorem payloadAcquire_tally (net : NetAdapter κ) : net.payloadAcquire.2.tally =
    net.tally.add (if net.payloadAcquire.1 = none then { noSlot := 1 } else { slots := 1 }) := by
  unfold payloadAcquire
  split <;> simp [tally, DataTally.add, count, setSlot]

theorem releaseSlot_tally (h : net.Counts c) (hone : c index = 1) :
    (net.releaseSlot index).tally = net.tally.add { slots := 0 - 1 } := by
  have htotal := (h.releaseSlot (hone ▸ Nat.one_pos)).2.2 hone
  have hsame : (net.releaseSlot index).tally =
      { net.tally with slots := (net.releaseSlot index).payloadSlotsInUse } := by
    unfold releaseSlot dropShare
    split
    · split <;> rfl
    · rfl
  rw [hsame, htotal]
  simp [tally, DataTally.add, UInt32.sub_eq_add_neg]

end NetAdapter

namespace MqttIngress

inductive Genuine : NetIngressEvent (NetPtr κ) → Prop where
  | link {kind : NetEventKind} (hkind : kind.edge.isSome = true) : Genuine { kind := kind }
  | inline {data : MqttData} (hvalid : data.isValid = true) (hfits : data.fitsInline = true) :
    Genuine data.inlineEvent
  | lease (index : NetSlotIndex) (topicLen payloadLen : UInt8) :
    Genuine {
      kind := .mqttMsgRx
      payloadStorage := .lease
      topicLen := topicLen
      payloadLen := payloadLen
      externalPayload := NetAdapter.payloadMakeLease index }

inductive Form : Msg (NetPtr κ) → Prop where
  | inline (bytes : List UInt8) : Form (DemoApp.inlineMessage bytes)
  | lease (index : NetSlotIndex) : Form (DemoApp.leaseMessage index)

variable {s t : MqttIngress κ} {net net' : NetAdapter κ}

theorem Form.inbound_eq {msg : Msg (NetPtr κ)} (h : Form msg)
    (hkeeps : ∀ index, msg.external.netSlot = some index →
      (net'.payloadSlots index).payload = (net.payloadSlots index).payload) :
    net'.inbound msg = net.inbound msg := by
  cases h with
  | inline bytes => rfl
  | lease index =>
    have hsame := hkeeps index rfl
    unfold NetAdapter.inbound
    simp only [DemoApp.leaseMessage, NetAdapter.payloadMakeLease]
    rw [hsame]

theorem Genuine.message {event : NetIngressEvent (NetPtr κ)} (h : Genuine event)
    (hmessage : isMessage event = true) : ∃ msg, DemoApp.netMessage event = some msg ∧ Form msg ∧
      msg.external.netSlot = event.externalPayload.netSlot := by
  cases h with
  | @link kind hkind =>
    have hdata : kind = .mqttMsgRx := of_decide_eq_true hmessage
    rw [hdata] at hkind
    cases hkind
  | inline hvalid hfits =>
    obtain ⟨bytes, hbuilt, -⟩ := NetAdapter.inline_record hvalid hfits ({} : NetAdapter κ)
    exact ⟨_, hbuilt, .inline bytes, rfl⟩
  | lease index topicLen payloadLen =>
    exact ⟨_, DemoApp.netMessage_lease rfl rfl rfl, .lease index, rfl⟩

theorem Genuine.eventRecord_eq {event : NetIngressEvent (NetPtr κ)} (h : Genuine event)
    (hmessage : isMessage event = true) (hkeeps : ∀ index, event.externalPayload.netSlot = some index →
      (net'.payloadSlots index).payload = (net.payloadSlots index).payload) :
    eventRecord net' event = eventRecord net event := by
  obtain ⟨msg, hbuilt, hform, hslot⟩ := h.message hmessage
  unfold eventRecord
  rw [hbuilt, Option.bind_some, Option.bind_some, hform.inbound_eq (hslot ▸ hkeeps)]

theorem Genuine.link_slot {event : NetIngressEvent (NetPtr κ)} (h : Genuine event)
    (hlink : isMessage event = false) :
    event.externalPayload.netSlot = none ∧ ∃ msg, DemoApp.netMessage event = some msg := by
  cases h with
  | @link kind hkind =>
    refine ⟨rfl, ?_⟩
    cases kind with
    | none | mqttMsgRx => cases hkind
    | wifiUp | wifiDown | mqttUp | mqttDown => exact ⟨_, rfl⟩
  | inline | lease => cases hlink

/-- What an owner of a message does to the slots: one share more, and one less. -/
theorem Form.retain_eq {msg : Msg (NetPtr κ)} (h : Form msg) (net : NetAdapter κ) :
    msg.retain NetAdapter.callbacks net =
      msg.external.netSlot.elim (.ok, net) fun index => net.retainSlot index := by
  cases h with
  | inline bytes => rfl
  | lease index =>
    have hcookie : (DemoApp.leaseMessage (κ := κ) index).hasCookie = true := rfl
    obtain ⟨info, hinfo, hkind⟩ : ∃ info, eventMeta .netMqttMsgRxLease = some info ∧
        info.payloadKind = .lease := ⟨_, rfl, rfl⟩
    have hevent : (DemoApp.leaseMessage (κ := κ) index).eventId = .netMqttMsgRxLease := rfl
    unfold Msg.retain
    rw [hcookie, hevent, hinfo]
    simp only [hkind]
    change NetAdapter.payloadRetain (some (.slot index)) (some (.slotPayload index)) netMqttRxPayloadSize
      net = net.retainSlot index
    simp [NetAdapter.payloadRetain, NetAdapter.checkedSlot]

theorem Form.dispose_eq {msg : Msg (NetPtr κ)} (h : Form msg) (net : NetAdapter κ) :
    (msg.dispose NetAdapter.callbacks net).2.2 =
      msg.external.netSlot.elim net fun index => net.releaseSlot index := by
  have hlive (m : Msg (NetPtr κ)) (hcookie : m.cookie = msgCookie) (hflags : m.flags = 0) :
      (m.dispose NetAdapter.callbacks net).2.2 = m.releasePayload NetAdapter.callbacks net :=
    Msg.dispose_live _ (by simp [Msg.hasCookie, hcookie]) (by simp [Msg.isDisposed, hflags]) net
  cases h with
  | inline bytes => exact hlive _ rfl rfl
  | lease index =>
    rw [hlive _ rfl rfl]
    change NetAdapter.payloadRelease (some (.slot index)) (some (.slotPayload index))
      netMqttRxPayloadSize net = net.releaseSlot index
    simp [NetAdapter.payloadRelease, NetAdapter.checkedSlot]

def slotsOf (events : List (NetIngressEvent (NetPtr κ)))
    (copies : List (Msg (NetPtr κ) × Option MqttRecord)) : List (Option NetSlotIndex) :=
  events.map (fun event => event.externalPayload.netSlot) ++
    copies.map fun copy => copy.1.external.netSlot

def others (s : MqttIngress κ) : List (Option NetSlotIndex) := slotsOf s.waiting s.copies

/-- The shares of the slots: those of the waiting events, of the copies and of the MQTT handler. -/
def shares (s : MqttIngress κ) (index : NetSlotIndex) : Nat :=
  (s.others ++ [s.sys.mqtt.slot]).count (some index)

/-- Where the handler stands, and what the callback under way did. While the handler has a slot it
has it alone. -/
inductive Working (s : MqttIngress κ) : MqttTask → Option (MqttData × DataTally) → Prop where
  | idle : Working s .idle none
  | pushKind (kind : NetEventKind) : Working s (.pushKind kind) none
  | fill {index : NetSlotIndex} {data : MqttData} (hvalid : data.isValid = true)
    (hfits : data.fitsStorage = true) (hfresh : (s.sys.net.payloadSlots index).payload = {})
    (hsole : some index ∉ s.others) : Working s (.fill index data) (some (data, { slots := 1 }))
  | pushLease {index : NetSlotIndex} {data : MqttData} (hvalid : data.isValid = true)
    (hfits : data.fitsStorage = true)
    (hfilled : (s.sys.net.payloadSlots index).payload = data.fill {})
    (hsole : some index ∉ s.others) : Working s (.pushLease index data) (some (data, { slots := 1 }))
  | releaseSlot {index : NetSlotIndex} {data : MqttData} (hvalid : data.isValid = true)
    (hsole : some index ∉ s.others) :
    Working s (.releaseSlot index) (some (data, { events := 1, slots := 1 }))
  | record {data : MqttData} (hvalid : data.isValid = true) (payloadLen : UInt32) (leased : Bool) :
    Working s (.record payloadLen leased)
      (some (data, { queued := 1, slots := if leased then 1 else 0 }))

/-- Data without a payload behind a positive length, or with a negative length, or without a topic is
ignored; all else is dropped or queued. -/
def Accounted (call : MqttData × DataTally) : Prop :=
  if call.1.isValid then call.2.Dropped ∨ call.2.Queued else call.2 = {}

structure Inv (s : MqttIngress κ) : Prop where
  sys : s.sys.Inv
  counts : s.sys.net.Counts s.shares
  genuine : ∀ event ∈ s.waiting, Genuine event
  forms : ∀ copy ∈ s.copies, Form copy.1
  order : s.queued.map some = s.built ++ s.waitingRecords
  carried : ∀ copy ∈ s.copies, copy.2.isSome = true ∧
    CommandActor.mqttRecord (s.sys.net.inbound copy.1) = copy.2
  working : Working s s.sys.mqtt s.call
  calls : ∀ call ∈ s.calls, Accounted call

theorem shares_pos {index : NetSlotIndex} (h : some index ∈ s.others) : 0 < s.shares index :=
  List.count_pos_iff.mpr (List.mem_append_left _ h)

/-- Slots that keep what waiting events and copies hold keep what these carry. -/
theorem Inv.records_keep (h : s.Inv) (net' : NetAdapter κ) {copies : List (Msg (NetPtr κ) × Option MqttRecord)}
    (hcopies : ∀ copy ∈ copies, copy ∈ s.copies)
    (hkeeps : ∀ index, some index ∈ slotsOf s.waiting copies →
      (net'.payloadSlots index).payload = (s.sys.net.payloadSlots index).payload) :
    (s.waiting.filter isMessage).map (eventRecord net') = s.waitingRecords ∧
      ∀ copy ∈ copies, copy.2.isSome = true ∧
        CommandActor.mqttRecord (net'.inbound copy.1) = copy.2 := by
  constructor
  · apply List.map_congr_left
    intro event hevent
    obtain ⟨hwaiting, hmessage⟩ := List.mem_filter.mp hevent
    refine (h.genuine event hwaiting).eventRecord_eq hmessage fun index hslot => hkeeps index ?_
    rw [← hslot]
    exact List.mem_append_left _
      (List.mem_map_of_mem (f := fun event => event.externalPayload.netSlot) hwaiting)
  · intro copy hcopy
    obtain ⟨hsome, hcarried⟩ := h.carried copy (hcopies copy hcopy)
    refine ⟨hsome, ?_⟩
    rw [← hcarried]
    refine congrArg CommandActor.mqttRecord
      ((h.forms copy (hcopies copy hcopy)).inbound_eq fun index hslot => hkeeps index ?_)
    rw [← hslot]
    exact List.mem_append_right _
      (List.mem_map_of_mem (f := fun copy => copy.1.external.netSlot) hcopy)

theorem Working.congr {task : MqttTask} {call : Option (MqttData × DataTally)}
    (h : Working s task call)
    (hkeeps : ∀ index, task.slot = some index →
      (t.sys.net.payloadSlots index).payload = (s.sys.net.payloadSlots index).payload)
    (hothers : ∀ index, some index ∈ t.others → some index ∈ s.others) : Working t task call := by
  cases h with
  | idle => exact .idle
  | pushKind kind => exact .pushKind kind
  | fill hvalid hfits hfresh hsole =>
    exact .fill hvalid hfits ((hkeeps _ rfl).trans hfresh) fun hmem => hsole (hothers _ hmem)
  | pushLease hvalid hfits hfilled hsole =>
    exact .pushLease hvalid hfits ((hkeeps _ rfl).trans hfilled) fun hmem => hsole (hothers _ hmem)
  | releaseSlot hvalid hsole => exact .releaseSlot hvalid fun hmem => hsole (hothers _ hmem)
  | record hvalid payloadLen leased => exact .record hvalid payloadLen leased

theorem Working.noData {task : MqttTask} (hdata : task.NoData)
    {call : Option (MqttData × DataTally)} (h : Working s task call) : call = none := by
  cases h with
  | idle | pushKind _ => rfl
  | fill | pushLease | releaseSlot | record => exact hdata.elim

theorem working_noData {task : MqttTask} (hdata : task.NoData) : Working s task none := by
  cases task with
  | idle => exact .idle
  | pushKind kind => exact .pushKind kind
  | fill _ _ | pushLease _ _ | releaseSlot _ | record _ _ => exact hdata.elim

/-- The step of a link: events of links join those that wait. -/
theorem Inv.link (h : s.Inv) (input : NetInput κ) (hlink : s.sys.IsLink input) :
    (s.link input).Inv := by
  obtain ⟨hslots, htask, kinds, hkinds, hevents⟩ := NetSystem.linksOnly_step h.sys hlink
  let added : List (NetIngressEvent (NetPtr κ)) := kinds.map fun kind => { kind := kind }
  have hadded : ∀ event ∈ added, isMessage event = false := by
    intro event hevent
    obtain ⟨kind, hkind, rfl⟩ := List.mem_map.mp hevent
    apply decide_eq_false
    rintro rfl
    cases hkinds _ hkind
  have hwaiting : (s.link input).waiting = s.waiting ++ added := by
    simp only [waiting, MqttIngress.link, hevents, List.append_assoc, added]
  have hslot : (s.link input).sys.mqtt.slot = s.sys.mqtt.slot := by
    rcases htask with hsame | ⟨hbefore, hafter⟩
    · exact congrArg MqttTask.slot hsame
    · exact hafter.slot_eq.trans hbefore.slot_eq.symm
  have hnone (index : NetSlotIndex) :
      some index ∉ added.map fun event => event.externalPayload.netSlot := by
    intro hmem
    obtain ⟨event, hevent, hsome⟩ := List.mem_map.mp hmem
    obtain ⟨kind, -, rfl⟩ := List.mem_map.mp hevent
    cases hsome
  have hothers (index : NetSlotIndex) :
      (s.link input).others.count (some index) = s.others.count (some index) := by
    unfold others slotsOf
    rw [hwaiting, List.map_append, List.count_append, List.count_append, List.count_append,
      List.count_eq_zero.mpr (hnone index)]
    rfl
  have hshares : (s.link input).shares = s.shares := by
    funext index
    unfold shares
    rw [List.count_append, List.count_append, hothers, hslot]
  have hmem (index : NetSlotIndex) (h : some index ∈ (s.link input).others) : some index ∈ s.others := by
    rw [← List.count_pos_iff] at h ⊢
    rwa [← hothers]
  obtain ⟨hwaits, hcarried⟩ := h.records_keep (s.link input).sys.net
      (fun _ hcopy => hcopy) fun index _ => by
    rw [show (s.link input).sys.net.payloadSlots = s.sys.net.payloadSlots from hslots.payloadSlots]
  refine ⟨h.sys.step input, ?_, ?_, h.forms, ?_, ?_, ?_, h.calls⟩
  · rw [hshares]
    exact h.counts.same hslots
  · rw [hwaiting]
    intro event hevent
    rcases List.mem_append.mp hevent with hbefore | hnew
    · exact h.genuine event hbefore
    · obtain ⟨kind, hkind, rfl⟩ := List.mem_map.mp hnew
      exact .link (hkinds kind hkind)
  · have hfilter : added.filter isMessage = [] := List.filter_eq_nil_iff.mpr fun event hevent => by
      rw [hadded event hevent]
      exact Bool.false_ne_true
    unfold waitingRecords
    rw [hwaiting, List.filter_append, hfilter, List.append_nil, hwaits]
    exact h.order
  · exact hcarried
  · rcases htask with hsame | ⟨hbefore, hafter⟩
    · have hworking := h.working.congr (t := s.link input) (fun index _ => by
        rw [show (s.link input).sys.net.payloadSlots = s.sys.net.payloadSlots from
          hslots.payloadSlots]) hmem
      rw [← hsame] at hworking
      exact hworking
    · have hcall : s.call = none := h.working.noData hbefore
      change Working _ _ s.call
      rw [hcall]
      exact working_noData hafter

/-- A step after which the same events wait and no new copy is held: it is enough that the slots
still held keep their data. -/
theorem Inv.of_keeps (h : s.Inv) (hsys : t.sys.Inv) (hwaiting : t.waiting = s.waiting)
    (hcopies : ∀ copy ∈ t.copies, copy ∈ s.copies) (hqueued : t.queued = s.queued)
    (hbuilt : t.built = s.built) (hcounts : t.sys.net.Counts t.shares)
    (hkeeps : ∀ index, some index ∈ t.others →
      (t.sys.net.payloadSlots index).payload = (s.sys.net.payloadSlots index).payload)
    (hworking : Working t t.sys.mqtt t.call) (hcalls : ∀ call ∈ t.calls, Accounted call) : t.Inv := by
  obtain ⟨hwaits, hcarried⟩ := h.records_keep t.sys.net hcopies fun index hmem => by
    refine hkeeps index ?_
    rw [others, hwaiting]
    exact hmem
  refine ⟨hsys, hcounts, ?_, ?_, ?_, hcarried, hworking, hcalls⟩
  · rw [hwaiting]
    exact h.genuine
  · exact fun copy hcopy => h.forms copy (hcopies copy hcopy)
  · unfold waitingRecords
    rw [hqueued, hbuilt, hwaiting, hwaits]
    exact h.order

theorem shares_eq (s : MqttIngress κ) (index : NetSlotIndex) :
    s.shares index = s.others.count (some index) + [s.sys.mqtt.slot].count (some index) :=
  List.count_append

theorem Inv.handler (h : s.Inv) (hsys : t.sys.Inv) (hwaiting : t.waiting = s.waiting)
    (hcopies : t.copies = s.copies) (hqueued : t.queued = s.queued) (hbuilt : t.built = s.built)
    {c : NetSlotIndex → Nat} (hcounts : t.sys.net.Counts c)
    (hc : ∀ index, c index = s.others.count (some index) + [t.sys.mqtt.slot].count (some index))
    (hkeeps : ∀ index, some index ∈ s.others →
      (t.sys.net.payloadSlots index).payload = (s.sys.net.payloadSlots index).payload)
    (hworking : t.others = s.others → Working t t.sys.mqtt t.call)
    (hcalls : ∀ call ∈ t.calls, Accounted call) : t.Inv := by
  have hothers : t.others = s.others := by
    unfold others
    rw [hwaiting, hcopies]
  have hshares : t.shares = c := by
    funext index
    rw [shares_eq, hothers, hc]
  refine h.of_keeps hsys hwaiting (fun copy hcopy => hcopies ▸ hcopy) hqueued hbuilt (hshares ▸ hcounts)
    (fun index hmem => hkeeps index (hothers ▸ hmem)) (hworking hothers) hcalls

theorem Inv.quiet (h : s.Inv) (hsys : t.sys.Inv) (hslots : s.sys.net.SameSlots t.sys.net)
    (hwaiting : t.waiting = s.waiting) (hcopies : t.copies = s.copies)
    (hqueued : t.queued = s.queued) (hbuilt : t.built = s.built)
    (hslot : t.sys.mqtt.slot = s.sys.mqtt.slot)
    (hworking : t.others = s.others → Working t t.sys.mqtt t.call)
    (hcalls : ∀ call ∈ t.calls, Accounted call) : t.Inv :=
  h.handler hsys hwaiting hcopies hqueued hbuilt (h.counts.same hslots)
    (fun index => by rw [hslot, shares_eq]) (fun index _ => by rw [hslots.payloadSlots]) hworking hcalls

theorem Inv.poll (h : s.Inv) : (s.step .poll).Inv := by
  simp only [MqttIngress.step]
  split
  · exact h
  · rename_i hpolled
    have hnone : s.polled = none := by simpa using hpolled
    have hevents := s.sys.net.pollIngress_cases.2.2
    have hslots : s.sys.net.SameSlots s.sys.poll.net := by
      simp only [NetSystem.poll, NetAdapter.pollIngress]
      split <;> exact ⟨rfl, rfl⟩
    have hwaiting : ({ s with sys := s.sys.poll, polled := s.sys.net.pollIngress.2.1 } :
        MqttIngress κ).waiting = s.waiting := by
      simp only [waiting, hnone, hevents]
      rfl
    refine h.quiet h.sys.poll hslots hwaiting rfl rfl rfl rfl (fun hothers => ?_) h.calls
    refine h.working.congr (fun index _ => ?_) fun index hmem => hothers ▸ hmem
    exact congrArg (fun slots => (slots index).payload) hslots.payloadSlots

theorem Inv.waiting_isSome (h : s.Inv) {record : Option MqttRecord} (hmem : record ∈ s.waitingRecords) :
    record.isSome = true := by
  have hqueued : record ∈ s.queued.map some := by
    rw [h.order]
    exact List.mem_append_right _ hmem
  obtain ⟨data, -, rfl⟩ := List.mem_map.mp hqueued
  rfl

/-- A slot that one owner hands to another. -/
theorem Inv.moved (h : s.Inv) (hsys : t.sys = s.sys)
    (hcount : ∀ index, t.others.count (some index) = s.others.count (some index))
    (hgenuine : ∀ event ∈ t.waiting, event ∈ s.waiting) (hforms : ∀ copy ∈ t.copies, Form copy.1)
    (horder : t.queued.map some = t.built ++ t.waitingRecords)
    (hcarried : ∀ copy ∈ t.copies, copy.2.isSome = true ∧
      CommandActor.mqttRecord (s.sys.net.inbound copy.1) = copy.2)
    (hcall : t.call = s.call) (hcalls : t.calls = s.calls) : t.Inv := by
  have hshares : t.shares = s.shares := by
    funext index
    unfold shares
    rw [List.count_append, List.count_append, hcount, hsys]
  refine ⟨hsys ▸ h.sys, ?_, ?_, hforms, horder, ?_, ?_, ?_⟩
  · rw [hshares, hsys]
    exact h.counts
  · exact fun event hevent => h.genuine event (hgenuine event hevent)
  · rw [hsys]
    exact hcarried
  · rw [hsys, hcall]
    refine h.working.congr (fun index _ => by rw [hsys]) fun index hmem => ?_
    rw [← List.count_pos_iff] at hmem ⊢
    rwa [← hcount]
  · rw [hcalls]
    exact h.calls

theorem Inv.publish (h : s.Inv) : (s.step .publish).Inv := by
  simp only [MqttIngress.step]
  cases hpolled : s.polled with
  | none => exact h
  | some event =>
    have hwaiting : s.waiting = event :: s.sys.net.events := by
      simp only [waiting, hpolled]
      rfl
    have hothers : s.others = event.externalPayload.netSlot ::
        (s.sys.net.events.map (fun event => event.externalPayload.netSlot) ++
          s.copies.map fun copy => copy.1.external.netSlot) := by
      unfold others
      rw [hwaiting]
      rfl
    have hgenuine : Genuine event := h.genuine event (hwaiting ▸ List.mem_cons_self)
    have hmem : ∀ other ∈ s.sys.net.events, other ∈ s.waiting := by
      intro other hother
      rw [hwaiting]
      exact List.mem_cons_of_mem _ hother
    cases hmessage : isMessage event with
    | false =>
      obtain ⟨hslot, msg, hbuilt⟩ := hgenuine.link_slot hmessage
      have hstep : ({ s with polled := none } : MqttIngress κ).publishEvent event =
          { s with polled := none } := by
        simp [publishEvent, hbuilt, hmessage]
      simp only [hstep]
      refine h.moved rfl ?_ hmem h.forms ?_ h.carried rfl rfl
      · intro index
        rw [hothers, hslot, List.count_cons_of_ne (Option.some_ne_none index).symm]
        rfl
      · have horder := h.order
        unfold waitingRecords at horder
        rw [hwaiting, List.filter_cons_of_neg (by rw [hmessage]; exact Bool.false_ne_true)] at horder
        exact horder
    | true =>
      obtain ⟨msg, hbuilt, hform, hslot⟩ := hgenuine.message hmessage
      have hrecord : eventRecord s.sys.net event = CommandActor.mqttRecord (s.sys.net.inbound msg) := by
        unfold eventRecord
        rw [hbuilt, Option.bind_some]
      have hwaits : s.waitingRecords = eventRecord s.sys.net event ::
          (s.sys.net.events.filter isMessage).map (eventRecord s.sys.net) := by
        unfold waitingRecords
        rw [hwaiting, List.filter_cons_of_pos hmessage, List.map_cons]
      have hsome := h.waiting_isSome (hwaits ▸ List.mem_cons_self)
      simp only [publishEvent, hbuilt, hmessage, if_true]
      refine h.moved rfl ?_ hmem ?_ ?_ ?_ rfl rfl
      · intro index
        rw [hothers, ← hslot]
        simp only [others, slotsOf, waiting, Option.toList_none, List.nil_append, List.map_append,
          List.count_append, List.count_cons, List.map_cons, List.map_nil, List.count_nil]
        omega
      · intro copy hcopy
        rcases List.mem_append.mp hcopy with hold | hnew
        · exact h.forms copy hold
        · rw [List.mem_singleton.mp hnew]
          exact hform
      · have horder := h.order
        rw [hwaits, hrecord] at horder
        rw [horder, List.append_assoc]
        rfl
      · intro copy hcopy
        rcases List.mem_append.mp hcopy with hold | hnew
        · exact h.carried copy hold
        · rw [List.mem_singleton.mp hnew]
          exact ⟨hrecord ▸ hsome, rfl⟩

theorem Inv.shares_lt (h : s.Inv) (hroom : s.copies.length < messageCopyLimit)
    (index : NetSlotIndex) : s.shares index + 1 < 2 ^ 32 := by
  have hevents : s.sys.net.events.length ≤ 16 := by
    rw [NetAdapter.events, SeqRing.entries_length]
    exact h.sys.count_le
  have hpolled : s.polled.toList.length ≤ 1 := by cases s.polled <;> simp
  have hlength : (s.others ++ [s.sys.mqtt.slot]).length ≤ 18 + s.copies.length := by
    simp only [others, slotsOf, waiting, List.length_append, List.length_map, List.length_singleton]
    omega
  have hcount := (List.count_le_length (a := some index)).trans hlength
  have hlimit : messageCopyLimit = 2 ^ 28 := rfl
  change (s.others ++ [s.sys.mqtt.slot]).count (some index) + 1 < 2 ^ 32
  omega

/-- A step that changes the shares of copies: the slots that are still held keep their data. -/
theorem Inv.reshared (h : s.Inv) {copies : List (Msg (NetPtr κ) × Option MqttRecord)}
    (ht : { s.setNet net with copies := copies } = t) (hsys : s.sys.net.SameLinks net)
    (hcopies : ∀ copy ∈ copies, copy ∈ s.copies) (hcounts : net.Counts t.shares)
    (hkeeps : s.sys.net.KeepsPayload net t.shares) : t.Inv := by
  subst ht
  have hwaiting : ({ s.setNet net with copies := copies } : MqttIngress κ).waiting = s.waiting := by
    simp only [waiting, setNet, hsys.events]
  have hothers (index : NetSlotIndex)
      (hmem : some index ∈ ({ s.setNet net with copies := copies } : MqttIngress κ).others) :
      some index ∈ s.others := by
    unfold others at hmem ⊢
    rw [hwaiting] at hmem
    rcases List.mem_append.mp hmem with hevent | hcopy
    · exact List.mem_append_left _ hevent
    · obtain ⟨copy, hcopy, hslot⟩ := List.mem_map.mp hcopy
      exact List.mem_append_right _ (List.mem_map.mpr ⟨copy, hcopies copy hcopy, hslot⟩)
  refine h.of_keeps (h.sys.same hsys rfl rfl rfl rfl rfl) hwaiting hcopies rfl rfl hcounts
    (fun index hmem => hkeeps index (shares_pos hmem)) ?_ h.calls
  refine h.working.congr (fun index hslot => hkeeps index ?_) hothers
  exact List.count_pos_iff.mpr (List.mem_append_right _ (List.mem_singleton.mpr hslot.symm))

theorem Inv.retain (h : s.Inv) (copy : Nat) : (s.step (.retain copy)).Inv := by
  simp only [MqttIngress.step]
  cases hcopy : s.copies[copy]? with
  | none => exact h
  | some held =>
    have hmem : held ∈ s.copies := List.mem_of_getElem? hcopy
    have hcopies : ∀ copy ∈ s.copies ++ [held], copy ∈ s.copies := by
      intro copy hcopy
      rcases List.mem_append.mp hcopy with hold | hnew
      · exact hold
      · exact List.mem_singleton.mp hnew ▸ hmem
    simp only
    split
    · rename_i hroom
      rw [(h.forms held hmem).retain_eq]
      have hshares (net : NetAdapter κ) (hsame : s.sys.net.SameLinks net) (index : NetSlotIndex) :
          ({ s.setNet net with copies := s.copies ++ [held] } : MqttIngress κ).shares index =
            s.shares index + [held.1.external.netSlot].count (some index) := by
        simp only [shares, others, slotsOf, waiting, setNet, hsame.events, List.map_append,
          List.count_append, List.map_singleton]
        omega
      cases hslot : held.1.external.netSlot with
      | none =>
        have hsame : ({ s.setNet s.sys.net with copies := s.copies ++ [held] } :
            MqttIngress κ).shares = s.shares := by
          funext index
          rw [hshares _ (.refl _), hslot]
          simp
        simp only [Option.elim, if_true]
        refine h.reshared rfl (.refl _) hcopies ?_ fun _ _ => rfl
        rw [hsame]
        exact h.counts
      | some index =>
        have hpos : 0 < s.shares index := shares_pos (List.mem_append_right _
          (hslot ▸ List.mem_map_of_mem (f := fun copy => copy.1.external.netSlot) hmem))
        obtain ⟨hok, hcounts, hkeeps⟩ := h.counts.retainSlot hpos (h.shares_lt hroom index)
        have hlinks : s.sys.net.SameLinks (s.sys.net.retainSlot index).2 := by
          unfold NetAdapter.retainSlot
          split
          · exact .refl _
          · exact s.sys.net.setSlot_same _ _
        have hadd : ({ s.setNet (s.sys.net.retainSlot index).2 with copies := s.copies ++ [held] } :
            MqttIngress κ).shares = NetAdapter.addShare index s.shares := by
          funext other
          rw [hshares _ hlinks, hslot, NetAdapter.addShare]
          by_cases hother : other = index
          · subst hother
            simp
          · simp [hother, Ne.symm hother]
        simp only [Option.elim, hok, if_true]
        refine h.reshared rfl hlinks hcopies ?_ ?_
        · rw [hadd]
          exact hcounts
        · intro other hother
          refine hkeeps other ?_
          rw [hadd, NetAdapter.addShare] at hother
          by_cases hsame : other = index
          · exact hsame ▸ hpos
          · rwa [Function.update_of_ne hsame] at hother
    · exact h

theorem Inv.release (h : s.Inv) (copy : Nat) : (s.step (.release copy)).Inv := by
  simp only [MqttIngress.step]
  cases hcopy : s.copies[copy]? with
  | none => exact h
  | some held =>
    have hmem : held ∈ s.copies := List.mem_of_getElem? hcopy
    have hcopies : ∀ other ∈ s.copies.eraseIdx copy, other ∈ s.copies :=
      fun other hother => List.mem_of_mem_eraseIdx hother
    have hshares (net : NetAdapter κ) (hsame : s.sys.net.SameLinks net) (index : NetSlotIndex) :
        ({ s.setNet net with copies := s.copies.eraseIdx copy } : MqttIngress κ).shares index +
          [held.1.external.netSlot].count (some index) = s.shares index := by
      obtain ⟨hlt, hheld⟩ := List.getElem?_eq_some_iff.mp hcopy
      have hperm := ((List.getElem_cons_eraseIdx_perm hlt).map fun copy =>
        copy.1.external.netSlot).count_eq (some index)
      rw [hheld, List.map_cons, List.count_cons] at hperm
      simp only [shares, others, slotsOf, waiting, setNet, hsame.events, List.count_append,
        List.count_singleton]
      omega
    simp only
    rw [(h.forms held hmem).dispose_eq]
    cases hslot : held.1.external.netSlot with
    | none =>
      have hsame : ({ s.setNet s.sys.net with copies := s.copies.eraseIdx copy } :
          MqttIngress κ).shares = s.shares := by
        funext index
        rw [← hshares _ (.refl _), hslot]
        simp
      simp only [Option.elim]
      refine h.reshared rfl (.refl _) hcopies ?_ fun _ _ => rfl
      rw [hsame]
      exact h.counts
    | some index =>
      have hpos : 0 < s.shares index := shares_pos (List.mem_append_right _
        (hslot ▸ List.mem_map_of_mem (f := fun copy => copy.1.external.netSlot) hmem))
      obtain ⟨hcounts, hkeeps, -⟩ := h.counts.releaseSlot hpos
      have hlinks : s.sys.net.SameLinks (s.sys.net.releaseSlot index) := NetAdapter.releaseSlot_same _
      have hsub : ({ s.setNet (s.sys.net.releaseSlot index) with copies := s.copies.eraseIdx copy } :
          MqttIngress κ).shares = NetAdapter.subShare index s.shares := by
        funext other
        have hother := hshares _ hlinks other
        rw [hslot] at hother
        rw [NetAdapter.subShare]
        by_cases hsame : other = index
        · subst hsame
          rw [Function.update_self, ← hother]
          simp
        · rw [Function.update_of_ne hsame, ← hother]
          simp [Ne.symm hsame]
      simp only [Option.elim]
      refine h.reshared rfl hlinks hcopies ?_ ?_
      · rw [hsub]
        exact hcounts
      · rw [hsub]
        exact hkeeps

/-- An event with data joins those that wait; its slot comes from the handler. -/
theorem Inv.queue (h : s.Inv) (hsys : t.sys.Inv) {event : NetIngressEvent (NetPtr κ)}
    {record : MqttRecord} (hslots : s.sys.net.SameSlots t.sys.net)
    (hwaiting : t.waiting = s.waiting ++ [event]) (hcopies : t.copies = s.copies)
    (hqueued : t.queued = s.queued ++ [record]) (hbuilt : t.built = s.built)
    (hgenuine : Genuine event) (hmessage : isMessage event = true)
    (hrecord : eventRecord s.sys.net event = some record)
    (hslot : s.sys.mqtt.slot = event.externalPayload.netSlot) (hnone : t.sys.mqtt.slot = none)
    (hworking : Working t t.sys.mqtt t.call) (hcalls : t.calls = s.calls) : t.Inv := by
  have hshares : t.shares = s.shares := by
    funext index
    simp only [shares, others, slotsOf, hwaiting, hcopies, hslot, hnone, List.map_append,
      List.count_append, List.map_singleton]
    have hzero : [none].count (some index) = 0 := rfl
    omega
  have hpayload (index : NetSlotIndex) :
      (t.sys.net.payloadSlots index).payload = (s.sys.net.payloadSlots index).payload := by
    rw [hslots.payloadSlots]
  obtain ⟨hwaits, hcarried⟩ := h.records_keep t.sys.net (fun _ hcopy => hcopy)
    fun index _ => hpayload index
  refine ⟨hsys, ?_, ?_, ?_, ?_, ?_, hworking, ?_⟩
  · rw [hshares]
    exact h.counts.same hslots
  · rw [hwaiting]
    intro other hother
    rcases List.mem_append.mp hother with hold | hnew
    · exact h.genuine other hold
    · rw [List.mem_singleton.mp hnew]
      exact hgenuine
  · rw [hcopies]
    exact h.forms
  · have hadded : [event].filter isMessage = [event] := List.filter_cons_of_pos hmessage
    unfold waitingRecords
    rw [hwaiting, List.filter_append, hadded, List.map_append, hwaits, hqueued, hbuilt,
      List.map_append, h.order, List.append_assoc, List.map_singleton, List.map_singleton,
      hgenuine.eventRecord_eq hmessage fun index _ => hpayload index, hrecord]
  · rw [hcopies]
    exact hcarried
  · rw [hcalls]
    exact h.calls

/-- A critical section of a data callback, by what it adds to the tally. -/
theorem handled_eq (sys : NetSystem κ) {delta : DataTally}
    (hdelta : sys.net.tally = s.sys.net.tally.add delta) (data : MqttData) (tally : DataTally) :
    s.handled data tally sys = { s with
      sys := sys
      queued := if delta.queued = 0 then s.queued else s.queued ++ [data.record]
      call := if sys.mqtt.isIdle then none else some (data, tally.add delta)
      calls := if sys.mqtt.isIdle then s.calls ++ [(data, tally.add delta)] else s.calls } := by
  have hseq : sys.net.writeSeq = s.sys.net.writeSeq + delta.queued := congrArg DataTally.queued hdelta
  have hsame : sys.net.writeSeq = s.sys.net.writeSeq ↔ delta.queued = 0 := by
    rw [hseq]
    exact UInt32.add_eq_left
  unfold handled
  simp only [hsame, hdelta, DataTally.advance_add]

theorem accounted_snoc (h : s.Inv) {data : MqttData} {tally : DataTally}
    (hnew : Accounted (data, tally)) : ∀ call ∈ s.calls ++ [(data, tally)], Accounted call := by
  intro call hcall
  rcases List.mem_append.mp hcall with hold | hlast
  · exact h.calls call hold
  · rw [List.mem_singleton.mp hlast]
    exact hnew

theorem accounted_of_valid {data : MqttData} (hvalid : data.isValid = true) (tally : DataTally)
    (h : tally.Dropped ∨ tally.Queued) : Accounted (data, tally) := by
  unfold Accounted
  rw [if_pos hvalid]
  exact h

/-- Where a push of an event leaves the ring. -/
theorem waiting_pushed (h : s.Inv) {sys : NetSystem κ} {event : NetIngressEvent (NetPtr κ)}
    (hnet : sys.net = (s.sys.net.pushEvent event).2) :
    ((s.sys.net.pushEvent event).1 = .ok → s.polled.toList ++ sys.net.events = s.waiting ++ [event]) ∧
      ((s.sys.net.pushEvent event).1 ≠ .ok → s.polled.toList ++ sys.net.events = s.waiting) := by
  rw [hnet]
  rcases (NetAdapter.pushEvent_cases h.sys.count_le event).2.2 with ⟨hok, hevents⟩ | ⟨hfull, hevents⟩
  · refine ⟨fun _ => ?_, fun hfull => absurd hok hfull⟩
    rw [hevents, waiting, List.append_assoc]
  · exact ⟨fun hok => absurd hok hfull, fun _ => by rw [hevents, waiting]⟩

theorem Inv.returned (h : s.Inv) {sys : NetSystem κ} (hsys : sys.Inv)
    (hslots : s.sys.net.SameSlots sys.net)
    (hwaiting : s.polled.toList ++ sys.net.events = s.waiting) (hslot : s.sys.mqtt.slot = none)
    (hidle : sys.mqtt = .idle) (delta : DataTally)
    (hdelta : sys.net.tally = s.sys.net.tally.add delta) (hqueued : delta.queued = 0)
    {data : MqttData} {tally : DataTally} (haccounted : Accounted (data, tally.add delta)) :
    (s.handled data tally sys).Inv := by
  rw [handled_eq sys hdelta, hqueued, hidle]
  refine h.quiet hsys hslots hwaiting rfl rfl rfl ?_ (fun _ => ?_) (accounted_snoc h haccounted)
  · rw [hslot]
    exact congrArg MqttTask.slot hidle
  · change Working _ sys.mqtt none
    rw [hidle]
    exact .idle

theorem Inv.pushed (h : s.Inv) {sys : NetSystem κ} (hsys : sys.Inv)
    {event : NetIngressEvent (NetPtr κ)} (hnet : sys.net = (s.sys.net.pushEvent event).2)
    (hok : (s.sys.net.pushEvent event).1 = .ok) (payloadLen : UInt32) (leased : Bool)
    (htask : sys.mqtt = .record payloadLen leased) {data : MqttData} (hvalid : data.isValid = true)
    {tally : DataTally} (htally : tally = { slots := if leased then 1 else 0 })
    (hgenuine : Genuine event) (hmessage : isMessage event = true)
    (hrecord : eventRecord s.sys.net event = some data.record)
    (hslot : s.sys.mqtt.slot = event.externalPayload.netSlot) : (s.handled data tally sys).Inv := by
  have hdelta : sys.net.tally = s.sys.net.tally.add { queued := 1 } := by
    rw [hnet]
    rcases NetAdapter.pushEvent_tally event s.sys.net with ⟨_, hdelta⟩ | ⟨hfull, _⟩
    · exact hdelta
    · exact absurd hok hfull
  have hslots : s.sys.net.SameSlots sys.net := hnet ▸ NetAdapter.pushEvent_slots event s.sys.net
  rw [handled_eq sys hdelta, htask, htally]
  refine h.queue hsys hslots ((waiting_pushed h hnet).1 hok) rfl rfl rfl hgenuine hmessage hrecord hslot
    (congrArg MqttTask.slot htask) ?_ rfl
  change Working _ sys.mqtt (some (data, _))
  rw [htask]
  have hadd : ({ slots := if leased then 1 else 0 } : DataTally).add { queued := 1 } =
      { queued := 1, slots := if leased then 1 else 0 } := by
    cases leased <;> rfl
  rw [hadd]
  exact .record hvalid payloadLen leased

theorem Inv.acquired (h : s.Inv) (hidle : s.sys.mqtt = .idle) {data : MqttData}
    (hvalid : data.isValid = true) (hfits : data.fitsStorage = true)
    (hsys : ({ s.sys with
      net := s.sys.net.payloadAcquire.2
      mqtt := s.sys.net.payloadAcquire.1.elim .idle fun index => .fill index data } :
        NetSystem κ).Inv) :
    (s.handled data {} { s.sys with
      net := s.sys.net.payloadAcquire.2
      mqtt := s.sys.net.payloadAcquire.1.elim .idle fun index => .fill index data }).Inv := by
  have hnone : s.sys.mqtt.slot = none := congrArg MqttTask.slot hidle
  have htally := s.sys.net.payloadAcquire_tally
  have hevents := s.sys.net.payloadAcquire_same.events
  cases hslot : s.sys.net.payloadAcquire.1 with
  | none =>
    rw [hslot] at htally hsys
    refine h.returned hsys (NetAdapter.acquire_none hslot) ?_ hnone rfl _ htally rfl
      (accounted_of_valid hvalid _ (Or.inl ?_))
    · change s.polled.toList ++ s.sys.net.payloadAcquire.2.events = _
      rw [hevents]
      rfl
    · exact List.mem_cons_of_mem _ List.mem_cons_self
  | some index =>
    rw [hslot, if_neg (Option.some_ne_none index)] at htally
    rw [hslot] at hsys
    obtain ⟨hzero, hcounts, hkeeps, hfresh, -⟩ := h.counts.acquire hslot
    have hsole : some index ∉ s.others := fun hmem => absurd hzero (shares_pos hmem).ne'
    have hwaiting : s.polled.toList ++ s.sys.net.payloadAcquire.2.events = s.waiting := by
      rw [hevents]
      rfl
    simp only [Option.elim] at hsys ⊢
    rw [handled_eq _ htally]
    refine h.handler hsys hwaiting rfl rfl rfl hcounts ?_
      (fun other hmem => hkeeps other (shares_pos hmem)) (fun hothers => ?_) h.calls
    · intro other
      rw [NetAdapter.addShare]
      by_cases hother : other = index
      · subst hother
        rw [Function.update_self, shares_eq, hnone]
        simp [MqttTask.slot]
      · rw [Function.update_of_ne hother, shares_eq, hnone]
        simp [MqttTask.slot, Ne.symm hother]
    · exact .fill hvalid hfits hfresh fun hmem => hsole (hothers ▸ hmem)

theorem Inv.data (h : s.Inv) (data : MqttData) : (s.step (.mqtt (.data data))).Inv := by
  simp only [MqttIngress.step]
  split
  · rename_i hisIdle
    have hidle : s.sys.mqtt = .idle := by
      cases htask : s.sys.mqtt with
      | idle => rfl
      | _ => simp [htask, MqttTask.isIdle] at hisIdle
    have hnone : s.sys.mqtt.slot = none := congrArg MqttTask.slot hidle
    have hsys : (s.sys.mqttData data).Inv := h.sys.mqttEvent (congrArg MqttTask.owes hidle) (.data data)
    revert hsys
    unfold NetSystem.mqttData
    split
    · rename_i hinvalid
      intro hsys
      have hignored : Accounted (data, ({} : DataTally).add {}) := by
        have hfalse : data.isValid = false := by simpa using hinvalid
        simp only [Accounted, hfalse]
        rfl
      have hdelta : s.sys.net.tally = s.sys.net.tally.add {} := by simp [DataTally.add]
      exact h.returned hsys (.refl _) rfl hnone hidle _ hdelta rfl hignored
    · rename_i hvalid
      have hvalid : data.isValid = true := by simpa using hvalid
      split
      · rename_i hfits
        intro hsys
        obtain ⟨hresult, hnet, -, -⟩ := NetSystem.pushEvent_eq s.sys data.inlineEvent
        obtain ⟨bytes, hbuilt, hcarried⟩ := NetAdapter.inline_record hvalid hfits s.sys.net
        by_cases hok : (s.sys.net.pushEvent data.inlineEvent).1 = .ok
        · refine h.pushed hsys hnet hok (UInt32.ofNat data.payloadLen.toNat) false ?_ hvalid rfl (.inline hvalid hfits) rfl ?_ hnone
          · exact if_pos (hresult.trans hok)
          · unfold eventRecord
            rw [hbuilt]
            exact hcarried
        · have htally := (NetAdapter.pushEvent_tally data.inlineEvent s.sys.net).resolve_left
            fun hpushed => hok hpushed.1
          refine h.returned hsys ?_ ((waiting_pushed h hnet).2 hok) hnone ?_ _ ?_ rfl
            (accounted_of_valid hvalid (({} : DataTally).add { events := 1 }) (Or.inl ?_))
          · change s.sys.net.SameSlots (s.sys.pushEvent data.inlineEvent).2.net
            rw [hnet]
            exact NetAdapter.pushEvent_slots _ _
          · exact if_neg fun hpushed => hok (hresult.symm.trans hpushed)
          · change (s.sys.pushEvent data.inlineEvent).2.net.tally = _
            rw [hnet]
            exact htally.2
          · exact List.mem_cons_of_mem _ (List.mem_cons_of_mem _ List.mem_cons_self)
      · split
        · intro hsys
          refine h.returned hsys ⟨rfl, rfl⟩ ?_ hnone hidle { oversize := 1 } ?_ rfl
            (accounted_of_valid hvalid _ (Or.inl ?_))
          · change s.polled.toList ++ s.sys.net.countOversize.events = _
            rw [(NetAdapter.countOversize_same s.sys.net).events]
            rfl
          · simp [NetAdapter.tally, NetAdapter.countOversize, NetAdapter.count, DataTally.add]
          · exact List.mem_cons_self
        · rename_i hfits
          intro hsys
          have hfits : data.fitsStorage = true := by simpa using hfits
          exact h.acquired hidle hvalid hfits hsys
  · exact h

/-- The callback copies its data into the slot that it took. -/
theorem Inv.filled (h : s.Inv) {index : NetSlotIndex} {data : MqttData}
    (htask : s.sys.mqtt = .fill index data)
    (hvalid : data.isValid = true) (hfits : data.fitsStorage = true)
    (hfresh : (s.sys.net.payloadSlots index).payload = {}) (hsole : some index ∉ s.others)
    (hsys : ({ s.sys with
      net := s.sys.net.fillSlot index data, mqtt := .pushLease index data } : NetSystem κ).Inv) :
    (s.handled data { slots := 1 } { s.sys with
      net := s.sys.net.fillSlot index data, mqtt := .pushLease index data }).Inv := by
  obtain ⟨hcounts, hfilled, hkeeps, hinUse⟩ := h.counts.fillSlot index data
  have hevents := (s.sys.net.setSlot_same index { s.sys.net.payloadSlots index with
    payload := data.fill (s.sys.net.payloadSlots index).payload }).events
  have hdelta : (s.sys.net.fillSlot index data).tally = s.sys.net.tally.add {} := by
    simp [NetAdapter.tally, NetAdapter.fillSlot, NetAdapter.setSlot, DataTally.add]
  have hwaiting : s.polled.toList ++ (s.sys.net.fillSlot index data).events = s.waiting :=
    congrArg (s.polled.toList ++ ·) hevents
  rw [handled_eq { s.sys with
    net := s.sys.net.fillSlot index data, mqtt := .pushLease index data } hdelta]
  refine h.handler hsys hwaiting rfl rfl rfl hcounts ?_ ?_ (fun hothers => ?_) h.calls
  · intro other
    rw [shares_eq, htask]
    rfl
  · intro other hmem
    have hother : other ≠ index := by
      rintro rfl
      exact hsole hmem
    exact congrArg NetPayloadSlot.payload (hkeeps other hother)
  · exact .pushLease hvalid hfits (hfilled.trans (by rw [hfresh])) fun hmem => hsole (hothers ▸ hmem)

/-- The callback queues the lease of its slot, or finds the ring full. -/
theorem Inv.leased (h : s.Inv) {index : NetSlotIndex} {data : MqttData}
    (htask : s.sys.mqtt = .pushLease index data)
    (hvalid : data.isValid = true) (hfits : data.fitsStorage = true)
    (hfilled : (s.sys.net.payloadSlots index).payload = data.fill {}) (hsole : some index ∉ s.others)
    (hsys : ({ (s.sys.pushEvent (s.sys.net.leaseEvent index)).2 with
      mqtt := if (s.sys.pushEvent (s.sys.net.leaseEvent index)).1 ≠ .ok then .releaseSlot index
        else .record (UInt32.ofNat data.payloadLen.toNat) true } : NetSystem κ).Inv) :
    (s.handled data { slots := 1 } { (s.sys.pushEvent (s.sys.net.leaseEvent index)).2 with
      mqtt := if (s.sys.pushEvent (s.sys.net.leaseEvent index)).1 ≠ .ok then .releaseSlot index
        else .record (UInt32.ofNat data.payloadLen.toNat) true }).Inv := by
  obtain ⟨hresult, hnet, -, -⟩ := NetSystem.pushEvent_eq s.sys (s.sys.net.leaseEvent index)
  have hslot : s.sys.mqtt.slot = some index := congrArg MqttTask.slot htask
  by_cases hok : (s.sys.net.pushEvent (s.sys.net.leaseEvent index)).1 = .ok
  · obtain ⟨hfitting, hrecord⟩ := NetAdapter.fill_record hvalid hfits
    rw [← hfilled] at hfitting hrecord
    refine h.pushed hsys hnet hok (UInt32.ofNat data.payloadLen.toNat) true
      ?_ hvalid rfl (.lease index _ _) rfl ?_ hslot
    · exact if_neg (not_not.mpr (hresult.trans hok))
    · unfold eventRecord
      rw [DemoApp.netMessage_lease rfl rfl rfl, Option.bind_some,
        NetAdapter.lease_record (h.counts.sized index) hfitting, hrecord]
  · have htally := ((NetAdapter.pushEvent_tally (s.sys.net.leaseEvent index) s.sys.net).resolve_left
      fun hpushed => hok hpushed.1).2
    rw [← hnet] at htally
    have hslots : s.sys.net.SameSlots (s.sys.pushEvent (s.sys.net.leaseEvent index)).2.net :=
      hnet ▸ NetAdapter.pushEvent_slots _ _
    have hwaiting := (waiting_pushed h hnet).2 hok
    rw [if_pos (hresult ▸ hok)] at hsys ⊢
    rw [handled_eq { (s.sys.pushEvent (s.sys.net.leaseEvent index)).2 with
      mqtt := .releaseSlot index } htally]
    exact h.quiet hsys hslots hwaiting rfl rfl rfl hslot.symm
      (fun hothers => .releaseSlot hvalid fun hmem => hsole (hothers ▸ hmem)) h.calls

/-- The callback gives back the slot whose lease the ring refused. -/
theorem Inv.gaveBack (h : s.Inv) {index : NetSlotIndex} {data : MqttData}
    (htask : s.sys.mqtt = .releaseSlot index) (hvalid : data.isValid = true)
    (hsole : some index ∉ s.others)
    (hsys : ({ s.sys with net := s.sys.net.releaseSlot index, mqtt := .idle } : NetSystem κ).Inv) :
    (s.handled data { events := 1, slots := 1 } { s.sys with
      net := s.sys.net.releaseSlot index, mqtt := .idle }).Inv := by
  have hslot : s.sys.mqtt.slot = some index := congrArg MqttTask.slot htask
  have hzero : s.others.count (some index) = 0 := List.count_eq_zero.mpr hsole
  have hshare : s.shares index = 1 := by
    rw [shares_eq, hzero, hslot]
    simp
  obtain ⟨hcounts, hkeeps, -⟩ := h.counts.releaseSlot (hshare ▸ Nat.one_pos)
  have htally := NetAdapter.releaseSlot_tally h.counts hshare
  have hwaiting : s.polled.toList ++ (s.sys.net.releaseSlot index).events = s.waiting := by
    rw [(s.sys.net.releaseSlot_same index).events]
    rfl
  rw [handled_eq { s.sys with net := s.sys.net.releaseSlot index, mqtt := .idle } htally]
  refine h.handler hsys hwaiting rfl rfl rfl hcounts ?_ ?_ (fun _ => .idle)
    (accounted_snoc h (accounted_of_valid hvalid _ (Or.inl ?_)))
  · intro other
    rw [NetAdapter.subShare]
    by_cases hother : other = index
    · subst hother
      rw [Function.update_self, hshare, hzero]
      rfl
    · rw [Function.update_of_ne hother, shares_eq, hslot]
      simp [MqttTask.slot, Ne.symm hother]
  · intro other hmem
    refine hkeeps other ?_
    have hother : other ≠ index := by
      rintro rfl
      exact hsole hmem
    rw [NetAdapter.subShare, Function.update_of_ne hother]
    exact shares_pos hmem
  · exact List.mem_cons_of_mem _ (List.mem_cons_of_mem _ List.mem_cons_self)

theorem Working.noData_of_none {task : MqttTask} (h : Working s task none) : task.NoData := by
  cases h with
  | idle | pushKind _ => trivial

theorem Inv.mqttStep (h : s.Inv) : (s.step .mqttStep).Inv := by
  simp only [MqttIngress.step]
  cases hcall : s.call with
  | none =>
    have hworking := h.working
    rw [hcall] at hworking
    exact h.link .mqttStep hworking.noData_of_none
  | some call =>
    obtain ⟨data, tally⟩ := call
    have hworking := h.working
    have hsys := h.sys.mqttStep
    rw [hcall] at hworking
    revert hsys
    unfold NetSystem.mqttStep
    generalize htask : s.sys.mqtt = task at hworking
    cases hworking with
    | @fill index _ hvalid hfits hfresh hsole =>
      intro hsys
      exact h.filled htask hvalid hfits hfresh hsole hsys
    | @pushLease index _ hvalid hfits hfilled hsole =>
      intro hsys
      exact h.leased htask hvalid hfits hfilled hsole hsys
    | @releaseSlot index _ hvalid hsole =>
      intro hsys
      exact h.gaveBack htask hvalid hsole hsys
    | record hvalid payloadLen leased =>
      intro hsys
      have hsame := s.sys.net.recordMqttRxSuccess_same payloadLen leased
      refine h.returned hsys ⟨rfl, rfl⟩ ?_ (congrArg MqttTask.slot htask) rfl {} ?_ rfl
        (accounted_of_valid hvalid _ (Or.inr ?_))
      · change s.polled.toList ++ (s.sys.net.recordMqttRxSuccess payloadLen leased).events = _
        rw [hsame.events]
        rfl
      · simp [NetAdapter.tally, NetAdapter.recordMqttRxSuccess, NetAdapter.count, DataTally.add]
      · cases leased
        · exact List.mem_cons_self
        · exact List.mem_cons_of_mem _ List.mem_cons_self

/-- Step lemma: every step of a task and of an owner keeps the invariant. -/
theorem Inv.step (h : s.Inv) (input : MqttIngressInput) : (s.step input).Inv := by
  cases input with
  | wifi event => exact h.link (.wifi event) trivial
  | wifiStep => exact h.link .wifiStep trivial
  | mqtt event =>
    cases event with
    | data data => exact h.data data
    | connected => exact h.link (.mqtt .connected) trivial
    | disconnected => exact h.link (.mqtt .disconnected) trivial
    | error => exact h.link (.mqtt .error) trivial
  | mqttStep => exact h.mqttStep
  | start wifiStartOk => exact h.link (.start wifiStartOk) trivial
  | stop => exact h.link .stop trivial
  | controlStep => exact h.link .controlStep trivial
  | poll => exact h.poll
  | publish => exact h.publish
  | retain copy => exact h.retain copy
  | release copy => exact h.release copy

theorem start_inv (brokerUri : Bool) (seq : UInt32) : (start brokerUri seq : MqttIngress κ).Inv := by
  have hevents : (start brokerUri seq : MqttIngress κ).sys.net.events = [] := SeqRing.entries_self _ 16 seq
  have hcount : (start brokerUri seq : MqttIngress κ).sys.net.pending = 0 := UInt32.sub_self seq
  have hsys : (start brokerUri seq : MqttIngress κ).sys.Inv := by
    refine ⟨?_, ?_, List.mem_cons_self, List.mem_cons_self, ?_⟩
    · rw [hcount]
      exact Nat.zero_le _
    · rw [hevents]
      rfl
    · intro link _
      cases brokerUri <;> cases link <;> rfl
  have hslots : ({ writeSeq := seq, readSeq := seq } : NetAdapter κ).SameSlots
      (start brokerUri seq : MqttIngress κ).sys.net := by
    cases brokerUri <;> exact ⟨rfl, rfl⟩
  have hwaiting : (start brokerUri seq : MqttIngress κ).waiting = [] := hevents
  have hshares : (start brokerUri seq : MqttIngress κ).shares = fun _ => 0 := by
    funext index
    rw [shares_eq, others, hwaiting]
    rfl
  refine ⟨hsys, ?_, ?_, ?_, ?_, ?_, .idle, ?_⟩
  · rw [hshares]
    exact (NetAdapter.counts_initialised seq).same hslots
  · rw [hwaiting]
    simp
  · exact fun _ hcopy => absurd hcopy List.not_mem_nil
  · unfold waitingRecords
    rw [hwaiting]
    rfl
  · exact fun _ hcopy => absurd hcopy List.not_mem_nil
  · exact fun _ hcall => absurd hcall List.not_mem_nil

/-- Every callback that returned accounts for its data. The messages that were built, and those that
the waiting events will become, carry the data that was queued, in its order. What a message carries
stays as long as a copy of it is held, and only slots that are held are in use. -/
structure Faithful (s : MqttIngress κ) : Prop where
  calls : ∀ call ∈ s.calls, Accounted call
  built : s.queued.map some = s.built ++ s.waitingRecords
  copies : ∀ copy ∈ s.copies, copy.2.isSome = true ∧
    CommandActor.mqttRecord (s.sys.net.inbound copy.1) = copy.2
  slots : ∀ index, (s.sys.net.payloadSlots index).inUse = true ↔
    some index ∈ s.others ∨ s.sys.mqtt.slot = some index

theorem Inv.faithful (h : s.Inv) : s.Faithful := by
  refine ⟨h.calls, h.order, h.carried, fun index => ?_⟩
  rw [h.counts.inUse, decide_eq_true_eq, shares, List.count_pos_iff, List.mem_append,
    List.mem_singleton, eq_comm (a := some index)]

/-- The data of the callbacks arrives in the messages as it was, in every order of steps. -/
theorem mqtt_ingress_faithful (brokerUri : Bool) (seq : UInt32) (inputs : List MqttIngressInput) :
    (Machine.run step (start brokerUri seq : MqttIngress κ) inputs).Faithful := by
  have halways : Machine.Always step Inv (start brokerUri seq : MqttIngress κ) inputs :=
    Machine.always_of_step (fun _ input h => h.step input) (start_inv brokerUri seq) inputs
  exact halways.last.faithful

/-- A payload that is announced and not there. -/
def announcedOnly : MqttData where
  topic := some fun _ => 0
  topicLen := 1
  payload := none
  payloadLen := 1

/-- A callback with a null payload is neither counted nor queued. -/
theorem not_accounted_of_null : ¬∀ (brokerUri : Bool) (seq : UInt32) (inputs : List MqttIngressInput),
    ∀ call ∈ (Machine.run step (start brokerUri seq : MqttIngress Unit) inputs).calls,
      call.1.topic.isSome = true → 0 ≤ call.1.topicLen → 0 ≤ call.1.payloadLen →
        call.2.Dropped ∨ call.2.Queued := by
  intro h
  have hcall := h true 0 [.mqtt (.data announcedOnly)] (announcedOnly, {}) (by
    simp [Machine.run, step, start, MqttTask.isIdle, handled, NetSystem.mqttData, announcedOnly,
      MqttData.isValid, DataTally.advance_self]) rfl (by decide) (by decide)
  revert hcall
  simp [DataTally.Dropped, DataTally.Queued]

end MqttIngress

end EventFramework
