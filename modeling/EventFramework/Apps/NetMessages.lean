import EventFramework.Actors.CommandAuthority
import EventFramework.Adapters.NetShares
import EventFramework.Apps.DemoApp

/-!
# The messages of network events

The message that `ev_demo_app_publish_net_event` builds from an ingress event, and the topic and
payload that its readers find in it.
-/

namespace EventFramework
set_option autoImplicit false

variable {P ε κ : Type}

namespace Msg

variable {ω : Type}

/-- A message that owns nothing takes its payload without a call. -/
theorem setInlinePayload_empty (cb : Callbacks P ω) {msg : Msg P} (h : msg.Empty)
    (data : Option (List UInt8)) (size : Nat) (w : ω) :
    msg.setInlinePayload cb data size w =
      ((msg.setInlinePayload Callbacks.none data size ()).1,
        (msg.setInlinePayload Callbacks.none data size ()).2.1, w) := by
  unfold setInlinePayload releaseAttachedPayload
  simp only [releasePayload_of_empty _ h]
  by_cases hcookie : (!msg.hasCookie) = true
  · rw [if_pos hcookie, if_pos hcookie]
  rw [if_neg hcookie, if_neg hcookie]
  by_cases hdisposed : msg.isDisposed = true
  · rw [if_pos hdisposed, if_pos hdisposed]
  rw [if_neg hdisposed, if_neg hdisposed]
  by_cases hdata : 0 < size ∧ data = none
  · rw [if_pos hdata, if_pos hdata]
  rw [if_neg hdata, if_neg hdata]
  by_cases hlong : msgInlineCapacity < size
  · rw [if_pos hlong, if_pos hlong]
  rw [if_neg hlong, if_neg hlong]
  cases eventMeta msg.eventId with
  | none => rfl
  | some info =>
    simp only
    split
    · rfl
    split <;> rfl

theorem setExternalPayload_empty (cb : Callbacks P ω) {msg : Msg P} (h : msg.Empty)
    (data : Option P) (size : Nat) (retainFn releaseFn lifecycleCtx : Option P) (w : ω) :
    msg.setExternalPayload cb data size retainFn releaseFn lifecycleCtx w =
      ((msg.setExternalPayload Callbacks.none data size retainFn releaseFn lifecycleCtx ()).1,
        (msg.setExternalPayload Callbacks.none data size retainFn releaseFn lifecycleCtx ()).2.1, w) := by
  unfold setExternalPayload releaseAttachedPayload
  simp only [releasePayload_of_empty _ h]
  by_cases hcookie : (!msg.hasCookie) = true
  · rw [if_pos hcookie, if_pos hcookie]
  rw [if_neg hcookie, if_neg hcookie]
  by_cases hdisposed : msg.isDisposed = true
  · rw [if_pos hdisposed, if_pos hdisposed]
  rw [if_neg hdisposed, if_neg hdisposed]
  by_cases hdata : 0 < size ∧ data.isNone = true
  · rw [if_pos hdata, if_pos hdata]
  rw [if_neg hdata, if_neg hdata]
  cases eventMeta msg.eventId with
  | none => rfl
  | some info =>
    simp only
    split
    · rfl
    split
    · rfl
    split
    · rfl
    split <;> rfl

end Msg

namespace DemoApp

def netMessage (event : NetIngressEvent P) : Option (Msg P) :=
  (netEventId event).bind fun eventId =>
    let started := (Msg.zeroed (P := P)).initPublish eventId .runtime
    let external := event.externalPayload
    let built : Result × Msg P :=
      if started.1 ≠ .ok then started
      else if eventId = .netMqttMsgRx then
        if event.payloadStorage ≠ .inline ∨ netMaxTopicBytes < event.topicLen.toNat ∨
            netMaxInlinePayloadBytes < event.payloadLen.toNat then
          (.errContract, started.2)
        else
          let bytes := inlinePayloadBytes event
          let out := started.2.setInlinePayload Callbacks.none (some bytes) bytes.length ()
          (out.1, out.2.1)
      else if eventId = .netMqttMsgRxLease then
        if external.data.isNone ∨ external.size ≠ netMqttRxPayloadSize ∨ external.retainFn.isNone ∨
            external.releaseFn.isNone then
          (.errContract, started.2)
        else
          let out := started.2.setExternalPayload Callbacks.none external.data external.size
            external.retainFn external.releaseFn external.lifecycleCtx ()
          (out.1, out.2.1)
      else started
    if built.1 = .ok then some built.2 else none

theorem netEventId_started {event : NetIngressEvent P} {eventId : EventId}
    (h : netEventId event = some eventId) :
    (Msg.zeroed (P := P)).initPublish eventId .runtime =
      (.ok, { Msg.blank with eventId := eventId, sourceActor := .runtime, targetActor := .none }) := by
  unfold netEventId at h
  split at h
  · cases h
    rfl
  · cases h
    rfl
  · cases h
    rfl
  · cases h
    rfl
  · split at h <;> (cases h; rfl)
  · cases h

/-- The published message is the one built. -/
theorem publishNetEvent_of_message (ports : DemoPorts P ε) {event : NetIngressEvent P} {msg : Msg P}
    (h : netMessage event = some msg) (graph : DemoGraph P ε) :
    publishNetEvent ports event graph = publishOwned ports msg graph := by
  cases hevent : netEventId event with
  | none => simp [netMessage, hevent] at h
  | some eventId =>
    have hstarted := netEventId_started hevent
    generalize hblank : ({ Msg.blank with
      eventId := eventId, sourceActor := .runtime, targetActor := .none } : Msg P) = blank at hstarted
    have hempty : blank.Empty := hblank ▸ ⟨rfl, rfl⟩
    simp only [netMessage, hevent, Option.bind_some, hstarted, ne_eq, not_true_eq_false,
      if_false] at h
    simp only [publishNetEvent, hevent, hstarted, ne_eq, not_true_eq_false, if_false]
    by_cases hinline : eventId = .netMqttMsgRx
    · simp only [hinline, if_true] at h ⊢
      unfold publishInlineEvent
      split at h
      · simp at h
      · rename_i hform
        rw [not_or, not_not] at hform
        rw [if_neg (not_not.mpr hform.1), if_neg hform.2]
        simp only [Msg.setInlinePayload_empty ports.callbacks hempty]
        simp only [Option.ite_none_right_eq_some, Option.some.injEq] at h
        obtain ⟨hok, rfl⟩ := h
        rw [if_neg (not_not.mpr hok)]
        rfl
    · simp only [hinline, if_false] at h ⊢
      by_cases hlease : eventId = .netMqttMsgRxLease
      · simp only [hlease, if_true] at h ⊢
        unfold publishLeasedEvent
        simp only
        split at h
        · simp at h
        · rename_i hform
          rw [if_neg hform]
          simp only [Msg.setExternalPayload_empty ports.callbacks hempty]
          simp only [Option.ite_none_right_eq_some, Option.some.injEq] at h
          obtain ⟨hok, rfl⟩ := h
          rw [if_neg (not_not.mpr hok)]
          rfl
      · simp only [hlease, if_false, if_true] at h ⊢
        rw [Option.some.inj h]

theorem disposeMsg_empty (ports : DemoPorts P ε) {msg : Msg P} (h : msg.Empty) (graph : DemoGraph P ε) :
    (disposeMsg ports msg graph).2 = graph := by
  have hsame : (msg.dispose ports.callbacks (DemoGraph.app graph).env).2.2 =
      (DemoGraph.app graph).env := by
    unfold Msg.dispose
    split
    · rfl
    split
    · rfl
    · exact Msg.releasePayload_of_empty _ h _
  unfold disposeMsg
  simp only [hsame]
  rfl

/-- Without a message the payload of the event is released, and nothing else happens. -/
theorem publishNetEvent_of_none (ports : DemoPorts P ε) {event : NetIngressEvent P}
    (h : netMessage event = none) (graph : DemoGraph P ε) :
    ∃ rc, rc ≠ .ok ∧ publishNetEvent ports event graph =
      (rc, releaseNetEventExternalPayload ports event graph) := by
  have hself : graph.setEnv (DemoGraph.app graph).env = graph := rfl
  have hinlined (hstorage : event.payloadStorage = .inline) :
      releaseNetEventExternalPayload ports event graph = graph := by
    simp only [releaseNetEventExternalPayload, hstorage]
    split <;> simp
  cases hevent : netEventId event with
  | none => exact ⟨.errContract, Result.noConfusion, by simp only [publishNetEvent, hevent]⟩
  | some eventId =>
    have hstarted := netEventId_started hevent
    generalize hblank : ({ Msg.blank with
      eventId := eventId, sourceActor := .runtime, targetActor := .none } : Msg P) = blank at hstarted
    have hempty : blank.Empty := hblank ▸ ⟨rfl, rfl⟩
    simp only [netMessage, hevent, Option.bind_some, hstarted, ne_eq, not_true_eq_false,
      if_false] at h
    simp only [publishNetEvent, hevent, hstarted, ne_eq, not_true_eq_false, if_false]
    by_cases hinline : eventId = .netMqttMsgRx
    · simp only [hinline, if_true] at h ⊢
      unfold publishInlineEvent
      by_cases hstorage : event.payloadStorage = .inline
      · rw [if_neg (not_not.mpr hstorage), hinlined hstorage]
        by_cases hlong : netMaxTopicBytes < event.topicLen.toNat ∨
            netMaxInlinePayloadBytes < event.payloadLen.toNat
        · rw [if_pos hlong, disposeMsg_empty ports hempty]
          exact ⟨.errContract, Result.noConfusion, rfl⟩
        · have hform : ¬(event.payloadStorage ≠ .inline ∨ netMaxTopicBytes < event.topicLen.toNat ∨
              netMaxInlinePayloadBytes < event.payloadLen.toNat) := fun hform =>
            hform.elim (fun hne => hne hstorage) hlong
          rw [if_neg hform] at h
          rw [if_neg hlong]
          simp only [Msg.setInlinePayload_empty ports.callbacks hempty]
          rcases blank.setInlinePayload_cases Callbacks.none (some (inlinePayloadBytes event))
            (inlinePayloadBytes event).length () with ⟨rc, hrc, heq⟩ | ⟨msg, _, heq⟩
          · simp only [heq, hself, if_pos hrc, disposeMsg_empty ports hempty]
            exact ⟨rc, hrc, rfl⟩
          · simp [heq] at h
      · rw [if_pos hstorage, disposeMsg_empty ports hempty]
        exact ⟨.errContract, Result.noConfusion, rfl⟩
    · simp only [hinline, if_false] at h ⊢
      by_cases hlease : eventId = .netMqttMsgRxLease
      · simp only [hlease, if_true] at h ⊢
        unfold publishLeasedEvent
        simp only
        split at h
        · rename_i hform
          rw [if_pos hform, disposeMsg_empty ports hempty]
          exact ⟨.errContract, Result.noConfusion, rfl⟩
        · rename_i hform
          rw [if_neg hform]
          simp only [Msg.setExternalPayload_empty ports.callbacks hempty]
          rcases blank.setExternalPayload_cases Callbacks.none event.externalPayload.data
            event.externalPayload.size event.externalPayload.retainFn event.externalPayload.releaseFn
            event.externalPayload.lifecycleCtx () with ⟨rc, hrc, heq⟩ | ⟨_, _, heq⟩
          · simp only [heq, hself, if_pos hrc, disposeMsg_empty ports hempty]
            exact ⟨rc, hrc, rfl⟩
          · simp [heq] at h
      · simp [hlease] at h

theorem netMessage_external {event : NetIngressEvent P} {msg : Msg P} (h : netMessage event = some msg)
    (hstorage : msg.storage = .external) : msg.external = event.externalPayload := by
  cases hevent : netEventId event with
  | none => simp [netMessage, hevent] at h
  | some eventId =>
    have hstarted := netEventId_started hevent
    generalize hblank : ({ Msg.blank with
      eventId := eventId, sourceActor := .runtime, targetActor := .none } : Msg P) = blank at hstarted
    have hempty : blank.Empty := hblank ▸ ⟨rfl, rfl⟩
    have hplain : blank.storage ≠ .external := by
      rw [hempty.1]
      decide
    simp only [netMessage, hevent, Option.bind_some, hstarted, ne_eq, not_true_eq_false,
      if_false] at h
    by_cases hinline : eventId = .netMqttMsgRx
    · simp only [hinline, if_true] at h
      split at h
      · simp at h
      · rcases blank.setInlinePayload_cases Callbacks.none (some (inlinePayloadBytes event))
          (inlinePayloadBytes event).length () with ⟨rc, hrc, heq⟩ | ⟨msg', hmsg', heq⟩
        · simp [heq, hrc] at h
        · simp only [heq, if_true, Option.some.injEq] at h
          exact absurd hstorage (h ▸ hmsg')
    · simp only [hinline, if_false] at h
      by_cases hlease : eventId = .netMqttMsgRxLease
      · simp only [hlease, if_true] at h
        split at h
        · simp at h
        · rcases blank.setExternalPayload_cases Callbacks.none event.externalPayload.data
            event.externalPayload.size event.externalPayload.retainFn event.externalPayload.releaseFn
            event.externalPayload.lifecycleCtx () with ⟨rc, hrc, heq⟩ | ⟨_, _, heq⟩
          · simp [heq, hrc] at h
          · simp only [heq, if_true, Option.some.injEq] at h
            subst h
            split
            · rfl
            · rename_i hsize
              rw [if_neg hsize] at hstorage
              exact absurd hstorage (by simp [Msg.clearPayload])
      · simp only [hlease, if_false, if_true] at h
        exact absurd hstorage (Option.some.inj h ▸ hplain)

def inlineMessage (bytes : List UInt8) : Msg P where
  cookie := msgCookie
  eventId := .netMqttMsgRx
  sourceActor := .runtime
  targetActor := .none
  storage := .inline
  payloadSize := bytes.length
  inlineBytes := bytes

def leaseMessage (index : NetSlotIndex) : Msg (NetPtr κ) where
  cookie := msgCookie
  eventId := .netMqttMsgRxLease
  sourceActor := .runtime
  targetActor := .none
  storage := .external
  payloadSize := netMqttRxPayloadSize
  external := NetAdapter.payloadMakeLease index

/-- An event that carries its data in arrays of the sizes of the structure. -/
structure CarriesInline (event : NetIngressEvent P) : Prop where
  kind : event.kind = .mqttMsgRx
  storage : event.payloadStorage = .inline
  topic : event.topic.length = netMaxTopicBytes
  payload : event.payload.length = netMaxInlinePayloadBytes
  topicLen : event.topicLen.toNat ≤ netMaxTopicBytes
  payloadLen : event.payloadLen.toNat ≤ netMaxInlinePayloadBytes

theorem padded {bytes : List UInt8} {n size : Nat} (hbytes : bytes.length = size) (hn : n ≤ size) :
    (bytes.take n ++ List.replicate (size - n) 0).length = size ∧
      (bytes.take n ++ List.replicate (size - n) 0).take n = bytes.take n := by
  constructor
  · simp only [List.length_append, List.length_take, List.length_replicate]
    omega
  · rw [List.take_append_of_le_length (by simp; omega), List.take_take, Nat.min_self]

theorem length_inlinePayloadBytes {event : NetIngressEvent P} (h : CarriesInline event) :
    (inlinePayloadBytes event).length = 4 + netMaxTopicBytes + netMaxInlinePayloadBytes := by
  simp only [inlinePayloadBytes, List.length_append, (padded h.topic h.topicLen).1,
    (padded h.payload h.payloadLen).1]
  rfl

theorem netMessage_inline {event : NetIngressEvent P} (h : CarriesInline event) :
    netMessage event = some (inlineMessage (inlinePayloadBytes event)) := by
  have hid : netEventId event = some .netMqttMsgRx := by
    simp [netEventId, h.kind, h.storage]
  have hform : ¬(event.payloadStorage ≠ .inline ∨ netMaxTopicBytes < event.topicLen.toNat ∨
      netMaxInlinePayloadBytes < event.payloadLen.toNat) := by
    rintro (hstorage | hlong | hlong)
    · exact hstorage h.storage
    · exact absurd h.topicLen (Nat.not_le.mpr hlong)
    · exact absurd h.payloadLen (Nat.not_le.mpr hlong)
  have hset (bytes : List UInt8) (hsize : bytes.length = 20) : ({ Msg.blank with
      eventId := .netMqttMsgRx, sourceActor := .runtime, targetActor := .none } : Msg P).setInlinePayload
        Callbacks.none (some bytes) bytes.length () = (.ok, inlineMessage bytes, ()) := by
    have htake : bytes.take 20 = bytes := List.take_of_length_le (Nat.le_of_eq hsize)
    obtain ⟨info, hinfo, hallows⟩ : ∃ info, eventMeta .netMqttMsgRx = some info ∧
        Msg.allowsInline info.payloadKind = true := ⟨_, rfl, rfl⟩
    simp [Msg.setInlinePayload, Msg.blank, Msg.hasCookie, Msg.isDisposed, hinfo, hallows,
      Msg.releaseAttachedPayload, Msg.clearPayload, inlineMessage, msgInlineCapacity, hsize, htake]
  simp only [netMessage, hid, Option.bind_some, netEventId_started hid]
  rw [if_neg (not_not.mpr rfl), if_true, if_neg hform, hset _ (length_inlinePayloadBytes h)]
  rfl

theorem netMessage_lease {event : NetIngressEvent (NetPtr κ)} {index : NetSlotIndex}
    (hkind : event.kind = .mqttMsgRx) (hstorage : event.payloadStorage = .lease)
    (hexternal : event.externalPayload = NetAdapter.payloadMakeLease index) :
    netMessage event = some (leaseMessage index) := by
  have hid : netEventId event = some .netMqttMsgRxLease := by
    simp [netEventId, hkind, hstorage]
  have hform : ¬((NetAdapter.payloadMakeLease (κ := κ) index).data.isNone ∨
      (NetAdapter.payloadMakeLease (κ := κ) index).size ≠ netMqttRxPayloadSize ∨
      (NetAdapter.payloadMakeLease (κ := κ) index).retainFn.isNone ∨
      (NetAdapter.payloadMakeLease (κ := κ) index).releaseFn.isNone) := by
    simp [NetAdapter.payloadMakeLease]
  have hevent : EventId.netMqttMsgRxLease ≠ EventId.netMqttMsgRx := by decide
  have hset : ({ Msg.blank with
      eventId := .netMqttMsgRxLease, sourceActor := .runtime, targetActor := .none } :
        Msg (NetPtr κ)).setExternalPayload Callbacks.none (NetAdapter.payloadMakeLease (κ := κ) index).data
        (NetAdapter.payloadMakeLease (κ := κ) index).size
        (NetAdapter.payloadMakeLease (κ := κ) index).retainFn
        (NetAdapter.payloadMakeLease (κ := κ) index).releaseFn
        (NetAdapter.payloadMakeLease (κ := κ) index).lifecycleCtx () = (.ok, leaseMessage index, ()) := by
    obtain ⟨info, hinfo, hkind⟩ : ∃ info, eventMeta .netMqttMsgRxLease = some info ∧
        info.payloadKind = .lease := ⟨_, rfl, rfl⟩
    simp [Msg.setExternalPayload, Msg.blank, Msg.hasCookie, Msg.isDisposed, hinfo, hkind,
      Msg.allowsExternal, Msg.releaseAttachedPayload, Msg.clearPayload, NetAdapter.payloadMakeLease,
      leaseMessage, netMqttRxPayloadSize]
  simp only [netMessage, hid, Option.bind_some, netEventId_started hid, hexternal]
  rw [if_neg (not_not.mpr rfl), if_neg hevent, if_true, if_neg hform, hset]
  rfl

end DemoApp

namespace MqttData

def bytesOf (source : Option (Nat → UInt8)) (length : Int) : List UInt8 :=
  source.elim [] fun bytes => (List.range length.toNat).map bytes

def record (data : MqttData) : List UInt8 × List UInt8 :=
  (bytesOf data.topic data.topicLen, bytesOf data.payload data.payloadLen)

end MqttData

theorem length_copyBytes (array : List UInt8) (source : Option (Nat → UInt8)) (n : Nat) :
    (copyBytes array source n).length = array.length := by
  cases source with
  | none => rfl
  | some bytes => exact List.length_mapIdx

theorem take_copyBytes {array : List UInt8} {source : Option (Nat → UInt8)} {length : Int}
    (hfits : length.toNat ≤ array.length) (hsome : source.isSome ∨ length ≤ 0) :
    (copyBytes array source length.toNat).take length.toNat = MqttData.bytesOf source length := by
  cases source with
  | none =>
    have hzero : length.toNat = 0 := Int.toNat_eq_zero.mpr (hsome.resolve_left Bool.false_ne_true)
    rw [hzero]
    rfl
  | some bytes =>
    apply List.ext_getElem
    · simp [copyBytes, MqttData.bytesOf, hfits]
    · intro i hi hi'
      have hlt : i < length.toNat := by simpa [MqttData.bytesOf] using hi'
      simp only [copyBytes, MqttData.bytesOf, Option.elim, List.getElem_take, List.getElem_mapIdx,
        List.getElem_map, List.getElem_range, if_pos hlt]

namespace NetAdapter

/-- The memory of an `ev_net_mqtt_rx_payload_t`. -/
def payloadMemory (payload : NetMqttRxPayload) : Nat → UInt8 := fun i =>
  ([payload.topicLen, payload.payloadLen, payload.qos, payload.retain] ++ payload.topic ++
    payload.payload).getD i 0

/-- What an actor finds behind a message whose payload is in the message or in a payload slot. -/
def inbound (net : NetAdapter κ) (msg : Msg (NetPtr κ)) : Inbound where
  eventId := msg.eventId
  payload := match msg.storage, msg.external.data with
    | .inline, _ => some msg.inlineMemory
    | .external, some (.slotPayload index) => some (payloadMemory (net.payloadSlots index).payload)
    | _, _ => none
  payloadSize := msg.payloadSize

end NetAdapter

namespace CommandActor

theorem map_getD_range' (before after : List UInt8) {part : List UInt8} {n : Nat} (h : n ≤ part.length) :
    (List.range' before.length n).map (fun i => (before ++ part ++ after).getD i 0) = part.take n := by
  apply List.ext_getElem
  · simp [h]
  · intro i hi hi'
    have hin : i < part.length := by
      simp at hi
      omega
    have hat : before.length + i < (before ++ part).length := by
      rw [List.length_append]
      exact Nat.add_lt_add_left hin _
    rw [List.getElem_map, List.getElem_range', List.getElem_take, List.getD_eq_getElem?_getD, one_mul,
      List.getElem?_append_left hat]
    simp [hin]

/-- Reading back a record of four bytes, the topic and the payload. -/
theorem readRecord_bytes (msg : Inbound) (qos retain : UInt8) {topicLen payloadLen : UInt8}
    {topic payload : List UInt8} {topicStorage payloadStorage : Nat} (htopic : topic.length = topicStorage)
    (hpayload : payload.length = payloadStorage) (htopicLen : topicLen.toNat ≤ topicStorage)
    (hpayloadLen : payloadLen.toNat ≤ payloadStorage)
    (hmemory : msg.payload = some fun i =>
      ([topicLen, payloadLen, qos, retain] ++ topic ++ payload).getD i 0)
    (hsize : msg.payloadSize = 4 + topicStorage + payloadStorage) :
    readRecord topicStorage payloadStorage msg =
      some (topic.take topicLen.toNat, payload.take payloadLen.toNat) := by
  have hhead := map_getD_range' [topicLen, payloadLen, qos, retain] payload
    (htopic.symm ▸ htopicLen)
  have htail := map_getD_range' ([topicLen, payloadLen, qos, retain] ++ topic) []
    (hpayload.symm ▸ hpayloadLen)
  rw [List.append_nil, List.length_append, htopic] at htail
  unfold readRecord
  rw [hmemory]
  simp only [Option.bind_some, hsize, ne_eq, not_true_eq_false, if_false]
  exact congrArg some (Prod.ext hhead htail)

end CommandActor

namespace MqttData

theorem isValid_iff {data : MqttData} : data.isValid = true ↔
    data.topic.isSome = true ∧ 0 ≤ data.topicLen ∧ 0 ≤ data.payloadLen ∧
      (data.payload.isSome = true ∨ data.payloadLen ≤ 0) := by
  simp [isValid, and_assoc]

theorem toNat_length {length : Int} {bound : Nat} (h : length.toNat ≤ bound) (hbound : bound < 256) :
    (UInt8.ofNat length.toNat).toNat = length.toNat :=
  UInt8.toNat_ofNat_of_lt' (Nat.lt_of_le_of_lt h hbound)

end MqttData

namespace NetAdapter

variable {data : MqttData} {net : NetAdapter κ} {index : NetSlotIndex}

theorem inline_record (hvalid : data.isValid = true) (hfits : data.fitsInline = true)
    (net : NetAdapter κ) : ∃ bytes,
      DemoApp.netMessage (data.inlineEvent (κ := κ)) = some (DemoApp.inlineMessage bytes) ∧
      CommandActor.mqttRecord (net.inbound (DemoApp.inlineMessage bytes)) = some data.record := by
  obtain ⟨htopic, -, -, hpayload⟩ := MqttData.isValid_iff.mp hvalid
  simp only [MqttData.fitsInline, Bool.and_eq_true, decide_eq_true_eq] at hfits
  have htopicLen := MqttData.toNat_length hfits.1 (by decide)
  have hpayloadLen := MqttData.toNat_length hfits.2 (by decide)
  have hcarries : DemoApp.CarriesInline (data.inlineEvent (κ := κ)) :=
    ⟨rfl, rfl, length_copyBytes _ _ _, length_copyBytes _ _ _, htopicLen.le.trans hfits.1,
      hpayloadLen.le.trans hfits.2⟩
  obtain ⟨htopicSize, htopicTake⟩ := DemoApp.padded hcarries.topic hcarries.topicLen
  obtain ⟨hpayloadSize, hpayloadTake⟩ := DemoApp.padded hcarries.payload hcarries.payloadLen
  refine ⟨_, DemoApp.netMessage_inline hcarries, ?_⟩
  have hread := CommandActor.readRecord_bytes
    (net.inbound (DemoApp.inlineMessage (DemoApp.inlinePayloadBytes data.inlineEvent))) 0 0
    htopicSize hpayloadSize hcarries.topicLen hcarries.payloadLen rfl
    (DemoApp.length_inlinePayloadBytes hcarries)
  refine hread.trans (congrArg some (Prod.ext ?_ ?_))
  · rw [htopicTake]
    change (copyBytes _ _ _).take (UInt8.ofNat _).toNat = _
    rw [htopicLen]
    exact take_copyBytes hfits.1 (Or.inl htopic)
  · rw [hpayloadTake]
    change (copyBytes _ _ _).take (UInt8.ofNat _).toNat = _
    rw [hpayloadLen]
    exact take_copyBytes hfits.2 hpayload

def slotRecord (payload : NetMqttRxPayload) : List UInt8 × List UInt8 :=
  (payload.topic.take payload.topicLen.toNat, payload.payload.take payload.payloadLen.toNat)

/-- The lengths of a payload are those of bytes it has room for. -/
def Fitting (payload : NetMqttRxPayload) : Prop :=
  payload.topicLen.toNat ≤ netMaxTopicStorageBytes ∧
    payload.payloadLen.toNat ≤ netMaxPayloadStorageBytes

theorem lease_record (hsized : Sized (net.payloadSlots index).payload)
    (hfitting : Fitting (net.payloadSlots index).payload) :
    CommandActor.mqttRecord (net.inbound (DemoApp.leaseMessage index)) =
      some (slotRecord (net.payloadSlots index).payload) :=
  CommandActor.readRecord_bytes _ _ _ hsized.topic hsized.payload hfitting.1 hfitting.2 rfl rfl

theorem fill_record (hvalid : data.isValid = true) (hfits : data.fitsStorage = true) :
    Fitting (data.fill {}) ∧ slotRecord (data.fill {}) = data.record := by
  obtain ⟨htopic, -, -, hpayload⟩ := MqttData.isValid_iff.mp hvalid
  simp only [MqttData.fitsStorage, Bool.and_eq_true, decide_eq_true_eq] at hfits
  have htopicLen := MqttData.toNat_length hfits.1 (by decide)
  have hpayloadLen := MqttData.toNat_length hfits.2 (by decide)
  refine ⟨⟨htopicLen.le.trans hfits.1, hpayloadLen.le.trans hfits.2⟩, ?_⟩
  refine Prod.ext ?_ ?_
  · change (copyBytes _ _ _).take (UInt8.ofNat _).toNat = _
    rw [htopicLen]
    exact take_copyBytes hfits.1 (Or.inl htopic)
  · change (copyBytes _ _ _).take (UInt8.ofNat _).toNat = _
    rw [hpayloadLen]
    exact take_copyBytes hfits.2 hpayload

end NetAdapter

end EventFramework
