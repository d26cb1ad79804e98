import EventFramework.Adapters.NetLinks
import EventFramework.Core.PayloadOwner

/-!
# Shares of the payload slots

`Counts net c` says that the reference counts of the payload slots are the function `c` from slots to
numbers of shares. The functions of the adapter move it by the shares that they take and give back,
and write into no slot that another share holds.
-/

namespace EventFramework
set_option autoImplicit false

variable {κ : Type}

namespace ExternalPayload

def netSlot (external : ExternalPayload (NetPtr κ)) : Option NetSlotIndex :=
  match external.data with
  | some (.slotPayload index) => some index
  | _ => none

end ExternalPayload

namespace NetAdapter

structure Sized (payload : NetMqttRxPayload) : Prop where
  topic : payload.topic.length = netMaxTopicStorageBytes
  payload : payload.payload.length = netMaxPayloadStorageBytes

/-- The reference counts of the payload slots are `c`. -/
structure Counts (net : NetAdapter κ) (c : NetSlotIndex → Nat) : Prop where
  refcount : ∀ index, (net.payloadSlots index).refcount.toNat = c index
  inUse : ∀ index, (net.payloadSlots index).inUse = decide (0 < c index)
  sized : ∀ index, Sized (net.payloadSlots index).payload
  total : net.payloadSlotsInUse =
    UInt32.ofNat (Finset.univ.filter fun index => (net.payloadSlots index).inUse = true).card

structure SameSlots (net net' : NetAdapter κ) : Prop where
  payloadSlots : net'.payloadSlots = net.payloadSlots
  payloadSlotsInUse : net'.payloadSlotsInUse = net.payloadSlotsInUse

def addShare (index : NetSlotIndex) (c : NetSlotIndex → Nat) : NetSlotIndex → Nat :=
  Function.update c index (c index + 1)

def subShare (index : NetSlotIndex) (c : NetSlotIndex → Nat) : NetSlotIndex → Nat :=
  Function.update c index (c index - 1)

/-- The slots that are shared keep their payload. -/
def KeepsPayload (net net' : NetAdapter κ) (c : NetSlotIndex → Nat) : Prop :=
  ∀ index, 0 < c index → (net'.payloadSlots index).payload = (net.payloadSlots index).payload

variable {net net' net'' : NetAdapter κ} {c : NetSlotIndex → Nat} {index : NetSlotIndex}

theorem SameSlots.refl (net : NetAdapter κ) : net.SameSlots net := ⟨rfl, rfl⟩

theorem SameSlots.trans (h : net.SameSlots net') (h' : net'.SameSlots net'') : net.SameSlots net'' :=
  ⟨h'.payloadSlots.trans h.payloadSlots, h'.payloadSlotsInUse.trans h.payloadSlotsInUse⟩

theorem SameSlots.keeps (h : net.SameSlots net') (c : NetSlotIndex → Nat) : net.KeepsPayload net' c :=
  fun index _ => by rw [h.payloadSlots]

theorem Counts.same (h : net.Counts c) (hsame : net.SameSlots net') : net'.Counts c := by
  refine ⟨?_, ?_, ?_, ?_⟩
  · intro index
    rw [hsame.payloadSlots]
    exact h.refcount index
  · intro index
    rw [hsame.payloadSlots]
    exact h.inUse index
  · intro index
    rw [hsame.payloadSlots]
    exact h.sized index
  · rw [hsame.payloadSlots, hsame.payloadSlotsInUse]
    exact h.total

theorem counts_initialised (seq : UInt32) :
    ({ writeSeq := seq, readSeq := seq } : NetAdapter κ).Counts fun _ => 0 :=
  ⟨fun _ => rfl, fun _ => rfl, fun _ => ⟨rfl, rfl⟩, by simp⟩

/-- A slot in use is one of the few there are. -/
theorem Counts.total_pos (h : net.Counts c) (hpos : 0 < c index) : 0 < net.payloadSlotsInUse := by
  have hused : (net.payloadSlots index).inUse = true := by
    rw [h.inUse]
    exact decide_eq_true hpos
  have hcard : (Finset.univ.filter fun index => (net.payloadSlots index).inUse = true).card ≤ 4 :=
    Finset.card_le_univ _
  have hne : 0 < (Finset.univ.filter fun index => (net.payloadSlots index).inUse = true).card :=
    Finset.card_pos.mpr ⟨index, Finset.mem_filter.mpr ⟨Finset.mem_univ _, hused⟩⟩
  rw [h.total, UInt32.lt_iff_toNat_lt, UInt32.toNat_ofNat_of_lt' (Nat.lt_of_le_of_lt hcard (by decide))]
  exact hne

/-- One slot is written: the counts follow if its own does, and so does the number in use. -/
theorem Counts.setSlot (h : net.Counts c) (index : NetSlotIndex) (slot : NetPayloadSlot)
    (shares : Nat) (inUse : UInt32)
    (hcount : slot.refcount.toNat = shares) (hused : slot.inUse = decide (0 < shares))
    (hsized : Sized slot.payload)
    (htotal : inUse + UInt32.ofNat (net.payloadSlots index).inUse.toNat =
      net.payloadSlotsInUse + UInt32.ofNat slot.inUse.toNat) :
    { net.setSlot index slot with payloadSlotsInUse := inUse }.Counts
      (Function.update c index shares) := by
  refine ⟨?_, ?_, ?_, ?_⟩
  · intro other
    by_cases hother : other = index
    · subst hother
      simpa [NetAdapter.setSlot] using hcount
    · simpa [NetAdapter.setSlot, hother] using h.refcount other
  · intro other
    by_cases hother : other = index
    · subst hother
      simpa [NetAdapter.setSlot] using hused
    · simpa [NetAdapter.setSlot, hother] using h.inUse other
  · intro other
    by_cases hother : other = index
    · subst hother
      simpa [NetAdapter.setSlot] using hsized
    · simpa [NetAdapter.setSlot, hother] using h.sized other
  · have hcard := congrArg UInt32.ofNat (card_filter_update (Finset.mem_univ index)
      NetPayloadSlot.inUse net.payloadSlots slot)
    rw [UInt32.ofNat_add, UInt32.ofNat_add, ← h.total, ← htotal] at hcard
    exact ((UInt32.add_left_inj _).mp hcard).symm

theorem Counts.acquire (h : net.Counts c) (hslot : net.payloadAcquire.1 = some index) :
    c index = 0 ∧ net.payloadAcquire.2.Counts (addShare index c) ∧
      net.KeepsPayload net.payloadAcquire.2 c ∧
      (net.payloadAcquire.2.payloadSlots index).payload = {} ∧
      net.payloadAcquire.2.payloadSlotsInUse = net.payloadSlotsInUse + 1 := by
  cases hfree : net.firstFree with
  | none => simp [payloadAcquire, hfree] at hslot
  | some found =>
    have hfound : found = index := by simpa [payloadAcquire, hfree] using hslot
    subst hfound
    have hunused : (net.payloadSlots found).inUse = false := by
      simpa using List.find?_some hfree
    have hzero : c found = 0 := by
      have hused := h.inUse found
      rw [hunused] at hused
      exact Nat.eq_zero_of_not_pos (of_decide_eq_false hused.symm)
    have hset := h.setSlot found (acquiredSlot (net.payloadSlots found)) 1 (net.payloadSlotsInUse + 1)
      rfl rfl ⟨rfl, rfl⟩ (by rw [hunused]; exact UInt32.add_zero _)
    have hone : addShare found c = Function.update c found 1 := by rw [addShare, hzero]
    simp only [payloadAcquire, hfree]
    refine ⟨hzero, ?_, ?_, ?_, trivial⟩
    · rw [hone]
      exact ⟨hset.refcount, hset.inUse, hset.sized, hset.total⟩
    · intro other hother
      have hne : other ≠ found := by
        rintro rfl
        exact absurd hzero hother.ne'
      simp [NetAdapter.setSlot, NetAdapter.count, hne]
    · simp [NetAdapter.setSlot, NetAdapter.count, acquiredSlot]

theorem acquire_none (hslot : net.payloadAcquire.1 = none) : net.SameSlots net.payloadAcquire.2 := by
  cases hfree : net.firstFree with
  | none =>
    simp only [payloadAcquire, hfree]
    exact ⟨rfl, rfl⟩
  | some found => simp [payloadAcquire, hfree] at hslot

theorem Counts.retainSlot (h : net.Counts c) (hpos : 0 < c index) (hroom : c index + 1 < 2 ^ 32) :
    (net.retainSlot index).1 = .ok ∧ (net.retainSlot index).2.Counts (addShare index c) ∧
      net.KeepsPayload (net.retainSlot index).2 c := by
  have hused : (net.payloadSlots index).inUse = true := by
    rw [h.inUse]
    exact decide_eq_true hpos
  have hne : (net.payloadSlots index).refcount ≠ 0 := by
    intro hzero
    have hcount := h.refcount index
    rw [hzero] at hcount
    exact absurd hcount.symm hpos.ne'
  have hretain : net.retainSlot index = (.ok, net.setSlot index
      { net.payloadSlots index with refcount := (net.payloadSlots index).refcount + 1 }) := by
    simp [NetAdapter.retainSlot, hused, hne]
  have hcount : ((net.payloadSlots index).refcount + 1).toNat = c index + 1 := by
    rw [UInt32.toNat_add, h.refcount]
    exact Nat.mod_eq_of_lt hroom
  rw [hretain]
  refine ⟨rfl, ?_, ?_⟩
  · exact h.setSlot index _ _ net.payloadSlotsInUse hcount
      (hused.trans (decide_eq_true (Nat.succ_pos _)).symm) (h.sized index) rfl
  · intro other _
    by_cases hother : other = index
    · subst hother
      simp [NetAdapter.setSlot]
    · simp [NetAdapter.setSlot, hother]

theorem Counts.releaseSlot (h : net.Counts c) (hpos : 0 < c index) :
    (net.releaseSlot index).Counts (subShare index c) ∧
      net.KeepsPayload (net.releaseSlot index) (subShare index c) ∧
      (c index = 1 → (net.releaseSlot index).payloadSlotsInUse = net.payloadSlotsInUse - 1) := by
  have hused : (net.payloadSlots index).inUse = true := by
    rw [h.inUse]
    exact decide_eq_true hpos
  have hcount := h.refcount index
  have hone : (1 : UInt32).toNat ≤ (net.payloadSlots index).refcount.toNat := hcount ▸ hpos
  have hless : ((net.payloadSlots index).refcount - 1).toNat = c index - 1 := by
    rw [UInt32.toNat_sub_of_le _ _ (UInt32.le_iff_toNat_le.mpr hone), hcount]
    rfl
  have hrelease : net.releaseSlot index = (net.dropShare index).count fun c =>
      { c with payloadSlotReleaseCount := c.payloadSlotReleaseCount + 1 } := by
    have hgt : (net.payloadSlots index).refcount > 0 := UInt32.lt_iff_toNat_lt.mpr hone
    simp [NetAdapter.releaseSlot, hused, hgt]
  have hsame : (net.dropShare index).SameSlots (net.releaseSlot index) := by
    rw [hrelease]
    exact ⟨rfl, rfl⟩
  by_cases hlast : c index = 1
  · have hzero : (net.payloadSlots index).refcount - 1 = 0 := by
      apply UInt32.toNat_inj.mp
      rw [hless, hlast]
      rfl
    have htotal := h.total_pos hpos
    have hdrop : net.dropShare index = { net.setSlot index
        { net.payloadSlots index with inUse := false, refcount := 0, payload := {} } with
        payloadSlotsInUse := net.payloadSlotsInUse - 1 } := by
      have hgt : net.payloadSlotsInUse > 0 := htotal
      simp [NetAdapter.dropShare, hzero, hgt]
    have hcounts := h.setSlot index
      { net.payloadSlots index with inUse := false, refcount := 0, payload := {} } 0
      (net.payloadSlotsInUse - 1) rfl rfl ⟨rfl, rfl⟩
      (by rw [hused]; exact (UInt32.sub_add_cancel _ _).trans (UInt32.add_zero _).symm)
    rw [← hdrop] at hcounts
    have hsub : subShare index c = Function.update c index 0 := by rw [subShare, hlast]
    refine ⟨?_, ?_, fun _ => ?_⟩
    · rw [hsub]
      exact hcounts.same hsame
    · intro other hother
      have hne : other ≠ index := by
        rintro rfl
        rw [hsub, Function.update_self] at hother
        exact absurd hother (Nat.lt_irrefl 0)
      rw [hsame.payloadSlots, hdrop]
      simp [NetAdapter.setSlot, hne]
    · rw [hsame.payloadSlotsInUse, hdrop]
  · have hne : (net.payloadSlots index).refcount - 1 ≠ 0 := by
      intro hzero
      rw [hzero] at hless
      have : (0 : UInt32).toNat = 0 := rfl
      omega
    have hdrop : net.dropShare index = net.setSlot index
        { net.payloadSlots index with refcount := (net.payloadSlots index).refcount - 1 } := by
      simp [NetAdapter.dropShare, hne]
    have hcounts := h.setSlot index
      { net.payloadSlots index with refcount := (net.payloadSlots index).refcount - 1 } _
      net.payloadSlotsInUse hless (hused.trans (decide_eq_true (by omega)).symm) (h.sized index) rfl
    refine ⟨?_, ?_, fun hone => absurd hone hlast⟩
    · have hset : (net.dropShare index).Counts (subShare index c) := by
        rw [hdrop]
        exact hcounts
      exact hset.same hsame
    · intro other _
      rw [hsame.payloadSlots, hdrop]
      by_cases hother : other = index
      · subst hother
        simp [NetAdapter.setSlot]
      · simp [NetAdapter.setSlot, hother]

/-- The copy of the data into a slot: the others keep their payload. -/
theorem Counts.fillSlot (h : net.Counts c) (index : NetSlotIndex) (data : MqttData) :
    (net.fillSlot index data).Counts c ∧
      ((net.fillSlot index data).payloadSlots index).payload =
        data.fill (net.payloadSlots index).payload ∧
      (∀ other, other ≠ index → (net.fillSlot index data).payloadSlots other =
        net.payloadSlots other) ∧
      (net.fillSlot index data).payloadSlotsInUse = net.payloadSlotsInUse := by
  have hcopy (array : List UInt8) (source : Option (Nat → UInt8)) (n : Nat) :
      (copyBytes array source n).length = array.length := by
    cases source with
    | none => rfl
    | some bytes => exact List.length_mapIdx
  have hset := h.setSlot index
    { net.payloadSlots index with payload := data.fill (net.payloadSlots index).payload } _
    net.payloadSlotsInUse (h.refcount index) (h.inUse index)
    ⟨(hcopy _ _ _).trans (h.sized index).topic, (hcopy _ _ _).trans (h.sized index).payload⟩ rfl
  rw [Function.update_eq_self] at hset
  refine ⟨hset, ?_, ?_, rfl⟩
  · simp [NetAdapter.fillSlot, NetAdapter.setSlot]
  · intro other hother
    simp [NetAdapter.fillSlot, NetAdapter.setSlot, hother]

theorem pushEvent_slots (event : NetIngressEvent (NetPtr κ)) (net : NetAdapter κ) :
    net.SameSlots (net.pushEvent event).2 := by
  unfold pushEvent recordHighWatermark
  split
  · exact ⟨rfl, rfl⟩
  · split <;> exact ⟨rfl, rfl⟩

theorem noteWifiUp_slots (net : NetAdapter κ) : net.SameSlots net.noteWifiUp.2 := by
  unfold noteWifiUp
  split <;> exact ⟨rfl, rfl⟩

theorem noteMqttUp_slots (net : NetAdapter κ) : net.SameSlots net.noteMqttUp.2 := by
  unfold noteMqttUp
  split <;> exact ⟨rfl, rfl⟩

theorem noteMqttDown_slots (net : NetAdapter κ) : net.SameSlots net.noteMqttDown.2 := by
  unfold noteMqttDown
  split <;> exact ⟨rfl, rfl⟩

theorem noteWifiDown_slots (nowUs : Int) (net : NetAdapter κ) :
    net.SameSlots (net.noteWifiDown nowUs).2 := by
  have hwifi : net.SameSlots net.clearWifi.2 := by
    unfold clearWifi
    split <;> exact ⟨rfl, rfl⟩
  have hreconnect (net : NetAdapter κ) : net.SameSlots (net.noteReconnect nowUs).2 := by
    unfold noteReconnect
    split <;> exact ⟨rfl, rfl⟩
  exact (hwifi.trans (noteMqttDown_slots _)).trans (hreconnect _)

end NetAdapter

namespace MqttTask

def slot : MqttTask → Option NetSlotIndex
  | .fill index _ | .pushLease index _ | .releaseSlot index => some index
  | .idle | .pushKind _ | .record _ _ => none

/-- The handler is not busy with data. -/
def NoData : MqttTask → Prop
  | .idle | .pushKind _ => True
  | _ => False

theorem NoData.slot_eq {task : MqttTask} (h : task.NoData) : task.slot = none := by
  cases task with
  | idle | pushKind _ => rfl
  | fill _ _ | pushLease _ _ | releaseSlot _ | record _ _ => exact h.elim

end MqttTask

namespace NetSystem

variable {s t : NetSystem κ}

/-- Between the two states only events of the links were pushed, and no slot was touched. -/
structure LinksOnly (s t : NetSystem κ) : Prop where
  slots : s.net.SameSlots t.net
  task : t.mqtt = s.mqtt ∨ s.mqtt.NoData ∧ t.mqtt.NoData
  events : ∃ kinds : List NetEventKind, (∀ kind ∈ kinds, kind.edge.isSome = true) ∧
    t.net.events = s.net.events ++ kinds.map fun kind => { kind := kind }

theorem LinksOnly.of_ring (hslots : s.net.SameSlots t.net)
    (htask : t.mqtt = s.mqtt ∨ s.mqtt.NoData ∧ t.mqtt.NoData) (hring : s.net.SameRing t.net) :
    LinksOnly s t :=
  ⟨hslots, htask, [], by simp, by rw [hring.events]; exact (List.append_nil _).symm⟩

theorem LinksOnly.pushKind {kind : NetEventKind} (hkind : kind.edge.isSome = true)
    (hcount : s.net.pending.toNat ≤ 16) (htask : t.mqtt = s.mqtt ∨ s.mqtt.NoData ∧ t.mqtt.NoData)
    (hnet : t.net = s.net) : LinksOnly s (t.pushEvent { kind := kind }).2 := by
  obtain ⟨_, hpushed, _, hmqtt⟩ := pushEvent_eq t { kind := kind }
  rw [hnet] at hpushed
  refine ⟨?_, ?_, ?_⟩
  · rw [hpushed]
    exact NetAdapter.pushEvent_slots _ _
  · rw [hmqtt]
    exact htask
  · rw [hpushed]
    rcases (NetAdapter.pushEvent_cases hcount { kind := kind }).2.2 with ⟨_, hevents⟩ | ⟨_, hevents⟩
    · exact ⟨[kind], by simpa using hkind, hevents⟩
    · exact ⟨[], by simp, hevents.trans (List.append_nil _).symm⟩

/-- The critical sections that have to do with a link only. -/
def IsLink (s : NetSystem κ) : NetInput κ → Prop
  | .wifi _ | .wifiStep | .start _ | .stop | .controlStep => True
  | .mqtt event => match event with
    | .data _ => False
    | _ => True
  | .mqttStep => s.mqtt.NoData
  | .poll | .payloadRetain _ _ _ | .payloadRelease _ _ _ => False

theorem LinksOnly.refl (s : NetSystem κ) : LinksOnly s s :=
  .of_ring (.refl _) (Or.inl rfl) ⟨rfl, rfl, rfl⟩

theorem linksOnly_wifi (s : NetSystem κ) (event : WifiEvent) : LinksOnly s (s.step (.wifi event)) := by
  simp only [NetSystem.step]
  split
  · cases event with
    | gotIp =>
      exact .of_ring (NetAdapter.noteWifiUp_slots _) (Or.inl rfl) s.net.noteWifiUp_spec.2.1
    | disconnected nowUs =>
      exact .of_ring (NetAdapter.noteWifiDown_slots _ _) (Or.inl rfl)
        (s.net.noteWifiDown_spec nowUs).2.2.1
  · exact .refl s

theorem linksOnly_wifiStep (h : s.Inv) : LinksOnly s s.wifiStep := by
  unfold wifiStep
  split
  · exact .refl s
  · rename_i kind rest howes
    have hshape := h.wifiOwes
    rw [howes] at hshape
    have hkind : kind.edge.isSome = true := by
      cases kind with
      | none | mqttMsgRx => simp at hshape
      | wifiUp | wifiDown | mqttUp | mqttDown => rfl
    exact .pushKind hkind h.count_le (Or.inl rfl) rfl

theorem linksOnly_mqttNoted {noted : Bool × NetAdapter κ} (kind : NetEventKind)
    (hidle : s.mqtt = .idle) (hslots : s.net.SameSlots noted.2) (hring : s.net.SameRing noted.2) :
    LinksOnly s (s.mqttNoted noted kind) := by
  refine .of_ring hslots (Or.inr ?_) hring
  rw [hidle, mqttNoted]
  cases noted.1 with
  | false => exact ⟨trivial, trivial⟩
  | true => exact ⟨trivial, trivial⟩

theorem linksOnly_mqtt {event : MqttEvent} (hlink : s.IsLink (.mqtt event)) :
    LinksOnly s (s.step (.mqtt event)) := by
  cases event with
  | data data => exact hlink.elim
  | connected =>
    simp only [NetSystem.step]
    split
    · rename_i hidle
      exact linksOnly_mqttNoted _ hidle (NetAdapter.noteMqttUp_slots _) s.net.noteMqttUp_spec.2.1
    · exact .refl s
  | disconnected | error =>
    simp only [NetSystem.step]
    split
    · rename_i hidle
      exact linksOnly_mqttNoted _ hidle (NetAdapter.noteMqttDown_slots _) s.net.noteMqttDown_spec.2.1
    · exact .refl s

theorem linksOnly_mqttStep (h : s.Inv) (hlink : s.mqtt.NoData) : LinksOnly s s.mqttStep := by
  unfold mqttStep
  cases htask : s.mqtt with
  | idle => exact .refl s
  | pushKind kind =>
    have hshape := h.mqttOwes
    rw [htask] at hshape
    have hkind : kind.edge.isSome = true := by
      cases kind with
      | none | mqttMsgRx => simp [MqttTask.owes] at hshape
      | wifiUp | wifiDown | mqttUp | mqttDown => rfl
    refine .pushKind hkind h.count_le (Or.inr ⟨?_, trivial⟩) rfl
    rw [htask]
    trivial
  | fill _ _ | pushLease _ _ | releaseSlot _ | record _ _ =>
    rw [htask] at hlink
    exact hlink.elim

theorem linksOnly_controlStep (s : NetSystem κ) : LinksOnly s s.controlStep := by
  unfold controlStep
  split
  · exact .refl s
  · exact .of_ring ⟨rfl, rfl⟩ (Or.inl rfl) ⟨rfl, rfl, rfl⟩
  · exact .of_ring ⟨rfl, rfl⟩ (Or.inl rfl) ⟨rfl, rfl, rfl⟩
  · refine .of_ring (NetAdapter.noteMqttDown_slots _) (Or.inl ?_) s.net.noteMqttDown_spec.2.1
    simp only
    split <;> rfl
  · exact .of_ring ⟨rfl, rfl⟩ (Or.inl rfl) ⟨rfl, rfl, rfl⟩
  · exact .of_ring ⟨rfl, rfl⟩ (Or.inl rfl) ⟨rfl, rfl, rfl⟩
  · refine .of_ring ⟨rfl, rfl⟩ (Or.inl ?_) ⟨rfl, rfl, rfl⟩
    simp only
    split <;> rfl

theorem linksOnly_step (h : s.Inv) {input : NetInput κ} (hlink : s.IsLink input) :
    LinksOnly s (s.step input) := by
  cases input with
  | wifi event => exact linksOnly_wifi s event
  | wifiStep => exact linksOnly_wifiStep h
  | mqtt event => exact linksOnly_mqtt hlink
  | mqttStep => exact linksOnly_mqttStep h hlink
  | start wifiStartOk =>
    simp only [NetSystem.step]
    split
    · exact .of_ring ⟨rfl, rfl⟩ (Or.inl rfl) ⟨rfl, rfl, rfl⟩
    · exact .refl s
  | stop =>
    simp only [NetSystem.step]
    split
    · exact .of_ring ⟨rfl, rfl⟩ (Or.inl rfl) ⟨rfl, rfl, rfl⟩
    · exact .refl s
  | controlStep => exact linksOnly_controlStep s
  | poll | payloadRetain _ _ _ | payloadRelease _ _ _ => exact hlink.elim

end NetSystem

end EventFramework
