import EventFramework.Adapters.NetShares

/-!
# What the callbacks push

A callback of the network pushes events into the ring. At most one of them holds a payload slot,
which was free before, and then the slot has the share of the event.
-/

namespace EventFramework
set_option autoImplicit false

variable {κ : Type}

namespace NetAdapter

def eventsHold (events : List (NetIngressEvent (NetPtr κ))) (index : NetSlotIndex) : Nat :=
  events.countP fun event => decide (event.externalPayload.netSlot = some index)

variable {net net' net'' : NetAdapter κ} {c : NetSlotIndex → Nat}

theorem eventsHold_append (a b : List (NetIngressEvent (NetPtr κ))) (index : NetSlotIndex) :
    eventsHold (a ++ b) index = eventsHold a index + eventsHold b index :=
  List.countP_append

theorem eventsHold_eq_zero {events : List (NetIngressEvent (NetPtr κ))} {index : NetSlotIndex}
    (h : ∀ event ∈ events, event.externalPayload.netSlot = none) : eventsHold events index = 0 := by
  refine List.countP_eq_zero.mpr fun event hevent => ?_
  simp [h event hevent]

/-- The event holds a slot by the lease of the slot, as an MQTT message or as no event at all. -/
def WellLeased (event : NetIngressEvent (NetPtr κ)) : Prop :=
  ∀ index, event.externalPayload.netSlot = some index → event.payloadStorage = .lease ∧
    event.externalPayload = payloadMakeLease index ∧
    (event.kind = .mqttMsgRx ∨ event.kind = .none)

theorem wellLeased_of_none {event : NetIngressEvent (NetPtr κ)}
    (h : event.externalPayload.netSlot = none) : WellLeased event := by
  intro index hslot
  rw [h] at hslot
  cases hslot

/-- What the callbacks of the adapter do: the slots that were shared keep their payload, and of the
events pushed one at most holds a slot, which was free. -/
structure Pushes (c : NetSlotIndex → Nat) (net net' : NetAdapter κ) : Prop where
  pending : net'.pending.toNat ≤ 16
  stable : net.KeepsPayload net' c
  events : ∃ pushed, net'.events = net.events ++ pushed ∧ (∀ event ∈ pushed, WellLeased event) ∧
    net'.Counts (fun index => c index + eventsHold pushed index) ∧
    ∀ index, 0 < eventsHold pushed index → c index = 0 ∧ eventsHold pushed index = 1

/-- Only events outside the slots are pushed. -/
structure PushesLinks (net net' : NetAdapter κ) : Prop where
  pending : net'.pending.toNat ≤ 16
  slots : net.SameSlots net'
  events : ∃ pushed, net'.events = net.events ++ pushed ∧
    ∀ event ∈ pushed, event.externalPayload.netSlot = none

theorem PushesLinks.pushes (h : PushesLinks net net') (hcounts : net.Counts c) : Pushes c net net' := by
  obtain ⟨pushed, hevents, hplain⟩ := h.events
  refine ⟨h.pending, h.slots.keeps c, pushed, hevents,
    fun event hevent => wellLeased_of_none (hplain event hevent), ?_, fun index hpos => ?_⟩
  · have hsame : (fun index => c index + eventsHold pushed index) = c := funext fun index => by
      rw [eventsHold_eq_zero hplain, Nat.add_zero]
    rw [hsame]
    exact hcounts.same h.slots
  · rw [eventsHold_eq_zero hplain] at hpos
    exact absurd hpos (Nat.lt_irrefl 0)

theorem PushesLinks.of_ring (hpending : net.pending.toNat ≤ 16) (hslots : net.SameSlots net')
    (hring : net.SameRing net') : PushesLinks net net' :=
  ⟨hring.pending ▸ hpending, hslots, [], by rw [hring.events, List.append_nil], by simp⟩

theorem PushesLinks.trans (h : PushesLinks net net') (h' : PushesLinks net' net'') :
    PushesLinks net net'' := by
  obtain ⟨first, hfirst, hplain⟩ := h.events
  obtain ⟨second, hsecond, hplain'⟩ := h'.events
  refine ⟨h'.pending, h.slots.trans h'.slots, first ++ second, ?_, ?_⟩
  · rw [hsecond, hfirst, List.append_assoc]
  · intro event hevent
    exact (List.mem_append.mp hevent).elim (hplain event) (hplain' event)

theorem PushesLinks.pushEvent (hpending : net.pending.toNat ≤ 16) {event : NetIngressEvent (NetPtr κ)}
    (hplain : event.externalPayload.netSlot = none) : PushesLinks net (net.pushEvent event).2 := by
  obtain ⟨_, hpending', hevents⟩ := pushEvent_cases hpending event
  refine ⟨hpending', pushEvent_slots event net, ?_⟩
  rcases hevents with ⟨_, hevents⟩ | ⟨_, hevents⟩
  · exact ⟨[event], hevents, by simpa using hplain⟩
  · exact ⟨[], hevents.trans (List.append_nil _).symm, by simp⟩

theorem PushesLinks.noted (h : PushesLinks net net') (kind : NetEventKind) (noted : Bool) :
    PushesLinks net (if noted then net'.pushKind kind else net') := by
  cases noted with
  | false => exact h
  | true => exact h.trans (.pushEvent h.pending rfl)

theorem wifiEventHandler_pushes (hpending : net.pending.toNat ≤ 16) (event : WifiEvent) :
    PushesLinks net (net.wifiEventHandler event) := by
  cases event with
  | gotIp =>
    exact (PushesLinks.of_ring hpending (noteWifiUp_slots net) net.noteWifiUp_spec.2.1).noted
      .wifiUp net.noteWifiUp.1
  | disconnected nowUs =>
    exact ((PushesLinks.of_ring hpending (noteWifiDown_slots nowUs net)
      (net.noteWifiDown_spec nowUs).2.2.1).noted .mqttDown (net.noteWifiDown nowUs).1.pushMqttDown).noted
        .wifiDown (net.noteWifiDown nowUs).1.pushWifiDown

theorem startFn_pushes (hpending : net.pending.toNat ≤ 16) (wifiStartOk wifiConnectOk : Bool) :
    PushesLinks net (net.startFn wifiStartOk wifiConnectOk).2 := by
  unfold startFn
  simp only
  split
  · exact .of_ring hpending ⟨rfl, rfl⟩ ⟨rfl, rfl, rfl⟩
  · split
    · exact .of_ring hpending ⟨rfl, rfl⟩ ⟨rfl, rfl, rfl⟩
    · dsimp only
      split <;> exact .of_ring hpending ⟨rfl, rfl⟩ ⟨rfl, rfl, rfl⟩

theorem stopFn_pushes (hpending : net.pending.toNat ≤ 16) : PushesLinks net net.stopFn := by
  have hsnapshot (net : NetAdapter κ) : net.SameSlots net.snapshotState.2 ∧
      net.SameRing net.snapshotState.2 := ⟨⟨rfl, rfl⟩, ⟨rfl, rfl, rfl⟩⟩
  have hstarted (net : NetAdapter κ) : net.SameSlots (net.setMqttStarted false) ∧
      net.SameRing (net.setMqttStarted false) := ⟨⟨rfl, rfl⟩, ⟨rfl, rfl, rfl⟩⟩
  have hdown (net : NetAdapter κ) : net.SameSlots net.noteMqttDown.2 ∧ net.SameRing net.noteMqttDown.2 :=
    ⟨noteMqttDown_slots net, net.noteMqttDown_spec.2.1⟩
  have hcleared (net : NetAdapter κ) : net.SameSlots (net.setWifiStarted false).clearWifiConnected ∧
      net.SameRing (net.setWifiStarted false).clearWifiConnected := ⟨⟨rfl, rfl⟩, ⟨rfl, rfl, rfl⟩⟩
  have htrans {a b c : NetAdapter κ} (h : a.SameSlots b ∧ a.SameRing b)
      (h' : b.SameSlots c ∧ b.SameRing c) : a.SameSlots c ∧ a.SameRing c :=
    ⟨h.1.trans h'.1, h.2.trans h'.2⟩
  have hwifi {net' : NetAdapter κ} (h : net.SameSlots net' ∧ net.SameRing net') :
      net.SameSlots (if net'.snapshotState.1.wifiStarted then
          (net'.snapshotState.2.setWifiStarted false).clearWifiConnected else net'.snapshotState.2) ∧
        net.SameRing (if net'.snapshotState.1.wifiStarted then
          (net'.snapshotState.2.setWifiStarted false).clearWifiConnected else net'.snapshotState.2) := by
    split
    · exact htrans (htrans h (hsnapshot net')) (hcleared _)
    · exact htrans h (hsnapshot net')
  have hstopped : net.SameSlots net.stopFn ∧ net.SameRing net.stopFn := by
    unfold stopFn
    simp only
    refine hwifi ?_
    split
    · exact htrans (htrans (hsnapshot net) (hstarted _)) (hdown _)
    · exact hsnapshot net
  exact .of_ring hpending hstopped.1 hstopped.2

theorem eventsHold_lease (event : NetIngressEvent (NetPtr κ)) {index : NetSlotIndex}
    (h : event.externalPayload.netSlot = some index) (other : NetSlotIndex) :
    eventsHold [event] other = if other = index then 1 else 0 := by
  by_cases hother : other = index
  · simp [eventsHold, h, hother]
  · simp [eventsHold, h, hother, Ne.symm hother]

/-- Data that goes into a slot: the event takes the share of the slot, or the share is given back. -/
theorem pushSlotData_pushes (hcounts : net.Counts c) (hpending : net.pending.toNat ≤ 16)
    {index : NetSlotIndex} (hslot : net.payloadAcquire.1 = some index) (data : MqttData)
    (payloadLen : UInt32) {pushed : Result × NetAdapter κ}
    (hpush : (net.payloadAcquire.2.fillSlot index data).pushEvent
      ((net.payloadAcquire.2.fillSlot index data).leaseEvent index) = pushed) :
    Pushes c net (if pushed.1 ≠ .ok then pushed.2.releaseSlot index
      else pushed.2.recordMqttRxSuccess payloadLen true) := by
  obtain ⟨hfree, hacquired, hkeeps, _, _⟩ := hcounts.acquire hslot
  obtain ⟨hfilled, _, hothers, _⟩ := hacquired.fillSlot index data
  let filled := net.payloadAcquire.2.fillSlot index data
  have hring : net.SameRing filled :=
    (payloadAcquire_same net).toSameRing.trans (setSlot_same _ _ _).toSameRing
  have hslots : filled.SameSlots pushed.2 := hpush ▸ pushEvent_slots _ _
  have hshared := hfilled.same hslots
  have hone : addShare index c index = 1 := by rw [addShare, Function.update_self, hfree]
  have hother : ∀ other, other ≠ index → addShare index c other = c other := fun other hne =>
    Function.update_of_ne hne ..
  have hne : ∀ other, 0 < c other → other ≠ index := by
    rintro other hpos rfl
    exact absurd hfree hpos.ne'
  have hstable : net.KeepsPayload pushed.2 c := by
    intro other hpos
    rw [hslots.payloadSlots, hothers other (hne other hpos), hkeeps other hpos]
  obtain ⟨_, hpending', hevents⟩ := pushEvent_cases (hring.pending ▸ hpending)
    (filled.leaseEvent index)
  rw [hring.events] at hevents
  change filled.pushEvent (filled.leaseEvent index) = pushed at hpush
  rw [hpush] at hpending' hevents
  by_cases hok : pushed.1 = .ok
  · rw [if_neg (not_not.mpr hok)]
    rcases hevents with ⟨_, hevents⟩ | ⟨hfails, _⟩
    · refine ⟨hpending', hstable, [filled.leaseEvent index], hevents, ?_, ?_, ?_⟩
      · intro event hevent
        rw [List.mem_singleton] at hevent
        rintro other hholds
        rw [hevent] at hholds ⊢
        have hsame : index = other := Option.some.inj hholds
        exact ⟨rfl, hsame ▸ rfl, Or.inl rfl⟩
      · have hsum : addShare index c = fun other => c other + eventsHold [filled.leaseEvent index] other := by
          funext other
          rw [eventsHold_lease (filled.leaseEvent index) rfl]
          by_cases he : other = index
          · rw [he, hone, hfree, if_pos rfl]
          · rw [hother other he, if_neg he, Nat.add_zero]
        rw [← hsum]
        exact hshared.same ⟨rfl, rfl⟩
      · intro other hpos
        rw [eventsHold_lease (filled.leaseEvent index) rfl] at hpos ⊢
        by_cases he : other = index
        · rw [if_pos he]
          exact ⟨he ▸ hfree, rfl⟩
        · rw [if_neg he] at hpos
          exact absurd hpos (Nat.lt_irrefl 0)
    · exact absurd hok hfails
  · rw [if_pos hok]
    obtain ⟨hback, hkept, _⟩ := hshared.releaseSlot (hone ▸ Nat.one_pos)
    have hsame : subShare index (addShare index c) = c := by
      funext other
      by_cases he : other = index
      · rw [he, subShare, Function.update_self, hone, hfree]
      · rw [subShare, Function.update_of_ne he, hother other he]
    rw [hsame] at hback hkept
    have hreleased : pushed.2.SameLinks (pushed.2.releaseSlot index) := releaseSlot_same index
    rcases hevents with ⟨hgoes, _⟩ | ⟨_, hevents⟩
    · exact absurd hgoes hok
    · refine ⟨hreleased.pending ▸ hpending', fun other hpos => ?_, [], ?_, by simp, ?_, ?_⟩
      · rw [hkept other hpos, hstable other hpos]
      · rw [hreleased.events, hevents, List.append_nil]
      · exact hback
      · intro other hpos
        exact absurd hpos (Nat.lt_irrefl 0)

theorem pushMqttData_pushes (hcounts : net.Counts c) (hpending : net.pending.toNat ≤ 16)
    (data : MqttData) : Pushes c net (net.pushMqttData data) := by
  have hsame : PushesLinks net net := .of_ring hpending (.refl net) ⟨rfl, rfl, rfl⟩
  unfold pushMqttData
  split
  · exact hsame.pushes hcounts
  split
  · have hpushed : PushesLinks net (net.pushEvent data.inlineEvent).2 := .pushEvent hpending rfl
    have hrecorded : PushesLinks net ((net.pushEvent data.inlineEvent).2.recordMqttRxSuccess
        (UInt32.ofNat data.payloadLen.toNat) false) :=
      hpushed.trans (.of_ring hpushed.pending ⟨rfl, rfl⟩ ⟨rfl, rfl, rfl⟩)
    simp only
    split
    · exact hrecorded.pushes hcounts
    · exact hpushed.pushes hcounts
  split
  · have hcounted : PushesLinks net net.countOversize :=
      .of_ring hpending ⟨rfl, rfl⟩ ⟨rfl, rfl, rfl⟩
    exact hcounted.pushes hcounts
  cases hslot : net.payloadAcquire.1 with
  | none =>
    simp only [hslot]
    exact (PushesLinks.of_ring hpending (acquire_none hslot)
      (payloadAcquire_same net).toSameRing).pushes hcounts
  | some index =>
    simp only [hslot]
    exact pushSlotData_pushes hcounts hpending hslot data _ rfl

theorem mqttEventHandler_pushes (hcounts : net.Counts c) (hpending : net.pending.toNat ≤ 16)
    (event : MqttEvent) : Pushes c net (net.mqttEventHandler event) := by
  cases event with
  | connected =>
    exact ((PushesLinks.of_ring hpending (noteMqttUp_slots net)
      net.noteMqttUp_spec.2.1).noted .mqttUp net.noteMqttUp.1).pushes hcounts
  | disconnected | error =>
    exact ((PushesLinks.of_ring hpending (noteMqttDown_slots net)
      net.noteMqttDown_spec.2.1).noted .mqttDown net.noteMqttDown.1).pushes hcounts
  | data data => exact pushMqttData_pushes hcounts hpending data

end NetAdapter

end EventFramework
