import EventFramework.Adapters.NetTasks

/-!
# The edges of the network links

The polls return the edges that the ring took, all of them and in their order. A link is as these
edges say, once the ring is empty and no handler owes an edge, unless it was parted from them since
the last edge that the ring took.
-/

namespace EventFramework
set_option autoImplicit false

variable {κ : Type}

namespace NetAdapter

def events (net : NetAdapter κ) : List (NetIngressEvent (NetPtr κ)) :=
  SeqRing.entries net.ring 16 net.writeSeq net.readSeq

structure SameRing (net net' : NetAdapter κ) : Prop where
  ring : net'.ring = net.ring
  writeSeq : net'.writeSeq = net.writeSeq
  readSeq : net'.readSeq = net.readSeq

structure SameLinks (net net' : NetAdapter κ) : Prop extends SameRing net net' where
  connected : net'.connected = net.connected

variable {net net' net'' : NetAdapter κ}

theorem SameRing.trans (h : net.SameRing net') (h' : net'.SameRing net'') : net.SameRing net'' :=
  ⟨h'.ring.trans h.ring, h'.writeSeq.trans h.writeSeq, h'.readSeq.trans h.readSeq⟩

theorem SameRing.events (h : net.SameRing net') : net'.events = net.events := by
  unfold NetAdapter.events
  rw [h.ring, h.writeSeq, h.readSeq]

theorem SameRing.pending (h : net.SameRing net') : net'.pending = net.pending := by
  unfold NetAdapter.pending
  rw [h.writeSeq, h.readSeq]

theorem SameLinks.refl (net : NetAdapter κ) : net.SameLinks net := ⟨⟨rfl, rfl, rfl⟩, rfl⟩

theorem connected_eq (h : net'.wifiConnected = net.wifiConnected)
    (h' : net'.mqttConnected = net.mqttConnected) : net'.connected = net.connected := by
  funext link
  cases link with
  | wifi => exact h
  | mqtt => exact h'

theorem count_same (net : NetAdapter κ) (f : NetCounters → NetCounters) :
    net.SameLinks (net.count f) := ⟨⟨rfl, rfl, rfl⟩, connected_eq rfl rfl⟩

theorem setSlot_same (net : NetAdapter κ) (index : NetSlotIndex) (slot : NetPayloadSlot) :
    net.SameLinks (net.setSlot index slot) := ⟨⟨rfl, rfl, rfl⟩, connected_eq rfl rfl⟩

theorem countOversize_same (net : NetAdapter κ) : net.SameLinks net.countOversize :=
  count_same net _

theorem recordMqttRxSuccess_same (payloadLen : UInt32) (leased : Bool) (net : NetAdapter κ) :
    net.SameLinks (net.recordMqttRxSuccess payloadLen leased) := count_same net _

theorem snapshotState_same (net : NetAdapter κ) : net.SameLinks net.snapshotState.2 :=
  ⟨⟨rfl, rfl, rfl⟩, connected_eq rfl rfl⟩

theorem payloadRetain_same (ctx payload : Option (NetPtr κ)) (payloadSize : Nat) :
    net.SameLinks (net.payloadRetain ctx payload payloadSize).2 := by
  unfold payloadRetain retainSlot
  split
  · exact SameLinks.refl net
  · split
    · exact SameLinks.refl net
    · exact setSlot_same net _ _

theorem releaseSlot_same (index : NetSlotIndex) : net.SameLinks (net.releaseSlot index) := by
  unfold releaseSlot dropShare
  split
  · split
    · exact ⟨⟨rfl, rfl, rfl⟩, connected_eq rfl rfl⟩
    · exact ⟨⟨rfl, rfl, rfl⟩, connected_eq rfl rfl⟩
  · exact SameLinks.refl net

theorem payloadRelease_same (ctx payload : Option (NetPtr κ)) (payloadSize : Nat) :
    net.SameLinks (net.payloadRelease ctx payload payloadSize) := by
  unfold payloadRelease
  split
  · exact SameLinks.refl net
  · exact releaseSlot_same _

theorem payloadAcquire_same (net : NetAdapter κ) : net.SameLinks net.payloadAcquire.2 := by
  unfold payloadAcquire
  split
  · exact ⟨⟨rfl, rfl, rfl⟩, connected_eq rfl rfl⟩
  · exact ⟨⟨rfl, rfl, rfl⟩, connected_eq rfl rfl⟩

theorem recordHighWatermark_same (net : NetAdapter κ) : net.SameLinks net.recordHighWatermark := by
  unfold recordHighWatermark
  split
  · exact count_same net _
  · exact SameLinks.refl net

theorem index_eq (seq : UInt32) : (seq &&& netIngressRingMask).toNat = seq.toNat % 16 :=
  SeqRing.toNat_and_mask (k := 4) rfl seq

theorem pushEvent_cases (hcount : net.pending.toNat ≤ 16) (event : NetIngressEvent (NetPtr κ)) :
    (net.pushEvent event).2.connected = net.connected ∧
      (net.pushEvent event).2.pending.toNat ≤ 16 ∧
      ((net.pushEvent event).1 = .ok ∧ (net.pushEvent event).2.events = net.events ++ [event] ∨
        (net.pushEvent event).1 ≠ .ok ∧ (net.pushEvent event).2.events = net.events) := by
  by_cases hfull : net.pending ≥ netIngressRingCapacity
  · have hsame := count_same net fun c => { c with droppedEvents := c.droppedEvents + 1 }
    unfold pushEvent
    rw [if_pos hfull]
    exact ⟨hsame.connected, hsame.pending ▸ hcount, Or.inr ⟨Result.noConfusion, hsame.events⟩⟩
  · have hroom : net.pending.toNat < 16 := by
      by_contra hge
      exact hfull (UInt32.le_iff_toNat_le.mpr (Nat.le_of_not_lt hge))
    let stored : NetAdapter κ := { net with
      ring := Function.update net.ring (net.writeSeq &&& netIngressRingMask).toNat event
      writeSeq := net.writeSeq + 1 }
    have hsame := recordHighWatermark_same stored
    have hpending : stored.pending.toNat = net.pending.toNat + 1 :=
      SeqRing.sub_succ (Nat.lt_trans (Nat.succ_lt_succ hroom) (by decide))
    have hevents : stored.events = net.events ++ [event] := by
      change SeqRing.entries (Function.update net.ring _ event) 16 _ _ = _
      rw [index_eq]
      exact SeqRing.entries_write (by decide) (by decide) net.ring event hroom
    unfold pushEvent
    rw [if_neg hfull]
    refine ⟨hsame.connected.trans (connected_eq rfl rfl), ?_, Or.inl ⟨rfl, hsame.events.trans hevents⟩⟩
    change stored.recordHighWatermark.pending.toNat ≤ 16
    rw [hsame.pending, hpending]
    exact hroom

theorem pollIngress_cases (net : NetAdapter κ) :
    net.pollIngress.2.2.connected = net.connected ∧
      net.pollIngress.2.2.pending.toNat ≤ net.pending.toNat ∧
      net.events = net.pollIngress.2.1.toList ++ net.pollIngress.2.2.events := by
  unfold pollIngress
  split
  · exact ⟨rfl, Nat.le_refl _, rfl⟩
  · rename_i hne
    refine ⟨connected_eq rfl rfl, ?_, ?_⟩
    · have hread : net.pending.toNat = (net.writeSeq - (net.readSeq + 1)).toNat + 1 :=
        SeqRing.sub_read hne
      exact hread ▸ Nat.le_succ _
    · have hread := SeqRing.entries_read (n := 16) (by decide) net.ring hne
      rw [← index_eq] at hread
      exact hread

theorem noteWifiUp_spec (net : NetAdapter κ) :
    net.noteWifiUp.1 = !net.wifiConnected ∧ net.SameRing net.noteWifiUp.2 ∧
      net.noteWifiUp.2.wifiConnected = true ∧
      net.noteWifiUp.2.mqttConnected = net.mqttConnected := by
  unfold noteWifiUp
  cases hup : net.wifiConnected with
  | false => exact ⟨rfl, ⟨rfl, rfl, rfl⟩, rfl, rfl⟩
  | true => exact ⟨rfl, ⟨rfl, rfl, rfl⟩, hup, rfl⟩

theorem noteMqttUp_spec (net : NetAdapter κ) :
    net.noteMqttUp.1 = !net.mqttConnected ∧ net.SameRing net.noteMqttUp.2 ∧
      net.noteMqttUp.2.wifiConnected = net.wifiConnected ∧
      net.noteMqttUp.2.mqttConnected = true := by
  unfold noteMqttUp
  cases hup : net.mqttConnected with
  | false => exact ⟨rfl, ⟨rfl, rfl, rfl⟩, rfl, rfl⟩
  | true => exact ⟨rfl, ⟨rfl, rfl, rfl⟩, rfl, hup⟩

theorem noteMqttDown_spec (net : NetAdapter κ) :
    net.noteMqttDown.1 = net.mqttConnected ∧ net.SameRing net.noteMqttDown.2 ∧
      net.noteMqttDown.2.wifiConnected = net.wifiConnected ∧
      net.noteMqttDown.2.mqttConnected = false := by
  unfold noteMqttDown
  cases hup : net.mqttConnected with
  | false => exact ⟨rfl, ⟨rfl, rfl, rfl⟩, rfl, hup⟩
  | true => exact ⟨rfl, ⟨rfl, rfl, rfl⟩, rfl, rfl⟩

theorem clearWifi_spec (net : NetAdapter κ) :
    net.clearWifi.1 = net.wifiConnected ∧ net.SameRing net.clearWifi.2 ∧
      net.clearWifi.2.wifiConnected = false ∧
      net.clearWifi.2.mqttConnected = net.mqttConnected := by
  unfold clearWifi
  cases hup : net.wifiConnected with
  | false => exact ⟨rfl, ⟨rfl, rfl, rfl⟩, hup, rfl⟩
  | true => exact ⟨rfl, ⟨rfl, rfl, rfl⟩, rfl, rfl⟩

theorem noteReconnect_same (nowUs : Int) (net : NetAdapter κ) :
    net.SameLinks (net.noteReconnect nowUs).2 := by
  unfold noteReconnect
  split
  · exact ⟨⟨rfl, rfl, rfl⟩, connected_eq rfl rfl⟩
  · exact ⟨⟨rfl, rfl, rfl⟩, connected_eq rfl rfl⟩

theorem noteWifiDown_spec (nowUs : Int) (net : NetAdapter κ) :
    (net.noteWifiDown nowUs).1.pushWifiDown = net.wifiConnected ∧
      (net.noteWifiDown nowUs).1.pushMqttDown = net.mqttConnected ∧
      net.SameRing (net.noteWifiDown nowUs).2 ∧
      (net.noteWifiDown nowUs).2.connected = fun _ => false := by
  obtain ⟨hwifi, hring, hwifiDown, hmqtt⟩ := net.clearWifi_spec
  obtain ⟨hmqttUp, hring', hwifiDown', hmqttDown⟩ := net.clearWifi.2.noteMqttDown_spec
  have hsame := net.clearWifi.2.noteMqttDown.2.noteReconnect_same nowUs
  refine ⟨hwifi, hmqttUp.trans hmqtt, (hring.trans hring').trans hsame.toSameRing, ?_⟩
  refine hsame.connected.trans ?_
  funext link
  cases link with
  | wifi => exact hwifiDown'.trans hwifiDown
  | mqtt => exact hmqttDown

end NetAdapter

namespace NetLink

theorem lastUp_snoc (link : NetLink) (edges : List LinkEdge) (edge : LinkEdge) :
    link.lastUp (edges ++ [edge]) = if edge.1 = link then edge.2 else link.lastUp edges := by
  rw [lastUp, List.foldl_append]
  rfl

@[simp] theorem edges_append (link : NetLink) (kinds kinds' : List NetEventKind) :
    link.edges (kinds ++ kinds') = link.edges kinds ++ link.edges kinds' :=
  List.filterMap_append

@[simp] theorem edges_nil (link : NetLink) : link.edges [] = [] := rfl

theorem edges_singleton (link : NetLink) {kind : NetEventKind} {edge : LinkEdge}
    (hkind : kind.edge = some edge) : link.edges [kind] = if edge.1 = link then [edge.2] else [] := by
  by_cases hlink : edge.1 = link <;> simp [edges, hkind, hlink]

end NetLink

namespace NetSystem

/-- The edges of a link end at its state: the last one returned, or the one owed. Of two that are owed
the older is the opposite. -/
def InStep (up reported : Bool) : List Bool → Prop
  | [] => reported = up
  | [owed] => owed = up
  | [first, second] => first ≠ second
  | _ => False

theorem InStep.swap {up reported owed : Bool} {others : List Bool}
    (h : InStep up reported (others ++ [owed])) : InStep up reported (owed :: others) := by
  match others with
  | [] => exact h
  | [_] => exact Ne.symm h
  | _ :: _ :: [] => exact h.elim
  | _ :: _ :: _ :: _ => exact h.elim

structure Inv (s : NetSystem κ) : Prop where
  count_le : s.net.pending.toNat ≤ 16
  accepted_eq : s.accepted = s.returned ++ s.net.events.filterMap fun event => event.kind.edge
  wifiOwes : s.wifiOwes ∈ [[], [.wifiUp], [.wifiDown], [.mqttDown], [.mqttDown, .wifiDown]]
  mqttOwes : s.mqtt.owes ∈ [[], [.mqttUp], [.mqttDown]]
  inStep : ∀ link, s.lost link = none →
    InStep (s.net.connected link) (link.lastUp s.accepted) (s.owed link)

variable {s t : NetSystem κ}

theorem owed_congr (hwifi : t.wifiOwes = s.wifiOwes) (hmqtt : t.mqtt.owes = s.mqtt.owes) :
    t.owed = s.owed := by
  unfold owed
  rw [hwifi, hmqtt]

theorem Inv.same (h : s.Inv) (hnet : s.net.SameLinks t.net) (hwifi : t.wifiOwes = s.wifiOwes)
    (hmqtt : t.mqtt.owes = s.mqtt.owes) (haccepted : t.accepted = s.accepted)
    (hreturned : t.returned = s.returned) (hlost : t.lost = s.lost) : t.Inv where
  count_le := hnet.pending ▸ h.count_le
  accepted_eq := by
    rw [haccepted, hreturned, hnet.events]
    exact h.accepted_eq
  wifiOwes := hwifi ▸ h.wifiOwes
  mqttOwes := hmqtt ▸ h.mqttOwes
  inStep := by
    intro link hlink
    rw [hnet.connected, haccepted, owed_congr hwifi hmqtt]
    rw [hlost] at hlink
    exact h.inStep link hlink

theorem Inv.pushData (h : s.Inv) {event : NetIngressEvent (NetPtr κ)} (hkind : event.kind.edge = none) :
    (s.pushEvent event).2.Inv := by
  obtain ⟨hconnected, hcount, hevents⟩ := NetAdapter.pushEvent_cases h.count_le event
  simp only [pushEvent, hkind]
  refine ⟨hcount, ?_, h.wifiOwes, h.mqttOwes, ?_⟩
  · refine h.accepted_eq.trans (congrArg (s.returned ++ ·) ?_)
    rcases hevents with ⟨_, heq⟩ | ⟨_, heq⟩
    · change _ = (s.net.pushEvent event).2.events.filterMap _
      rw [heq, List.filterMap_append, List.filterMap_cons, hkind]
      exact (List.append_nil _).symm
    · change _ = (s.net.pushEvent event).2.events.filterMap _
      rw [heq]
  · intro link hlink
    change InStep ((s.net.pushEvent event).2.connected link) _ _
    rw [hconnected]
    exact h.inStep link hlink

/-- The ring takes the edge that was owed, or refuses it. -/
theorem accept_inStep {edge : LinkEdge} {link : NetLink}
    (hbefore : s.lost link = none → InStep (s.net.connected link) (link.lastUp s.accepted)
      ((if edge.1 = link then [edge.2] else []) ++ s.owed link))
    (hlink : (s.accept edge).lost link = none) :
    InStep (s.net.connected link) (link.lastUp (s.accepted ++ [edge])) (s.owed link) := by
  rw [NetLink.lastUp_snoc]
  by_cases hsame : edge.1 = link
  · subst hsame
    rw [if_pos rfl] at hbefore ⊢
    simp only [accept] at hlink
    by_cases hagree : edge.2 = s.net.connected edge.1
    · rw [if_pos hagree, Function.update_self] at hlink
      by_cases howed : s.owed edge.1 = []
      · rw [howed]
        exact hagree
      · rw [if_neg howed] at hlink
        cases hlink
    · rw [if_neg hagree] at hlink
      have hstep := hbefore hlink
      match howed : s.owed edge.1 with
      | [] =>
        rw [howed] at hstep
        exact absurd hstep hagree
      | [other] =>
        rw [howed] at hstep
        change other = s.net.connected edge.1
        change edge.2 ≠ other at hstep
        revert hagree hstep
        cases edge.2 <;> cases other <;> cases s.net.connected edge.1 <;> simp
      | _ :: _ :: _ =>
        rw [howed] at hstep
        exact hstep.elim
  · rw [if_neg hsame] at hbefore ⊢
    refine hbefore ?_
    simp only [accept] at hlink
    split at hlink
    · rwa [Function.update_of_ne (Ne.symm hsame)] at hlink
    · exact hlink

/-- The push of an edge, given what held while it was owed. -/
theorem pushEdge_inv {kind : NetEventKind} {edge : LinkEdge} (hkind : kind.edge = some edge)
    (hcount : s.net.pending.toNat ≤ 16)
    (haccepted : s.accepted = s.returned ++ s.net.events.filterMap fun event => event.kind.edge)
    (hwifi : s.wifiOwes ∈ [[], [.wifiUp], [.wifiDown], [.mqttDown], [.mqttDown, .wifiDown]])
    (hmqtt : s.mqtt.owes ∈ [[], [.mqttUp], [.mqttDown]])
    (hbefore : ∀ link, s.lost link = none →
      InStep (s.net.connected link) (link.lastUp s.accepted) (link.edges [kind] ++ s.owed link)) :
    (s.pushEvent { kind := kind }).2.Inv := by
  obtain ⟨hconnected, hcount', hevents⟩ := NetAdapter.pushEvent_cases hcount { kind := kind }
  simp only [NetLink.edges_singleton _ hkind] at hbefore
  simp only [pushEvent, hkind]
  rcases hevents with ⟨hok, hring⟩ | ⟨hrefused, hring⟩
  · rw [if_pos hok]
    refine ⟨hcount', ?_, hwifi, hmqtt, ?_⟩
    · change s.accepted ++ [edge] = s.returned ++ (s.net.pushEvent _).2.events.filterMap _
      rw [hring, List.filterMap_append, ← List.append_assoc, ← haccepted, List.filterMap_cons, hkind]
      rfl
    · intro link hlink
      refine accept_inStep (s := { s with net := (s.net.pushEvent { kind := kind }).2 }) ?_ hlink
      intro hlink'
      change InStep ((s.net.pushEvent { kind := kind }).2.connected link) _ _
      rw [hconnected]
      exact hbefore link hlink'
  · rw [if_neg hrefused]
    refine ⟨hcount', ?_, hwifi, hmqtt, ?_⟩
    · change s.accepted = s.returned ++ (s.net.pushEvent _).2.events.filterMap _
      rw [hring]
      exact haccepted
    · intro link hlink
      change Function.update s.lost edge.1 (some .refused) link = none at hlink
      by_cases hsame : edge.1 = link
      · rw [hsame, Function.update_self] at hlink
        cases hlink
      · rw [Function.update_of_ne (Ne.symm hsame)] at hlink
        have hstep := hbefore link hlink
        rw [if_neg hsame] at hstep
        change InStep ((s.net.pushEvent { kind := kind }).2.connected link) _ _
        rw [hconnected]
        exact hstep

theorem Inv.wifiStep (h : s.Inv) : s.wifiStep.Inv := by
  unfold NetSystem.wifiStep
  split
  · exact h
  · rename_i kind rest howes
    have hshape := h.wifiOwes
    rw [howes] at hshape
    have hkind : ∃ edge, kind.edge = some edge := by
      cases kind with
      | none | mqttMsgRx => simp at hshape
      | wifiUp | wifiDown | mqttUp | mqttDown => exact ⟨_, rfl⟩
    have hrest : rest ∈ [[], [.wifiUp], [.wifiDown], [.mqttDown], [.mqttDown, .wifiDown]] := by
      simp at hshape ⊢
      rcases hshape with h | h | h | h <;> simp [h.2]
    obtain ⟨edge, hedge⟩ := hkind
    refine pushEdge_inv hedge h.count_le h.accepted_eq hrest h.mqttOwes ?_
    intro link hlink
    have hstep := h.inStep link hlink
    rw [owed, howes] at hstep
    rw [owed, ← NetLink.edges_append]
    exact hstep

theorem Inv.wifi_mqttOwes (h : s.Inv) : NetLink.wifi.edges s.mqtt.owes = [] := by
  have hshape := h.mqttOwes
  simp only [List.mem_cons, List.not_mem_nil, or_false] at hshape
  rcases hshape with howes | howes | howes <;> rw [howes] <;> rfl

theorem Inv.noted (h : s.Inv) (hring : s.net.SameRing t.net) (haccepted : t.accepted = s.accepted)
    (hreturned : t.returned = s.returned)
    (hwifi : t.wifiOwes ∈ [[], [.wifiUp], [.wifiDown], [.mqttDown], [.mqttDown, .wifiDown]])
    (hmqtt : t.mqtt.owes ∈ [[], [.mqttUp], [.mqttDown]]) (hlost : t.lost = s.lost)
    (hstep : ∀ link, InStep (s.net.connected link) (link.lastUp s.accepted) (s.owed link) →
      InStep (t.net.connected link) (link.lastUp s.accepted) (t.owed link)) : t.Inv where
  count_le := hring.pending ▸ h.count_le
  accepted_eq := by
    rw [haccepted, hreturned, hring.events]
    exact h.accepted_eq
  wifiOwes := hwifi
  mqttOwes := hmqtt
  inStep := by
    intro link hlink
    rw [hlost] at hlink
    rw [haccepted]
    exact hstep link (h.inStep link hlink)

theorem Inv.gotIp (h : s.Inv) (hidle : s.wifiOwes = []) : (s.wifiEvent .gotIp).Inv := by
  obtain ⟨hnoted, hring, hwifi, hmqtt⟩ := s.net.noteWifiUp_spec
  refine h.noted hring rfl rfl ?_ h.mqttOwes rfl ?_
  · simp only [NetSystem.wifiEvent]
    cases s.net.noteWifiUp.1 <;> simp
  · intro link hstep
    simp only [owed, hidle, List.nil_append] at hstep
    simp only [NetSystem.wifiEvent, owed, NetLink.edges_append]
    cases link with
    | wifi =>
      rw [h.wifi_mqttOwes] at hstep ⊢
      change InStep s.net.noteWifiUp.2.wifiConnected _ _
      rw [hwifi, hnoted]
      change NetLink.wifi.lastUp s.accepted = s.net.wifiConnected at hstep
      cases hup : s.net.wifiConnected with
      | false => rfl
      | true => exact hstep.trans hup
    | mqtt =>
      have hnone : NetLink.mqtt.edges (if s.net.noteWifiUp.1 = true then [.wifiUp] else []) = [] := by
        cases s.net.noteWifiUp.1 <;> rfl
      rw [hnone]
      change InStep s.net.noteWifiUp.2.mqttConnected _ _
      rw [hmqtt]
      exact hstep

theorem Inv.disconnected (h : s.Inv) (hidle : s.wifiOwes = []) (nowUs : Int) :
    (s.wifiEvent (.disconnected nowUs)).Inv := by
  obtain ⟨hwifi, hmqtt, hring, hdown⟩ := s.net.noteWifiDown_spec nowUs
  refine h.noted hring rfl rfl ?_ h.mqttOwes rfl ?_
  · simp only [NetSystem.wifiEvent]
    cases (s.net.noteWifiDown nowUs).1.pushMqttDown <;>
      cases (s.net.noteWifiDown nowUs).1.pushWifiDown <;> simp
  · intro link hstep
    simp only [owed, hidle, List.nil_append] at hstep
    simp only [NetSystem.wifiEvent, owed, NetLink.edges_append, hdown, hwifi, hmqtt]
    cases link with
    | wifi =>
      rw [h.wifi_mqttOwes] at hstep ⊢
      change NetLink.wifi.lastUp s.accepted = s.net.wifiConnected at hstep
      cases hup : s.net.wifiConnected with
      | false => cases s.net.mqttConnected <;> exact hstep.trans hup
      | true => cases s.net.mqttConnected <;> rfl
    | mqtt =>
      change InStep s.net.mqttConnected _ _ at hstep
      have hnone : NetLink.mqtt.edges (if s.net.wifiConnected = true then [.wifiDown] else []) = [] := by
        cases s.net.wifiConnected <;> rfl
      rw [hnone, List.append_nil]
      cases hup : s.net.mqttConnected with
      | false =>
        rw [hup] at hstep
        exact hstep
      | true =>
        rw [hup] at hstep
        change InStep false _ (false :: NetLink.mqtt.edges s.mqtt.owes)
        have hshape := h.mqttOwes
        simp only [List.mem_cons, List.not_mem_nil, or_false] at hshape
        rcases hshape with howes | howes | howes <;> rw [howes] at hstep ⊢
        · rfl
        · exact Bool.false_ne_true
        · exact absurd hstep Bool.false_ne_true

theorem Inv.mqtt_wifiOwes (h : s.Inv) :
    NetLink.mqtt.edges s.wifiOwes = [] ∨ NetLink.mqtt.edges s.wifiOwes = [false] := by
  have hshape := h.wifiOwes
  simp only [List.mem_cons, List.not_mem_nil, or_false] at hshape
  rcases hshape with howes | howes | howes | howes | howes <;> rw [howes]
  · exact Or.inl rfl
  · exact Or.inl rfl
  · exact Or.inl rfl
  · exact Or.inr rfl
  · exact Or.inr rfl

/-- The MQTT handler notes the state of its link: a change owes its edge. -/
theorem Inv.mqttNoted (h : s.Inv) (hidle : s.mqtt.owes = []) {noted : Bool × NetAdapter κ} {up : Bool}
    {kind : NetEventKind} (hkind : kind.edge = some (.mqtt, up))
    (hmember : kind = .mqttUp ∨ kind = .mqttDown)
    (hnoted : noted.1 = (s.net.mqttConnected != up)) (hring : s.net.SameRing noted.2)
    (hwifi : noted.2.wifiConnected = s.net.wifiConnected) (hmqtt : noted.2.mqttConnected = up) :
    (s.mqttNoted noted kind).Inv := by
  have howes : (s.mqttNoted noted kind).mqtt.owes = if noted.1 = true then [kind] else [] := by
    simp only [NetSystem.mqttNoted]
    cases noted.1 <;> rfl
  refine h.noted hring rfl rfl h.wifiOwes ?_ rfl ?_
  · rw [howes]
    rcases hmember with rfl | rfl <;> cases noted.1 <;> simp
  · intro link hstep
    simp only [owed, hidle, List.append_nil] at hstep
    simp only [owed, NetLink.edges_append, howes]
    cases link with
    | wifi =>
      have hnone : NetLink.wifi.edges (if noted.1 = true then [kind] else []) = [] := by
        cases noted.1 with
        | false => rfl
        | true => exact (NetLink.edges_singleton .wifi hkind).trans (if_neg NetLink.noConfusion)
      rw [hnone, List.append_nil]
      change InStep noted.2.wifiConnected _ _
      rw [hwifi]
      exact hstep
    | mqtt =>
      change InStep noted.2.mqttConnected _ _
      change InStep s.net.mqttConnected _ _ at hstep
      rw [hmqtt, hnoted]
      have hedge := (NetLink.edges_singleton .mqtt hkind).trans (if_pos rfl)
      by_cases hchange : s.net.mqttConnected = up
      · rw [hchange] at hstep ⊢
        rw [bne_self_eq_false]
        exact (List.append_nil _).symm ▸ hstep
      · have hbne : (s.net.mqttConnected != up) = true := bne_iff_ne.mpr hchange
        rw [if_pos hbne, hedge]
        change InStep up _ (NetLink.mqtt.edges s.wifiOwes ++ [up])
        rcases h.mqtt_wifiOwes with hnone | hdown
        · rw [hnone]
          rfl
        · rw [hdown] at hstep ⊢
          exact fun hfalse => hchange (hstep.symm.trans hfalse)

theorem Inv.mqttData (h : s.Inv) (hidle : s.mqtt.owes = []) (data : MqttData) :
    (s.mqttData data).Inv := by
  unfold NetSystem.mqttData
  split
  · exact h
  · split
    · have hpushed : (s.pushEvent data.inlineEvent).2.Inv := h.pushData rfl
      have howes : (s.pushEvent data.inlineEvent).2.mqtt.owes = [] := hidle
      refine hpushed.same (.refl _) rfl ?_ rfl rfl rfl
      simp only
      split
      · exact howes.symm
      · exact howes.symm
    · split
      · exact h.same s.net.countOversize_same rfl rfl rfl rfl rfl
      · refine h.same s.net.payloadAcquire_same rfl ?_ rfl rfl rfl
        rw [hidle]
        simp only
        cases s.net.payloadAcquire.1 <;> rfl

theorem Inv.mqttEvent (h : s.Inv) (hidle : s.mqtt.owes = []) (event : MqttEvent) :
    (s.mqttEvent event).Inv := by
  have hdown : (s.mqttNoted s.net.noteMqttDown .mqttDown).Inv := by
    obtain ⟨hnoted, hring, hwifi, hmqtt⟩ := s.net.noteMqttDown_spec
    have hedge : NetEventKind.mqttDown.edge = some (.mqtt, false) := rfl
    refine h.mqttNoted hidle hedge (Or.inr rfl) ?_ hring hwifi hmqtt
    rw [hnoted, Bool.bne_false]
  cases event with
  | connected =>
    obtain ⟨hnoted, hring, hwifi, hmqtt⟩ := s.net.noteMqttUp_spec
    have hedge : NetEventKind.mqttUp.edge = some (.mqtt, true) := rfl
    refine h.mqttNoted hidle hedge (Or.inl rfl) ?_ hring hwifi hmqtt
    rw [hnoted, Bool.bne_true]
  | disconnected => exact hdown
  | error => exact hdown
  | data data => exact h.mqttData hidle data

theorem Inv.mqttStep (h : s.Inv) : s.mqttStep.Inv := by
  unfold NetSystem.mqttStep
  split
  · exact h
  · rename_i kind htask
    have hshape := h.mqttOwes
    rw [htask] at hshape
    have hkind : ∃ edge, kind.edge = some edge := by
      cases kind with
      | none | mqttMsgRx => simp [MqttTask.owes] at hshape
      | wifiUp | wifiDown | mqttUp | mqttDown => exact ⟨_, rfl⟩
    obtain ⟨edge, hedge⟩ := hkind
    refine pushEdge_inv hedge h.count_le h.accepted_eq h.wifiOwes List.mem_cons_self ?_
    intro link hlink
    have hstep := h.inStep link hlink
    rw [owed, htask] at hstep
    change InStep _ _ (link.edges (s.wifiOwes ++ [kind])) at hstep
    rw [NetLink.edges_append] at hstep
    rw [owed]
    change InStep _ _ (link.edges [kind] ++ link.edges (s.wifiOwes ++ []))
    rw [List.append_nil]
    rw [NetLink.edges_singleton link hedge] at hstep ⊢
    split at hstep
    · rename_i hsame
      rw [if_pos hsame]
      exact hstep.swap
    · rename_i hsame
      rw [if_neg hsame]
      rw [List.append_nil] at hstep
      exact hstep
  · rename_i index data htask
    exact h.same (s.net.setSlot_same _ _) rfl (congrArg MqttTask.owes htask).symm rfl rfl rfl
  · rename_i index data htask
    have hpushed : (s.pushEvent (s.net.leaseEvent index)).2.Inv := h.pushData rfl
    refine hpushed.same (.refl _) rfl ?_ rfl rfl rfl
    have howes : (s.pushEvent (s.net.leaseEvent index)).2.mqtt.owes = [] :=
      congrArg MqttTask.owes htask
    rw [howes]
    simp only
    split
    · rfl
    · rfl
  · rename_i index htask
    exact h.same (NetAdapter.releaseSlot_same _) rfl (congrArg MqttTask.owes htask).symm rfl rfl rfl
  · rename_i payloadLen leased htask
    exact h.same (s.net.recordMqttRxSuccess_same payloadLen leased) rfl
      (congrArg MqttTask.owes htask).symm rfl rfl rfl

theorem Inv.poll (h : s.Inv) : s.poll.Inv := by
  obtain ⟨hconnected, hcount, hevents⟩ := s.net.pollIngress_cases
  refine ⟨Nat.le_trans hcount h.count_le, ?_, h.wifiOwes, h.mqttOwes, ?_⟩
  · simp only [NetSystem.poll]
    rw [h.accepted_eq, hevents, List.filterMap_append, List.append_assoc]
    cases s.net.pollIngress.2.1 with
    | none => rfl
    | some event =>
      cases hkind : event.kind.edge with
      | none => simp [hkind]
      | some edge => simp [hkind]
  · intro link hlink
    change InStep (s.net.pollIngress.2.2.connected link) _ _
    rw [hconnected]
    exact h.inStep link hlink

theorem Inv.cleared (h : s.Inv) {link : NetLink} (hring : s.net.SameRing t.net)
    (hwifi : t.wifiOwes = s.wifiOwes) (hmqtt : t.mqtt.owes = s.mqtt.owes)
    (haccepted : t.accepted = s.accepted) (hreturned : t.returned = s.returned)
    (hothers : ∀ other, other ≠ link → t.net.connected other = s.net.connected other)
    (hdown : t.net.connected link = false)
    (hlost : t.lost = if s.net.connected link = true then Function.update s.lost link (some .cleared)
      else s.lost) : t.Inv where
  count_le := hring.pending ▸ h.count_le
  accepted_eq := by
    rw [haccepted, hreturned, hring.events]
    exact h.accepted_eq
  wifiOwes := hwifi ▸ h.wifiOwes
  mqttOwes := hmqtt ▸ h.mqttOwes
  inStep := by
    intro other hother
    rw [haccepted, owed_congr hwifi hmqtt]
    rw [hlost] at hother
    by_cases hsame : other = link
    · subst hsame
      cases hup : s.net.connected other with
      | true =>
        rw [if_pos hup, Function.update_self] at hother
        cases hother
      | false =>
        rw [if_neg (by rw [hup]; exact Bool.false_ne_true)] at hother
        rw [hdown, ← hup]
        exact h.inStep other hother
    · rw [hothers other hsame]
      split at hother
      · rw [Function.update_of_ne hsame] at hother
        exact h.inStep other hother
      · exact h.inStep other hother

theorem Inv.controlStep (h : s.Inv) : s.controlStep.Inv := by
  unfold NetSystem.controlStep
  split
  · exact h
  · exact h.same ⟨⟨rfl, rfl, rfl⟩, NetAdapter.connected_eq rfl rfl⟩ rfl rfl rfl rfl rfl
  · exact h.same ⟨⟨rfl, rfl, rfl⟩, NetAdapter.connected_eq rfl rfl⟩ rfl rfl rfl rfl rfl
  · obtain ⟨_, hring, hwifi, hmqtt⟩ := s.net.noteMqttDown_spec
    have hothers : ∀ other, other ≠ NetLink.mqtt →
        s.net.noteMqttDown.2.connected other = s.net.connected other := by
      intro other hother
      cases other with
      | wifi => exact hwifi
      | mqtt => exact absurd rfl hother
    cases hup : s.net.mqttConnected with
    | true => exact h.cleared hring rfl rfl rfl rfl hothers hmqtt (if_pos hup).symm
    | false =>
      refine h.cleared hring rfl rfl rfl rfl hothers hmqtt (if_neg ?_).symm
      exact ne_true_of_eq_false hup
  · exact h.same s.net.snapshotState_same rfl rfl rfl rfl rfl
  · exact h.same ⟨⟨rfl, rfl, rfl⟩, NetAdapter.connected_eq rfl rfl⟩ rfl rfl rfl rfl rfl
  · have hring : s.net.SameRing s.net.clearWifiConnected := ⟨rfl, rfl, rfl⟩
    have hothers : ∀ other, other ≠ NetLink.wifi →
        s.net.clearWifiConnected.connected other = s.net.connected other := by
      intro other hother
      cases other with
      | wifi => exact absurd rfl hother
      | mqtt => rfl
    cases hup : s.net.wifiConnected with
    | true => exact h.cleared hring rfl rfl rfl rfl hothers rfl (if_pos hup).symm
    | false =>
      refine h.cleared hring rfl rfl rfl rfl hothers rfl (if_neg ?_).symm
      exact ne_true_of_eq_false hup

/-- Step lemma: every critical section keeps the links in step. -/
theorem Inv.step (h : s.Inv) (input : NetInput κ) : (s.step input).Inv := by
  cases input with
  | wifi event =>
    simp only [NetSystem.step]
    split
    · rename_i hidle
      cases event with
      | gotIp => exact h.gotIp (List.isEmpty_iff.mp hidle)
      | disconnected nowUs => exact h.disconnected (List.isEmpty_iff.mp hidle) nowUs
    · exact h
  | wifiStep => exact h.wifiStep
  | mqtt event =>
    simp only [NetSystem.step]
    split
    · rename_i hidle
      exact h.mqttEvent (congrArg MqttTask.owes hidle) event
    · exact h
  | mqttStep => exact h.mqttStep
  | poll => exact h.poll
  | start wifiStartOk =>
    simp only [NetSystem.step]
    split
    · exact h.same s.net.snapshotState_same rfl rfl rfl rfl rfl
    · exact h
  | stop =>
    simp only [NetSystem.step]
    split
    · exact h.same s.net.snapshotState_same rfl rfl rfl rfl rfl
    · exact h
  | controlStep => exact h.controlStep
  | payloadRetain ctx payload payloadSize =>
    exact h.same (NetAdapter.payloadRetain_same ctx payload payloadSize) rfl rfl rfl rfl rfl
  | payloadRelease ctx payload payloadSize =>
    exact h.same (NetAdapter.payloadRelease_same ctx payload payloadSize) rfl rfl rfl rfl rfl

theorem initialised_inv (brokerUri : Bool) :
    ({ net := NetAdapter.initialised brokerUri } : NetSystem κ).Inv := by
  have hring : (NetAdapter.initialised brokerUri : NetAdapter κ).SameRing {} := by
    cases brokerUri <;> exact ⟨rfl, rfl, rfl⟩
  have hdown : (NetAdapter.initialised brokerUri : NetAdapter κ).connected = fun _ => false := by
    funext link
    cases brokerUri <;> cases link <;> rfl
  have hpending : (NetAdapter.initialised brokerUri : NetAdapter κ).pending = 0 :=
    hring.pending.symm.trans (UInt32.sub_self 0)
  have hevents : (NetAdapter.initialised brokerUri : NetAdapter κ).events = [] :=
    hring.events.symm.trans (SeqRing.entries_self _ 16 0)
  refine ⟨?_, ?_, List.mem_cons_self, List.mem_cons_self, ?_⟩
  · change (NetAdapter.initialised brokerUri : NetAdapter κ).pending.toNat ≤ 16
    rw [hpending]
    exact Nat.zero_le _
  · change [] = [] ++ (NetAdapter.initialised brokerUri : NetAdapter κ).events.filterMap _
    rw [hevents]
    rfl
  · intro link _
    change InStep ((NetAdapter.initialised brokerUri : NetAdapter κ).connected link) _ _
    rw [hdown]
    rfl

theorem inv_run (brokerUri : Bool) (inputs : List (NetInput κ)) :
    (run { net := NetAdapter.initialised brokerUri } inputs).Inv :=
  (Machine.always_of_step (fun _ input h => h.step input) (initialised_inv brokerUri) inputs).last

/-- In every run, once the ring is empty, the last edge of a link that was returned is the last one the
ring took. It is the state of the link when no edge of the link is owed, unless the ring refused an
edge of it, a stop cleared its state or two of its edges crossed since the ring last took the edge of
its state. -/
theorem link_edges_kept (brokerUri : Bool) (inputs : List (NetInput κ)) (link : NetLink)
    (hempty : (run { net := NetAdapter.initialised brokerUri } inputs).net.pending = 0) :
    let s := run { net := NetAdapter.initialised brokerUri } inputs
    link.lastUp s.returned = link.lastUp s.accepted ∧
      (s.owed link = [] → s.lost link = none → link.lastUp s.returned = s.net.connected link) := by
  have hinv := inv_run brokerUri inputs
  generalize run { net := NetAdapter.initialised brokerUri } inputs = s at *
  have hnil : s.net.events = [] := SeqRing.entries_eq_nil.mpr hempty
  have hall : s.accepted = s.returned := by
    have haccepted := hinv.accepted_eq
    rwa [hnil, List.filterMap_nil, List.append_nil] at haccepted
  refine ⟨by rw [hall], fun howed hlost => ?_⟩
  have hstep := hinv.inStep link hlost
  rw [howed, hall] at hstep
  exact hstep

def gotIpPolled : List (NetInput Empty) := [.wifi .gotIp, .wifiStep, .poll]

theorem link_edges_kept_gotIp :
    NetLink.wifi.lastUp (run { net := NetAdapter.initialised true } gotIpPolled).returned =
      (run { net := NetAdapter.initialised true } gotIpPolled).net.connected .wifi :=
  (link_edges_kept true gotIpPolled .wifi (by decide +kernel)).2 (by decide +kernel)
    (by decide +kernel)

/-- All is polled and no handler owes an edge, and the last edge polled is not the state of the link. -/
def Stale (s : NetSystem κ) (link : NetLink) : Prop :=
  s.net.pending = 0 ∧ s.owed link = [] ∧ link.lastUp s.returned ≠ s.net.connected link

instance (s : NetSystem κ) (link : NetLink) : Decidable (Stale s link) :=
  inferInstanceAs (Decidable (_ ∧ _ ∧ _))

/-- Sixteen messages fill the ring, the station gets its address, and all is polled. -/
def floodedGotIp : List (NetInput Empty) :=
  (List.replicate 16 [.mqtt (.data ⟨some fun _ => 0, 1, none, 0⟩), .mqttStep]).flatten ++
    [.wifi .gotIp, .wifiStep] ++ List.replicate 16 .poll

/-- The adapter is started, the station gets its address, and the adapter is stopped. -/
def stoppedGotIp : List (NetInput Empty) :=
  [.start true, .controlStep, .wifi .gotIp, .wifiStep, .poll, .stop] ++ List.replicate 5 .controlStep

/-- The broker answers, and the station is gone before the MQTT handler has pushed its edge. -/
def crossedMqtt : List (NetInput Empty) :=
  [.wifi .gotIp, .wifiStep, .mqtt .connected, .wifi (.disconnected 0), .wifiStep, .wifiStep, .mqttStep] ++
    List.replicate 4 .poll

/-- A full ring, a stop, and two handlers that push in the other order leave a link stale. -/
theorem link_edges_lost :
    (Stale (run { net := NetAdapter.initialised true } floodedGotIp) .wifi ∧
      Stale (run { net := NetAdapter.initialised true } stoppedGotIp) .wifi ∧
      Stale (run { net := NetAdapter.initialised true } crossedMqtt) .mqtt) ∧
    ¬ ∀ (inputs : List (NetInput Empty)) (link : NetLink),
      (run { net := NetAdapter.initialised true } inputs).net.pending = 0 →
        (run { net := NetAdapter.initialised true } inputs).owed link = [] →
        link.lastUp (run { net := NetAdapter.initialised true } inputs).returned =
          (run { net := NetAdapter.initialised true } inputs).net.connected link := by
  have hflooded : Stale (run { net := NetAdapter.initialised true } floodedGotIp) .wifi := by
    decide +kernel
  refine ⟨⟨hflooded, by decide +kernel, by decide +kernel⟩, fun h => ?_⟩
  exact hflooded.2.2 (h floodedGotIp .wifi hflooded.1 hflooded.2.1)

end NetSystem

end EventFramework
