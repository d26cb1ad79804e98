import EventFramework.Adapters.NetOwner
import EventFramework.Adapters.NetPushes
import EventFramework.Apps.NetMessages
import EventFramework.Runtime.DeliveryFrame

/-!
# The shares of the payload slots

The callbacks of the network fill the payload slots, the polls and the publications of the
application pass them on, and the actors dispose of the copies that reach them. A slot has one share
for each event and for each message that lies in it.
-/

namespace EventFramework
set_option autoImplicit false

variable {κ δ : Type}

/-- What a publication takes from outside the graph: the payload callbacks and the clock. -/
def netPorts (foreign : Callbacks (NetPtr κ) δ) (clock : δ → Result × UInt64 × δ) :
    DemoPorts (NetPtr κ) (NetAdapter κ × δ) where
  callbacks := netCallbacks foreign
  clock w :=
    let out := clock w.2
    (out.1, out.2.1, w.1, out.2.2)
  irq := none
  net := none

/-- The application over the network adapter. `polled` are the events that were polled and not yet
handed over, `held` the messages that the actors popped and have not disposed of. -/
structure NetSlots (κ δ : Type) where
  graph : DemoGraph (NetPtr κ) (NetAdapter κ × δ)
  polled : List (NetIngressEvent (NetPtr κ)) := []
  held : ActorId → Option (Msg (NetPtr κ)) := fun _ => none

inductive NetSlotsInput (κ δ : Type) where
  | wifi (event : WifiEvent)
  | mqtt (event : MqttEvent)
  | start (wifiStartOk wifiConnectOk : Bool)
  | stop
  | poll
  | publish (index : Nat)
  | publishOther (msg : Msg (NetPtr κ))
  | pop (actor : ActorId)
  | dispose (actor : ActorId)
  | outside (act : δ → δ)

/-- The callbacks of the graph are those of the ports, on what lies behind them. -/
theorem outsideCallbacks_along {P ε : Type} (ports : DemoPorts P ε) :
    ports.outsideCallbacks.Along (fun w => w.2.env) ports.callbacks :=
  ⟨fun _ _ _ _ _ => ⟨rfl, rfl⟩, fun _ _ _ _ _ => rfl⟩

namespace NetSlots

def net (s : NetSlots κ δ) : NetAdapter κ := (DemoGraph.app s.graph).env.1

def setNet (s : NetSlots κ δ) (net : NetAdapter κ) : NetSlots κ δ :=
  { s with graph := s.graph.setEnv (net, (DemoGraph.app s.graph).env.2) }

def popMessage (s : NetSlots κ δ) (actor : ActorId) : NetSlots κ δ :=
  match s.held actor, s.graph.world.registry.slots actor with
  | none, some runtime =>
    let popped := runtime.mailbox.pop
    match popped.2.1 with
    | none => s
    | some msg =>
      { s with
        graph := { s.graph with
          world := s.graph.world.setRuntime { runtime with mailbox := popped.2.2 } }
        held := Function.update s.held actor (some msg) }
  | _, _ => s

section Steps

variable (foreign : Callbacks (NetPtr κ) δ) (clock : δ → Result × UInt64 × δ)

def handOver (s : NetSlots κ δ) (index : Nat) (event : NetIngressEvent (NetPtr κ)) : NetSlots κ δ :=
  { s with
    graph := (DemoApp.publishNetEvent (netPorts foreign clock) event s.graph).2
    polled := s.polled.eraseIdx index }

/-- One callback of the SDK, one poll, or one action of the application or of an actor. Other messages
than those of network events lie in no slot. -/
def step (s : NetSlots κ δ) : NetSlotsInput κ δ → NetSlots κ δ
  | .wifi event => s.setNet (s.net.wifiEventHandler event)
  | .mqtt event => s.setNet (s.net.mqttEventHandler event)
  | .start wifiStartOk wifiConnectOk => s.setNet (s.net.startFn wifiStartOk wifiConnectOk).2
  | .stop => s.setNet s.net.stopFn
  | .poll =>
    let out := s.net.pollIngress
    { s.setNet out.2.2 with polled := s.polled ++ out.2.1.toList }
  | .publish index => match s.polled[index]? with
    | none => s
    | some event => s.handOver foreign clock index event
  | .publishOther msg =>
    if msg.netSlot = none then
      { s with graph := (DemoApp.publishOwned (netPorts foreign clock) msg s.graph).2 }
    else s
  | .pop actor => s.popMessage actor
  | .dispose actor => match s.held actor with
    | none => s
    | some msg =>
      { s with
        graph := (DemoApp.disposeMsg (netPorts foreign clock) msg s.graph).2
        held := Function.update s.held actor none }
  | .outside act => { s with graph := s.graph.setEnv (s.net, act (DemoGraph.app s.graph).env.2) }

def run (s : NetSlots κ δ) (inputs : List (NetSlotsInput κ δ)) : NetSlots κ δ :=
  inputs.foldl (step foreign clock) s

end Steps

/-- The application over the mailboxes of a setup and an initialised adapter, whose ring stands
anywhere. -/
def boot (graph : DemoGraph (NetPtr κ) (NetAdapter κ × δ)) (actors : List (ActorId × MailboxKind))
    (brokerUri : Bool) (seq : UInt32) : NetSlots κ δ where
  graph := DemoGraph.setEnv { graph with world := { graph.world with registry := .setup actors } }
    ({ NetAdapter.initialised brokerUri with writeSeq := seq, readSeq := seq },
      (DemoGraph.app graph).env.2)

def copiesHold (s : NetSlots κ δ) (index : NetSlotIndex) : Nat :=
  ∑ actor ∈ actorCatalog.toFinset, (s.graph.world.registry.queued actor ++ (s.held actor).toList).countP
    fun msg => decide (msg.netSlot = some index)

/-- The reference counts are those of the events and messages in the slots, and a slot is in use while
it has one. -/
structure Accounted (s : NetSlots κ δ) : Prop where
  inUse : ∀ index, (s.net.payloadSlots index).inUse = true ↔
    1 ≤ (s.net.payloadSlots index).refcount.toNat
  refcount : ∀ index, (s.net.payloadSlots index).refcount.toNat =
    NetAdapter.eventsHold s.net.events index + NetAdapter.eventsHold s.polled index + s.copiesHold index
  slotsInUse : s.net.payloadSlotsInUse.toNat =
    (Finset.univ.filter fun index => (s.net.payloadSlots index).inUse = true).card

/-- A slot that stays referenced keeps its topic and its payload. -/
def Stable (s t : NetSlots κ δ) : Prop :=
  ∀ index, (s.net.payloadSlots index).inUse = true → (t.net.payloadSlots index).inUse = true →
    (t.net.payloadSlots index).payload = (s.net.payloadSlots index).payload

/-- The payload slots as a part of what lies outside the mailboxes. -/
def slotOwner (foreign : Callbacks (NetPtr κ) δ) (clock : δ → Result × UInt64 × δ) :
    PayloadOwner (NetPtr κ) (DemoOutside (NetPtr κ) (NetAdapter κ × δ)) NetSlotIndex :=
  (NetAdapter.owner foreign).along (outsideCallbacks_along (netPorts foreign clock))

def heldShares (held : ActorId → Option (Msg (NetPtr κ))) (index : NetSlotIndex) : Nat :=
  ∑ actor ∈ actorCatalog.toFinset, (held actor).elim 0 fun msg => msg.netShares index

def rest (s : NetSlots κ δ) (index : NetSlotIndex) : Nat :=
  NetAdapter.eventsHold (s.net.events ++ s.polled) index + heldShares s.held index

structure Inv (foreign : Callbacks (NetPtr κ) δ) (clock : δ → Result × UInt64 × δ) (s : NetSlots κ δ) :
    Prop where
  balanced : (slotOwner foreign clock).Balanced s.rest s.graph.world
  leased : ∀ event ∈ s.net.events ++ s.polled, NetAdapter.WellLeased event
  sole : ∀ index, NetAdapter.eventsHold (s.net.events ++ s.polled) index ≤ 1
  pending : s.net.pending.toNat ≤ 16
  held : ∀ actor msg, s.held actor = some msg → actor.isValid = true ∧ msg.LeasesSlot

variable {foreign : Callbacks (NetPtr κ) δ} {clock : δ → Result × UInt64 × δ} {s t : NetSlots κ δ}

section Publication

variable {graph : DemoGraph (NetPtr κ) (NetAdapter κ × δ)} {rest rest' : NetSlotIndex → Nat}
  {msg : Msg (NetPtr κ)} {event : NetIngressEvent (NetPtr κ)}

/-- A step from one graph to another: the shares outside the mailboxes are `rest'` afterwards, and no
slot was handed out. -/
def Moves (foreign : Callbacks (NetPtr κ) δ) (clock : δ → Result × UInt64 × δ)
    (graph graph' : DemoGraph (NetPtr κ) (NetAdapter κ × δ)) (rest' : NetSlotIndex → Nat) : Prop :=
  (slotOwner foreign clock).Balanced rest' graph'.world ∧
    (DemoGraph.app graph).env.1.KeepsSlots (DemoGraph.app graph').env.1

theorem balanced_congr {w w' : World (NetPtr κ) (DemoOutside (NetPtr κ) (NetAdapter κ × δ))}
    (h : (slotOwner foreign clock).Balanced rest w) (hregistry : w'.registry = w.registry)
    (hnet : w'.outside.2.env.1 = w.outside.2.env.1) : (slotOwner foreign clock).Balanced rest w' := by
  refine ⟨?_, hregistry ▸ h.wf, ?_⟩
  · change w'.outside.2.env.1.Counts _
    rw [hnet, hregistry]
    exact h.counts
  · rw [hregistry]
    exact h.owns

theorem disposeMsg_moves (h : (slotOwner foreign clock).Balanced rest graph.world)
    (howns : msg.LeasesSlot) (hrest : ∀ index, rest' index + msg.netShares index = rest index) :
    Moves foreign clock graph (DemoApp.disposeMsg (netPorts foreign clock) msg graph).2 rest' := by
  have howned : (slotOwner foreign clock).Owns graph.world.outside msg := howns
  obtain ⟨hbalanced, hkeeps⟩ := h.dispose howned hrest
  have hdispose := (outsideCallbacks_along (netPorts foreign clock)).dispose msg graph.world.outside
  refine ⟨balanced_congr hbalanced rfl (congrArg Prod.fst hdispose.symm), ?_⟩
  change (DemoGraph.app graph).env.1.KeepsSlots (msg.dispose (netCallbacks foreign)
    (DemoGraph.app graph).env).2.2.1
  have hpart := congrArg Prod.fst hdispose
  change _ = (msg.dispose (netCallbacks foreign) (DemoGraph.app graph).env).2.2.1 at hpart
  rw [← hpart]
  exact hkeeps

theorem publishOwned_moves (h : (slotOwner foreign clock).Balanced rest graph.world)
    (howns : msg.LeasesSlot) (hrest : ∀ index, rest' index + msg.netShares index = rest index)
    (hroom : ∀ index, actorCount * 16 + rest index + 1 < 2 ^ 32) :
    Moves foreign clock graph (DemoApp.publishOwned (netPorts foreign clock) msg graph).2 rest' := by
  have hdelivered : (slotOwner foreign clock).Balanced rest (Delivery.publish
        (netPorts foreign clock).delivery (DemoGraph.deliveryGraph graph) msg).2.graph.world ∧
      (slotOwner foreign clock).Keeps graph.world.outside (Delivery.publish
        (netPorts foreign clock).delivery (DemoGraph.deliveryGraph graph) msg).2.graph.world.outside := by
    refine PayloadOwner.Balanced.publish h rfl (fun now hnow w c hcounts => ?_)
      (fun msg index => msg.netShares_le_one index) howns
      (fun index => hrest index ▸ Nat.le_add_left _ _) hroom
    cases hnow
    exact ⟨hcounts, .refl _⟩
  have hpublished : Moves foreign clock graph (graph.publish (netPorts foreign clock) msg).2.2 rest :=
    ⟨balanced_congr hdelivered.1 rfl rfl, hdelivered.2⟩
  have hcounted (f : DemoAppStats → DemoAppStats) {graph' : DemoGraph (NetPtr κ) (NetAdapter κ × δ)}
      (hmoves : Moves foreign clock graph graph' rest) :
      Moves foreign clock graph (DemoApp.countStats f graph') rest :=
    ⟨balanced_congr hmoves.1 rfl rfl, hmoves.2⟩
  have hdisposed {graph' : DemoGraph (NetPtr κ) (NetAdapter κ × δ)}
      (hmoves : Moves foreign clock graph graph' rest) :
      Moves foreign clock graph (DemoApp.disposeMsg (netPorts foreign clock) msg graph').2 rest' := by
    obtain ⟨hbalanced, hkeeps⟩ := disposeMsg_moves hmoves.1 howns hrest
    exact ⟨hbalanced, hmoves.2.trans hkeeps⟩
  unfold DemoApp.publishOwned
  simp only
  split
  · split <;> exact hdisposed (hcounted _ (hcounted _ hpublished))
  · split <;> exact hdisposed (hcounted _ hpublished)

/-- The message that the payload of an event would be attached to. -/
def carrier (event : NetIngressEvent (NetPtr κ)) : Msg (NetPtr κ) where
  cookie := msgCookie
  eventId := .netMqttMsgRxLease
  sourceActor := .runtime
  targetActor := .none
  storage := .external
  external := event.externalPayload
  payloadSize := event.externalPayload.size

theorem carrier_leases (h : NetAdapter.WellLeased event) : (carrier event).LeasesSlot := by
  intro index hslot
  obtain ⟨_, hexternal, _⟩ := h index hslot
  refine ⟨hexternal, ?_, rfl, by simp [Msg.isDisposed, carrier]⟩
  change event.externalPayload.size = _
  rw [hexternal]
  rfl

theorem carrier_shares (event : NetIngressEvent (NetPtr κ)) (index : NetSlotIndex) :
    (carrier event).netShares index = NetAdapter.eventsHold [event] index := by
  have hslot : (carrier event).netSlot = event.externalPayload.netSlot := rfl
  simp [Msg.netShares, hslot, NetAdapter.eventsHold, List.countP_cons]

theorem releaseNetEventExternalPayload_moves
    (h : (slotOwner foreign clock).Balanced rest graph.world) (hleased : NetAdapter.WellLeased event)
    (hrest : ∀ index, rest' index + NetAdapter.eventsHold [event] index = rest index) :
    Moves foreign clock graph
      (DemoApp.releaseNetEventExternalPayload (netPorts foreign clock) event graph) rest' := by
  have hlive : (carrier event).isDisposed = false := by simp [Msg.isDisposed, carrier]
  have hreleased : Moves foreign clock graph (DemoGraph.setEnv graph ((carrier event).releasePayload
      (netCallbacks foreign) (DemoGraph.app graph).env)) rest' := by
    rw [← Msg.dispose_live (netCallbacks foreign) rfl hlive]
    refine disposeMsg_moves h (carrier_leases hleased) fun index => ?_
    rw [carrier_shares]
    exact hrest index
  have hkept (hnothing : event.externalPayload.releaseFn.isSome = true → ¬(event.payloadStorage = .lease ∧
      event.externalPayload.data.isSome ∧ 0 < event.externalPayload.size)) :
      Moves foreign clock graph graph rest' := by
    have hslot : event.externalPayload.netSlot = none := by
      cases hslot : event.externalPayload.netSlot with
      | none => rfl
      | some index =>
        obtain ⟨hstorage, hexternal, _⟩ := hleased index hslot
        rw [hexternal] at hnothing
        have hpos : 0 < netMqttRxPayloadSize := by decide
        exact absurd ⟨hstorage, rfl, hpos⟩ (hnothing rfl)
    have hsame : rest' = rest := funext fun index => by
      have hindex := hrest index
      rwa [NetAdapter.eventsHold_eq_zero (by simpa using hslot), Nat.add_zero] at hindex
    exact ⟨hsame ▸ h, .refl _⟩
  unfold DemoApp.releaseNetEventExternalPayload
  simp only
  split
  · rename_i hfn
    exact hkept fun hsome => by simp [hfn] at hsome
  · rename_i fn hfn
    split
    · rename_i hgoes
      have heq : (carrier event).releasePayload (netCallbacks foreign) (DemoGraph.app graph).env =
          (netCallbacks foreign).release fn event.externalPayload.lifecycleCtx event.externalPayload.data
            event.externalPayload.size (DemoGraph.app graph).env := by
        unfold Msg.releasePayload
        rw [if_pos ⟨rfl, hgoes.2.2⟩]
        simp only [carrier, hfn]
      rw [heq] at hreleased
      exact hreleased
    · rename_i hstays
      exact hkept fun _ => hstays

/-- A published event becomes a message with its share, or the share is given back. -/
theorem publishNetEvent_moves (h : (slotOwner foreign clock).Balanced rest graph.world)
    (hleased : NetAdapter.WellLeased event)
    (hrest : ∀ index, rest' index + NetAdapter.eventsHold [event] index = rest index)
    (hroom : ∀ index, actorCount * 16 + rest index + 1 < 2 ^ 32) :
    Moves foreign clock graph (DemoApp.publishNetEvent (netPorts foreign clock) event graph).2 rest' := by
  cases hmessage : DemoApp.netMessage event with
  | none =>
    obtain ⟨rc, _, heq⟩ := DemoApp.publishNetEvent_of_none (netPorts foreign clock) hmessage graph
    rw [heq]
    exact releaseNetEventExternalPayload_moves h hleased hrest
  | some msg =>
    rw [DemoApp.publishNetEvent_of_message (netPorts foreign clock) hmessage graph]
    have hcarries : msg.netSlot = event.externalPayload.netSlot ∧ msg.LeasesSlot := by
      cases hslot : event.externalPayload.netSlot with
      | none =>
        have hnone : msg.netSlot = none := by
          unfold Msg.netSlot
          split
          · rename_i hstorage
            rw [DemoApp.netMessage_external hmessage hstorage, hslot]
          · rfl
        refine ⟨hnone, fun index hindex => ?_⟩
        rw [hnone] at hindex
        cases hindex
      | some index =>
        obtain ⟨hstorage, hexternal, hkind⟩ := hleased index hslot
        rcases hkind with hkind | hkind
        · rw [DemoApp.netMessage_lease hkind hstorage hexternal] at hmessage
          obtain rfl := Option.some.inj hmessage
          refine ⟨rfl, fun other hother => ?_⟩
          have hsame : index = other := Option.some.inj hother
          exact ⟨hsame ▸ rfl, rfl, rfl, by simp [Msg.isDisposed, DemoApp.leaseMessage]⟩
        · simp [DemoApp.netMessage, DemoApp.netEventId, hkind] at hmessage
    refine publishOwned_moves h hcarries.2 (fun index => ?_) hroom
    have hshares : msg.netShares index = NetAdapter.eventsHold [event] index := by
      simp [Msg.netShares, hcarries.1, NetAdapter.eventsHold, List.countP_cons]
    rw [hshares]
    exact hrest index

end Publication

def shares (foreign : Callbacks (NetPtr κ) δ) (clock : δ → Result × UInt64 × δ) (s : NetSlots κ δ)
    (index : NetSlotIndex) : Nat :=
  (slotOwner foreign clock).registryShares s.graph.world.registry index + s.rest index

theorem Inv.counts (h : s.Inv foreign clock) : s.net.Counts (s.shares foreign clock) := h.balanced.counts

theorem heldShares_le (held : ActorId → Option (Msg (NetPtr κ))) (index : NetSlotIndex) :
    heldShares held index ≤ actorCount := by
  have hcard : actorCatalog.toFinset.card = actorCount :=
    List.toFinset_card_of_nodup actorCatalog_nodup
  have hle : heldShares held index ≤ actorCatalog.toFinset.card * 1 := by
    refine Finset.sum_le_card_nsmul actorCatalog.toFinset _ 1 fun actor _ => ?_
    cases held actor with
    | none => exact Nat.zero_le 1
    | some msg => exact msg.netShares_le_one index
  omega

/-- A share more for a slot always fits into its reference count. -/
theorem Inv.room (h : s.Inv foreign clock) (index : NetSlotIndex) :
    actorCount * 16 + s.rest index + 1 < 2 ^ 32 := by
  have hheld := heldShares_le s.held index
  have hsole := h.sole index
  have hactors : actorCount * 16 + (1 + actorCount) + 1 < 2 ^ 32 := by decide
  unfold rest
  omega

theorem Inv.pushes (h : s.Inv foreign clock) {net' : NetAdapter κ}
    (hpushes : NetAdapter.Pushes (s.shares foreign clock) s.net net') :
    (s.setNet net').Inv foreign clock ∧ Stable s (s.setNet net') := by
  obtain ⟨pushed, hevents, hleased, hcounts, hfree⟩ := hpushes.events
  have hhold (index : NetSlotIndex) : NetAdapter.eventsHold ((s.setNet net').net.events ++
      (s.setNet net').polled) index =
        NetAdapter.eventsHold (s.net.events ++ s.polled) index + NetAdapter.eventsHold pushed index := by
    change NetAdapter.eventsHold (net'.events ++ s.polled) index = _
    rw [hevents]
    simp only [NetAdapter.eventsHold_append]
    omega
  refine ⟨⟨⟨?_, h.balanced.wf, h.balanced.owns⟩, ?_, ?_, hpushes.pending, h.held⟩, ?_⟩
  · refine (congrArg net'.Counts (funext fun index => ?_)).mp hcounts
    change s.shares foreign clock index + _ = _ + (NetAdapter.eventsHold ((s.setNet net').net.events ++
      (s.setNet net').polled) index + heldShares s.held index)
    rw [hhold index, shares, rest]
    change _ = (slotOwner foreign clock).registryShares s.graph.world.registry index + _
    omega
  · intro event hevent
    change event ∈ net'.events ++ s.polled at hevent
    rw [hevents, List.append_assoc, List.mem_append, List.mem_append] at hevent
    rcases hevent with hold | hnew | hold
    · exact h.leased event (List.mem_append_left _ hold)
    · exact hleased event hnew
    · exact h.leased event (List.mem_append_right _ hold)
  · intro index
    rw [hhold index]
    have hsole := h.sole index
    by_cases hpos : 0 < NetAdapter.eventsHold pushed index
    · obtain ⟨hzero, hone⟩ := hfree index hpos
      unfold shares rest at hzero
      omega
    · omega
  · intro index hused _
    refine hpushes.stable index ?_
    rw [h.counts.inUse] at hused
    exact of_decide_eq_true hused

/-- A poll moves an event from the ring to the application. -/
theorem Inv.poll (h : s.Inv foreign clock) :
    (s.step foreign clock .poll).Inv foreign clock ∧ Stable s (s.step foreign clock .poll) := by
  obtain ⟨_, hpending, hevents⟩ := s.net.pollIngress_cases
  have hslots : s.net.SameSlots s.net.pollIngress.2.2 := by
    unfold NetAdapter.pollIngress
    split <;> exact ⟨rfl, rfl⟩
  have hhold (index : NetSlotIndex) : NetAdapter.eventsHold
      (s.net.pollIngress.2.2.events ++ (s.polled ++ s.net.pollIngress.2.1.toList)) index =
        NetAdapter.eventsHold (s.net.events ++ s.polled) index := by
    rw [hevents]
    simp only [NetAdapter.eventsHold_append]
    omega
  refine ⟨⟨⟨?_, h.balanced.wf, h.balanced.owns⟩, ?_, ?_, Nat.le_trans hpending h.pending, h.held⟩, ?_⟩
  · refine (congrArg s.net.pollIngress.2.2.Counts (funext fun index => ?_)).mp (h.counts.same hslots)
    change s.shares foreign clock index = _ + (NetAdapter.eventsHold (s.net.pollIngress.2.2.events ++
      (s.polled ++ s.net.pollIngress.2.1.toList)) index + heldShares s.held index)
    rw [hhold index]
    rfl
  · intro event hevent
    change event ∈ s.net.pollIngress.2.2.events ++ (s.polled ++ s.net.pollIngress.2.1.toList) at hevent
    refine h.leased event ?_
    rw [hevents]
    rw [List.mem_append, List.mem_append] at hevent ⊢
    rcases hevent with hring | hpolled | htaken
    · exact Or.inl (Or.inr hring)
    · exact Or.inr hpolled
    · exact Or.inl (Or.inl htaken)
  · intro index
    change NetAdapter.eventsHold (s.net.pollIngress.2.2.events ++
      (s.polled ++ s.net.pollIngress.2.1.toList)) index ≤ 1
    rw [hhold index]
    exact h.sole index
  · intro index _ _
    exact congrArg (fun slots => (slots index).payload) hslots.payloadSlots

/-- A step of the application or of an actor, which takes no event from the ring. -/
theorem Inv.moves (h : s.Inv foreign clock) {graph : DemoGraph (NetPtr κ) (NetAdapter κ × δ)}
    {polled : List (NetIngressEvent (NetPtr κ))} {held : ActorId → Option (Msg (NetPtr κ))}
    (hmoves : Moves foreign clock s.graph graph fun index =>
      NetAdapter.eventsHold (s.net.events ++ polled) index + heldShares held index)
    (hpolled : ∀ event ∈ polled, event ∈ s.polled)
    (hless : ∀ index, NetAdapter.eventsHold polled index ≤ NetAdapter.eventsHold s.polled index)
    (hheld : ∀ actor msg, held actor = some msg → actor.isValid = true ∧ msg.LeasesSlot) :
    Inv foreign clock ⟨graph, polled, held⟩ ∧ Stable s ⟨graph, polled, held⟩ := by
  obtain ⟨hbalanced, hkeeps⟩ := hmoves
  have hevents : (NetSlots.mk graph polled held).net.events = s.net.events := hkeeps.toSameRing.events
  refine ⟨⟨?_, ?_, ?_, ?_, hheld⟩, fun index _ hused => (hkeeps.used index hused).2⟩
  · unfold rest
    rw [hevents]
    exact hbalanced
  · intro event hevent
    rw [hevents] at hevent
    refine h.leased event ?_
    rcases List.mem_append.mp hevent with hold | hold
    · exact List.mem_append_left _ hold
    · exact List.mem_append_right _ (hpolled event hold)
  · intro index
    have hsole := h.sole index
    have := hless index
    rw [hevents]
    rw [NetAdapter.eventsHold_append] at hsole ⊢
    exact Nat.le_trans (Nat.add_le_add_left this _) hsole
  · exact hkeeps.toSameRing.pending ▸ h.pending

/-- The event that is handed over may have lost its kind, its lengths and its bytes. -/
theorem Inv.handOver (h : s.Inv foreign clock) {index : Nat} {event event' : NetIngressEvent (NetPtr κ)}
    (hpolled : s.polled[index]? = some event) (hexternal : event'.externalPayload = event.externalPayload)
    (hstorage : event'.payloadStorage = event.payloadStorage)
    (hkind : event'.kind = event.kind ∨ event'.kind = .none) :
    (s.handOver foreign clock index event').Inv foreign clock ∧
      Stable s (s.handOver foreign clock index event') := by
  have hleased : NetAdapter.WellLeased event' := by
    intro slot hslot
    rw [hexternal] at hslot ⊢
    obtain ⟨hlease, hmade, hkinds⟩ :=
      h.leased event (List.mem_append_right _ (List.mem_of_getElem? hpolled)) slot hslot
    refine ⟨hstorage.trans hlease, hmade, ?_⟩
    rcases hkind with hkind | hkind
    · rwa [hkind]
    · exact Or.inr hkind
  have hcount (slot : NetSlotIndex) : NetAdapter.eventsHold (s.polled.eraseIdx index) slot +
      NetAdapter.eventsHold [event'] slot = NetAdapter.eventsHold s.polled slot := by
    obtain ⟨hlt, hat⟩ := List.getElem?_eq_some_iff.mp hpolled
    have hperm := (List.getElem_cons_eraseIdx_perm hlt).countP_eq
      fun event => decide (event.externalPayload.netSlot = some slot)
    rw [hat, List.countP_cons] at hperm
    simp only [NetAdapter.eventsHold, List.countP_cons, List.countP_nil, hexternal] at hperm ⊢
    omega
  refine h.moves (publishNetEvent_moves h.balanced hleased (fun slot => ?_) h.room) ?_ (fun slot => ?_)
    h.held
  · have := hcount slot
    simp only [rest, NetAdapter.eventsHold_append]
    omega
  · exact fun other hother => List.mem_of_mem_eraseIdx hother
  · have := hcount slot
    omega

theorem heldShares_update (held : ActorId → Option (Msg (NetPtr κ))) {actor : ActorId}
    (hvalid : actor.isValid = true) (taken : Option (Msg (NetPtr κ))) (index : NetSlotIndex) :
    heldShares (Function.update held actor taken) index +
        ((held actor).elim 0 fun msg => msg.netShares index) =
      heldShares held index + taken.elim 0 fun msg => msg.netShares index :=
  sum_update_add (PayloadOwner.mem_actors hvalid)
    (fun taken : Option (Msg (NetPtr κ)) => taken.elim 0 fun msg => msg.netShares index) held taken

theorem Inv.held_update (h : s.Inv foreign clock) {actor : ActorId} {taken : Option (Msg (NetPtr κ))}
    (htaken : ∀ msg, taken = some msg → actor.isValid = true ∧ msg.LeasesSlot) (other : ActorId)
    (msg : Msg (NetPtr κ)) (hmsg : Function.update s.held actor taken other = some msg) :
    other.isValid = true ∧ msg.LeasesSlot := by
  by_cases he : other = actor
  · subst he
    rw [Function.update_self] at hmsg
    exact htaken msg hmsg
  · rw [Function.update_of_ne he] at hmsg
    exact h.held other msg hmsg

theorem Inv.popMessage (h : s.Inv foreign clock) (actor : ActorId) :
    (s.popMessage actor).Inv foreign clock ∧ Stable s (s.popMessage actor) := by
  have hsame : s.Inv foreign clock ∧ Stable s s := ⟨h, fun _ _ _ => rfl⟩
  unfold NetSlots.popMessage
  split
  · rename_i runtime hheld hslot
    cases hpop : runtime.mailbox.pop.2.1 with
    | none => simpa only [hpop] using hsame
    | some msg =>
      simp only [hpop]
      have hpopped : runtime.mailbox.pop = (runtime.mailbox.pop.1, some msg, runtime.mailbox.pop.2.2) :=
        Prod.ext rfl (Prod.ext hpop rfl)
      obtain ⟨hbalanced, howns⟩ := h.balanced.pop hslot hpopped
      have hvalid := (h.balanced.wf actor runtime hslot).1
      refine h.moves ⟨?_, .refl _⟩ (fun _ hevent => hevent) (fun _ => Nat.le_refl _)
        (h.held_update fun other hother => ⟨hvalid, Option.some.inj hother ▸ howns⟩)
      refine (congrArg (fun rest => (slotOwner foreign clock).Balanced rest _) (funext fun index => ?_)).mp
        hbalanced
      have hupdate := heldShares_update s.held hvalid (some msg) index
      rw [hheld] at hupdate
      simp only [Option.elim] at hupdate
      change s.rest index + msg.netShares index = _
      unfold rest
      omega
  · exact hsame

theorem Inv.publishOther (h : s.Inv foreign clock) {msg : Msg (NetPtr κ)} (hnone : msg.netSlot = none) :
    Inv foreign clock ⟨(DemoApp.publishOwned (netPorts foreign clock) msg s.graph).2, s.polled, s.held⟩ ∧
      Stable s ⟨(DemoApp.publishOwned (netPorts foreign clock) msg s.graph).2, s.polled, s.held⟩ := by
  refine h.moves (publishOwned_moves h.balanced (fun index hslot => ?_) (fun index => ?_) h.room)
    (fun _ hevent => hevent) (fun _ => Nat.le_refl _) h.held
  · rw [hnone] at hslot
    cases hslot
  · rw [Msg.netShares_eq_zero hnone]
    exact Nat.add_zero _

theorem Inv.dispose (h : s.Inv foreign clock) {actor : ActorId} {msg : Msg (NetPtr κ)}
    (hheld : s.held actor = some msg) :
    Inv foreign clock ⟨(DemoApp.disposeMsg (netPorts foreign clock) msg s.graph).2, s.polled,
        Function.update s.held actor none⟩ ∧
      Stable s ⟨(DemoApp.disposeMsg (netPorts foreign clock) msg s.graph).2, s.polled,
        Function.update s.held actor none⟩ := by
  obtain ⟨hvalid, howns⟩ := h.held actor msg hheld
  refine h.moves (disposeMsg_moves h.balanced howns fun index => ?_) (fun _ hevent => hevent)
    (fun _ => Nat.le_refl _) (h.held_update fun _ hnone => by cases hnone)
  have hupdate := heldShares_update s.held hvalid none index
  rw [hheld] at hupdate
  simp only [Option.elim] at hupdate
  unfold rest
  omega

/-- Whatever is done, the shares stay right and the slots that are referenced keep their bytes. -/
theorem Inv.step (h : s.Inv foreign clock) (input : NetSlotsInput κ δ) :
    (s.step foreign clock input).Inv foreign clock ∧ Stable s (s.step foreign clock input) := by
  have hsame : s.Inv foreign clock ∧ Stable s s := ⟨h, fun _ _ _ => rfl⟩
  cases input with
  | wifi event => exact h.pushes ((NetAdapter.wifiEventHandler_pushes h.pending event).pushes h.counts)
  | mqtt event => exact h.pushes (NetAdapter.mqttEventHandler_pushes h.counts h.pending event)
  | start wifiStartOk wifiConnectOk =>
    exact h.pushes ((NetAdapter.startFn_pushes h.pending wifiStartOk wifiConnectOk).pushes h.counts)
  | stop => exact h.pushes ((NetAdapter.stopFn_pushes h.pending).pushes h.counts)
  | poll => exact h.poll
  | publish index =>
    simp only [NetSlots.step]
    split
    · exact hsame
    · rename_i event hpolled
      exact h.handOver hpolled rfl rfl (Or.inl rfl)
  | publishOther msg =>
    simp only [NetSlots.step]
    split
    · rename_i hnone
      exact h.publishOther hnone
    · exact hsame
  | pop actor => exact h.popMessage actor
  | dispose actor =>
    simp only [NetSlots.step]
    split
    · exact hsame
    · rename_i msg hheld
      exact h.dispose hheld
  | outside act =>
    exact h.moves ⟨balanced_congr h.balanced rfl rfl, .refl _⟩ (fun _ hevent => hevent)
      (fun _ => Nat.le_refl _) h.held

theorem Inv.run (h : s.Inv foreign clock) (inputs : List (NetSlotsInput κ δ)) :
    (s.run foreign clock inputs).Inv foreign clock := by
  induction inputs generalizing s with
  | nil => exact h
  | cons input inputs ih => exact ih (h.step input).1

theorem queueShares_eq (queued : List (Msg (NetPtr κ))) (index : NetSlotIndex) :
    (slotOwner foreign clock).queueShares queued index =
      queued.countP fun msg => decide (msg.netSlot = some index) := by
  induction queued with
  | nil => rfl
  | cons msg queued ih =>
    rw [PayloadOwner.queueShares_cons, List.countP_cons, ih, Nat.add_comm]
    congr 1
    change msg.netShares index = _
    simp [Msg.netShares]

theorem copiesHold_eq (foreign : Callbacks (NetPtr κ) δ) (clock : δ → Result × UInt64 × δ)
    (s : NetSlots κ δ) (index : NetSlotIndex) : s.copiesHold index =
    (slotOwner foreign clock).registryShares s.graph.world.registry index + heldShares s.held index := by
  unfold copiesHold PayloadOwner.registryShares heldShares
  rw [← Finset.sum_add_distrib]
  refine Finset.sum_congr rfl fun actor _ => ?_
  rw [List.countP_append, queueShares_eq]
  congr 1
  cases s.held actor with
  | none => rfl
  | some msg => simp [Msg.netShares, List.countP_cons]

theorem Inv.accounted (h : s.Inv foreign clock) : s.Accounted := by
  have hcounts := h.counts
  refine ⟨fun index => ?_, fun index => ?_, ?_⟩
  · rw [hcounts.inUse, hcounts.refcount, decide_eq_true_iff]
    rfl
  · rw [hcounts.refcount, copiesHold_eq foreign clock, shares, rest,
      NetAdapter.eventsHold_append]
    omega
  · have hcard : (Finset.univ.filter fun index =>
        (s.net.payloadSlots index).inUse = true).card ≤ 4 := Finset.card_le_univ _
    rw [hcounts.total]
    exact UInt32.toNat_ofNat_of_lt' (Nat.lt_of_le_of_lt hcard (by decide))

theorem boot_inv (foreign : Callbacks (NetPtr κ) δ) (clock : δ → Result × UInt64 × δ)
    (graph : DemoGraph (NetPtr κ) (NetAdapter κ × δ)) (actors : List (ActorId × MailboxKind))
    (brokerUri : Bool) (seq : UInt32) : (boot graph actors brokerUri seq).Inv foreign clock := by
  obtain ⟨_, hslots⟩ := setup_untouched (P := NetPtr κ) actors
  have hqueued (actor : ActorId) :
      (ActorRegistry.setup actors : ActorRegistry (NetPtr κ)).queued actor = [] := by
    cases hslot : (ActorRegistry.setup actors : ActorRegistry (NetPtr κ)).slots actor with
    | none => simp [ActorRegistry.queued, hslot]
    | some runtime =>
      obtain ⟨_, _, kind, _, hmailbox⟩ := hslots actor runtime hslot
      rw [(ActorRegistry.books_of_slot hslot).1, hmailbox]
      exact (Mailbox.fresh_holds kind).2
  have hevents : (boot graph actors brokerUri seq).net.events = [] := SeqRing.entries_self _ _ seq
  have hpolled : (boot graph actors brokerUri seq).net.events ++
      (boot graph actors brokerUri seq).polled = [] := by
    rw [hevents]
    rfl
  have hslots' : NetAdapter.SameSlots ({ writeSeq := seq, readSeq := seq } : NetAdapter κ)
      (boot graph actors brokerUri seq).net := by
    cases brokerUri <;> exact ⟨rfl, rfl⟩
  refine ⟨⟨?_, ?_, ?_⟩, ?_, ?_, ?_, fun _ _ hnone => by cases hnone⟩
  · refine (congrArg (boot graph actors brokerUri seq).net.Counts (funext fun index => ?_)).mp
      ((NetAdapter.counts_initialised seq).same hslots')
    have hregistry : (slotOwner foreign clock).registryShares
        (boot graph actors brokerUri seq).graph.world.registry index = 0 :=
      Finset.sum_eq_zero fun actor _ => by
        change (slotOwner foreign clock).queueShares ((ActorRegistry.setup actors).queued actor) index = 0
        rw [hqueued]
        rfl
    have hheld : heldShares (boot graph actors brokerUri seq).held index = 0 :=
      Finset.sum_eq_zero fun actor _ => rfl
    rw [hregistry, rest, hpolled, hheld]
    rfl
  · intro actor runtime hslot
    obtain ⟨hvalid, _, kind, _, hmailbox⟩ := hslots actor runtime hslot
    exact ⟨hvalid, hmailbox ▸ (Mailbox.fresh_holds kind).1⟩
  · intro actor msg hmsg
    change msg ∈ (ActorRegistry.setup actors : ActorRegistry (NetPtr κ)).queued actor at hmsg
    rw [hqueued] at hmsg
    cases hmsg
  · intro event hevent
    rw [hpolled] at hevent
    cases hevent
  · intro index
    rw [hpolled]
    exact Nat.zero_le 1
  · have hpending : (boot graph actors brokerUri seq).net.pending = 0 := UInt32.sub_self seq
    rw [hpending]
    decide

/-- In every state that callbacks, polls, publications and disposals reach, a slot has one share for
each event and each message in it, and none is handed out again before the last share is back.
Whatever became of the kind, the lengths and the bytes of a polled event, its publication gives its
share to the messages that were queued or back to the adapter. -/
theorem shares_accounted (foreign : Callbacks (NetPtr κ) δ) (clock : δ → Result × UInt64 × δ)
    (graph : DemoGraph (NetPtr κ) (NetAdapter κ × δ)) (actors : List (ActorId × MailboxKind))
    (brokerUri : Bool) (seq : UInt32) (inputs : List (NetSlotsInput κ δ)) :
    let s := (boot graph actors brokerUri seq).run foreign clock inputs
    s.Accounted ∧ (∀ input, Stable s (s.step foreign clock input)) ∧
      ∀ index event event', s.polled[index]? = some event →
        event'.externalPayload = event.externalPayload →
        event'.payloadStorage = event.payloadStorage →
        (event'.kind = event.kind ∨ event'.kind = .none) →
          (s.handOver foreign clock index event').Accounted ∧
            Stable s (s.handOver foreign clock index event') := by
  have h := (boot_inv foreign clock graph actors brokerUri seq).run inputs
  refine ⟨h.accounted, fun input => (h.step input).2, ?_⟩
  intro index event event' hpolled hexternal hstorage hkind
  obtain ⟨hafter, hstable⟩ := h.handOver hpolled hexternal hstorage hkind
  exact ⟨hafter.accounted, hstable⟩

end NetSlots

end EventFramework
