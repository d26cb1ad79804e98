import EventFramework.Runtime.GraphRoutes
import EventFramework.Runtime.PublishAgreement

/-!
# Publishing by actors and by the graph

Over a built graph the publication of an actor is the plain walk through the enabled routes of
the event, the publication of the graph the walk with their QoS.
-/

namespace EventFramework
set_option autoImplicit false

variable {P ω κ : Type}

/-- A route that was not rejected has a valid target, and is enabled just when the target was
requested. -/
theorem RouteBuilder.classifyRoute_accepted {builder : RouteBuilder} {route : Route}
    (h : (builder.classifyRoute route).state = .enabled ∨
      (builder.classifyRoute route).state = .optionalDisabled) :
    route.targetActor.isValid = true ∧
      ((builder.classifyRoute route).state = .enabled ↔
        builder.requested route.targetActor = true) := by
  unfold classifyRoute at h ⊢
  by_cases hevent : route.eventId.isValid = true
  · by_cases hactor : route.targetActor.isValid = true
    · cases hmodule : actorModuleFind route.targetActor with
      | none => simp [hevent, hactor, hmodule] at h
      | some module =>
        by_cases hqos : validateRouteAgainstModule route module = .ok
        · by_cases hrequested : builder.requested route.targetActor = true
          · simp [hevent, hactor, hqos, hrequested, ActiveRoute.enabled]
          · refine ⟨hactor, ?_⟩
            simp only [hevent, hactor, hqos, hrequested]
            simp only [Bool.not_true, Bool.false_eq_true, ↓reduceIte, ne_eq, not_true_eq_false,
              iff_false]
            split <;> simp [ActiveRoute.optionalDisabled]
        · simp [hevent, hactor, hmodule, hqos] at h
    · simp [hevent, hactor] at h
  · simp [hevent] at h

def enabledRoutes (entries : List ActiveRoute) : List Route :=
  (entries.filter fun entry => entry.state = .enabled).map ActiveRoute.route

/-- A graph that was built over a static table without rejecting a route: the actors of its
enabled routes are bound, with the mailboxes of the catalog. -/
structure DeliveryGraph.Built (table : RouteTable) (graph : DeliveryGraph P ω) : Prop where
  active : graph.activeRoutesBound = true
  routes : ∃ builder builder' before after,
    RouteBuilder.bindRoutes builder table before = (.ok, builder', after) ∧
      graph.activeRoutes = after.activeRoutes
  states : ∀ entry ∈ graph.activeRoutes.entries,
    entry.state = .enabled ∨ entry.state = .optionalDisabled
  bound : ∀ entry ∈ graph.activeRoutes.entries, entry.state = .enabled →
    (graph.world.mailbox entry.route.targetActor).isSome = true
  ready : graph.world.Ready

namespace Delivery

variable {ports : DeliveryPorts P ω} {msg : Msg P}

theorem publishEntries_walk (ports : DeliveryPorts P ω) (entries : List ActiveRoute)
    (hentries : ∀ entry ∈ entries, entry.route.eventId = msg.eventId ∧
      (entry.state = .enabled ∨ entry.state = .optionalDisabled)) : ∀ s : Delivery P ω,
    (publishEntries ports msg entries .ok s).1 =
        (qosWalk ports msg (enabledRoutes entries) s.graph.world).1 ∧
      (publishEntries ports msg entries .ok s).2.graph.world =
        (qosWalk ports msg (enabledRoutes entries) s.graph.world).2 ∧
      (0 < (publishEntries ports msg entries .ok s).2.report.matchedRoutes ↔
        0 < s.report.matchedRoutes ∨ entries ≠ []) := by
  induction entries with
  | nil => exact fun s => ⟨rfl, rfl, by simp [publishEntries]⟩
  | cons entry rest ih =>
    intro s
    obtain ⟨⟨hevent, hstate⟩, hrest⟩ := List.forall_mem_cons.mp hentries
    rcases hstate with hstate | hstate
    · have hroutes : enabledRoutes (entry :: rest) = entry.route :: enabledRoutes rest := by
        simp [enabledRoutes, hstate]
      obtain ⟨hworld, hrc⟩ := deliverOne_attempt ports s.matchRoute entry.route msg
      have hmatched : 0 < (deliverOne ports s.matchRoute entry.route msg).2.report.matchedRoutes := by
        rw [deliverOne_matched]
        exact Nat.succ_pos _
      have hgraph : s.matchRoute.graph.world = s.graph.world := rfl
      rw [hgraph] at hworld hrc
      simp only [publishEntries, hevent, hstate, hroutes, qosWalk, ne_eq, not_true_eq_false,
        ↓reduceIte]
      by_cases hfails : (attempt ports msg entry.route s.graph.world).1 ≠ .ok ∧
          qosFailureIsStrict entry.route.qos = true
      · rw [if_pos hfails] at hrc
        have hstop : (deliverOne ports s.matchRoute entry.route msg).1 ≠ .ok ∧
            qosFailureIsStrict entry.route.qos = true := ⟨by rw [hrc]; exact hfails.1, hfails.2⟩
        rw [if_pos hstop, if_pos hfails]
        exact ⟨hrc, hworld, fun _ => Or.inr (List.cons_ne_nil _ _), fun _ => hmatched⟩
      · rw [if_neg hfails] at hrc
        rw [if_neg fun h => h.1 hrc, if_neg (not_not.mpr hrc), if_neg hfails]
        obtain ⟨hresult, hwalk, hcount⟩ := ih hrest (deliverOne ports s.matchRoute entry.route msg).2
        rw [hworld] at hresult hwalk
        exact ⟨hresult, hwalk, fun _ => Or.inr (List.cons_ne_nil _ _),
          fun _ => hcount.mpr (Or.inl hmatched)⟩
    · have hroutes : enabledRoutes (entry :: rest) = enabledRoutes rest := by
        simp [enabledRoutes, hstate]
      simp only [publishEntries, hevent, hstate, hroutes, ne_eq, not_true_eq_false, ↓reduceIte]
      obtain ⟨hresult, hwalk, hcount⟩ := ih hrest (s.matchRoute.skipDisabled entry)
      exact ⟨hresult, hwalk, fun _ => Or.inr (List.cons_ne_nil _ _),
        fun _ => hcount.mpr (Or.inl (Nat.succ_pos _))⟩

end Delivery

/-- What the entries of an event tell about its targets. -/
structure ActiveRouteTable.Settled (table : ActiveRouteTable) (eventId : EventId) : Prop where
  event : ∀ entry ∈ table.entriesForEvent eventId, entry.route.eventId = eventId
  valid : ∀ entry ∈ table.entriesForEvent eventId, entry.route.targetActor.isValid = true
  states : ∀ entry ∈ table.entriesForEvent eventId,
    entry.state = .enabled ∨ entry.state = .optionalDisabled
  same : ∀ entry ∈ table.entriesForEvent eventId, ∀ other ∈ table.entriesForEvent eventId,
    other.route.targetActor = entry.route.targetActor →
      (other.state = .enabled ↔ entry.state = .enabled)

namespace ActorPublishPort

variable {ports : DeliveryPorts P ω} {msg : Msg P}

/-- The look at the route finds an entry with the target, enabled or not as the one given. -/
theorem findRoute_entry {graph : DeliveryGraph P ω} (h : graph.activeRoutes.Settled msg.eventId)
    {entry : ActiveRoute} (hmem : entry ∈ graph.activeRoutes.entriesForEvent msg.eventId) :
    ∃ found, findRoute graph msg.eventId entry.route.targetActor = some found ∧
      (found.state = .enabled ∨ found.state = .optionalDisabled) ∧
      (found.state = .enabled ↔ entry.state = .enabled) := by
  have hsome : (findRoute graph msg.eventId entry.route.targetActor).isSome = true := by
    unfold findRoute
    rw [List.find?_isSome]
    exact ⟨entry, hmem, by simp [h.event entry hmem]⟩
  obtain ⟨found, hfound⟩ := Option.isSome_iff_exists.mp hsome
  have hfoundMem := List.mem_of_find?_eq_some hfound
  have htarget := List.find?_some hfound
  simp only [Bool.and_eq_true, beq_iff_eq] at htarget
  exact ⟨found, hfound, h.states found hfoundMem, h.same entry hmem found hfoundMem htarget.2⟩

/-- A route whose actor is missing is skipped: the publication goes on as if it had delivered. -/
theorem send_disabled (cb : Callbacks P ω) {port : ActorPublishPort P ω}
    (h : port.graph.activeRoutes.Settled msg.eventId) {entry : ActiveRoute}
    (hmem : entry ∈ port.graph.activeRoutes.entriesForEvent msg.eventId)
    (hstate : entry.state = .optionalDisabled) :
    (port.send cb entry.route.targetActor msg).1 = .ok ∧
      (port.send cb entry.route.targetActor msg).2.graph.world = port.graph.world ∧
      (port.send cb entry.route.targetActor msg).2.graph.activeRoutes = port.graph.activeRoutes := by
  obtain ⟨found, hfound, hfoundState, hsame⟩ := findRoute_entry h hmem
  have hdisabled : found.state = .optionalDisabled := by
    rcases hfoundState with henabled | hdisabled
    · rw [hsame.mp henabled] at hstate
      cases hstate
    · exact hdisabled
  unfold send
  rw [if_neg (by simp [h.valid entry hmem])]
  simp only [hfound, hdisabled, ↓reduceIte]
  exact ⟨trivial, rfl, rfl⟩

/-- The other routes are delivered as critical ones. -/
theorem send_enabled (cb : Callbacks P ω) {port : ActorPublishPort P ω}
    (h : port.graph.activeRoutes.Settled msg.eventId) {entry : ActiveRoute}
    (hmem : entry ∈ port.graph.activeRoutes.entriesForEvent msg.eventId)
    (hstate : entry.state = .enabled) :
    (port.send cb entry.route.targetActor msg).1 =
        (port.graph.world.deliver cb entry.route.targetActor (Delivery.sent msg entry.route)
          .critical false).1 ∧
      (port.send cb entry.route.targetActor msg).2.graph.world =
        (port.graph.world.deliver cb entry.route.targetActor (Delivery.sent msg entry.route)
          .critical false).2.2 ∧
      (port.send cb entry.route.targetActor msg).2.graph.activeRoutes = port.graph.activeRoutes := by
  obtain ⟨found, hfound, _, hsame⟩ := findRoute_entry h hmem
  have henabled := hsame.mpr hstate
  have hvalid : ¬(!entry.route.targetActor.isValid) = true := by simp [h.valid entry hmem]
  unfold send
  rw [if_neg hvalid]
  simp only [hfound, henabled, reduceCtorEq, ↓reduceIte, ne_eq, not_true_eq_false]
  unfold forward DeliveryGraph.send
  simp only [if_neg hvalid]
  split
  · exact ⟨rfl, rfl, rfl⟩
  · exact ⟨rfl, rfl, rfl⟩

theorem fanOut_walk (ports : DeliveryPorts P ω) (msg : Msg P) (entries : List ActiveRoute) :
    ∀ (report : PublishReport) (port : ActorPublishPort P ω),
      port.graph.activeRoutes.Settled msg.eventId →
      (∀ entry ∈ entries, entry ∈ port.graph.activeRoutes.entriesForEvent msg.eventId) →
      let out := Publish.fanOut (deliveryAdapter ports.callbacks) .failFast msg
        (entries.map ActiveRoute.route) report port
      let walk := Delivery.plainWalk ports msg (enabledRoutes entries) port.graph.world
      out.2.2.graph.world = walk.2 ∧
        (walk.1 ≠ .ok → out.1 = some walk.1) ∧
        (walk.1 = .ok → out.1 = none ∧ out.2.1.failedCount = report.failedCount) := by
  induction entries with
  | nil => exact fun report port _ _ => ⟨rfl, fun h => absurd rfl h, fun _ => ⟨rfl, rfl⟩⟩
  | cons entry rest ih =>
    intro report port hsettled hall
    obtain ⟨hmem, hrest⟩ := List.forall_mem_cons.mp hall
    simp only [List.map_cons, Publish.fanOut]
    have hadapter : deliveryAdapter ports.callbacks entry.route.targetActor msg port =
        port.send ports.callbacks entry.route.targetActor msg := rfl
    rw [hadapter]
    rcases hsettled.states entry hmem with hstate | hstate
    · have hroutes : enabledRoutes (entry :: rest) = entry.route :: enabledRoutes rest := by
        simp [enabledRoutes, hstate]
      obtain ⟨hrc, hworld, hactive⟩ := send_enabled ports.callbacks hsettled hmem hstate
      simp only [hroutes, Delivery.plainWalk]
      rw [hrc]
      by_cases hok : (port.graph.world.deliver ports.callbacks entry.route.targetActor
          (Delivery.sent msg entry.route) .critical false).1 = .ok
      · rw [if_neg fun h => h.1 hok, if_neg (not_not.mpr hok)]
        obtain ⟨hwalk, hfails, hends⟩ := ih _ (port.send ports.callbacks entry.route.targetActor msg).2
          (by rw [hactive]; exact hsettled) (by rw [hactive]; exact hrest)
        rw [hworld] at hwalk hfails hends
        exact ⟨hwalk, hfails, fun h => ⟨(hends h).1, (hends h).2.trans (by simp [Publish.count, hok])⟩⟩
      · rw [if_pos ⟨hok, trivial⟩, if_pos hok]
        exact ⟨hworld, fun _ => rfl, fun h => absurd h hok⟩
    · have hroutes : enabledRoutes (entry :: rest) = enabledRoutes rest := by
        simp [enabledRoutes, hstate]
      obtain ⟨hrc, hworld, hactive⟩ := send_disabled ports.callbacks hsettled hmem hstate
      rw [hroutes, if_neg fun h => h.1 hrc]
      obtain ⟨hwalk, hfails, hends⟩ := ih _ (port.send ports.callbacks entry.route.targetActor msg).2
        (by rw [hactive]; exact hsettled) (by rw [hactive]; exact hrest)
      rw [hworld] at hwalk hfails hends
      exact ⟨hwalk, hfails, fun h => ⟨(hends h).1, (hends h).2.trans (by simp [Publish.count, hrc])⟩⟩

end ActorPublishPort

theorem enabledRoutes_length_le (entries : List ActiveRoute) :
    (enabledRoutes entries).length ≤ entries.length := by
  rw [enabledRoutes, List.length_map]
  exact List.length_filter_le _ _

namespace DeliveryGraph.Built

variable {table : RouteTable} {graph : DeliveryGraph P ω}

theorem mem_entries {eventId : EventId} {entry : ActiveRoute}
    (h : entry ∈ graph.activeRoutes.entriesForEvent eventId) : entry ∈ graph.activeRoutes.entries :=
  List.mem_of_mem_drop (List.mem_of_mem_take h)

theorem settled (hbuilt : graph.Built table) (hruns : table.MaximalRuns) (eventId : EventId) :
    graph.activeRoutes.Settled eventId ∧
      (graph.activeRoutes.entriesForEvent eventId).map ActiveRoute.route =
        table.routesForEvent eventId ∧
      (table.routesForEvent eventId).length = (table.spanForEvent eventId).count := by
  obtain ⟨builder, _, before, after, hbind, hactive⟩ := hbuilt.routes
  obtain ⟨hmap, hlength, hevent⟩ := entriesForEvent_of_bound hruns hbind eventId
  obtain ⟨_, _, hentries, _⟩ := RouteBuilder.bindRoutes_ok hbind
  rw [← hactive] at hmap hevent hentries
  have hclassified : ∀ entry ∈ graph.activeRoutes.entriesForEvent eventId,
      entry.route.targetActor.isValid = true ∧
        (entry.state = .enabled ↔ builder.requested entry.route.targetActor = true) := by
    intro entry hmem
    have hin := mem_entries hmem
    have hstate := hbuilt.states entry hin
    rw [hentries] at hin
    obtain ⟨route, _, rfl⟩ := List.mem_map.mp hin
    rw [RouteBuilder.classifyRoute_route]
    exact RouteBuilder.classifyRoute_accepted hstate
  refine ⟨⟨hevent, fun entry hmem => (hclassified entry hmem).1,
    fun entry hmem => hbuilt.states entry (mem_entries hmem), fun entry hmem other hother htarget => ?_⟩,
    hmap, hlength⟩
  rw [(hclassified entry hmem).2, (hclassified other hother).2, htarget]

theorem enabled_bound (hbuilt : graph.Built table) (eventId : EventId) :
    ∀ route ∈ enabledRoutes (graph.activeRoutes.entriesForEvent eventId),
      (graph.world.mailbox route.targetActor).isSome = true := by
  intro route hmem
  obtain ⟨entry, hentry, rfl⟩ := List.mem_map.mp hmem
  obtain ⟨hin, hstate⟩ := List.mem_filter.mp hentry
  exact hbuilt.bound entry (mem_entries hin) (by simpa using hstate)

end DeliveryGraph.Built

/-- An actor and the graph publish the message alike: both return OK or neither does, and the
mailboxes they leave are equal. -/
def PublicationsAgree (ports : DeliveryPorts P ω) (port : ActorPublishPort P ω) (msg : Msg P) : Prop :=
  ((publish ports.routes (ActorPublishPort.deliveryAdapter ports.callbacks) msg port).1 = .ok ↔
      (Delivery.publish ports port.graph msg).1 = .ok) ∧
    (publish ports.routes (ActorPublishPort.deliveryAdapter ports.callbacks) msg
      port).2.2.graph.world.mailbox = (Delivery.publish ports port.graph msg).2.graph.world.mailbox

namespace ActorPublishPort

variable {ports : DeliveryPorts P ω} {msg : Msg P} {port : ActorPublishPort P ω}

theorem graph_publish_walk (msg : Msg P) (hbuilt : port.graph.Built ports.routes) (hruns : ports.routes.MaximalRuns)
    (hroutes : port.graph.activeRoutes.entriesForEvent msg.eventId ≠ []) :
    ((Delivery.publish ports port.graph msg).1 = .ok ↔
        (Delivery.qosWalk ports msg
          (enabledRoutes (port.graph.activeRoutes.entriesForEvent msg.eventId))
          port.graph.world).1 = .ok) ∧
      (Delivery.publish ports port.graph msg).2.graph.world =
        (Delivery.qosWalk ports msg
          (enabledRoutes (port.graph.activeRoutes.entriesForEvent msg.eventId))
          port.graph.world).2 := by
  obtain ⟨hsettled, _, _⟩ := hbuilt.settled hruns msg.eventId
  obtain ⟨hrc, hworld, hmatched⟩ := Delivery.publishEntries_walk ports
    (port.graph.activeRoutes.entriesForEvent msg.eventId)
    (fun entry hmem => ⟨hsettled.event entry hmem, hsettled.states entry hmem⟩) { graph := port.graph }
  have hpublish : Delivery.publish ports port.graph msg =
      Delivery.conclude
        (Delivery.publishEntries ports msg (port.graph.activeRoutes.entriesForEvent msg.eventId) .ok
          { graph := port.graph }).1
        (Delivery.publishEntries ports msg (port.graph.activeRoutes.entriesForEvent msg.eventId) .ok
          { graph := port.graph }).2 := by
    unfold Delivery.publish
    rw [hbuilt.active]
    rfl
  have hsome := Nat.pos_iff_ne_zero.mp (hmatched.mpr (Or.inr hroutes))
  rw [hpublish, ← hrc, ← hworld]
  unfold Delivery.conclude
  rw [if_neg hsome]
  split
  · exact ⟨Iff.rfl, rfl⟩
  · exact ⟨Iff.rfl, rfl⟩

theorem actor_publish_walk (hbuilt : port.graph.Built ports.routes) (hruns : ports.routes.MaximalRuns)
    (hv : msg.validate = .ok) (huntargeted : msg.targetActor = .none)
    (hroutes : port.graph.activeRoutes.entriesForEvent msg.eventId ≠ []) :
    ((publish ports.routes (deliveryAdapter ports.callbacks) msg port).1 = .ok ↔
        (Delivery.plainWalk ports msg
          (enabledRoutes (port.graph.activeRoutes.entriesForEvent msg.eventId))
          port.graph.world).1 = .ok) ∧
      (publish ports.routes (deliveryAdapter ports.callbacks) msg port).2.2.graph.world =
        (Delivery.plainWalk ports msg
          (enabledRoutes (port.graph.activeRoutes.entriesForEvent msg.eventId))
          port.graph.world).2 := by
  obtain ⟨hsettled, hmap, hlength⟩ := hbuilt.settled hruns msg.eventId
  have hcount : (ports.routes.spanForEvent msg.eventId).count ≠ 0 := by
    rw [← hlength, ← hmap, List.length_map]
    exact fun h => hroutes (List.eq_nil_of_length_eq_zero h)
  obtain ⟨hworld, hfails, hends⟩ := fanOut_walk ports msg
    (port.graph.activeRoutes.entriesForEvent msg.eventId)
    { matchedRoutes := (ports.routes.spanForEvent msg.eventId).count } port hsettled
    fun entry hmem => hmem
  rw [hmap] at hworld hfails hends
  unfold publish publishEx
  simp only [hv, huntargeted, hcount, ne_eq, not_true_eq_false, ↓reduceIte]
  refine ⟨?_, hworld⟩
  by_cases hok : (Delivery.plainWalk ports msg
      (enabledRoutes (port.graph.activeRoutes.entriesForEvent msg.eventId)) port.graph.world).1 = .ok
  · obtain ⟨hnone, hzero⟩ := hends hok
    rw [hnone]
    simp [Publish.conclude, hzero, hok]
  · rw [hfails hok]
    simp [hok]

theorem publications_agree_of_none (hbuilt : port.graph.Built ports.routes)
    (hruns : ports.routes.MaximalRuns) (hv : msg.validate = .ok) (huntargeted : msg.targetActor = .none)
    (hroutes : port.graph.activeRoutes.entriesForEvent msg.eventId = []) :
    PublicationsAgree ports port msg := by
  obtain ⟨_, hmap, hlength⟩ := hbuilt.settled hruns msg.eventId
  have hcount : (ports.routes.spanForEvent msg.eventId).count = 0 := by
    rw [← hlength, ← hmap, hroutes]
    rfl
  unfold PublicationsAgree publish publishEx Delivery.publish Delivery.publishActive
  rw [hbuilt.active]
  simp only [hv, huntargeted, hcount, hroutes, ne_eq, not_true_eq_false, ↓reduceIte]
  exact ⟨⟨(fun h => by cases h), fun h => by cases h⟩, rfl⟩

end ActorPublishPort

namespace RuntimeBuilder

/-- Every mailbox bound is a FIFO in order. -/
def MailboxesReady (registry : ActorRegistry P) : Prop :=
  ∀ actor runtime, registry.slots actor = some runtime → runtime.mailbox.Wf ∧ runtime.mailbox.IsFifo

theorem prepareRuntime_ready {actor : ActorId} {runtime : ActorRuntime P}
    (h : prepareRuntime actor = .ok runtime) : runtime.mailbox.Wf ∧ runtime.mailbox.IsFifo := by
  unfold prepareRuntime at h
  split at h
  · rename_i info module hinfo _
    split at h
    · cases h
    · split at h
      · cases h
      · rename_i mailbox hmailbox
        have hfresh : mailbox = Mailbox.fresh info.mailboxKind := by
          unfold Mailbox.init at hmailbox
          split at hmailbox
          · cases hmailbox
          · split at hmailbox
            · cases hmailbox
            · split at hmailbox
              · cases hmailbox
              · cases hmailbox
                rfl
        have hruntime : runtime.mailbox = mailbox := by
          unfold ActorRuntime.init at h
          split at h
          · cases h
          · split at h
            · cases h
            · split at h
              · cases h
              · cases h
                rfl
        have hkind : info.mailboxKind = .fifo8 ∨ info.mailboxKind = .fifo16 := by
          cases actor <;> cases hinfo <;> decide
        rw [hruntime, hfresh]
        exact ⟨(Mailbox.fresh_holds info.mailboxKind).1, hkind⟩
  · cases h

theorem runInit_registry (s : RuntimeBuilder P ω) (actor : ActorId) :
    (s.runInit actor).2.registry = s.registry := by
  unfold runInit
  split
  · rfl
  · simp only
    split
    · rfl
    · rfl

theorem setRuntime_ready {registry : ActorRegistry P} (h : MailboxesReady registry) {actor : ActorId}
    {runtime : ActorRuntime P} (hprepare : prepareRuntime actor = .ok runtime) :
    MailboxesReady (registry.setRuntime runtime) := by
  intro other found hfound
  by_cases he : other = runtime.actorId
  · subst he
    simp only [ActorRegistry.setRuntime, Function.update_self] at hfound
    cases hfound
    exact prepareRuntime_ready hprepare
  · simp only [ActorRegistry.setRuntime, Function.update_of_ne he] at hfound
    exact h other found hfound

theorem buildActor_ready {s : RuntimeBuilder P ω} (h : MailboxesReady s.registry) (actor : ActorId) :
    MailboxesReady (s.buildActor actor).2.registry := by
  rcases s.buildActor_cases actor with ⟨rc, _, _, hbuild⟩ | ⟨runtime, hprepare, hid, hslot⟩
  · rw [hbuild]
    exact h
  · rcases hslot with ⟨htaken, hbuild⟩ | ⟨_, hbuild⟩
    · rw [hbuild]
      change MailboxesReady (s.reinitRuntime runtime).registry
      simp only [reinitRuntime, hid, htaken, if_true]
      exact setRuntime_ready h hprepare
    · rw [hbuild, runInit_registry]
      exact setRuntime_ready h hprepare

theorem buildActors_ready (actors : List ActorId) : ∀ {s : RuntimeBuilder P ω},
    MailboxesReady s.registry → MailboxesReady (buildActors actors s).2.registry := by
  induction actors with
  | nil => exact fun h => h
  | cons actor rest ih =>
    intro s h
    unfold buildActors
    split
    · simp only
      split
      · exact ih (buildActor_ready h actor)
      · exact buildActor_ready h actor
    · exact ih h

theorem build_ready (table : RouteTable) {s : RuntimeBuilder P ω} (h : MailboxesReady s.registry) :
    MailboxesReady (s.build table).2.registry := by
  have hbound : MailboxesReady (s.bound table).2.registry := by
    unfold bound
    split <;> exact h
  have hactors := buildActors_ready actorCatalog hbound
  rw [build_eq]
  split
  · exact hbound
  · split
    · exact hactors
    · split
      · exact hactors
      · exact hactors

theorem call_registry (table : RouteTable) (s : RuntimeBuilder P ω) (input : BuilderCall ω) :
    (s.call table input).registry = s.registry := by
  have hadd : ∀ instance_ : ActorInstance ω, (s.addInstance instance_).2.registry = s.registry := by
    intro instance_
    unfold addInstance
    split
    · rfl
    · split <;> rfl
  cases input with
  | addInstance instance_ => exact hadd instance_
  | addModule added =>
    simp only [call, addModule]
    split
    · rfl
    · split
      · rfl
      · split
        · rfl
        · split
          · rfl
          · exact hadd _
  | setRouteValidationFlags flags => rfl
  | bindRoutes => rfl

theorem run_registry (table : RouteTable) (calls : List (BuilderCall ω)) :
    ∀ s : RuntimeBuilder P ω, (Machine.run (call table) s calls).registry = s.registry := by
  induction calls with
  | nil => exact fun _ => rfl
  | cons input calls ih => exact fun s => (ih _).trans (call_registry table s input)

/-- The part of a built graph that delivery acts on. -/
def deliveryGraph (s : RuntimeBuilder P ω) : DeliveryGraph P ω where
  toRouteGraph := s.graph
  world := { registry := s.registry, outside := s.outside }

theorem build_built (table : RouteTable) (boardCaps runtimeCaps : UInt32) (outside : ω)
    (calls : List (BuilderCall ω))
    (h : ((Machine.run (call table) (init boardCaps runtimeCaps outside : RuntimeBuilder P ω)
      calls).build table).1 = .ok)
    (hstates : ∀ entry ∈ ((Machine.run (call table)
      (init boardCaps runtimeCaps outside : RuntimeBuilder P ω) calls).build table
        ).2.graph.activeRoutes.entries, entry.state = .enabled ∨ entry.state = .optionalDisabled) :
    ((Machine.run (call table) (init boardCaps runtimeCaps outside : RuntimeBuilder P ω)
      calls).build table).2.deliveryGraph.Built table := by
  obtain ⟨hbound, hbuilds, hslots⟩ := build_ok h
  have hinit : (init boardCaps runtimeCaps outside : RuntimeBuilder P ω).graph.activeRoutesBound =
      false := rfl
  have hrun := run_bound table hinit calls
  have hready : MailboxesReady (Machine.run (call table)
      (init boardCaps runtimeCaps outside : RuntimeBuilder P ω) calls).registry := by
    rw [run_registry]
    intro actor runtime hslot
    cases hslot
  generalize (init boardCaps runtimeCaps outside : RuntimeBuilder P ω) = start at *
  generalize hs : Machine.run (call table) start calls = s at *
  have hbuilt := build_ready table hready
  have hmade : ∃ maker : RuntimeBuilder P ω, (maker.bindRoutes table).1 = .ok ∧
      (s.bound table).2.graph = (maker.bindRoutes table).2.graph ∧
      ∀ actor, maker.toRouteBuilder.requested actor = true →
        (s.bound table).2.toRouteBuilder.requested actor = true := by
    unfold bound at hbound ⊢
    by_cases hflag : s.graph.activeRoutesBound = true
    · obtain ⟨before, after, hcalls, _, hok, hgraph⟩ := hrun.mp hflag
      rw [if_pos hflag]
      refine ⟨_, hok, hgraph, fun actor hactor => ?_⟩
      rw [← hs, hcalls, Machine.run_append]
      exact run_requested table _ hactor
    · rw [if_neg hflag] at hbound ⊢
      refine ⟨s, hbound, rfl, fun actor hactor => ?_⟩
      rw [bindRoutes, RouteBuilder.bindRoutes_requested]
      exact hactor
  obtain ⟨maker, hok, hgraph, hknown⟩ := hmade
  obtain ⟨hactive, hmadeBy⟩ := bindRoutes_madeBy hok
  have hsame : (s.build table).2.graph = (maker.bindRoutes table).2.graph :=
    hbuilds.graph.trans hgraph
  have hmailbox : ∀ actor, actor.isValid = true →
      (s.build table).2.deliveryGraph.world.mailbox actor =
        ((s.build table).2.registry.slots actor).map ActorRuntime.mailbox := by
    intro actor hvalid
    rw [World.mailbox_eq, if_pos hvalid]
    rfl
  refine ⟨?_, ⟨maker.toRouteBuilder, _, maker.graph, _, Prod.ext hok rfl, ?_⟩, hstates, ?_, ?_⟩
  · exact (congrArg RouteGraph.activeRoutesBound hsame).trans hactive
  · exact congrArg RouteGraph.activeRoutes hsame
  · intro entry hmem henabled
    change entry ∈ (s.build table).2.graph.activeRoutes.entries at hmem
    rw [hsame, hmadeBy.entries] at hmem
    obtain ⟨route, _, rfl⟩ := List.mem_map.mp hmem
    obtain ⟨haccepted, hrequested⟩ :=
      (RouteBuilder.classifyRoute_enabled_iff maker.toRouteBuilder route).mp henabled
    rw [RouteBuilder.classifyRoute_route, hmailbox _ haccepted.2.1, Option.isSome_map]
    exact hslots _ ((mem_actorCatalog_iff _).mpr haccepted.2.1) (hknown _ hrequested)
  · intro actor mb hmb
    rw [hmailbox actor (World.mailbox_valid hmb)] at hmb
    obtain ⟨runtime, hslot, rfl⟩ := Option.map_eq_some_iff.mp hmb
    exact hbuilt actor runtime hslot

end RuntimeBuilder

theorem DeliveryGraph.Built.arrived {table : RouteTable} {graph : DeliveryGraph P ω} {w : World P ω}
    {targets diverted : List ActorId} (h : graph.Built table)
    (harrives : graph.world.Arrives w targets diverted) :
    ({ graph with world := w } : DeliveryGraph P ω).Built table where
  active := h.active
  routes := h.routes
  states := h.states
  bound entry hmem henabled := (harrives.bound _).trans (h.bound entry hmem henabled)
  ready := harrives.ready h.ready

namespace ActorPublishPort

variable {ports : DeliveryPorts P ω} {msg : Msg P} {port : ActorPublishPort P ω}

/-- An actor publishes as the graph does exactly when every mailbox with a droppable route that the
message reaches stores it as a new message. -/
theorem publicationsAgree_iff {f : ω → κ} (hby : ports.KeptBy f) (hruns : ports.routes.MaximalRuns)
    (hbuilt : port.graph.Built ports.routes) (hv : msg.validate = .ok)
    (huntargeted : msg.targetActor = .none) :
    PublicationsAgree ports port msg ↔
      Delivery.NothingDropped ports msg
        (enabledRoutes (port.graph.activeRoutes.entriesForEvent msg.eventId)) port.graph.world := by
  by_cases hroutes : port.graph.activeRoutes.entriesForEvent msg.eventId = []
  · refine ⟨fun _ => ?_, fun _ => publications_agree_of_none hbuilt hruns hv huntargeted hroutes⟩
    rw [hroutes]
    trivial
  · obtain ⟨hactor, hactorWorld⟩ := actor_publish_walk hbuilt hruns hv huntargeted hroutes
    obtain ⟨hgraph, hgraphWorld⟩ := graph_publish_walk msg hbuilt hruns hroutes
    have hshort : (enabledRoutes
        (port.graph.activeRoutes.entriesForEvent msg.eventId)).length < 2 ^ 32 := by
      refine Nat.lt_of_le_of_lt (enabledRoutes_length_le _) ?_
      have hbounded := port.graph.activeRoutes.bounded
      rw [ActiveRouteTable.entriesForEvent, List.length_take, List.length_drop]
      unfold activeRouteTableCapacity at hbounded
      omega
    rw [← Delivery.walks_agree_iff hby hv _ ⟨rfl, rfl⟩ hbuilt.ready
      (hbuilt.enabled_bound msg.eventId) hshort]
    unfold PublicationsAgree Delivery.WalksAgree
    rw [hactor, hgraph, hactorWorld, hgraphWorld]

def networkBuilder : Result × RuntimeBuilder Unit Unit :=
  (Machine.run (RuntimeBuilder.call .generated) (RuntimeBuilder.init 0xFFFFFFFF 0xFFFFFFFF ())
    [.addModule .network]).build .generated

def networkPort : ActorPublishPort Unit Unit where
  graph := networkBuilder.2.deliveryGraph
  sourceActor := .ds18b20

def tempUpdated : Msg Unit := (Msg.initPublish Msg.zeroed .tempUpdated .ds18b20).2

def fullPort : ActorPublishPort Unit Unit :=
  { networkPort with
    graph := { networkPort.graph with
      world := (Delivery.plainWalk Delivery.generatedPorts tempUpdated
        (List.replicate 8 { eventId := .tempUpdated, targetActor := .network })
        networkPort.graph.world).2 } }

theorem networkPort_built : networkPort.graph.Built .generated :=
  RuntimeBuilder.build_built .generated 0xFFFFFFFF 0xFFFFFFFF () [.addModule .network]
    (by decide +kernel) (by decide +kernel)

theorem generatedPorts_keptBy : Delivery.generatedPorts.KeptBy (fun w : Unit => w) where
  retain _ _ _ _ _ _ _ := ⟨rfl, rfl⟩
  clock _ h := by cases h

theorem publicationsAgree_iff_empty :
    PublicationsAgree Delivery.generatedPorts networkPort tempUpdated := by
  refine (publicationsAgree_iff generatedPorts_keptBy RouteTable.generated_maximalRuns
    networkPort_built (by decide) (by decide)).mpr ?_
  have hroutes : enabledRoutes
      (networkPort.graph.activeRoutes.entriesForEvent tempUpdated.eventId) =
      [{ eventId := .tempUpdated, targetActor := .network, qos := .telemetry }] := by decide +kernel
  have hmailbox : (networkPort.graph.world.mailbox .network).map
      (fun mb => (mb.count, mb.kind)) = some (0, .fifo8) := by decide +kernel
  rw [hroutes]
  refine ⟨fun _ => ⟨fun mb hmb => ?_, fun _ _ hmerges => by cases hmerges⟩, fun _ => trivial⟩
  rw [hmb] at hmailbox
  obtain ⟨hcount, hkind⟩ := Prod.mk.inj (Option.some.inj hmailbox)
  rw [hcount, hkind]
  exact ⟨by decide, rfl⟩

/-- A reading that the network actor has no room for fails the sensor actor, and is dropped by the
graph. -/
theorem not_publicationsAgree : ¬∀ (ports : DeliveryPorts Unit Unit)
    (port : ActorPublishPort Unit Unit) (msg : Msg Unit), ports.KeptBy (fun w : Unit => w) →
    ports.routes.MaximalRuns → port.graph.Built ports.routes → msg.validate = .ok →
    msg.targetActor = .none → PublicationsAgree ports port msg := by
  intro h
  have hbuilt : fullPort.graph.Built .generated := by
    obtain ⟨_, harrives, _⟩ := Delivery.plainWalk_arrives Delivery.generatedPorts tempUpdated
      (List.replicate 8 { eventId := .tempUpdated, targetActor := .network }) networkPort_built.ready
      (by decide +kernel)
    exact networkPort_built.arrived harrives
  have hagree := (h Delivery.generatedPorts fullPort tempUpdated generatedPorts_keptBy
    RouteTable.generated_maximalRuns hbuilt (by decide) (by decide)).1
  revert hagree
  decide +kernel

end ActorPublishPort

end EventFramework
