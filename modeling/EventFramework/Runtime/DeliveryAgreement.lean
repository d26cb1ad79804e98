import EventFramework.Runtime.DeliveryAccounting

/-!
# Active and static dispatch

The loop over the active table and the loop over the static table make the same attempts
when the active table was bound from the static one with every route enabled. The number
of matched routes is the exception: the static loop sets it before the first attempt, the
active loop counts the routes it visits.
-/

namespace EventFramework
set_option autoImplicit false

variable {P ω : Type}

namespace Delivery

def mark (bound : Bool) (matched : Nat) (s : Delivery P ω) : Delivery P ω where
  graph := { s.graph with activeRoutesBound := bound }
  report := { s.report with matchedRoutes := matched }

section Mark

variable (bound : Bool) (matched : Nat) (s : Delivery P ω)

theorem mark_emitFault (sourceActor targetActor : ActorId) (eventId : EventId) (result : Result) :
    (s.mark bound matched).emitFault sourceActor targetActor eventId result =
      (s.emitFault sourceActor targetActor eventId result).mark bound matched := by
  have hgraph (graph : RouteGraph) (fault : FaultPayload) :
      ({ graph with activeRoutesBound := bound } : RouteGraph).emitFault fault =
        { graph.emitFault fault with activeRoutesBound := bound } := by
    unfold RouteGraph.emitFault
    simp only
    split <;> rfl
  unfold emitFault mark
  simp only [hgraph]
  split <;> rfl

theorem mark_trace (ports : DeliveryPorts P ω) (route : Route) (msg : Msg P) (result : Result) :
    (s.mark bound matched).trace ports route msg result =
      (s.trace ports route msg result).mark bound matched := by
  unfold trace mark
  simp only
  split <;> rfl

theorem mark_recordMailboxEffect (effect : MailboxDeliveryEffect) :
    (s.mark bound matched).recordMailboxEffect effect =
      (s.recordMailboxEffect effect).mark bound matched := by
  cases effect <;> rfl

theorem mark_noteError (error : Result) (target : ActorId) :
    (s.mark bound matched).noteError error target = (s.noteError error target).mark bound matched := by
  unfold noteError mark
  simp only
  split <;> rfl

theorem mark_concludeAttempt (route : Route) (msg : Msg P) (result : Result)
    (effect : MailboxDeliveryEffect) :
    (s.mark bound matched).concludeAttempt route msg result effect =
      ((s.concludeAttempt route msg result effect).1,
        (s.concludeAttempt route msg result effect).2.mark bound matched) := by
  have hdropped : ((s.mark bound matched).addDropped.count .deliveryFailed) =
      ((s.addDropped).count .deliveryFailed).mark bound matched := rfl
  unfold concludeAttempt
  by_cases hok : result = .ok
  · rw [if_pos hok, if_pos hok]
    split <;> rfl
  · rw [if_neg hok, if_neg hok, hdropped]
    by_cases hdrop : qosFailureIsDropAllowed route.qos = true
    · rw [if_pos hdrop, if_pos hdrop]
      rfl
    · rw [if_neg hdrop, if_neg hdrop, mark_noteError, mark_emitFault]

theorem mark_deliverOne (ports : DeliveryPorts P ω) (route : Route) (msg : Msg P) :
    deliverOne ports (s.mark bound matched) route msg =
      ((deliverOne ports s route msg).1, (deliverOne ports s route msg).2.mark bound matched) := by
  unfold deliverOne
  rw [← mark_concludeAttempt, ← mark_recordMailboxEffect, ← mark_trace]
  rfl

end Mark

/-- A delivery through the registry and the time stamp of its trace record. -/
def attempt (ports : DeliveryPorts P ω) (msg : Msg P) (route : Route) (w : World P ω) :
    Result × World P ω :=
  let sendMsg := { msg with targetActor := route.targetActor }
  let out := w.deliver ports.callbacks route.targetActor sendMsg route.qos true
  (out.1, (traceTimestampUs ports out.2.2).2)

/-- No delivery to a route before the last one fails on a QoS that does not allow the loss. -/
def NoEarlyFailure (ports : DeliveryPorts P ω) (msg : Msg P) : List Route → World P ω → Prop
  | [], _ => True
  | [_], _ => True
  | route :: next :: rest, w =>
    ((attempt ports msg route w).1 = .ok ∨ qosFailureIsStrict route.qos = false) ∧
      NoEarlyFailure ports msg (next :: rest) (attempt ports msg route w).2

instance NoEarlyFailure.decidable (ports : DeliveryPorts P ω) (msg : Msg P) :
    ∀ (routes : List Route) (w : World P ω), Decidable (NoEarlyFailure ports msg routes w)
  | [], _ => inferInstanceAs (Decidable True)
  | [_], _ => inferInstanceAs (Decidable True)
  | route :: next :: rest, w =>
    let _ := NoEarlyFailure.decidable ports msg (next :: rest) (attempt ports msg route w).2
    inferInstanceAs (Decidable (((attempt ports msg route w).1 = .ok ∨
      qosFailureIsStrict route.qos = false) ∧
        NoEarlyFailure ports msg (next :: rest) (attempt ports msg route w).2))

theorem emitFault_world (s : Delivery P ω) (sourceActor targetActor : ActorId) (eventId : EventId)
    (result : Result) :
    (s.emitFault sourceActor targetActor eventId result).graph.world = s.graph.world := by
  unfold emitFault
  simp only
  split <;> rfl

theorem concludeAttempt_world (s : Delivery P ω) (route : Route) (msg : Msg P) (result : Result)
    (effect : MailboxDeliveryEffect) :
    (s.concludeAttempt route msg result effect).2.graph.world = s.graph.world := by
  have hnote (t : Delivery P ω) : (t.noteError result route.targetActor).graph.world =
      t.graph.world := by
    unfold noteError
    split <;> rfl
  unfold concludeAttempt
  split
  · split <;> rfl
  · simp only
    split
    · rfl
    · rw [emitFault_world, hnote]
      rfl

theorem concludeAttempt_result (s : Delivery P ω) (route : Route) (msg : Msg P) (result : Result)
    (effect : MailboxDeliveryEffect) :
    (s.concludeAttempt route msg result effect).1 =
      if result ≠ .ok ∧ qosFailureIsStrict route.qos then result else .ok := by
  by_cases hok : result = .ok
  · rw [if_neg fun h => h.1 hok]
    unfold concludeAttempt
    rw [if_pos hok]
    split <;> rfl
  · by_cases hstrict : qosFailureIsStrict route.qos = true
    · rw [if_pos ⟨hok, hstrict⟩]
      simp [concludeAttempt, hok, dropAllowed_eq_not_strict, hstrict]
    · rw [if_neg fun h => hstrict h.2]
      simp [concludeAttempt, hok, dropAllowed_eq_not_strict, hstrict]

theorem deliverOne_attempt (ports : DeliveryPorts P ω) (s : Delivery P ω) (route : Route)
    (msg : Msg P) :
    (deliverOne ports s route msg).2.graph.world = (attempt ports msg route s.graph.world).2 ∧
      (deliverOne ports s route msg).1 =
        if (attempt ports msg route s.graph.world).1 ≠ .ok ∧ qosFailureIsStrict route.qos then
          (attempt ports msg route s.graph.world).1 else .ok := by
  have htrace (t : Delivery P ω) (sent : Msg P) (result : Result) :
      (t.trace ports route sent result).graph.world = (traceTimestampUs ports t.graph.world).2 := by
    unfold trace
    simp only
    split <;> rfl
  have heffect (t : Delivery P ω) (effect : MailboxDeliveryEffect) :
      (t.recordMailboxEffect effect).graph.world = t.graph.world := by
    cases effect <;> rfl
  constructor
  · unfold deliverOne
    simp only
    rw [concludeAttempt_world, heffect, htrace]
    rfl
  · unfold deliverOne
    simp only
    rw [concludeAttempt_result]
    rfl

/-- The loop over the entries repeats the loop over their routes; the counts of matched routes
agree when no failure comes early. -/
theorem publishEntries_routes (ports : DeliveryPorts P ω) (msg : Msg P) (entries : List ActiveRoute)
    (hentries : ∀ entry ∈ entries, entry.state = .enabled ∧ entry.route.eventId = msg.eventId) :
    ∀ (finalRc : Result) (matched : Nat) (s : Delivery P ω), ∃ visited,
      publishEntries ports msg entries finalRc (s.mark true matched) =
        ((publishRoutes ports msg (entries.map ActiveRoute.route) finalRc s).1,
          (publishRoutes ports msg (entries.map ActiveRoute.route) finalRc s).2.mark true
            (matched + visited)) ∧
      (visited = 0 ↔ entries = []) ∧
      (visited = entries.length ↔
        NoEarlyFailure ports msg (entries.map ActiveRoute.route) s.graph.world) := by
  induction entries with
  | nil =>
    intro finalRc matched s
    exact ⟨0, rfl, by simp, by simp [NoEarlyFailure]⟩
  | cons entry rest ih =>
    intro finalRc matched s
    obtain ⟨⟨hstate, hevent⟩, hrest⟩ := List.forall_mem_cons.mp hentries
    obtain ⟨hworld, hrc⟩ := deliverOne_attempt ports s entry.route msg
    have hmatch : (s.mark true matched).matchRoute = s.mark true (matched + 1) := rfl
    have hentry : publishEntries ports msg (entry :: rest) finalRc (s.mark true matched) =
        if (deliverOne ports s entry.route msg).1 ≠ .ok ∧ qosFailureIsStrict entry.route.qos then
          ((deliverOne ports s entry.route msg).1,
            (deliverOne ports s entry.route msg).2.mark true (matched + 1))
        else publishEntries ports msg rest
          (if (deliverOne ports s entry.route msg).1 ≠ .ok then
            (deliverOne ports s entry.route msg).1 else finalRc)
          ((deliverOne ports s entry.route msg).2.mark true (matched + 1)) := by
      simp only [publishEntries, hevent, ne_eq, not_true_eq_false, ↓reduceIte, hstate, hmatch,
        mark_deliverOne]
    have hroute : publishRoutes ports msg ((entry :: rest).map ActiveRoute.route) finalRc s =
        if (deliverOne ports s entry.route msg).1 ≠ .ok ∧ qosFailureIsStrict entry.route.qos then
          deliverOne ports s entry.route msg
        else publishRoutes ports msg (rest.map ActiveRoute.route)
          (if (deliverOne ports s entry.route msg).1 ≠ .ok then
            (deliverOne ports s entry.route msg).1 else finalRc)
          (deliverOne ports s entry.route msg).2 := rfl
    rw [hentry, hroute]
    by_cases hfails : (attempt ports msg entry.route s.graph.world).1 ≠ .ok ∧
        qosFailureIsStrict entry.route.qos = true
    · rw [if_pos hfails] at hrc
      rw [if_pos ⟨by rw [hrc]; exact hfails.1, hfails.2⟩,
        if_pos ⟨by rw [hrc]; exact hfails.1, hfails.2⟩]
      refine ⟨1, rfl, by simp, ?_⟩
      cases rest with
      | nil => simp [NoEarlyFailure]
      | cons next rest =>
        simp only [List.length_cons, List.map_cons, NoEarlyFailure]
        constructor
        · omega
        · rintro ⟨hgoes, _⟩
          rcases hgoes with hok | hlax
          · exact absurd hok hfails.1
          · simp [hfails.2] at hlax
    · rw [if_neg hfails] at hrc
      have hgoes : ¬((deliverOne ports s entry.route msg).1 ≠ .ok ∧
          qosFailureIsStrict entry.route.qos = true) := fun h => h.1 hrc
      simp only [if_neg hgoes, if_neg (not_not.mpr hrc)]
      obtain ⟨visited, hloop, hnone, hall⟩ := ih hrest finalRc (matched + 1)
        (deliverOne ports s entry.route msg).2
      refine ⟨visited + 1, ?_, by simp, ?_⟩
      · rw [hloop, Nat.add_assoc, Nat.add_comm 1 visited]
      · rw [List.length_cons, Nat.add_right_cancel_iff, hall, hworld]
        cases rest with
        | nil => simp [NoEarlyFailure]
        | cons next rest =>
          simp only [List.map_cons, NoEarlyFailure]
          refine ⟨fun h => ⟨?_, h⟩, fun h => h.2⟩
          rw [not_and_or, not_not, Bool.not_eq_true] at hfails
          exact hfails

theorem mark_conclude (bound : Bool) (matched : Nat) (finalRc : Result) (s : Delivery P ω)
    (h : matched = 0 ↔ s.report.matchedRoutes = 0) :
    conclude finalRc (s.mark bound matched) =
      ((conclude finalRc s).1, (conclude finalRc s).2.mark bound matched) := by
  have hmark : (s.mark bound matched).report.matchedRoutes = matched := rfl
  unfold conclude
  rw [hmark]
  by_cases hzero : s.report.matchedRoutes = 0
  · rw [if_pos hzero, if_pos (h.mpr hzero)]
    rfl
  · rw [if_neg hzero, if_neg fun hm => hzero (h.mp hm)]
    split <;> rfl

theorem conclude_matched (finalRc : Result) (s : Delivery P ω) :
    (conclude finalRc s).2.report.matchedRoutes = s.report.matchedRoutes := by
  unfold conclude
  split
  · rfl
  · split <;> rfl

theorem publishRoutes_matched (ports : DeliveryPorts P ω) (msg : Msg P) (routes : List Route) :
    ∀ (finalRc : Result) (s : Delivery P ω),
      (publishRoutes ports msg routes finalRc s).2.report.matchedRoutes =
        s.report.matchedRoutes := by
  induction routes with
  | nil => exact fun _ _ => rfl
  | cons route rest ih =>
    intro finalRc s
    unfold publishRoutes
    simp only
    split
    · exact deliverOne_matched ports s route msg
    · rw [ih, deliverOne_matched]

end Delivery

/-- Two publications that leave the same behind and report the same. The visits are the attempts
in order, each with its route, its copy of the message, its result and the mailbox effect. -/
structure SamePublication (a b : Result × Delivery P ω) : Prop where
  result : a.1 = b.1
  visits : a.2.graph.visits = b.2.graph.visits
  world : a.2.graph.world = b.2.graph.world
  faults : a.2.graph.faults = b.2.graph.faults
  metrics : a.2.graph.metrics = b.2.graph.metrics
  traceRing : a.2.graph.traceRing = b.2.graph.traceRing
  report : a.2.report = b.2.report

/-- A static span that is a maximal run and the exact span of the same table select the same
routes. -/
theorem span_of_maximalRun {table : RouteTable} (hruns : table.MaximalRuns)
    {spans : EventId → RouteSpan} (hexact : SpansExact spans (table.routes.map Route.eventId))
    {eventId : EventId} (hvalid : eventId.isValid = true) :
    (table.spans eventId).count = (spans eventId).count ∧
      (0 < (spans eventId).count → (table.spans eventId).startIndex = (spans eventId).startIndex) := by
  have hat (i : Nat) : (∃ route, table.routes[i]? = some route ∧ route.eventId = eventId) ↔
      (spans eventId).startIndex ≤ i ∧ i < (spans eventId).startIndex + (spans eventId).count := by
    rw [← hexact eventId i, List.getElem?_map, Option.map_eq_some_iff]
  have hvalidSpan := hruns.valid eventId hvalid
  simp only [RouteSpan.isValid, Bool.and_eq_true, decide_eq_true_eq] at hvalidSpan
  by_cases hcount : (table.spans eventId).count = 0
  · have hnone : (spans eventId).count = 0 := by
      by_contra hpos
      obtain ⟨route, hroute, hid⟩ := (hat (spans eventId).startIndex).mpr (by omega)
      have := hruns.present eventId hvalid ⟨route, List.mem_of_getElem? hroute, hid⟩
      omega
    exact ⟨by omega, by omega⟩
  · have hroute (i : Nat) (hi : i < table.routes.length) : table.routes[i]? = some table.routes[i] :=
      List.getElem?_eq_getElem hi
    have hin (i : Nat) (hlo : (table.spans eventId).startIndex ≤ i)
        (hhi : i < (table.spans eventId).startIndex + (table.spans eventId).count) :
        (spans eventId).startIndex ≤ i ∧
          i < (spans eventId).startIndex + (spans eventId).count := by
      have hlt : i < table.routes.length := by omega
      exact (hat i).mp ⟨_, hroute i hlt, hruns.within eventId hvalid i _ (hroute i hlt) hlo hhi⟩
    have hfirst := hin (table.spans eventId).startIndex (by omega) (by omega)
    have hlast := hin ((table.spans eventId).startIndex + (table.spans eventId).count - 1)
      (by omega) (by omega)
    have hbefore : (table.spans eventId).startIndex ≤ (spans eventId).startIndex := by
      by_contra hlt
      obtain ⟨route, hget, hid⟩ := (hat ((table.spans eventId).startIndex - 1)).mpr (by omega)
      exact hruns.before eventId hvalid (by omega) _ route hget (by omega) hid
    have hafter : (spans eventId).startIndex + (spans eventId).count ≤
        (table.spans eventId).startIndex + (table.spans eventId).count := by
      by_contra hlt
      obtain ⟨route, hget, hid⟩ := (hat ((table.spans eventId).startIndex +
        (table.spans eventId).count)).mpr (by omega)
      exact hruns.after eventId hvalid (by omega) _ route hget rfl hid
    exact ⟨by omega, by omega⟩

/-- An active table bound from the static one lists the same routes for every event, and each
matches its event. -/
theorem entriesForEvent_of_bound {table : RouteTable} (hruns : table.MaximalRuns)
    {builder builder' : RouteBuilder} {before bound : RouteGraph}
    (hbind : builder.bindRoutes table before = (.ok, builder', bound)) (eventId : EventId) :
    (bound.activeRoutes.entriesForEvent eventId).map ActiveRoute.route = table.routesForEvent eventId ∧
      (table.routesForEvent eventId).length = (table.spanForEvent eventId).count ∧
      ∀ entry ∈ bound.activeRoutes.entriesForEvent eventId, entry.route.eventId = eventId := by
  obtain ⟨_, hflag, hentries, hexact⟩ := RouteBuilder.bindRoutes_ok hbind
  have hroutes : bound.activeRoutes.entries.map ActiveRoute.route = table.routes := by
    rw [hentries, List.map_map]
    exact (List.map_congr_left fun route _ => RouteBuilder.classifyRoute_route builder route).trans
      (List.map_id _)
  have hlength : bound.activeRoutes.entries.length = table.routes.length := by
    rw [← hroutes, List.length_map]
  by_cases hvalid : eventId.isValid = true
  · obtain ⟨hcount, hstart⟩ := span_of_maximalRun hruns hexact hvalid
    have hstatic := hruns.valid eventId hvalid
    have hspan : table.spanForEvent eventId = table.spans eventId := by
      simp [RouteTable.spanForEvent, hvalid, hstatic]
    simp only [RouteSpan.isValid, Bool.and_eq_true, decide_eq_true_eq] at hstatic
    by_cases hnone : (bound.activeRoutes.spans eventId).count = 0
    · have hactive : (bound.activeRoutes.spanForEvent eventId).count = 0 := by
        unfold ActiveRouteTable.spanForEvent
        split
        · rfl
        · split
          · rfl
          · exact hnone
      have hempty : bound.activeRoutes.entriesForEvent eventId = [] := by
        rw [ActiveRouteTable.entriesForEvent, hactive, List.take_zero]
      have hstaticEmpty : table.routesForEvent eventId = [] := by
        rw [RouteTable.routesForEvent, hspan, hcount, hnone, List.take_zero]
      rw [hempty, hstaticEmpty, hspan, hcount, hnone]
      simp
    · have hsame : bound.activeRoutes.spans eventId = table.spans eventId := by
        cases hs : bound.activeRoutes.spans eventId with
        | mk start count =>
          cases ht : table.spans eventId with
          | mk start' count' =>
            rw [hs, ht] at hcount hstart
            rw [hs] at hnone
            simp only at hcount hstart hnone
            rw [hcount, hstart (Nat.pos_of_ne_zero hnone)]
      have hactive : bound.activeRoutes.spanForEvent eventId = table.spans eventId := by
        simp [ActiveRouteTable.spanForEvent, hflag, hvalid, hsame, RouteSpan.isValid, hlength, hstatic]
      have hmap : (bound.activeRoutes.entriesForEvent eventId).map ActiveRoute.route =
          table.routesForEvent eventId := by
        rw [ActiveRouteTable.entriesForEvent, RouteTable.routesForEvent, hactive, hspan, List.map_take,
          List.map_drop, hroutes]
      refine ⟨hmap, ?_, fun entry hmem => ?_⟩
      · rw [RouteTable.routesForEvent, hspan, List.length_take, List.length_drop]
        omega
      · have hroute : entry.route ∈ table.routesForEvent eventId := by
          rw [← hmap]
          exact List.mem_map_of_mem hmem
        rw [RouteTable.routesForEvent, hspan] at hroute
        obtain ⟨i, hi, hget⟩ := List.mem_iff_getElem.mp hroute
        rw [List.getElem_take, List.getElem_drop] at hget
        rw [List.length_take, List.length_drop] at hi
        exact hruns.within eventId hvalid _ _ (List.getElem?_eq_some_iff.mpr ⟨by omega, hget⟩)
          (Nat.le_add_right _ _) (by omega)
  · have hactive : bound.activeRoutes.entriesForEvent eventId = [] := by
      simp [ActiveRouteTable.entriesForEvent, ActiveRouteTable.spanForEvent, hvalid]
    have hstatic : table.routesForEvent eventId = [] := by
      simp [RouteTable.routesForEvent, RouteTable.spanForEvent, hvalid]
    have hspan : (table.spanForEvent eventId).count = 0 := by
      simp [RouteTable.spanForEvent, hvalid]
    rw [hactive, hstatic, hspan]
    simp

namespace Delivery

/-- The publication over the bound table is the one over the static table but for the count of
matched routes: it counts the visited ones, all of them just when no failure comes early. -/
theorem publish_bound (ports : DeliveryPorts P ω) (hruns : ports.routes.MaximalRuns)
    {builder builder' : RouteBuilder} {before bound : RouteGraph}
    (hbind : builder.bindRoutes ports.routes before = (.ok, builder', bound))
    (henabled : ∀ entry ∈ bound.activeRoutes.entries, entry.state = .enabled)
    (graph : DeliveryGraph P ω) (hactive : graph.activeRoutes = bound.activeRoutes) (msg : Msg P) :
    ∃ visited,
      publish ports { graph with activeRoutesBound := true } msg =
        ((publish ports { graph with activeRoutesBound := false } msg).1,
          (publish ports { graph with activeRoutesBound := false } msg).2.mark true visited) ∧
      (visited = (publish ports { graph with activeRoutesBound := false } msg).2.report.matchedRoutes ↔
        NoEarlyFailure ports msg (ports.routes.routesForEvent msg.eventId) graph.world) := by
  obtain ⟨hmap, hlength, hevents⟩ := entriesForEvent_of_bound hruns hbind msg.eventId
  have hentries : ∀ entry ∈ bound.activeRoutes.entriesForEvent msg.eventId,
      entry.state = .enabled ∧ entry.route.eventId = msg.eventId := by
    intro entry hmem
    refine ⟨henabled entry ?_, hevents entry hmem⟩
    exact List.mem_of_mem_drop (List.mem_of_mem_take hmem)
  let start : Delivery P ω :=
    { graph := { graph with activeRoutesBound := false }
      report := { matchedRoutes := (ports.routes.spanForEvent msg.eventId).count } }
  obtain ⟨visited, hloop, hnone, hall⟩ :=
    publishEntries_routes ports msg _ hentries .ok 0 start
  rw [hmap, Nat.zero_add] at hloop
  rw [hmap] at hall
  have hmatched : (publishRoutes ports msg (ports.routes.routesForEvent msg.eventId) .ok
      start).2.report.matchedRoutes = (bound.activeRoutes.entriesForEvent msg.eventId).length := by
    rw [publishRoutes_matched, ← List.length_map (f := ActiveRoute.route), hmap, hlength]
  have hstatic : publish ports { graph with activeRoutesBound := false } msg =
      conclude (publishRoutes ports msg (ports.routes.routesForEvent msg.eventId) .ok start).1
        (publishRoutes ports msg (ports.routes.routesForEvent msg.eventId) .ok start).2 := rfl
  have hbound : publish ports { graph with activeRoutesBound := true } msg =
      conclude
        (publishEntries ports msg (bound.activeRoutes.entriesForEvent msg.eventId) .ok
          (start.mark true 0)).1
        (publishEntries ports msg (bound.activeRoutes.entriesForEvent msg.eventId) .ok
          (start.mark true 0)).2 := by
    rw [← hactive]
    rfl
  refine ⟨visited, ?_, ?_⟩
  · rw [hbound, hloop, hstatic, mark_conclude]
    rw [hmatched, hnone, List.length_eq_zero_iff]
  · rw [hstatic, conclude_matched, hmatched]
    exact hall

/-- Active and static dispatch make the same attempts in the same order, return the same result
and leave the same behind, the report included, just when no delivery to a route before the
last one of the event fails on a strict QoS. -/
theorem active_static_agree_iff (ports : DeliveryPorts P ω) (hruns : ports.routes.MaximalRuns)
    {builder builder' : RouteBuilder} {before bound : RouteGraph}
    (hbind : builder.bindRoutes ports.routes before = (.ok, builder', bound))
    (henabled : ∀ entry ∈ bound.activeRoutes.entries, entry.state = .enabled)
    (graph : DeliveryGraph P ω) (hactive : graph.activeRoutes = bound.activeRoutes) (msg : Msg P) :
    SamePublication (publish ports { graph with activeRoutesBound := true } msg)
        (publish ports { graph with activeRoutesBound := false } msg) ↔
      NoEarlyFailure ports msg (ports.routes.routesForEvent msg.eventId) graph.world := by
  obtain ⟨visited, hpublish, hall⟩ := publish_bound ports hruns hbind henabled graph hactive msg
  rw [hpublish, ← hall]
  generalize publish ports { graph with activeRoutesBound := false } msg = out
  constructor
  · intro h
    exact congrArg DeliveryReport.matchedRoutes h.report
  · rintro rfl
    exact ⟨rfl, rfl, rfl, rfl, rfl, rfl, rfl⟩

def allRequested : RouteBuilder where
  requested := fun _ => true
  boardCaps := 0xFFFFFFFF
  runtimeCaps := 0xFFFFFFFF

def unboundActors (bound : Bool) : DeliveryGraph Unit Unit where
  activeRoutes := (allRequested.bindRoutes RouteTable.generated {}).2.2.activeRoutes
  activeRoutesBound := bound
  reasoned := (allRequested.bindRoutes RouteTable.generated {}).2.2.reasoned
  world := { registry := ActorRegistry.fresh, outside := () }

def generatedPorts : DeliveryPorts Unit Unit where
  callbacks := Callbacks.none
  clock := none
  routes := RouteTable.generated

theorem bindRoutes_generated : (allRequested.bindRoutes RouteTable.generated {}).1 = .ok ∧
    ∀ entry ∈ (allRequested.bindRoutes RouteTable.generated {}).2.2.activeRoutes.entries,
      entry.state = .enabled := by
  decide +kernel

/-- The same graph with a mailbox for every target of a tick but the last one. -/
def tickActors (bound : Bool) : DeliveryGraph Unit Unit :=
  { unboundActors bound with
    world :=
      { registry := ActorRegistry.setup [(.diag, .fifo8), (.app, .fifo8), (.watchdog, .fifo8),
          (.network, .fifo8), (.command, .fifo8), (.rtc, .fifo8), (.oled, .fifo8)]
        outside := () } }

/-- Seven mailboxes take the tick of one second before the eighth delivery fails: both loops report
the seven and the failure. -/
theorem active_static_agree_tick :
    let active := publish generatedPorts (tickActors true)
      (Msg.initPublish Msg.zeroed .tick1s .boot).2
    active.2.report.delivered = 7 ∧ active.2.report.firstFailedActor = .supervisor ∧
      SamePublication active
        (publish generatedPorts (tickActors false) (Msg.initPublish Msg.zeroed .tick1s .boot).2) :=
  ⟨by decide +kernel, by decide +kernel,
    (active_static_agree_iff generatedPorts RouteTable.generated_maximalRuns
      (Prod.ext bindRoutes_generated.1 rfl) bindRoutes_generated.2 (tickActors true) rfl _).mpr
        (by decide +kernel)⟩

/-- A tick of one second has eight strict routes and the first delivery fails: the active loop
reports one matched route, the static loop eight. -/
theorem active_static_differ :
    RouteTable.generated.MaximalRuns ∧
    (allRequested.bindRoutes RouteTable.generated {}).1 = .ok ∧
    (∀ entry ∈ (allRequested.bindRoutes RouteTable.generated {}).2.2.activeRoutes.entries,
      entry.state = .enabled) ∧
    (publish generatedPorts (unboundActors true)
      (Msg.initPublish Msg.zeroed .tick1s .boot).2).2.report.matchedRoutes = 1 ∧
    (publish generatedPorts (unboundActors false)
      (Msg.initPublish Msg.zeroed .tick1s .boot).2).2.report.matchedRoutes = 8 ∧
    ¬SamePublication
      (publish generatedPorts (unboundActors true) (Msg.initPublish Msg.zeroed .tick1s .boot).2)
      (publish generatedPorts (unboundActors false) (Msg.initPublish Msg.zeroed .tick1s .boot).2) := by
  have hactive : (publish generatedPorts (unboundActors true)
      (Msg.initPublish Msg.zeroed .tick1s .boot).2).2.report.matchedRoutes = 1 := by decide +kernel
  have hstatic : (publish generatedPorts (unboundActors false)
      (Msg.initPublish Msg.zeroed .tick1s .boot).2).2.report.matchedRoutes = 8 := by decide +kernel
  refine ⟨RouteTable.generated_maximalRuns, bindRoutes_generated.1, bindRoutes_generated.2, hactive,
    hstatic, fun h => ?_⟩
  have := congrArg DeliveryReport.matchedRoutes h.report
  omega

end Delivery

end EventFramework
