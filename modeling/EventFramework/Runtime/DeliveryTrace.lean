import EventFramework.Runtime.DeliveryService

/-!
# The trace of a publication

A publication leaves one record for each delivery that it makes, and never makes the trace ring hold
more than its capacity.
-/

namespace EventFramework
set_option autoImplicit false

variable {P ω : Type}

namespace TraceRing

def recordAll (ring : TraceRing) (records : List TraceRecord) : TraceRing :=
  records.foldl (fun ring record => (ring.record record).2) ring

theorem recordAll_append (ring : TraceRing) (earlier later : List TraceRecord) :
    ring.recordAll (earlier ++ later) = (ring.recordAll earlier).recordAll later :=
  List.foldl_append

theorem recordAll_counts (records : List TraceRecord) : ∀ ring : TraceRing,
    ring.count ≤ traceRingCapacity →
      (ring.recordAll records).count = min (ring.count + records.length) traceRingCapacity ∧
      (ring.recordAll records).dropped =
        ring.dropped + UInt32.ofNat (ring.count + records.length - traceRingCapacity) := by
  induction records with
  | nil =>
    intro ring h
    rw [List.length_nil, Nat.add_zero, Nat.sub_eq_zero_of_le h, Nat.min_eq_left h]
    exact ⟨rfl, (UInt32.add_zero _).symm⟩
  | cons record records ih =>
    intro ring h
    have hnext : ring.recordAll (record :: records) = (ring.record record).2.recordAll records := rfl
    rw [hnext, List.length_cons]
    by_cases hfull : ring.count = traceRingCapacity
    · have hstep : (ring.record record).2.count = ring.count ∧
          (ring.record record).2.dropped = ring.dropped + 1 := by
        unfold TraceRing.record
        rw [if_pos hfull]
        exact ⟨rfl, rfl⟩
      obtain ⟨hcount, hdropped⟩ := ih (ring.record record).2 (hstep.1 ▸ h)
      have hsplit : ring.count + (records.length + 1) - traceRingCapacity =
          1 + (ring.count + records.length - traceRingCapacity) := by omega
      constructor
      · rw [hcount, hstep.1]
        omega
      · rw [hdropped, hstep.1, hstep.2, hsplit, UInt32.ofNat_add, UInt32.add_assoc]
        rfl
    · have hstep : (ring.record record).2.count = ring.count + 1 ∧
          (ring.record record).2.dropped = ring.dropped := by
        unfold TraceRing.record
        rw [if_neg hfull]
        exact ⟨rfl, rfl⟩
      obtain ⟨hcount, hdropped⟩ := ih (ring.record record).2 (by omega)
      rw [hcount, hdropped, hstep.1, hstep.2, Nat.add_right_comm, Nat.add_assoc]
      exact ⟨rfl, rfl⟩

end TraceRing

namespace Delivery

structure Traced (s t : Delivery P ω) (records : List TraceRecord) : Prop where
  traceRing : t.graph.traceRing = s.graph.traceRing.recordAll records
  metric : t.graph.metrics.values .traceDropped = s.graph.metrics.values .traceDropped

namespace Traced

variable {s t u : Delivery P ω} {earlier later : List TraceRecord}

theorem refl (s : Delivery P ω) : Traced s s [] := ⟨rfl, rfl⟩

theorem trans (h : Traced s t earlier) (h' : Traced t u later) : Traced s u (earlier ++ later) := by
  refine ⟨?_, h'.metric.trans h.metric⟩
  rw [h'.traceRing, h.traceRing, TraceRing.recordAll_append]

theorem noteError (s : Delivery P ω) (error : Result) (target : ActorId) :
    Traced s (s.noteError error target) [] := by
  unfold Delivery.noteError
  split
  · exact ⟨rfl, rfl⟩
  · exact refl s

theorem emitFault (s : Delivery P ω) (sourceActor targetActor : ActorId) (eventId : EventId)
    (result : Result) : Traced s (s.emitFault sourceActor targetActor eventId result) [] := by
  have hfault (fault : FaultPayload) : Traced s
      { s with graph := { s.graph with toRouteGraph := s.graph.toRouteGraph.emitFault fault } } [] := by
    unfold RouteGraph.emitFault
    simp only
    split
    · exact ⟨rfl, rfl⟩
    · exact ⟨rfl, rfl⟩
  unfold Delivery.emitFault
  simp only
  split
  · exact (hfault _).trans ⟨rfl, rfl⟩
  · exact hfault _

theorem recordMailboxEffect (s : Delivery P ω) (effect : MailboxDeliveryEffect) :
    Traced s (s.recordMailboxEffect effect) [] := by
  cases effect <;> exact ⟨rfl, rfl⟩

theorem concludeAttempt (s : Delivery P ω) (route : Route) (msg : Msg P) (result : Result)
    (effect : MailboxDeliveryEffect) :
    Traced s (s.concludeAttempt route msg result effect).2 [] := by
  have hdropped : Traced s (s.addDropped.count .deliveryFailed) [] := ⟨rfl, rfl⟩
  unfold Delivery.concludeAttempt
  split
  · split
    · exact ⟨rfl, rfl⟩
    · exact ⟨rfl, rfl⟩
  · simp only
    split
    · exact ⟨rfl, rfl⟩
    · exact (hdropped.trans (noteError _ _ _)).trans (emitFault _ _ _ _ _)

/-- The ring takes every record, so that the metric of the lost ones stays. -/
theorem trace (ports : DeliveryPorts P ω) (s : Delivery P ω) (route : Route) (msg : Msg P)
    (result : Result) : ∃ record,
      (s.trace ports route msg result).graph.traceRing = s.graph.traceRing.recordAll [record] ∧
      (s.trace ports route msg result).graph.metrics = s.graph.metrics := by
  have hok (ring : TraceRing) (record : TraceRecord) : (ring.record record).1 = .ok := by
    unfold TraceRing.record
    split <;> rfl
  unfold Delivery.trace
  simp only [hok, ne_eq, not_true_eq_false, if_false]
  exact ⟨_, rfl, trivial⟩

theorem deliverOne (ports : DeliveryPorts P ω) (s : Delivery P ω) (route : Route) (msg : Msg P) :
    ∃ record, Traced s (Delivery.deliverOne ports s route msg).2 [record] := by
  unfold Delivery.deliverOne
  simp only
  generalize hattempt : (s.setReport { s.report with attempted := s.report.attempted + 1 }).count
    .deliveryAttempted = attempt
  generalize attempt.graph.world.deliver ports.callbacks route.targetActor
    { msg with targetActor := route.targetActor } route.qos true = out
  generalize hvisited : (attempt.setWorld out.2.2).visit (.attempted route
    { msg with targetActor := route.targetActor } out.1 (out.2.1.getD {}).effect) = visited
  obtain ⟨record, hring, hmetrics⟩ :=
    trace ports visited route { msg with targetActor := route.targetActor } out.1
  refine ⟨record, ?_⟩
  have htraced : Traced s
      (visited.trace ports route { msg with targetActor := route.targetActor } out.1) [record] := by
    subst hvisited hattempt
    refine ⟨hring, ?_⟩
    rw [hmetrics]
    rfl
  exact (htraced.trans (recordMailboxEffect _ _)).trans (concludeAttempt _ _ _ _ _)

theorem reject (s : Delivery P ω) (entry : ActiveRoute) (msg : Msg P) :
    Traced s (s.reject entry msg) [] := by
  unfold Delivery.reject
  simp only
  generalize hcounted : (if entry.state = .rejectedQosConflict then _ else _) = t
  have hstart : Traced s t [] := by
    subst hcounted
    split
    · exact ⟨rfl, rfl⟩
    · exact ⟨rfl, rfl⟩
  exact (hstart.trans (emitFault t _ _ _ _)).trans (noteError _ _ _)

theorem skipDisabled (s : Delivery P ω) (entry : ActiveRoute) :
    Traced s (s.skipDisabled entry) [] := ⟨rfl, rfl⟩

end Traced

/-- Every delivery of the walk over the entries of a graph finds room in the trace ring. -/
def EntriesFit (ports : DeliveryPorts P ω) (msg : Msg P) : List ActiveRoute → Delivery P ω → Prop
  | [], _ => True
  | entry :: rest, s =>
    if entry.route.eventId ≠ msg.eventId then EntriesFit ports msg rest s
    else
      let s := s.matchRoute
      match entry.state with
      | .optionalDisabled => EntriesFit ports msg rest (s.skipDisabled entry)
      | .enabled =>
        let out := deliverOne ports s entry.route msg
        s.graph.traceRing.count < traceRingCapacity ∧
          (¬(out.1 ≠ .ok ∧ qosFailureIsStrict entry.route.qos) → EntriesFit ports msg rest out.2)
      | _ => EntriesFit ports msg rest (s.reject entry msg)

/-- Every delivery of the walk over static routes finds room in the trace ring. -/
def RoutesFit (ports : DeliveryPorts P ω) (msg : Msg P) : List Route → Delivery P ω → Prop
  | [], _ => True
  | route :: rest, s =>
    let out := deliverOne ports s route msg
    s.graph.traceRing.count < traceRingCapacity ∧
      (¬(out.1 ≠ .ok ∧ qosFailureIsStrict route.qos) → RoutesFit ports msg rest out.2)

/-- Between the two states at most `n` records were traced, all of which the ring had room for if
`fits` holds. -/
def TracedWithin (s t : Delivery P ω) (n : Nat) (fits : Prop) : Prop :=
  ∃ records, records.length ≤ n ∧ Traced s t records ∧
    (fits ↔ s.graph.traceRing.count + records.length ≤ traceRingCapacity)

namespace TracedWithin

variable {s t u : Delivery P ω} {n : Nat} {fits : Prop}

theorem refl (h : s.graph.traceRing.count ≤ traceRingCapacity) : TracedWithin s s 0 True :=
  ⟨[], Nat.le_refl _, Traced.refl s, iff_of_true trivial h⟩

theorem started {m : Nat} (h : TracedWithin t u n fits) (hfirst : Traced s t []) (hle : n ≤ m) :
    TracedWithin s u m fits := by
  obtain ⟨records, hlength, htraced, hfits⟩ := h
  refine ⟨records, hlength.trans hle, hfirst.trans htraced, ?_⟩
  rw [hfits, hfirst.traceRing]
  rfl

theorem stopped {stop : Prop} (hstop : stop) {record : TraceRecord} (h : Traced s t [record]) :
    TracedWithin s t (n + 1) (s.graph.traceRing.count < traceRingCapacity ∧ (¬stop → fits)) := by
  refine ⟨[record], Nat.succ_le_succ (Nat.zero_le _), h, ?_⟩
  rw [List.length_singleton, Nat.add_one_le_iff]
  exact and_iff_left fun hgo => absurd hstop hgo

theorem delivered {stop : Prop} (hgo : ¬stop) {record : TraceRecord} (h : Traced s t [record])
    (hle : s.graph.traceRing.count ≤ traceRingCapacity)
    (hrest : t.graph.traceRing.count ≤ traceRingCapacity → TracedWithin t u n fits) :
    TracedWithin s u (n + 1) (s.graph.traceRing.count < traceRingCapacity ∧ (¬stop → fits)) := by
  have hcount := (TraceRing.recordAll_counts [record] _ hle).1
  rw [← h.traceRing, List.length_singleton] at hcount
  obtain ⟨records, hlength, htraced, hfits⟩ := hrest (hcount ▸ Nat.min_le_right _ _)
  refine ⟨record :: records, Nat.succ_le_succ hlength, h.trans htraced, ?_⟩
  rw [forall_prop_of_true hgo, hfits, hcount, List.length_cons]
  omega

theorem ended {m : Nat} (h : TracedWithin s t n fits) (hlast : Traced t u []) (hle : n ≤ m) :
    TracedWithin s u m fits := by
  obtain ⟨records, hlength, htraced, hfits⟩ := h
  refine ⟨records, hlength.trans hle, ?_, hfits⟩
  rw [← List.append_nil records]
  exact htraced.trans hlast

theorem count_le (h : TracedWithin s t n fits) (hle : s.graph.traceRing.count ≤ traceRingCapacity) :
    t.graph.traceRing.count ≤ traceRingCapacity := by
  obtain ⟨records, -, htraced, -⟩ := h
  rw [htraced.traceRing, (TraceRing.recordAll_counts records _ hle).1]
  exact Nat.min_le_right _ _

end TracedWithin

theorem publishEntries_traced (ports : DeliveryPorts P ω) (msg : Msg P) (entries : List ActiveRoute) :
    ∀ (finalRc : Result) {s : Delivery P ω}, s.graph.traceRing.count ≤ traceRingCapacity →
      TracedWithin s (publishEntries ports msg entries finalRc s).2 entries.length
        (EntriesFit ports msg entries s) := by
  induction entries with
  | nil => exact fun _ _ h => .refl h
  | cons entry rest ih =>
    intro finalRc s h
    have hquiet (finalRc : Result) {t : Delivery P ω} (ht : Traced s t []) :
        TracedWithin s (publishEntries ports msg rest finalRc t).2 (entry :: rest).length
          (EntriesFit ports msg rest t) := by
      refine .started (ih finalRc ?_) ht (Nat.le_succ _)
      rw [ht.traceRing]
      exact h
    have hmatch : Traced s s.matchRoute [] := ⟨rfl, rfl⟩
    unfold publishEntries EntriesFit
    by_cases hevent : entry.route.eventId ≠ msg.eventId
    · rw [if_pos hevent, if_pos hevent]
      exact hquiet finalRc (Traced.refl s)
    rw [if_neg hevent, if_neg hevent]
    cases hstate : entry.state with
    | optionalDisabled => exact hquiet finalRc (hmatch.trans (Traced.skipDisabled _ entry))
    | enabled =>
      obtain ⟨record, hone⟩ := Traced.deliverOne ports s.matchRoute entry.route msg
      simp only
      split
      · rename_i hstrict
        exact .stopped hstrict (hmatch.trans hone)
      · rename_i hgo
        exact .delivered hgo (hmatch.trans hone) h (ih _)
    | rejectedInvalidEvent | rejectedInvalidActor | rejectedMissingMandatoryActor
    | rejectedQosConflict | rejectedOverflow =>
      exact hquiet entry.reason (hmatch.trans (Traced.reject _ entry msg))

theorem publishRoutes_traced (ports : DeliveryPorts P ω) (msg : Msg P) (routes : List Route) :
    ∀ (finalRc : Result) {s : Delivery P ω}, s.graph.traceRing.count ≤ traceRingCapacity →
      TracedWithin s (publishRoutes ports msg routes finalRc s).2 routes.length
        (RoutesFit ports msg routes s) := by
  induction routes with
  | nil => exact fun _ _ h => .refl h
  | cons route rest ih =>
    intro finalRc s h
    obtain ⟨record, hone⟩ := Traced.deliverOne ports s route msg
    unfold publishRoutes RoutesFit
    simp only
    split
    · rename_i hstrict
      exact .stopped hstrict hone
    · rename_i hgo
      exact .delivered hgo hone h (ih _)

/-- Every delivery of a publication finds room in the trace ring. -/
def TraceFits (ports : DeliveryPorts P ω) (graph : DeliveryGraph P ω) (msg : Msg P) : Prop :=
  if graph.activeRoutesBound then
    EntriesFit ports msg (graph.activeRoutes.entriesForEvent msg.eventId) { graph := graph }
  else
    RoutesFit ports msg (ports.routes.routesForEvent msg.eventId) { graph := graph, report := {
      matchedRoutes := (ports.routes.spanForEvent msg.eventId).count } }

theorem publish_traced (ports : DeliveryPorts P ω) {graph : DeliveryGraph P ω} (msg : Msg P)
    (h : graph.traceRing.count ≤ traceRingCapacity) :
    TracedWithin { graph := graph } (publish ports graph msg).2
      (activeRouteTableCapacity + ports.routes.routes.length) (TraceFits ports graph msg) := by
  have hconclude (rc : Result) (s : Delivery P ω) : Traced s (conclude rc s).2 [] := by
    unfold conclude
    split
    · exact ⟨rfl, rfl⟩
    · split
      · exact ⟨rfl, rfl⟩
      · exact Traced.refl s
  have hspan {α : Type} (l : List α) (start count : Nat) : ((l.drop start).take count).length ≤ l.length :=
    ((List.take_sublist _ _).trans (List.drop_sublist _ _)).length_le
  unfold publish TraceFits
  by_cases hbound : graph.activeRoutesBound = true
  · rw [if_pos hbound, if_pos hbound]
    refine (publishEntries_traced ports msg _ _ h).ended (hconclude _ _) ?_
    exact ((hspan _ _ _).trans graph.activeRoutes.bounded).trans (Nat.le_add_right _ _)
  · rw [if_neg hbound, if_neg hbound]
    have hstatic := publishRoutes_traced ports msg (ports.routes.routesForEvent msg.eventId) .ok
      (s := { graph := graph, report := {
        matchedRoutes := (ports.routes.spanForEvent msg.eventId).count } }) h
    have hstart : TracedWithin { graph := graph } (publishStatic ports msg { graph := graph }).2
        (ports.routes.routesForEvent msg.eventId).length _ :=
      hstatic.started ⟨rfl, rfl⟩ (Nat.le_refl _)
    exact hstart.ended (hconclude _ _) ((hspan _ _ _).trans (Nat.le_add_left _ _))

theorem publish_bounded (ports : DeliveryPorts P ω) {graph : DeliveryGraph P ω} (msg : Msg P)
    (h : graph.traceRing.count ≤ traceRingCapacity) :
    (publish ports graph msg).2.graph.traceRing.count ≤ traceRingCapacity :=
  (publish_traced ports msg h).count_le h

end Delivery

end EventFramework
