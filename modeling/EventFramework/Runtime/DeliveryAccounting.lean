import EventFramework.Runtime.DeliveryService

/-!
# Accounting of a publication

Every visited route is counted once, and the report names the first route that failed for
good. The visits of a publication decide its result and all its counters.
-/

namespace EventFramework
set_option autoImplicit false

variable {P ω : Type}

namespace RouteVisit

def route : RouteVisit P → Route
  | .disabled entry | .rejected entry => entry.route
  | .attempted route _ _ _ => route

def isDisabled : RouteVisit P → Bool
  | .disabled _ => true
  | _ => false

def isRejected : RouteVisit P → Bool
  | .rejected _ => true
  | _ => false

def isAttempt : RouteVisit P → Bool
  | .attempted .. => true
  | _ => false

def isDelivered : RouteVisit P → Bool
  | .attempted _ _ result effect => result == .ok && effect != .dropped
  | _ => false

/-- The attempt failed, or the mailbox dropped the message by its QoS. -/
def isLost : RouteVisit P → Bool
  | .attempted _ _ result effect => result != .ok || effect == .dropped
  | _ => false

/-- A failed attempt on a route whose QoS does not allow the loss. -/
def strictFailed : RouteVisit P → Bool
  | .attempted route _ result _ => result != .ok && qosFailureIsStrict route.qos
  | _ => false

def isFailure (visit : RouteVisit P) : Bool := visit.isRejected || visit.strictFailed

def error : RouteVisit P → Result
  | .disabled _ => .ok
  | .rejected entry => entry.reason
  | .attempted _ _ result _ => result

def delivery : RouteVisit P → Option (PumpEvent P)
  | .attempted route msg result _ => some (.delivered route.targetActor msg result)
  | _ => none

def firstFailure (visits : List (RouteVisit P)) : Result × ActorId :=
  match visits.find? isFailure with
  | some visit => (visit.error, visit.route.targetActor)
  | none => (.ok, .none)

/-- What a visit of an entry can be. -/
def Describes (msg : Msg P) (entry : ActiveRoute) (visit : RouteVisit P) : Prop :=
  match entry.state with
  | .optionalDisabled => visit = .disabled entry
  | .enabled => ∃ result effect, visit =
      .attempted entry.route { msg with targetActor := entry.route.targetActor } result effect
  | _ => visit = .rejected entry ∧ entry.state.isRejected = true

end RouteVisit

open RouteVisit

/-- The entries are visited in order, and only a failed strict attempt ends the visits. -/
structure VisitedInOrder (msg : Msg P) (entries : List ActiveRoute) (visits : List (RouteVisit P)) :
    Prop where
  describe : List.Forall₂ (Describes msg) (entries.take visits.length) visits
  stop : ∀ visit ∈ visits.dropLast, visit.strictFailed = false
  complete : visits.length < entries.length →
    ∃ visit, visits.getLast? = some visit ∧ visit.strictFailed = true

namespace VisitedInOrder

theorem nil (msg : Msg P) : VisitedInOrder msg [] [] :=
  ⟨.nil, by simp, by simp⟩

theorem cons {msg : Msg P} {entry : ActiveRoute} {entries : List ActiveRoute} {visit : RouteVisit P}
    {visits : List (RouteVisit P)} (hdescribes : Describes msg entry visit)
    (hgoes : visit.strictFailed = false) (h : VisitedInOrder msg entries visits) :
    VisitedInOrder msg (entry :: entries) (visit :: visits) := by
  refine ⟨?_, ?_, ?_⟩
  · simpa using ⟨hdescribes, h.describe⟩
  · cases visits with
    | nil => simp
    | cons next rest =>
      intro v hv
      rw [List.dropLast_cons_cons] at hv
      rcases List.mem_cons.mp hv with rfl | hv
      · exact hgoes
      · exact h.stop v hv
  · intro hlt
    obtain ⟨last, hlast, hfailed⟩ := h.complete (by simpa using hlt)
    refine ⟨last, ?_, hfailed⟩
    cases visits with
    | nil => simp at hlast
    | cons next rest => simpa using hlast

theorem last {msg : Msg P} {entry : ActiveRoute} (entries : List ActiveRoute) {visit : RouteVisit P}
    (hdescribes : Describes msg entry visit) (hfailed : visit.strictFailed = true) :
    VisitedInOrder msg (entry :: entries) [visit] :=
  ⟨by simpa using hdescribes, by simp, fun _ => ⟨visit, rfl, hfailed⟩⟩

theorem eq_nil_iff {msg : Msg P} {entries : List ActiveRoute}
    {visits : List (RouteVisit P)} (h : VisitedInOrder msg entries visits) :
    visits = [] ↔ entries = [] := by
  constructor
  · rintro rfl
    by_contra hne
    obtain ⟨_, hlast, _⟩ := h.complete (by simpa using List.length_pos_iff.mpr hne)
    simp at hlast
  · rintro rfl
    have hdescribe := h.describe
    rw [List.take_nil] at hdescribe
    exact List.forall₂_nil_left_iff.mp hdescribe

end VisitedInOrder

namespace Delivery

def keepFirst (kept : Result × ActorId) (visit : RouteVisit P) : Result × ActorId :=
  if kept.1 = .ok ∧ visit.isFailure then (visit.error, visit.route.targetActor) else kept

/-- How a list of visits changes a delivery. -/
structure Accounted (before after : Delivery P ω) (visits : List (RouteVisit P)) : Prop where
  visited : after.graph.visits = before.graph.visits ++ visits
  deliveries : ∃ moments, after.graph.world.history = before.graph.world.history ++ moments ∧
    moments.map Moment.event = visits.filterMap delivery
  attempted : after.report.attempted = before.report.attempted + visits.countP isAttempt
  delivered : after.report.delivered = before.report.delivered + visits.countP isDelivered
  dropped : after.report.dropped = before.report.dropped + visits.countP (!·.isDelivered)
  disabled : after.report.optionalDisabledRoutes =
    before.report.optionalDisabledRoutes + visits.countP isDisabled
  rejected : after.report.rejectedRoutes = before.report.rejectedRoutes + visits.countP isRejected
  first : (after.report.firstError, after.report.firstFailedActor) =
    visits.foldl keepFirst (before.report.firstError, before.report.firstFailedActor)
  routes : after.graph.activeRoutes = before.graph.activeRoutes

namespace Accounted

theorem refl (s : Delivery P ω) : Accounted s s [] :=
  ⟨by simp, ⟨[], by simp⟩, rfl, rfl, rfl, rfl, rfl, rfl, rfl⟩

theorem trans {s₁ s₂ s₃ : Delivery P ω} {visits₁ visits₂ : List (RouteVisit P)}
    (h₁ : Accounted s₁ s₂ visits₁) (h₂ : Accounted s₂ s₃ visits₂) :
    Accounted s₁ s₃ (visits₁ ++ visits₂) where
  visited := by rw [h₂.visited, h₁.visited, List.append_assoc]
  deliveries := by
    obtain ⟨moments₁, hhistory₁, hevents₁⟩ := h₁.deliveries
    obtain ⟨moments₂, hhistory₂, hevents₂⟩ := h₂.deliveries
    refine ⟨moments₁ ++ moments₂, by rw [hhistory₂, hhistory₁, List.append_assoc], ?_⟩
    rw [List.map_append, hevents₁, hevents₂, List.filterMap_append]
  attempted := by rw [h₂.attempted, h₁.attempted, List.countP_append, Nat.add_assoc]
  delivered := by rw [h₂.delivered, h₁.delivered, List.countP_append, Nat.add_assoc]
  dropped := by rw [h₂.dropped, h₁.dropped, List.countP_append, Nat.add_assoc]
  disabled := by rw [h₂.disabled, h₁.disabled, List.countP_append, Nat.add_assoc]
  rejected := by rw [h₂.rejected, h₁.rejected, List.countP_append, Nat.add_assoc]
  first := by rw [h₂.first, h₁.first, List.foldl_append]
  routes := by rw [h₂.routes, h₁.routes]

end Accounted

structure SameCounts (before after : Delivery P ω) : Prop where
  visits : after.graph.visits = before.graph.visits
  history : after.graph.world.history = before.graph.world.history
  attempted : after.report.attempted = before.report.attempted
  delivered : after.report.delivered = before.report.delivered
  dropped : after.report.dropped = before.report.dropped
  disabled : after.report.optionalDisabledRoutes = before.report.optionalDisabledRoutes
  rejected : after.report.rejectedRoutes = before.report.rejectedRoutes
  firstError : after.report.firstError = before.report.firstError
  firstFailedActor : after.report.firstFailedActor = before.report.firstFailedActor
  routes : after.graph.activeRoutes = before.graph.activeRoutes

namespace SameCounts

theorem refl (s : Delivery P ω) : SameCounts s s := ⟨rfl, rfl, rfl, rfl, rfl, rfl, rfl, rfl, rfl, rfl⟩

theorem trans {s₁ s₂ s₃ : Delivery P ω} (h₁ : SameCounts s₁ s₂) (h₂ : SameCounts s₂ s₃) :
    SameCounts s₁ s₃ where
  visits := h₂.visits.trans h₁.visits
  history := h₂.history.trans h₁.history
  attempted := h₂.attempted.trans h₁.attempted
  delivered := h₂.delivered.trans h₁.delivered
  dropped := h₂.dropped.trans h₁.dropped
  disabled := h₂.disabled.trans h₁.disabled
  rejected := h₂.rejected.trans h₁.rejected
  firstError := h₂.firstError.trans h₁.firstError
  firstFailedActor := h₂.firstFailedActor.trans h₁.firstFailedActor
  routes := h₂.routes.trans h₁.routes

/-- Bookkeeping before and after an accounted step. -/
theorem accounted {s₁ s₂ s₃ s₄ : Delivery P ω} {visits : List (RouteVisit P)}
    (h₁ : SameCounts s₁ s₂) (h : Accounted s₂ s₃ visits) (h₂ : SameCounts s₃ s₄) :
    Accounted s₁ s₄ visits where
  visited := by rw [h₂.visits, h.visited, h₁.visits]
  deliveries := by rw [h₂.history, ← h₁.history]; exact h.deliveries
  attempted := by rw [h₂.attempted, h.attempted, h₁.attempted]
  delivered := by rw [h₂.delivered, h.delivered, h₁.delivered]
  dropped := by rw [h₂.dropped, h.dropped, h₁.dropped]
  disabled := by rw [h₂.disabled, h.disabled, h₁.disabled]
  rejected := by rw [h₂.rejected, h.rejected, h₁.rejected]
  first := by rw [h₂.firstError, h₂.firstFailedActor, h.first, h₁.firstError, h₁.firstFailedActor]
  routes := by rw [h₂.routes, h.routes, h₁.routes]

theorem emitFault (s : Delivery P ω) (sourceActor targetActor : ActorId) (eventId : EventId)
    (result : Result) : SameCounts s (s.emitFault sourceActor targetActor eventId result) := by
  unfold Delivery.emitFault
  simp only
  split
  · exact ⟨rfl, rfl, rfl, rfl, rfl, rfl, rfl, rfl, rfl, RouteGraph.emitFault_activeRoutes _ _⟩
  · exact ⟨rfl, rfl, rfl, rfl, rfl, rfl, rfl, rfl, rfl, RouteGraph.emitFault_activeRoutes _ _⟩

theorem trace (ports : DeliveryPorts P ω) (s : Delivery P ω) (route : Route) (msg : Msg P)
    (result : Result) : SameCounts s (s.trace ports route msg result) := by
  have hhistory : (traceTimestampUs ports s.graph.world).2.history = s.graph.world.history := by
    unfold traceTimestampUs
    split <;> rfl
  unfold Delivery.trace
  simp only
  split
  · exact ⟨rfl, hhistory, rfl, rfl, rfl, rfl, rfl, rfl, rfl, rfl⟩
  · exact ⟨rfl, hhistory, rfl, rfl, rfl, rfl, rfl, rfl, rfl, rfl⟩

theorem recordMailboxEffect (s : Delivery P ω) (effect : MailboxDeliveryEffect) :
    SameCounts s (s.recordMailboxEffect effect) := by
  cases effect <;> exact ⟨rfl, rfl, rfl, rfl, rfl, rfl, rfl, rfl, rfl, rfl⟩

theorem matchRoute (s : Delivery P ω) : SameCounts s s.matchRoute :=
  ⟨rfl, rfl, rfl, rfl, rfl, rfl, rfl, rfl, rfl, rfl⟩

end SameCounts

/-- What `concludeAttempt` adds to the counts: the visit of the attempt, seen before. -/
theorem concludeAttempt_counts (s : Delivery P ω) (route : Route) (msg sendMsg : Msg P)
    (result : Result) (effect : MailboxDeliveryEffect) :
    let visit : RouteVisit P := .attempted route sendMsg result effect
    let out := s.concludeAttempt route msg result effect
    out.1 = (if visit.strictFailed then result else .ok) ∧
    out.2.graph.visits = s.graph.visits ∧
    out.2.graph.world.history = s.graph.world.history ∧
    out.2.report.attempted = s.report.attempted ∧
    out.2.report.delivered = s.report.delivered + (if visit.isDelivered then 1 else 0) ∧
    out.2.report.dropped = s.report.dropped + (if visit.isDelivered then 0 else 1) ∧
    out.2.report.optionalDisabledRoutes = s.report.optionalDisabledRoutes ∧
    out.2.report.rejectedRoutes = s.report.rejectedRoutes ∧
    (out.2.report.firstError, out.2.report.firstFailedActor) =
      keepFirst (s.report.firstError, s.report.firstFailedActor) visit ∧
    out.2.graph.activeRoutes = s.graph.activeRoutes := by
  intro visit out
  by_cases hok : result = .ok
  · subst hok
    have hfirst : keepFirst (s.report.firstError, s.report.firstFailedActor) visit =
        (s.report.firstError, s.report.firstFailedActor) := by
      simp [keepFirst, visit, isFailure, isRejected, strictFailed]
    rw [hfirst]
    by_cases hdrop : effect = .dropped
    · simp [out, visit, concludeAttempt, hdrop, strictFailed, isDelivered, Delivery.count, addDropped,
        setReport]
    · simp [out, visit, concludeAttempt, hdrop, strictFailed, isDelivered, Delivery.count,
        addDelivered, setReport]
  · by_cases hstrict : qosFailureIsStrict route.qos = true
    · have hout : out = (result, ((((s.addDropped).count .deliveryFailed).noteError result
          route.targetActor).emitFault msg.sourceActor route.targetActor msg.eventId result)) := by
        simp [out, concludeAttempt, hok, dropAllowed_eq_not_strict, hstrict]
      have hsame := SameCounts.emitFault ((((s.addDropped).count .deliveryFailed).noteError result
          route.targetActor)) msg.sourceActor route.targetActor msg.eventId result
      rw [hout]
      simp only [hsame.visits, hsame.history, hsame.attempted, hsame.delivered, hsame.dropped,
        hsame.disabled, hsame.rejected, hsame.firstError, hsame.firstFailedActor, hsame.routes]
      by_cases hfirst : s.report.firstError = .ok
      · simp [visit, strictFailed, isDelivered, isFailure, isRejected, hok, hstrict, keepFirst, hfirst,
          noteError, addDropped, Delivery.count, setReport, RouteVisit.error, RouteVisit.route]
      · simp [visit, strictFailed, isDelivered, isFailure, isRejected, hok, hstrict, keepFirst, hfirst,
          noteError, addDropped, Delivery.count, setReport]
    · simp [out, visit, concludeAttempt, hok, dropAllowed_eq_not_strict, hstrict, strictFailed,
        isDelivered, isFailure, isRejected, keepFirst, addDropped, Delivery.count, setReport]

/-- An attempt is one visit; only a strict failure is reported. -/
theorem deliverOne_accounted (ports : DeliveryPorts P ω) (s : Delivery P ω) (route : Route)
    (msg : Msg P) :
    ∃ result effect,
      let visit : RouteVisit P :=
        .attempted route { msg with targetActor := route.targetActor } result effect
      Accounted s (deliverOne ports s route msg).2 [visit] ∧
      (deliverOne ports s route msg).1 = if visit.strictFailed then result else .ok := by
  let sendMsg := { msg with targetActor := route.targetActor }
  let begun := (s.setReport { s.report with attempted := s.report.attempted + 1 }).count
    .deliveryAttempted
  let out := begun.graph.world.deliver ports.callbacks route.targetActor sendMsg route.qos true
  let effect := (out.2.1.getD {}).effect
  let visit : RouteVisit P := .attempted route sendMsg out.1 effect
  let visited := (begun.setWorld out.2.2).visit visit
  let traced := (visited.trace ports route sendMsg out.1).recordMailboxEffect effect
  refine ⟨out.1, effect, ?_⟩
  have hsame : SameCounts visited traced :=
    (SameCounts.trace ports visited route sendMsg out.1).trans (SameCounts.recordMailboxEffect _ _)
  have hhistory : visited.graph.world.history = s.graph.world.history ++
      [⟨.delivered route.targetActor sendMsg out.1, out.2.2.registry⟩] :=
    World.deliver_history _ _ _ _ _ _
  obtain ⟨hrc, hvisits, hmoments, hattempted, hdelivered, hdropped, hdisabled, hrejected, hfirst,
    hroutes⟩ := concludeAttempt_counts traced route msg sendMsg out.1 effect
  have hone : deliverOne ports s route msg = traced.concludeAttempt route msg out.1 effect := rfl
  change Accounted s (deliverOne ports s route msg).2 [visit] ∧ _
  rw [hone]
  refine ⟨?_, hrc⟩
  refine ⟨?_, ⟨_, (hmoments.trans hsame.history).trans hhistory, rfl⟩, ?_, ?_, ?_, ?_, ?_, ?_, ?_⟩
  · exact hvisits.trans hsame.visits
  · exact hattempted.trans hsame.attempted
  · rw [hdelivered, hsame.delivered, List.countP_singleton]
    rfl
  · rw [hdropped, hsame.dropped, List.countP_singleton]
    change s.report.dropped + (if visit.isDelivered then 0 else 1) =
      s.report.dropped + if (!visit.isDelivered) = true then 1 else 0
    cases visit.isDelivered <;> rfl
  · exact hdisabled.trans hsame.disabled
  · exact hrejected.trans hsame.rejected
  · rw [hfirst, hsame.firstError, hsame.firstFailedActor]
    rfl
  · exact hroutes.trans hsame.routes

theorem emitFault_report (s : Delivery P ω) (sourceActor targetActor : ActorId) (eventId : EventId)
    (result : Result) :
    (s.emitFault sourceActor targetActor eventId result).report = s.report := by
  unfold emitFault
  simp only
  split <;> rfl

theorem trace_report (ports : DeliveryPorts P ω) (s : Delivery P ω) (route : Route) (msg : Msg P)
    (result : Result) : (s.trace ports route msg result).report = s.report := by
  unfold trace
  simp only
  split <;> rfl

theorem noteError_matched (s : Delivery P ω) (error : Result) (target : ActorId) :
    (s.noteError error target).report.matchedRoutes = s.report.matchedRoutes := by
  unfold noteError
  split <;> rfl

theorem deliverOne_matched (ports : DeliveryPorts P ω) (s : Delivery P ω) (route : Route)
    (msg : Msg P) : (deliverOne ports s route msg).2.report.matchedRoutes = s.report.matchedRoutes := by
  have hconclude (t : Delivery P ω) (result : Result) (effect : MailboxDeliveryEffect) :
      (t.concludeAttempt route msg result effect).2.report.matchedRoutes =
        t.report.matchedRoutes := by
    unfold concludeAttempt
    split
    · split <;> rfl
    · simp only
      split
      · rfl
      · rw [emitFault_report, noteError_matched]
        rfl
  have heffect (t : Delivery P ω) (effect : MailboxDeliveryEffect) :
      (t.recordMailboxEffect effect).report.matchedRoutes = t.report.matchedRoutes := by
    cases effect <;> rfl
  unfold deliverOne
  simp only
  rw [hconclude, heffect, trace_report]
  rfl

theorem skipDisabled_accounted (s : Delivery P ω) (entry : ActiveRoute) :
    Accounted s (s.skipDisabled entry) [.disabled entry] :=
  ⟨rfl, ⟨[], by simp [skipDisabled, Delivery.count, setReport, visit], rfl⟩, rfl, rfl, rfl, rfl, rfl,
    by simp [keepFirst, isFailure, isRejected, strictFailed, skipDisabled, Delivery.count, setReport,
      visit], rfl⟩

theorem reject_accounted (s : Delivery P ω) (entry : ActiveRoute) (msg : Msg P) :
    Accounted s (s.reject entry msg) [.rejected entry] := by
  let begun := ((s.visit (.rejected entry)).setReport { s.report with
    dropped := s.report.dropped + 1
    rejectedRoutes := s.report.rejectedRoutes + 1 }).count .routeValidationRejected
  let conflicted :=
    if entry.state = .rejectedQosConflict then
      (begun.setReport { begun.report with
        qosConflictRoutes := begun.report.qosConflictRoutes + 1 }).count .routeQosConflict
    else begun
  let faulted := conflicted.emitFault msg.sourceActor entry.route.targetActor msg.eventId entry.reason
  have hsame : SameCounts begun faulted := by
    refine SameCounts.trans ?_ (SameCounts.emitFault _ _ _ _ _)
    by_cases hstate : entry.state = .rejectedQosConflict
    · simp only [conflicted, if_pos hstate]
      exact ⟨rfl, rfl, rfl, rfl, rfl, rfl, rfl, rfl, rfl, rfl⟩
    · simp only [conflicted, if_neg hstate]
      exact SameCounts.refl begun
  have hreject : s.reject entry msg = faulted.noteError entry.reason entry.route.targetActor := rfl
  rw [hreject]
  unfold noteError
  by_cases hfirst : s.report.firstError = .ok
  · rw [if_pos (hsame.firstError.trans hfirst)]
    exact ⟨hsame.visits, ⟨[], by rw [List.append_nil]; exact hsame.history, rfl⟩, hsame.attempted, hsame.delivered,
      hsame.dropped, hsame.disabled, hsame.rejected,
      by simp [keepFirst, hfirst, isFailure, isRejected, setReport, RouteVisit.error,
        RouteVisit.route], hsame.routes⟩
  · rw [if_neg fun h => hfirst (hsame.firstError.symm.trans h)]
    refine ⟨hsame.visits, ⟨[], by rw [List.append_nil]; exact hsame.history, rfl⟩, hsame.attempted, hsame.delivered,
      hsame.dropped, hsame.disabled, hsame.rejected, ?_, hsame.routes⟩
    rw [hsame.firstError, hsame.firstFailedActor]
    simp only [List.foldl_cons, List.foldl_nil, keepFirst, if_neg (not_and.mpr fun h => absurd h hfirst)]
    rfl

theorem reject_matched (s : Delivery P ω) (entry : ActiveRoute) (msg : Msg P) :
    (s.reject entry msg).report.matchedRoutes = s.report.matchedRoutes := by
  unfold reject
  simp only
  rw [noteError_matched, emitFault_report]
  split <;> rfl

/-- One visit of a matching entry, from the delivery that meets it to the one it leaves. -/
structure Visited (msg : Msg P) (entry : ActiveRoute) (before after : Delivery P ω)
    (visit : RouteVisit P) : Prop where
  describes : Describes msg entry visit
  counts : Accounted before.matchRoute after [visit]
  matched : after.report.matchedRoutes = before.matchRoute.report.matchedRoutes

theorem skipDisabled_visited {msg : Msg P} {entry : ActiveRoute} (s : Delivery P ω)
    (h : entry.state = .optionalDisabled) :
    Visited msg entry s (s.matchRoute.skipDisabled entry) (.disabled entry) where
  describes := by simp [Describes, h]
  counts := skipDisabled_accounted _ _
  matched := rfl

theorem reject_visited {msg : Msg P} {entry : ActiveRoute} (s : Delivery P ω)
    (h : entry.state.isRejected = true) :
    Visited msg entry s (s.matchRoute.reject entry msg) (.rejected entry) where
  describes := by
    unfold Describes
    split
    · rename_i hstate
      rw [hstate] at h
      cases h
    · rename_i hstate
      rw [hstate] at h
      cases h
    · exact ⟨rfl, h⟩
  counts := reject_accounted _ _ _
  matched := reject_matched _ _ _

theorem deliverOne_visited (ports : DeliveryPorts P ω) (msg : Msg P) {entry : ActiveRoute}
    (s : Delivery P ω) (h : entry.state = .enabled) :
    ∃ result effect,
      let visit : RouteVisit P :=
        .attempted entry.route { msg with targetActor := entry.route.targetActor } result effect
      let out := deliverOne ports s.matchRoute entry.route msg
      Visited msg entry s out.2 visit ∧ out.1 = if visit.strictFailed then result else .ok := by
  obtain ⟨result, effect, hcounts, hrc⟩ := deliverOne_accounted ports s.matchRoute entry.route msg
  refine ⟨result, effect, ⟨?_, hcounts, deliverOne_matched _ _ _ _⟩, hrc⟩
  simp only [Describes, h]
  exact ⟨result, effect, rfl⟩

/-- The loop over entries that match the message, with the result it begins and ends with. -/
structure Walked (msg : Msg P) (entries : List ActiveRoute) (before after : Result × Delivery P ω)
    (visits : List (RouteVisit P)) : Prop where
  counts : Accounted before.2 after.2 visits
  order : VisitedInOrder msg entries visits
  matched : after.2.report.matchedRoutes = before.2.report.matchedRoutes + visits.length
  ok_iff : after.1 = .ok ↔ before.1 = .ok ∧ ∀ visit ∈ visits, visit.isFailure = false

namespace Walked

variable {msg : Msg P} {entry : ActiveRoute} {entries : List ActiveRoute} {finalRc rc : Result}
  {s next : Delivery P ω} {after : Result × Delivery P ω} {visit : RouteVisit P}
  {visits : List (RouteVisit P)}

theorem nil (msg : Msg P) (out : Result × Delivery P ω) : Walked msg [] out out [] :=
  ⟨Accounted.refl _, VisitedInOrder.nil msg, rfl, by simp⟩

theorem cons (hvisit : Visited msg entry s next visit) (hgoes : visit.strictFailed = false)
    (hrc : rc = .ok ↔ finalRc = .ok ∧ visit.isFailure = false)
    (h : Walked msg entries (rc, next) after visits) :
    Walked msg (entry :: entries) (finalRc, s) after (visit :: visits) where
  counts := (SameCounts.matchRoute s).accounted (hvisit.counts.trans h.counts) (SameCounts.refl _)
  order := h.order.cons hvisit.describes hgoes
  matched := by
    rw [h.matched, hvisit.matched]
    simp only [matchRoute, setReport, List.length_cons]
    omega
  ok_iff := by
    rw [h.ok_iff, hrc, and_assoc, List.forall_mem_cons]

theorem last (entries : List ActiveRoute) (hvisit : Visited msg entry s after.2 visit)
    (hfailed : visit.strictFailed = true) (hrc : after.1 ≠ .ok) :
    Walked msg (entry :: entries) (finalRc, s) after [visit] where
  counts := (SameCounts.matchRoute s).accounted hvisit.counts (SameCounts.refl _)
  order := VisitedInOrder.last entries hvisit.describes hfailed
  matched := hvisit.matched
  ok_iff := by
    simp [hrc, isFailure, hfailed]

end Walked

theorem publishEntries_accounted (ports : DeliveryPorts P ω) (msg : Msg P)
    (entries : List ActiveRoute) (hreasoned : ∀ entry ∈ entries, entry.Reasoned) :
    ∀ (finalRc : Result) (s : Delivery P ω), ∃ visits,
      Walked msg (entries.filter fun entry => entry.route.eventId = msg.eventId) (finalRc, s)
        (publishEntries ports msg entries finalRc s) visits := by
  induction entries with
  | nil => exact fun finalRc s => ⟨[], Walked.nil msg _⟩
  | cons entry rest ih =>
    intro finalRc s
    obtain ⟨hreason, hrest⟩ := List.forall_mem_cons.mp hreasoned
    by_cases hevent : entry.route.eventId = msg.eventId
    · rw [List.filter_cons_of_pos (by simpa using hevent)]
      cases hstate : entry.state with
      | optionalDisabled =>
        obtain ⟨visits, h⟩ := ih hrest finalRc (s.matchRoute.skipDisabled entry)
        refine ⟨.disabled entry :: visits, ?_⟩
        simp only [publishEntries, hevent, ne_eq, not_true_eq_false, ↓reduceIte, hstate]
        exact Walked.cons (skipDisabled_visited s hstate) rfl
          (by simp [isFailure, isRejected, strictFailed]) h
      | enabled =>
        obtain ⟨result, effect, hvisit, hrc⟩ := deliverOne_visited ports msg s hstate
        simp only [publishEntries, hevent, ne_eq, not_true_eq_false, ↓reduceIte, hstate]
        by_cases hfailed : RouteVisit.strictFailed (.attempted entry.route
            { msg with targetActor := entry.route.targetActor } result effect) = true
        · have hparts := hfailed
          simp only [strictFailed, Bool.and_eq_true, bne_iff_ne, ne_eq] at hparts
          rw [if_pos hfailed] at hrc
          rw [if_pos ⟨by rw [hrc]; exact hparts.1, hparts.2⟩]
          exact ⟨_, Walked.last _ hvisit hfailed (by rw [hrc]; exact hparts.1)⟩
        · rw [if_neg hfailed] at hrc
          obtain ⟨visits, h⟩ := ih hrest finalRc (deliverOne ports s.matchRoute entry.route msg).2
          simp only [hrc, not_true_eq_false, false_and, ↓reduceIte]
          exact ⟨_, Walked.cons hvisit (by simpa using hfailed)
            (by simp [isFailure, isRejected, hfailed]) h⟩
      | rejectedInvalidEvent | rejectedInvalidActor | rejectedMissingMandatoryActor
        | rejectedQosConflict | rejectedOverflow =>
        have hrejected : entry.state.isRejected = true := by
          rw [hstate]
          rfl
        obtain ⟨visits, h⟩ := ih hrest entry.reason (s.matchRoute.reject entry msg)
        refine ⟨.rejected entry :: visits, ?_⟩
        simp only [publishEntries, hevent, ne_eq, not_true_eq_false, ↓reduceIte, hstate]
        exact Walked.cons (reject_visited s hrejected) rfl
          (by simp [hreason hrejected, isFailure, isRejected]) h
    · rw [List.filter_cons_of_neg (by simpa using hevent)]
      have hskip : publishEntries ports msg (entry :: rest) finalRc s =
          publishEntries ports msg rest finalRc s := by
        simp [publishEntries, hevent]
      rw [hskip]
      exact ih hrest finalRc s

theorem countP_undelivered (visits : List (RouteVisit P)) :
    visits.countP (!·.isDelivered) =
      visits.countP isDisabled + visits.countP isRejected + visits.countP isLost := by
  induction visits with
  | nil => rfl
  | cons visit visits ih =>
    simp only [List.countP_cons, ih]
    cases visit with
    | disabled | rejected =>
      simp [isDelivered, isDisabled, isRejected, isLost]
      omega
    | attempted route msg result effect =>
      have hlost : isLost (.attempted route msg result effect : RouteVisit P) =
          !isDelivered (.attempted route msg result effect : RouteVisit P) := by
        simp [isLost, isDelivered, bne]
      simp only [hlost, isDisabled, isRejected]
      cases isDelivered (.attempted route msg result effect : RouteVisit P) <;> simp
      omega

theorem countP_attempts (visits : List (RouteVisit P)) :
    visits.countP isAttempt = visits.countP isDelivered + visits.countP isLost := by
  induction visits with
  | nil => rfl
  | cons visit visits ih =>
    simp only [List.countP_cons, ih]
    cases visit with
    | disabled | rejected => simp [isAttempt, isDelivered, isLost]
    | attempted route msg result effect =>
      have hlost : isLost (.attempted route msg result effect : RouteVisit P) =
          !isDelivered (.attempted route msg result effect : RouteVisit P) := by
        simp [isLost, isDelivered, bne]
      simp only [hlost, isAttempt]
      cases isDelivered (.attempted route msg result effect : RouteVisit P) <;> simp <;> omega

theorem foldl_keepFirst_kept (visits : List (RouteVisit P)) {kept : Result × ActorId}
    (h : kept.1 ≠ .ok) : visits.foldl keepFirst kept = kept := by
  induction visits with
  | nil => rfl
  | cons visit visits ih =>
    rw [List.foldl_cons, keepFirst, if_neg fun hand => h hand.1, ih]

theorem foldl_keepFirst {visits : List (RouteVisit P)}
    (h : ∀ visit ∈ visits, visit.isFailure = true → visit.error ≠ .ok) :
    visits.foldl keepFirst (.ok, .none) = firstFailure visits := by
  induction visits with
  | nil => rfl
  | cons visit visits ih =>
    obtain ⟨hvisit, hrest⟩ := List.forall_mem_cons.mp h
    rw [List.foldl_cons, firstFailure]
    by_cases hfailure : visit.isFailure = true
    · rw [keepFirst, if_pos ⟨rfl, hfailure⟩, List.find?_cons_of_pos hfailure]
      exact foldl_keepFirst_kept visits (hvisit hfailure)
    · rw [keepFirst, if_neg fun hand => hfailure hand.2, List.find?_cons_of_neg hfailure]
      exact ih hrest

theorem error_of_failure {msg : Msg P} {entries : List ActiveRoute} {visits : List (RouteVisit P)}
    (h : List.Forall₂ (Describes msg) entries visits)
    (hreasoned : ∀ entry ∈ entries, entry.Reasoned) :
    ∀ visit ∈ visits, visit.isFailure = true → visit.error ≠ .ok := by
  induction h with
  | nil => simp
  | @cons entry visit entries visits hdescribes _ ih =>
    obtain ⟨hreason, hrest⟩ := List.forall_mem_cons.mp hreasoned
    refine List.forall_mem_cons.mpr ⟨fun hfailure => ?_, ih hrest⟩
    cases visit with
    | disabled => simp [isFailure, isRejected, strictFailed] at hfailure
    | rejected other =>
      have hother : other = entry ∧ entry.state.isRejected = true := by
        unfold Describes at hdescribes
        split at hdescribes
        · cases hdescribes
        · obtain ⟨_, _, hattempt⟩ := hdescribes
          cases hattempt
        · exact ⟨RouteVisit.rejected.inj hdescribes.1, hdescribes.2⟩
      rw [RouteVisit.error, hother.1]
      exact hreason hother.2
    | attempted route sent result effect =>
      simp only [isFailure, isRejected, strictFailed, Bool.false_or, Bool.and_eq_true, bne_iff_ne,
        ne_eq] at hfailure
      exact hfailure.1

def matching (graph : DeliveryGraph P ω) (eventId : EventId) : List ActiveRoute :=
  (graph.activeRoutes.entriesForEvent eventId).filter fun entry => entry.route.eventId = eventId

theorem entriesForEvent_reasoned (graph : DeliveryGraph P ω) (eventId : EventId) :
    ∀ entry ∈ graph.activeRoutes.entriesForEvent eventId, entry.Reasoned :=
  fun entry hmem => graph.reasoned entry (List.mem_of_mem_drop (List.mem_of_mem_take hmem))

namespace Walked

variable {graph : DeliveryGraph P ω} {msg : Msg P} {entries : List ActiveRoute}
  {after : Result × Delivery P ω} {visits : List (RouteVisit P)}

/-- The counters of a publication over the active table are those of its visits. -/
theorem report_counts (h : Walked msg entries (.ok, { graph := graph }) after visits) :
    after.2.report.matchedRoutes = visits.length ∧
      after.2.report.delivered = visits.countP isDelivered ∧
      after.2.report.optionalDisabledRoutes = visits.countP isDisabled ∧
      after.2.report.rejectedRoutes = visits.countP isRejected ∧
      after.2.report.matchedRoutes = after.2.report.delivered + after.2.report.dropped ∧
      after.2.report.dropped = after.2.report.optionalDisabledRoutes +
        after.2.report.rejectedRoutes + visits.countP isLost ∧
      after.2.report.attempted = after.2.report.delivered + visits.countP isLost := by
  have hsplit := List.length_eq_countP_add_countP (RouteVisit.isDelivered (P := P)) (l := visits)
  have hmatched := h.matched
  have hattempted := h.counts.attempted
  have hdelivered := h.counts.delivered
  have hdropped := h.counts.dropped
  have hdisabled := h.counts.disabled
  have hrejected := h.counts.rejected
  simp only [Nat.zero_add] at hattempted hdelivered hdropped hdisabled hrejected hmatched
  simp only [Bool.not_eq_true] at hsplit
  refine ⟨hmatched, hdelivered, hdisabled, hrejected, ?_, ?_, ?_⟩
  · rw [hmatched, hdelivered, hdropped, hsplit]
    simp
  · rw [hdropped, hdisabled, hrejected, countP_undelivered]
  · rw [hattempted, hdelivered, countP_attempts]

theorem report_first (h : Walked msg entries (.ok, { graph := graph }) after visits)
    (hreasoned : ∀ entry ∈ entries, entry.Reasoned) :
    (after.2.report.firstError, after.2.report.firstFailedActor) = firstFailure visits :=
  h.counts.first.trans (foldl_keepFirst (error_of_failure h.order.describe
    fun entry hmem => hreasoned entry (List.mem_of_mem_take hmem)))

theorem conclude_none (h : Walked msg entries (.ok, { graph := graph }) after []) :
    conclude after.1 after.2 = (.errNotFound,
      (after.2.setReport { after.2.report with firstError := .errNotFound }).count
        .deliveryFailed) :=
  if_pos h.report_counts.1

theorem conclude_some (h : Walked msg entries (.ok, { graph := graph }) after visits)
    (hsome : visits ≠ []) :
    (conclude after.1 after.2).1 = after.1 ∧
      (conclude after.1 after.2).2.report = after.2.report ∧
      (conclude after.1 after.2).2.graph.visits = after.2.graph.visits ∧
      (conclude after.1 after.2).2.graph.world = after.2.graph.world := by
  have hmatched : after.2.report.matchedRoutes ≠ 0 := by
    rw [h.report_counts.1]
    exact fun hzero => hsome (List.length_eq_zero_iff.mp hzero)
  unfold conclude
  rw [if_neg hmatched]
  split
  · exact ⟨rfl, rfl, rfl, rfl⟩
  · exact ⟨rfl, rfl, rfl, rfl⟩

end Walked

/-- A publication over the active table succeeds just when a route matched, none was rejected and
no strict attempt failed. A droppable failure stops nothing, a strict one ends the visits; every
visit is counted once, and the report names the first failure in table order. -/
theorem publish_accounted (ports : DeliveryPorts P ω) (graph : DeliveryGraph P ω) (msg : Msg P)
    (hbound : graph.activeRoutesBound = true) :
    ∃ visits,
      let out := publish ports graph msg
      let report := out.2.report
      out.2.graph.visits = graph.visits ++ visits ∧
      (∃ moments, out.2.graph.world.history = graph.world.history ++ moments ∧
        moments.map Moment.event = visits.filterMap delivery) ∧
      VisitedInOrder msg (matching graph msg.eventId) visits ∧
      (out.1 = .ok ↔ matching graph msg.eventId ≠ [] ∧
        ∀ visit ∈ visits, visit.isRejected = false ∧ visit.strictFailed = false) ∧
      (report.matchedRoutes = visits.length ∧
        report.delivered = visits.countP isDelivered ∧
        report.optionalDisabledRoutes = visits.countP isDisabled ∧
        report.rejectedRoutes = visits.countP isRejected ∧
        report.matchedRoutes = report.delivered + report.dropped ∧
        report.dropped = report.optionalDisabledRoutes + report.rejectedRoutes +
          visits.countP isLost ∧
        report.attempted = report.delivered + visits.countP isLost) ∧
      (report.firstError, report.firstFailedActor) =
        if visits = [] then (.errNotFound, .none) else firstFailure visits := by
  have hpublish : publish ports graph msg =
      conclude (publishActive ports msg { graph := graph }).1
        (publishActive ports msg { graph := graph }).2 := by
    simp [publish, hbound]
  have hreasoned := entriesForEvent_reasoned graph msg.eventId
  obtain ⟨visits, hwalked⟩ := publishEntries_accounted ports msg _ hreasoned .ok { graph := graph }
  change Walked msg (matching graph msg.eventId) _ (publishActive ports msg { graph := graph })
    visits at hwalked
  have hfirst := hwalked.report_first fun entry hmem => hreasoned entry (List.mem_of_mem_filter hmem)
  have hnil := hwalked.order.eq_nil_iff
  refine ⟨visits, ?_⟩
  rw [hpublish]
  generalize publishActive ports msg { graph := graph } = loop at hwalked hfirst ⊢
  by_cases hempty : visits = []
  · subst hempty
    rw [hwalked.conclude_none, if_pos rfl]
    refine ⟨hwalked.counts.visited, hwalked.counts.deliveries, hwalked.order, ?_,
      hwalked.report_counts, ?_⟩
    · simp [hnil.mp rfl]
    · exact Prod.ext rfl (Prod.ext_iff.mp hfirst).2
  · obtain ⟨hrc, hreport, hvisits, hworld⟩ := hwalked.conclude_some hempty
    simp only [hrc, hreport, hvisits, hworld, if_neg hempty]
    refine ⟨hwalked.counts.visited, hwalked.counts.deliveries, hwalked.order, ?_,
      hwalked.report_counts, hfirst⟩
    rw [hwalked.ok_iff]
    simp only [isFailure, Bool.or_eq_false_iff, true_and]
    exact ⟨fun h => ⟨fun hnone => hempty (hnil.mpr hnone), h⟩, fun h => h.2⟩

/-- A tick goes to the diagnostics actor; the route to the watchdog is disabled. -/
def tickGraph : DeliveryGraph Unit Unit where
  activeRoutes :=
    let table := (ActiveRouteTable.empty.add
      (.enabled { eventId := .tick1s, targetActor := .diag })).2
    let table := (table.add (.optionalDisabled { eventId := .tick1s, targetActor := .watchdog })).2
    table.finalizeSpans.2
  activeRoutesBound := true
  reasoned := (ActiveRouteTable.empty_reasoned.add (ActiveRoute.enabled_reasoned _)).add
    (ActiveRoute.reasoned_of_ne Result.noConfusion)
  world := { registry := ActorRegistry.setup [(.diag, .fifo8)], outside := () }

theorem publish_accounted_tick :
    ∃ visits : List (RouteVisit Unit),
      let out := publish ⟨Callbacks.none, none, RouteTable.generated⟩ tickGraph
        (Msg.initPublish Msg.zeroed .tick1s .boot).2
      out.2.graph.visits = visits ∧
      out.2.report.matchedRoutes = visits.length ∧
      out.2.report.matchedRoutes = out.2.report.delivered + out.2.report.dropped := by
  obtain ⟨visits, hvisits, _, _, _, hcounts, _⟩ :=
    publish_accounted ⟨Callbacks.none, none, RouteTable.generated⟩ tickGraph
      (Msg.initPublish Msg.zeroed .tick1s .boot).2 rfl
  exact ⟨visits, hvisits, hcounts.1, hcounts.2.2.2.2.1⟩

end Delivery

end EventFramework
