import EventFramework.Core.ActorRuntime
import EventFramework.Runtime.ActiveRoutes

/-!
# The delivery service

`ev_delivery_service.c`: one message goes to the mailbox of every route of its event, over
the active table when it is bound and over the static table otherwise. The list of visits
is read by no function: it records what became of each route.
-/

namespace EventFramework
set_option autoImplicit false

variable {P ω : Type}

structure DeliveryReport where
  matchedRoutes : Nat := 0
  attempted : Nat := 0
  delivered : Nat := 0
  dropped : Nat := 0
  firstError : Result := .ok
  firstFailedActor : ActorId := .none
  optionalDisabledRoutes : Nat := 0
  optionalDisabledWatchdogRoutes : Nat := 0
  optionalDisabledNetworkRoutes : Nat := 0
  rejectedRoutes : Nat := 0
  qosConflictRoutes : Nat := 0
  coalesced : Nat := 0
  replaced : Nat := 0
  qosDropped : Nat := 0
  mailboxPolicyRejected : Nat := 0
  deriving DecidableEq, Repr

inductive RouteVisit (P : Type) where
  | disabled (entry : ActiveRoute)
  | rejected (entry : ActiveRoute)
  | attempted (route : Route) (msg : Msg P) (result : Result) (effect : MailboxDeliveryEffect)

/-- The part of the graph that delivery reads and writes. -/
structure DeliveryGraph (P ω : Type) extends RouteGraph where
  world : World P ω
  traceRing : TraceRing := {}
  visits : List (RouteVisit P) := []

/-- What delivery takes from outside the graph. `clock` reads `mono_now_us`. -/
structure DeliveryPorts (P ω : Type) where
  callbacks : Callbacks P ω
  clock : Option (ω → Result × UInt64 × ω)
  routes : RouteTable

/-- The graph and the local report of `ev_delivery_publish`. -/
structure Delivery (P ω : Type) where
  graph : DeliveryGraph P ω
  report : DeliveryReport := {}

namespace Delivery

def count (s : Delivery P ω) (metric : MetricId) : Delivery P ω :=
  { s with graph := { s.graph with toRouteGraph := s.graph.toRouteGraph.count metric } }

def visit (s : Delivery P ω) (visited : RouteVisit P) : Delivery P ω :=
  { s with graph := { s.graph with visits := s.graph.visits ++ [visited] } }

def setWorld (s : Delivery P ω) (w : World P ω) : Delivery P ω :=
  { s with graph := { s.graph with world := w } }

def setReport (s : Delivery P ω) (report : DeliveryReport) : Delivery P ω :=
  { s with report := report }

/-- `ev_delivery_emit_fault`. -/
def emitFault (s : Delivery P ω) (sourceActor targetActor : ActorId) (eventId : EventId)
    (result : Result) : Delivery P ω :=
  let fault : FaultPayload :=
    { faultId := .mailboxOverflow
      severity := .error
      sourceActor := sourceActor
      triggeringEvent := eventId
      arg0 := UInt32.ofInt targetActor.code
      arg1 := UInt32.ofInt (-result.code) }
  let s := { s with graph := { s.graph with toRouteGraph := s.graph.toRouteGraph.emitFault fault } }
  if result = .errFull then s.count .mailboxOverflow else s

/-- `ev_delivery_trace_timestamp_us`: zero without a clock or when it fails. -/
def traceTimestampUs (ports : DeliveryPorts P ω) (w : World P ω) : UInt32 × World P ω :=
  match ports.clock with
  | none => (0, w)
  | some now =>
    let out := now w.outside
    (if out.1 ≠ .ok then 0 else out.2.1.toUInt32, { w with outside := out.2.2 })

/-- `ev_delivery_trace`. -/
def trace (ports : DeliveryPorts P ω) (s : Delivery P ω) (route : Route) (msg : Msg P)
    (result : Result) : Delivery P ω :=
  let stamp := traceTimestampUs ports s.graph.world
  let out := s.graph.traceRing.record
    { timestampUs := stamp.1
      eventId := msg.eventId
      sourceActor := msg.sourceActor
      targetActor := route.targetActor
      result := result
      qos := route.qos
      queueDepth := 0
      flags := route.flags }
  let s := { s with graph := { s.graph with world := stamp.2, traceRing := out.2 } }
  if out.1 ≠ .ok then s.count .traceDropped else s

/-- `ev_delivery_record_mailbox_effect`. -/
def recordMailboxEffect (s : Delivery P ω) : MailboxDeliveryEffect → Delivery P ω
  | .coalesced =>
    (s.setReport { s.report with coalesced := s.report.coalesced + 1 }).count .qosCoalesced
  | .replaced => (s.setReport { s.report with replaced := s.report.replaced + 1 }).count .qosReplaced
  | .dropped =>
    (s.setReport { s.report with qosDropped := s.report.qosDropped + 1 }).count .qosDropped
  | .rejected =>
    s.setReport { s.report with mailboxPolicyRejected := s.report.mailboxPolicyRejected + 1 }
  | .posted => s

def addDropped (s : Delivery P ω) : Delivery P ω :=
  s.setReport { s.report with dropped := s.report.dropped + 1 }

def addDelivered (s : Delivery P ω) : Delivery P ω :=
  s.setReport { s.report with delivered := s.report.delivered + 1 }

/-- Only the first error is kept, with the actor it concerns. -/
def noteError (s : Delivery P ω) (error : Result) (target : ActorId) : Delivery P ω :=
  if s.report.firstError = .ok then
    s.setReport { s.report with firstError := error, firstFailedActor := target }
  else s

def concludeAttempt (s : Delivery P ω) (route : Route) (msg : Msg P) (result : Result)
    (effect : MailboxDeliveryEffect) : Result × Delivery P ω :=
  if result = .ok then
    if effect = .dropped then (.ok, (s.addDropped.count .deliveryFailed).count .postDropped)
    else (.ok, s.addDelivered.count .deliveryOk)
  else
    let s := s.addDropped.count .deliveryFailed
    if qosFailureIsDropAllowed route.qos then (.ok, s.count .postDropped)
    else
      (result, (s.noteError result route.targetActor).emitFault msg.sourceActor route.targetActor
        msg.eventId result)

/-- `ev_delivery_deliver_one`. -/
def deliverOne (ports : DeliveryPorts P ω) (s : Delivery P ω) (route : Route) (msg : Msg P) :
    Result × Delivery P ω :=
  let sendMsg := { msg with targetActor := route.targetActor }
  let s := (s.setReport { s.report with attempted := s.report.attempted + 1 }).count .deliveryAttempted
  let out := s.graph.world.deliver ports.callbacks route.targetActor sendMsg route.qos true
  let effect := (out.2.1.getD {}).effect
  let s := (s.setWorld out.2.2).visit (.attempted route sendMsg out.1 effect)
  let s := (trace ports s route sendMsg out.1).recordMailboxEffect effect
  s.concludeAttempt route msg out.1 effect

def matchRoute (s : Delivery P ω) : Delivery P ω :=
  s.setReport { s.report with matchedRoutes := s.report.matchedRoutes + 1 }

/-- A route whose actor the board does not have. -/
def skipDisabled (s : Delivery P ω) (entry : ActiveRoute) : Delivery P ω :=
  let report := s.report
  ((s.visit (.disabled entry)).setReport { report with
    dropped := report.dropped + 1
    optionalDisabledRoutes := report.optionalDisabledRoutes + 1
    optionalDisabledWatchdogRoutes :=
      if entry.route.targetActor = .watchdog then report.optionalDisabledWatchdogRoutes + 1
      else report.optionalDisabledWatchdogRoutes
    optionalDisabledNetworkRoutes :=
      if entry.route.targetActor = .network then report.optionalDisabledNetworkRoutes + 1
      else report.optionalDisabledNetworkRoutes }).count .routeDisabledSkipped

def reject (s : Delivery P ω) (entry : ActiveRoute) (msg : Msg P) : Delivery P ω :=
  let report := s.report
  let s := ((s.visit (.rejected entry)).setReport { report with
    dropped := report.dropped + 1
    rejectedRoutes := report.rejectedRoutes + 1 }).count .routeValidationRejected
  let s :=
    if entry.state = .rejectedQosConflict then
      (s.setReport { s.report with qosConflictRoutes := s.report.qosConflictRoutes + 1 }).count
        .routeQosConflict
    else s
  (s.emitFault msg.sourceActor entry.route.targetActor msg.eventId entry.reason).noteError
    entry.reason entry.route.targetActor

/-- The loop of `ev_delivery_publish_active` over the entries of a span. -/
def publishEntries (ports : DeliveryPorts P ω) (msg : Msg P) :
    List ActiveRoute → Result → Delivery P ω → Result × Delivery P ω
  | [], finalRc, s => (finalRc, s)
  | entry :: rest, finalRc, s =>
    if entry.route.eventId ≠ msg.eventId then publishEntries ports msg rest finalRc s
    else
      let s := s.matchRoute
      match entry.state with
      | .optionalDisabled => publishEntries ports msg rest finalRc (s.skipDisabled entry)
      | .enabled =>
        let out := deliverOne ports s entry.route msg
        if out.1 ≠ .ok ∧ qosFailureIsStrict entry.route.qos then out
        else publishEntries ports msg rest (if out.1 ≠ .ok then out.1 else finalRc) out.2
      | _ => publishEntries ports msg rest entry.reason (s.reject entry msg)

/-- The loop of `ev_delivery_publish_static` over the routes of a span. -/
def publishRoutes (ports : DeliveryPorts P ω) (msg : Msg P) :
    List Route → Result → Delivery P ω → Result × Delivery P ω
  | [], finalRc, s => (finalRc, s)
  | route :: rest, finalRc, s =>
    let out := deliverOne ports s route msg
    if out.1 ≠ .ok ∧ qosFailureIsStrict route.qos then out
    else publishRoutes ports msg rest (if out.1 ≠ .ok then out.1 else finalRc) out.2

def publishActive (ports : DeliveryPorts P ω) (msg : Msg P) (s : Delivery P ω) :
    Result × Delivery P ω :=
  publishEntries ports msg (s.graph.activeRoutes.entriesForEvent msg.eventId) .ok s

def publishStatic (ports : DeliveryPorts P ω) (msg : Msg P) (s : Delivery P ω) :
    Result × Delivery P ω :=
  publishRoutes ports msg (ports.routes.routesForEvent msg.eventId) .ok
    (s.setReport { s.report with
      matchedRoutes := (ports.routes.spanForEvent msg.eventId).count })

/-- The end of `ev_delivery_publish`. -/
def conclude (finalRc : Result) (s : Delivery P ω) : Result × Delivery P ω :=
  if s.report.matchedRoutes = 0 then
    (.errNotFound,
      (s.setReport { s.report with firstError := .errNotFound }).count .deliveryFailed)
  else if finalRc = .ok then (finalRc, s.count .postOk)
  else (finalRc, s)

/-- `ev_delivery_publish`. -/
def publish (ports : DeliveryPorts P ω) (graph : DeliveryGraph P ω) (msg : Msg P) :
    Result × Delivery P ω :=
  let out :=
    if graph.activeRoutesBound then publishActive ports msg { graph := graph }
    else publishStatic ports msg { graph := graph }
  conclude out.1 out.2

end Delivery

end EventFramework
