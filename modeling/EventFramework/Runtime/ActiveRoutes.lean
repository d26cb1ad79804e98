import EventFramework.Runtime.QosContract

/-!
# The active route table

`ev_active_route_table.c`, and of `ev_runtime_graph.c` the functions that fill the table
from the static routes.
-/

namespace EventFramework
set_option autoImplicit false

inductive ActiveRouteState where
  | enabled
  | optionalDisabled
  | rejectedInvalidEvent
  | rejectedInvalidActor
  | rejectedMissingMandatoryActor
  | rejectedQosConflict
  | rejectedOverflow
  deriving DecidableEq, Repr

def ActiveRouteState.isRejected (state : ActiveRouteState) : Bool :=
  state != .enabled && state != .optionalDisabled

structure ActiveRoute where
  route : Route
  state : ActiveRouteState
  reason : Result
  deriving DecidableEq, Repr

namespace ActiveRoute

def enabled (route : Route) : ActiveRoute := ⟨route, .enabled, .ok⟩

def optionalDisabled (route : Route) : ActiveRoute := ⟨route, .optionalDisabled, .errNoCapability⟩

/-- A rejected route carries the error it was rejected with. -/
def Reasoned (entry : ActiveRoute) : Prop :=
  entry.state.isRejected = true → entry.reason ≠ .ok

theorem reasoned_of_ne {entry : ActiveRoute} (h : entry.reason ≠ .ok) : entry.Reasoned :=
  fun _ => h

theorem enabled_reasoned (route : Route) : (enabled route).Reasoned :=
  fun h => Bool.noConfusion h

end ActiveRoute

/-- `EV_ACTIVE_ROUTE_TABLE_CAPACITY`. -/
def activeRouteTableCapacity : Nat := 96

structure ActiveRouteTable where
  entries : List ActiveRoute := []
  spans : EventId → RouteSpan := fun _ => {}
  activeCount : Nat := 0
  optionalDisabledCount : Nat := 0
  rejectedCount : Nat := 0
  spansFinalized : Bool := false
  bounded : entries.length ≤ activeRouteTableCapacity := by decide

def ActiveRouteTable.empty : ActiveRouteTable := {}

def ActiveRouteTable.Reasoned (table : ActiveRouteTable) : Prop :=
  ∀ entry ∈ table.entries, entry.Reasoned

theorem ActiveRouteTable.empty_reasoned : ActiveRouteTable.empty.Reasoned :=
  fun _ hmem => absurd hmem List.not_mem_nil

/-- The locals of `ev_active_route_table_finalize_spans` and the spans it writes. -/
structure SpanScan where
  spans : EventId → RouteSpan := fun _ => {}
  closed : EventId → Bool := fun _ => false
  previous : Option EventId := none

namespace SpanScan

/-- The run of the previous event ends where another event follows. -/
def close (scan : SpanScan) (eventId : EventId) : EventId → Bool :=
  match scan.previous with
  | some previous =>
    if eventId ≠ previous then Function.update scan.closed previous true else scan.closed
  | none => scan.closed

/-- The entry at index `i`. -/
def visit (scan : SpanScan) (i : Nat) (eventId : EventId) : Result × SpanScan :=
  if !eventId.isValid then (.errOutOfRange, scan)
  else
    let closed := scan.close eventId
    let span := scan.spans eventId
    if span.count = 0 then
      if closed eventId then (.errContract, { scan with closed := closed })
      else
        (.ok, ⟨Function.update scan.spans eventId ⟨i, 1⟩, closed, some eventId⟩)
    else if closed eventId ∨ span.startIndex + span.count ≠ i then
      (.errContract, { scan with closed := closed })
    else
      (.ok, ⟨Function.update scan.spans eventId ⟨span.startIndex, span.count + 1⟩, closed,
        some eventId⟩)

def visitAll : Nat → List EventId → SpanScan → Result × SpanScan
  | _, [], scan => (.ok, scan)
  | i, eventId :: rest, scan =>
    let out := scan.visit i eventId
    if out.1 = .ok then visitAll (i + 1) rest out.2 else out

end SpanScan

/-- The spans hold exactly the indices at which their event stands. -/
def SpansExact (spans : EventId → RouteSpan) (events : List EventId) : Prop :=
  ∀ eventId i, events[i]? = some eventId ↔
    (spans eventId).startIndex ≤ i ∧ i < (spans eventId).startIndex + (spans eventId).count

namespace SpanScan

/-- An event with a span extends it; an event without one starts a span. -/
theorem visit_ok {scan scan' : SpanScan} {i : Nat} {eventId : EventId}
    (h : scan.visit i eventId = (.ok, scan')) :
    eventId.isValid = true ∧
      ((scan.spans eventId).count = 0 ∧
        scan'.spans = Function.update scan.spans eventId ⟨i, 1⟩ ∨
      0 < (scan.spans eventId).count ∧
        (scan.spans eventId).startIndex + (scan.spans eventId).count = i ∧
        scan'.spans = Function.update scan.spans eventId
          ⟨(scan.spans eventId).startIndex, (scan.spans eventId).count + 1⟩) := by
  unfold visit at h
  split at h
  · cases h
  · rename_i hvalid
    refine ⟨by simpa using hvalid, ?_⟩
    simp only at h
    split at h
    · rename_i hcount
      split at h
      · cases h
      · cases h
        exact Or.inl ⟨hcount, rfl⟩
    · rename_i hcount
      split at h
      · cases h
      · rename_i hrun
        cases h
        exact Or.inr ⟨Nat.pos_of_ne_zero hcount, not_not.mp (not_or.mp hrun).2, rfl⟩

theorem visit_exact {scan scan' : SpanScan} {events : List EventId} {eventId : EventId}
    (hexact : SpansExact scan.spans events)
    (h : scan.visit events.length eventId = (.ok, scan')) :
    SpansExact scan'.spans (events ++ [eventId]) := by
  obtain ⟨_, hcases⟩ := visit_ok h
  intro other j
  have hold := hexact other j
  have hend := hexact other events.length
  rw [List.getElem?_eq_none (Nat.le_refl _)] at hend
  simp only [reduceCtorEq, false_iff, not_and, Nat.not_lt] at hend
  have hat : (events ++ [eventId])[j]? = some other ↔
      events[j]? = some other ∨ j = events.length ∧ eventId = other := by
    rcases Nat.lt_trichotomy j events.length with hlt | rfl | hgt
    · rw [List.getElem?_append_left hlt]
      exact ⟨Or.inl, fun h => h.elim id fun h => absurd h.1 (Nat.ne_of_lt hlt)⟩
    · simp
    · rw [List.getElem?_eq_none (by simp; omega), List.getElem?_eq_none (Nat.le_of_lt hgt)]
      simp
      omega
  rw [hat, hold]
  by_cases hother : other = eventId
  · subst hother
    rcases hcases with ⟨hcount, hspans⟩ | ⟨hcount, hrun, hspans⟩
    · rw [hspans, Function.update_self]
      simp only [and_true]
      omega
    · rw [hspans, Function.update_self]
      simp only [and_true]
      omega
  · have hkept : scan'.spans other = scan.spans other := by
      rcases hcases with ⟨_, hspans⟩ | ⟨_, _, hspans⟩ <;>
        rw [hspans, Function.update_of_ne hother]
    rw [hkept]
    simp only [Ne.symm hother, and_false, or_false]

theorem visitAll_exact {rest : List EventId} : ∀ {events : List EventId} (scan : SpanScan)
    {scan' : SpanScan}, SpansExact scan.spans events → visitAll events.length rest scan = (.ok, scan') →
    SpansExact scan'.spans (events ++ rest) := by
  induction rest with
  | nil =>
    intro events scan scan' hexact h
    cases h
    rwa [List.append_nil]
  | cons eventId rest ih =>
    intro events scan scan' hexact h
    simp only [visitAll] at h
    split at h
    · rename_i hok
      have hnext := visit_exact hexact (Prod.ext hok rfl)
      have hlength : events.length + 1 = (events ++ [eventId]).length := by simp
      rw [hlength] at h
      simpa using ih _ hnext h
    · rename_i hfail
      exact absurd (congrArg Prod.fst h) hfail

end SpanScan

namespace ActiveRouteTable

def add (table : ActiveRouteTable) (entry : ActiveRoute) : Result × ActiveRouteTable :=
  if hfull : table.entries.length < activeRouteTableCapacity then
    (.ok, { table with
      entries := table.entries ++ [entry]
      spansFinalized := false
      activeCount := if entry.state = .enabled then table.activeCount + 1 else table.activeCount
      optionalDisabledCount :=
        if entry.state = .optionalDisabled then table.optionalDisabledCount + 1
        else table.optionalDisabledCount
      rejectedCount := if entry.state.isRejected then table.rejectedCount + 1 else table.rejectedCount
      bounded := by rw [List.length_append]; exact hfull })
  else (.errFull, table)

/-- A failed scan leaves the spans it wrote, not finalized. -/
def finalizeSpans (table : ActiveRouteTable) : Result × ActiveRouteTable :=
  let out := SpanScan.visitAll 0 (table.entries.map fun entry => entry.route.eventId) {}
  (out.1, { table with spans := out.2.spans, spansFinalized := out.1 == .ok })

def spanForEvent (table : ActiveRouteTable) (eventId : EventId) : RouteSpan :=
  if !table.spansFinalized || !eventId.isValid then {}
  else if !(table.spans eventId).isValid table.entries.length then {}
  else table.spans eventId

def entriesForEvent (table : ActiveRouteTable) (eventId : EventId) : List ActiveRoute :=
  (table.entries.drop (table.spanForEvent eventId).startIndex).take
    (table.spanForEvent eventId).count

theorem add_ok {table : ActiveRouteTable} {entry : ActiveRoute} (h : (table.add entry).1 = .ok) :
    (table.add entry).2.entries = table.entries ++ [entry] := by
  unfold add at h ⊢
  split
  · rfl
  · rename_i hfull
    simp only [hfull, ↓reduceDIte, reduceCtorEq] at h

theorem Reasoned.add {table : ActiveRouteTable} {entry : ActiveRoute} (h : table.Reasoned)
    (hentry : entry.Reasoned) : (table.add entry).2.Reasoned := by
  unfold ActiveRouteTable.add
  split
  · intro other hmem
    rcases List.mem_append.mp hmem with hold | hnew
    · exact h other hold
    · rw [List.mem_singleton.mp hnew]
      exact hentry
  · exact h

theorem finalizeSpans_ok {table : ActiveRouteTable} (h : table.finalizeSpans.1 = .ok) :
    table.finalizeSpans.2.entries = table.entries ∧
      table.finalizeSpans.2.spansFinalized = true ∧
      SpansExact table.finalizeSpans.2.spans
        (table.entries.map fun entry => entry.route.eventId) := by
  have hempty : SpansExact (fun _ => {}) [] := by
    intro eventId i
    simp
  refine ⟨rfl, beq_iff_eq.mpr h, ?_⟩
  have hscan := SpanScan.visitAll_exact {} hempty (Prod.ext h rfl)
  rwa [List.nil_append] at hscan

end ActiveRouteTable

/-- The part of `ev_runtime_builder_t` that route binding reads and writes. -/
structure RouteBuilder where
  requested : ActorId → Bool
  boardCaps : UInt32
  runtimeCaps : UInt32
  routeValidationFlags : UInt32 := 0
  lastError : Result := .ok

/-- The part of the graph that route binding reads and writes. Only the binding adds to the table,
so a rejected route of a graph has its reason. -/
structure RouteGraph where
  activeRoutes : ActiveRouteTable := .empty
  activeRoutesBound : Bool := false
  faults : FaultRegistry := .empty
  metrics : MetricRegistry := {}
  reasoned : activeRoutes.Reasoned := by exact ActiveRouteTable.empty_reasoned

namespace RouteGraph

def count (graph : RouteGraph) (metric : MetricId) : RouteGraph :=
  { graph with metrics := graph.metrics.increment metric 1 }

@[simp] theorem count_activeRoutes (graph : RouteGraph) (metric : MetricId) :
    (graph.count metric).activeRoutes = graph.activeRoutes := rfl

/-- The graph after `ev_active_route_table_add`. -/
def addRoute (graph : RouteGraph) (entry : ActiveRoute) (h : entry.Reasoned) : RouteGraph :=
  { graph with
    activeRoutes := (graph.activeRoutes.add entry).2
    reasoned := graph.reasoned.add h }

@[simp] theorem addRoute_activeRoutes (graph : RouteGraph) (entry : ActiveRoute)
    (h : entry.Reasoned) : (graph.addRoute entry h).activeRoutes = (graph.activeRoutes.add entry).2 :=
  rfl

/-- A stored fault is counted. -/
def emitFault (graph : RouteGraph) (fault : FaultPayload) : RouteGraph :=
  let out := graph.faults.emit fault
  let graph := { graph with faults := out.2 }
  if out.1 = .ok then graph.count .faultEmitted else graph

@[simp] theorem emitFault_activeRoutes (graph : RouteGraph) (fault : FaultPayload) :
    (graph.emitFault fault).activeRoutes = graph.activeRoutes := by
  unfold emitFault
  simp only
  split <;> rfl

end RouteGraph

namespace RouteBuilder

/-- `EV_RUNTIME_ROUTE_VALIDATE_STRICT_MANDATORY`. -/
def validateStrictMandatory : UInt32 := 1

def isStrict (builder : RouteBuilder) : Bool :=
  builder.routeValidationFlags &&& validateStrictMandatory != 0

/-- `ev_runtime_builder_classify_route`: the entry with the state and the reason. -/
def classifyRoute (builder : RouteBuilder) (route : Route) : ActiveRoute :=
  if !route.eventId.isValid then ⟨route, .rejectedInvalidEvent, .errOutOfRange⟩
  else if !route.targetActor.isValid then ⟨route, .rejectedInvalidActor, .errOutOfRange⟩
  else match actorModuleFind route.targetActor with
    | none => ⟨route, .rejectedInvalidActor, .errNotFound⟩
    | some module =>
      if validateRouteAgainstModule route module ≠ .ok then
        ⟨route, .rejectedQosConflict, validateRouteAgainstModule route module⟩
      else if builder.requested route.targetActor then .enabled route
      else
        let missingBoard := module.requiredBoardCapabilities &&& ~~~builder.boardCaps
        let missingRuntime := module.requiredRuntimeCapabilities &&& ~~~builder.runtimeCaps
        if missingBoard ≠ 0 ∨ missingRuntime ≠ 0 ∨ !builder.isStrict then
          .optionalDisabled route
        else ⟨route, .rejectedMissingMandatoryActor, .errNotFound⟩

theorem classifyRoute_reasoned (builder : RouteBuilder) (route : Route) :
    (builder.classifyRoute route).Reasoned := by
  unfold classifyRoute
  split
  · exact ActiveRoute.reasoned_of_ne Result.noConfusion
  · split
    · exact ActiveRoute.reasoned_of_ne Result.noConfusion
    · split
      · exact ActiveRoute.reasoned_of_ne Result.noConfusion
      · split
        · rename_i hqos
          exact ActiveRoute.reasoned_of_ne hqos
        · split
          · exact ActiveRoute.enabled_reasoned route
          · simp only
            split
            · exact ActiveRoute.reasoned_of_ne Result.noConfusion
            · exact ActiveRoute.reasoned_of_ne Result.noConfusion

def routeFaultId : ActiveRouteState → FaultId
  | .rejectedQosConflict => .routeQosConflict
  | .rejectedMissingMandatoryActor => .routeMissingCriticalTarget
  | .rejectedOverflow => .activeRouteTableOverflow
  | _ => .routeValidationRejected

/-- `ev_runtime_builder_emit_route_fault`. -/
def routeFault (entry : ActiveRoute) : FaultPayload where
  faultId := routeFaultId entry.state
  severity := if entry.state = .rejectedMissingMandatoryActor then .critical else .error
  sourceActor := .runtime
  triggeringEvent := entry.route.eventId
  arg0 := UInt32.ofInt entry.route.targetActor.code
  arg1 := UInt32.ofInt (-entry.reason.code)

/-- A route that did not fit; the second attempt to add it fails as well. -/
def overflowed (graph : RouteGraph) (route : Route) : RouteGraph :=
  let entry : ActiveRoute := ⟨route, .rejectedOverflow, .errFull⟩
  let graph := graph.addRoute entry (ActiveRoute.reasoned_of_ne Result.noConfusion)
  (graph.count .routeActiveTableOverflow).emitFault (routeFault entry)

def recorded (graph : RouteGraph) (entry : ActiveRoute) : RouteGraph :=
  if entry.state = .optionalDisabled then graph.count .routeOptionalDisabled
  else if entry.state ≠ .enabled then
    let graph := graph.count .routeValidationRejected
    let graph := if entry.state = .rejectedQosConflict then graph.count .routeQosConflict else graph
    graph.emitFault (routeFault entry)
  else graph

/-- The loop of `ev_runtime_builder_bind_routes`; an error ends it. -/
def bindLoop (builder : RouteBuilder) : List Route → RouteGraph → Result × RouteGraph
  | [], graph => (.ok, graph)
  | route :: rest, graph =>
    let entry := builder.classifyRoute route
    let added := graph.activeRoutes.add entry
    if added.1 ≠ .ok then (.errFull, overflowed graph route)
    else
      let graph := recorded (graph.addRoute entry (builder.classifyRoute_reasoned route)) entry
      if entry.state.isRejected ∧ builder.isStrict then (entry.reason, graph)
      else bindLoop builder rest graph

def bindRoutes (builder : RouteBuilder) (table : RouteTable) (graph : RouteGraph) :
    Result × RouteBuilder × RouteGraph :=
  let bound := bindLoop builder table.routes
    { graph with
      activeRoutesBound := false
      activeRoutes := {}
      reasoned := ActiveRouteTable.empty_reasoned }
  if bound.1 ≠ .ok then (bound.1, { builder with lastError := bound.1 }, bound.2)
  else
    let finalized := bound.2.activeRoutes.finalizeSpans
    let graph := { bound.2 with activeRoutes := finalized.2, reasoned := bound.2.reasoned }
    if finalized.1 ≠ .ok then (finalized.1, { builder with lastError := finalized.1 }, graph)
    else (.ok, builder, { graph with activeRoutesBound := true })

@[simp] theorem recorded_activeRoutes (graph : RouteGraph) (entry : ActiveRoute) :
    (recorded graph entry).activeRoutes = graph.activeRoutes := by
  unfold recorded
  split
  · rfl
  · split
    · simp only [RouteGraph.emitFault_activeRoutes]
      split <;> rfl
    · rfl

theorem classifyRoute_route (builder : RouteBuilder) (route : Route) :
    (builder.classifyRoute route).route = route := by
  unfold classifyRoute
  split
  · rfl
  · split
    · rfl
    · split
      · rfl
      · split
        · rfl
        · split
          · rfl
          · simp only
            split <;> rfl

theorem bindLoop_ok (builder : RouteBuilder) {routes : List Route} :
    ∀ {graph graph' : RouteGraph}, bindLoop builder routes graph = (.ok, graph') →
      graph'.activeRoutes.entries =
        graph.activeRoutes.entries ++ routes.map builder.classifyRoute := by
  induction routes with
  | nil =>
    intro graph graph' h
    cases h
    simp
  | cons route rest ih =>
    intro graph graph' h
    simp only [bindLoop] at h
    split at h
    · cases h
    · rename_i hadd
      split at h
      · rename_i hrejected
        exact absurd (congrArg Prod.fst h) (builder.classifyRoute_reasoned route hrejected.1)
      · rw [ih h, recorded_activeRoutes, RouteGraph.addRoute_activeRoutes,
          ActiveRouteTable.add_ok (not_not.mp hadd)]
        simp

/-- After a successful binding the active table lists the static routes in order, each with its
classification, and its spans are exact. -/
theorem bindRoutes_ok {builder builder' : RouteBuilder} {table : RouteTable}
    {graph graph' : RouteGraph} (h : builder.bindRoutes table graph = (.ok, builder', graph')) :
    graph'.activeRoutesBound = true ∧ graph'.activeRoutes.spansFinalized = true ∧
      graph'.activeRoutes.entries = table.routes.map builder.classifyRoute ∧
      SpansExact graph'.activeRoutes.spans (table.routes.map Route.eventId) := by
  unfold bindRoutes at h
  simp only at h
  split at h
  · rename_i hfail
    exact absurd (congrArg Prod.fst h) hfail
  · rename_i hloop
    split at h
    · rename_i hfail
      exact absurd (congrArg Prod.fst h) hfail
    · rename_i hfinal
      have hentries := bindLoop_ok builder (Prod.ext (not_not.mp hloop) rfl)
      obtain ⟨hkept, hflag, hexact⟩ := ActiveRouteTable.finalizeSpans_ok (not_not.mp hfinal)
      have hgraph := (Prod.ext_iff.mp (Prod.ext_iff.mp h).2).2
      subst hgraph
      refine ⟨rfl, hflag, ?_, ?_⟩
      · rw [hkept, hentries]
        simp
      · rw [hentries] at hexact
        have hmap : (List.map (fun entry : ActiveRoute => entry.route.eventId)
            (table.routes.map builder.classifyRoute)) = table.routes.map Route.eventId := by
          rw [List.map_map]
          exact List.map_congr_left fun route _ =>
            congrArg Route.eventId (classifyRoute_route builder route)
        simpa [hmap] using hexact

end RouteBuilder

end EventFramework
