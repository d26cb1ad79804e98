import EventFramework.Core.Catalog

/-!
# The static route table

`ev_route_table.c` and the table that `tools/routegen` writes from `config/routes.def`.
A table is a parameter of the functions that read it; `RouteTable.generated` is the one
of the repository.
-/

namespace EventFramework
set_option autoImplicit false

structure Route where
  eventId : EventId
  targetActor : ActorId
  qos : RouteQos := .critical
  priority : UInt8 := 0
  flags : UInt32 := 0
  deriving DecidableEq, Repr

structure RouteSpan where
  startIndex : Nat := 0
  count : Nat := 0
  deriving DecidableEq, Repr

/-- The span lies inside a table of `routes` entries. -/
def RouteSpan.isValid (span : RouteSpan) (routes : Nat) : Bool :=
  span.startIndex ≤ routes && span.count ≤ routes - span.startIndex

/-- `k_ev_route_table_generated` and `k_ev_route_spans_generated`. -/
structure RouteTable where
  routes : List Route
  spans : EventId → RouteSpan

namespace RouteTable

def spanForEvent (table : RouteTable) (eventId : EventId) : RouteSpan :=
  if !eventId.isValid then {}
  else if !(table.spans eventId).isValid table.routes.length then {}
  else table.spans eventId

def routesForEvent (table : RouteTable) (eventId : EventId) : List Route :=
  (table.routes.drop (table.spanForEvent eventId).startIndex).take
    (table.spanForEvent eventId).count

/-- Every span is a maximal run of its event, and an event with a route has one. -/
structure MaximalRuns (table : RouteTable) : Prop where
  valid : ∀ eventId, eventId.isValid = true →
    (table.spans eventId).isValid table.routes.length = true
  within : ∀ eventId, eventId.isValid = true → ∀ i route, table.routes[i]? = some route →
    (table.spans eventId).startIndex ≤ i →
    i < (table.spans eventId).startIndex + (table.spans eventId).count → route.eventId = eventId
  before : ∀ eventId, eventId.isValid = true → 0 < (table.spans eventId).count → ∀ i route,
    table.routes[i]? = some route → i + 1 = (table.spans eventId).startIndex →
    route.eventId ≠ eventId
  after : ∀ eventId, eventId.isValid = true → 0 < (table.spans eventId).count → ∀ i route,
    table.routes[i]? = some route →
    i = (table.spans eventId).startIndex + (table.spans eventId).count → route.eventId ≠ eventId
  present : ∀ eventId, eventId.isValid = true → (∃ route ∈ table.routes, route.eventId = eventId) →
    0 < (table.spans eventId).count

/-- The routes of one event with the default policy. -/
def critical (eventId : EventId) (targets : List ActorId) : List Route :=
  targets.map fun target => { eventId := eventId, targetActor := target }

def generated : RouteTable where
  routes :=
    critical .bootStarted [.diag] ++
    critical .bootCompleted [.diag, .app, .mcp23008, .rtc, .ds18b20, .bh1750, .oled, .supervisor] ++
    critical .tick1s [.diag, .app, .watchdog, .network, .command, .rtc, .oled, .supervisor] ++
    critical .streamChunkReady [.stream] ++
    critical .diagSnapshotReq [.diag] ++
    critical .diagSnapshotRsp [.app] ++
    critical .oledDisplayTextCmd [.oled] ++
    critical .oledCommitFrame [.oled] ++
    [{ eventId := .timeUpdated, targetActor := .app },
      { eventId := .timeUpdated, targetActor := .network, qos := .telemetry },
      { eventId := .tempUpdated, targetActor := .app },
      { eventId := .tempUpdated, targetActor := .network, qos := .telemetry },
      { eventId := .lightUpdated, targetActor := .app },
      { eventId := .lightUpdated, targetActor := .network, qos := .telemetry }] ++
    critical .tick100ms [.diag, .panel, .mcp23008, .ds18b20, .bh1750] ++
    critical .gpioIrq [.diag, .rtc] ++
    critical .mcp23008InputChanged [.panel, .network] ++
    critical .buttonEvent [.app] ++
    critical .panelLedSetCmd [.mcp23008] ++
    critical .mcp23008Ready [.diag, .rtc, .supervisor] ++
    critical .rtcReady [.supervisor] ++
    critical .oledReady [.supervisor] ++
    critical .ds18b20Ready [.supervisor] ++
    critical .bh1750Ready [.supervisor] ++
    critical .systemReady [.app] ++
    [{ eventId := .sysGotoSleepCmd, targetActor := .power, qos := .wakeupCritical }] ++
    critical .netWifiUp [.network] ++
    critical .netWifiDown [.network] ++
    critical .netMqttUp [.network] ++
    critical .netMqttDown [.network] ++
    [{ eventId := .netMqttMsgRx, targetActor := .network },
      { eventId := .netMqttMsgRx, targetActor := .command, qos := .command },
      { eventId := .netMqttMsgRxLease, targetActor := .network },
      { eventId := .netMqttMsgRxLease, targetActor := .command, qos := .command }] ++
    critical .netTxCmd [.network] ++
    critical .faultReported [.fault]
  spans
    | .bootStarted => ⟨0, 1⟩
    | .bootCompleted => ⟨1, 8⟩
    | .tick1s => ⟨9, 8⟩
    | .streamChunkReady => ⟨17, 1⟩
    | .diagSnapshotReq => ⟨18, 1⟩
    | .diagSnapshotRsp => ⟨19, 1⟩
    | .oledDisplayTextCmd => ⟨20, 1⟩
    | .oledCommitFrame => ⟨21, 1⟩
    | .timeUpdated => ⟨22, 2⟩
    | .tempUpdated => ⟨24, 2⟩
    | .lightUpdated => ⟨26, 2⟩
    | .tick100ms => ⟨28, 5⟩
    | .gpioIrq => ⟨33, 2⟩
    | .mcp23008InputChanged => ⟨35, 2⟩
    | .buttonEvent => ⟨37, 1⟩
    | .panelLedSetCmd => ⟨38, 1⟩
    | .mcp23008Ready => ⟨39, 3⟩
    | .rtcReady => ⟨42, 1⟩
    | .oledReady => ⟨43, 1⟩
    | .ds18b20Ready => ⟨44, 1⟩
    | .bh1750Ready => ⟨45, 1⟩
    | .systemReady => ⟨46, 1⟩
    | .sysGotoSleepCmd => ⟨47, 1⟩
    | .netWifiUp => ⟨48, 1⟩
    | .netWifiDown => ⟨49, 1⟩
    | .netMqttUp => ⟨50, 1⟩
    | .netMqttDown => ⟨51, 1⟩
    | .netMqttMsgRx => ⟨52, 2⟩
    | .netMqttMsgRxLease => ⟨54, 2⟩
    | .netTxCmd => ⟨56, 1⟩
    | .faultReported => ⟨57, 1⟩
    | _ => ⟨0, 0⟩

/-- Spans that hold exactly the indices of their event are maximal runs. -/
theorem maximalRuns_of_exact {table : RouteTable}
    (hvalid : ∀ eventId, eventId.isValid = true →
      (table.spans eventId).isValid table.routes.length = true)
    (hexact : ∀ eventId, eventId.isValid = true → ∀ i route, table.routes[i]? = some route →
      (route.eventId = eventId ↔ (table.spans eventId).startIndex ≤ i ∧
        i < (table.spans eventId).startIndex + (table.spans eventId).count)) :
    table.MaximalRuns where
  valid := hvalid
  within eventId he i route hroute hlo hhi := (hexact eventId he i route hroute).mpr ⟨hlo, hhi⟩
  before eventId he _ i route hroute hi h := by
    have := ((hexact eventId he i route hroute).mp h).1
    omega
  after eventId he _ i route hroute hi h := by
    have := ((hexact eventId he i route hroute).mp h).2
    omega
  present eventId he h := by
    obtain ⟨route, hmem, hid⟩ := h
    obtain ⟨i, hroute⟩ := List.mem_iff_getElem?.mp hmem
    have := (hexact eventId he i route hroute).mp hid
    omega

def exactFor (table : RouteTable) (eventId : EventId) : Bool :=
  (table.spans eventId).isValid table.routes.length &&
    table.routes.zipIdx.all fun entry =>
      (entry.1.eventId == eventId) ==
        (decide ((table.spans eventId).startIndex ≤ entry.2) &&
          decide (entry.2 < (table.spans eventId).startIndex + (table.spans eventId).count))

theorem maximalRuns_of_exactFor {table : RouteTable}
    (h : ∀ eventId, eventId.isValid = true → table.exactFor eventId = true) :
    table.MaximalRuns := by
  refine maximalRuns_of_exact ?_ ?_
  · intro eventId he
    exact (Bool.and_eq_true_iff.mp (h eventId he)).1
  · intro eventId he i route hroute
    have hall := List.all_eq_true.mp (Bool.and_eq_true_iff.mp (h eventId he)).2 (route, i)
      (List.mem_zipIdx_iff_getElem?.mpr hroute)
    rw [beq_iff_eq, Bool.eq_iff_iff] at hall
    simpa using hall

theorem generated_maximalRuns : generated.MaximalRuns := by
  refine maximalRuns_of_exactFor ?_
  intro eventId he
  cases eventId with
  | undeclared raw => exact absurd he (by simp [EventId.isValid, eventMeta])
  | _ => decide +kernel

end RouteTable

end EventFramework
