import EventFramework.Core.RouteTable
import Mathlib.Logic.Function.Basic

/-!
# Faults, metrics and traces

`ev_fault_bus.c`, `ev_metrics_registry.c` and `ev_trace_ring.c`.
-/

namespace EventFramework
set_option autoImplicit false

/-- The value of `ev_result_t`. -/
def Result.code : Result → Int
  | .ok => 0
  | .errInvalidArg => -1
  | .errOutOfRange => -2
  | .errNotFound => -3
  | .errState => -4
  | .errContract => -5
  | .errFull => -6
  | .errEmpty => -7
  | .errUnsupported => -8
  | .errPartial => -9
  | .errNoCapability => -10
  | .errAuth => -11
  | .errPolicy => -12
  | .errTimeout => -13
  | .errNotReady => -14

/-- The value of `ev_actor_id_t`. -/
def ActorId.code : ActorId → Int
  | .none => -1
  | .undeclared raw => raw
  | id => actorCatalog.idxOf id

inductive FaultId where
  | none
  | poolExhausted
  | mailboxOverflow
  | i2cBusStuck
  | actorHandlerFailure
  | invalidRouteQos
  | commandAuthFailed
  | commandAuthzFailed
  | sleepRejected
  | networkBackpressure
  | routeValidationRejected
  | routeMissingCriticalTarget
  | routeQosConflict
  | activeRouteTableOverflow
  deriving DecidableEq, Repr

inductive FaultSeverity where
  | info
  | warning
  | error
  | critical
  deriving DecidableEq, Repr

structure FaultPayload where
  faultId : FaultId := .none
  severity : FaultSeverity := .info
  sourceActor : ActorId := .boot
  triggeringEvent : EventId := .bootStarted
  sourceModule : UInt32 := 0
  timestampMs : UInt32 := 0
  arg0 : UInt32 := 0
  arg1 : UInt32 := 0
  counter : UInt32 := 0
  flags : UInt32 := 0
  deriving DecidableEq, Repr

/-- `EV_FAULT_STORE_CAPACITY`. -/
def faultStoreCapacity : Nat := 16

structure FaultRegistry where
  records : List FaultPayload := []
  emitted : UInt32 := 0
  coalesced : UInt32 := 0
  dropped : UInt32 := 0
  bounded : records.length ≤ faultStoreCapacity := by decide

namespace FaultRegistry

def empty : FaultRegistry := {}

def sameKey (a b : FaultPayload) : Bool :=
  a.faultId == b.faultId && a.sourceActor == b.sourceActor && a.triggeringEvent == b.triggeringEvent

def repeated (record : FaultPayload) : FaultPayload := { record with counter := record.counter + 1 }

def emit (registry : FaultRegistry) (payload : FaultPayload) : Result × FaultRegistry :=
  match registry.records.findIdx? (sameKey · payload) with
  | some index =>
    (.ok, { registry with
      records := registry.records.modify index repeated
      coalesced := registry.coalesced + 1
      emitted := registry.emitted + 1
      bounded := by rw [List.length_modify]; exact registry.bounded })
  | none =>
    if hfull : registry.records.length < faultStoreCapacity then
      (.ok, { registry with
        records := registry.records ++ [{ payload with counter := 1 }]
        emitted := registry.emitted + 1
        bounded := by rw [List.length_append]; exact hfull })
    else
      (.errFull, { registry with
        dropped := registry.dropped + 1, emitted := registry.emitted + 1 })

/-- The records that `ev_fault_drain` copies out. -/
def drained (registry : FaultRegistry) (maxRecords : Nat) : List FaultPayload :=
  registry.records.take maxRecords

/-- The registry after `ev_fault_drain`. -/
def drain (registry : FaultRegistry) (maxRecords : Nat) : FaultRegistry :=
  { registry with
    records := registry.records.drop maxRecords
    bounded := by
      rw [List.length_drop]
      exact (Nat.sub_le ..).trans registry.bounded }

def ackAll (registry : FaultRegistry) : FaultRegistry := { registry with records := [], bounded := by decide }

end FaultRegistry

inductive MetricId where
  | postOk
  | postDropped
  | mailboxHighWater
  | poolHighWater
  | deliveryAttempted
  | deliveryOk
  | deliveryFailed
  | actorEnqueued
  | actorHandlerErrors
  | actorPendingHighWater
  | actorPumpCalls
  | actorPumpBudgetHits
  | domainPumpCalls
  | domainPumpEmpty
  | domainPumpBudgetHits
  | systemPumpCalls
  | systemPumpEmpty
  | systemPumpDomains
  | systemPumpMessages
  | systemPumpBudgetHits
  | mailboxOverflow
  | timerScheduled
  | timerCancelled
  | timerDue
  | timerPublished
  | quiescenceAccepted
  | quiescenceRejected
  | sleepAccepted
  | sleepRejected
  | faultEmitted
  | faultCoalesced
  | traceDropped
  | networkPublishAccepted
  | networkPublishRejected
  | networkPublishDropped
  | commandAccepted
  | commandRejected
  | commandAuthFailed
  | routeDisabledSkipped
  | routeValidationRejected
  | routeOptionalDisabled
  | routeQosConflict
  | qosCoalesced
  | qosReplaced
  | qosDropped
  | routeActiveTableOverflow
  | ingressHighWater
  | ingressDropped
  | networkOutboxHighWater
  deriving DecidableEq, Repr

structure MetricRegistry where
  values : MetricId → UInt32 := fun _ => 0

def MetricRegistry.increment (registry : MetricRegistry) (metric : MetricId) (delta : UInt32) :
    MetricRegistry :=
  { values := Function.update registry.values metric (registry.values metric + delta) }

structure TraceRecord where
  timestampUs : UInt32 := 0
  eventId : EventId := .bootStarted
  sourceActor : ActorId := .boot
  targetActor : ActorId := .boot
  result : Result := .ok
  qos : RouteQos := .critical
  queueDepth : UInt16 := 0
  flags : UInt32 := 0
  deriving DecidableEq, Repr

/-- `EV_TRACE_RING_CAPACITY`. -/
def traceRingCapacity : Nat := 32

structure TraceRing where
  records : Nat → TraceRecord := fun _ => {}
  head : Nat := 0
  count : Nat := 0
  dropped : UInt32 := 0

/-- `ev_trace_record`. A full ring overwrites its oldest record and still succeeds. -/
def TraceRing.record (ring : TraceRing) (record : TraceRecord) : Result × TraceRing :=
  if ring.count = traceRingCapacity then
    (.ok, { ring with
      records := Function.update ring.records ring.head record
      head := (ring.head + 1) % traceRingCapacity
      dropped := ring.dropped + 1 })
  else
    (.ok, { ring with
      records := Function.update ring.records ((ring.head + ring.count) % traceRingCapacity) record
      count := ring.count + 1 })

/-- `ev_trace_drain`: the records it copies out, in their order. -/
def TraceRing.drain : Nat → TraceRing → List TraceRecord × TraceRing
  | 0, ring => ([], ring)
  | maxRecords + 1, ring =>
    if ring.count = 0 then ([], ring)
    else
      let out := TraceRing.drain maxRecords { ring with
        head := (ring.head + 1) % traceRingCapacity
        count := ring.count - 1 }
      (ring.records ring.head :: out.1, out.2)

/-- `ev_trace_clear`. -/
def TraceRing.clear (ring : TraceRing) : TraceRing := { ring with head := 0, count := 0 }

end EventFramework
