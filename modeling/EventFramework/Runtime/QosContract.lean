import EventFramework.Runtime.Diagnostics

/-!
# Delivery contracts of routes and modules

`ev_qos_contract.c`, and of `ev_actor_modules.c` the part of a descriptor that route
validation reads. Every value of `RouteQos` has a contract.
-/

namespace EventFramework
set_option autoImplicit false

/-- The value of `ev_route_qos_t`. -/
def RouteQos.code : RouteQos → UInt32
  | .critical => 0
  | .bestEffort => 1
  | .lossy => 2
  | .coalesced => 3
  | .latestOnly => 4
  | .wakeupCritical => 5
  | .telemetry => 6
  | .command => 7

inductive QosFailureBehavior where
  | strict
  | dropAllowed
  | coalesce
  | replaceLatest
  deriving DecidableEq, Repr

structure QosContract where
  failureBehavior : QosFailureBehavior
  requiresReliableDelivery : Bool := false
  allowsDrop : Bool := false
  allowsCoalesce : Bool := false
  allowsLatestReplace : Bool := false
  wakeupRelevant : Bool := false
  commandRelevant : Bool := false
  telemetryRelevant : Bool := false
  deriving DecidableEq, Repr

def qosContractFor : RouteQos → QosContract
  | .critical => { failureBehavior := .strict, requiresReliableDelivery := true }
  | .wakeupCritical =>
    { failureBehavior := .strict, requiresReliableDelivery := true, wakeupRelevant := true }
  | .command =>
    { failureBehavior := .strict, requiresReliableDelivery := true, commandRelevant := true }
  | .bestEffort | .lossy => { failureBehavior := .dropAllowed, allowsDrop := true }
  | .telemetry => { failureBehavior := .dropAllowed, allowsDrop := true, telemetryRelevant := true }
  | .coalesced => { failureBehavior := .coalesce, allowsDrop := true, allowsCoalesce := true }
  | .latestOnly =>
    { failureBehavior := .replaceLatest, allowsDrop := true, allowsLatestReplace := true }

def qosFailureBehavior (qos : RouteQos) : QosFailureBehavior := (qosContractFor qos).failureBehavior

def qosFailureIsDropAllowed (qos : RouteQos) : Bool := qosFailureBehavior qos != .strict

def qosFailureIsStrict (qos : RouteQos) : Bool := qosFailureBehavior qos == .strict

theorem dropAllowed_eq_not_strict (qos : RouteQos) :
    qosFailureIsDropAllowed qos = !qosFailureIsStrict qos := by
  cases qos <;> rfl

/-- The part of `ev_actor_module_descriptor_t` that decides the state of a route. -/
structure ActorModule where
  requiredBoardCapabilities : UInt32 := 0
  requiredRuntimeCapabilities : UInt32 := 0
  routePolicyFlags : UInt32 := 0
  deriving DecidableEq, Repr

/-- The descriptors of `config/modules.def`, found by actor. -/
def actorModuleFind : ActorId → Option ActorModule
  | .boot | .stream | .app | .supervisor => some {}
  | .runtime => some { requiredRuntimeCapabilities := 0x8000 }
  | .diag | .metrics => some { requiredBoardCapabilities := 0x2000 }
  | .oled => some { requiredBoardCapabilities := 0x1 ||| 0x80 }
  | .rtc => some { requiredBoardCapabilities := 0x1 ||| 0x40 }
  | .ds18b20 => some { requiredBoardCapabilities := 0x2 ||| 0x100 }
  | .bh1750 => some { requiredBoardCapabilities := 0x1 ||| 0x400 }
  | .panel => some { requiredBoardCapabilities := 0x800 }
  | .mcp23008 => some { requiredBoardCapabilities := 0x1 ||| 0x200 }
  | .power =>
    some { requiredBoardCapabilities := 0x10000, routePolicyFlags := RouteQos.wakeupCritical.code }
  | .watchdog => some { requiredBoardCapabilities := 0x8 }
  | .network =>
    some { requiredBoardCapabilities := 0x10, routePolicyFlags := RouteQos.telemetry.code }
  | .command =>
    some { requiredBoardCapabilities := 0x20, routePolicyFlags := RouteQos.command.code }
  | .fault => some { requiredBoardCapabilities := 0x1000 }
  | .none | .undeclared _ => none

/-- `ev_actor_module_route_policy_accepts_qos`. -/
def routePolicyAcceptsQos (module : ActorModule) (qos : RouteQos) : Bool :=
  let policy := module.routePolicyFlags
  if policy = 0 ∨ qos.code = policy then true
  else if policy = RouteQos.wakeupCritical.code ∧ qos = .critical then true
  else if policy = RouteQos.telemetry.code ∧
      (qos = .telemetry ∨ qos = .bestEffort ∨ qos = .lossy ∨ qos = .critical) then true
  else if policy = RouteQos.command.code ∧ (qos = .command ∨ qos = .critical) then true
  else false

/-- `ev_qos_validate_route_against_module`. -/
def validateRouteAgainstModule (route : Route) (module : ActorModule) : Result :=
  let contract := qosContractFor route.qos
  let policy := module.routePolicyFlags
  if !routePolicyAcceptsQos module route.qos then .errPolicy
  else if contract.wakeupRelevant ∧ policy ≠ RouteQos.wakeupCritical.code then .errPolicy
  else if contract.commandRelevant ∧ policy ≠ RouteQos.command.code then .errPolicy
  else if contract.telemetryRelevant ∧ policy ≠ RouteQos.telemetry.code then .errPolicy
  else .ok

end EventFramework
