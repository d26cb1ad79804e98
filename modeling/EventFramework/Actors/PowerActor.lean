import EventFramework.Actors.DevicePorts
import EventFramework.Runtime.PowerStateMachine

/-!
# The power actor

`ev_power_actor.c`: a sleep command arms the application or asks its quiescence guard, flushes
the log, prepares the platform and enters deep sleep. A failure undoes what was done. Each
stage is reported to a state machine that lives as long as the command; the history records its
answers.
-/

namespace EventFramework
set_option autoImplicit false

variable {P ω : Type}

def powerMaxSleepDurationMs : UInt32 := 86400000

def powerUsPerMs : UInt64 := 1000

def sysGotoSleepCmdSize : Nat := 4

inductive PowerSleepRejectReason where
  | none
  | unsupported
  | badPayload
  | badDuration
  | notQuiescent
  | logFlushFailed
  | prepareFailed
  | deepSleepFailed
  | armingFailed
  deriving DecidableEq, Repr

def PowerSleepRejectReason.toWord : PowerSleepRejectReason → UInt32
  | .none => 0
  | .unsupported => 1
  | .badPayload => 2
  | .badDuration => 3
  | .notQuiescent => 4
  | .logFlushFailed => 5
  | .prepareFailed => 6
  | .deepSleepFailed => 7
  | .armingFailed => 8

structure PowerQuiescenceReport where
  reason : PowerSleepRejectReason := .none
  pendingActorMessages : UInt32 := 0
  pendingIrqSamples : UInt32 := 0
  dueTimerCount : UInt32 := 0
  pendingOledFlush : UInt32 := 0
  pendingDs18b20Conversion : UInt32 := 0
  deriving DecidableEq, Repr

/-- `ev_system_port_t`; a missing function is a null pointer. -/
structure SystemPort (ω : Type) where
  prepareForSleep : Option (UInt64 → ω → Result × ω)
  cancelSleepPrepare : Option (ω → Result × ω)
  deepSleep : Option (UInt64 → ω → Result × ω)

/-- The part of `ev_log_port_t` that actors call. A record is written at the level
`EV_LOG_INFO`. -/
structure LogPort (ω : Type) where
  write : Option (String → String → ω → Result × ω)
  flush : Option (ω → Result × ω)

/-- The ports and hooks of a power actor. A guard and an arm hook return what the report holds
after them. A host build has no smoke markers. -/
structure PowerPorts (ω : Type) where
  system : Option (SystemPort ω)
  log : Option (LogPort ω)
  logTag : Option String
  quiescenceGuard : Option (UInt64 → ω → (Result × PowerQuiescenceReport) × ω)
  sleepArm : Option (UInt64 → ω → (Result × PowerQuiescenceReport) × ω)
  sleepDisarm : Option (ω → Result × ω)
  hostBuild : Bool

inductive PowerCall where
  | logWrite (tag message : String) (result : Result)
  | logFlush (result : Result)
  | quiescenceGuard (durationUs : UInt64) (result : Result) (report : PowerQuiescenceReport)
  | sleepArm (durationUs : UInt64) (result : Result) (report : PowerQuiescenceReport)
  | sleepDisarm (result : Result)
  | prepareForSleep (durationUs : UInt64) (result : Result)
  | cancelSleepPrepare (result : Result)
  | deepSleep (durationUs : UInt64) (result : Result)
  | machineStep (action : PowerAction) (result : Result)
  deriving DecidableEq

structure PowerActor where
  sleepRequestsSeen : UInt32 := 0
  sleepRequestsAccepted : UInt32 := 0
  sleepRequestsUnsupported : UInt32 := 0
  sleepRequestsRejected : UInt32 := 0
  prepareForSleepFailures : UInt32 := 0
  sleepQuiescenceFailures : UInt32 := 0
  sleepArmingFailures : UInt32 := 0
  sleepDisarmCalls : UInt32 := 0
  sleepDisarmFailures : UInt32 := 0
  transitionCount : UInt32 := 0
  lastState : PowerState := .active
  previousState : PowerState := .active
  lastTransitionAction : PowerAction := .wakeBoot
  lastTransitionError : Result := .ok
  lastTransitionReason : UInt32 := 0
  logFlushFailures : UInt32 := 0
  deepSleepFailures : UInt32 := 0
  badPayloadFailures : UInt32 := 0
  badDurationFailures : UInt32 := 0
  lastDurationUs : UInt64 := 0
  lastRejectReason : PowerSleepRejectReason := .none
  lastQuiescenceReport : PowerQuiescenceReport := {}
  deriving DecidableEq, Repr

abbrev PowerActorState (P ω : Type) := Running PowerActor P PowerCall ω

namespace PowerActor

/-- `ev_power_actor_init` gives the default values. -/
def init : PowerActor := {}

def recordTransition (ctx : PowerActor) (sm : PowerStateMachine) : PowerActor :=
  { ctx with
    lastState := sm.state
    previousState := sm.previousState
    transitionCount := sm.transitionCount
    lastTransitionAction := sm.lastAction
    lastTransitionError := sm.lastError
    lastTransitionReason := sm.lastReason }

def reject (ctx : PowerActor) (reason : PowerSleepRejectReason) : PowerActor :=
  { ctx with
    sleepRequestsRejected := ctx.sleepRequestsRejected + 1
    lastRejectReason := reason }

def log (ports : PowerPorts ω) (message : String) (s : PowerActorState P ω) :
    Result × PowerActorState P ω :=
  match ports.log.bind LogPort.write with
  | none => (.ok, s)
  | some write =>
    let tag := ports.logTag.getD "ev_power"
    s.call (write tag message) (.logWrite tag message)

def logSmokeMarker (ports : PowerPorts ω) (message : String) (s : PowerActorState P ω) :
    Result × PowerActorState P ω :=
  if ports.hostBuild then (.ok, s) else log ports message s

def stateMarker : PowerState → String
  | .active => "EV_POWER_SMOKE_STATE ACTIVE"
  | .sleepRequested => "EV_POWER_SMOKE_STATE SLEEP_REQUESTED"
  | .drainingRuntime => "EV_POWER_SMOKE_STATE DRAINING_RUNTIME"
  | .logFlushing => "EV_POWER_SMOKE_STATE LOG_FLUSHING"
  | .portsPrepareSleep => "EV_POWER_SMOKE_STATE PORTS_PREPARE_SLEEP"
  | .rtcStateSaved => "EV_POWER_SMOKE_STATE RTC_STATE_SAVED"
  | .enteringDeepSleep => "EV_POWER_SMOKE_STATE ENTERING_DEEP_SLEEP"
  | .wakeBoot => "EV_POWER_SMOKE_STATE WAKE_BOOT"
  | .rejected => "EV_POWER_SMOKE_STATE REJECTED"
  | .failed => "EV_POWER_SMOKE_STATE FAILED"

def logStateMarker (ports : PowerPorts ω) (state : PowerState) (s : PowerActorState P ω) :
    PowerActorState P ω :=
  (logSmokeMarker ports (stateMarker state) s).2

/-- `ev_power_actor_step`, whose result every caller ignores. -/
def stepMachine (ports : PowerPorts ω) (action : PowerAction) (result : Result)
    (reason : PowerSleepRejectReason) (sm : PowerStateMachine) (s : PowerActorState P ω) :
    PowerStateMachine × PowerActorState P ω :=
  let out := sm.step action (some { result := result, reason := reason.toWord })
  let s := s.note (.called (.machineStep action out.1))
  let s := s.setCtx (s.ctx.recordTransition out.2.2)
  (out.2.2, logStateMarker ports out.2.2.state s)

def flushLog (ports : PowerPorts ω) (s : PowerActorState P ω) : Result × PowerActorState P ω :=
  match ports.log.bind LogPort.flush with
  | none => (.ok, s)
  | some flush => s.call flush .logFlush

def runQuiescenceGuard (ports : PowerPorts ω) (durationUs : UInt64) (s : PowerActorState P ω) :
    Result × PowerActorState P ω :=
  match ports.quiescenceGuard with
  | none => (.ok, s)
  | some quiescenceGuard =>
    let out := s.call (quiescenceGuard durationUs) fun out =>
      .quiescenceGuard durationUs out.1 out.2
    let report := out.1.2
    let ctx := { out.2.ctx with lastQuiescenceReport := report }
    if out.1.1 ≠ .ok then
      let reason := if report.reason ≠ .none then report.reason else .notQuiescent
      (out.1.1, out.2.setCtx
        ({ ctx with sleepQuiescenceFailures := ctx.sleepQuiescenceFailures + 1 }.reject reason))
    else (.ok, out.2.setCtx ctx)

def anyPending (report : PowerQuiescenceReport) : Bool :=
  report.pendingActorMessages != 0 || report.pendingIrqSamples != 0 || report.dueTimerCount != 0 ||
    report.pendingOledFlush != 0 || report.pendingDs18b20Conversion != 0

def armSleep (ports : PowerPorts ω) (durationUs : UInt64) (s : PowerActorState P ω) :
    (Result × Bool) × PowerActorState P ω :=
  match ports.sleepArm with
  | none =>
    let out := runQuiescenceGuard ports durationUs s
    ((out.1, false), out.2)
  | some sleepArm =>
    let out := s.call (sleepArm durationUs) fun out => .sleepArm durationUs out.1 out.2
    let report := out.1.2
    let ctx := { out.2.ctx with lastQuiescenceReport := report }
    if out.1.1 ≠ .ok then
      let reason := if report.reason ≠ .none then report.reason else .armingFailed
      let failures :=
        if anyPending report then ctx.sleepQuiescenceFailures + 1 else ctx.sleepQuiescenceFailures
      ((out.1.1, false), out.2.setCtx
        ({ ctx with
          sleepArmingFailures := ctx.sleepArmingFailures + 1
          sleepQuiescenceFailures := failures }.reject reason))
    else ((.ok, true), out.2.setCtx ctx)

def disarmSleep (ports : PowerPorts ω) (s : PowerActorState P ω) : Result × PowerActorState P ω :=
  match ports.sleepDisarm with
  | none => (.ok, s)
  | some sleepDisarm =>
    let s := s.setCtx { s.ctx with sleepDisarmCalls := s.ctx.sleepDisarmCalls + 1 }
    let out := s.call sleepDisarm .sleepDisarm
    if out.1 ≠ .ok then
      (out.1, out.2.setCtx
        { out.2.ctx with sleepDisarmFailures := out.2.ctx.sleepDisarmFailures + 1 })
    else out

def disarmIf (ports : PowerPorts ω) (armed : Bool) (s : PowerActorState P ω) :
    PowerActorState P ω :=
  if armed then (disarmSleep ports s).2 else s

def cancelPlatformSleepPrepare (ports : PowerPorts ω) (s : PowerActorState P ω) :
    Result × PowerActorState P ω :=
  match ports.system.bind SystemPort.cancelSleepPrepare with
  | none => (.ok, s)
  | some cancelSleepPrepare => s.call cancelSleepPrepare .cancelSleepPrepare

/-- What follows the return of `deep_sleep`. -/
def finishSleep (ports : PowerPorts ω) (result : Result) (armed : Bool) (sm : PowerStateMachine)
    (s : PowerActorState P ω) : Result × PowerActorState P ω :=
  if result ≠ .ok then
    let s := s.setCtx
      { s.ctx with
        deepSleepFailures := s.ctx.deepSleepFailures + 1
        lastRejectReason := .deepSleepFailed }
    let s := (stepMachine ports .deepSleepFailed result .deepSleepFailed sm s).2
    let s := (cancelPlatformSleepPrepare ports s).2
    (result, disarmIf ports armed s)
  else
    let s := (stepMachine ports .deepSleepEntered .ok .none sm s).2
    (.ok, disarmIf ports armed s)

/-- From prepared ports on. -/
def enterDeepSleep (ports : PowerPorts ω) (deepSleep : UInt64 → ω → Result × ω)
    (durationUs : UInt64) (armed : Bool) (sm : PowerStateMachine) (s : PowerActorState P ω) :
    Result × PowerActorState P ω :=
  let prepared := stepMachine ports .portsPrepared .ok .none sm s
  let saved := stepMachine ports .rtcStateSaved .ok .none prepared.1 prepared.2
  let s := saved.2.setCtx
    { saved.2.ctx with sleepRequestsAccepted := saved.2.ctx.sleepRequestsAccepted + 1 }
  let s := (logSmokeMarker ports "EV_POWER_SMOKE_DEEP_SLEEP_ENTER" s).2
  let out := s.call (deepSleep durationUs) (.deepSleep durationUs)
  finishSleep ports out.1 armed saved.1 out.2

/-- From a flushed log on. -/
def preparePorts (ports : PowerPorts ω) (deepSleep : UInt64 → ω → Result × ω)
    (durationUs : UInt64) (armed : Bool) (sm : PowerStateMachine) (s : PowerActorState P ω) :
    Result × PowerActorState P ω :=
  match ports.system.bind SystemPort.prepareForSleep with
  | none => enterDeepSleep ports deepSleep durationUs armed sm s
  | some prepareForSleep =>
    let out := s.call (prepareForSleep durationUs) (.prepareForSleep durationUs)
    if out.1 ≠ .ok then
      let s := out.2.setCtx
        ({ out.2.ctx with
          prepareForSleepFailures := out.2.ctx.prepareForSleepFailures + 1 }.reject .prepareFailed)
      let s := (stepMachine ports .portsPrepareFailed out.1 .prepareFailed sm s).2
      (out.1, disarmIf ports armed s)
    else enterDeepSleep ports deepSleep durationUs armed sm out.2

/-- From an armed application or a quiescent runtime on. -/
def drainLog (ports : PowerPorts ω) (deepSleep : UInt64 → ω → Result × ω)
    (durationUs : UInt64) (armed : Bool) (sm : PowerStateMachine) (s : PowerActorState P ω) :
    Result × PowerActorState P ω :=
  let drained := stepMachine ports .drainComplete .ok .none sm s
  let out := flushLog ports (log ports "System entering Deep Sleep" drained.2).2
  if out.1 ≠ .ok then
    let s := out.2.setCtx
      ({ out.2.ctx with
        logFlushFailures := out.2.ctx.logFlushFailures + 1 }.reject .logFlushFailed)
    let s := (stepMachine ports .logFlushFailed out.1 .logFlushFailed drained.1 s).2
    (out.1, disarmIf ports armed s)
  else
    let flushed := stepMachine ports .logFlushComplete .ok .none drained.1 out.2
    preparePorts ports deepSleep durationUs armed flushed.1 flushed.2

def durationUs (durationMs : UInt32) : UInt64 := durationMs.toUInt64 * powerUsPerMs

def requestSleep (ports : PowerPorts ω) (durationMs : UInt32) (s : PowerActorState P ω) :
    Result × PowerActorState P ω :=
  let s := s.setCtx { s.ctx with sleepRequestsSeen := s.ctx.sleepRequestsSeen + 1 }
  let s := (logSmokeMarker ports "EV_POWER_SMOKE_SLEEP_REQUEST" s).2
  let s := s.setCtx
    { s.ctx with
      lastDurationUs := durationUs durationMs
      lastRejectReason := .none
      lastQuiescenceReport := {} }
  let requested := stepMachine ports .requestSleep .ok .none {} s
  match ports.system.bind SystemPort.deepSleep with
  | none =>
    let s := requested.2.setCtx
      { requested.2.ctx with
        sleepRequestsUnsupported := requested.2.ctx.sleepRequestsUnsupported + 1
        lastRejectReason := .unsupported }
    (.ok, (stepMachine ports .drainRejected .errUnsupported .unsupported requested.1 s).2)
  | some deepSleep =>
    let out := armSleep ports (durationUs durationMs) requested.2
    if out.1.1 ≠ .ok then
      (out.1.1, (stepMachine ports .drainRejected out.1.1 out.2.ctx.lastRejectReason requested.1
        out.2).2)
    else drainLog ports deepSleep (durationUs durationMs) out.1.2 requested.1 out.2

/-- The `duration_ms` of a command with a payload of the right size. -/
def commandDuration (msg : Inbound) : Option UInt32 :=
  msg.payload.bind fun memory =>
    if msg.payloadSize ≠ sysGotoSleepCmdSize then none else some (wordAt memory 0)

def handle (ports : PowerPorts ω) (s : PowerActorState P ω) (msg : Inbound) :
    Result × PowerActorState P ω :=
  match msg.eventId with
  | .sysGotoSleepCmd =>
    match commandDuration msg with
    | none =>
      (.errContract, s.setCtx
        ({ s.ctx with badPayloadFailures := s.ctx.badPayloadFailures + 1 }.reject .badPayload))
    | some durationMs =>
      if durationMs = 0 ∨ powerMaxSleepDurationMs < durationMs then
        (.errOutOfRange, s.setCtx
          ({ s.ctx with badDurationFailures := s.ctx.badDurationFailures + 1 }.reject .badDuration))
      else requestSleep ports durationMs s
  | _ => (.errContract, s)

def step (ports : PowerPorts ω) : PowerActorState P ω → Inbound → PowerActorState P ω :=
  Running.step (handle ports)

end PowerActor

end EventFramework
