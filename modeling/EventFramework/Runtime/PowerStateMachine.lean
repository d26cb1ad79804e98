import EventFramework.Core.Catalog

/-!
# The power state machine

`ev_power_state_machine.c`: the stages of a sleep attempt and the actions that lead from one to
the next. An action that the present state does not allow is refused and recorded.
-/

namespace EventFramework
set_option autoImplicit false

inductive PowerState where
  | active
  | sleepRequested
  | drainingRuntime
  | logFlushing
  | portsPrepareSleep
  | rtcStateSaved
  | enteringDeepSleep
  | wakeBoot
  | rejected
  | failed
  deriving DecidableEq, Repr

inductive PowerAction where
  | requestSleep
  | drainComplete
  | drainRejected
  | logFlushComplete
  | logFlushFailed
  | portsPrepared
  | portsPrepareFailed
  | rtcStateSaved
  | rtcStateSaveFailed
  | deepSleepEntered
  | deepSleepFailed
  | wakeBoot
  deriving DecidableEq, Repr

structure PowerTransitionInput where
  result : Result
  reason : UInt32
  deriving DecidableEq, Repr

structure PowerTransitionReport where
  previousState : PowerState
  newState : PowerState
  action : PowerAction
  result : Result
  reason : UInt32
  deriving DecidableEq, Repr

/-- `ev_power_state_machine_init` gives the default values. -/
structure PowerStateMachine where
  state : PowerState := .active
  previousState : PowerState := .active
  lastAction : PowerAction := .requestSleep
  lastError : Result := .ok
  lastReason : UInt32 := 0
  transitionCount : UInt32 := 0
  deriving DecidableEq, Repr

/-- `ev_power_transition_allowed`: the state an action leads to. -/
def powerTransitionAllowed (source : PowerState) : PowerAction → Option PowerState
  | .requestSleep => if source = .active then some .sleepRequested else none
  | .drainComplete => if source = .sleepRequested then some .drainingRuntime else none
  | .drainRejected =>
    if source = .sleepRequested ∨ source = .drainingRuntime then some .rejected else none
  | .logFlushComplete => if source = .drainingRuntime then some .logFlushing else none
  | .logFlushFailed =>
    if source = .drainingRuntime ∨ source = .logFlushing then some .failed else none
  | .portsPrepared => if source = .logFlushing then some .portsPrepareSleep else none
  | .portsPrepareFailed =>
    if source = .logFlushing ∨ source = .portsPrepareSleep then some .failed else none
  | .rtcStateSaved => if source = .portsPrepareSleep then some .rtcStateSaved else none
  | .rtcStateSaveFailed => if source = .portsPrepareSleep then some .failed else none
  | .deepSleepEntered => if source = .rtcStateSaved then some .enteringDeepSleep else none
  | .deepSleepFailed =>
    if source = .rtcStateSaved ∨ source = .enteringDeepSleep then some .failed else none
  | .wakeBoot =>
    if source = .wakeBoot ∨ source = .enteringDeepSleep ∨ source = .failed ∨ source = .rejected then
      some .active
    else none

namespace PowerStateMachine

/-- `ev_power_state_machine_step`; without an input, the result is `EV_OK` and the reason 0. -/
def step (sm : PowerStateMachine) (action : PowerAction) (input : Option PowerTransitionInput) :
    Result × PowerTransitionReport × PowerStateMachine :=
  let inputResult := (input.map PowerTransitionInput.result).getD .ok
  let inputReason := (input.map PowerTransitionInput.reason).getD 0
  match powerTransitionAllowed sm.state action with
  | none =>
    (.errState,
      { previousState := sm.state, newState := sm.state, action := action, result := .errState
        reason := inputReason },
      { sm with
        previousState := sm.state
        lastAction := action
        lastError := .errState
        lastReason := inputReason })
  | some nextState =>
    (.ok,
      { previousState := sm.state, newState := nextState, action := action, result := inputResult
        reason := inputReason },
      { state := nextState
        previousState := sm.state
        lastAction := action
        lastError := inputResult
        lastReason := inputReason
        transitionCount := sm.transitionCount + 1 })

theorem step_allowed {sm : PowerStateMachine} {action : PowerAction} {next : PowerState}
    (h : powerTransitionAllowed sm.state action = some next) (input : Option PowerTransitionInput) :
    (sm.step action input).1 = .ok ∧ (sm.step action input).2.2.state = next := by
  unfold step
  rw [h]
  exact ⟨rfl, rfl⟩

end PowerStateMachine

end EventFramework
