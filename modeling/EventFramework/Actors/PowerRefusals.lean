import EventFramework.Actors.PowerActor
import EventFramework.Core.PumpStops

/-!
# The refusals of the power actor

The actor counts every sleep command that it does not carry out, and returns a failure for it. With
ports that do not fail with an empty or a partial result the failure is one that stops the pumps.
-/

namespace EventFramework
set_option autoImplicit false

variable {P ω : Type}

/-- Neither an empty nor a partial result. -/
def Result.Decisive (rc : Result) : Prop := rc ≠ .errEmpty ∧ rc ≠ .errPartial

theorem Result.decisive_ok : Result.ok.Decisive := ⟨by decide, by decide⟩

theorem Result.decisive_errState : Result.errState.Decisive := ⟨by decide, by decide⟩

theorem Result.Decisive.stops {rc : Result} (h : rc.Decisive) (hrc : rc ≠ .ok) : rc.Stops := ⟨hrc, h⟩

/-- The ports and hooks of a power actor succeed, or fail for good. -/
structure PowerPorts.Decisive (ports : PowerPorts ω) : Prop where
  flush : ∀ flush, ports.log.bind LogPort.flush = some flush → ∀ w, (flush w).1.Decisive
  quiescenceGuard : ∀ quiescenceGuard, ports.quiescenceGuard = some quiescenceGuard →
    ∀ durationUs w, (quiescenceGuard durationUs w).1.1.Decisive
  sleepArm : ∀ sleepArm, ports.sleepArm = some sleepArm →
    ∀ durationUs w, (sleepArm durationUs w).1.1.Decisive
  prepareForSleep : ∀ prepare, ports.system.bind SystemPort.prepareForSleep = some prepare →
    ∀ durationUs w, (prepare durationUs w).1.Decisive
  deepSleep : ∀ deepSleep, ports.system.bind SystemPort.deepSleep = some deepSleep →
    ∀ durationUs w, (deepSleep durationUs w).1.Decisive

namespace PowerActor

def refused (ctx : PowerActor) : UInt32 × UInt32 := (ctx.sleepRequestsRejected, ctx.deepSleepFailures)

variable {ports : PowerPorts ω} {s : PowerActorState P ω}

/-- The result of a part of a sleep: a success that refused nothing, or a failure that stops. -/
def Answered (s : PowerActorState P ω) (rc : Result) (s' : PowerActorState P ω) : Prop :=
  (rc = .ok → s'.ctx.refused = s.ctx.refused) ∧ (rc ≠ .ok → rc.Stops)

theorem Answered.after {t u : PowerActorState P ω} {rc : Result} (h : Answered t rc u)
    (hsame : t.ctx.refused = s.ctx.refused) : Answered s rc u :=
  ⟨fun hok => (h.1 hok).trans hsame, h.2⟩

theorem answered_failed {rc : Result} {s' : PowerActorState P ω} (hrc : rc ≠ .ok)
    (hdecisive : rc.Decisive) : Answered s rc s' :=
  ⟨fun hok => absurd hok hrc, hdecisive.stops⟩

theorem log_refused (message : String) : (log ports message s).2.ctx.refused = s.ctx.refused := by
  unfold log
  split
  · rfl
  · rfl

theorem logSmokeMarker_refused (message : String) :
    (logSmokeMarker ports message s).2.ctx.refused = s.ctx.refused := by
  unfold logSmokeMarker
  split
  · rfl
  · exact log_refused message

theorem stepMachine_refused (action : PowerAction) (result : Result) (reason : PowerSleepRejectReason)
    (sm : PowerStateMachine) :
    (stepMachine ports action result reason sm s).2.ctx.refused = s.ctx.refused := by
  unfold stepMachine logStateMarker
  simp only
  rw [logSmokeMarker_refused]
  rfl

theorem disarmIf_refused (armed : Bool) : (disarmIf ports armed s).ctx.refused = s.ctx.refused := by
  unfold disarmIf disarmSleep
  split
  · split
    · rfl
    · simp only
      split
      · rfl
      · rfl
  · rfl

theorem flushLog_refused : (flushLog ports s).2.ctx.refused = s.ctx.refused := by
  unfold flushLog
  split
  · rfl
  · rfl

theorem finishSleep_answered {result : Result} (hresult : result.Decisive) (armed : Bool)
    (sm : PowerStateMachine) :
    Answered s (finishSleep ports result armed sm s).1 (finishSleep ports result armed sm s).2 := by
  unfold finishSleep
  split
  · rename_i hfailed
    exact answered_failed hfailed hresult
  · refine ⟨fun _ => ?_, fun hfailed => absurd rfl hfailed⟩
    simp only
    rw [disarmIf_refused, stepMachine_refused]

theorem enterDeepSleep_answered {deepSleep : UInt64 → ω → Result × ω}
    (hdeep : ∀ durationUs w, (deepSleep durationUs w).1.Decisive) (durationUs : UInt64) (armed : Bool)
    (sm : PowerStateMachine) :
    Answered s (enterDeepSleep ports deepSleep durationUs armed sm s).1
      (enterDeepSleep ports deepSleep durationUs armed sm s).2 := by
  unfold enterDeepSleep
  simp only
  refine (finishSleep_answered (hdeep durationUs _) armed _).after ?_
  rw [Running.call_ctx, logSmokeMarker_refused]
  exact (stepMachine_refused ..).trans (stepMachine_refused ..)

theorem preparePorts_answered (hports : ports.Decisive) {deepSleep : UInt64 → ω → Result × ω}
    (hdeep : ∀ durationUs w, (deepSleep durationUs w).1.Decisive) (durationUs : UInt64) (armed : Bool)
    (sm : PowerStateMachine) :
    Answered s (preparePorts ports deepSleep durationUs armed sm s).1
      (preparePorts ports deepSleep durationUs armed sm s).2 := by
  unfold preparePorts
  split
  · exact enterDeepSleep_answered hdeep durationUs armed sm
  · rename_i prepare hprepare
    simp only
    split
    · rename_i hfailed
      exact answered_failed hfailed (hports.prepareForSleep prepare hprepare durationUs _)
    · exact (enterDeepSleep_answered hdeep durationUs armed sm).after rfl

theorem drainLog_answered (hports : ports.Decisive) {deepSleep : UInt64 → ω → Result × ω}
    (hdeep : ∀ durationUs w, (deepSleep durationUs w).1.Decisive) (durationUs : UInt64) (armed : Bool)
    (sm : PowerStateMachine) :
    Answered s (drainLog ports deepSleep durationUs armed sm s).1
      (drainLog ports deepSleep durationUs armed sm s).2 := by
  have hflush (t : PowerActorState P ω) : (flushLog ports t).1.Decisive := by
    unfold flushLog
    split
    · exact Result.decisive_ok
    · rename_i flush hflush
      exact hports.flush flush hflush _
  unfold drainLog
  simp only
  split
  · rename_i hfailed
    exact answered_failed hfailed (hflush _)
  · refine (preparePorts_answered hports hdeep durationUs armed _).after ?_
    rw [stepMachine_refused, flushLog_refused, log_refused, stepMachine_refused]

theorem armSleep_answered (hports : ports.Decisive) (durationUs : UInt64) :
    Answered s (armSleep ports durationUs s).1.1 (armSleep ports durationUs s).2 := by
  unfold armSleep
  split
  · unfold runQuiescenceGuard
    split
    · exact ⟨fun _ => rfl, fun hfailed => absurd rfl hfailed⟩
    · rename_i quiescenceGuard hguard
      simp only
      split
      · rename_i hfailed
        exact answered_failed hfailed (hports.quiescenceGuard quiescenceGuard hguard durationUs _)
      · exact ⟨fun _ => rfl, fun hfailed => absurd rfl hfailed⟩
  · rename_i sleepArm harm
    simp only
    split
    · rename_i hfailed
      exact answered_failed hfailed (hports.sleepArm sleepArm harm durationUs _)
    · exact ⟨fun _ => rfl, fun hfailed => absurd rfl hfailed⟩

theorem requestSleep_answered (hports : ports.Decisive) (durationMs : UInt32) :
    Answered s (requestSleep ports durationMs s).1 (requestSleep ports durationMs s).2 := by
  unfold requestSleep
  simp only
  split
  · refine ⟨fun _ => ?_, fun hfailed => absurd rfl hfailed⟩
    rw [stepMachine_refused]
    refine (stepMachine_refused ..).trans ?_
    exact logSmokeMarker_refused _
  · rename_i deepSleep hdeep
    have hrequested : ∀ sm (t : PowerActorState P ω), t.ctx.refused = s.ctx.refused →
        (stepMachine ports .requestSleep .ok .none sm t).2.ctx.refused = s.ctx.refused :=
      fun sm t ht => (stepMachine_refused ..).trans ht
    have hmarked : ∀ t : PowerActorState P ω, t.ctx.refused = s.ctx.refused →
        (logSmokeMarker ports "EV_POWER_SMOKE_SLEEP_REQUEST" t).2.ctx.refused = s.ctx.refused :=
      fun t ht => (logSmokeMarker_refused _).trans ht
    split
    · rename_i hfailed
      exact ⟨fun hok => absurd hok hfailed, (armSleep_answered hports _).2⟩
    · rename_i harmed
      refine (drainLog_answered hports (hports.deepSleep deepSleep hdeep) _ _ _).after ?_
      refine ((armSleep_answered hports _).1 (not_not.mp harmed)).trans ?_
      exact hrequested _ _ (hmarked _ rfl)

/-- A message that the actor answers with a success refused no sleep, and its failures stop. -/
theorem handle_answered (hports : ports.Decisive) (s : PowerActorState P ω) (msg : Inbound) :
    Answered s (handle ports s msg).1 (handle ports s msg).2 := by
  have hcontract : Result.errContract ≠ .ok ∧ Result.errContract.Decisive :=
    ⟨by decide, by decide, by decide⟩
  have hrange : Result.errOutOfRange ≠ .ok ∧ Result.errOutOfRange.Decisive :=
    ⟨by decide, by decide, by decide⟩
  unfold handle
  split
  · split
    · exact answered_failed hcontract.1 hcontract.2
    · split
      · exact answered_failed hrange.1 hrange.2
      · exact requestSleep_answered hports _
  · exact answered_failed hcontract.1 hcontract.2

end PowerActor

end EventFramework
