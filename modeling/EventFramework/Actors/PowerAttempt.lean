import EventFramework.Actors.PowerActor

/-!
# An attempt to sleep

The calls that the handling of a sleep command makes form an `Attempt`, a relation that follows
the stages of the handler. The counters of the context move as the attempt says.
-/

namespace EventFramework
set_option autoImplicit false

variable {P ω : Type}

namespace PowerCall

/-- A call of a port or hook that takes part in the attempt, which a log record does not. -/
def isPort : PowerCall → Bool
  | .logWrite .. => false
  | .machineStep .. => false
  | _ => true

def machineStep? : PowerCall → Option (PowerAction × Result)
  | .machineStep action result => some (action, result)
  | _ => none

def isDisarm : PowerCall → Bool
  | .sleepDisarm _ => true
  | _ => false

def isCancel : PowerCall → Bool
  | .cancelSleepPrepare _ => true
  | _ => false

def refuses : PowerCall → Bool
  | .quiescenceGuard _ result _ => result != .ok
  | .sleepArm _ result _ => result != .ok
  | .logFlush result => result != .ok
  | .prepareForSleep _ result => result != .ok
  | _ => false

def arms : PowerCall → Bool
  | .sleepArm _ result _ => result == .ok
  | _ => false

def sleepFails : PowerCall → Bool
  | .deepSleep _ result => result != .ok
  | _ => false

/-- The state that a call leaves the attempt in. -/
def branch (state : PowerState) : PowerCall → PowerState
  | .logFlush result => if result = .ok then state else .failed
  | .prepareForSleep _ result => if result = .ok then state else .failed
  | .deepSleep _ result => if result = .ok then .enteringDeepSleep else .failed
  | _ => state

end PowerCall

namespace PowerPorts

variable (ports : PowerPorts ω)

def deepSleep : Option (UInt64 → ω → Result × ω) := ports.system.bind SystemPort.deepSleep

def prepareForSleep : Option (UInt64 → ω → Result × ω) :=
  ports.system.bind SystemPort.prepareForSleep

def cancelSleepPrepare : Option (ω → Result × ω) := ports.system.bind SystemPort.cancelSleepPrepare

def flush : Option (ω → Result × ω) := ports.log.bind LogPort.flush

end PowerPorts

namespace PowerActor

/-- The call of an optional function: none and `EV_OK` where it is missing. -/
inductive Called {F : Type} (hook : Option F) (record : Result → PowerCall) :
    Result → List PowerCall → Prop where
  | missing : hook = none → Called hook record .ok []
  | present {function : F} (result : Result) :
    hook = some function → Called hook record result [record result]

/-- The arming or, without an arm hook, the quiescence guard. The flag tells that the application
is armed. -/
inductive Gate (ports : PowerPorts ω) (duration : UInt64) :
    Result → Bool → List PowerCall → Prop where
  | unguarded : ports.sleepArm = none → ports.quiescenceGuard = none →
    Gate ports duration .ok false []
  | guarded (result : Result) (report : PowerQuiescenceReport) :
    ports.sleepArm = none → ports.quiescenceGuard ≠ none →
    Gate ports duration result false [.quiescenceGuard duration result report]
  | unarmed {result : Result} (report : PowerQuiescenceReport) :
    ports.sleepArm ≠ none → result ≠ .ok →
    Gate ports duration result false [.sleepArm duration result report]
  | armed (report : PowerQuiescenceReport) :
    ports.sleepArm ≠ none → Gate ports duration .ok true [.sleepArm duration .ok report]

def Released (ports : PowerPorts ω) (armed : Bool) (calls : List PowerCall) : Prop :=
  if armed then ∃ result, Called ports.sleepDisarm .sleepDisarm result calls else calls = []

/-- The calls and actions from prepared ports on, the state reached and the result. -/
inductive Slept (ports : PowerPorts ω) (duration : UInt64) (armed : Bool) :
    List PowerCall → List PowerAction → PowerState → Result → Prop where
  | entered {release : List PowerCall} : Released ports armed release →
    Slept ports duration armed (.deepSleep duration .ok :: release)
      [.portsPrepared, .rtcStateSaved, .deepSleepEntered] .enteringDeepSleep .ok
  | failed {result cancelled : Result} {cancel release : List PowerCall} : result ≠ .ok →
    Called ports.cancelSleepPrepare .cancelSleepPrepare cancelled cancel →
    Released ports armed release →
    Slept ports duration armed (.deepSleep duration result :: (cancel ++ release))
      [.portsPrepared, .rtcStateSaved, .deepSleepFailed] .failed result

inductive Prepared (ports : PowerPorts ω) (duration : UInt64) (armed : Bool) :
    List PowerCall → List PowerAction → PowerState → Result → Prop where
  | failed {result : Result} {release : List PowerCall} : result ≠ .ok →
    Released ports armed release →
    Prepared ports duration armed (.prepareForSleep duration result :: release)
      [.portsPrepareFailed] .failed result
  | done {prepare calls : List PowerCall} {actions : List PowerAction} {state : PowerState}
    {result : Result} :
    Called ports.prepareForSleep (.prepareForSleep duration) .ok prepare →
    Slept ports duration armed calls actions state result →
    Prepared ports duration armed (prepare ++ calls) actions state result

inductive Drained (ports : PowerPorts ω) (duration : UInt64) (armed : Bool) :
    List PowerCall → List PowerAction → PowerState → Result → Prop where
  | failed {result : Result} {release : List PowerCall} : result ≠ .ok →
    Released ports armed release →
    Drained ports duration armed (.logFlush result :: release)
      [.drainComplete, .logFlushFailed] .failed result
  | done {flush calls : List PowerCall} {actions : List PowerAction} {state : PowerState}
    {result : Result} :
    Called ports.flush .logFlush .ok flush →
    Prepared ports duration armed calls actions state result →
    Drained ports duration armed (flush ++ calls)
      (.drainComplete :: .logFlushComplete :: actions) state result

/-- The whole handling of a well-formed command. -/
inductive Attempt (ports : PowerPorts ω) (duration : UInt64) :
    List PowerCall → List PowerAction → PowerState → Result → Prop where
  | unsupported : ports.deepSleep = none →
    Attempt ports duration [] [.requestSleep, .drainRejected] .rejected .ok
  | refused {result : Result} {gate : List PowerCall} : Gate ports duration result false gate →
    result ≠ .ok → Attempt ports duration gate [.requestSleep, .drainRejected] .rejected result
  | drained {armed : Bool} {gate calls : List PowerCall} {actions : List PowerAction}
    {state : PowerState} {result : Result} : Gate ports duration .ok armed gate →
    Drained ports duration armed calls actions state result →
    Attempt ports duration (gate ++ calls) (.requestSleep :: actions) state result

/-- The commands seen that neither were unsupported nor accepted. -/
def unanswered (ctx : PowerActor) : UInt32 :=
  ctx.sleepRequestsSeen - ctx.sleepRequestsUnsupported - ctx.sleepRequestsAccepted

/-- The commands rejected after they were seen. -/
def rejectedSeen (ctx : PowerActor) : UInt32 :=
  ctx.sleepRequestsRejected - ctx.badPayloadFailures - ctx.badDurationFailures

/-- Between two states lie these port calls and accepted actions, and no command is answered. -/
structure Moves (s s' : PowerActorState P ω) (calls : List PowerCall) (actions : List PowerAction) :
    Prop where
  did : ∃ all : List PowerCall, s'.world.history = s.world.history ++ all.map .called ∧
    all.filter PowerCall.isPort = calls ∧
    all.filterMap PowerCall.machineStep? = actions.map fun action => (action, .ok)
  unanswered : unanswered s'.ctx = unanswered s.ctx
  rejectedSeen : rejectedSeen s'.ctx = rejectedSeen s.ctx

namespace Moves

variable {s t u : PowerActorState P ω}

theorem refl (s : PowerActorState P ω) : Moves s s [] [] :=
  ⟨⟨[], (List.append_nil _).symm, rfl, rfl⟩, rfl, rfl⟩

theorem trans {calls calls' : List PowerCall} {actions actions' : List PowerAction}
    (h : Moves s t calls actions) (h' : Moves t u calls' actions') :
    Moves s u (calls ++ calls') (actions ++ actions') := by
  obtain ⟨all, hhistory, hcalls, hactions⟩ := h.did
  obtain ⟨all', hhistory', hcalls', hactions'⟩ := h'.did
  refine ⟨⟨all ++ all', ?_, ?_, ?_⟩, h'.unanswered.trans h.unanswered,
    h'.rejectedSeen.trans h.rejectedSeen⟩
  · rw [hhistory', hhistory, List.map_append, List.append_assoc]
  · rw [List.filter_append, hcalls, hcalls']
  · rw [List.filterMap_append, hactions, hactions', List.map_append]

theorem setCtx {calls : List PowerCall} {actions : List PowerAction} (h : Moves s t calls actions)
    (ctx : PowerActor) (hunanswered : PowerActor.unanswered ctx = PowerActor.unanswered t.ctx)
    (hrejected : PowerActor.rejectedSeen ctx = PowerActor.rejectedSeen t.ctx) :
    Moves s (t.setCtx ctx) calls actions :=
  ⟨h.did, hunanswered.trans h.unanswered, hrejected.trans h.rejectedSeen⟩

theorem call {R : Type} (s : PowerActorState P ω) (port : ω → R × ω) (record : R → PowerCall)
    (hport : ∀ out, (record out).isPort = true) (hstep : ∀ out, (record out).machineStep? = none) :
    Moves s (s.call port record).2 [record (s.call port record).1] [] := by
  refine ⟨⟨[record (port s.world.outside).1], rfl, ?_, ?_⟩, rfl, rfl⟩
  · exact List.filter_cons_of_pos (hport _)
  · rw [List.filterMap_cons_none (hstep _)]
    rfl

end Moves

section Phases

variable (ports : PowerPorts ω) (s : PowerActorState P ω)

theorem log_moves (message : String) :
    Moves s (log ports message s).2 [] [] ∧ (log ports message s).2.ctx = s.ctx := by
  unfold log
  split
  · exact ⟨.refl s, rfl⟩
  · exact ⟨⟨⟨[_], rfl, rfl, rfl⟩, rfl, rfl⟩, rfl⟩

theorem logSmokeMarker_moves (message : String) :
    Moves s (logSmokeMarker ports message s).2 [] [] ∧
      (logSmokeMarker ports message s).2.ctx = s.ctx := by
  unfold logSmokeMarker
  split
  · exact ⟨.refl s, rfl⟩
  · exact log_moves ports s message

theorem stepMachine_moves (action : PowerAction) (next : PowerState) {sm : PowerStateMachine}
    (h : powerTransitionAllowed sm.state action = some next) (result : Result)
    (reason : PowerSleepRejectReason) :
    Moves s (stepMachine ports action result reason sm s).2 [] [action] ∧
      (stepMachine ports action result reason sm s).1.state = next ∧
      (stepMachine ports action result reason sm s).2.ctx.lastState = next := by
  obtain ⟨hok, hnext⟩ := PowerStateMachine.step_allowed h
    (some { result := result, reason := reason.toWord })
  unfold stepMachine logStateMarker
  simp only
  obtain ⟨hmoves, hctx⟩ := logSmokeMarker_moves ports
    ((s.note (.called (.machineStep action (sm.step action (some ⟨result, reason.toWord⟩)).1))).setCtx
      (s.ctx.recordTransition (sm.step action (some ⟨result, reason.toWord⟩)).2.2))
    (stateMarker (sm.step action (some ⟨result, reason.toWord⟩)).2.2.state)
  refine ⟨?_, hnext, ?_⟩
  · have hstep : Moves s
        ((s.note (.called (.machineStep action (sm.step action (some ⟨result, reason.toWord⟩)).1))).setCtx
          (s.ctx.recordTransition (sm.step action (some ⟨result, reason.toWord⟩)).2.2)) [] [action] := by
      refine ⟨⟨[_], rfl, rfl, ?_⟩, rfl, rfl⟩
      rw [hok]
      rfl
    exact hstep.trans hmoves
  · exact (congrArg lastState hctx).trans hnext

theorem flushLog_moves :
    ∃ calls, Called ports.flush .logFlush (flushLog ports s).1 calls ∧
      Moves s (flushLog ports s).2 calls [] ∧ (flushLog ports s).2.ctx = s.ctx := by
  unfold flushLog
  split
  · rename_i hnone
    exact ⟨[], .missing hnone, .refl s, rfl⟩
  · rename_i hsome
    exact ⟨_, .present _ hsome, .call s _ _ (fun _ => rfl) (fun _ => rfl), rfl⟩

theorem cancelPlatformSleepPrepare_moves :
    ∃ calls, Called ports.cancelSleepPrepare .cancelSleepPrepare (cancelPlatformSleepPrepare ports s).1
        calls ∧
      Moves s (cancelPlatformSleepPrepare ports s).2 calls [] ∧
      (cancelPlatformSleepPrepare ports s).2.ctx = s.ctx := by
  unfold cancelPlatformSleepPrepare
  split
  · rename_i hnone
    exact ⟨[], .missing hnone, .refl s, rfl⟩
  · rename_i hsome
    exact ⟨_, .present _ hsome, .call s _ _ (fun _ => rfl) (fun _ => rfl), rfl⟩

theorem disarmSleep_moves :
    ∃ calls, Called ports.sleepDisarm .sleepDisarm (disarmSleep ports s).1 calls ∧
      Moves s (disarmSleep ports s).2 calls [] ∧
      (disarmSleep ports s).2.ctx.lastState = s.ctx.lastState := by
  unfold disarmSleep
  split
  · rename_i hnone
    exact ⟨[], .missing hnone, .refl s, rfl⟩
  · rename_i hook hsome
    have hcall := ((Moves.refl s).setCtx
      { s.ctx with sleepDisarmCalls := s.ctx.sleepDisarmCalls + 1 } rfl rfl).trans
      (Moves.call _ hook PowerCall.sleepDisarm (fun _ => rfl) (fun _ => rfl))
    simp only
    split
    · exact ⟨_, .present _ hsome, hcall.setCtx _ rfl rfl, rfl⟩
    · exact ⟨_, .present _ hsome, hcall, rfl⟩

theorem disarmIf_moves (armed : Bool) :
    ∃ calls, Released ports armed calls ∧ Moves s (disarmIf ports armed s) calls [] ∧
      (disarmIf ports armed s).ctx.lastState = s.ctx.lastState := by
  unfold disarmIf Released
  cases armed with
  | false => exact ⟨[], rfl, .refl s, rfl⟩
  | true =>
    obtain ⟨calls, hcalls, hmoves, hstate⟩ := disarmSleep_moves ports s
    exact ⟨calls, ⟨_, hcalls⟩, hmoves, hstate⟩

def refusals (calls : List PowerCall) : UInt32 := UInt32.ofNat (calls.countP PowerCall.refuses)

/-- Between two states the command that was seen is answered: accepted, unsupported or
rejected by the calls. -/
structure Settles (s s' : PowerActorState P ω) (calls : List PowerCall) (actions : List PowerAction)
    (state : PowerState) : Prop where
  did : ∃ all : List PowerCall, s'.world.history = s.world.history ++ all.map .called ∧
    all.filter PowerCall.isPort = calls ∧
    all.filterMap PowerCall.machineStep? = actions.map fun action => (action, .ok)
  reached : s'.ctx.lastState = state
  answered : unanswered s'.ctx + 1 = unanswered s.ctx + refusals calls
  rejected : rejectedSeen s'.ctx = rejectedSeen s.ctx + refusals calls

theorem refusals_nil : refusals [] = 0 := rfl

theorem refusals_append (earlier later : List PowerCall) :
    refusals (earlier ++ later) = refusals earlier + refusals later := by
  rw [refusals, List.countP_append, UInt32.ofNat_add]
  rfl

theorem Moves.settles {s t u : PowerActorState P ω} {calls calls' : List PowerCall}
    {actions actions' : List PowerAction} {state : PowerState} (h : Moves s t calls actions)
    (hnone : refusals calls = 0) (h' : Settles t u calls' actions' state) :
    Settles s u (calls ++ calls') (actions ++ actions') state := by
  obtain ⟨all, hhistory, hcalls, hactions⟩ := h.did
  obtain ⟨all', hhistory', hcalls', hactions'⟩ := h'.did
  refine ⟨⟨all ++ all', ?_, ?_, ?_⟩, h'.reached, ?_, ?_⟩
  · rw [hhistory', hhistory, List.map_append, List.append_assoc]
  · rw [List.filter_append, hcalls, hcalls']
  · rw [List.filterMap_append, hactions, hactions', List.map_append]
  · rw [h'.answered, h.unanswered, refusals_append, hnone, UInt32.zero_add]
  · rw [h'.rejected, h.rejectedSeen, refusals_append, hnone, UInt32.zero_add]

theorem Moves.answer {s t u : PowerActorState P ω} {calls calls' : List PowerCall}
    {actions actions' : List PowerAction} (h : Moves s t calls actions) (ctx : PowerActor)
    (h' : Moves (t.setCtx ctx) u calls' actions') (hlater : refusals calls' = 0)
    (hanswered : PowerActor.unanswered ctx + 1 = PowerActor.unanswered t.ctx + refusals calls)
    (hrejected : PowerActor.rejectedSeen ctx = PowerActor.rejectedSeen t.ctx + refusals calls) :
    Settles s u (calls ++ calls') (actions ++ actions') u.ctx.lastState := by
  obtain ⟨all, hhistory, hcalls, hactions⟩ := h.did
  obtain ⟨all', hhistory', hcalls', hactions'⟩ := h'.did
  refine ⟨⟨all ++ all', ?_, ?_, ?_⟩, rfl, ?_, ?_⟩
  · rw [hhistory', List.map_append, ← List.append_assoc]
    exact congrArg (· ++ _) hhistory
  · rw [List.filter_append, hcalls, hcalls']
  · rw [List.filterMap_append, hactions, hactions', List.map_append]
  · rw [h'.unanswered, refusals_append, hlater, UInt32.add_zero, ← h.unanswered]
    exact hanswered
  · rw [h'.rejectedSeen, refusals_append, hlater, UInt32.add_zero, ← h.rejectedSeen]
    exact hrejected

theorem refusals_gate {ports : PowerPorts ω} {duration : UInt64} {armed : Bool}
    {gate : List PowerCall} (h : Gate ports duration .ok armed gate) : refusals gate = 0 := by
  cases h with
  | unguarded _ _ => rfl
  | guarded _ _ _ => rfl
  | unarmed _ _ hfailed => exact absurd rfl hfailed
  | armed _ _ => rfl

theorem unanswered_accept (ctx : PowerActor) :
    unanswered { ctx with sleepRequestsAccepted := ctx.sleepRequestsAccepted + 1 } + 1 =
      unanswered ctx := by
  simp only [unanswered]
  grind

theorem unanswered_unsupported (ctx : PowerActor) (reason : PowerSleepRejectReason) :
    unanswered { ctx with
        sleepRequestsUnsupported := ctx.sleepRequestsUnsupported + 1
        lastRejectReason := reason } + 1 =
      unanswered ctx := by
  simp only [unanswered]
  grind

theorem rejectedSeen_reject (ctx : PowerActor) (reason : PowerSleepRejectReason) :
    rejectedSeen (ctx.reject reason) = rejectedSeen ctx + 1 := by
  simp only [rejectedSeen, reject]
  grind

theorem refusals_called {F : Type} {hook : Option F} {record : Result → PowerCall} {result : Result}
    {calls : List PowerCall} (h : Called hook record result calls)
    (hnone : (record result).refuses = false) : refusals calls = 0 := by
  cases h with
  | missing _ => rfl
  | present _ _ =>
    unfold refusals
    rw [List.countP_cons_of_neg (Bool.eq_false_iff.mp hnone)]
    rfl

theorem refusals_release {ports : PowerPorts ω} {armed : Bool} {calls : List PowerCall}
    (h : Released ports armed calls) : refusals calls = 0 := by
  unfold Released at h
  split at h
  · obtain ⟨result, hcalled⟩ := h
    exact refusals_called hcalled rfl
  · rw [h]
    rfl

/-- A gate that stays closed has rejected the command. -/
def Closed (s s' : PowerActorState P ω) (calls : List PowerCall) : Prop :=
  ∃ t ctx, s' = t.setCtx ctx ∧ Moves s t calls [] ∧
    unanswered ctx + 1 = unanswered t.ctx + refusals calls ∧
    rejectedSeen ctx = rejectedSeen t.ctx + refusals calls

theorem closed_of_refuses {s t : PowerActorState P ω} {call : PowerCall}
    (h : Moves s t [call] []) (hrefuses : call.refuses = true) {ctx : PowerActor}
    (hanswered : unanswered ctx = unanswered t.ctx)
    (hrejected : rejectedSeen ctx = rejectedSeen t.ctx + 1) : Closed s (t.setCtx ctx) [call] := by
  have hone : refusals [call] = 1 := by
    unfold refusals
    rw [List.countP_cons_of_pos hrefuses]
    rfl
  refine ⟨t, ctx, rfl, h, ?_, ?_⟩
  · rw [hone, hanswered]
  · rw [hone, hrejected]

theorem runQuiescenceGuard_gate (duration : UInt64) (hhook : ports.sleepArm = none) :
    ∃ gate, Gate ports duration (runQuiescenceGuard ports duration s).1 false gate ∧
      ((runQuiescenceGuard ports duration s).1 = .ok →
        Moves s (runQuiescenceGuard ports duration s).2 gate []) ∧
      ((runQuiescenceGuard ports duration s).1 ≠ .ok →
        Closed s (runQuiescenceGuard ports duration s).2 gate) := by
  unfold runQuiescenceGuard
  split
  · rename_i hnone
    exact ⟨[], .unguarded hhook hnone, fun _ => .refl s, fun h => absurd rfl h⟩
  · rename_i quiescenceGuard hsome
    have hguard : ports.quiescenceGuard ≠ none := by
      rw [hsome]
      exact Option.some_ne_none _
    have hcall := Moves.call s (quiescenceGuard duration)
      (fun out => .quiescenceGuard duration out.1 out.2) (fun _ => rfl) (fun _ => rfl)
    simp only
    split
    · rename_i hfailed
      refine ⟨_, .guarded (quiescenceGuard duration s.world.outside).1.1
        (quiescenceGuard duration s.world.outside).1.2 hhook hguard, fun h => absurd h hfailed,
        fun _ => ?_⟩
      exact closed_of_refuses hcall (bne_iff_ne.mpr hfailed) rfl (rejectedSeen_reject _ _)
    · rename_i hok
      refine ⟨_, .guarded .ok (quiescenceGuard duration s.world.outside).1.2 hhook hguard,
        fun _ => ?_, fun h => absurd rfl h⟩
      rw [not_not.mp hok] at hcall
      exact hcall.setCtx _ rfl rfl

theorem armSleep_gate (duration : UInt64) :
    ∃ gate, Gate ports duration (armSleep ports duration s).1.1 (armSleep ports duration s).1.2 gate ∧
      ((armSleep ports duration s).1.1 = .ok → Moves s (armSleep ports duration s).2 gate []) ∧
      ((armSleep ports duration s).1.1 ≠ .ok →
        (armSleep ports duration s).1.2 = false ∧ Closed s (armSleep ports duration s).2 gate) := by
  unfold armSleep
  split
  · rename_i hnone
    obtain ⟨gate, hgate, hopen, hclosed⟩ := runQuiescenceGuard_gate ports s duration hnone
    exact ⟨gate, hgate, hopen, fun h => ⟨rfl, hclosed h⟩⟩
  · rename_i sleepArm hsome
    have harm : ports.sleepArm ≠ none := by
      rw [hsome]
      exact Option.some_ne_none _
    have hcall := Moves.call s (sleepArm duration) (fun out => .sleepArm duration out.1 out.2)
      (fun _ => rfl) (fun _ => rfl)
    simp only
    split
    · rename_i hfailed
      refine ⟨_, .unarmed (sleepArm duration s.world.outside).1.2 harm hfailed,
        fun h => absurd h hfailed, fun _ => ⟨rfl, ?_⟩⟩
      exact closed_of_refuses hcall (bne_iff_ne.mpr hfailed) rfl (rejectedSeen_reject _ _)
    · rename_i hok
      refine ⟨_, .armed (sleepArm duration s.world.outside).1.2 harm, fun _ => ?_,
        fun h => absurd rfl h⟩
      rw [not_not.mp hok] at hcall
      exact hcall.setCtx _ rfl rfl

/-- The parts of a sleep after `deep_sleep` returned. -/
theorem finishSleep_moves (duration : UInt64) (result : Result) (armed : Bool) {sm : PowerStateMachine}
    (hsm : sm.state = .rtcStateSaved) :
    ∃ calls action state, Slept ports duration armed (.deepSleep duration result :: calls)
        [.portsPrepared, .rtcStateSaved, action] state (finishSleep ports result armed sm s).1 ∧
      refusals calls = 0 ∧ Moves s (finishSleep ports result armed sm s).2 calls [action] ∧
      (finishSleep ports result armed sm s).2.ctx.lastState = state := by
  unfold finishSleep
  simp only
  split
  · rename_i hfailed
    let failed := s.setCtx { s.ctx with
      deepSleepFailures := s.ctx.deepSleepFailures + 1, lastRejectReason := .deepSleepFailed }
    have hcounted : Moves s failed [] [] := (Moves.refl s).setCtx _ rfl rfl
    obtain ⟨hstep, _, hstate⟩ := stepMachine_moves ports failed .deepSleepFailed .failed
      (by rw [hsm]; rfl) result .deepSleepFailed
    obtain ⟨cancel, hcancel, hcancelled, hctx⟩ := cancelPlatformSleepPrepare_moves ports
      (stepMachine ports .deepSleepFailed result .deepSleepFailed sm failed).2
    obtain ⟨release, hrelease, hreleased, hlast⟩ := disarmIf_moves ports
      (cancelPlatformSleepPrepare ports
        (stepMachine ports .deepSleepFailed result .deepSleepFailed sm failed).2).2 armed
    refine ⟨cancel ++ release, .deepSleepFailed, .failed, .failed hfailed hcancel hrelease, ?_, ?_, ?_⟩
    · rw [refusals_append, refusals_release hrelease, refusals_called hcancel rfl]
      rfl
    · exact ((hcounted.trans hstep).trans hcancelled).trans hreleased
    · exact hlast.trans ((congrArg lastState hctx).trans hstate)
  · rename_i hok
    obtain ⟨hstep, _, hstate⟩ := stepMachine_moves ports s .deepSleepEntered .enteringDeepSleep
      (by rw [hsm]; rfl) .ok .none
    obtain ⟨release, hrelease, hreleased, hlast⟩ := disarmIf_moves ports
      (stepMachine ports .deepSleepEntered .ok .none sm s).2 armed
    refine ⟨release, .deepSleepEntered, .enteringDeepSleep, ?_, refusals_release hrelease,
      hstep.trans hreleased, hlast.trans hstate⟩
    rw [not_not.mp hok]
    exact .entered hrelease

theorem enterDeepSleep_spec (deepSleep : UInt64 → ω → Result × ω) (duration : UInt64)
    (armed : Bool) {sm : PowerStateMachine} (hsm : sm.state = .logFlushing) :
    ∃ calls actions state,
      Slept ports duration armed calls actions state
        (enterDeepSleep ports deepSleep duration armed sm s).1 ∧
      Settles s (enterDeepSleep ports deepSleep duration armed sm s).2 calls actions state := by
  obtain ⟨hprepared, hpreparedState, _⟩ := stepMachine_moves ports s .portsPrepared
    .portsPrepareSleep (by rw [hsm]; rfl) .ok .none
  unfold enterDeepSleep
  simp only
  generalize stepMachine ports .portsPrepared .ok .none sm s = prepared at hprepared hpreparedState ⊢
  obtain ⟨hsaved, hsavedState, _⟩ := stepMachine_moves ports prepared.2 .rtcStateSaved
    .rtcStateSaved (by rw [hpreparedState]; rfl) .ok .none
  generalize stepMachine ports .rtcStateSaved .ok .none prepared.1 prepared.2 = saved
    at hsaved hsavedState ⊢
  let accepted := { saved.2.ctx with sleepRequestsAccepted := saved.2.ctx.sleepRequestsAccepted + 1 }
  obtain ⟨hmarked, _⟩ := logSmokeMarker_moves ports (saved.2.setCtx accepted)
    "EV_POWER_SMOKE_DEEP_SLEEP_ENTER"
  change Moves (saved.2.setCtx accepted) (logSmokeMarker ports "EV_POWER_SMOKE_DEEP_SLEEP_ENTER"
    (saved.2.setCtx { saved.2.ctx with
      sleepRequestsAccepted := saved.2.ctx.sleepRequestsAccepted + 1 })).2 [] [] at hmarked
  generalize (logSmokeMarker ports "EV_POWER_SMOKE_DEEP_SLEEP_ENTER"
    (saved.2.setCtx { saved.2.ctx with
      sleepRequestsAccepted := saved.2.ctx.sleepRequestsAccepted + 1 })).2 = marked at hmarked ⊢
  have hslept := hmarked.trans
    (Moves.call marked (deepSleep duration) (.deepSleep duration) (fun _ => rfl) (fun _ => rfl))
  generalize marked.call (deepSleep duration) (.deepSleep duration) = out at hslept ⊢
  obtain ⟨calls, action, state, hslept', hnone, hfinished, hstate⟩ := finishSleep_moves ports out.2
    duration out.1 armed hsavedState
  refine ⟨_, _, state, hslept', ?_⟩
  rw [← hstate]
  apply (hprepared.trans hsaved).answer accepted (hslept.trans hfinished) hnone
  · exact (unanswered_accept _).trans (UInt32.add_zero _).symm
  · exact (UInt32.add_zero _).symm

/-- A failure that rejects the command and is reported to the state machine. -/
theorem rejected_settles {t : PowerActorState P ω} {call : PowerCall} {actions : List PowerAction}
    (h : Moves s t [call] actions) (hrefuses : call.refuses = true) (ctx : PowerActor)
    (hanswered : unanswered ctx = unanswered t.ctx)
    (hrejected : rejectedSeen ctx = rejectedSeen t.ctx + 1) {sm : PowerStateMachine}
    (action : PowerAction) (hstep : powerTransitionAllowed sm.state action = some .failed)
    (result : Result) (reason : PowerSleepRejectReason) (armed : Bool) :
    ∃ release, Released ports armed release ∧
      Settles s (disarmIf ports armed (stepMachine ports action result reason sm (t.setCtx ctx)).2)
        (call :: release) (actions ++ [action]) .failed := by
  have hone : refusals [call] = 1 := by
    unfold refusals
    rw [List.countP_cons_of_pos hrefuses]
    rfl
  obtain ⟨hstepped, _, hstate⟩ := stepMachine_moves ports (t.setCtx ctx) action .failed hstep result
    reason
  obtain ⟨release, hrelease, hreleased, hlast⟩ := disarmIf_moves ports
    (stepMachine ports action result reason sm (t.setCtx ctx)).2 armed
  refine ⟨release, hrelease, ?_⟩
  rw [← hlast.trans hstate]
  apply h.answer ctx (hstepped.trans hreleased) (refusals_release hrelease)
  · rw [hanswered, hone]
  · rw [hrejected, hone]

theorem preparePorts_spec (deepSleep : UInt64 → ω → Result × ω) (duration : UInt64) (armed : Bool)
    {sm : PowerStateMachine} (hsm : sm.state = .logFlushing) :
    ∃ calls actions state,
      Prepared ports duration armed calls actions state
        (preparePorts ports deepSleep duration armed sm s).1 ∧
      Settles s (preparePorts ports deepSleep duration armed sm s).2 calls actions state := by
  unfold preparePorts
  split
  · rename_i hnone
    obtain ⟨calls, actions, state, hslept, hsettles⟩ :=
      enterDeepSleep_spec ports s deepSleep duration armed hsm
    exact ⟨calls, actions, state, .done (.missing hnone) hslept, hsettles⟩
  · rename_i prepareForSleep hsome
    have hcall := Moves.call s (prepareForSleep duration) (.prepareForSleep duration) (fun _ => rfl)
      (fun _ => rfl)
    simp only
    generalize s.call (prepareForSleep duration) (.prepareForSleep duration) = out at hcall ⊢
    split
    · rename_i hfailed
      let counted := { out.2.ctx with
        prepareForSleepFailures := out.2.ctx.prepareForSleepFailures + 1 }
      have hrejected : rejectedSeen (counted.reject .prepareFailed) = rejectedSeen out.2.ctx + 1 :=
        rejectedSeen_reject counted .prepareFailed
      obtain ⟨release, hrelease, hsettles⟩ := rejected_settles ports s hcall (bne_iff_ne.mpr hfailed)
        (counted.reject .prepareFailed) rfl hrejected .portsPrepareFailed (by rw [hsm]; rfl) out.1
        .prepareFailed armed
      exact ⟨_, _, .failed, .failed hfailed hrelease, hsettles⟩
    · rename_i hok
      obtain ⟨calls, actions, state, hslept, hsettles⟩ :=
        enterDeepSleep_spec ports out.2 deepSleep duration armed hsm
      rw [not_not.mp hok] at hcall
      exact ⟨_, _, _, .done (.present .ok hsome) hslept, hcall.settles rfl hsettles⟩

theorem drainLog_spec (deepSleep : UInt64 → ω → Result × ω) (duration : UInt64) (armed : Bool)
    {sm : PowerStateMachine} (hsm : sm.state = .sleepRequested) :
    ∃ calls actions state,
      Drained ports duration armed calls actions state
        (drainLog ports deepSleep duration armed sm s).1 ∧
      Settles s (drainLog ports deepSleep duration armed sm s).2 calls actions state := by
  unfold drainLog
  simp only
  obtain ⟨hdrained, hstate, _⟩ := stepMachine_moves ports s .drainComplete .drainingRuntime
    (by rw [hsm]; rfl) .ok .none
  generalize stepMachine ports .drainComplete .ok .none sm s = drained at hdrained hstate ⊢
  obtain ⟨hlogged, _⟩ := log_moves ports drained.2 "System entering Deep Sleep"
  generalize (log ports "System entering Deep Sleep" drained.2).2 = logged at hlogged ⊢
  obtain ⟨flush, hflush, hflushed, hctx⟩ := flushLog_moves ports logged
  generalize flushLog ports logged = out at hflush hflushed hctx ⊢
  have hmoves := (hdrained.trans hlogged).trans hflushed
  split
  · rename_i hfailed
    obtain ⟨result, after⟩ := out
    cases hflush with
    | missing _ => exact absurd rfl hfailed
    | present _ _ =>
      let counted := { after.ctx with logFlushFailures := after.ctx.logFlushFailures + 1 }
      have hrejected : rejectedSeen (counted.reject .logFlushFailed) = rejectedSeen after.ctx + 1 :=
        rejectedSeen_reject counted .logFlushFailed
      obtain ⟨release, hrelease, hsettles⟩ := rejected_settles ports s hmoves
        (bne_iff_ne.mpr hfailed) (counted.reject .logFlushFailed) rfl hrejected .logFlushFailed
        (by rw [hstate]; rfl) result .logFlushFailed armed
      exact ⟨_, _, .failed, .failed hfailed hrelease, hsettles⟩
  · rename_i hok
    rw [not_not.mp hok] at hflush
    have hnone : refusals flush = 0 := refusals_called hflush (by rfl)
    obtain ⟨hstep, hflushing, _⟩ := stepMachine_moves ports out.2 .logFlushComplete .logFlushing
      (by rw [hstate]; rfl) .ok .none
    obtain ⟨calls, actions, state, hprepared, hsettles⟩ := preparePorts_spec ports
      (stepMachine ports .logFlushComplete .ok .none drained.1 out.2).2 deepSleep duration armed
      hflushing
    refine ⟨_, _, _, .done hflush hprepared, ?_⟩
    have hflushes := hmoves.trans hstep
    rw [List.append_nil] at hflushes
    exact hflushes.settles hnone hsettles

theorem requestSleep_spec (durationMs : UInt32) :
    ∃ calls actions state,
      Attempt ports (durationUs durationMs) calls actions state (requestSleep ports durationMs s).1 ∧
      (∃ all : List PowerCall, (requestSleep ports durationMs s).2.world.history =
          s.world.history ++ all.map .called ∧ all.filter PowerCall.isPort = calls ∧
        all.filterMap PowerCall.machineStep? = actions.map fun action => (action, .ok)) ∧
      (requestSleep ports durationMs s).2.ctx.lastState = state ∧
      unanswered (requestSleep ports durationMs s).2.ctx = unanswered s.ctx + refusals calls ∧
      rejectedSeen (requestSleep ports durationMs s).2.ctx = rejectedSeen s.ctx + refusals calls := by
  suffices h : ∃ calls actions state,
      Attempt ports (durationUs durationMs) calls actions state (requestSleep ports durationMs s).1 ∧
      Settles (s.setCtx { s.ctx with sleepRequestsSeen := s.ctx.sleepRequestsSeen + 1 })
        (requestSleep ports durationMs s).2 calls actions state by
    obtain ⟨calls, actions, state, hattempt, hsettles⟩ := h
    refine ⟨calls, actions, state, hattempt, hsettles.did, hsettles.reached, ?_, hsettles.rejected⟩
    have hanswered := hsettles.answered
    have hseen : unanswered { s.ctx with sleepRequestsSeen := s.ctx.sleepRequestsSeen + 1 } =
        unanswered s.ctx + 1 := by
      simp only [unanswered]
      grind
    simp only [Running.setCtx] at hanswered
    rw [hseen] at hanswered
    grind
  unfold requestSleep
  simp only
  generalize s.setCtx { s.ctx with sleepRequestsSeen := s.ctx.sleepRequestsSeen + 1 } = seen
  obtain ⟨hmarked, _⟩ := logSmokeMarker_moves ports seen "EV_POWER_SMOKE_SLEEP_REQUEST"
  generalize (logSmokeMarker ports "EV_POWER_SMOKE_SLEEP_REQUEST" seen).2 = marked at hmarked ⊢
  have hcleared := hmarked.setCtx
    { marked.ctx with
      lastDurationUs := durationUs durationMs
      lastRejectReason := .none
      lastQuiescenceReport := {} } rfl rfl
  generalize marked.setCtx
    { marked.ctx with
      lastDurationUs := durationUs durationMs
      lastRejectReason := .none
      lastQuiescenceReport := {} } = cleared at hcleared ⊢
  have hactive : powerTransitionAllowed ({} : PowerStateMachine).state .requestSleep =
      some .sleepRequested := rfl
  obtain ⟨hstep, hstate, _⟩ := stepMachine_moves ports cleared .requestSleep .sleepRequested hactive
    .ok .none
  generalize stepMachine ports .requestSleep .ok .none {} cleared = requested at hstep hstate ⊢
  have hrequested := hcleared.trans hstep
  split
  · rename_i hnone
    obtain ⟨hrejected, _, hlast⟩ := stepMachine_moves ports
      (requested.2.setCtx
        { requested.2.ctx with
          sleepRequestsUnsupported := requested.2.ctx.sleepRequestsUnsupported + 1
          lastRejectReason := .unsupported })
      .drainRejected .rejected (by rw [hstate]; rfl) .errUnsupported .unsupported
    refine ⟨_, _, .rejected, .unsupported hnone, ?_⟩
    rw [← hlast]
    apply hrequested.answer _ hrejected refusals_nil
    · exact (unanswered_unsupported _ _).trans (UInt32.add_zero _).symm
    · exact (UInt32.add_zero _).symm
  · rename_i deepSleep hsome
    obtain ⟨gate, hgate, hopen, hclosed⟩ := armSleep_gate ports requested.2 (durationUs durationMs)
    generalize armSleep ports (durationUs durationMs) requested.2 = out at hgate hopen hclosed ⊢
    split
    · rename_i hfailed
      obtain ⟨hunarmed, t, ctx, ht, hmoves, hanswered, hrejected⟩ := hclosed hfailed
      rw [hunarmed] at hgate
      rw [ht]
      obtain ⟨hrefused, _, hlast⟩ := stepMachine_moves ports (t.setCtx ctx) .drainRejected .rejected
        (by rw [hstate]; rfl) out.1.1 ctx.lastRejectReason
      refine ⟨_, _, .rejected, .refused hgate hfailed, ?_⟩
      rw [← hlast]
      have hsettles := (hrequested.trans hmoves).answer ctx hrefused refusals_nil hanswered hrejected
      rw [List.append_nil] at hsettles
      exact hsettles
    · rename_i hok
      rw [not_not.mp hok] at hgate
      obtain ⟨calls, actions, state, hdrained, hsettles⟩ := drainLog_spec ports out.2 deepSleep
        (durationUs durationMs) out.1.2 hstate
      refine ⟨_, _, state, .drained hgate hdrained, ?_⟩
      exact (hrequested.trans (hopen (not_not.mp hok))).settles (refusals_gate hgate) hsettles

end Phases

end PowerActor

end EventFramework
