import EventFramework.Actors.PowerAttempt

/-!
# The order of a sleep attempt

Every sleep command calls the ports in one order and undoes what it did. From the stages of an
`Attempt` follow the order of the calls, the release of the application and the agreement with
the state machine. The counters of the context add up to the commands seen.
-/

namespace EventFramework
set_option autoImplicit false

variable {P ω : Type}

namespace PowerActor

/-- What `deep_sleep` waits for: the gate, the log flush and the preparation, in this order and
all successful. -/
def Ready (ports : PowerPorts ω) (duration : UInt64) (earlier : List PowerCall) : Prop :=
  ∃ armed gate flush prepare, earlier = gate ++ (flush ++ prepare) ∧
    Gate ports duration .ok armed gate ∧ Called ports.flush .logFlush .ok flush ∧
    Called ports.prepareForSleep (.prepareForSleep duration) .ok prepare

/-- A call is justified by the calls that the same message made before. -/
def InOrder (ports : PowerPorts ω) (duration : UInt64) (earlier : List PowerCall) :
    PowerCall → Prop
  | .deepSleep durationUs _ => durationUs = duration ∧ Ready ports duration earlier
  | .sleepDisarm _ => ∃ report, .sleepArm duration .ok report ∈ earlier
  | .cancelSleepPrepare _ => ∃ result, result ≠ .ok ∧ .deepSleep duration result ∈ earlier
  | _ => True

/-- The calls of one command: the state machine accepts every action and ends in the recorded
state, the port calls come in order, and what was armed or failed to sleep is undone once. -/
structure SleepTrace (ports : PowerPorts ω) (duration : UInt64) (calls : List PowerCall)
    (state : PowerState) : Prop where
  accepted : ∀ action result, .machineStep action result ∈ calls → result = .ok
  agreed : ((calls.filterMap PowerCall.machineStep?).map Prod.fst).foldlM powerTransitionAllowed
    .active = some state
  implied : state = calls.foldl PowerCall.branch .rejected
  ordered : Machine.Justified (InOrder ports duration) (calls.filter PowerCall.isPort)
  armedOnce : calls.countP PowerCall.arms ≤ 1
  disarmed : calls.countP PowerCall.isDisarm =
    if ports.sleepDisarm.isSome then calls.countP PowerCall.arms else 0
  cancelled : calls.countP PowerCall.isCancel =
    if ports.cancelSleepPrepare.isSome then calls.countP PowerCall.sleepFails else 0

def sleepCommand (msg : Inbound) : Option UInt32 :=
  if msg.eventId = .sysGotoSleepCmd then
    (commandDuration msg).filter fun durationMs =>
      durationMs ≠ 0 ∧ durationMs ≤ powerMaxSleepDurationMs
  else none

/-- The handling of one message. One that is no well-formed command calls nothing. -/
def Disciplined (ports : PowerPorts ω) (s : PowerActorState P ω) (msg : Inbound) : Prop :=
  ∃ calls result,
    (step ports s msg).world.history =
      s.world.history ++ (.received msg :: (calls.map .called ++ [.returned result])) ∧
    match sleepCommand msg with
    | none => calls = [] ∧ (step ports s msg).ctx.lastState = s.ctx.lastState
    | some durationMs =>
      SleepTrace ports (durationUs durationMs) calls (step ports s msg).ctx.lastState

def call? : ActorEvent P PowerCall → Option PowerCall
  | .called call => some call
  | _ => none

def refusedSoFar (s : PowerActorState P ω) : UInt32 := refusals (s.world.history.filterMap call?)

structure Accounted (s : PowerActorState P ω) : Prop where
  seen : s.ctx.sleepRequestsSeen =
    s.ctx.sleepRequestsUnsupported + s.ctx.sleepRequestsAccepted + refusedSoFar s
  rejected : s.ctx.sleepRequestsRejected =
    s.ctx.badPayloadFailures + s.ctx.badDurationFailures + refusedSoFar s

/-- Calls that arm, undo and decide nothing. -/
def Neutral (calls : List PowerCall) : Prop :=
  ∀ call ∈ calls, call.arms = false ∧ call.isDisarm = false ∧ call.isCancel = false ∧
    call.sleepFails = false ∧ ∀ state, PowerCall.branch state call = state

/-- What is undone after the gate. -/
structure Balanced (ports : PowerPorts ω) (armed : Bool) (calls : List PowerCall) : Prop where
  arms : calls.countP PowerCall.arms = 0
  disarmed : calls.countP PowerCall.isDisarm = if armed && ports.sleepDisarm.isSome then 1 else 0
  cancelled : calls.countP PowerCall.isCancel =
    if ports.cancelSleepPrepare.isSome then calls.countP PowerCall.sleepFails else 0

section Stages

variable {ports : PowerPorts ω} {duration : UInt64} {armed : Bool} {calls : List PowerCall}
  {actions : List PowerAction} {state : PowerState} {result : Result}

theorem Called.neutral {F : Type} {hook : Option F} {record : Result → PowerCall}
    (h : Called hook record result calls) (hrecord : Neutral [record result]) : Neutral calls := by
  cases h with
  | missing _ => exact fun call hmem => absurd hmem List.not_mem_nil
  | present _ _ => exact hrecord

theorem neutral_logFlush : Neutral [.logFlush .ok] := by
  intro call hmem
  rw [List.mem_singleton.mp hmem]
  exact ⟨rfl, rfl, rfl, rfl, fun _ => rfl⟩

theorem neutral_prepareForSleep : Neutral [.prepareForSleep duration .ok] := by
  intro call hmem
  rw [List.mem_singleton.mp hmem]
  exact ⟨rfl, rfl, rfl, rfl, fun _ => rfl⟩

theorem Neutral.branch (h : Neutral calls) (state : PowerState) :
    calls.foldl PowerCall.branch state = state := by
  induction calls with
  | nil => rfl
  | cons call calls ih =>
    rw [List.foldl_cons, (h call List.mem_cons_self).2.2.2.2]
    exact ih fun other hmem => h other (List.mem_cons_of_mem _ hmem)

theorem Neutral.balanced {neutral : List PowerCall} (h : Neutral neutral)
    (hbalanced : Balanced ports armed calls) : Balanced ports armed (neutral ++ calls) := by
  have hzero {p : PowerCall → Bool} (hp : ∀ call ∈ neutral, p call = false) :
      neutral.countP p = 0 :=
    List.countP_eq_zero.mpr fun call hmem => Bool.eq_false_iff.mp (hp call hmem)
  constructor
  · rw [List.countP_append, hzero fun call hmem => (h call hmem).1, hbalanced.arms]
  · rw [List.countP_append, hzero fun call hmem => (h call hmem).2.1, Nat.zero_add]
    exact hbalanced.disarmed
  · rw [List.countP_append, List.countP_append, hzero fun call hmem => (h call hmem).2.2.1,
      hzero fun call hmem => (h call hmem).2.2.2.1, Nat.zero_add, Nat.zero_add]
    exact hbalanced.cancelled

theorem Released.balanced (h : Released ports armed calls) : Balanced ports armed calls := by
  unfold Released at h
  split at h
  · rename_i harmed
    obtain ⟨result, hcalled⟩ := h
    cases hcalled with
    | missing hnone =>
      rw [harmed]
      constructor <;> simp [hnone]
    | present _ hsome =>
      rw [harmed]
      constructor <;> simp [hsome, PowerCall.arms, PowerCall.isDisarm, PowerCall.isCancel,
        PowerCall.sleepFails]
  · rename_i harmed
    rw [h, Bool.eq_false_iff.mpr harmed]
    constructor <;> simp

theorem Released.branch (h : Released ports armed calls) (state : PowerState) :
    calls.foldl PowerCall.branch state = state := by
  unfold Released at h
  split at h
  · obtain ⟨result, hcalled⟩ := h
    cases hcalled <;> rfl
  · rw [h]
    rfl

theorem Slept.balanced (h : Slept ports duration armed calls actions state result) :
    Balanced ports armed calls := by
  cases h with
  | entered hrelease =>
    have hbalanced := hrelease.balanced
    constructor
    · exact hbalanced.arms
    · exact hbalanced.disarmed
    · exact hbalanced.cancelled
  | failed hfailed hcancel hrelease =>
    obtain ⟨harms, hdisarmed, hcancelled⟩ := hrelease.balanced
    have hfails : PowerCall.sleepFails (.deepSleep duration result) = true := bne_iff_ne.mpr hfailed
    cases hcancel with
    | missing hnone =>
      rw [hnone] at hcancelled
      constructor
      · exact harms
      · exact hdisarmed
      · rw [hnone]
        exact hcancelled
    | present _ hsome =>
      rw [hsome] at hcancelled
      constructor
      · exact harms
      · exact hdisarmed
      · rw [hsome, List.countP_cons_of_neg (by simp [PowerCall.isCancel]), List.singleton_append,
          List.countP_cons_of_pos (by rfl), hcancelled, List.countP_cons_of_pos hfails]
        rfl

theorem Prepared.balanced (h : Prepared ports duration armed calls actions state result) :
    Balanced ports armed calls := by
  cases h with
  | failed _ hrelease =>
    obtain ⟨harms, hdisarmed, hcancelled⟩ := hrelease.balanced
    exact ⟨harms, hdisarmed, hcancelled⟩
  | done hprepare hslept =>
    exact (hprepare.neutral neutral_prepareForSleep).balanced hslept.balanced

theorem Drained.balanced (h : Drained ports duration armed calls actions state result) :
    Balanced ports armed calls := by
  cases h with
  | failed _ hrelease =>
    obtain ⟨harms, hdisarmed, hcancelled⟩ := hrelease.balanced
    exact ⟨harms, hdisarmed, hcancelled⟩
  | done hflush hprepared => exact (hflush.neutral neutral_logFlush).balanced hprepared.balanced

theorem Attempt.balanced (h : Attempt ports duration calls actions state result) :
    calls.countP PowerCall.arms ≤ 1 ∧
      calls.countP PowerCall.isDisarm =
        (if ports.sleepDisarm.isSome then calls.countP PowerCall.arms else 0) ∧
      calls.countP PowerCall.isCancel =
        if ports.cancelSleepPrepare.isSome then calls.countP PowerCall.sleepFails else 0 := by
  have hgate {armed : Bool} {gate : List PowerCall} {result : Result}
      (h : Gate ports duration result armed gate) :
      gate.countP PowerCall.arms = (if armed && result == .ok then 1 else 0) ∧
        gate.countP PowerCall.isDisarm = 0 ∧ gate.countP PowerCall.isCancel = 0 ∧
        gate.countP PowerCall.sleepFails = 0 := by
    cases h with
    | unguarded _ _ => exact ⟨rfl, rfl, rfl, rfl⟩
    | guarded _ _ _ _ => exact ⟨rfl, rfl, rfl, rfl⟩
    | unarmed _ _ hfailed =>
      refine ⟨?_, rfl, rfl, rfl⟩
      rw [List.countP_cons_of_neg (by simpa [PowerCall.arms] using hfailed)]
      rfl
    | armed _ _ => exact ⟨rfl, rfl, rfl, rfl⟩
  cases h with
  | unsupported _ => simp
  | refused hrefused _ =>
    obtain ⟨harms, hdisarm, hcancel, hfails⟩ := hgate hrefused
    simp [harms, hdisarm, hcancel, hfails]
  | drained hopen hdrained =>
    obtain ⟨harms, hdisarm, hcancel, hfails⟩ := hgate hopen
    obtain ⟨harms', hdisarm', hcancel'⟩ := hdrained.balanced
    simp only [List.countP_append, harms, hdisarm, hcancel, hfails, harms', hdisarm', hcancel',
      Nat.zero_add, Nat.add_zero, beq_self_eq_true, Bool.and_true]
    refine ⟨?_, ?_, trivial⟩
    · split <;> decide
    · cases ports.sleepDisarm <;> simp

theorem Slept.branch (h : Slept ports duration armed calls actions state result)
    (before : PowerState) : calls.foldl PowerCall.branch before = state := by
  cases h with
  | entered hrelease => exact hrelease.branch _
  | failed hfailed hcancel hrelease =>
    have hbroken : PowerCall.branch before (.deepSleep duration result) = .failed := if_neg hfailed
    rw [List.foldl_cons, hbroken, List.foldl_append]
    cases hcancel with
    | missing _ => exact hrelease.branch _
    | present _ _ => exact hrelease.branch _

theorem Prepared.branch (h : Prepared ports duration armed calls actions state result)
    (before : PowerState) : calls.foldl PowerCall.branch before = state := by
  cases h with
  | failed hfailed hrelease =>
    have hbroken : PowerCall.branch before (.prepareForSleep duration result) = .failed :=
      if_neg hfailed
    rw [List.foldl_cons, hbroken]
    exact hrelease.branch _
  | done hprepare hslept =>
    rw [List.foldl_append, (hprepare.neutral neutral_prepareForSleep).branch]
    exact hslept.branch before

theorem Drained.branch (h : Drained ports duration armed calls actions state result)
    (before : PowerState) : calls.foldl PowerCall.branch before = state := by
  cases h with
  | failed hfailed hrelease =>
    have hbroken : PowerCall.branch before (.logFlush result) = .failed := if_neg hfailed
    rw [List.foldl_cons, hbroken]
    exact hrelease.branch _
  | done hflush hprepared =>
    rw [List.foldl_append, (hflush.neutral neutral_logFlush).branch]
    exact hprepared.branch before

theorem Attempt.branch (h : Attempt ports duration calls actions state result) :
    calls.foldl PowerCall.branch .rejected = state := by
  have hgate {armed : Bool} {gate : List PowerCall} {result : Result}
      (h : Gate ports duration result armed gate) :
      gate.foldl PowerCall.branch .rejected = .rejected := by
    cases h <;> rfl
  cases h with
  | unsupported _ => rfl
  | refused hrefused _ => exact hgate hrefused
  | drained hopen hdrained =>
    rw [List.foldl_append, hgate hopen]
    exact hdrained.branch _

theorem Attempt.agreed (h : Attempt ports duration calls actions state result) :
    actions.foldlM powerTransitionAllowed .active = some state := by
  cases h with
  | unsupported _ => rfl
  | refused _ _ => rfl
  | drained _ hdrained =>
    cases hdrained with
    | failed _ _ => rfl
    | done _ hprepared =>
      cases hprepared with
      | failed _ _ => rfl
      | done _ hslept => cases hslept <;> rfl

theorem Released.ordered (h : Released ports armed calls) {before : List PowerCall}
    (harmed : armed = true → ∃ report, .sleepArm duration .ok report ∈ before) :
    Machine.Justified (fun earlier call => InOrder ports duration (before ++ earlier) call) calls := by
  unfold Released at h
  split at h
  · rename_i hset
    obtain ⟨result, hcalled⟩ := h
    cases hcalled with
    | missing _ => exact Machine.justified_nil
    | present _ _ =>
      obtain ⟨report, hmem⟩ := harmed hset
      exact Machine.justified_cons.mpr ⟨⟨report, List.mem_append_left _ hmem⟩, Machine.justified_nil⟩
  · rw [h]
    exact Machine.justified_nil

theorem ordered_cons {call : PowerCall} {before : List PowerCall}
    (hcall : InOrder ports duration before call)
    (h : Machine.Justified
      (fun earlier next => InOrder ports duration ((before ++ [call]) ++ earlier) next) calls) :
    Machine.Justified (fun earlier next => InOrder ports duration (before ++ earlier) next)
      (call :: calls) := by
  refine Machine.justified_cons.mpr ⟨?_, ?_⟩
  · rwa [List.append_nil]
  · intro earlier next hpre
    have hnext : InOrder ports duration ((before ++ [call]) ++ earlier) next := h earlier next hpre
    rwa [List.append_assoc, List.singleton_append] at hnext

theorem Slept.ordered (h : Slept ports duration armed calls actions state result)
    {before : List PowerCall} (hready : Ready ports duration before)
    (harmed : armed = true → ∃ report, .sleepArm duration .ok report ∈ before) :
    Machine.Justified (fun earlier call => InOrder ports duration (before ++ earlier) call) calls := by
  have hkept {more : List PowerCall} (h : armed = true) :
      ∃ report, .sleepArm duration .ok report ∈ before ++ more := by
    obtain ⟨report, hmem⟩ := harmed h
    exact ⟨report, List.mem_append_left _ hmem⟩
  cases h with
  | entered hrelease =>
    apply ordered_cons
    · exact ⟨rfl, hready⟩
    · exact hrelease.ordered hkept
  | failed hfailed hcancel hrelease =>
    apply ordered_cons
    · exact ⟨rfl, hready⟩
    have hslept : PowerCall.deepSleep duration result ∈ before ++ [.deepSleep duration result] :=
      List.mem_append_right _ List.mem_cons_self
    cases hcancel with
    | missing _ => exact hrelease.ordered hkept
    | present _ _ =>
      apply ordered_cons
      · exact ⟨result, hfailed, hslept⟩
      · rw [List.append_assoc]
        exact hrelease.ordered hkept

theorem Prepared.ordered (h : Prepared ports duration armed calls actions state result)
    {gate flush : List PowerCall} (hgate : Gate ports duration .ok armed gate)
    (hflush : Called ports.flush .logFlush .ok flush)
    (harmed : armed = true → ∃ report, .sleepArm duration .ok report ∈ gate) :
    Machine.Justified (fun earlier call => InOrder ports duration ((gate ++ flush) ++ earlier) call)
      calls := by
  have hkept {more : List PowerCall} (h : armed = true) :
      ∃ report, .sleepArm duration .ok report ∈ (gate ++ flush) ++ more := by
    obtain ⟨report, hmem⟩ := harmed h
    exact ⟨report, List.mem_append_left _ (List.mem_append_left _ hmem)⟩
  cases h with
  | failed _ hrelease =>
    apply ordered_cons
    · trivial
    · exact hrelease.ordered hkept
  | @done prepare _ _ _ _ hprepare hslept =>
    have hready : Ready ports duration ((gate ++ flush) ++ prepare) :=
      ⟨armed, gate, flush, prepare, List.append_assoc _ _ _, hgate, hflush, hprepare⟩
    cases hprepare with
    | missing _ =>
      rw [List.append_nil] at hready
      refine hslept.ordered hready fun h => ?_
      obtain ⟨report, hmem⟩ := harmed h
      exact ⟨report, List.mem_append_left _ hmem⟩
    | present _ _ =>
      apply ordered_cons
      · trivial
      · exact hslept.ordered hready hkept

theorem Drained.ordered (h : Drained ports duration armed calls actions state result)
    {gate : List PowerCall} (hgate : Gate ports duration .ok armed gate) :
    Machine.Justified (fun earlier call => InOrder ports duration (gate ++ earlier) call) calls := by
  have harmed (h : armed = true) : ∃ report, .sleepArm duration .ok report ∈ gate := by
    cases hgate with
    | unguarded _ _ => cases h
    | guarded _ _ _ _ => cases h
    | unarmed _ _ _ => cases h
    | armed report _ => exact ⟨report, List.mem_cons_self⟩
  cases h with
  | failed _ hrelease =>
    apply ordered_cons
    · trivial
    · apply hrelease.ordered
      intro h
      obtain ⟨report, hmem⟩ := harmed h
      exact ⟨report, List.mem_append_left _ hmem⟩
  | done hflush hprepared =>
    have hordered := hprepared.ordered hgate hflush harmed
    cases hflush with
    | missing _ =>
      rw [List.append_nil] at hordered
      exact hordered
    | present _ _ =>
      apply ordered_cons
      · trivial
      · exact hordered

theorem Attempt.ordered (h : Attempt ports duration calls actions state result) :
    Machine.Justified (InOrder ports duration) calls := by
  have hgate {armed : Bool} {gate : List PowerCall} {result : Result}
      (h : Gate ports duration result armed gate) : Machine.Justified (InOrder ports duration) gate := by
    cases h with
    | unguarded _ _ => exact Machine.justified_nil
    | guarded _ _ _ _ => exact Machine.justified_cons.mpr ⟨trivial, Machine.justified_nil⟩
    | unarmed _ _ _ => exact Machine.justified_cons.mpr ⟨trivial, Machine.justified_nil⟩
    | armed _ _ => exact Machine.justified_cons.mpr ⟨trivial, Machine.justified_nil⟩
  cases h with
  | unsupported _ => exact Machine.justified_nil
  | refused hrefused _ => exact hgate hrefused
  | drained hopen hdrained => exact Machine.justified_append _ (hgate hopen) (hdrained.ordered hopen)

end Stages

theorem branch_filter (calls : List PowerCall) :
    ∀ state, (calls.filter PowerCall.isPort).foldl PowerCall.branch state =
      calls.foldl PowerCall.branch state := by
  induction calls with
  | nil => exact fun _ => rfl
  | cons call calls ih =>
    intro state
    cases call with
    | logWrite tag message result => exact ih state
    | machineStep action result => exact ih state
    | _ => exact ih _

theorem countP_filter_isPort {p : PowerCall → Bool}
    (hp : ∀ call, p call = true → call.isPort = true) (calls : List PowerCall) :
    (calls.filter PowerCall.isPort).countP p = calls.countP p := by
  rw [List.countP_filter]
  apply List.countP_congr
  intro call _
  constructor
  · intro h
    exact (Bool.and_eq_true_iff.mp h).1
  · intro h
    exact Bool.and_eq_true_iff.mpr ⟨h, hp call h⟩

theorem Attempt.trace {ports : PowerPorts ω} {duration : UInt64} {calls all : List PowerCall}
    {actions : List PowerAction} {state : PowerState} {result : Result}
    (h : Attempt ports duration calls actions state result)
    (hcalls : all.filter PowerCall.isPort = calls)
    (hactions : all.filterMap PowerCall.machineStep? = actions.map fun action => (action, .ok)) :
    SleepTrace ports duration all state := by
  have hcount {p : PowerCall → Bool} (hp : ∀ call, p call = true → call.isPort = true) :
      calls.countP p = all.countP p := by
    rw [← hcalls]
    exact countP_filter_isPort hp all
  have harms : calls.countP PowerCall.arms = all.countP PowerCall.arms :=
    hcount fun call hcall => by cases call <;> first | rfl | cases hcall
  have hdisarms : calls.countP PowerCall.isDisarm = all.countP PowerCall.isDisarm :=
    hcount fun call hcall => by cases call <;> first | rfl | cases hcall
  have hcancels : calls.countP PowerCall.isCancel = all.countP PowerCall.isCancel :=
    hcount fun call hcall => by cases call <;> first | rfl | cases hcall
  have hfails : calls.countP PowerCall.sleepFails = all.countP PowerCall.sleepFails :=
    hcount fun call hcall => by cases call <;> first | rfl | cases hcall
  obtain ⟨honce, hdisarmed, hcancelled⟩ := h.balanced
  constructor
  · intro action result hmem
    have hstep : (action, result) ∈ all.filterMap PowerCall.machineStep? :=
      List.mem_filterMap.mpr ⟨_, hmem, rfl⟩
    rw [hactions] at hstep
    obtain ⟨_, _, heq⟩ := List.mem_map.mp hstep
    exact (Prod.mk.inj heq).2.symm
  · rw [hactions, List.map_map]
    have hsame : (Prod.fst ∘ fun action : PowerAction => (action, Result.ok)) = id := rfl
    rw [hsame, List.map_id]
    exact h.agreed
  · rw [← branch_filter, hcalls]
    exact h.branch.symm
  · rw [hcalls]
    exact h.ordered
  · rwa [← harms]
  · rwa [← harms, ← hdisarms]
  · rwa [← hfails, ← hcancels]

theorem handle_spec (ports : PowerPorts ω) (s : PowerActorState P ω) (msg : Inbound) :
    ∃ calls, (handle ports s msg).2.world.history = s.world.history ++ calls.map .called ∧
      (match sleepCommand msg with
        | none => calls = [] ∧ (handle ports s msg).2.ctx.lastState = s.ctx.lastState
        | some durationMs =>
          SleepTrace ports (durationUs durationMs) calls (handle ports s msg).2.ctx.lastState) ∧
      unanswered (handle ports s msg).2.ctx = unanswered s.ctx + refusals calls ∧
      rejectedSeen (handle ports s msg).2.ctx = rejectedSeen s.ctx + refusals calls := by
  have hquiet : s.world.history = s.world.history ++ ([] : List PowerCall).map .called :=
    (List.append_nil _).symm
  have hzero (count : UInt32) : count = count + refusals [] := (UInt32.add_zero count).symm
  have hbad (ctx : PowerActor) (hstate : ctx.lastState = s.ctx.lastState)
      (hanswered : unanswered ctx = unanswered s.ctx)
      (hrejected : rejectedSeen ctx = rejectedSeen s.ctx) (hnone : sleepCommand msg = none) :
      ∃ calls, (s.setCtx ctx).world.history = s.world.history ++ calls.map .called ∧
        (match sleepCommand msg with
          | none => calls = [] ∧ (s.setCtx ctx).ctx.lastState = s.ctx.lastState
          | some durationMs =>
            SleepTrace ports (durationUs durationMs) calls (s.setCtx ctx).ctx.lastState) ∧
        unanswered (s.setCtx ctx).ctx = unanswered s.ctx + refusals calls ∧
        rejectedSeen (s.setCtx ctx).ctx = rejectedSeen s.ctx + refusals calls := by
    rw [hnone]
    exact ⟨[], hquiet, ⟨rfl, hstate⟩, hanswered.trans (hzero _), hrejected.trans (hzero _)⟩
  unfold handle
  split
  · rename_i hevent
    split
    · rename_i hnone
      refine hbad _ rfl rfl ?_ ?_
      · simp only [rejectedSeen, reject]
        grind
      · rw [sleepCommand, if_pos hevent, hnone]
        rfl
    · rename_i durationMs hsome
      split
      · rename_i hrange
        refine hbad _ rfl rfl ?_ ?_
        · simp only [rejectedSeen, reject]
          grind
        · rw [sleepCommand, if_pos hevent, hsome, Option.filter_some, if_neg]
          simpa [imp_iff_not_or] using hrange
      · rename_i hrange
        obtain ⟨calls, actions, state, hattempt, ⟨all, hhistory, hcalls, hactions⟩, hstate, hanswered,
          hrejected⟩ := requestSleep_spec ports s durationMs
        have hcommand : sleepCommand msg = some durationMs := by
          rw [sleepCommand, if_pos hevent, hsome, Option.filter_some, if_pos]
          simpa [not_or] using hrange
        have hrefusals : refusals calls = refusals all := by
          rw [← hcalls, refusals, refusals, countP_filter_isPort]
          intro call hcall
          cases call <;> first | rfl | cases hcall
        rw [hrefusals] at hanswered hrejected
        rw [hcommand, hstate]
        exact ⟨all, hhistory, hattempt.trace hcalls hactions, hanswered, hrejected⟩
  · rename_i hevent
    refine hbad s.ctx rfl rfl rfl ?_
    rw [sleepCommand, if_neg hevent]

theorem refusedSoFar_append (s : PowerActorState P ω) {s' : PowerActorState P ω} {msg : Inbound}
    {calls : List PowerCall} {result : Result}
    (h : s'.world.history =
      s.world.history ++ (.received msg :: (calls.map .called ++ [.returned result]))) :
    refusedSoFar s' = refusedSoFar s + refusals calls := by
  have hcalls : (calls.map .called : List (ActorEvent P PowerCall)).filterMap call? = calls := by
    rw [List.filterMap_map]
    exact List.filterMap_some
  have hevents : (.received msg :: (calls.map .called ++ [.returned result]) :
      List (ActorEvent P PowerCall)).filterMap call? = calls := by
    rw [List.filterMap_cons_none (by rfl), List.filterMap_append, hcalls]
    exact List.append_nil _
  rw [refusedSoFar, h, List.filterMap_append, hevents, refusals_append]
  rfl

theorem step_disciplined (ports : PowerPorts ω) (s : PowerActorState P ω) (msg : Inbound) :
    Disciplined ports s msg ∧ (Accounted s → Accounted (step ports s msg)) := by
  obtain ⟨calls, hhistory, htrace, hanswered, hrejected⟩ :=
    handle_spec ports (s.note (.received msg)) msg
  have hall : (step ports s msg).world.history = s.world.history ++
      (.received msg :: (calls.map .called ++ [.returned (handle ports (s.note (.received msg)) msg).1])) := by
    rw [List.append_cons, ← List.append_assoc]
    exact congrArg (· ++ _) hhistory
  refine ⟨⟨calls, _, hall, htrace⟩, fun h => ?_⟩
  have hrefused := refusedSoFar_append s hall
  obtain ⟨hseen, hbad⟩ := h
  have hkept : (step ports s msg).ctx = (handle ports (s.note (.received msg)) msg).2.ctx := rfl
  rw [← hkept] at hanswered hrejected
  have hunanswered : unanswered s.ctx = refusedSoFar s := by
    rw [unanswered, hseen]
    grind
  have hrejectedSeen : rejectedSeen s.ctx = refusedSoFar s := by
    rw [rejectedSeen, hbad]
    grind
  have hanswered' : unanswered (step ports s msg).ctx = refusedSoFar s + refusals calls :=
    hanswered.trans (congrArg (· + _) hunanswered)
  have hrejected' : rejectedSeen (step ports s msg).ctx = refusedSoFar s + refusals calls :=
    hrejected.trans (congrArg (· + _) hrejectedSeen)
  constructor
  · rw [hrefused, ← hanswered', unanswered]
    grind
  · rw [hrefused, ← hrejected', rejectedSeen]
    grind

def start (outside : ω) : PowerActorState P ω where
  ctx := init
  world := { outside := outside }

/-- Every message of every run is handled in order and released, and the counters add up. -/
theorem sleep_disciplined (ports : PowerPorts ω) (outside : ω) (msgs : List Inbound) :
    Machine.Each (step ports) (Disciplined (P := P) ports) (start outside) msgs ∧
      Machine.Always (step ports) Accounted (start outside : PowerActorState P ω) msgs := by
  constructor
  · intro earlier msg _
    exact (step_disciplined ports _ msg).1
  · apply Machine.always_of_step
    · exact fun s msg h => (step_disciplined ports s msg).2 h
    · exact ⟨rfl, rfl⟩

end PowerActor

end EventFramework
