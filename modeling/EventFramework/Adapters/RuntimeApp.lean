import EventFramework.Apps.PollOutcome
import EventFramework.Library.Machine

/-!
# The main loop of the device

`ev_runtime_app.c` after its initialisation: poll, restart the device if the poll fails, else wait
for work. The log lines and the smoke markers are left out.
-/

namespace EventFramework
set_option autoImplicit false

open DemoApp DemoGraph

variable {P ε α : Type}

/-- The ports of the main loop: `irqWait` waits for an interrupt, `delayMs` for the time alone, both
at most so many milliseconds. -/
structure RuntimeAppPorts (P ε : Type) extends DemoPorts P ε where
  irqWait : Option (UInt32 → ε → Result × ε)
  delayMs : Option (UInt32 → ε → ε)
  restart : ε → ε

inductive RuntimeAppPhase where
  | running
  | restarted (rc : Result)
  deriving DecidableEq, Repr

/-- The application in its main loop. `waits` is read by no function. -/
structure RuntimeApp (P ε : Type) where
  graph : DemoGraph P ε
  phase : RuntimeAppPhase := .running
  waits : List UInt32 := []

namespace RuntimeApp

/-- `EV_RUNTIME_APP_MIN_WAIT_MS`. -/
def minWaitMs : UInt32 := 1

/-- `EV_RUNTIME_APP_MAX_WAIT_MS`. -/
def maxWaitMs : UInt32 := 100

def waitUntil (nowMs : UInt32) : Option UInt32 → UInt32
  | none => maxWaitMs
  | some nextDeadlineMs =>
    if (nextDeadlineMs - nowMs).toInt32 ≤ 0 then 0
    else
      let waitMs := nextDeadlineMs - nowMs
      let waitMs := if maxWaitMs < waitMs then maxWaitMs else waitMs
      if waitMs < minWaitMs then minWaitMs else waitMs

/-- `ev_runtime_app_compute_wait_ms`. -/
def computeWaitMs (ports : RuntimeAppPorts P ε) (graph : DemoGraph P ε) :
    Result × UInt32 × DemoGraph P ε :=
  if 0 < graph.schedulerPending then (.ok, 0, graph)
  else
    let clock := ports.nowMs (app graph).env
    let graph := graph.setEnv clock.2.2
    if clock.1 ≠ .ok then (.errState, minWaitMs, graph)
    else (.ok, waitUntil clock.2.1 graph.timers.nextDeadlineMs, graph)

def delay (ports : RuntimeAppPorts P ε) (waitMs : UInt32) (graph : DemoGraph P ε) : DemoGraph P ε :=
  match ports.delayMs with
  | none => graph
  | some delayMs => graph.setEnv (delayMs waitMs (app graph).env)

/-- The wait for an interrupt, or for the time where the port cannot wait. -/
def pause (ports : RuntimeAppPorts P ε) (waitMs : UInt32) (graph : DemoGraph P ε) : DemoGraph P ε :=
  match ports.irqWait with
  | none => delay ports waitMs graph
  | some irqWait =>
    let woken := irqWait waitMs (app graph).env
    if woken.1 = .ok then graph.setEnv woken.2 else delay ports waitMs (graph.setEnv woken.2)

/-- `ev_runtime_app_wait_for_work`, with the wait that it chose. -/
def waitForWork (ports : RuntimeAppPorts P ε) (graph : DemoGraph P ε) : UInt32 × DemoGraph P ε :=
  let computed := computeWaitMs ports graph
  let waitMs := if computed.1 ≠ .ok then minWaitMs else computed.2.1
  if waitMs = 0 then (0, computed.2.2) else (waitMs, pause ports waitMs computed.2.2)

/-- Fuel that no poll of the application runs out of. -/
def pollFuel : Nat := 12 * (TimerService.firingLimit + 32)

/-- One iteration of the main loop, after what `interrupt` did outside. -/
def step (ports : RuntimeAppPorts P ε) (handler : ActorId → Msg P → HandlerProg P (DemoOutside P ε))
    (s : RuntimeApp P ε) (interrupt : ε → ε) : RuntimeApp P ε :=
  match s.phase with
  | .restarted _ => s
  | .running =>
    match poll ports.toDemoPorts handler pollFuel (s.graph.setEnv (interrupt (app s.graph).env)) with
    | none => s
    | some (rc, polled) =>
      if rc ≠ .ok ∧ rc ≠ .errPartial then
        { s with
          graph := setEnv polled.graph (ports.restart (app polled.graph).env)
          phase := .restarted rc }
      else
        let waited := waitForWork ports polled.graph
        { s with graph := waited.2, waits := s.waits ++ [waited.1] }

section Totality

variable {ports : DemoPorts P ε} {handler : ActorId → Msg P → HandlerProg P (DemoOutside P ε)}

theorem enough_pollFuel (app : DemoApp P ε) : RuntimeLoop.Enough app.pollPolicy pollFuel := by
  have hcalls : app.pollPolicy.maxPumpCalls.toNat = 10 := rfl
  have hirq : app.pollPolicy.maxIrqSamples.toNat = 16 := rfl
  have hnet : app.pollPolicy.maxNetSamples.toNat = 16 := rfl
  unfold pollFuel
  generalize hlimit : TimerService.firingLimit = limit
  refine ⟨?_, ?_, ?_⟩
  · rw [hcalls]
    omega
  · rw [hirq, hnet]
    omega
  · rw [hcalls, hlimit]
    omega

theorem poll_isSome (ports : DemoPorts P ε)
    (handler : ActorId → Msg P → HandlerProg P (DemoOutside P ε)) (graph : DemoGraph P ε) :
    ∃ rc s, poll ports handler pollFuel graph = some (rc, s) := by
  unfold poll
  split
  · exact ⟨_, _, rfl⟩
  · have hstart : RuntimeLoop.Steady (app graph).pollPolicy
        (RuntimeLoop.start (loopPorts ports) graph).2.2 := by
      refine ⟨⟨rfl, ?_⟩, fun event hmem => by cases hmem⟩
      exact UInt32.le_iff_toNat_le.mpr (Nat.zero_le _)
    obtain ⟨out, hphases, _⟩ := RuntimeLoop.phases_returns (program ports handler)
      (app graph).pollPolicy (loopPorts ports) (enough_pollFuel (app graph)) hstart
    have hrun : ∃ out, RuntimeLoop.pollOnce (program ports handler) (some (app graph).pollPolicy)
        (loopPorts ports) pollFuel graph = some out := by
      unfold RuntimeLoop.pollOnce
      simp only [Option.getD_some]
      rw [if_neg (not_or.mpr (app graph).pollPolicy_budgets), hphases]
      exact ⟨_, rfl⟩
    obtain ⟨⟨rc, s⟩, hrun⟩ := hrun
    rw [hrun]
    exact ⟨_, _, rfl⟩

end Totality

/-- The functions of the ports leave what `f` reads alone. -/
structure Keeps (f : ε → α) (ports : RuntimeAppPorts P ε) : Prop where
  demo : ports.toDemoPorts.Keeps f
  irqWait : ∀ irqWait, ports.irqWait = some irqWait → ∀ waitMs e, f (irqWait waitMs e).2 = f e
  delayMs : ∀ delayMs, ports.delayMs = some delayMs → ∀ waitMs e, f (delayMs waitMs e) = f e
  restart : ∀ e, f (ports.restart e) = f e

variable {f : ε → α} {ports : RuntimeAppPorts P ε}
  {handler : ActorId → Msg P → HandlerProg P (DemoOutside P ε)}

/-- Two graphs that differ only in what lies behind the ports, and there not in what `f` reads. -/
structure SameWorld (f : ε → α) (graph other : DemoGraph P ε) : Prop where
  scheduler : other.scheduler = graph.scheduler
  registry : other.world.registry = graph.world.registry
  history : other.world.history = graph.world.history
  view : f (app other).env = f (app graph).env

theorem SameWorld.trans {graph graph' graph'' : DemoGraph P ε} (h : SameWorld f graph graph')
    (h' : SameWorld f graph' graph'') : SameWorld f graph graph'' :=
  ⟨h'.scheduler.trans h.scheduler, h'.registry.trans h.registry, h'.history.trans h.history,
    h'.view.trans h.view⟩

theorem setEnv_same (graph : DemoGraph P ε) {e : ε} (h : f e = f (app graph).env) :
    SameWorld f graph (graph.setEnv e) := ⟨rfl, rfl, rfl, h⟩

theorem pause_same (hports : Keeps f ports) (waitMs : UInt32) (graph : DemoGraph P ε) :
    SameWorld f graph (pause ports waitMs graph) := by
  have hdelay (graph : DemoGraph P ε) : SameWorld f graph (delay ports waitMs graph) := by
    unfold delay
    split
    · exact ⟨rfl, rfl, rfl, rfl⟩
    · rename_i delayMs hdelay
      exact setEnv_same _ (hports.delayMs delayMs hdelay waitMs _)
  unfold pause
  split
  · exact hdelay graph
  · rename_i irqWait hirq
    have hwoken := setEnv_same (f := f) graph (hports.irqWait irqWait hirq waitMs _)
    simp only
    split
    · exact hwoken
    · exact hwoken.trans (hdelay _)

theorem waitForWork_same (hports : Keeps f ports) (graph : DemoGraph P ε) :
    SameWorld f graph (waitForWork ports graph).2 := by
  have hcomputed : SameWorld f graph (computeWaitMs ports graph).2.2 := by
    have hclock := setEnv_same (f := f) graph
      (WorldFrame.nowMs_keeps hports.demo (app graph).env)
    unfold computeWaitMs
    split
    · exact ⟨rfl, rfl, rfl, rfl⟩
    · simp only
      split
      · exact hclock
      · exact hclock
  unfold waitForWork
  simp only
  generalize computeWaitMs ports graph = computed at *
  generalize (if computed.1 ≠ .ok then minWaitMs else computed.2.1) = waitMs
  split
  · exact hcomputed
  · exact hcomputed.trans (pause_same hports waitMs computed.2.2)

theorem step_cases (ports : RuntimeAppPorts P ε)
    (handler : ActorId → Msg P → HandlerProg P (DemoOutside P ε)) (s : RuntimeApp P ε)
    (interrupt : ε → ε) :
    (s.phase ≠ .running ∧ step ports handler s interrupt = s) ∨
    s.phase = .running ∧ ∃ rc polled,
      poll ports.toDemoPorts handler pollFuel (s.graph.setEnv (interrupt (app s.graph).env)) =
        some (rc, polled) ∧
      ((rc ≠ .ok ∧ rc ≠ .errPartial ∧ step ports handler s interrupt = { s with
          graph := setEnv polled.graph (ports.restart (app polled.graph).env)
          phase := .restarted rc }) ∨
        (rc = .ok ∨ rc = .errPartial) ∧ step ports handler s interrupt = { s with
          graph := (waitForWork ports polled.graph).2
          waits := s.waits ++ [(waitForWork ports polled.graph).1] }) := by
  unfold step
  cases hphase : s.phase with
  | restarted rc => exact Or.inl ⟨RuntimeAppPhase.noConfusion, rfl⟩
  | running =>
    obtain ⟨rc, polled, hpoll⟩ := poll_isSome ports.toDemoPorts handler
      (s.graph.setEnv (interrupt (app s.graph).env))
    refine Or.inr ⟨rfl, rc, polled, hpoll, ?_⟩
    simp only [hpoll]
    by_cases hfailed : rc ≠ .ok ∧ rc ≠ .errPartial
    · rw [if_pos hfailed]
      exact Or.inl ⟨hfailed.1, hfailed.2, rfl⟩
    · rw [if_neg hfailed]
      refine Or.inr ⟨?_, rfl⟩
      rcases not_and_or.mp hfailed with hok | hpartial
      · exact Or.inl (not_not.mp hok)
      · exact Or.inr (not_not.mp hpartial)

section Restarts

variable {T : World P (DemoOutside P ε) → World P (DemoOutside P ε) → Prop}
  {S : Result → World P (DemoOutside P ε) → World P (DemoOutside P ε) → Prop}

/-- While the loop runs no handler stopped the pumps; a restart has the code of the one that did. -/
def Restarts (T : World P (DemoOutside P ε) → World P (DemoOutside P ε) → Prop)
    (S : Result → World P (DemoOutside P ε) → World P (DemoOutside P ε) → Prop)
    (w : World P (DemoOutside P ε)) (s : RuntimeApp P ε) : Prop :=
  match s.phase with
  | .running => T w s.graph.world
  | .restarted rc => Ran T S rc w s.graph.world

theorem Restarts.step {w : World P (DemoOutside P ε)} {s : RuntimeApp P ε} (h : Restarts T S w s)
    (hstops : PollStops f ports.toDemoPorts handler T S) (hports : Keeps f ports) {interrupt : ε → ε}
    (hinterrupt : ∀ e, f (interrupt e) = f e) : Restarts T S w (step ports handler s interrupt) := by
  rcases step_cases ports handler s interrupt with
    ⟨_, heq⟩ | ⟨hrunning, rc, polled, hpoll, hended⟩
  · rw [heq]
    exact h
  · have hbefore : T w s.graph.world := by
      unfold Restarts at h
      rw [hrunning] at h
      exact h
    have hinterrupted : T w (s.graph.setEnv (interrupt (app s.graph).env)).world :=
      (hstops.world w).outside hbefore rfl rfl (hinterrupt _)
    have hran : Ran T S rc w polled.graph.world := hstops.pumps.after hinterrupted (hstops.poll hpoll)
    rcases hended with ⟨_, _, heq⟩ | ⟨hgood, heq⟩
    · rw [heq]
      unfold Restarts
      simp only
      rcases hran with hgoes | ⟨hcode, hstopped⟩
      · exact Or.inl ((hstops.world w).outside hgoes rfl rfl (hports.restart _))
      · exact Or.inr ⟨hcode, hstops.outside hstopped rfl rfl (hports.restart _)⟩
    · have hgoes : T w polled.graph.world := hran.goes fun hcode => by
        rcases hgood with hok | hpartial
        · exact hcode.1 hok
        · exact hcode.2.2 hpartial
      have hwaited := waitForWork_same hports polled.graph
      rw [heq]
      unfold Restarts
      simp only [hrunning]
      generalize (waitForWork ports polled.graph).2 = waited at hwaited ⊢
      exact (hstops.world w).outside hgoes hwaited.registry hwaited.history hwaited.view

end Restarts

/-- In every run of the main loop a handler that fails with a code that stops the pumps restarts the
device with this code, and nothing is handled after it. -/
theorem fail_stop (ports : RuntimeAppPorts P ε)
    (handler : ActorId → Msg P → HandlerProg P (DemoOutside P ε)) (graph : DemoGraph P ε)
    (interrupts : List (ε → ε)) :
    Machine.Always (step ports handler)
      (fun s => ∃ later, s.graph.world.history = graph.world.history ++ later ∧
        ∀ before actor code registry after,
          later = before ++ ⟨.returned actor code, registry⟩ :: after → code.Stops →
            s.phase = .restarted code ∧ ∀ m ∈ after, m.event.Idle)
      { graph := graph } interrupts := by
  have hports : Keeps (fun _ => ()) ports :=
    ⟨keeps_nothing _, fun _ _ _ _ => rfl, fun _ _ _ _ => rfl, fun _ => rfl⟩
  have hstart : Restarts (Extends PumpEvent.Calm) Stopped graph.world
      ({ graph := graph } : RuntimeApp P ε) := .of_same rfl
  have halways : Machine.Always (step ports handler)
      (Restarts (Extends PumpEvent.Calm) Stopped graph.world) { graph := graph } interrupts :=
    Machine.always_of_step (fun s interrupt h => h.step (calm_pollStops _ handler) hports fun _ => rfl)
      hstart interrupts
  refine halways.imp fun s h => ?_
  unfold Restarts at h
  split at h
  · obtain ⟨later, heq, hcalm⟩ := h
    refine ⟨later, heq, fun before actor code registry after hsplit hstops => ?_⟩
    have hmem : ⟨.returned actor code, registry⟩ ∈ later :=
      hsplit ▸ List.mem_append_right before List.mem_cons_self
    exact absurd hstops (hcalm _ hmem)
  · rename_i rc hphase
    obtain ⟨later, heq, hstop⟩ := h.stop
    refine ⟨later, heq, fun before actor code registry after hsplit hstops => ?_⟩
    obtain ⟨rfl, hidle⟩ := hstop before actor code registry after hsplit hstops
    exact ⟨hphase, hidle⟩

def pausingPorts : RuntimeAppPorts Unit (UInt32 × UInt32) where
  toDemoPorts := countingPorts
  irqWait := none
  delayMs := some fun _ e => e
  restart := id

def failed (m : Moment Unit) : Bool :=
  match m.event with
  | .returned .power .errState => true
  | _ => false

/-- The handler of the queued message fails in the first of two iterations: the device restarts with
its code. -/
theorem fail_stop_queued :
    let run := Machine.run (step pausingPorts fun _ _ => .ret .errState) { graph := queuedGraph }
      [id, id]
    ∃ before registry after, run.graph.world.history = queuedGraph.world.history ++
        (before ++ ⟨.returned .power .errState, registry⟩ :: after) ∧
      run.phase = .restarted .errState ∧ ∀ m ∈ after, m.event.Idle := by
  intro run
  obtain ⟨later, hhistory, hstop⟩ := fail_stop pausingPorts (fun _ _ => .ret .errState) queuedGraph
    [id, id] [id, id] (List.prefix_refl _)
  change run.graph.world.history = _ at hhistory
  have hany : run.graph.world.history.any failed = true := by decide
  have hnone : queuedGraph.world.history = [] := rfl
  rw [hhistory, hnone, List.nil_append] at hany
  obtain ⟨⟨event, registry⟩, hmem, hfailed⟩ := List.any_eq_true.mp hany
  obtain ⟨before, after, hsplit⟩ := List.append_of_mem hmem
  unfold failed at hfailed
  split at hfailed
  · rename_i hevent
    obtain rfl : event = .returned .power .errState := hevent
    exact ⟨before, registry, after, hsplit ▸ hhistory,
      hstop before .power .errState registry after hsplit ⟨by decide, by decide, by decide⟩⟩
  · cases hfailed

section Waits

/-- Every active deadline lies less than `2 ^ 30` ms before or after the clock. -/
def Near (nowMs : UInt32) (svc : TimerService) : Prop :=
  ∀ index, (svc.slots index).active = true →
    0 < ((svc.slots index).deadlineMs - nowMs + 1073741824).toNat ∧
      ((svc.slots index).deadlineMs - nowMs + 1073741824).toNat < 2 ^ 31

/-- The next deadline is the least, counted from a time before all of them. -/
theorem Near.least {nowMs : UInt32} {svc : TimerService} (h : Near nowMs svc) {index : TimerIndex}
    (hactive : (svc.slots index).active = true) :
    ∃ next, svc.nextDeadlineMs = some next ∧ (next - nowMs + 1073741824).toNat ≤
      ((svc.slots index).deadlineMs - nowMs + 1073741824).toNat := by
  have hfuture : ∀ other, (svc.slots other).active = true →
      TimerService.isDue (nowMs - 1073741824) (svc.slots other).deadlineMs = false := by
    intro other hother
    obtain ⟨hpos, hlt⟩ := h other hother
    rw [Bool.eq_false_iff, ne_eq, TimerService.isDue_iff]
    simp only [UInt32.toNat_sub, UInt32.toNat_add, UInt32.toNat_ofNat] at hpos hlt ⊢
    have hnow := nowMs.toNat_lt
    have hdeadline := (svc.slots other).deadlineMs.toNat_lt
    omega
  obtain ⟨next, hnext, _, hle⟩ := TimerService.nextDeadlineMs_le hfuture hactive
  have hshift (d : UInt32) : d - (nowMs - 1073741824) = d - nowMs + 1073741824 := by
    apply UInt32.toNat_inj.mp
    simp only [UInt32.toNat_sub, UInt32.toNat_add, UInt32.toNat_ofNat]
    have hnow := nowMs.toNat_lt
    have hd := d.toNat_lt
    omega
  rw [hshift, hshift] at hle
  exact ⟨next, hnext, hle⟩

/-- A deadline near the clock is due, or lies ahead by less than half of the range. -/
theorem due_or_ahead {nowMs deadlineMs : UInt32}
    (hpos : 0 < (deadlineMs - nowMs + 1073741824).toNat)
    (hlt : (deadlineMs - nowMs + 1073741824).toNat < 2 ^ 31) :
    (TimerService.isDue nowMs deadlineMs = true ∧ (deadlineMs - nowMs).toInt32 ≤ 0 ∧
      (deadlineMs - nowMs + 1073741824).toNat ≤ 1073741824) ∨
    (TimerService.isDue nowMs deadlineMs = false ∧ ¬(deadlineMs - nowMs).toInt32 ≤ 0 ∧
      (deadlineMs - nowMs + 1073741824).toNat = (deadlineMs - nowMs).toNat + 1073741824 ∧
      0 < (deadlineMs - nowMs).toNat) := by
  have hint : (deadlineMs - nowMs).toInt32.toInt = (deadlineMs - nowMs).toBitVec.toInt := rfl
  have hback : (nowMs - deadlineMs).toNat = (2 ^ 32 - (deadlineMs - nowMs).toNat) % 2 ^ 32 := by
    have hnow := nowMs.toNat_lt
    have hdeadline := deadlineMs.toNat_lt
    simp only [UInt32.toNat_sub]
    omega
  rw [Bool.eq_false_iff, ne_eq, TimerService.isDue_iff, Int32.le_iff_toInt_le, hint,
    BitVec.toInt_eq_toNat_cond, hback]
  simp only [UInt32.toNat_toBitVec, Int32.toInt_zero]
  rw [UInt32.toNat_add] at hpos hlt ⊢
  have hbound := (deadlineMs - nowMs).toNat_lt
  generalize (deadlineMs - nowMs).toNat = ahead at *
  simp only [UInt32.toNat_ofNat] at hpos hlt ⊢
  split
  · omega
  · omega

theorem waitUntil_ahead {nowMs deadlineMs : UInt32} (hahead : ¬(deadlineMs - nowMs).toInt32 ≤ 0)
    (hmore : 0 < (deadlineMs - nowMs).toNat) :
    waitUntil nowMs (some deadlineMs) =
      if maxWaitMs < deadlineMs - nowMs then maxWaitMs else deadlineMs - nowMs := by
  simp only [waitUntil, if_neg hahead]
  split
  · exact if_neg (by decide)
  · refine if_neg ?_
    rw [UInt32.lt_iff_toNat_lt]
    exact Nat.not_lt.mpr hmore

/-- The wait with nothing queued: none just when a timer is due, else the time to the first deadline,
at most the longest wait. -/
theorem Near.waitUntil {nowMs : UInt32} {svc : TimerService} (h : Near nowMs svc) :
    let waitMs := waitUntil nowMs svc.nextDeadlineMs
    (waitMs = 0 ↔ ∃ index, (svc.slots index).active = true ∧
      TimerService.isDue nowMs (svc.slots index).deadlineMs = true) ∧
    waitMs ≤ maxWaitMs ∧
    (waitMs ≠ 0 → (∀ index, (svc.slots index).active = true →
        waitMs ≤ (svc.slots index).deadlineMs - nowMs) ∧
      (waitMs = maxWaitMs ∨ ∃ index, (svc.slots index).active = true ∧
        waitMs = (svc.slots index).deadlineMs - nowMs)) := by
  cases hnext : svc.nextDeadlineMs with
  | none =>
    have hidle : ∀ index, ¬(svc.slots index).active = true := by
      intro index hactive
      obtain ⟨next, hsome, _⟩ := h.least hactive
      cases hnext.symm.trans hsome
    have hlong : maxWaitMs ≠ 0 := by decide
    refine ⟨⟨fun hzero => absurd hzero hlong, ?_⟩, UInt32.le_refl _, fun _ => ⟨?_, Or.inl rfl⟩⟩
    · rintro ⟨index, hactive, _⟩
      exact absurd hactive (hidle index)
    · exact fun index hactive => absurd hactive (hidle index)
  | some next =>
    have hleast (index : TimerIndex) (hactive : (svc.slots index).active = true) :
        (next - nowMs + 1073741824).toNat ≤
          ((svc.slots index).deadlineMs - nowMs + 1073741824).toNat := by
      obtain ⟨next, hsome, hle⟩ := h.least hactive
      rw [Option.some.inj (hnext.symm.trans hsome)]
      exact hle
    obtain ⟨first, hfirst, rfl⟩ := TimerService.nextDeadlineMs_mem hnext
    obtain ⟨hpos, hlt⟩ := h first hfirst
    rcases due_or_ahead hpos hlt with ⟨hdue, hreached, _⟩ | ⟨_, hahead, hkey, hmore⟩
    · have hzero : RuntimeApp.waitUntil nowMs (some (svc.slots first).deadlineMs) = 0 := if_pos hreached
      rw [hzero]
      exact ⟨⟨fun _ => ⟨first, hfirst, hdue⟩, fun _ => rfl⟩, by decide, fun hwait => absurd rfl hwait⟩
    · rw [waitUntil_ahead hahead hmore]
      have hlater (index : TimerIndex) (hactive : (svc.slots index).active = true) :
          TimerService.isDue nowMs (svc.slots index).deadlineMs = false ∧
            ((svc.slots first).deadlineMs - nowMs).toNat ≤
              ((svc.slots index).deadlineMs - nowMs).toNat := by
        have hle := hleast index hactive
        obtain ⟨hpos', hlt'⟩ := h index hactive
        rcases due_or_ahead hpos' hlt' with ⟨_, _, hbehind⟩ | ⟨hno, _, hkey', _⟩
        · omega
        · exact ⟨hno, by omega⟩
      have hnone : ¬∃ index, (svc.slots index).active = true ∧
          TimerService.isDue nowMs (svc.slots index).deadlineMs = true := by
        rintro ⟨index, hactive, hdue⟩
        exact absurd ((hlater index hactive).1.symm.trans hdue) Bool.false_ne_true
      have hclosest (index : TimerIndex) (hactive : (svc.slots index).active = true) :
          (svc.slots first).deadlineMs - nowMs ≤ (svc.slots index).deadlineMs - nowMs :=
        UInt32.le_iff_toNat_le.mpr (hlater index hactive).2
      have hnonzero : (svc.slots first).deadlineMs - nowMs ≠ 0 := fun hzero =>
        absurd (congrArg UInt32.toNat hzero) (Nat.ne_of_gt hmore)
      split
      · rename_i hlong
        exact ⟨⟨fun hzero => absurd hzero (by decide), fun hdue => absurd hdue hnone⟩,
          UInt32.le_refl _, fun _ => ⟨fun index hactive =>
            UInt32.le_trans (UInt32.le_of_lt hlong) (hclosest index hactive), Or.inl rfl⟩⟩
      · rename_i hshort
        exact ⟨⟨fun hzero => absurd hzero hnonzero, fun hdue => absurd hdue hnone⟩,
          UInt32.not_lt.mp hshort, fun _ => ⟨hclosest, Or.inr ⟨first, hfirst, rfl⟩⟩⟩

/-- The main loop goes on at once just when a message is queued or a timer is due. Otherwise it waits
for the first deadline, but not past the longest wait. -/
theorem waitForWork_exact (ports : RuntimeAppPorts P ε) (graph : DemoGraph P ε)
    (hclock : (ports.nowMs (app graph).env).1 = .ok)
    (hnear : Near (ports.nowMs (app graph).env).2.1 graph.timers) :
    let nowMs := (ports.nowMs (app graph).env).2.1
    let waitMs := (waitForWork ports graph).1
    (waitMs = 0 ↔ 0 < graph.schedulerPending ∨ ∃ index, (graph.timers.slots index).active = true ∧
      TimerService.isDue nowMs (graph.timers.slots index).deadlineMs = true) ∧
    waitMs ≤ maxWaitMs ∧
    (waitMs ≠ 0 → (∀ index, (graph.timers.slots index).active = true →
        waitMs ≤ (graph.timers.slots index).deadlineMs - nowMs) ∧
      (waitMs = maxWaitMs ∨ ∃ index, (graph.timers.slots index).active = true ∧
        waitMs = (graph.timers.slots index).deadlineMs - nowMs)) := by
  simp only
  by_cases hqueued : 0 < graph.schedulerPending
  · have hzero : (waitForWork ports graph).1 = 0 := by
      simp only [waitForWork, computeWaitMs, if_pos hqueued, ne_eq, not_true_eq_false, if_false, if_true]
    rw [hzero]
    exact ⟨⟨fun _ => Or.inl hqueued, fun _ => rfl⟩, by decide, fun hwait => absurd rfl hwait⟩
  · have hwait : (waitForWork ports graph).1 =
        waitUntil (ports.nowMs (app graph).env).2.1 graph.timers.nextDeadlineMs := by
      simp only [waitForWork, computeWaitMs, if_neg hqueued, hclock, ne_eq, not_true_eq_false, if_false]
      split
      · rename_i hzero
        exact hzero.symm
      · rfl
    obtain ⟨hzero, hrest⟩ := hnear.waitUntil
    rw [hwait]
    exact ⟨hzero.trans ⟨Or.inr, fun h => h.resolve_left hqueued⟩, hrest⟩

theorem timerServiceCapacity_pos : 0 < timerServiceCapacity := by decide

def timedGraph : DemoGraph Unit (UInt32 × UInt32) :=
  let graph := bootedGraph 0
  let slot : TimerSlot :=
    { TimerService.init.slots ⟨0, timerServiceCapacity_pos⟩ with
      active := true, deadlineMs := 1040, periodMs := 50, period_pos := fun _ => by decide }
  let timers := TimerService.init.setSlot ⟨0, timerServiceCapacity_pos⟩ slot
  { graph with world := { graph.world with outside := (timers, graph.world.outside.2) } }

theorem waitForWork_exact_timed :
    Near 1000 timedGraph.timers ∧ (waitForWork pausingPorts timedGraph).1 = 40 ∧
      (∀ index, (timedGraph.timers.slots index).active = true →
        (40 : UInt32) ≤ (timedGraph.timers.slots index).deadlineMs - 1000) := by
  have hnear : Near 1000 timedGraph.timers := by
    unfold Near
    decide
  have hwait : (waitForWork pausingPorts timedGraph).1 = 40 := by decide
  have hexact := waitForWork_exact pausingPorts timedGraph rfl hnear
  refine ⟨hnear, hwait, ?_⟩
  have hlater := (hexact.2.2 (by rw [hwait]; decide)).1
  rw [hwait] at hlater
  exact hlater

end Waits

end RuntimeApp

end EventFramework
