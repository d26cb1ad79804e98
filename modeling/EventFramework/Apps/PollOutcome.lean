import EventFramework.Apps.IngressFrame
import EventFramework.Core.PumpStops
import EventFramework.Core.QueueBounds

/-!
# What the result of a poll of the application says

A handler that fails with a code that stops the pumps makes the poll return that code, and nothing
is handled after it. A poll that succeeds leaves no message queued.
-/

namespace EventFramework
set_option autoImplicit false

variable {P ε α : Type}

namespace DemoApp

open DemoGraph

theorem recordPortStats_keeps {f : ε → α} {ports : DemoPorts P ε} (hports : ports.Keeps f)
    (graph : DemoGraph P ε) : f (app (recordPortStats ports graph)).env = f (app graph).env := by
  unfold recordPortStats
  cases hirq : ports.irq.bind IngressIrqPort.getStats with
  | none =>
    cases hnet : ports.net.bind IngressNetPort.getStats with
    | none => rfl
    | some getStats => exact hports.netStats getStats hnet _
  | some irqStats =>
    cases hnet : ports.net.bind IngressNetPort.getStats with
    | none => exact hports.irqStats irqStats hirq _
    | some getStats => exact (hports.netStats getStats hnet _).trans (hports.irqStats irqStats hirq _)

theorem askWork_graph {f : ε → α} {ports : DemoPorts P ε} (hports : ports.Keeps f) (endMs : UInt32)
    (s : LoopState P (DemoApp P ε)) : ∃ outside, (RuntimeLoop.askWork (loopPorts ports) endMs s).graph =
      ⟨s.graph.scheduler, ⟨s.graph.world.registry, outside, s.graph.world.history⟩⟩ ∧
        f outside.2.env = f (app s.graph).env := by
  refine ⟨_, rfl, ?_⟩
  change f (app (loopWorkPending ports endMs s.report s.graph).2.2).env = f (app s.graph).env
  unfold loopWorkPending
  cases hirq : ports.irq.bind IngressIrqPort.wait with
  | none =>
    cases hnet : ports.net.bind IngressNetPort.getStats with
    | none => rfl
    | some getStats => exact hports.netStats getStats hnet _
  | some wait =>
    cases hnet : ports.net.bind IngressNetPort.getStats with
    | none => exact hports.irqWait wait hirq _
    | some getStats => exact (hports.netStats getStats hnet _).trans (hports.irqWait wait hirq _)

/-- What the end `t` of the phases with `ended` has in common with the poll that returns `rc`. -/
structure Finalized (f : ε → α) (ended : Result) (t : LoopState P (DemoApp P ε)) (rc : Result)
    (graph : DemoGraph P ε) : Prop where
  scheduler : graph.scheduler = t.graph.scheduler
  registry : graph.world.registry = t.graph.world.registry
  history : graph.world.history = t.graph.world.history
  view : f (app graph).env = f (app t.graph).env
  result : rc = ended ∨ ended = .ok ∧ rc = .errPartial
  drained : rc = .ok → t.report.exhausted = true → UInt32.ofNat t.graph.schedulerPending = 0

/-- What follows the phases of a poll only asks the ports. -/
theorem finalize_finalized {f : ε → α} {ports : DemoPorts P ε} (hports : ports.Keeps f)
    (haveTiming : Bool) (startMs : UInt32) (rc : Result) (t : LoopState P (DemoApp P ε)) :
    let out := RuntimeLoop.finalize (loopPorts ports) haveTiming startMs rc t
    Finalized f rc t out.1 (recordPortStats ports out.2.graph) := by
  have hread : ∃ outside, (RuntimeLoop.readEnd (loopPorts ports) haveTiming startMs
      (RuntimeLoop.recordPending t)).2.graph =
        ⟨t.graph.scheduler, ⟨t.graph.world.registry, outside, t.graph.world.history⟩⟩ ∧
      f outside.2.env = f (app t.graph).env := by
    unfold RuntimeLoop.readEnd
    split
    · exact ⟨_, rfl, WorldFrame.nowMs_keeps hports _⟩
    · exact ⟨_, rfl, rfl⟩
  obtain ⟨outside, hread, hview⟩ := hread
  have hstats (graph : DemoGraph P ε) : f (app (recordPortStats ports graph)).env = f (app graph).env :=
    recordPortStats_keeps hports graph
  rcases RuntimeLoop.finalize_cases (loopPorts ports) haveTiming startMs rc t with
    ⟨hspent, heq⟩ | ⟨hok, report, heq, hrc⟩
  · simp only
    rw [heq]
    have hgraph : (RuntimeLoop.recordResult rc (RuntimeLoop.readEnd (loopPorts ports) haveTiming startMs
        (RuntimeLoop.recordPending t)).2).graph = _ := hread
    rw [hgraph]
    exact ⟨rfl, rfl, rfl, (hstats _).trans hview, Or.inl rfl,
      fun hok hexhausted => absurd ⟨hok, hexhausted⟩ hspent⟩
  · have hasked : ∃ outside', (RuntimeLoop.finalize (loopPorts ports) haveTiming startMs rc t).2.graph =
        ⟨t.graph.scheduler, ⟨t.graph.world.registry, outside', t.graph.world.history⟩⟩ ∧
        f outside'.2.env = f (app t.graph).env := by
      obtain ⟨outside', hafter, hview'⟩ := askWork_graph hports
        (RuntimeLoop.readEnd (loopPorts ports) haveTiming startMs (RuntimeLoop.recordPending t)).1
        (RuntimeLoop.readEnd (loopPorts ports) haveTiming startMs (RuntimeLoop.recordPending t)).2
      rw [hread] at hafter hview'
      rw [heq]
      exact ⟨outside', hafter, hview'.trans hview⟩
    obtain ⟨outside', hasked, hview'⟩ := hasked
    simp only
    rw [hasked]
    refine ⟨rfl, rfl, rfl, (hstats _).trans hview', ?_, fun hgood _ => ?_⟩
    · rcases hrc with hexhaust | ⟨hgood, _⟩
      · exact Or.inr ⟨hok, hexhaust⟩
      · exact Or.inl (hgood.trans hok.symm)
    · rcases hrc with hexhaust | ⟨_, hnone⟩
      · exact absurd (hexhaust.symm.trans hgood) (by decide)
      · exact hnone

section Poll

variable {ports : DemoPorts P ε} {handler : ActorId → Msg P → HandlerProg P (DemoOutside P ε)}
  {graph : DemoGraph P ε}

/-- What a poll does until a handler stops it: `T` and `S` of the pumps, which all that happens
between the runs of the pumps keeps. -/
structure PollStops (f : ε → α) (ports : DemoPorts P ε)
    (handler : ActorId → Msg P → HandlerProg P (DemoOutside P ε))
    (T : World P (DemoOutside P ε) → World P (DemoOutside P ε) → Prop)
    (S : Result → World P (DemoOutside P ε) → World P (DemoOutside P ε) → Prop) : Prop where
  pumps : StopFrame (program ports handler) T S
  world : ∀ w, WorldFrame f ports (T w)
  outside : ∀ {rc w w' w''}, S rc w w' → w''.registry = w'.registry → w''.history = w'.history →
    f w''.outside.2.env = f w'.outside.2.env → S rc w w''

theorem keeps_nothing (ports : DemoPorts P ε) : ports.Keeps fun _ => () where
  callbacks := ⟨fun _ _ _ _ _ => rfl, fun _ _ _ _ _ => rfl⟩
  clock _ := rfl
  irqPop _ _ _ := rfl
  irqStats _ _ _ := rfl
  irqWait _ _ _ := rfl
  netPoll _ _ _ := rfl
  netStats _ _ _ := rfl

theorem sound_worldFrame (ports : DemoPorts P ε) :
    WorldFrame (fun _ => ()) ports fun w => w.registry.Sound where
  keeps := keeps_nothing ports
  outside hw hregistry _ _ := hregistry ▸ hw
  deliver w target msg qos wantReport := KeepsSound.deliver _ w target msg qos wantReport
  deliverTimer _ w target msg := KeepsSound.deliver _ w target msg .critical false

namespace PollStops

variable {f : ε → α} {T : World P (DemoOutside P ε) → World P (DemoOutside P ε) → Prop}
  {S : Result → World P (DemoOutside P ε) → World P (DemoOutside P ε) → Prop}

theorem pollSchedulerOnce (h : PollStops f ports handler T S) (graph : DemoGraph P ε)
    (turnBudget : Nat) :
    Ran T S (graph.pollSchedulerOnce (program ports handler) turnBudget).1 graph.world
      (graph.pollSchedulerOnce (program ports handler) turnBudget).2.2.world := by
  obtain ⟨hran, hspent⟩ := h.pumps.systemRun graph.scheduler.system turnBudget graph.world
  unfold RuntimeGraph.pollSchedulerOnce RuntimeScheduler.pollOnce
  simp only
  split
  · rename_i hexhausted
    have hok := hspent hexhausted
    exact Or.inl (hran.goes fun hstops => hstops.1 hok)
  · exact hran

/-- Until a phase ends no handler has stopped the poll. -/
theorem endFrame (h : PollStops f ports handler T S) (policy : RuntimeLoopPolicy)
    (graph : DemoGraph P ε) :
    RuntimeLoop.EndFrame (program ports handler) policy (loopPorts ports)
      (fun s => T graph.world s.graph.world) (fun rc s => Ran T S rc graph.world s.graph.world) where
  report _ _ hs := hs
  again _ hs := hs.goes fun hstops => hstops.1 rfl
  drained _ hs _ := Or.inl hs
  undrained _ hs _ := Or.inl hs
  scheduler s hs _ := by
    have hran := h.pumps.after hs (h.pollSchedulerOnce s.graph policy.schedulerTurnBudget.toNat)
    refine ⟨fun hgood => hran.goes fun hstops => ?_, fun _ _ _ => hran⟩
    rcases hgood with hok | hexhaust
    · exact hstops.1 hok
    · exact hstops.2.2 hexhaust
  collect _ hs _ := (h.world graph.world).collect policy hs
  collectFailed _ hs _ := Or.inl ((h.world graph.world).collect policy hs)
  publish nowMs _ hs := (h.world graph.world).publishTimers policy nowMs hs
  clock _ hs _ := (h.world graph.world).clock hs
  clockFailed _ hs _ := Or.inl ((h.world graph.world).clock hs)

end PollStops

theorem sound_endFrame (ports : DemoPorts P ε)
    (handler : ActorId → Msg P → HandlerProg P (DemoOutside P ε)) (policy : RuntimeLoopPolicy) :
    RuntimeLoop.EndFrame (program ports handler) policy (loopPorts ports)
      (fun s => s.graph.world.registry.Sound)
      (fun rc s => s.graph.world.registry.Sound ∧ (policy.runSchedulerAfterTimers = true → rc = .ok →
        s.graph.schedulerPending = 0 ∨ s.report.exhausted = true)) where
  report _ _ hs := hs
  again _ hs := hs.1
  drained _ hs hdone := ⟨hs, fun _ _ => hdone⟩
  undrained _ hs hoff := ⟨hs, fun hon => absurd (hoff.symm.trans hon) Bool.false_ne_true⟩
  scheduler s hs _ := by
    have hrun := KeepsSound.systemRun (program ports handler) s.graph.scheduler.system
      policy.schedulerTurnBudget.toNat s.graph.world hs
    have hpolled : (s.graph.pollSchedulerOnce (program ports handler)
        policy.schedulerTurnBudget.toNat).2.2.world.registry.Sound := by
      unfold RuntimeGraph.pollSchedulerOnce RuntimeScheduler.pollOnce
      simp only
      split
      · exact hrun
      · exact hrun
    exact ⟨fun _ => hpolled, fun hfailed _ _ => ⟨hpolled, fun _ hok => absurd (Or.inl hok) hfailed⟩⟩
  collect _ hs _ := (sound_worldFrame ports).collect policy hs
  collectFailed _ hs hfailed :=
    ⟨(sound_worldFrame ports).collect policy hs, fun _ hok => absurd hok hfailed⟩
  publish nowMs _ hs := (sound_worldFrame ports).publishTimers policy nowMs hs
  clock _ hs _ := (sound_worldFrame ports).clock hs
  clockFailed _ hs hfailed := ⟨(sound_worldFrame ports).clock hs, fun _ hok => absurd hok hfailed⟩

theorem poll_ends {f : ε → α} (hports : ports.Keeps f) {Inv : LoopState P (DemoApp P ε) → Prop}
    {End : Result → LoopState P (DemoApp P ε) → Prop}
    (h : RuntimeLoop.EndFrame (program ports handler) (app graph).pollPolicy (loopPorts ports) Inv End)
    (hstart : Inv (RuntimeLoop.start (loopPorts ports) graph).2.2)
    (hboot : (app graph).bootPublished = true) {fuel : Nat} {rc : Result}
    {s : LoopState P (DemoApp P ε)} (hpoll : poll ports handler fuel graph = some (rc, s)) :
    ∃ ended t, End ended t ∧ Finalized f ended t rc s.graph := by
  unfold poll at hpoll
  rw [if_neg (by rw [hboot]; decide)] at hpoll
  split at hpoll
  · cases hpoll
  · rename_i rc' s' hrun
    obtain ⟨rfl, rfl⟩ := Prod.mk.inj (Option.some.inj hpoll)
    obtain ⟨ended, t, hend, heq⟩ := h.pollOnce (app graph).pollPolicy_budgets hstart hrun
    have hfinal := finalize_finalized hports (RuntimeLoop.start (loopPorts ports) graph).1
      (RuntimeLoop.start (loopPorts ports) graph).2.1 ended t
    simp only at hfinal
    rw [← heq] at hfinal
    exact ⟨ended, t, hend, hfinal⟩

theorem poll_unbooted (hboot : (app graph).bootPublished = false) {fuel : Nat} {rc : Result}
    {s : LoopState P (DemoApp P ε)} (hpoll : poll ports handler fuel graph = some (rc, s)) :
    rc = .errState ∧ s.graph = graph := by
  unfold poll at hpoll
  rw [if_pos hboot] at hpoll
  obtain ⟨rfl, rfl⟩ := Prod.mk.inj (Option.some.inj hpoll)
  exact ⟨rfl, rfl⟩

/-- A handler that stops the pumps ends the poll, which returns the code of the handler. -/
theorem PollStops.poll {f : ε → α} {T : World P (DemoOutside P ε) → World P (DemoOutside P ε) → Prop}
    {S : Result → World P (DemoOutside P ε) → World P (DemoOutside P ε) → Prop}
    (h : PollStops f ports handler T S) {fuel : Nat} {rc : Result} {s : LoopState P (DemoApp P ε)}
    (hpoll : DemoApp.poll ports handler fuel graph = some (rc, s)) :
    Ran T S rc graph.world s.graph.world := by
  have hsame : T graph.world graph.world := h.pumps.quiet (.of_same rfl rfl)
  cases hboot : (app graph).bootPublished with
  | false =>
    obtain ⟨_, hgraph⟩ := poll_unbooted hboot hpoll
    rw [hgraph]
    exact Or.inl hsame
  | true =>
    have hports := (h.world graph.world).keeps
    have hstart : T graph.world (RuntimeLoop.start (loopPorts ports) graph).2.2.graph.world :=
      (h.world graph.world).outside hsame rfl rfl (WorldFrame.nowMs_keeps hports _)
    obtain ⟨ended, t, hend, hfinal⟩ :=
      poll_ends hports (h.endFrame (app graph).pollPolicy graph) hstart hboot hpoll
    have hran : Ran T S ended graph.world s.graph.world := by
      rcases hend with hgoes | ⟨hstops, hstopped⟩
      · exact Or.inl ((h.world graph.world).outside hgoes hfinal.registry hfinal.history hfinal.view)
      · exact Or.inr ⟨hstops, h.outside hstopped hfinal.registry hfinal.history hfinal.view⟩
    rcases hfinal.result with rfl | ⟨hok, _⟩
    · exact hran
    · exact Or.inl (hran.goes fun hstops => hstops.1 hok)

theorem calm_pollStops (ports : DemoPorts P ε)
    (handler : ActorId → Msg P → HandlerProg P (DemoOutside P ε)) :
    PollStops (fun _ => ()) ports handler (Extends PumpEvent.Calm) Stopped where
  pumps := stopFrame (program ports handler)
  world w := by
    have hdelivered {ω : Type} (cb : Callbacks P ω) (w : World P ω) (target : ActorId) (msg : Msg P)
        (qos : RouteQos) (wantReport : Bool) :
        Extends PumpEvent.Calm w (w.deliver cb target msg qos wantReport).2.2 := by
      refine ⟨_, w.deliver_history cb target msg qos wantReport, fun m hm => ?_⟩
      rw [List.mem_singleton.mp hm]
      trivial
    refine ⟨keeps_nothing ports, fun hw _ hhistory _ => hw.trans (.of_same hhistory), ?_, ?_⟩
    · exact fun w' target msg qos wantReport hw => hw.trans (hdelivered _ w' target msg qos wantReport)
    · exact fun timers w' target msg hw => hw.trans (hdelivered _ w' target msg .critical false)
  outside hstopped _ hhistory _ := hstopped.settled (.of_same hhistory)

/-- A poll keeps the mailboxes well formed, and one that succeeds leaves nothing queued. -/
theorem poll_drains (hsound : graph.world.registry.Sound) {fuel : Nat} {rc : Result}
    {s : LoopState P (DemoApp P ε)} (hpoll : poll ports handler fuel graph = some (rc, s)) :
    s.graph.world.registry.Sound ∧ (rc = .ok → s.graph.schedulerPending = 0) := by
  cases hboot : (app graph).bootPublished with
  | false =>
    obtain ⟨hrc, hsame⟩ := poll_unbooted hboot hpoll
    rw [hsame]
    exact ⟨hsound, fun hok => absurd (hrc.symm.trans hok) (by decide)⟩
  | true =>
    obtain ⟨ended, t, ⟨hkept, hdone⟩, hfinal⟩ :=
      poll_ends (keeps_nothing ports) (sound_endFrame ports handler (app graph).pollPolicy) hsound hboot
        hpoll
    refine ⟨hfinal.registry ▸ hkept, fun hok => ?_⟩
    have hpending : s.graph.schedulerPending = t.graph.schedulerPending := by
      unfold RuntimeGraph.schedulerPending
      rw [hfinal.scheduler, hfinal.registry]
    have hended : ended = .ok := by
      rcases hfinal.result with hsame | ⟨hsame, _⟩
      · exact hsame.symm.trans hok
      · exact hsame
    rw [hpending]
    rcases hdone rfl hended with hnone | hspent
    · exact hnone
    · have hbound : t.graph.schedulerPending < 2 ^ 32 := hkept.systemPending_lt _
      have hcount := congrArg UInt32.toNat (hfinal.drained hok hspent)
      rw [UInt32.toNat_ofNat_of_lt' hbound] at hcount
      exact hcount

end Poll

section Queued

def queuedGraph : DemoGraph Unit (UInt32 × UInt32) :=
  let graph := bootedGraph 0
  let mailbox := (Mailbox.fresh .fifo8).push Callbacks.none { Msg.blank with eventId := .tick1s } ()
  { graph with world := { graph.world with
      registry := ActorRegistry.fresh.setRuntime ⟨.power, mailbox.2.1, {}⟩ } }

theorem queuedGraph_sound : queuedGraph.world.registry.Sound := by
  have hfresh : (ActorRegistry.fresh : ActorRegistry Unit).Sound := fun actor runtime hslot => by
    cases hslot
  refine hfresh.setRuntime ?_
  exact (Mailbox.push_matches Callbacks.none (Mailbox.fresh_holds .fifo8) _ ()).holds.1

theorem poll_drains_queued : 0 < queuedGraph.schedulerPending ∧
    ∃ s, poll countingPorts (fun _ _ => .ret .ok) 8 queuedGraph = some (.ok, s) ∧
      s.graph.world.registry.Sound ∧ s.graph.schedulerPending = 0 := by
  have hpoll : (poll countingPorts (fun _ _ => .ret .ok) 8 queuedGraph).map Prod.fst = some .ok := by
    decide
  obtain ⟨⟨rc, s⟩, hsome, hrc⟩ := Option.map_eq_some_iff.mp hpoll
  obtain rfl : rc = .ok := hrc
  obtain ⟨hsound, hnone⟩ := poll_drains queuedGraph_sound hsome
  exact ⟨by decide, s, hsome, hsound, hnone rfl⟩

end Queued

end DemoApp

end EventFramework
