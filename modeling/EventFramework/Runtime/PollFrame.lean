import EventFramework.Core.OutsideFrame
import EventFramework.Runtime.IngressFairness

/-!
# What a whole poll keeps

An invariant that the parts of a poll keep is kept by the poll, and the result of the poll is one
that its parts can give.
-/

namespace EventFramework
set_option autoImplicit false

open FuelLoop

variable {P ν : Type}

theorem RuntimeGraph.pollSchedulerOnce_keeps {α : Type} {f : TimerService × ν → α}
    {prog : Program P (TimerService × ν)} (hprog : prog.Keeps f) (graph : RuntimeGraph P ν)
    (turnBudget : Nat) :
    f (graph.pollSchedulerOnce prog turnBudget).2.2.world.outside = f graph.world.outside := by
  have hrun := SameOutside.systemRun hprog graph.scheduler.system turnBudget graph.world
  unfold RuntimeGraph.pollSchedulerOnce RuntimeScheduler.pollOnce
  simp only
  split
  · exact hrun
  · exact hrun

structure RuntimeLoopReport.SameCounts (report other : RuntimeLoopReport) : Prop where
  pumpCalls : report.pumpCalls = other.pumpCalls
  turns : report.turns = other.turns
  messages : report.messages = other.messages
  irqSamples : report.irqSamples = other.irqSamples
  netSamples : report.netSamples = other.netSamples
  timersPublished : report.timersPublished = other.timersPublished

namespace RuntimeLoop

/-- The parts of a poll keep `Inv` and fail only with the results of `Good`; the scheduler is
polled while no budget is exhausted. -/
structure BudgetFrame (prog : Program P (TimerService × ν)) (policy : RuntimeLoopPolicy)
    (ports : RuntimeLoopPorts P ν) (Inv : LoopState P ν → Prop) (Good : Result → Prop) : Prop where
  ok : Good .ok
  isPartial : Good .errPartial
  report : ∀ s report, report.SameCounts s.report → Inv s → Inv { s with report := report }
  extraPending : ∀ s pending, Inv s → Inv { s with extraPending := pending }
  scheduler : ∀ s, Inv s → exhausted policy s.report = false →
    let out := s.graph.pollSchedulerOnce prog policy.schedulerTurnBudget.toNat
    Inv (polled s out.1 out.2.1 out.2.2) ∧ (out.1 = .errEmpty ∨ Good out.1)
  collect : ∀ s, Inv s → Inv (collect policy ports s).2 ∧ Good (RuntimeLoop.collect policy ports s).1
  publish : ∀ nowMs s, Inv s → Inv (publishTimers policy ports nowMs s).2
  clock : ∀ s, Inv s → Inv (readClock ports s).2.2 ∧ Good (readClock ports s).1
  ended : ∀ haveTiming startMs s, Inv s → Inv (readEnd ports haveTiming startMs s).2
  asked : ∀ endMs s, Inv s → Inv (askWork ports endMs s)

/-- The parts of a poll keep `Inv` and fail only with the results of `Good`. -/
structure PollFrame (prog : Program P (TimerService × ν)) (policy : RuntimeLoopPolicy)
    (ports : RuntimeLoopPorts P ν) (Inv : LoopState P ν → Prop) (Good : Result → Prop) : Prop where
  ok : Good .ok
  isPartial : Good .errPartial
  report : ∀ s report, report.timersPublished = s.report.timersPublished → Inv s →
    Inv { s with report := report }
  extraPending : ∀ s pending, Inv s → Inv { s with extraPending := pending }
  scheduler : ∀ s, Inv s →
    let out := s.graph.pollSchedulerOnce prog policy.schedulerTurnBudget.toNat
    Inv (polled s out.1 out.2.1 out.2.2) ∧ (out.1 = .errEmpty ∨ Good out.1)
  collect : ∀ s, Inv s → Inv (collect policy ports s).2 ∧ Good (RuntimeLoop.collect policy ports s).1
  publish : ∀ nowMs s, Inv s → Inv (publishTimers policy ports nowMs s).2
  clock : ∀ s, Inv s → Inv (readClock ports s).2.2 ∧ Good (readClock ports s).1
  ended : ∀ haveTiming startMs s, Inv s → Inv (readEnd ports haveTiming startMs s).2
  asked : ∀ endMs s, Inv s → Inv (askWork ports endMs s)

variable {prog : Program P (TimerService × ν)} {policy : RuntimeLoopPolicy}
  {ports : RuntimeLoopPorts P ν} {Inv : LoopState P ν → Prop} {Good : Result → Prop} {fuel : Nat}
  {s : LoopState P ν} {out : Result × LoopState P ν} {nowMs : UInt32}

namespace BudgetFrame

theorem recordExhausted (h : BudgetFrame prog policy ports Inv Good) (hs : Inv s) :
    Inv (RuntimeLoop.recordExhausted policy s) :=
  h.report s _ ⟨rfl, rfl, rfl, rfl, rfl, rfl⟩ hs

theorem drain (h : BudgetFrame prog policy ports Inv Good) (hs : Inv s)
    (hrun : drainScheduler prog policy fuel s = some out) : Inv out.2 ∧ Good out.1 := by
  have hbody {t : LoopState P ν} (ht : Inv t)
      {step : Step (LoopState P ν) (Result × LoopState P ν)}
      (hstep : drainBody prog policy t = some step) :
      (∀ u, step = .again u → Inv u) ∧ ∀ r, step = .done r → Inv r.2 ∧ Good r.1 := by
    have hscheduler := h.scheduler t ht
    unfold drainBody at hstep
    generalize t.graph.pollSchedulerOnce prog policy.schedulerTurnBudget.toNat = polling at *
    simp only at hstep
    split at hstep
    · split at hstep
      · obtain rfl := Option.some.inj hstep
        refine ⟨(fun u hu => by cases hu), fun r hr => ?_⟩
        obtain rfl := Step.done.inj hr
        exact ⟨h.report t _ ⟨rfl, rfl, rfl, rfl, rfl, rfl⟩ ht, h.ok⟩
      · rename_i hleft
        obtain ⟨hpolled, hgood⟩ := hscheduler (Bool.eq_false_iff.mpr hleft)
        split at hstep
        · obtain rfl := Option.some.inj hstep
          refine ⟨fun u hu => ?_, (fun r hr => by cases hr)⟩
          obtain rfl := Step.again.inj hu
          exact h.recordExhausted hpolled
        · rename_i hfailed
          split at hstep
          · obtain rfl := Option.some.inj hstep
            refine ⟨(fun u hu => by cases hu), fun r hr => ?_⟩
            obtain rfl := Step.done.inj hr
            exact ⟨hpolled, h.ok⟩
          · rename_i hnonempty
            obtain rfl := Option.some.inj hstep
            refine ⟨(fun u hu => by cases hu), fun r hr => ?_⟩
            obtain rfl := Step.done.inj hr
            exact ⟨h.report _ _ ⟨rfl, rfl, rfl, rfl, rfl, rfl⟩ hpolled, hgood.resolve_left hnonempty⟩
    · obtain rfl := Option.some.inj hstep
      refine ⟨(fun u hu => by cases hu), fun r hr => ?_⟩
      obtain rfl := Step.done.inj hr
      exact ⟨ht, h.ok⟩
  exact loop_ends Inv (fun r : Result × LoopState P ν => Inv r.2 ∧ Good r.1)
    (fun t u ht hstep => (hbody ht hstep).1 u rfl) (fun t r ht hstep => (hbody ht hstep).2 r rfl)
    hs hrun

theorem ingress (h : BudgetFrame prog policy ports Inv Good) (hs : Inv s)
    (hrun : RuntimeLoop.ingress prog policy ports fuel s = some out) : Inv out.2 ∧ Good out.1 :=
  ingressLoop_keeps Inv Good h.collect
    (fun _ _ _ ht hdrained => h.drain (h.recordExhausted ht) hdrained) hs hrun

theorem drainAfter (h : BudgetFrame prog policy ports Inv Good) (hs : Inv s)
    (hrun : drainAfterTimers prog policy fuel s = some out) : Inv out.2 ∧ Good out.1 := by
  unfold drainAfterTimers at hrun
  split at hrun
  · exact h.drain hs hrun
  · rw [← Option.some.inj hrun]
    exact ⟨hs, h.ok⟩

theorem timers (h : BudgetFrame prog policy ports Inv Good) (hs : Inv s)
    (hrun : publishLoop prog policy ports nowMs fuel s = some out) : Inv out.2 ∧ Good out.1 :=
  publishLoop_keeps Inv Good
    (fun t _ _ ht hdrained => h.drainAfter (h.recordExhausted (h.publish nowMs t ht)) hdrained)
    hs hrun

theorem phases (h : BudgetFrame prog policy ports Inv Good) (hs : Inv s)
    (hrun : RuntimeLoop.phases prog policy ports fuel s = some out) : Inv out.2 ∧ Good out.1 := by
  obtain ⟨first, hfirst, ⟨_, rfl⟩ | ⟨_, htimers⟩⟩ := phases_cases hrun
  · exact h.ingress hs hfirst
  · obtain ⟨hread, hgood⟩ := h.clock first.2 (h.ingress hs hfirst).1
    rcases timerPhase_cases htimers with ⟨_, rfl⟩ | ⟨_, hloop⟩
    · exact ⟨hread, hgood⟩
    · exact h.timers hread hloop

theorem finalize (h : BudgetFrame prog policy ports Inv Good) (haveTiming : Bool) (startMs : UInt32)
    {rc : Result} (hs : Inv s) (hgood : Good rc) :
    Inv (RuntimeLoop.finalize ports haveTiming startMs rc s).2 ∧
      Good (RuntimeLoop.finalize ports haveTiming startMs rc s).1 := by
  have hended := h.ended haveTiming startMs _ (h.report s
    { s.report with pendingAfter := UInt32.ofNat s.graph.schedulerPending }
    ⟨rfl, rfl, rfl, rfl, rfl, rfl⟩ hs)
  unfold RuntimeLoop.finalize
  simp only
  split
  · have hasked := h.asked (readEnd ports haveTiming startMs (recordPending s)).1 _ hended
    split
    · exact ⟨h.report _ _ ⟨rfl, rfl, rfl, rfl, rfl, rfl⟩
        (h.report _ _ ⟨rfl, rfl, rfl, rfl, rfl, rfl⟩ hasked), h.isPartial⟩
    · exact ⟨h.report _ _ ⟨rfl, rfl, rfl, rfl, rfl, rfl⟩ hasked, h.ok⟩
  · exact ⟨h.report _ _ ⟨rfl, rfl, rfl, rfl, rfl, rfl⟩ hended, hgood⟩

/-- The invariant holds when the poll ends, and its result is one of `Good`. -/
theorem pollOnce (h : BudgetFrame prog policy ports Inv Good) {graph : RuntimeGraph P ν} {rc : Result}
    (hbudget : policy.schedulerTurnBudget ≠ 0 ∧ policy.timerPublishBudget ≠ 0)
    (hs : Inv (start ports graph).2.2)
    (hrun : RuntimeLoop.pollOnce prog (some policy) ports fuel graph = some (rc, s)) :
    Inv s ∧ Good rc := by
  unfold RuntimeLoop.pollOnce at hrun
  simp only [Option.getD_some] at hrun
  rw [if_neg (not_or.mpr hbudget)] at hrun
  cases hphases : RuntimeLoop.phases prog policy ports fuel (start ports graph).2.2 with
  | none =>
    rw [hphases] at hrun
    cases hrun
  | some ended =>
    rw [hphases] at hrun
    obtain ⟨ht, hgood⟩ := h.phases hs hphases
    have hlast := h.finalize (start ports graph).1 (start ports graph).2.1 ht hgood
    rw [Option.some.inj hrun] at hlast
    exact hlast

end BudgetFrame

theorem PollFrame.budget (h : PollFrame prog policy ports Inv Good) :
    BudgetFrame prog policy ports Inv Good where
  ok := h.ok
  isPartial := h.isPartial
  report s report hcounts hs := h.report s report hcounts.timersPublished hs
  extraPending := h.extraPending
  scheduler s hs _ := h.scheduler s hs
  collect := h.collect
  publish := h.publish
  clock := h.clock
  ended := h.ended
  asked := h.asked

/-- The invariant holds when the poll ends, and its result is one of `Good`. -/
theorem PollFrame.pollOnce (h : PollFrame prog policy ports Inv Good) {graph : RuntimeGraph P ν}
    {rc : Result} (hbudget : policy.schedulerTurnBudget ≠ 0 ∧ policy.timerPublishBudget ≠ 0)
    (hs : Inv (start ports graph).2.2)
    (hrun : RuntimeLoop.pollOnce prog (some policy) ports fuel graph = some (rc, s)) :
    Inv s ∧ Good rc :=
  h.budget.pollOnce hbudget hs hrun

end RuntimeLoop

end EventFramework
