import EventFramework.Core.PumpStops
import EventFramework.Runtime.PollFrame

/-!
# How a poll ends

What holds between the parts of a poll, and what holds of the state that it ends in with a result.
A handler that stops the pumps ends the poll with its code; a poll that succeeds leaves nothing
queued.
-/

namespace EventFramework
set_option autoImplicit false

open FuelLoop

variable {P ν σ : Type}

theorem TimerService.publishDue_context (port : TimerPort P σ) (Inv : σ → Prop)
    (hport : ∀ svc context target msg, Inv context → Inv (port svc context target msg).2.2)
    (svc : TimerService) (nowMs : UInt32) {context : σ} (maxPublish : Nat) (h : Inv context) :
    Inv (svc.publishDue nowMs (some port.callback) context maxPublish).context := by
  have hvisit (index : TimerIndex) (t : Publishing σ) (ht : Inv t.context) :
      Inv (t.visit port.callback nowMs index).context := by
    have hsent := hport t.service t.context (t.service.slots index).targetActor
      (t.service.slots index).message.2 ht
    unfold Publishing.visit Publishing.deliver
    split
    · simp only
      split
      · split
        · exact hsent
        · exact hsent
      · exact ht
    · exact ht
  have hall (indices : List TimerIndex) : ∀ t : Publishing σ, Inv t.context →
      Inv (Publishing.visitAll port.callback nowMs maxPublish indices t).context := by
    induction indices with
    | nil => exact fun t ht => ht
    | cons index indices ih =>
      intro t ht
      rw [Publishing.visitAll]
      split
      · exact ih _ (hvisit index t ht)
      · exact ht
  exact hall _ _ h

namespace RuntimeLoop

/-- `Inv` holds between the parts of a poll and `End rc` where a phase ends with `rc`. A drain
succeeds when nothing is queued or a budget is spent. -/
structure EndFrame (prog : Program P (TimerService × ν)) (policy : RuntimeLoopPolicy)
    (ports : RuntimeLoopPorts P ν) (Inv : LoopState P ν → Prop)
    (End : Result → LoopState P ν → Prop) : Prop where
  report : ∀ s report, Inv s → Inv { s with report := report }
  again : ∀ s, End .ok s → Inv s
  drained : ∀ s, Inv s → s.graph.schedulerPending = 0 ∨ s.report.exhausted = true → End .ok s
  undrained : ∀ s, Inv s → policy.runSchedulerAfterTimers = false → End .ok s
  scheduler : ∀ s, Inv s → 0 < s.graph.schedulerPending →
    let out := s.graph.pollSchedulerOnce prog policy.schedulerTurnBudget.toNat
    let t := polled s out.1 out.2.1 out.2.2
    (out.1 = .ok ∨ out.1 = .errPartial → Inv t) ∧
      (¬(out.1 = .ok ∨ out.1 = .errPartial) → out.1 ≠ .errEmpty →
        ∀ report, End out.1 { t with report := report })
  collect : ∀ s, Inv s → (RuntimeLoop.collect policy ports s).1 = .ok →
    Inv (RuntimeLoop.collect policy ports s).2
  collectFailed : ∀ s, Inv s → (RuntimeLoop.collect policy ports s).1 ≠ .ok →
    End (RuntimeLoop.collect policy ports s).1 (RuntimeLoop.collect policy ports s).2
  publish : ∀ nowMs s, Inv s → Inv (publishTimers policy ports nowMs s).2
  clock : ∀ s, Inv s → (readClock ports s).1 = .ok → Inv (readClock ports s).2.2
  clockFailed : ∀ s, Inv s → (readClock ports s).1 ≠ .ok →
    End (readClock ports s).1 (readClock ports s).2.2

namespace EndFrame

variable {prog : Program P (TimerService × ν)} {policy : RuntimeLoopPolicy}
  {ports : RuntimeLoopPorts P ν} {Inv : LoopState P ν → Prop} {End : Result → LoopState P ν → Prop}
  {fuel : Nat} {s : LoopState P ν} {out : Result × LoopState P ν} {nowMs : UInt32}

theorem drain (h : EndFrame prog policy ports Inv End) (hs : Inv s)
    (hrun : drainScheduler prog policy fuel s = some out) : End out.1 out.2 := by
  have hbody {t : LoopState P ν} (ht : Inv t)
      {step : Step (LoopState P ν) (Result × LoopState P ν)}
      (hstep : drainBody prog policy t = some step) :
      (∀ u, step = .again u → Inv u) ∧ ∀ r, step = .done r → End r.1 r.2 := by
    unfold drainBody at hstep
    split at hstep
    · rename_i hwork
      have hscheduler := h.scheduler t ht hwork.1
      have hfound := pollSchedulerOnce_ne_empty prog t.graph policy.schedulerTurnBudget.toNat hwork.1
      generalize t.graph.pollSchedulerOnce prog policy.schedulerTurnBudget.toNat = polling at *
      split at hstep
      · obtain rfl := Option.some.inj hstep
        refine ⟨(fun u hu => by cases hu), fun r hr => ?_⟩
        obtain rfl := Step.done.inj hr
        exact h.drained _ (h.report t _ ht) (Or.inr rfl)
      · simp only at hstep
        split at hstep
        · rename_i hgood
          obtain rfl := Option.some.inj hstep
          refine ⟨fun u hu => ?_, (fun r hr => by cases hr)⟩
          obtain rfl := Step.again.inj hu
          exact h.report _ _ (hscheduler.1 hgood)
        · rename_i hfailed
          obtain rfl := Option.some.inj hstep
          refine ⟨(fun u hu => by cases hu), fun r hr => ?_⟩
          obtain rfl := Step.done.inj hr
          exact hscheduler.2 hfailed hfound _
    · rename_i hidle
      obtain rfl := Option.some.inj hstep
      refine ⟨(fun u hu => by cases hu), fun r hr => ?_⟩
      obtain rfl := Step.done.inj hr
      refine h.drained t ht ?_
      rcases not_and_or.mp hidle with hnone | hspent
      · exact Or.inl (Nat.eq_zero_of_not_pos hnone)
      · exact Or.inr (Bool.not_eq_false _ ▸ hspent)
  exact loop_ends Inv (fun r : Result × LoopState P ν => End r.1 r.2)
    (fun t u ht hstep => (hbody ht hstep).1 u rfl) (fun t r ht hstep => (hbody ht hstep).2 r rfl)
    hs hrun

theorem ingress (h : EndFrame prog policy ports Inv End) (hs : Inv s)
    (hrun : RuntimeLoop.ingress prog policy ports fuel s = some out) : End out.1 out.2 := by
  have hdrained {t u : LoopState P ν} {rc : Result} (ht : Inv t)
      (hok : (RuntimeLoop.collect policy ports t).1 = .ok)
      (hdrain : drainScheduler prog policy fuel
        (recordExhausted policy (RuntimeLoop.collect policy ports t).2) = some (rc, u)) : End rc u :=
    h.drain (h.report _ _ (h.collect t ht hok)) hdrain
  refine loop_ends Inv (fun r : Result × LoopState P ν => End r.1 r.2) ?_ ?_ hs hrun
  · intro t u ht hstep
    rcases ingressBody_cases hstep with ⟨_, hdone⟩ | ⟨hok, rc, v, hdrain, hdone | ⟨rfl, _, hagain⟩⟩
    · cases hdone
    · cases hdone
    · obtain rfl := Step.again.inj hagain
      exact h.again _ (hdrained ht hok hdrain)
  · intro t r ht hstep
    rcases ingressBody_cases hstep with ⟨hfailed, hdone⟩ | ⟨hok, rc, v, hdrain, hdone | ⟨_, _, hagain⟩⟩
    · obtain rfl := Step.done.inj hdone
      exact h.collectFailed t ht hfailed
    · obtain rfl := Step.done.inj hdone
      exact hdrained ht hok hdrain
    · cases hagain

theorem drainAfter (h : EndFrame prog policy ports Inv End) (hs : Inv s)
    (hrun : drainAfterTimers prog policy fuel s = some out) : End out.1 out.2 := by
  unfold drainAfterTimers at hrun
  split at hrun
  · exact h.drain hs hrun
  · rename_i hskipped
    rw [← Option.some.inj hrun]
    rcases not_and_or.mp hskipped with hoff | hspent
    · exact h.undrained s hs (Bool.eq_false_iff.mpr hoff)
    · exact h.drained s hs (Or.inr (Bool.not_eq_false _ ▸ hspent))

theorem timers (h : EndFrame prog policy ports Inv End) (hs : Inv s)
    (hrun : publishLoop prog policy ports nowMs fuel s = some out) : End out.1 out.2 := by
  have hdrained {t u : LoopState P ν} {rc : Result} (ht : Inv t)
      (hdrain : drainAfterTimers prog policy fuel
        (recordExhausted policy (publishTimers policy ports nowMs t).2) = some (rc, u)) : End rc u :=
    h.drainAfter (h.report _ _ (h.publish nowMs t ht)) hdrain
  refine loop_ends Inv (fun r : Result × LoopState P ν => End r.1 r.2) ?_ ?_ hs hrun
  · intro t u ht hstep
    obtain ⟨rc, v, hdrain, ⟨_, hdone⟩ | ⟨_, hdone, _⟩ | ⟨rfl, hagain⟩⟩ := timerBody_cases hstep
    · cases hdone
    · cases hdone
    · obtain rfl := Step.again.inj hagain
      exact h.again _ (hdrained ht hdrain)
  · intro t r ht hstep
    obtain ⟨rc, v, hdrain, ⟨_, hdone⟩ | ⟨rfl, hdone, _⟩ | ⟨_, hagain⟩⟩ := timerBody_cases hstep
    · obtain rfl := Step.done.inj hdone
      exact hdrained ht hdrain
    · obtain rfl := Step.done.inj hdone
      exact hdrained ht hdrain
    · cases hagain

theorem phases (h : EndFrame prog policy ports Inv End) (hs : Inv s)
    (hrun : RuntimeLoop.phases prog policy ports fuel s = some out) : End out.1 out.2 := by
  obtain ⟨first, hfirst, ⟨_, rfl⟩ | ⟨⟨hok, _⟩, htimers⟩⟩ := phases_cases hrun
  · exact h.ingress hs hfirst
  · have hended := h.ingress hs hfirst
    rw [hok] at hended
    have hinv := h.again _ hended
    rcases timerPhase_cases htimers with ⟨hfailed, rfl⟩ | ⟨hread, hloop⟩
    · exact h.clockFailed first.2 hinv hfailed
    · exact h.timers (h.clock first.2 hinv hread) hloop

theorem pollOnce (h : EndFrame prog policy ports Inv End) {graph : RuntimeGraph P ν}
    (hbudget : policy.schedulerTurnBudget ≠ 0 ∧ policy.timerPublishBudget ≠ 0)
    (hs : Inv (start ports graph).2.2)
    (hrun : RuntimeLoop.pollOnce prog (some policy) ports fuel graph = some out) :
    ∃ rc t, End rc t ∧
      out = finalize ports (start ports graph).1 (start ports graph).2.1 rc t := by
  unfold RuntimeLoop.pollOnce at hrun
  simp only [Option.getD_some] at hrun
  rw [if_neg (not_or.mpr hbudget)] at hrun
  cases hphases : RuntimeLoop.phases prog policy ports fuel (start ports graph).2.2 with
  | none =>
    rw [hphases] at hrun
    cases hrun
  | some ended =>
    rw [hphases] at hrun
    exact ⟨ended.1, ended.2, h.phases hs hphases, (Option.some.inj hrun).symm⟩

end EndFrame

/-- What follows the label `finalize` keeps the result, or turns a success with work left into
partial work. -/
theorem finalize_cases (ports : RuntimeLoopPorts P ν) (haveTiming : Bool) (startMs : UInt32)
    (rc : Result) (s : LoopState P ν) :
    let ended := readEnd ports haveTiming startMs (recordPending s)
    (¬(rc = .ok ∧ s.report.exhausted = true) ∧
      finalize ports haveTiming startMs rc s = (rc, recordResult rc ended.2)) ∨
    (rc = .ok ∧ ∃ report, (finalize ports haveTiming startMs rc s).2 =
        { askWork ports ended.1 ended.2 with report := report } ∧
      ((finalize ports haveTiming startMs rc s).1 = .errPartial ∨
        (finalize ports haveTiming startMs rc s).1 = .ok ∧
          UInt32.ofNat s.graph.schedulerPending = 0)) := by
  have hflag : (readEnd ports haveTiming startMs (recordPending s)).2.report.exhausted =
      s.report.exhausted := by
    unfold readEnd
    split
    · dsimp only
      split <;> rfl
    · rfl
  have hpending : (readEnd ports haveTiming startMs (recordPending s)).2.report.pendingAfter =
      UInt32.ofNat s.graph.schedulerPending := by
    unfold readEnd
    split
    · dsimp only
      split <;> rfl
    · rfl
  simp only
  unfold finalize
  generalize readEnd ports haveTiming startMs (recordPending s) = ended at *
  simp only
  rw [hflag]
  by_cases hspent : rc = .ok ∧ s.report.exhausted = true
  · right
    rw [if_pos hspent]
    refine ⟨hspent.1, ?_⟩
    have hreport := (askWork_keeps ports ended.1 ended.2).2
    generalize askWork ports ended.1 ended.2 = asked at *
    rw [hreport, hpending]
    split
    · exact ⟨_, rfl, Or.inl rfl⟩
    · rename_i hidle
      refine ⟨_, rfl, Or.inr ⟨rfl, ?_⟩⟩
      exact UInt32.le_zero_iff.mp (UInt32.not_lt.mp fun hlt => hidle (Or.inl hlt))
  · exact Or.inl ⟨hspent, if_neg hspent⟩

end RuntimeLoop

end EventFramework
