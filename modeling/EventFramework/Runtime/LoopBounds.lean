import EventFramework.Runtime.RuntimeLoop
import Mathlib.Algebra.Order.BigOperators.Group.Finset

/-!
# The poll is bounded

Each loop of a poll takes a measure of its own down: the sample counters, the pump calls
that are left, and for the timers the firings that are left at the clock value of the poll.
-/

namespace EventFramework
set_option autoImplicit false

open FuelLoop

variable {P ν σ : Type}

namespace TimerSlot

/-- How often the slot can still be found due at one clock value. -/
def firings (nowMs : UInt32) (slot : TimerSlot) : Nat :=
  if slot.active = false then 0
  else if slot.periodic then
    WrapClock.firings (2 ^ 31) slot.periodMs.toNat (nowMs - slot.deadlineMs).toNat
  else 1

theorem firings_le (nowMs : UInt32) (slot : TimerSlot) : slot.firings nowMs ≤ 2 ^ 31 := by
  unfold firings
  split
  · exact Nat.zero_le _
  · split
    · exact WrapClock.firings_le ..
    · decide

theorem firings_kept (nowMs : UInt32) {old new : TimerSlot} (h : Kept old new) :
    new.firings nowMs ≤ old.firings nowMs := by
  rcases h with rfl | rfl
  · exact Nat.le_refl _
  · simp [firings, cancelled]

theorem firings_advanced {nowMs : UInt32} {slot : TimerSlot} (hactive : slot.active = true)
    (hdue : TimerService.isDue nowMs slot.deadlineMs = true) :
    slot.advanced.firings nowMs < slot.firings nowMs := by
  by_cases hperiodic : slot.periodic = true
  · have hpos : 0 < slot.periodMs.toNat := by
      refine Nat.pos_of_ne_zero fun hzero => slot.period_pos hactive ?_
      exact UInt32.toNat_inj.mp hzero
    have hlag : (nowMs - (slot.deadlineMs + slot.periodMs)).toNat =
        (2 * 2 ^ 31 - slot.periodMs.toNat + (nowMs - slot.deadlineMs).toNat) % (2 * 2 ^ 31) := by
      have := slot.periodMs.toNat_lt
      have := slot.deadlineMs.toNat_lt
      have := nowMs.toNat_lt
      simp only [UInt32.toNat_sub, UInt32.toNat_add]
      omega
    have hless := WrapClock.firings_advance ((TimerService.isDue_iff ..).mp hdue) hpos
      (by have := slot.periodMs.toNat_lt; omega)
    simp only [firings, advanced, hactive, hperiodic, if_true, Bool.true_eq_false, if_false, hlag]
    exact hless
  · simp [firings, advanced, cancelled, hactive, hperiodic]

end TimerSlot

namespace TimerService

def firings (nowMs : UInt32) (svc : TimerService) : Nat :=
  ∑ index, (svc.slots index).firings nowMs

def firingLimit : Nat := timerServiceCapacity * 2 ^ 31

theorem firings_le (nowMs : UInt32) (svc : TimerService) : svc.firings nowMs ≤ firingLimit := by
  have hsum := Finset.sum_le_card_nsmul Finset.univ (fun index => (svc.slots index).firings nowMs)
    (2 ^ 31) fun index _ => (svc.slots index).firings_le nowMs
  exact hsum

namespace Publishing

theorem visit_firings (port : TimerPort P σ) (nowMs : UInt32) (index : TimerIndex)
    (s : Publishing σ) :
    (s.visit port.callback nowMs index).service.firings nowMs + (s.visit port.callback nowMs index).published.length ≤
      s.service.firings nowMs + s.published.length := by
  rcases visit_cases port nowMs index s with ⟨hsame, _⟩ | hvisit
  · rw [hsame]
  · have hless : (s.visit port.callback nowMs index).service.firings nowMs < s.service.firings nowMs := by
      have hself : ((s.visit port.callback nowMs index).service.slots index).firings nowMs <
          (s.service.slots index).firings nowMs :=
        Nat.lt_of_le_of_lt (TimerSlot.firings_kept nowMs hvisit.self)
          (TimerSlot.firings_advanced hvisit.active hvisit.due)
      refine Finset.sum_lt_sum (fun other _ => ?_) ⟨index, Finset.mem_univ _, hself⟩
      by_cases he : other = index
      · rw [he]
        exact Nat.le_of_lt hself
      · exact TimerSlot.firings_kept nowMs (hvisit.others other he)
    rcases hvisit.published with hnone | ⟨_, hone⟩
    · rw [hnone]
      omega
    · rw [hone, List.length_append, List.length_singleton]
      omega

theorem visitAll_firings (port : TimerPort P σ) (nowMs : UInt32) (maxPublish : Nat)
    (indices : List TimerIndex) : ∀ s : Publishing σ,
      (visitAll port.callback nowMs maxPublish indices s).service.firings nowMs +
          (visitAll port.callback nowMs maxPublish indices s).published.length ≤
        s.service.firings nowMs + s.published.length := by
  induction indices with
  | nil => exact fun s => Nat.le_refl _
  | cons index indices ih =>
    intro s
    rw [visitAll]
    split
    · exact Nat.le_trans (ih _) (visit_firings port nowMs index s)
    · exact Nat.le_refl _

end Publishing

theorem publishDue_firings (svc : TimerService) (nowMs : UInt32)
    (publish : Option (TimerPort P σ)) (context : σ) (maxPublish : Nat) :
    (svc.publishDue nowMs (publish.map TimerPort.callback) context maxPublish).service.firings nowMs +
        (svc.publishDue nowMs (publish.map TimerPort.callback) context maxPublish).published.length ≤
      svc.firings nowMs := by
  cases publish with
  | none => simp [publishDue]
  | some port =>
    rw [Option.map_some, publishDue]
    have hall := Publishing.visitAll_firings port nowMs maxPublish
      (List.finRange timerServiceCapacity) { service := svc, context := context }
    rwa [List.length_nil, Nat.add_zero] at hall

end TimerService

def LoopEvent.Ok : LoopEvent → Prop
  | .collected rc => rc = .ok
  | .polled rc _ => rc = .ok ∨ rc = .errPartial ∨ rc = .errEmpty
  | .clockRead rc _ => rc = .ok
  | .timersPublished _ _ => True

def LoopEvent.isPoll : LoopEvent → Bool
  | .polled _ _ => true
  | _ => false

/-- A port that returns `EV_ERR_PARTIAL` itself. -/
def LoopEvent.PassesPartial (event : LoopEvent) : Prop :=
  event = .collected .errPartial ∨ ∃ nowMs, event = .clockRead .errPartial nowMs

namespace RuntimeLoop

def pollCount (history : List LoopEvent) : Nat := history.countP LoopEvent.isPoll

structure Counted (policy : RuntimeLoopPolicy) (s : LoopState P ν) : Prop where
  polls : pollCount s.history = s.report.pumpCalls.toNat
  within : s.report.pumpCalls ≤ policy.maxPumpCalls

structure Steady (policy : RuntimeLoopPolicy) (s : LoopState P ν) : Prop
    extends Counted policy s where
  clean : ∀ event ∈ s.history, event.Ok

def Fresh (policy : RuntimeLoopPolicy) (s : LoopState P ν) : Prop :=
  s.report.exhausted = exhausted policy s.report

/-- How a phase ends: without an error, or with the one of the last event. -/
structure Ended (policy : RuntimeLoopPolicy) (rc : Result) (s : LoopState P ν) : Prop
    extends Counted policy s where
  outcome : rc = .ok ∧ (∀ event ∈ s.history, event.Ok) ∧ Fresh policy s ∨
    rc ≠ .ok ∧ ∃ event, s.history.getLast? = some event ∧ ¬event.Ok ∧
      (rc = .errPartial ↔ event.PassesPartial)

theorem Ended.steady {policy : RuntimeLoopPolicy} {s : LoopState P ν} (h : Ended policy .ok s) :
    Steady policy s ∧ Fresh policy s := by
  rcases h.outcome with ⟨_, hclean, hfresh⟩ | ⟨hrc, _⟩
  · exact ⟨⟨h.toCounted, hclean⟩, hfresh⟩
  · exact absurd rfl hrc

theorem Steady.ended {policy : RuntimeLoopPolicy} {s : LoopState P ν} (h : Steady policy s)
    (hfresh : Fresh policy s) : Ended policy .ok s :=
  ⟨h.toCounted, Or.inl ⟨rfl, h.clean, hfresh⟩⟩

theorem Counted.note {policy : RuntimeLoopPolicy} {s t : LoopState P ν} (event : LoopEvent)
    (h : Counted policy s) (hpoll : event.isPoll = false)
    (hhistory : t.history = s.history ++ [event])
    (hcalls : t.report.pumpCalls = s.report.pumpCalls) : Counted policy t := by
  refine ⟨?_, by rw [hcalls]; exact h.within⟩
  rw [hhistory, hcalls, ← h.polls]
  simp [pollCount, List.countP_append, hpoll]

theorem Steady.note {policy : RuntimeLoopPolicy} {s t : LoopState P ν} (event : LoopEvent)
    (h : Steady policy s) (hpoll : event.isPoll = false) (hok : event.Ok)
    (hhistory : t.history = s.history ++ [event])
    (hcalls : t.report.pumpCalls = s.report.pumpCalls) : Steady policy t := by
  refine ⟨h.toCounted.note event hpoll hhistory hcalls, ?_⟩
  rw [hhistory]
  intro other hmem
  rcases List.mem_append.mp hmem with hold | hnew
  · exact h.clean other hold
  · rw [List.mem_singleton.mp hnew]
    exact hok

theorem exhausted_false {policy : RuntimeLoopPolicy} {report : RuntimeLoopReport}
    (h : exhausted policy report = false) :
    report.pumpCalls < policy.maxPumpCalls ∧ report.irqSamples < policy.maxIrqSamples.toNat ∧
      report.netSamples < policy.maxNetSamples.toNat := by
  simp only [exhausted, Bool.or_eq_false_iff, decide_eq_false_iff_not, not_le] at h
  exact ⟨UInt32.not_le.mp h.1.1.1.1, h.1.2, h.2⟩

theorem pollSchedulerOnce_ne_empty (prog : Program P (TimerService × ν)) (graph : RuntimeGraph P ν)
    (turnBudget : Nat) (hpending : 0 < graph.schedulerPending) :
    (graph.pollSchedulerOnce prog turnBudget).1 ≠ .errEmpty := by
  have hrun := graph.scheduler.system.run_ne_empty prog turnBudget graph.world
    (Nat.ne_of_gt hpending)
  unfold RuntimeGraph.pollSchedulerOnce RuntimeScheduler.pollOnce
  simp only
  split
  · exact Result.noConfusion
  · exact hrun

/-- What a drain leaves alone: the samples, and without a poll the graph. -/
structure Drained (s t : LoopState P ν) : Prop where
  irq : t.report.irqSamples = s.report.irqSamples
  net : t.report.netSamples = s.report.netSamples
  calls : s.report.pumpCalls ≤ t.report.pumpCalls
  progress : t.graph = s.graph ∨ s.report.pumpCalls < t.report.pumpCalls

theorem Drained.refl (s : LoopState P ν) : Drained s s :=
  ⟨rfl, rfl, UInt32.le_refl _, Or.inl rfl⟩

theorem Steady.polled {policy : RuntimeLoopPolicy} {s : LoopState P ν} (h : Steady policy s)
    (hbudget : s.report.pumpCalls < policy.maxPumpCalls) (rc : Result) (report : SystemPumpReport)
    (graph : RuntimeGraph P ν) :
    Counted policy (polled s rc report graph) ∧
      (s.report.pumpCalls + 1).toNat = s.report.pumpCalls.toNat + 1 := by
  have hlt := UInt32.lt_iff_toNat_lt.mp hbudget
  have hmax := policy.maxPumpCalls.toNat_lt
  have hnext : (s.report.pumpCalls + 1).toNat = s.report.pumpCalls.toNat + 1 := by
    rw [UInt32.toNat_add]
    have : (1 : UInt32).toNat = 1 := rfl
    omega
  refine ⟨⟨?_, ?_⟩, hnext⟩
  · simp [RuntimeLoop.polled, pollCount, List.countP_append, LoopEvent.isPoll, hnext, ← h.polls]
  · simp only [RuntimeLoop.polled, UInt32.le_iff_toNat_le, hnext]
    omega

/-- A drain returns: every poll takes one of the pump calls that are left. -/
theorem drainScheduler_returns (prog : Program P (TimerService × ν)) (policy : RuntimeLoopPolicy)
    {fuel : Nat} (hfuel : policy.maxPumpCalls.toNat < fuel) {s : LoopState P ν}
    (hsteady : Steady policy s) (hfresh : Fresh policy s) :
    ∃ out, drainScheduler prog policy fuel s = some out ∧ Ended policy out.1 out.2 ∧
      Drained s out.2 := by
  let Post (out : Result × LoopState P ν) : Prop := Ended policy out.1 out.2 ∧ Drained s out.2
  refine loop_returns (fun t => policy.maxPumpCalls.toNat - t.report.pumpCalls.toNat)
    (fun t => (Steady policy t ∧ Fresh policy t) ∧ Drained s t) Post ?_ fuel s
    ⟨⟨hsteady, hfresh⟩, .refl s⟩ (by omega)
  rintro t ⟨⟨hsteady, hfresh⟩, hdrained⟩
  by_cases hwork : 0 < t.graph.schedulerPending ∧ t.report.exhausted = false
  · have hleft : exhausted policy t.report = false := by rw [← hfresh]; exact hwork.2
    have hbudget := (exhausted_false hleft).1
    have hempty := pollSchedulerOnce_ne_empty prog t.graph policy.schedulerTurnBudget.toNat hwork.1
    rw [drainBody, if_pos hwork, hleft]
    generalize t.graph.pollSchedulerOnce prog policy.schedulerTurnBudget.toNat = out at *
    obtain ⟨rc, report, graph⟩ := out
    obtain ⟨hcounted, hnext⟩ := hsteady.polled hbudget rc report graph
    have hless := UInt32.lt_iff_toNat_lt.mp hbudget
    have hprogress : s.report.pumpCalls < t.report.pumpCalls + 1 := by
      have := UInt32.le_iff_toNat_le.mp hdrained.calls
      rw [UInt32.lt_iff_toNat_lt, hnext]
      omega
    simp only [Bool.false_eq_true, if_false]
    by_cases hgood : rc = .ok ∨ rc = .errPartial
    · rw [if_pos hgood]
      refine Or.inr ⟨_, rfl, ⟨⟨⟨⟨hcounted.polls, hcounted.within⟩, ?_⟩, rfl⟩, ⟨hdrained.irq,
        hdrained.net, UInt32.le_of_lt hprogress, Or.inr hprogress⟩⟩, ?_⟩
      · intro event hmem
        rcases List.mem_append.mp hmem with hold | hnew
        · exact hsteady.clean event hold
        · rw [List.mem_singleton.mp hnew]
          exact hgood.imp_right Or.inl
      · change policy.maxPumpCalls.toNat - (t.report.pumpCalls + 1).toNat < _
        omega
    · rw [if_neg hgood, if_neg hempty]
      refine Or.inl ⟨_, rfl, ⟨⟨hcounted.polls, hcounted.within⟩,
        Or.inr ⟨fun hok => hgood (Or.inl hok), ?_⟩⟩, ⟨hdrained.irq, hdrained.net,
          UInt32.le_of_lt hprogress, Or.inr hprogress⟩⟩
      refine ⟨.polled rc report, by simp [polled], ?_, ?_⟩
      · rintro (hok | hpart | hnone)
        · exact hgood (Or.inl hok)
        · exact hgood (Or.inr hpart)
        · exact hempty hnone
      · constructor
        · exact fun hpart => absurd (Or.inr hpart) hgood
        · rintro (hcollected | ⟨_, hread⟩)
          · cases hcollected
          · cases hread
  · rw [drainBody, if_neg hwork]
    exact Or.inl ⟨_, rfl, hsteady.ended hfresh, hdrained⟩

theorem collect_cases {policy : RuntimeLoopPolicy} (ports : RuntimeLoopPorts P ν)
    {s : LoopState P ν} (h : Steady policy s) :
    s.report.irqSamples ≤ (collect policy ports s).2.report.irqSamples ∧
      s.report.netSamples ≤ (collect policy ports s).2.report.netSamples ∧
      ((collect policy ports s).1 = .ok ∧ Steady policy (collect policy ports s).2 ∨
        (collect policy ports s).1 ≠ .ok ∧
          Ended policy (collect policy ports s).1 (collect policy ports s).2) := by
  unfold collect
  cases ports.collectIngress with
  | none => exact ⟨Nat.le_refl _, Nat.le_refl _, Or.inl ⟨rfl, h⟩⟩
  | some port =>
    simp only
    refine ⟨Nat.le_add_right .., Nat.le_add_right .., ?_⟩
    generalize port policy s.report s.graph = out
    by_cases hrc : out.1 = .ok
    · exact Or.inl ⟨hrc, h.note (.collected out.1) rfl hrc rfl rfl⟩
    · refine Or.inr ⟨hrc, ⟨h.toCounted.note _ rfl rfl rfl,
        Or.inr ⟨hrc, .collected out.1, by simp, hrc, ?_⟩⟩⟩
      simp [LoopEvent.PassesPartial]

theorem Steady.recordExhausted {policy : RuntimeLoopPolicy} {s : LoopState P ν}
    (h : Steady policy s) :
    Steady policy (RuntimeLoop.recordExhausted policy s) ∧
      Fresh policy (RuntimeLoop.recordExhausted policy s) :=
  ⟨⟨⟨h.polls, h.within⟩, h.clean⟩, rfl⟩

/-- The ingress loop returns: it goes on only with new samples below their budgets. -/
theorem ingress_returns (prog : Program P (TimerService × ν)) (policy : RuntimeLoopPolicy)
    (ports : RuntimeLoopPorts P ν) {fuel : Nat} (hpumps : policy.maxPumpCalls.toNat < fuel)
    (hsamples : policy.maxIrqSamples.toNat + policy.maxNetSamples.toNat < fuel) {s : LoopState P ν}
    (hsteady : Steady policy s) :
    ∃ out, ingress prog policy ports fuel s = some out ∧ Ended policy out.1 out.2 := by
  refine loop_returns (fun t => (policy.maxIrqSamples.toNat - t.report.irqSamples) +
      (policy.maxNetSamples.toNat - t.report.netSamples))
    (Steady policy) (fun out : Result × LoopState P ν => Ended policy out.1 out.2) ?_ fuel s
    hsteady (by omega)
  intro t hsteady
  obtain ⟨hirq, hnet, hcollected⟩ := collect_cases ports hsteady
  unfold ingressBody
  simp only
  generalize collect policy ports t = collected at *
  obtain ⟨rc, u⟩ := collected
  rcases hcollected with ⟨hok, hnext⟩ | ⟨hrc, hended⟩
  · obtain ⟨hnext, hfresh⟩ := hnext.recordExhausted
    obtain ⟨⟨rc', v⟩, hdrain, hended, hdrained⟩ :=
      drainScheduler_returns prog policy hpumps hnext hfresh
    rw [if_neg (not_not.mpr hok), hdrain]
    simp only
    by_cases hrc' : rc' = .ok
    · subst hrc'
      rw [if_neg (not_not.mpr rfl)]
      obtain ⟨hsteady', hfresh'⟩ : Steady policy v ∧ Fresh policy v := hended.steady
      by_cases hstop : v.report.exhausted = true ∨ (v.report.irqSamples = t.report.irqSamples ∧
          v.report.netSamples = t.report.netSamples)
      · rw [if_pos hstop]
        exact Or.inl ⟨_, rfl, hended⟩
      · rw [if_neg hstop]
        obtain ⟨hgoing, hnew⟩ := not_or.mp hstop
        rw [Bool.not_eq_true, hfresh'] at hgoing
        obtain ⟨_, hirqs, hnets⟩ := exhausted_false hgoing
        have hirq' : v.report.irqSamples = u.report.irqSamples := hdrained.irq
        have hnet' : v.report.netSamples = u.report.netSamples := hdrained.net
        refine Or.inr ⟨v, rfl, hsteady', ?_⟩
        simp only at hirq hnet ⊢
        omega
    · rw [if_pos hrc']
      exact Or.inl ⟨_, rfl, hended⟩
  · rw [if_pos hrc]
    exact Or.inl ⟨_, rfl, hended⟩

theorem publishTimers_cases {policy : RuntimeLoopPolicy} (ports : RuntimeLoopPorts P ν)
    (nowMs : UInt32) {s : LoopState P ν} (h : Steady policy s) :
    Steady policy (publishTimers policy ports nowMs s).2 ∧
      (publishTimers policy ports nowMs s).2.report.pumpCalls = s.report.pumpCalls ∧
      (publishTimers policy ports nowMs s).2.graph.timers.firings nowMs +
        (publishTimers policy ports nowMs s).1 ≤ s.graph.timers.firings nowMs := by
  unfold publishTimers
  split
  · refine ⟨?_, rfl, ?_⟩
    · exact h.note (.timersPublished nowMs _) rfl trivial rfl rfl
    · exact TimerService.publishDue_firings s.graph.timers nowMs ports.timerDelivery s.graph.rest
        policy.timerPublishBudget.toNat
  · exact ⟨h, rfl, by simp⟩

theorem drainAfterTimers_returns (prog : Program P (TimerService × ν)) (policy : RuntimeLoopPolicy)
    {fuel : Nat} (hfuel : policy.maxPumpCalls.toNat < fuel) {s : LoopState P ν}
    (hsteady : Steady policy s) (hfresh : Fresh policy s) :
    ∃ out, drainAfterTimers prog policy fuel s = some out ∧ Ended policy out.1 out.2 ∧
      Drained s out.2 := by
  unfold drainAfterTimers
  split
  · exact drainScheduler_returns prog policy hfuel hsteady hfresh
  · exact ⟨_, rfl, hsteady.ended hfresh, .refl s⟩

/-- Pump calls that are left weigh more than all firings that can be left. -/
def timerMeasure (policy : RuntimeLoopPolicy) (nowMs : UInt32) (s : LoopState P ν) : Nat :=
  (policy.maxPumpCalls.toNat - s.report.pumpCalls.toNat) * (TimerService.firingLimit + 1) +
    s.graph.timers.firings nowMs

theorem timerMeasure_fired {policy : RuntimeLoopPolicy} {nowMs : UInt32} {s t : LoopState P ν}
    (hcalls : s.report.pumpCalls ≤ t.report.pumpCalls)
    (hless : t.graph.timers.firings nowMs < s.graph.timers.firings nowMs) :
    timerMeasure policy nowMs t < timerMeasure policy nowMs s := by
  have hle : policy.maxPumpCalls.toNat - t.report.pumpCalls.toNat ≤
      policy.maxPumpCalls.toNat - s.report.pumpCalls.toNat :=
    Nat.sub_le_sub_left (UInt32.le_iff_toNat_le.mp hcalls) _
  exact Nat.add_lt_add_of_le_of_lt (Nat.mul_le_mul_right _ hle) hless

theorem timerMeasure_polled {policy : RuntimeLoopPolicy} {nowMs : UInt32} {s t : LoopState P ν}
    (hcalls : s.report.pumpCalls < t.report.pumpCalls)
    (hwithin : t.report.pumpCalls ≤ policy.maxPumpCalls) :
    timerMeasure policy nowMs t < timerMeasure policy nowMs s := by
  have hle : policy.maxPumpCalls.toNat - t.report.pumpCalls.toNat + 1 ≤
      policy.maxPumpCalls.toNat - s.report.pumpCalls.toNat := by
    have := UInt32.lt_iff_toNat_lt.mp hcalls
    have := UInt32.le_iff_toNat_le.mp hwithin
    omega
  have hmul := Nat.mul_le_mul_right (TimerService.firingLimit + 1) hle
  rw [Nat.succ_mul] at hmul
  calc timerMeasure policy nowMs t
      < (policy.maxPumpCalls.toNat - t.report.pumpCalls.toNat) * (TimerService.firingLimit + 1) +
          (TimerService.firingLimit + 1) :=
        Nat.add_lt_add_left (Nat.lt_succ_of_le (TimerService.firings_le nowMs _)) _
    _ ≤ (policy.maxPumpCalls.toNat - s.report.pumpCalls.toNat) * (TimerService.firingLimit + 1) :=
        hmul
    _ ≤ timerMeasure policy nowMs s := Nat.le_add_right ..

theorem timerMeasure_le (policy : RuntimeLoopPolicy) (nowMs : UInt32) (s : LoopState P ν) :
    timerMeasure policy nowMs s ≤
      policy.maxPumpCalls.toNat * (TimerService.firingLimit + 1) + TimerService.firingLimit :=
  Nat.add_le_add (Nat.mul_le_mul_right _ (Nat.sub_le ..)) (TimerService.firings_le nowMs _)

/-- The timer loop returns: between two polls the timers run out of firings. -/
theorem publishLoop_returns (prog : Program P (TimerService × ν)) (policy : RuntimeLoopPolicy)
    (ports : RuntimeLoopPorts P ν) (nowMs : UInt32) {fuel : Nat}
    (hpumps : policy.maxPumpCalls.toNat < fuel)
    (hfirings : policy.maxPumpCalls.toNat * (TimerService.firingLimit + 1) +
      TimerService.firingLimit < fuel) {s : LoopState P ν} (hsteady : Steady policy s) :
    ∃ out, publishLoop prog policy ports nowMs fuel s = some out ∧ Ended policy out.1 out.2 := by
  refine loop_returns (timerMeasure policy nowMs) (Steady policy)
    (fun out : Result × LoopState P ν => Ended policy out.1 out.2) ?_ fuel s hsteady
    (Nat.lt_of_le_of_lt (timerMeasure_le policy nowMs s) hfirings)
  intro t hsteady
  obtain ⟨hpublished, hcalls, hused⟩ := publishTimers_cases ports nowMs hsteady
  unfold timerBody
  simp only
  generalize publishTimers policy ports nowMs t = published at *
  obtain ⟨count, u⟩ := published
  obtain ⟨hnext, hfresh⟩ := hpublished.recordExhausted
  obtain ⟨⟨rc, v⟩, hdrain, hended, hdrained⟩ :=
    drainAfterTimers_returns prog policy hpumps hnext hfresh
  have hwithin : v.report.pumpCalls ≤ policy.maxPumpCalls := hended.within
  have hucalls : u.report.pumpCalls = t.report.pumpCalls := hcalls
  rw [hdrain]
  simp only
  by_cases hrc : rc = .ok
  · subst hrc
    rw [if_neg (not_not.mpr rfl)]
    split
    · exact Or.inl ⟨_, rfl, hended⟩
    · rename_i hstop
      refine Or.inr ⟨v, rfl, hended.steady.1, ?_⟩
      rcases hdrained.progress with hsame | hpolled
      · have hgraph : v.graph = u.graph := hsame
        have hle : u.report.pumpCalls ≤ v.report.pumpCalls := hdrained.calls
        refine timerMeasure_fired (hucalls ▸ hle) ?_
        have hcount : 0 < count := Nat.pos_of_ne_zero fun hzero => hstop (Or.inr (Or.inl hzero))
        rw [hgraph]
        exact Nat.lt_of_lt_of_le (Nat.lt_add_of_pos_right hcount) hused
      · have hlt : u.report.pumpCalls < v.report.pumpCalls := hpolled
        exact timerMeasure_polled (hucalls ▸ hlt) hwithin
  · rw [if_pos hrc]
    exact Or.inl ⟨_, rfl, hended⟩

theorem readClock_cases {policy : RuntimeLoopPolicy} (ports : RuntimeLoopPorts P ν)
    {s : LoopState P ν} (h : Steady policy s) :
    (readClock ports s).1 = .ok ∧ Steady policy (readClock ports s).2.2 ∨
      (readClock ports s).1 ≠ .ok ∧ Ended policy (readClock ports s).1 (readClock ports s).2.2 := by
  unfold readClock
  simp only
  generalize ports.nowMs s.graph.world.outside.2 = out
  by_cases hrc : out.1 = .ok
  · exact Or.inl ⟨hrc, h.note (.clockRead out.1 out.2.1) rfl hrc rfl rfl⟩
  · refine Or.inr ⟨hrc, ⟨h.toCounted.note _ rfl rfl rfl,
      Or.inr ⟨hrc, .clockRead out.1 out.2.1, by simp, hrc, ?_⟩⟩⟩
    simp [LoopEvent.PassesPartial]

structure Enough (policy : RuntimeLoopPolicy) (fuel : Nat) : Prop where
  pumps : policy.maxPumpCalls.toNat < fuel
  samples : policy.maxIrqSamples.toNat + policy.maxNetSamples.toNat < fuel
  firings : policy.maxPumpCalls.toNat * (TimerService.firingLimit + 1) +
    TimerService.firingLimit < fuel

theorem exists_enough (policy : RuntimeLoopPolicy) : ∃ fuel, Enough policy fuel := by
  generalize hlimit : policy.maxPumpCalls.toNat * (TimerService.firingLimit + 1) +
    TimerService.firingLimit = limit
  exact ⟨policy.maxPumpCalls.toNat + (policy.maxIrqSamples.toNat + policy.maxNetSamples.toNat) +
    limit + 1, by omega, by omega, by rw [hlimit]; omega⟩

theorem phases_returns (prog : Program P (TimerService × ν)) (policy : RuntimeLoopPolicy)
    (ports : RuntimeLoopPorts P ν) {fuel : Nat} (hfuel : Enough policy fuel) {s : LoopState P ν}
    (hsteady : Steady policy s) :
    ∃ out, phases prog policy ports fuel s = some out ∧ Ended policy out.1 out.2 := by
  obtain ⟨⟨rc, t⟩, hingress, hended⟩ := ingress_returns prog policy ports
    hfuel.pumps hfuel.samples hsteady
  unfold phases
  rw [hingress]
  simp only
  by_cases hstop : rc ≠ .ok ∨ t.report.exhausted = true
  · rw [if_pos hstop]
    exact ⟨_, rfl, hended⟩
  · rw [if_neg hstop]
    obtain ⟨hok, _⟩ := not_or.mp hstop
    obtain rfl : rc = .ok := not_not.mp hok
    unfold timerPhase
    simp only
    rcases readClock_cases ports (hended.steady.1 : Steady policy t) with ⟨hrc, hnext⟩ | ⟨hrc, hnext⟩
    · rw [if_neg (not_not.mpr hrc)]
      exact publishLoop_returns prog policy ports _ hfuel.pumps hfuel.firings hnext
    · rw [if_pos hrc]
      exact ⟨_, rfl, hnext⟩

section Monotone

variable (prog : Program P (TimerService × ν)) (policy : RuntimeLoopPolicy)
  (ports : RuntimeLoopPorts P ν) {fuel fuel' : Nat}

theorem drainScheduler_mono (hle : fuel ≤ fuel') {s : LoopState P ν}
    {out : Result × LoopState P ν} (h : drainScheduler prog policy fuel s = some out) :
    drainScheduler prog policy fuel' s = some out :=
  loop_mono (fun _ _ => id) hle h

theorem ingress_mono (hle : fuel ≤ fuel') {s : LoopState P ν} {out : Result × LoopState P ν}
    (h : ingress prog policy ports fuel s = some out) :
    ingress prog policy ports fuel' s = some out := by
  refine loop_mono (fun t step hstep => ?_) hle h
  unfold ingressBody at hstep ⊢
  simp only at hstep ⊢
  split
  · rename_i hrc
    rwa [if_pos hrc] at hstep
  · rename_i hrc
    rw [if_neg hrc] at hstep
    cases hdrain : drainScheduler prog policy fuel
        (recordExhausted policy (collect policy ports t).2) with
    | none =>
      rw [hdrain] at hstep
      cases hstep
    | some drained =>
      rw [hdrain] at hstep
      rw [drainScheduler_mono prog policy hle hdrain]
      exact hstep

theorem publishLoop_mono (nowMs : UInt32) (hle : fuel ≤ fuel') {s : LoopState P ν}
    {out : Result × LoopState P ν} (h : publishLoop prog policy ports nowMs fuel s = some out) :
    publishLoop prog policy ports nowMs fuel' s = some out := by
  refine loop_mono (fun t step hstep => ?_) hle h
  unfold timerBody at hstep ⊢
  simp only at hstep ⊢
  cases hdrain : drainAfterTimers prog policy fuel
      (recordExhausted policy (publishTimers policy ports nowMs t).2) with
  | none =>
    rw [hdrain] at hstep
    cases hstep
  | some drained =>
    have hmore : drainAfterTimers prog policy fuel'
        (recordExhausted policy (publishTimers policy ports nowMs t).2) = some drained := by
      unfold drainAfterTimers at hdrain ⊢
      split
      · rename_i hrun
        rw [if_pos hrun] at hdrain
        exact drainScheduler_mono prog policy hle hdrain
      · rename_i hrun
        rwa [if_neg hrun] at hdrain
    rw [hdrain] at hstep
    rw [hmore]
    exact hstep

theorem phases_mono (hle : fuel ≤ fuel') {s : LoopState P ν} {out : Result × LoopState P ν}
    (h : phases prog policy ports fuel s = some out) :
    phases prog policy ports fuel' s = some out := by
  unfold phases at h ⊢
  cases hingress : ingress prog policy ports fuel s with
  | none =>
    rw [hingress] at h
    cases h
  | some first =>
    rw [hingress] at h
    rw [ingress_mono prog policy ports hle hingress]
    simp only at h ⊢
    split
    · rename_i hstop
      rwa [if_pos hstop] at h
    · rename_i hstop
      rw [if_neg hstop] at h
      unfold timerPhase at h ⊢
      simp only at h ⊢
      split
      · rename_i hrc
        rwa [if_pos hrc] at h
      · rename_i hrc
        rw [if_neg hrc] at h
        exact publishLoop_mono prog policy ports _ hle h

end Monotone

theorem readEnd_keeps (ports : RuntimeLoopPorts P ν) (haveTiming : Bool) (startMs : UInt32)
    (policy : RuntimeLoopPolicy) (s : LoopState P ν) :
    (readEnd ports haveTiming startMs s).2.history = s.history ∧
      (readEnd ports haveTiming startMs s).2.report.exhausted = s.report.exhausted ∧
      exhausted policy (readEnd ports haveTiming startMs s).2.report = exhausted policy s.report := by
  unfold readEnd
  split
  · refine ⟨rfl, ?_, ?_⟩
    · dsimp only
      split <;> rfl
    · dsimp only
      split <;> rfl
  · exact ⟨rfl, rfl, rfl⟩

theorem askWork_keeps (ports : RuntimeLoopPorts P ν) (endMs : UInt32) (s : LoopState P ν) :
    (askWork ports endMs s).history = s.history ∧ (askWork ports endMs s).report = s.report := by
  unfold askWork
  split
  · exact ⟨rfl, rfl⟩
  · exact ⟨rfl, rfl⟩

theorem Ended.not_ok {policy : RuntimeLoopPolicy} {rc : Result} {s : LoopState P ν}
    (h : Ended policy rc s) (hrc : rc ≠ .ok) :
    (¬∀ event ∈ s.history, event.Ok) ∧
      (rc = .errPartial ↔ ∃ event, s.history.getLast? = some event ∧ event.PassesPartial) := by
  rcases h.outcome with ⟨hok, _⟩ | ⟨_, event, hlast, hbad, hpart⟩
  · exact absurd hok hrc
  · refine ⟨fun hclean => hbad (hclean event (List.mem_of_getLast? hlast)), ?_⟩
    rw [hpart, hlast]
    constructor
    · exact fun hpasses => ⟨event, rfl, hpasses⟩
    · rintro ⟨other, hother, hpasses⟩
      exact Option.some.inj hother ▸ hpasses

/-- The end of a poll: partial work is reported for a budget that was hit with work left, and
passed on from a port. -/
theorem finalize_partial {policy : RuntimeLoopPolicy} (ports : RuntimeLoopPorts P ν)
    (haveTiming : Bool) (startMs : UInt32) {rc : Result} {s : LoopState P ν}
    (h : Ended policy rc s) :
    (finalize ports haveTiming startMs rc s).2.history = s.history ∧
      ((finalize ports haveTiming startMs rc s).1 = .errPartial ↔
        ((∀ event ∈ s.history, event.Ok) ∧
          exhausted policy (finalize ports haveTiming startMs rc s).2.report = true ∧
          (0 < (finalize ports haveTiming startMs rc s).2.report.pendingAfter ∨
            (finalize ports haveTiming startMs rc s).2.extraPending = true)) ∨
        ∃ event, s.history.getLast? = some event ∧ event.PassesPartial) := by
  obtain ⟨hhistory, hflag, hcounters⟩ :=
    readEnd_keeps ports haveTiming startMs policy (recordPending s)
  unfold finalize
  simp only
  generalize readEnd ports haveTiming startMs (recordPending s) = ended at *
  by_cases hrc : rc = .ok
  · subst hrc
    obtain ⟨hsteady, hfresh⟩ := h.steady
    have hpasses : ¬∃ event, s.history.getLast? = some event ∧ event.PassesPartial := by
      rintro ⟨event, hlast, hpasses⟩
      have hok := hsteady.clean event (List.mem_of_getLast? hlast)
      rcases hpasses with rfl | ⟨nowMs, rfl⟩
      · cases hok
      · cases hok
    have hsame : ended.2.report.exhausted = exhausted policy ended.2.report := by
      rw [hflag, hcounters]
      exact hfresh
    obtain ⟨hasked, hreport⟩ := askWork_keeps ports ended.1 ended.2
    by_cases hexhausted : ended.2.report.exhausted = true
    · rw [if_pos ⟨rfl, hexhausted⟩]
      have hbudget : exhausted policy (askWork ports ended.1 ended.2).report = true := by
        rw [hreport, ← hsame]
        exact hexhausted
      by_cases hwork : 0 < (askWork ports ended.1 ended.2).report.pendingAfter ∨
          (askWork ports ended.1 ended.2).extraPending = true
      · rw [if_pos hwork]
        exact ⟨hasked.trans hhistory, fun _ => Or.inl ⟨hsteady.clean, hbudget, hwork⟩, fun _ => rfl⟩
      · rw [if_neg hwork]
        refine ⟨hasked.trans hhistory, fun hrc => Result.noConfusion hrc, ?_⟩
        rintro (⟨_, _, hleft⟩ | hpassed)
        · exact absurd hleft hwork
        · exact absurd hpassed hpasses
    · rw [if_neg fun hboth => hexhausted hboth.2]
      refine ⟨hhistory, fun hrc => Result.noConfusion hrc, ?_⟩
      rintro (⟨_, hbudget, _⟩ | hpassed)
      · refine absurd ?_ hexhausted
        rw [hsame]
        exact hbudget
      · exact absurd hpassed hpasses
  · obtain ⟨hbad, hpart⟩ := h.not_ok hrc
    rw [if_neg fun hboth => hrc hboth.1]
    refine ⟨hhistory, hpart.trans ⟨Or.inr, ?_⟩⟩
    rintro (⟨hclean, _⟩ | hpassed)
    · exact absurd hclean hbad
    · exact hpassed

theorem poll_returns (prog : Program P (TimerService × ν)) (policy : Option RuntimeLoopPolicy)
    (ports : RuntimeLoopPorts P ν) (graph : RuntimeGraph P ν)
    (hturns : (policy.getD .default).schedulerTurnBudget ≠ 0)
    (htimers : (policy.getD .default).timerPublishBudget ≠ 0) :
    ∃ bound rc s, Ended (policy.getD .default) rc s ∧
      phases prog (policy.getD .default) ports bound (start ports graph).2.2 = some (rc, s) ∧
      ∀ fuel, bound ≤ fuel → pollOnce prog policy ports fuel graph =
        some (finalize ports (start ports graph).1 (start ports graph).2.1 rc s) := by
  have hstart : Steady (policy.getD .default) (start ports graph).2.2 := by
    refine ⟨⟨rfl, ?_⟩, fun event hmem => by cases hmem⟩
    exact UInt32.le_iff_toNat_le.mpr (Nat.zero_le _)
  obtain ⟨bound, hbound⟩ := exists_enough (policy.getD .default)
  obtain ⟨⟨rc, s⟩, hphases, hended⟩ := phases_returns prog (policy.getD .default) ports hbound hstart
  refine ⟨bound, rc, s, hended, hphases, fun fuel hle => ?_⟩
  unfold pollOnce
  simp only
  rw [if_neg (not_or.mpr ⟨hturns, htimers⟩), phases_mono prog _ ports hle hphases]

theorem pollOnce_total (prog : Program P (TimerService × ν)) (policy : Option RuntimeLoopPolicy)
    (ports : RuntimeLoopPorts P ν) (graph : RuntimeGraph P ν) :
    ∃ bound out, ∀ fuel, bound ≤ fuel → pollOnce prog policy ports fuel graph = some out := by
  by_cases hbudget : (policy.getD .default).schedulerTurnBudget = 0 ∨
      (policy.getD .default).timerPublishBudget = 0
  · exact ⟨0, _, fun fuel _ => if_pos hbudget⟩
  · obtain ⟨hturns, htimers⟩ := not_or.mp hbudget
    obtain ⟨bound, rc, s, _, _, hrun⟩ := poll_returns prog policy ports graph hturns htimers
    exact ⟨bound, _, hrun⟩

/-- A poll returns, polls the scheduler at most `maxPumpCalls` times, and reports partial work
exactly when no error occurred, a budget was exhausted and work is left, or when
`collectIngress` or the clock returned that result itself. -/
theorem poll_bounded (prog : Program P (TimerService × ν)) (policy : Option RuntimeLoopPolicy)
    (ports : RuntimeLoopPorts P ν) (graph : RuntimeGraph P ν)
    (hturns : (policy.getD .default).schedulerTurnBudget ≠ 0)
    (htimers : (policy.getD .default).timerPublishBudget ≠ 0) :
    ∃ bound rc s,
      (∀ fuel, bound ≤ fuel → pollOnce prog policy ports fuel graph = some (rc, s)) ∧
      pollCount s.history ≤ (policy.getD .default).maxPumpCalls.toNat ∧
      (rc = .errPartial ↔
        ((∀ event ∈ s.history, event.Ok) ∧ exhausted (policy.getD .default) s.report = true ∧
          (0 < s.report.pendingAfter ∨ s.extraPending = true)) ∨
        ∃ event, s.history.getLast? = some event ∧ event.PassesPartial) := by
  obtain ⟨bound, rc, s, hended, _, hrun⟩ := poll_returns prog policy ports graph hturns htimers
  obtain ⟨hhistory, hpart⟩ :=
    finalize_partial ports (start ports graph).1 (start ports graph).2.1 hended
  have hpolls : pollCount s.history = s.report.pumpCalls.toNat := hended.polls
  have hwithin : s.report.pumpCalls ≤ (policy.getD .default).maxPumpCalls := hended.within
  rw [← hhistory] at hpolls hpart
  generalize finalize ports (start ports graph).1 (start ports graph).2.1 rc s = out at *
  obtain ⟨rc', s'⟩ := out
  exact ⟨bound, rc', s', hrun, hpolls ▸ UInt32.le_iff_toNat_le.mp hwithin, hpart⟩

section Idle

def idleGraph : RuntimeGraph Unit Unit where
  scheduler := ⟨SystemPump.init, 0, 0, 0⟩
  world := ⟨ActorRegistry.fresh, (TimerService.init, ()), []⟩

def idleProgram : Program Unit (TimerService × Unit) where
  callbacks := ⟨fun _ _ _ _ w => (.ok, w), fun _ _ _ _ w => w⟩
  handler := fun _ _ => .ret .ok

def partialIngress : RuntimeLoopPorts Unit Unit where
  collectIngress := some fun _ _ graph => (.errPartial, 1, 0, graph)
  timerDelivery := none
  nowMs := fun w => (.ok, 0, w)
  workPending := none

/-- The result of the ingress is passed on although no budget is exhausted. -/
theorem poll_partial_fails :
    ¬ ∀ (policy : Option RuntimeLoopPolicy) (ports : RuntimeLoopPorts Unit Unit)
      (graph : RuntimeGraph Unit Unit) (fuel : Nat) (rc : Result) (s : LoopState Unit Unit),
      (policy.getD .default).schedulerTurnBudget ≠ 0 →
      (policy.getD .default).timerPublishBudget ≠ 0 →
      pollOnce idleProgram policy ports fuel graph = some (rc, s) →
      (rc = .errPartial ↔
        (∀ event ∈ s.history, event.Ok ∨ event.PassesPartial) ∧
          exhausted (policy.getD .default) s.report = true ∧
          (0 < s.report.pendingAfter ∨ s.extraPending = true)) := by
  intro hiff
  have hexhausted := ((hiff none partialIngress idleGraph 1 .errPartial _ (by decide) (by decide)
    rfl).mp rfl).2.1
  exact absurd hexhausted (by decide)

/-- Two messages wait for the boot actor, a one-shot is due, and so is a periodic timer whose period
moves its deadline backwards. -/
def busyGraph : RuntimeGraph Unit Unit where
  scheduler := ⟨SystemPump.init.bindAll [.init .fastLoop], 0, 0, 0⟩
  world :=
    let msg := (Msg.blank.initSend .bootStarted .boot .boot).2
    let first := ((Mailbox.fresh .fifo8).push idleProgram.callbacks msg (TimerService.init, ())).2.1
    let queued := (first.push idleProgram.callbacks msg (TimerService.init, ())).2.1
    let timers := (TimerService.init.setSlot ⟨0, by decide⟩
      { active := true, deadlineMs := 5, periodMs := 5, targetActor := .boot, eventId := .tick1s }).setSlot
      ⟨1, by decide⟩
      { active := true, periodic := true, deadlineMs := 10, periodMs := 0xC0000000,
        targetActor := .boot, eventId := .tick100ms }
    ⟨ActorRegistry.fresh.setRuntime ⟨.boot, queued, {}⟩, (timers, ()), []⟩

/-- The clock stands at 10 ms, due timers are delivered, and there is always more work. -/
def busyPorts : RuntimeLoopPorts Unit Unit where
  collectIngress := none
  timerDelivery := some fun _ rest target msg =>
    let out := rest.2.deliver Callbacks.none target msg .critical false
    (out.1, [], (rest.1, out.2.2))
  nowMs := fun w => (.ok, 10, w)
  workPending := some fun _ _ graph => (.ok, true, graph)

theorem poll_bounded_busy : 0 < busyGraph.schedulerPending ∧
    ∃ bound rc s,
      (∀ fuel, bound ≤ fuel → pollOnce idleProgram none busyPorts fuel busyGraph = some (rc, s)) ∧
      pollCount s.history ≤ RuntimeLoopPolicy.default.maxPumpCalls.toNat ∧
      (rc = .errPartial ↔
        ((∀ event ∈ s.history, event.Ok) ∧
          exhausted RuntimeLoopPolicy.default s.report = true ∧
          (0 < s.report.pendingAfter ∨ s.extraPending = true)) ∨
        ∃ event, s.history.getLast? = some event ∧ event.PassesPartial) :=
  ⟨by decide +kernel, poll_bounded idleProgram none busyPorts busyGraph (by decide) (by decide)⟩

end Idle

end RuntimeLoop

end EventFramework
