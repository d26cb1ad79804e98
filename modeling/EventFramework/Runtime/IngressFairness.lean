import EventFramework.Runtime.LoopBounds
import EventFramework.Core.PumpFairness

/-!
# Ingress and the scheduler

One poll drains the scheduler after the ingress was collected. Whether the scheduler is polled
at all is decided by the first collection of the poll.
-/

namespace EventFramework
set_option autoImplicit false

open FuelLoop

variable {P ν : Type}

/-- `collect_ingress` takes no work out of the graph. -/
def RuntimeLoopPorts.KeepsWork (ports : RuntimeLoopPorts P ν) : Prop :=
  ∀ port, ports.collectIngress = some port → ∀ policy report graph,
    0 < graph.schedulerPending → 0 < (port policy report graph).2.2.2.schedulerPending

structure RuntimeLoopPolicy.Budgeted (policy : RuntimeLoopPolicy) : Prop where
  pumpCalls : policy.maxPumpCalls ≠ 0
  messages : policy.maxMessages ≠ 0
  turns : policy.maxTurns ≠ 0
  irqSamples : policy.maxIrqSamples ≠ 0
  netSamples : policy.maxNetSamples ≠ 0
  timerPublish : policy.timerPublishBudget ≠ 0
  schedulerTurn : policy.schedulerTurnBudget ≠ 0

namespace RuntimeLoop

variable {prog : Program P (TimerService × ν)} {policy : RuntimeLoopPolicy}
  {ports : RuntimeLoopPorts P ν} {fuel : Nat} {s : LoopState P ν} {out : Result × LoopState P ν}

theorem pollCount_mono {earlier later : List LoopEvent} (h : earlier <+: later) :
    pollCount earlier ≤ pollCount later :=
  h.sublist.countP_le

@[simp] theorem pollCount_snoc (history : List LoopEvent) (event : LoopEvent) :
    pollCount (history ++ [event]) = pollCount history + if event.isPoll then 1 else 0 := by
  rw [pollCount, List.countP_append, List.countP_singleton]
  rfl

/-- Where an iteration of the drain goes: it ends and leaves all but the flag alone, or polls once. -/
theorem drainBody_cases (prog : Program P (TimerService × ν)) (policy : RuntimeLoopPolicy)
    (s : LoopState P ν) :
    (∃ spent, drainBody prog policy s = some (.done (.ok, { s with
        report := { s.report with exhausted := spent } })) ∧
      (s.graph.schedulerPending = 0 ∨ s.report.exhausted = true ∨
        exhausted policy s.report = true)) ∨
    ∃ out spent last t,
      out = s.graph.pollSchedulerOnce prog policy.schedulerTurnBudget.toNat ∧
      t = { polled s out.1 out.2.1 out.2.2 with
        report := { (polled s out.1 out.2.1 out.2.2).report with
          exhausted := spent, lastResult := last } } ∧
      (drainBody prog policy s = some (.again t) ∨
        ∃ rc, drainBody prog policy s = some (.done (rc, t))) := by
  by_cases hwork : 0 < s.graph.schedulerPending ∧ s.report.exhausted = false
  · rw [drainBody, if_pos hwork]
    by_cases hspent : exhausted policy s.report = true
    · rw [if_pos hspent]
      exact Or.inl ⟨true, rfl, Or.inr (Or.inr hspent)⟩
    · rw [if_neg hspent]
      right
      generalize s.graph.pollSchedulerOnce prog policy.schedulerTurnBudget.toNat = out
      simp only
      by_cases hgood : out.1 = .ok ∨ out.1 = .errPartial
      · rw [if_pos hgood]
        exact ⟨out, _, _, _, rfl, rfl, Or.inl rfl⟩
      · rw [if_neg hgood]
        by_cases hempty : out.1 = .errEmpty
        · rw [if_pos hempty]
          exact ⟨out, _, _, _, rfl, rfl, Or.inr ⟨_, rfl⟩⟩
        · rw [if_neg hempty]
          exact ⟨out, _, _, _, rfl, rfl, Or.inr ⟨_, rfl⟩⟩
  · rw [drainBody, if_neg hwork]
    refine Or.inl ⟨s.report.exhausted, rfl, ?_⟩
    rcases not_and_or.mp hwork with hnone | hspent
    · exact Or.inl (Nat.eq_zero_of_not_pos hnone)
    · exact Or.inr (Or.inl (Bool.not_eq_false _ ▸ hspent))

/-- What every poll of a drain keeps, and the marking of a spent budget too, a drain keeps. -/
theorem drainScheduler_keeps (Inv : LoopState P ν → Prop)
    (hmark : ∀ t spent, Inv t → Inv { t with report := { t.report with exhausted := spent } })
    (hpoll : ∀ t spent last, Inv t →
      let out := t.graph.pollSchedulerOnce prog policy.schedulerTurnBudget.toNat
      Inv { polled t out.1 out.2.1 out.2.2 with
        report := { (polled t out.1 out.2.1 out.2.2).report with
          exhausted := spent, lastResult := last } })
    (hs : Inv s) (h : drainScheduler prog policy fuel s = some out) : Inv out.2 := by
  refine loop_ends Inv (fun r : Result × LoopState P ν => Inv r.2) ?_ ?_ hs h
  · intro t u ht hstep
    rcases drainBody_cases prog policy t with
      ⟨_, hdone, _⟩ | ⟨_, spent, last, v, rfl, hv, hagain | ⟨_, hdone⟩⟩
    · rw [hdone] at hstep
      cases hstep
    · obtain rfl : v = u := Step.again.inj (Option.some.inj (hagain.symm.trans hstep))
      rw [hv]
      exact hpoll t spent last ht
    · rw [hdone] at hstep
      cases hstep
  · intro t r ht hstep
    rcases drainBody_cases prog policy t with
      ⟨spent, hdone, _⟩ | ⟨_, spent, last, v, rfl, hv, hagain | ⟨_, hdone⟩⟩
    · obtain rfl := Step.done.inj (Option.some.inj (hdone.symm.trans hstep))
      exact hmark t spent ht
    · rw [hagain] at hstep
      cases hstep
    · obtain rfl := Step.done.inj (Option.some.inj (hdone.symm.trans hstep))
      simp only
      rw [hv]
      exact hpoll t spent last ht

theorem drainScheduler_grows (h : drainScheduler prog policy fuel s = some out) :
    s.history <+: out.2.history :=
  drainScheduler_keeps (fun t => s.history <+: t.history) (fun _ _ ht => ht)
    (fun _ _ _ ht => ht.trans (List.prefix_append _ _)) (List.prefix_refl _) h

theorem drainScheduler_polls (hwork : 0 < s.graph.schedulerPending)
    (hopen : s.report.exhausted = false) (hleft : exhausted policy s.report = false)
    (h : drainScheduler prog policy fuel s = some out) :
    pollCount s.history < pollCount out.2.history := by
  cases fuel with
  | zero => cases h
  | succ fuel =>
    rw [drainScheduler, loop] at h
    rcases drainBody_cases prog policy s with
      ⟨_, _, hstuck⟩ | ⟨polling, spent, last, t, _, ht, hagain | ⟨_, hdone⟩⟩
    · rw [hopen, hleft] at hstuck
      rcases hstuck with hnone | hspent | hspent
      · exact absurd hwork (Nat.not_lt.mpr (Nat.le_of_eq hnone))
      · cases hspent
      · cases hspent
    · have hone : pollCount t.history = pollCount s.history + 1 := by
        rw [ht]
        exact pollCount_snoc ..
      rw [hagain] at h
      have hgrown := pollCount_mono (drainScheduler_grows
        (show drainScheduler prog policy fuel t = some out from h))
      rw [hone] at hgrown
      exact hgrown
    · have hone : pollCount t.history = pollCount s.history + 1 := by
        rw [ht]
        exact pollCount_snoc ..
      rw [hdone] at h
      obtain rfl := Option.some.inj h
      simp only
      rw [hone]
      exact Nat.lt_succ_self _

theorem drainScheduler_idle (hidle : ¬(0 < s.graph.schedulerPending ∧ s.report.exhausted = false))
    (h : drainScheduler prog policy fuel s = some out) : out = (.ok, s) := by
  cases fuel with
  | zero => cases h
  | succ fuel =>
    rw [drainScheduler, loop, drainBody, if_neg hidle] at h
    exact (Option.some.inj h).symm

theorem collect_grows (policy : RuntimeLoopPolicy) (ports : RuntimeLoopPorts P ν)
    (s : LoopState P ν) :
    s.history <+: (collect policy ports s).2.history ∧
      pollCount (collect policy ports s).2.history = pollCount s.history := by
  unfold collect
  cases ports.collectIngress with
  | none => exact ⟨List.prefix_refl _, rfl⟩
  | some port => exact ⟨List.prefix_append _ _, pollCount_snoc s.history _⟩

/-- An iteration of the ingress loop: the collection fails, or a drain follows. -/
theorem ingressBody_cases {step : Step (LoopState P ν) (Result × LoopState P ν)}
    (h : ingressBody prog policy ports fuel s = some step) :
    ((collect policy ports s).1 ≠ .ok ∧ step = .done (collect policy ports s)) ∨
    (collect policy ports s).1 = .ok ∧ ∃ rc t,
      drainScheduler prog policy fuel (recordExhausted policy (collect policy ports s).2) =
        some (rc, t) ∧
      (step = .done (rc, t) ∨ rc = .ok ∧ t.report.exhausted = false ∧ step = .again t) := by
  unfold ingressBody at h
  simp only at h
  by_cases hrc : (collect policy ports s).1 = .ok
  · rw [if_neg (not_not.mpr hrc)] at h
    right
    refine ⟨hrc, ?_⟩
    cases hdrain : drainScheduler prog policy fuel
        (recordExhausted policy (collect policy ports s).2) with
    | none =>
      rw [hdrain] at h
      cases h
    | some drained =>
      rw [hdrain] at h
      obtain ⟨rc, t⟩ := drained
      refine ⟨rc, t, rfl, ?_⟩
      simp only at h
      by_cases hfailed : rc ≠ .ok
      · rw [if_pos hfailed] at h
        exact Or.inl (Option.some.inj h).symm
      · rw [if_neg hfailed] at h
        obtain rfl := not_not.mp hfailed
        split at h
        · exact Or.inl (Option.some.inj h).symm
        · rename_i hgoing
          refine Or.inr ⟨rfl, ?_, (Option.some.inj h).symm⟩
          exact Bool.eq_false_iff.mpr fun hspent => hgoing (Or.inl hspent)
  · rw [if_pos hrc] at h
    exact Or.inl ⟨hrc, (Option.some.inj h).symm⟩

theorem ingressLoop_keeps {rounds : Nat} (Inv : LoopState P ν → Prop) (Good : Result → Prop)
    (hcollect : ∀ t, Inv t → Inv (collect policy ports t).2 ∧ Good (collect policy ports t).1)
    (hdrain : ∀ t rc u, Inv (collect policy ports t).2 →
      drainScheduler prog policy fuel (recordExhausted policy (collect policy ports t).2) =
        some (rc, u) → Inv u ∧ Good rc)
    (hs : Inv s) (h : loop (ingressBody prog policy ports fuel) rounds s = some out) :
    Inv out.2 ∧ Good out.1 := by
  refine loop_ends Inv (fun r : Result × LoopState P ν => Inv r.2 ∧ Good r.1) ?_ ?_ hs h
  · intro t u ht hstep
    rcases ingressBody_cases hstep with ⟨_, hdone⟩ | ⟨_, rc, v, hdrained, hdone | ⟨_, _, hagain⟩⟩
    · cases hdone
    · cases hdone
    · obtain rfl := Step.again.inj hagain
      exact (hdrain t rc u (hcollect t ht).1 hdrained).1
  · intro t r ht hstep
    rcases ingressBody_cases hstep with ⟨_, hdone⟩ | ⟨_, rc, v, hdrained, hdone | ⟨_, _, hagain⟩⟩
    · obtain rfl := Step.done.inj hdone
      exact hcollect t ht
    · obtain rfl := Step.done.inj hdone
      exact hdrain t rc v (hcollect t ht).1 hdrained
    · cases hagain

theorem ingress_grows {rounds : Nat}
    (h : loop (ingressBody prog policy ports fuel) rounds s = some out) :
    s.history <+: out.2.history := by
  refine (ingressLoop_keeps (fun t => s.history <+: t.history) (fun _ => True) ?_ ?_
    (List.prefix_refl _) h).1
  · exact fun t ht => ⟨ht.trans (collect_grows policy ports t).1, trivial⟩
  · exact fun t rc u ht hdrained => ⟨ht.trans (drainScheduler_grows hdrained), trivial⟩

theorem ingress_first (h : ingress prog policy ports fuel s = some out) :
    ((collect policy ports s).1 ≠ .ok ∧ out = collect policy ports s) ∨
    (collect policy ports s).1 = .ok ∧ ∃ rc t,
      drainScheduler prog policy fuel (recordExhausted policy (collect policy ports s).2) =
        some (rc, t) ∧
      (out = (rc, t) ∨ t.report.exhausted = false ∧ t.history <+: out.2.history) := by
  cases fuel with
  | zero => cases h
  | succ fuel =>
    rw [ingress, loop] at h
    cases hstep : ingressBody prog policy ports (fuel + 1) s with
    | none =>
      rw [hstep] at h
      cases h
    | some step =>
      rw [hstep] at h
      rcases ingressBody_cases hstep with ⟨hfailed, rfl⟩ | ⟨hok, rc, t, hdrain, hrest⟩
      · exact Or.inl ⟨hfailed, (Option.some.inj h).symm⟩
      · refine Or.inr ⟨hok, rc, t, hdrain, ?_⟩
        rcases hrest with rfl | ⟨_, hopen, rfl⟩
        · exact Or.inl (Option.some.inj h).symm
        · exact Or.inr ⟨hopen, ingress_grows h⟩

theorem publishTimers_grows (policy : RuntimeLoopPolicy) (ports : RuntimeLoopPorts P ν)
    (nowMs : UInt32) (s : LoopState P ν) :
    s.history <+: (publishTimers policy ports nowMs s).2.history := by
  unfold publishTimers
  split
  · exact List.prefix_append _ _
  · exact List.prefix_refl _

theorem drainAfterTimers_grows (h : drainAfterTimers prog policy fuel s = some out) :
    s.history <+: out.2.history := by
  unfold drainAfterTimers at h
  split at h
  · exact drainScheduler_grows h
  · rw [← Option.some.inj h]

theorem timerBody_cases {nowMs : UInt32} {step : Step (LoopState P ν) (Result × LoopState P ν)}
    (h : timerBody prog policy ports nowMs fuel s = some step) :
    ∃ rc t, drainAfterTimers prog policy fuel
        (recordExhausted policy (publishTimers policy ports nowMs s).2) = some (rc, t) ∧
      ((rc ≠ .ok ∧ step = .done (rc, t)) ∨
        rc = .ok ∧ step = .done (.ok, t) ∧ (t.report.exhausted = true ∨
          (publishTimers policy ports nowMs s).1 = 0 ∨
          t.graph.timerPublishedCount = s.graph.timerPublishedCount) ∨
        rc = .ok ∧ step = .again t) := by
  unfold timerBody at h
  simp only at h
  cases hdrain : drainAfterTimers prog policy fuel
      (recordExhausted policy (publishTimers policy ports nowMs s).2) with
  | none =>
    rw [hdrain] at h
    cases h
  | some drained =>
    rw [hdrain] at h
    obtain ⟨rc, t⟩ := drained
    refine ⟨rc, t, rfl, ?_⟩
    simp only at h
    by_cases hfailed : rc ≠ .ok
    · rw [if_pos hfailed] at h
      exact Or.inl ⟨hfailed, (Option.some.inj h).symm⟩
    · rw [if_neg hfailed] at h
      split at h
      · rename_i hstop
        exact Or.inr (Or.inl ⟨not_not.mp hfailed, (Option.some.inj h).symm, hstop⟩)
      · exact Or.inr (Or.inr ⟨not_not.mp hfailed, (Option.some.inj h).symm⟩)

theorem publishLoop_keeps {nowMs : UInt32} (Inv : LoopState P ν → Prop) (Good : Result → Prop)
    (hdrain : ∀ t rc u, Inv t →
      drainAfterTimers prog policy fuel (recordExhausted policy (publishTimers policy ports nowMs t).2) =
        some (rc, u) → Inv u ∧ Good rc)
    (hs : Inv s) (h : publishLoop prog policy ports nowMs fuel s = some out) :
    Inv out.2 ∧ Good out.1 := by
  refine loop_ends Inv (fun r : Result × LoopState P ν => Inv r.2 ∧ Good r.1) ?_ ?_ hs h
  · intro t u ht hstep
    obtain ⟨rc, v, hdrained, ⟨_, hdone⟩ | ⟨_, hdone, _⟩ | ⟨_, hagain⟩⟩ := timerBody_cases hstep
    · cases hdone
    · cases hdone
    · obtain rfl := Step.again.inj hagain
      exact (hdrain t rc u ht hdrained).1
  · intro t r ht hstep
    obtain ⟨rc, v, hdrained, ⟨_, hdone⟩ | ⟨rfl, hdone, _⟩ | ⟨_, hagain⟩⟩ := timerBody_cases hstep
    · obtain rfl := Step.done.inj hdone
      exact hdrain t rc v ht hdrained
    · obtain rfl := Step.done.inj hdone
      exact hdrain t .ok v ht hdrained
    · cases hagain

theorem publishLoop_grows {nowMs : UInt32} (h : publishLoop prog policy ports nowMs fuel s = some out) :
    s.history <+: out.2.history := by
  refine (publishLoop_keeps (fun t => s.history <+: t.history) (fun _ => True) ?_
    (List.prefix_refl _) h).1
  intro t rc u ht hdrained
  have hpass := publishTimers_grows policy ports nowMs t
  exact ⟨ht.trans (hpass.trans (drainAfterTimers_grows hdrained)), trivial⟩

theorem timerPhase_cases (h : timerPhase prog policy ports fuel s = some out) :
    ((readClock ports s).1 ≠ .ok ∧ out = ((readClock ports s).1, (readClock ports s).2.2)) ∨
    (readClock ports s).1 = .ok ∧
      publishLoop prog policy ports (readClock ports s).2.1 fuel (readClock ports s).2.2 =
        some out := by
  unfold timerPhase at h
  simp only at h
  by_cases hread : (readClock ports s).1 ≠ .ok
  · rw [if_pos hread] at h
    exact Or.inl ⟨hread, (Option.some.inj h).symm⟩
  · rw [if_neg hread] at h
    exact Or.inr ⟨not_not.mp hread, h⟩

theorem timerPhase_grows (h : timerPhase prog policy ports fuel s = some out) :
    s.history <+: out.2.history := by
  have hread : s.history <+: (readClock ports s).2.2.history := List.prefix_append _ _
  rcases timerPhase_cases h with ⟨_, rfl⟩ | ⟨_, hloop⟩
  · exact hread
  · exact hread.trans (publishLoop_grows hloop)

/-- The ingress phase ends the poll, or the timer phase follows. -/
theorem phases_cases (h : phases prog policy ports fuel s = some out) :
    ∃ first, ingress prog policy ports fuel s = some first ∧
      ((first.1 ≠ .ok ∨ first.2.report.exhausted = true) ∧ out = first ∨
        (first.1 = .ok ∧ first.2.report.exhausted = false) ∧
          timerPhase prog policy ports fuel first.2 = some out) := by
  unfold phases at h
  cases hfirst : ingress prog policy ports fuel s with
  | none =>
    rw [hfirst] at h
    cases h
  | some first =>
    rw [hfirst] at h
    simp only at h
    refine ⟨first, rfl, ?_⟩
    by_cases hstop : first.1 ≠ .ok ∨ first.2.report.exhausted = true
    · rw [if_pos hstop] at h
      exact Or.inl ⟨hstop, (Option.some.inj h).symm⟩
    · rw [if_neg hstop] at h
      obtain ⟨hok, hopen⟩ := not_or.mp hstop
      exact Or.inr ⟨⟨not_not.mp hok, Bool.eq_false_iff.mpr hopen⟩, h⟩

theorem finalize_history (ports : RuntimeLoopPorts P ν) (haveTiming : Bool) (startMs : UInt32)
    (rc : Result) (s : LoopState P ν) :
    (finalize ports haveTiming startMs rc s).2.history = s.history := by
  have hended : (readEnd ports haveTiming startMs (recordPending s)).2.history = s.history :=
    (readEnd_keeps ports haveTiming startMs .default (recordPending s)).1
  unfold finalize
  simp only
  split
  · split
    · exact (askWork_keeps ports _ _).1.trans hended
    · exact (askWork_keeps ports _ _).1.trans hended
  · exact hended

def firstIngress (policy : RuntimeLoopPolicy) (ports : RuntimeLoopPorts P ν)
    (graph : RuntimeGraph P ν) : Result × LoopState P ν :=
  collect policy ports (start ports graph).2.2

structure Admits (policy : RuntimeLoopPolicy) (collected : Result × LoopState P ν) : Prop where
  ok : collected.1 = .ok
  irqSamples : collected.2.report.irqSamples < policy.maxIrqSamples.toNat
  netSamples : collected.2.report.netSamples < policy.maxNetSamples.toNat

theorem collect_report (policy : RuntimeLoopPolicy) (ports : RuntimeLoopPorts P ν)
    (s : LoopState P ν) :
    (collect policy ports s).2.report.pumpCalls = s.report.pumpCalls ∧
      (collect policy ports s).2.report.messages = s.report.messages ∧
      (collect policy ports s).2.report.turns = s.report.turns := by
  unfold collect
  cases ports.collectIngress with
  | none => exact ⟨rfl, rfl, rfl⟩
  | some port => exact ⟨rfl, rfl, rfl⟩

theorem firstIngress_exhausted (hbudget : policy.Budgeted) (ports : RuntimeLoopPorts P ν)
    (graph : RuntimeGraph P ν) :
    exhausted policy (firstIngress policy ports graph).2.report = false ↔
      (firstIngress policy ports graph).2.report.irqSamples < policy.maxIrqSamples.toNat ∧
        (firstIngress policy ports graph).2.report.netSamples < policy.maxNetSamples.toNat := by
  have hpositive {limit : UInt32} (hne : limit ≠ 0) : ¬limit ≤ 0 := by
    rw [UInt32.le_iff_toNat_le]
    have : limit.toNat ≠ (0 : UInt32).toNat := fun heq => hne (UInt32.toNat_inj.mp heq)
    have : (0 : UInt32).toNat = 0 := rfl
    omega
  obtain ⟨hcalls, hmessages, hturns⟩ := collect_report policy ports (start ports graph).2.2
  have hcalls : (firstIngress policy ports graph).2.report.pumpCalls = 0 := hcalls
  have hmessages : (firstIngress policy ports graph).2.report.messages = 0 := hmessages
  have hturns : (firstIngress policy ports graph).2.report.turns = 0 := hturns
  unfold exhausted
  rw [hcalls, hmessages, hturns, decide_eq_false (hpositive hbudget.pumpCalls),
    decide_eq_false (hpositive hbudget.messages), decide_eq_false (hpositive hbudget.turns)]
  simp only [Bool.false_or, Bool.or_eq_false_iff, decide_eq_false_iff_not, Nat.not_le]

theorem firstIngress_pending (hkeeps : ports.KeepsWork) {graph : RuntimeGraph P ν}
    (hwork : 0 < graph.schedulerPending) :
    0 < (firstIngress policy ports graph).2.graph.schedulerPending := by
  have hstart : 0 < (start ports graph).2.2.graph.schedulerPending := hwork
  unfold firstIngress collect
  cases hport : ports.collectIngress with
  | none => exact hstart
  | some port => exact hkeeps port hport policy _ _ hstart

/-- A first collection that leaves room is followed by a poll. -/
theorem phases_admitted (hbudget : policy.Budgeted) (hkeeps : ports.KeepsWork)
    {graph : RuntimeGraph P ν} (hwork : 0 < graph.schedulerPending)
    (hadmits : Admits policy (firstIngress policy ports graph))
    (h : phases prog policy ports fuel (start ports graph).2.2 = some out) :
    0 < pollCount out.2.history := by
  have hopen : exhausted policy (firstIngress policy ports graph).2.report = false :=
    (firstIngress_exhausted hbudget ports graph).mpr ⟨hadmits.irqSamples, hadmits.netSamples⟩
  have hpending : 0 < (firstIngress policy ports graph).2.graph.schedulerPending :=
    firstIngress_pending hkeeps hwork
  have hingress {first : Result × LoopState P ν}
      (hfirst : ingress prog policy ports fuel (start ports graph).2.2 = some first) :
      0 < pollCount first.2.history := by
    rcases ingress_first hfirst with ⟨hfailed, _⟩ | ⟨_, rc, t, hdrain, hrest⟩
    · exact absurd hadmits.ok hfailed
    · have hpolled : 0 < pollCount t.history :=
        Nat.lt_of_le_of_lt (Nat.zero_le _) (drainScheduler_polls
          (s := recordExhausted policy (firstIngress policy ports graph).2)
          hpending hopen hopen hdrain)
      rcases hrest with rfl | ⟨_, hgrows⟩
      · exact hpolled
      · exact Nat.lt_of_lt_of_le hpolled (pollCount_mono hgrows)
  obtain ⟨first, hfirst, ⟨_, rfl⟩ | ⟨_, htimers⟩⟩ := phases_cases h
  · exact hingress hfirst
  · exact Nat.lt_of_lt_of_le (hingress hfirst) (pollCount_mono (timerPhase_grows htimers))

/-- A first collection that fails, or takes a sample budget up, ends the poll. -/
theorem phases_refused (hbudget : policy.Budgeted) {graph : RuntimeGraph P ν}
    (hrefused : ¬Admits policy (firstIngress policy ports graph))
    (h : phases prog policy ports fuel (start ports graph).2.2 = some out) :
    pollCount out.2.history = 0 := by
  have hnone : pollCount (firstIngress policy ports graph).2.history = 0 :=
    (collect_grows policy ports (start ports graph).2.2).2
  obtain ⟨first, hfirst, hend⟩ := phases_cases h
  rcases ingress_first hfirst with ⟨hfailed, rfl⟩ | ⟨hok, rc, t, hdrain, hrest⟩
  · rcases hend with ⟨_, rfl⟩ | ⟨hgoes, _⟩
    · exact hnone
    · exact absurd hgoes.1 hfailed
  · have hspent : exhausted policy (firstIngress policy ports graph).2.report = true := by
      by_contra hopen
      have hroom := (firstIngress_exhausted hbudget ports graph).mp
        (Bool.eq_false_iff.mpr hopen)
      exact hrefused ⟨hok, hroom.1, hroom.2⟩
    have hidle : ¬(0 < (firstIngress policy ports graph).2.graph.schedulerPending ∧
        exhausted policy (firstIngress policy ports graph).2.report = false) := by
      rw [hspent]
      exact fun hboth => Bool.noConfusion hboth.2
    obtain ⟨rfl, rfl⟩ := Prod.mk.inj (drainScheduler_idle hidle hdrain)
    rcases hrest with rfl | ⟨hopen, _⟩
    · rcases hend with ⟨_, rfl⟩ | ⟨hgoes, _⟩
      · exact hnone
      · exact absurd (hspent.symm.trans hgoes.2) (by decide)
    · exact absurd (hspent.symm.trans hopen) (by decide)

/-- A poll with work pending polls the scheduler just when its first collection succeeds and
leaves a part of both sample budgets. -/
theorem scheduler_polled_iff_admitted (prog : Program P (TimerService × ν))
    (policy : Option RuntimeLoopPolicy) (ports : RuntimeLoopPorts P ν) (graph : RuntimeGraph P ν)
    (hbudget : (policy.getD .default).Budgeted) (hkeeps : ports.KeepsWork)
    (hwork : 0 < graph.schedulerPending) :
    ∃ bound rc s, (∀ fuel, bound ≤ fuel → pollOnce prog policy ports fuel graph = some (rc, s)) ∧
      (0 < pollCount s.history ↔
        Admits (policy.getD .default) (firstIngress (policy.getD .default) ports graph)) := by
  obtain ⟨bound, rc, s, _, hphases, hrun⟩ :=
    poll_returns prog policy ports graph hbudget.schedulerTurn hbudget.timerPublish
  have hhistory := finalize_history ports (start ports graph).1 (start ports graph).2.1 rc s
  generalize finalize ports (start ports graph).1 (start ports graph).2.1 rc s = ended at *
  obtain ⟨rc', s'⟩ := ended
  refine ⟨bound, rc', s', hrun, ?_⟩
  rw [show s'.history = s.history from hhistory]
  constructor
  · intro hpolled
    by_contra hrefused
    exact Nat.ne_of_gt hpolled (phases_refused hbudget hrefused hphases)
  · exact fun hadmits => phases_admitted hbudget hkeeps hwork hadmits hphases

section Flood

def waitingGraph : RuntimeGraph Unit Unit where
  scheduler := ⟨SystemPump.init.bindAll [.init .fastLoop], 0, 0, 0⟩
  world := ⟨ActorRegistry.fresh.setRuntime ⟨.boot, twoQueued, {}⟩, (TimerService.init, ()), []⟩

/-- An ingress that delivers nothing, but answers and counts. -/
def countingIngress (rc : Result) (irqSamples : Nat) : RuntimeLoopPorts Unit Unit where
  collectIngress := some fun _ _ graph => (rc, irqSamples, 0, graph)
  timerDelivery := none
  nowMs := fun w => (.ok, 0, w)
  workPending := none

theorem countingIngress_keeps (rc : Result) (irqSamples : Nat) :
    (countingIngress rc irqSamples).KeepsWork := by
  intro port hport policy report graph hwork
  obtain rfl := Option.some.inj hport
  exact hwork

theorem default_budgeted : RuntimeLoopPolicy.default.Budgeted := by
  constructor <;> decide

theorem scheduler_polled_iff_admitted_flood :
    ∃ bound rc s, (∀ fuel, bound ≤ fuel →
        pollOnce idleProgram none (countingIngress .ok 15) fuel waitingGraph = some (rc, s)) ∧
      (0 < pollCount s.history ↔ Admits RuntimeLoopPolicy.default
        (firstIngress RuntimeLoopPolicy.default (countingIngress .ok 15) waitingGraph)) :=
  scheduler_polled_iff_admitted idleProgram none (countingIngress .ok 15) waitingGraph
    default_budgeted (countingIngress_keeps .ok 15) (by decide +kernel)

/-- A full mailbox refuses the ingress, and the poll that reports it does not empty it. -/
theorem failed_ingress_starves :
    ¬∀ (policy : Option RuntimeLoopPolicy) (ports : RuntimeLoopPorts Unit Unit)
      (graph : RuntimeGraph Unit Unit) (fuel : Nat) (rc : Result) (s : LoopState Unit Unit),
      (policy.getD .default).Budgeted → ports.KeepsWork → 0 < graph.schedulerPending →
      pollOnce idleProgram policy ports fuel graph = some (rc, s) → 0 < pollCount s.history := by
  intro h
  have hpolled := h none (countingIngress .errFull 1) waitingGraph 1 .errFull _ default_budgeted
    (countingIngress_keeps .errFull 1) (by decide +kernel) rfl
  revert hpolled
  decide +kernel

end Flood

end RuntimeLoop

end EventFramework
