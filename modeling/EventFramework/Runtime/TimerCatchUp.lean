import EventFramework.Core.LeaseShares
import EventFramework.Runtime.PollFrame
import EventFramework.Runtime.TimerDeadlines

/-!
# The timers catch up

The timer loop of a poll publishes in bounded passes with drains of the scheduler between them.
When it ends with budget left, every deadline that the clock value had reached was published.
-/

namespace EventFramework
set_option autoImplicit false

open FuelLoop

variable {P ν σ : Type}

namespace TimerSlot

/-- The number of periods, one for a one-shot, whose deadline is at or before `nowMs`. -/
def periodsDue (nowMs : UInt32) (slot : TimerSlot) : Nat :=
  if slot.active && TimerService.isDue nowMs slot.deadlineMs then
    if slot.periodic then (nowMs - slot.deadlineMs).toNat / slot.periodMs.toNat + 1 else 1
  else 0

/-- A timer whose ids are valid, with a period of at most `2 ^ 31 - 1` and a deadline as close to
`nowMs`. -/
structure InRange (nowMs : UInt32) (slot : TimerSlot) : Prop where
  event : slot.eventId.isValid = true
  target : slot.targetActor.isValid = true
  period : slot.periodMs.toNat < 2 ^ 31
  deadline : (nowMs - slot.deadlineMs).toNat ≠ 2 ^ 31

variable {nowMs : UInt32} {slot : TimerSlot}

theorem InRange.message (h : InRange nowMs slot) : (slot.message (P := P)).1 = .ok := by
  have htarget : ¬slot.targetActor = .none := by
    intro hnone
    have hvalid := h.target
    rw [hnone] at hvalid
    cases hvalid
  have hruntime : ActorId.runtime.isValid = true := rfl
  unfold TimerSlot.message Msg.initSend
  simp only [h.event, h.target, hruntime, Bool.not_true, Bool.or_false, beq_iff_eq]
  rw [if_neg htarget]

theorem advanced_periods (h : InRange nowMs slot) (hactive : slot.active = true)
    (hdue : TimerService.isDue nowMs slot.deadlineMs = true) :
    (slot.advanced.active = true → InRange nowMs slot.advanced) ∧
      slot.advanced.periodsDue nowMs + 1 = slot.periodsDue nowMs := by
  by_cases hperiodic : slot.periodic = true
  · have hreached := (TimerService.isDue_iff ..).mp hdue
    have hshort := h.period
    have hpositive : 0 < slot.periodMs.toNat := by
      refine Nat.pos_of_ne_zero fun hzero => slot.period_pos hactive ?_
      exact UInt32.toNat_inj.mp hzero
    have hlag : (nowMs - (slot.deadlineMs + slot.periodMs)).toNat =
        (2 ^ 32 - slot.periodMs.toNat + (nowMs - slot.deadlineMs).toNat) % 2 ^ 32 := by
      have := slot.periodMs.toNat_lt
      have := slot.deadlineMs.toNat_lt
      have := nowMs.toNat_lt
      simp only [UInt32.toNat_sub, UInt32.toNat_add]
      omega
    have hadvanced : slot.advanced = { slot with deadlineMs := slot.deadlineMs + slot.periodMs } := by
      rw [advanced, if_pos hperiodic]
    have hbefore : slot.periodsDue nowMs =
        (nowMs - slot.deadlineMs).toNat / slot.periodMs.toNat + 1 := by
      unfold periodsDue
      rw [hactive, hdue, hperiodic]
      rfl
    rw [hadvanced, hbefore]
    by_cases hbehind : slot.periodMs.toNat ≤ (nowMs - slot.deadlineMs).toNat
    · have hnext : (nowMs - (slot.deadlineMs + slot.periodMs)).toNat =
          (nowMs - slot.deadlineMs).toNat - slot.periodMs.toNat := by omega
      have hstill : TimerService.isDue nowMs (slot.deadlineMs + slot.periodMs) = true := by
        rw [TimerService.isDue_iff]
        omega
      refine ⟨fun _ => ⟨h.event, h.target, h.period, ?_⟩, ?_⟩
      · change (nowMs - (slot.deadlineMs + slot.periodMs)).toNat ≠ 2 ^ 31
        omega
      · simp only [periodsDue, hactive, hstill, hperiodic, Bool.and_self, if_true, hnext]
        rw [Nat.div_eq_sub_div hpositive hbehind]
    · have hahead : 2 ^ 31 < (nowMs - (slot.deadlineMs + slot.periodMs)).toNat := by omega
      have hnot : TimerService.isDue nowMs (slot.deadlineMs + slot.periodMs) = false := by
        rw [Bool.eq_false_iff, Ne, TimerService.isDue_iff]
        omega
      refine ⟨fun _ => ⟨h.event, h.target, h.period, Nat.ne_of_gt hahead⟩, ?_⟩
      simp only [periodsDue, hactive, hnot, Bool.and_false, Bool.false_eq_true, if_false]
      rw [Nat.div_eq_of_lt (Nat.lt_of_not_le hbehind)]
  · have hadvanced : slot.advanced = slot.cancelled := by rw [advanced, if_neg hperiodic]
    rw [hadvanced]
    refine ⟨(fun hstill => by cases hstill), ?_⟩
    unfold periodsDue
    rw [hactive, hdue, Bool.eq_false_iff.mpr hperiodic]
    rfl

theorem periodsDue_eq_zero :
    slot.periodsDue nowMs = 0 ↔
      ¬(slot.active = true ∧ TimerService.isDue nowMs slot.deadlineMs = true) := by
  unfold periodsDue
  rw [← Bool.and_eq_true]
  split
  · rename_i hdue
    split <;> simp [hdue]
  · rename_i hdue
    simp [hdue]

end TimerSlot

namespace TimerService

def periodsDue (nowMs : UInt32) (svc : TimerService) : Nat :=
  ∑ index, (svc.slots index).periodsDue nowMs

/-- Every active timer is in range. -/
def InRange (nowMs : UInt32) (svc : TimerService) : Prop :=
  ∀ index, (svc.slots index).active = true → (svc.slots index).InRange nowMs

def CaughtUp (nowMs : UInt32) (svc : TimerService) : Prop :=
  ∀ index, (svc.slots index).active = true → isDue nowMs (svc.slots index).deadlineMs = false

theorem caughtUp_iff (nowMs : UInt32) (svc : TimerService) :
    svc.CaughtUp nowMs ↔ svc.periodsDue nowMs = 0 := by
  unfold CaughtUp periodsDue
  rw [Finset.sum_eq_zero_iff]
  constructor
  · intro h index _
    rw [TimerSlot.periodsDue_eq_zero]
    rintro ⟨hactive, hdue⟩
    rw [h index hactive] at hdue
    cases hdue
  · intro h index hactive
    rw [Bool.eq_false_iff]
    exact fun hdue => TimerSlot.periodsDue_eq_zero.mp (h index (Finset.mem_univ _)) ⟨hactive, hdue⟩

def Accepts (port : TimerPort P σ) : Prop :=
  ∀ svc context actor msg, (port svc context actor msg).1 = .ok ∧ (port svc context actor msg).2.1 = []

namespace Publishing

variable {port : TimerPort P σ} {nowMs : UInt32}

theorem visit_due (haccepts : Accepts port) {index : TimerIndex} {s : Publishing σ}
    (hmessage : ((s.service.slots index).message (P := P)).1 = .ok)
    (hactive : (s.service.slots index).active = true)
    (hdue : isDue nowMs (s.service.slots index).deadlineMs = true) :
    (s.visit port.callback nowMs index).service.slots =
        Function.update s.service.slots index (s.service.slots index).advanced ∧
      (s.visit port.callback nowMs index).service.published = s.service.published + 1 ∧
      (s.visit port.callback nowMs index).published = s.published ++ [index] := by
  have hport := haccepts s.service s.context (s.service.slots index).targetActor
    ((s.service.slots index).message (P := P)).2
  unfold visit
  rw [hactive, hdue, deliver_callback]
  simp only [Bool.and_self, if_true]
  rw [if_pos hmessage, if_pos hport.1, hport.2]
  exact ⟨rfl, rfl, rfl⟩

theorem visit_idle {index : TimerIndex} {s : Publishing σ}
    (hidle : ¬((s.service.slots index).active = true ∧
      isDue nowMs (s.service.slots index).deadlineMs = true)) : s.visit port.callback nowMs index = s := by
  unfold visit
  rw [if_neg]
  rwa [Bool.and_eq_true]

/-- What a part of a pass publishes is what it takes away from the periods that are due. -/
structure Catches (nowMs : UInt32) (s t : Publishing σ) : Prop where
  inRange : t.service.InRange nowMs
  periods : t.service.periodsDue nowMs + t.published.length =
    s.service.periodsDue nowMs + s.published.length
  count : t.service.published + UInt32.ofNat s.published.length =
    s.service.published + UInt32.ofNat t.published.length

theorem Catches.trans {s t u : Publishing σ} (h : Catches nowMs s t) (h' : Catches nowMs t u) :
    Catches nowMs s u := by
  refine ⟨h'.inRange, h'.periods.trans h.periods, ?_⟩
  have hfirst := h.count
  have hsecond := h'.count
  grind

theorem visit_catches (haccepts : Accepts port) (index : TimerIndex) {s : Publishing σ}
    (hrange : s.service.InRange nowMs) : Catches nowMs s (s.visit port.callback nowMs index) := by
  by_cases hdue : (s.service.slots index).active = true ∧
      isDue nowMs (s.service.slots index).deadlineMs = true
  · have hslot := hrange index hdue.1
    obtain ⟨hslots, hcount, hpublished⟩ := visit_due haccepts hslot.message hdue.1 hdue.2
    obtain ⟨hnext, hperiods⟩ := TimerSlot.advanced_periods hslot hdue.1 hdue.2
    have hsum := sum_update_add (Finset.mem_univ index) (TimerSlot.periodsDue nowMs) s.service.slots
      (s.service.slots index).advanced
    refine ⟨fun other => ?_, ?_, ?_⟩
    · rw [hslots]
      by_cases he : other = index
      · rw [he, Function.update_self]
        exact hnext
      · rw [Function.update_of_ne he]
        exact hrange other
    · rw [hpublished, List.length_append, List.length_singleton]
      unfold periodsDue
      rw [hslots]
      omega
    · rw [hcount, hpublished, List.length_append, List.length_singleton, UInt32.ofNat_add]
      grind
  · rw [visit_idle hdue]
    exact ⟨hrange, rfl, rfl⟩

theorem visitAll_catches (haccepts : Accepts port) (maxPublish : Nat) (indices : List TimerIndex) :
    ∀ {s : Publishing σ}, s.service.InRange nowMs →
      Catches nowMs s (visitAll port.callback nowMs maxPublish indices s) := by
  induction indices with
  | nil => exact fun hrange => ⟨hrange, rfl, rfl⟩
  | cons index indices ih =>
    intro s hrange
    rw [visitAll]
    split
    · have hvisit := visit_catches haccepts index hrange
      exact hvisit.trans (ih hvisit.inRange)
    · exact ⟨hrange, rfl, rfl⟩

end Publishing

variable {port : TimerPort P σ} {nowMs : UInt32}

/-- A pass that publishes nothing has seen every slot, and none was due. -/
theorem publishDue_none (haccepts : Accepts port) {svc : TimerService}
    (hrange : svc.InRange nowMs) (context : σ) {maxPublish : Nat} (hbudget : 0 < maxPublish)
    (hnone : (svc.publishDue nowMs (some port.callback) context maxPublish).published = []) :
    svc.CaughtUp nowMs := by
  have hidle : ∀ (indices : List TimerIndex),
      (Publishing.visitAll port.callback nowMs maxPublish indices
        { service := svc, context := context }).published = [] →
      ∀ index ∈ indices, ¬((svc.slots index).active = true ∧
        isDue nowMs (svc.slots index).deadlineMs = true) := by
    intro indices
    induction indices with
    | nil => exact fun _ index hmem => absurd hmem (List.not_mem_nil)
    | cons index indices ih =>
      intro hempty
      rw [Publishing.visitAll, if_pos (show ([] : List TimerIndex).length < maxPublish from hbudget)]
        at hempty
      have hfirst : ¬((svc.slots index).active = true ∧
          isDue nowMs (svc.slots index).deadlineMs = true) := by
        intro hdue
        have hpublished := (Publishing.visit_due (s := ⟨svc, context, []⟩) haccepts
          (hrange index hdue.1).message hdue.1 hdue.2).2.2
        have hkept := Publishing.visitAll_published port.callback nowMs maxPublish indices
          (Publishing.visit port.callback nowMs index ⟨svc, context, []⟩)
        rw [hpublished, hempty] at hkept
        exact absurd (hkept List.mem_cons_self) List.not_mem_nil
      rw [Publishing.visit_idle hfirst] at hempty
      intro other hmem
      rcases List.mem_cons.mp hmem with rfl | hrest
      · exact hfirst
      · exact ih hempty other hrest
  intro index hactive
  rw [Bool.eq_false_iff]
  exact fun hdue => hidle _ hnone index (List.mem_finRange index) ⟨hactive, hdue⟩

/-- A pass takes what it publishes from the periods that are due, and counts it. -/
theorem publishDue_catches (haccepts : Accepts port) {svc : TimerService} (hrange : svc.InRange nowMs)
    (context : σ) (maxPublish : Nat) :
    (svc.publishDue nowMs (some port.callback) context maxPublish).service.InRange nowMs ∧
      (svc.publishDue nowMs (some port.callback) context maxPublish).service.periodsDue nowMs +
          (svc.publishDue nowMs (some port.callback) context maxPublish).published.length =
        svc.periodsDue nowMs ∧
      (svc.publishDue nowMs (some port.callback) context maxPublish).service.published =
        svc.published +
          UInt32.ofNat (svc.publishDue nowMs (some port.callback) context maxPublish).published.length := by
  have hcatches := Publishing.visitAll_catches haccepts maxPublish
    (List.finRange timerServiceCapacity) (s := ⟨svc, context, []⟩) hrange
  obtain ⟨hnext, hperiods, hcount⟩ := hcatches
  rw [List.length_nil] at hperiods hcount
  rw [Nat.add_zero] at hperiods
  have hzero : UInt32.ofNat 0 = 0 := rfl
  rw [hzero, UInt32.add_zero] at hcount
  rw [publishDue]
  exact ⟨hnext, hperiods, hcount⟩

theorem publishDue_length (port : TimerPort P σ) (nowMs : UInt32) (svc : TimerService) (context : σ)
    (maxPublish : Nat) :
    (svc.publishDue nowMs (some port.callback) context maxPublish).published.length ≤ timerServiceCapacity := by
  have hall : ∀ (indices : List TimerIndex) (s : Publishing σ),
      (Publishing.visitAll port.callback nowMs maxPublish indices s).published.length ≤
        s.published.length + indices.length := by
    intro indices
    induction indices with
    | nil => exact fun s => Nat.le_refl _
    | cons index indices ih =>
      intro s
      rw [Publishing.visitAll, List.length_cons]
      split
      · have hrest := ih (s.visit port.callback nowMs index)
        rcases Publishing.visit_published port.callback nowMs index s with hnone | hone
        · rw [hnone] at hrest
          omega
        · rw [hone, List.length_append, List.length_singleton] at hrest
          omega
      · omega
  have hlength := hall (List.finRange timerServiceCapacity) { service := svc, context := context }
  rwa [List.length_finRange, List.length_nil, Nat.zero_add] at hlength

end TimerService

theorem RuntimeGraph.pollSchedulerOnce_timers {prog : Program P (TimerService × ν)}
    (hprog : prog.Keeps Prod.fst) (graph : RuntimeGraph P ν) (turnBudget : Nat) :
    (graph.pollSchedulerOnce prog turnBudget).2.2.timers = graph.timers :=
  graph.pollSchedulerOnce_keeps hprog turnBudget

/-- The ingress leaves the timers alone, and `timer_delivery` takes every message. -/
structure RuntimeLoopPorts.ServeTimers (ports : RuntimeLoopPorts P ν) : Prop where
  collect : ∀ port, ports.collectIngress = some port → ∀ policy report graph,
    (port policy report graph).2.2.2.timers = graph.timers
  delivery : ∃ port, ports.timerDelivery = some port ∧ TimerService.Accepts port

namespace RuntimeLoop

variable {prog : Program P (TimerService × ν)} {policy : RuntimeLoopPolicy}
  {ports : RuntimeLoopPorts P ν} {fuel : Nat} {s : LoopState P ν} {out : Result × LoopState P ν}
  {nowMs : UInt32}

/-- The timers are those of `s`, and no publication was counted since. -/
structure SameTimers (s t : LoopState P ν) : Prop where
  timers : t.graph.timers = s.graph.timers
  count : t.report.timersPublished = s.report.timersPublished

theorem SameTimers.trans {s t u : LoopState P ν} (h : SameTimers s t) (h' : SameTimers t u) :
    SameTimers s u :=
  ⟨h'.timers.trans h.timers, h'.count.trans h.count⟩

theorem drainScheduler_timers (hprog : prog.Keeps Prod.fst)
    (h : drainScheduler prog policy fuel s = some out) : SameTimers s out.2 :=
  drainScheduler_keeps (SameTimers s) (fun _ _ ht => ⟨ht.timers, ht.count⟩)
    (fun t _ _ ht => ⟨(t.graph.pollSchedulerOnce_timers hprog _).trans ht.timers, ht.count⟩)
    ⟨rfl, rfl⟩ h

theorem collect_timers (hports : ports.ServeTimers) (policy : RuntimeLoopPolicy)
    (s : LoopState P ν) : SameTimers s (collect policy ports s).2 := by
  unfold collect
  cases hport : ports.collectIngress with
  | none => exact ⟨rfl, rfl⟩
  | some port => exact ⟨hports.collect port hport policy s.report s.graph, rfl⟩

theorem ingress_timers (hprog : prog.Keeps Prod.fst) (hports : ports.ServeTimers)
    (h : ingress prog policy ports fuel s = some out) : SameTimers s out.2 := by
  refine (ingressLoop_keeps (SameTimers s) (fun _ => True) ?_ ?_ ⟨rfl, rfl⟩ h).1
  · exact fun t ht => ⟨ht.trans (collect_timers hports policy t), trivial⟩
  · intro t rc u ht hdrained
    have hspent : SameTimers (collect policy ports t).2
        (recordExhausted policy (collect policy ports t).2) := ⟨rfl, rfl⟩
    exact ⟨ht.trans (hspent.trans (drainScheduler_timers hprog hdrained)), trivial⟩

/-- The publications counted and the periods left to publish make up `total`. -/
structure Tally (nowMs : UInt32) (total : Nat) (s : LoopState P ν) : Prop where
  inRange : s.graph.timers.InRange nowMs
  count : s.report.timersPublished + UInt32.ofNat (s.graph.timers.periodsDue nowMs) =
    UInt32.ofNat total

theorem Tally.same {total : Nat} {s t : LoopState P ν} (h : Tally nowMs total s)
    (hsame : SameTimers s t) : Tally nowMs total t := by
  refine ⟨?_, ?_⟩
  · rw [hsame.timers]
    exact h.inRange
  · rw [hsame.timers, hsame.count]
    exact h.count

/-- A policy whose timer loop publishes in every iteration. -/
structure PublishesTimers (policy : RuntimeLoopPolicy) : Prop where
  timers : policy.skipTimers = false
  whenPending : policy.skipTimersWhenSchedulerPending = false
  budget : policy.timerPublishBudget ≠ 0

theorem publishTimers_tally (hpolicy : PublishesTimers policy) (hports : ports.ServeTimers)
    {total : Nat} (h : Tally nowMs total s) :
    Tally nowMs total (publishTimers policy ports nowMs s).2 ∧
      (publishTimers policy ports nowMs s).2.graph.timerPublishedCount =
        s.graph.timerPublishedCount + UInt32.ofNat (publishTimers policy ports nowMs s).1 ∧
      (publishTimers policy ports nowMs s).1 ≤ timerServiceCapacity ∧
      ((publishTimers policy ports nowMs s).1 = 0 →
        (publishTimers policy ports nowMs s).2.graph.timers.CaughtUp nowMs) := by
  obtain ⟨port, hport, haccepts⟩ := hports.delivery
  obtain ⟨hnext, hperiods, hcount⟩ := TimerService.publishDue_catches haccepts h.inRange s.graph.rest
    policy.timerPublishBudget.toNat
  have hlength := TimerService.publishDue_length port nowMs s.graph.timers s.graph.rest
    policy.timerPublishBudget.toNat
  have hbudget : 0 < policy.timerPublishBudget.toNat :=
    Nat.pos_of_ne_zero fun hzero => hpolicy.budget (UInt32.toNat_inj.mp hzero)
  have hnone := TimerService.publishDue_none haccepts h.inRange s.graph.rest hbudget
  have hbefore := h.count
  unfold publishTimers RuntimeGraph.publishDueTimers
  rw [if_pos ⟨hpolicy.timers, Or.inl hpolicy.whenPending⟩, hport, Option.map_some]
  generalize s.graph.timers.publishDue nowMs (some port.callback) s.graph.rest
    policy.timerPublishBudget.toNat = done at *
  have hafter : s.report.timersPublished + UInt32.ofNat done.published.length +
      UInt32.ofNat (done.service.periodsDue nowMs) = UInt32.ofNat total := by
    rw [← hbefore, ← hperiods, UInt32.ofNat_add, UInt32.add_assoc,
      UInt32.add_comm (UInt32.ofNat done.published.length)]
  refine ⟨⟨hnext, hafter⟩, hcount, hlength, fun hzero => ?_⟩
  have hidle := (TimerService.caughtUp_iff ..).mp (hnone (List.length_eq_zero_iff.mp hzero))
  have hdone : done.service.periodsDue nowMs = 0 := by omega
  exact (TimerService.caughtUp_iff ..).mpr hdone

/-- The timer loop leaves with budget left only when nothing is due. -/
theorem publishLoop_catchesUp (hprog : prog.Keeps Prod.fst) (hpolicy : PublishesTimers policy)
    (hports : ports.ServeTimers) {total : Nat} (hs : Tally nowMs total s)
    (h : publishLoop prog policy ports nowMs fuel s = some out) (hok : out.1 = .ok)
    (hopen : out.2.report.exhausted = false) :
    out.2.graph.timers.CaughtUp nowMs ∧ out.2.report.timersPublished = UInt32.ofNat total := by
  have hdrained {t u : LoopState P ν} {rc : Result}
      (hdrain : drainAfterTimers prog policy fuel (recordExhausted policy t) = some (rc, u)) :
      SameTimers t u := by
    have hspent : SameTimers t (recordExhausted policy t) := ⟨rfl, rfl⟩
    unfold drainAfterTimers at hdrain
    split at hdrain
    · exact hspent.trans (drainScheduler_timers hprog hdrain)
    · obtain ⟨rfl, rfl⟩ := Prod.mk.inj (Option.some.inj hdrain)
      exact hspent
  have hends := loop_ends (Tally nowMs total)
    (fun r : Result × LoopState P ν => r.1 = .ok → r.2.report.exhausted = false →
      r.2.graph.timers.CaughtUp nowMs ∧ r.2.report.timersPublished = UInt32.ofNat total)
    ?_ ?_ hs h
  · exact hends hok hopen
  · intro t u ht hstep
    obtain ⟨rc, v, hdrain, ⟨_, hdone⟩ | ⟨_, hdone, _⟩ | ⟨_, hagain⟩⟩ := timerBody_cases hstep
    · cases hdone
    · cases hdone
    · obtain rfl := Step.again.inj hagain
      exact (publishTimers_tally hpolicy hports ht).1.same (hdrained hdrain)
  · intro t r ht hstep hok hopen
    obtain ⟨rc, v, hdrain, ⟨hfailed, hdone⟩ | ⟨_, hdone, hstop⟩ | ⟨_, hagain⟩⟩ :=
      timerBody_cases hstep
    · obtain rfl := Step.done.inj hdone
      exact absurd hok hfailed
    · obtain rfl := Step.done.inj hdone
      obtain ⟨htally, hcount, hfew, hnone⟩ := publishTimers_tally hpolicy hports ht
      have hsame := hdrained hdrain
      have hzero : (publishTimers policy ports nowMs t).1 = 0 := by
        rcases hstop with hspent | hzero | hstuck
        · exact absurd (hspent.symm.trans hopen) (by decide)
        · exact hzero
        · have hpublished : v.graph.timerPublishedCount =
              (publishTimers policy ports nowMs t).2.graph.timerPublishedCount :=
            congrArg TimerService.published hsame.timers
          rw [hpublished, hcount] at hstuck
          have hnat := congrArg UInt32.toNat hstuck
          have hlimit : timerServiceCapacity = 16 := rfl
          have := t.graph.timerPublishedCount.toNat_lt
          rw [UInt32.toNat_add, UInt32.toNat_ofNat'] at hnat
          omega
      have hcaught : v.graph.timers.CaughtUp nowMs := by
        rw [hsame.timers]
        exact hnone hzero
      refine ⟨hcaught, ?_⟩
      have hall := (htally.same hsame).count
      rw [(TimerService.caughtUp_iff ..).mp hcaught] at hall
      have hnothing : UInt32.ofNat 0 = 0 := rfl
      rwa [hnothing, UInt32.add_zero] at hall
    · cases hagain

theorem phases_catchesUp (hprog : prog.Keeps Prod.fst) (hpolicy : PublishesTimers policy)
    (hports : ports.ServeTimers) {graph : RuntimeGraph P ν}
    (h : phases prog policy ports fuel (start ports graph).2.2 = some out) (hok : out.1 = .ok)
    (hopen : out.2.report.exhausted = false) :
    ∃ w : ν, .clockRead .ok (ports.nowMs w).2.1 ∈ out.2.history ∧
      (graph.timers.InRange (ports.nowMs w).2.1 →
        out.2.graph.timers.CaughtUp (ports.nowMs w).2.1 ∧ out.2.report.timersPublished =
          UInt32.ofNat (graph.timers.periodsDue (ports.nowMs w).2.1)) := by
  obtain ⟨first, hfirst, ⟨hstop, rfl⟩ | ⟨_, htimers⟩⟩ := phases_cases h
  · rcases hstop with hfailed | hspent
    · exact absurd hok hfailed
    · exact absurd (hspent.symm.trans hopen) (by decide)
  · have hsame : SameTimers (start ports graph).2.2 first.2 := ingress_timers hprog hports hfirst
    rcases timerPhase_cases htimers with ⟨hfailed, rfl⟩ | ⟨hclock, hloop⟩
    · exact absurd hok hfailed
    · have hread : LoopEvent.clockRead .ok (readClock ports first.2).2.1 ∈
          (readClock ports first.2).2.2.history := by
        rw [← hclock]
        exact List.mem_append_right _ (List.mem_singleton.mpr rfl)
      refine ⟨first.2.graph.world.outside.2, (publishLoop_grows hloop).subset hread, fun hrange => ?_⟩
      have hsaved : (readClock ports first.2).2.2.graph.timers = graph.timers := hsame.timers
      have hnothing : (readClock ports first.2).2.2.report.timersPublished = 0 := hsame.count
      refine publishLoop_catchesUp hprog hpolicy hports ⟨?_, ?_⟩ hloop hok hopen
      · rw [hsaved]
        exact hrange
      · rw [hsaved, hnothing, UInt32.zero_add]

/-- A poll that ends without an error and with budget left is what its phases left. -/
theorem finalize_open (ports : RuntimeLoopPorts P ν) (haveTiming : Bool) (startMs : UInt32)
    (rc : Result) (s : LoopState P ν) (hok : (finalize ports haveTiming startMs rc s).1 = .ok)
    (hopen : (finalize ports haveTiming startMs rc s).2.report.exhausted = false) :
    rc = .ok ∧ s.report.exhausted = false ∧
      SameTimers s (finalize ports haveTiming startMs rc s).2 := by
  have hended : SameTimers s (readEnd ports haveTiming startMs (recordPending s)).2 := by
    unfold readEnd
    split
    · refine ⟨rfl, ?_⟩
      dsimp only
      split <;> rfl
    · exact ⟨rfl, rfl⟩
  have hflag : (readEnd ports haveTiming startMs (recordPending s)).2.report.exhausted =
      s.report.exhausted := (readEnd_keeps ports haveTiming startMs .default (recordPending s)).2.1
  unfold finalize at hok hopen ⊢
  simp only at hok hopen ⊢
  generalize readEnd ports haveTiming startMs (recordPending s) = ended at *
  by_cases hspent : rc = .ok ∧ ended.2.report.exhausted = true
  · rw [if_pos hspent] at hopen
    have hasked : (askWork ports ended.1 ended.2).report.exhausted = true := by
      rw [(askWork_keeps ports ended.1 ended.2).2]
      exact hspent.2
    split at hopen
    · exact absurd (hasked.symm.trans hopen) (by decide)
    · exact absurd (hasked.symm.trans hopen) (by decide)
  · rw [if_neg hspent] at hok ⊢
    have hrc : rc = .ok := hok
    refine ⟨hrc, ?_, hended.timers, hended.count⟩
    rw [← hflag]
    exact Bool.eq_false_iff.mpr fun hup => hspent ⟨hrc, hup⟩

/-- What a poll without an error and with budget left leaves. -/
theorem pollOnce_catchesUp (hprog : prog.Keeps Prod.fst) (hskip : policy.skipTimers = false)
    (hpending : policy.skipTimersWhenSchedulerPending = false) (hports : ports.ServeTimers)
    {graph : RuntimeGraph P ν}
    (h : pollOnce prog (some policy) ports fuel graph = some out) (hok : out.1 = .ok)
    (hopen : out.2.report.exhausted = false) :
    ∃ w : ν, .clockRead .ok (ports.nowMs w).2.1 ∈ out.2.history ∧
      (graph.timers.InRange (ports.nowMs w).2.1 →
        out.2.graph.timers.CaughtUp (ports.nowMs w).2.1 ∧ out.2.report.timersPublished =
          UInt32.ofNat (graph.timers.periodsDue (ports.nowMs w).2.1)) := by
  unfold pollOnce at h
  simp only [Option.getD_some] at h
  by_cases hbudget : policy.schedulerTurnBudget = 0 ∨ policy.timerPublishBudget = 0
  · rw [if_pos hbudget] at h
    obtain rfl := Option.some.inj h
    cases hok
  · rw [if_neg hbudget] at h
    cases hphases : phases prog policy ports fuel (start ports graph).2.2 with
    | none =>
      rw [hphases] at h
      cases h
    | some ended =>
      rw [hphases] at h
      obtain ⟨rc, s⟩ := ended
      obtain rfl := Option.some.inj h
      obtain ⟨rfl, hleft, hsame⟩ := finalize_open ports _ _ rc s hok hopen
      obtain ⟨w, hread, hcaught⟩ := phases_catchesUp hprog
        ⟨hskip, hpending, (not_or.mp hbudget).2⟩ hports hphases rfl hleft
      refine ⟨w, ?_, ?_⟩
      · rw [finalize_history]
        exact hread
      · rw [hsame.timers, hsame.count]
        exact hcaught

/-- A poll without an error and with budget left has published every deadline its clock value had
reached; the count is modulo `2 ^ 32`. -/
theorem timers_caught_up (prog : Program P (TimerService × ν)) (policy : RuntimeLoopPolicy)
    (ports : RuntimeLoopPorts P ν) (graph : RuntimeGraph P ν) (hskip : policy.skipTimers = false)
    (hpending : policy.skipTimersWhenSchedulerPending = false) (hprog : prog.Keeps Prod.fst)
    (hports : ports.ServeTimers) :
    ∃ bound rc s,
      (∀ fuel, bound ≤ fuel → pollOnce prog (some policy) ports fuel graph = some (rc, s)) ∧
      (rc = .ok → s.report.exhausted = false →
        ∃ nowMs, .clockRead .ok nowMs ∈ s.history ∧ (graph.timers.InRange nowMs →
          s.graph.timers.CaughtUp nowMs ∧
            s.report.timersPublished.toNat = graph.timers.periodsDue nowMs % 2 ^ 32)) := by
  obtain ⟨bound, ⟨rc, s⟩, hrun⟩ := pollOnce_total prog (some policy) ports graph
  refine ⟨bound, rc, s, hrun, fun hok hopen => ?_⟩
  obtain ⟨w, hread, hcaught⟩ :=
    pollOnce_catchesUp hprog hskip hpending hports (hrun bound (Nat.le_refl _)) hok hopen
  refine ⟨_, hread, fun hrange => ?_⟩
  obtain ⟨hdone, hcount⟩ := hcaught hrange
  refine ⟨hdone, ?_⟩
  have hcount : s.report.timersPublished = _ := hcount
  rw [hcount, UInt32.toNat_ofNat']

section Wrap

/-- No work, and no budget spent. -/
structure Quiet (policy : RuntimeLoopPolicy) (s : LoopState P ν) : Prop where
  idle : s.graph.schedulerPending = 0
  flag : s.report.exhausted = false
  left : exhausted policy s.report = false

theorem Quiet.drain (h : Quiet policy s) (hdrain : drainScheduler prog policy fuel s = some out) :
    out = (.ok, s) := by
  refine drainScheduler_idle (fun hwork => ?_) hdrain
  rw [h.idle] at hwork
  exact Nat.lt_irrefl 0 hwork.1

theorem publishDue_acceptAll_context (svc : TimerService) (context : σ) (maxPublish : Nat) :
    (svc.publishDue nowMs (some (TimerRun.acceptAll (P := P)).callback) context maxPublish).context =
      context := by
  have hvisit (index : TimerIndex) (t : TimerService.Publishing σ) :
      (t.visit (TimerRun.acceptAll (P := P)).callback nowMs index).context = t.context := by
    unfold TimerService.Publishing.visit TimerService.Publishing.deliver
    split
    · dsimp only
      split
      · rfl
      · rfl
    · rfl
  have hall : ∀ (indices : List TimerIndex) (t : TimerService.Publishing σ),
      (TimerService.Publishing.visitAll (TimerRun.acceptAll (P := P)).callback nowMs maxPublish indices
        t).context = t.context := by
    intro indices
    induction indices with
    | nil => exact fun t => rfl
    | cons index indices ih =>
      intro t
      rw [TimerService.Publishing.visitAll]
      split
      · exact (ih _).trans (hvisit index t)
      · rfl
  exact hall _ _

theorem publishTimers_quiet (hdelivery : ports.timerDelivery = some TimerRun.acceptAll)
    (h : Quiet policy s) :
    Quiet policy (recordExhausted policy (publishTimers policy ports nowMs s).2) := by
  unfold publishTimers RuntimeGraph.publishDueTimers
  split
  · have hcontext : (s.graph.timers.publishDue nowMs (some (TimerRun.acceptAll (P := P)).callback)
        s.graph.rest policy.timerPublishBudget.toNat).context = s.graph.rest :=
      publishDue_acceptAll_context s.graph.timers s.graph.rest policy.timerPublishBudget.toNat
    rw [hdelivery, Option.map_some]
    generalize s.graph.timers.publishDue nowMs (some TimerRun.acceptAll.callback) s.graph.rest
      policy.timerPublishBudget.toNat = done at *
    refine ⟨?_, h.left, h.left⟩
    change (RuntimeGraph.ofParts done.service done.context).schedulerPending = 0
    rw [hcontext]
    exact h.idle
  · exact ⟨h.idle, h.left, h.left⟩

theorem finalize_unspent (ports : RuntimeLoopPorts P ν) (haveTiming : Bool) (startMs : UInt32)
    (rc : Result) (hopen : s.report.exhausted = false) :
    (finalize ports haveTiming startMs rc s).1 = rc ∧
      (finalize ports haveTiming startMs rc s).2.report.exhausted = false := by
  have hflag := (readEnd_keeps ports haveTiming startMs .default (recordPending s)).2.1
  unfold finalize
  simp only
  generalize readEnd ports haveTiming startMs (recordPending s) = ended at *
  have hended : ended.2.report.exhausted = false := hflag.trans hopen
  rw [if_neg fun hspent => Bool.false_ne_true (hended.symm.trans hspent.2)]
  exact ⟨rfl, hended⟩

theorem loop_quiet {body : LoopState P ν → Option (Step (LoopState P ν) (Result × LoopState P ν))}
    (hround : ∀ t step, Quiet policy t → body t = some step →
      ∃ u, Quiet policy u ∧ (step = .done (.ok, u) ∨ step = .again u))
    (hs : Quiet policy s) (h : loop body fuel s = some out) : out.1 = .ok ∧ Quiet policy out.2 := by
  refine loop_ends (Quiet policy) (fun r : Result × LoopState P ν => r.1 = .ok ∧ Quiet policy r.2)
    ?_ ?_ hs h
  · intro t u ht hstep
    obtain ⟨v, hv, hdone | hagain⟩ := hround t _ ht hstep
    · cases hdone
    · obtain rfl := Step.again.inj hagain
      exact hv
  · intro t r ht hstep
    obtain ⟨v, hv, hdone | hagain⟩ := hround t _ ht hstep
    · obtain rfl := Step.done.inj hdone
      exact ⟨rfl, hv⟩
    · cases hagain

theorem ingressBody_quiet (hcollect : ports.collectIngress = none) {t : LoopState P ν}
    {step : Step (LoopState P ν) (Result × LoopState P ν)} (ht : Quiet policy t)
    (hstep : ingressBody prog policy ports fuel t = some step) :
    ∃ u, Quiet policy u ∧ (step = .done (.ok, u) ∨ step = .again u) := by
  have hcollected : collect policy ports t = (.ok, t) := by
    unfold collect
    rw [hcollect]
  have hnext : Quiet policy (recordExhausted policy t) := ⟨ht.idle, ht.left, ht.left⟩
  rcases ingressBody_cases hstep with ⟨hfailed, _⟩ | ⟨_, rc, u, hdrain, hrest⟩
  · exact absurd (congrArg Prod.fst hcollected) hfailed
  · rw [hcollected] at hdrain
    obtain ⟨rfl, rfl⟩ := Prod.mk.inj (hnext.drain hdrain)
    exact ⟨_, hnext, hrest.imp id fun hagain => hagain.2.2⟩

theorem timerBody_quiet (hdelivery : ports.timerDelivery = some TimerRun.acceptAll)
    {t : LoopState P ν} {step : Step (LoopState P ν) (Result × LoopState P ν)}
    (ht : Quiet policy t) (hstep : timerBody prog policy ports nowMs fuel t = some step) :
    ∃ u, Quiet policy u ∧ (step = .done (.ok, u) ∨ step = .again u) := by
  have hnext : Quiet policy (recordExhausted policy (publishTimers policy ports nowMs t).2) :=
    publishTimers_quiet hdelivery ht
  obtain ⟨rc, u, hdrain, hrest⟩ := timerBody_cases hstep
  have hsame : (rc, u) = (.ok, recordExhausted policy (publishTimers policy ports nowMs t).2) := by
    unfold drainAfterTimers at hdrain
    split at hdrain
    · exact hnext.drain hdrain
    · exact (Option.some.inj hdrain).symm
  obtain ⟨rfl, rfl⟩ := Prod.mk.inj hsame
  refine ⟨_, hnext, ?_⟩
  rcases hrest with ⟨hfailed, _⟩ | ⟨_, hdone, _⟩ | ⟨_, hagain⟩
  · exact absurd rfl hfailed
  · exact Or.inl hdone
  · exact Or.inr hagain

/-- Without ingress, and with a delivery that queues nothing, a poll ends with budget left. -/
theorem pollOnce_quiet (hcollect : ports.collectIngress = none)
    (hdelivery : ports.timerDelivery = some TimerRun.acceptAll)
    (hclock : ∀ w, (ports.nowMs w).1 = .ok) {graph : RuntimeGraph P ν}
    (hturn : policy.schedulerTurnBudget ≠ 0) (hpublish : policy.timerPublishBudget ≠ 0)
    (hs : Quiet policy (start ports graph).2.2)
    (h : pollOnce prog (some policy) ports fuel graph = some out) :
    out.1 = .ok ∧ out.2.report.exhausted = false := by
  unfold pollOnce at h
  simp only [Option.getD_some] at h
  rw [if_neg (not_or.mpr ⟨hturn, hpublish⟩)] at h
  cases hphases : phases prog policy ports fuel (start ports graph).2.2 with
  | none =>
    rw [hphases] at h
    cases h
  | some ended =>
    rw [hphases] at h
    have hquiet : ended.1 = .ok ∧ Quiet policy ended.2 := by
      obtain ⟨first, hfirst, hend⟩ := phases_cases hphases
      obtain ⟨hok, hnext⟩ := loop_quiet (fun t step => ingressBody_quiet hcollect) hs hfirst
      rcases hend with ⟨hfailed | hspent, rfl⟩ | ⟨_, htimers⟩
      · exact absurd hok hfailed
      · exact absurd (hnext.flag.symm.trans hspent) (by decide)
      · rcases timerPhase_cases htimers with ⟨hfailed, _⟩ | ⟨_, hloop⟩
        · exact absurd (hclock _) hfailed
        · have hclocked : Quiet policy (readClock ports first.2).2.2 :=
            ⟨hnext.idle, hnext.flag, hnext.left⟩
          exact loop_quiet (fun t step => timerBody_quiet hdelivery) hclocked hloop
    obtain ⟨rc, t⟩ := ended
    obtain ⟨rfl, hquiet⟩ := hquiet
    obtain rfl := Option.some.inj h
    exact finalize_unspent ports _ _ .ok hquiet.flag

/-- A timer of one millisecond that the clock left behind by `2 ^ 31 - 1`. -/
def lateSlot : TimerSlot where
  active := true
  periodic := true
  periodMs := 1
  targetActor := .diag
  eventId := .tick1s

def lateTimers : TimerService :=
  { TimerService.init with slots := fun index => if index.val < 3 then lateSlot else .blank }

def lateGraph : RuntimeGraph Unit Unit where
  scheduler := idleGraph.scheduler
  world := ⟨ActorRegistry.fresh, (lateTimers, ()), []⟩

def latePolicy : RuntimeLoopPolicy :=
  { RuntimeLoopPolicy.default with skipTimersWhenSchedulerPending := false }

def latePorts : RuntimeLoopPorts Unit Unit where
  collectIngress := none
  timerDelivery := some TimerRun.acceptAll
  nowMs := fun w => (.ok, 2147483647, w)
  workPending := none

theorem latePorts_serve : latePorts.ServeTimers where
  collect := fun _ hport => by cases hport
  delivery := ⟨_, rfl, fun _ _ _ _ => ⟨rfl, rfl⟩⟩

theorem idleProgram_keeps {α : Type} (f : TimerService × Unit → α) : idleProgram.Keeps f where
  callbacks := ⟨fun _ _ _ _ _ => rfl, fun _ _ _ _ _ => rfl⟩
  handler := fun _ _ => trivial

theorem lateTimers_inRange : lateTimers.InRange 2147483647 := by
  intro index _
  by_cases hlate : index.val < 3
  · have hslot : lateTimers.slots index = lateSlot := if_pos hlate
    rw [hslot]
    exact ⟨rfl, rfl, by decide, by decide⟩
  · rename_i hactive
    have hslot : lateTimers.slots index = .blank := if_neg hlate
    rw [hslot] at hactive
    cases hactive

theorem lateTimers_periodsDue : lateTimers.periodsDue 2147483647 = 3 * 2 ^ 31 := by
  decide +kernel

theorem timers_caught_up_late :
    ∃ bound rc s,
      (∀ fuel, bound ≤ fuel →
        pollOnce idleProgram (some latePolicy) latePorts fuel lateGraph = some (rc, s)) ∧
      (rc = .ok → s.report.exhausted = false →
        ∃ nowMs, .clockRead .ok nowMs ∈ s.history ∧ (lateTimers.InRange nowMs →
          s.graph.timers.CaughtUp nowMs ∧
            s.report.timersPublished.toNat = lateTimers.periodsDue nowMs % 2 ^ 32)) :=
  timers_caught_up idleProgram latePolicy latePorts lateGraph rfl rfl (idleProgram_keeps _)
    latePorts_serve

/-- The count of the publications wraps. -/
theorem publications_wrap :
    ¬∀ (prog : Program Unit (TimerService × Unit)) (policy : RuntimeLoopPolicy)
      (ports : RuntimeLoopPorts Unit Unit) (graph : RuntimeGraph Unit Unit) (fuel : Nat)
      (rc : Result) (s : LoopState Unit Unit),
      policy.skipTimers = false → policy.skipTimersWhenSchedulerPending = false →
      policy.runSchedulerAfterTimers = true → prog.Keeps Prod.fst → ports.ServeTimers →
      pollOnce prog (some policy) ports fuel graph = some (rc, s) → rc = .ok →
      s.report.exhausted = false →
      ∀ w, .clockRead .ok (ports.nowMs w).2.1 ∈ s.history →
        graph.timers.InRange (ports.nowMs w).2.1 →
          s.report.timersPublished.toNat = graph.timers.periodsDue (ports.nowMs w).2.1 := by
  intro h
  obtain ⟨bound, ⟨rc, s⟩, hrun⟩ := pollOnce_total idleProgram (some latePolicy) latePorts lateGraph
  have hpoll := hrun bound (Nat.le_refl _)
  have hstart : Quiet latePolicy (start latePorts lateGraph).2.2 :=
    ⟨by decide +kernel, rfl, by decide⟩
  obtain ⟨hok, hopen⟩ := pollOnce_quiet rfl rfl (fun _ => rfl) (by decide) (by decide) hstart hpoll
  obtain ⟨w, hread, hcaught⟩ := pollOnce_catchesUp (idleProgram_keeps _) rfl rfl latePorts_serve
    hpoll hok hopen
  have hcount : s.report.timersPublished = UInt32.ofNat (lateTimers.periodsDue 2147483647) :=
    (hcaught lateTimers_inRange).2
  have hclaimed : s.report.timersPublished.toNat = lateTimers.periodsDue 2147483647 :=
    h idleProgram latePolicy latePorts lateGraph bound rc s rfl rfl rfl (idleProgram_keeps _)
      latePorts_serve hpoll hok hopen w hread lateTimers_inRange
  rw [hcount, lateTimers_periodsDue] at hclaimed
  exact absurd hclaimed (by decide)

end Wrap

end RuntimeLoop

end EventFramework
