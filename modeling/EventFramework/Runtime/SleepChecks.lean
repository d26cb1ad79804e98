import EventFramework.Library.Machine
import EventFramework.Runtime.NextDeadline
import EventFramework.Runtime.Quiescence

/-!
# What the sleep checks promise

The sleep window of a policy, the checks that take no clock value, and critical faults that
are stored while a sleep is asked for.
-/

namespace EventFramework
set_option autoImplicit false

variable {P : Type}

namespace QuiescencePolicy

/-- The deadline lies in `[now_ms, now_ms + min_sleep_window_ms)`. -/
def InWindow (policy : QuiescencePolicy) (nowMs deadlineMs : UInt32) : Prop :=
  policy.minSleepWindowMs ≠ 0 ∧ (deadlineMs - nowMs).toNat < policy.minSleepWindowMs.toNat

/-- The deadline lies in `[now_ms, now_ms + near_deadline_guard_ms]`. -/
def InGuard (policy : QuiescencePolicy) (nowMs deadlineMs : UInt32) : Prop :=
  policy.nearDeadlineGuardMs ≠ 0 ∧ (deadlineMs - nowMs).toNat ≤ policy.nearDeadlineGuardMs.toNat

theorem nearDeadline_iff (policy : QuiescencePolicy) (nowMs deadlineMs : UInt32) :
    policy.nearDeadline nowMs deadlineMs = true ↔
      policy.InGuard nowMs deadlineMs ∨ policy.InWindow nowMs deadlineMs := by
  have hpos : ∀ ms : UInt32, ms > 0 ↔ ms ≠ 0 := by
    intro ms
    rw [gt_iff_lt, UInt32.lt_iff_toNat_lt, UInt32.toNat_zero, Nat.pos_iff_ne_zero, Ne, Ne,
      ← UInt32.toNat_inj, UInt32.toNat_zero]
  simp only [nearDeadline, InGuard, InWindow, Bool.or_eq_true, Bool.and_eq_true, decide_eq_true_eq,
    hpos, UInt32.le_iff_toNat_le, UInt32.lt_iff_toNat_lt]

theorem nearDeadline_of_le {policy : QuiescencePolicy} {nowMs next deadlineMs : UInt32}
    (hle : (next - nowMs).toNat ≤ (deadlineMs - nowMs).toNat)
    (h : policy.nearDeadline nowMs deadlineMs = true) : policy.nearDeadline nowMs next = true := by
  rw [nearDeadline_iff] at h ⊢
  rcases h with ⟨hon, hguard⟩ | ⟨hon, hwindow⟩
  · exact Or.inl ⟨hon, hle.trans hguard⟩
  · exact Or.inr ⟨hon, hle.trans_lt hwindow⟩

end QuiescencePolicy

/-- No active timer has its deadline before `nowMs`. -/
def TimerService.NoneOverdue (svc : TimerService) (nowMs : UInt32) : Prop :=
  ∀ index, (svc.slots index).active = true →
    0 ≤ TimerService.aheadMs nowMs (svc.slots index).deadlineMs

namespace QuiescenceGraph

/-- What a graph admitted to sleep must look like. -/
structure AtRest (graph : QuiescenceGraph P) (nowMs : UInt32) (policy : QuiescencePolicy) : Prop where
  mailboxes : ∀ actor ∈ actorCatalog, graph.actorEnabled actor = true →
    (graph.mailboxes actor).count = 0
  ingress : graph.ingressService.messages = []
  blockers : policy.blockActorSleepBlockers = true → ∀ actor ∈ actorCatalog,
    graph.actorEnabled actor = true → ∀ fn, graph.quiescenceFn actor = some fn → fn.blockers = 0
  due : policy.blockDueTimers = true → graph.timers.NoneDue nowMs
  window : ∀ index, (graph.timers.slots index).active = true →
    ¬policy.InWindow nowMs (graph.timers.slots index).deadlineMs
  guard : ∀ index, (graph.timers.slots index).active = true →
    ¬policy.InGuard nowMs (graph.timers.slots index).deadlineMs

/-- The check overlooks a timer near the clock: due timers do not refuse, nothing else does, and
another timer is overdue. -/
structure Overlooks (graph : QuiescenceGraph P) (nowMs : UInt32) (policy : QuiescencePolicy) :
    Prop where
  quiet : graph.QuietBesidesTimers policy
  unblocked : policy.blockDueTimers = false
  near : ∃ index, (graph.timers.slots index).active = true ∧
    policy.nearDeadline nowMs (graph.timers.slots index).deadlineMs = true
  overdue : ¬graph.timers.NoneOverdue nowMs

variable {graph : QuiescenceGraph P} {nowMs : UInt32} {policy : QuiescencePolicy}

theorem not_near_of_noneDue (hnone : graph.timers.NoneDue nowMs)
    (hnext : ∀ next, graph.timers.nextDeadlineMs = some next →
      policy.nearDeadline nowMs next = false) {index : TimerIndex}
    (hactive : (graph.timers.slots index).active = true) :
    policy.nearDeadline nowMs (graph.timers.slots index).deadlineMs = false := by
  obtain ⟨next, hpicked, _, hle⟩ := TimerService.nextDeadlineMs_le hnone hactive
  by_contra hnear
  have hsame := QuiescencePolicy.nearDeadline_of_le hle (by simpa using hnear)
  rw [hnext next hpicked] at hsame
  cases hsame

theorem not_near_of_noneOverdue (hnone : graph.timers.NoneOverdue nowMs)
    (hnext : ∀ next, graph.timers.nextDeadlineMs = some next →
      policy.nearDeadline nowMs next = false) {index : TimerIndex}
    (hactive : (graph.timers.slots index).active = true) :
    policy.nearDeadline nowMs (graph.timers.slots index).deadlineMs = false := by
  have hclose : graph.timers.Close nowMs := by
    intro a b ha hb
    have hsecond := hnone b hb
    rw [TimerService.aheadMs_eq nowMs (graph.timers.slots a).deadlineMs]
    have hbound := ((graph.timers.slots a).deadlineMs - nowMs).toNat_lt
    split <;> omega
  obtain ⟨first, hon, hpicked, hle⟩ := hclose.nextDeadlineMs_le hactive
  have hahead := hnone first hon
  have hlater := hle index hactive
  rw [TimerService.aheadMs_eq] at hahead hlater
  rw [TimerService.aheadMs_eq] at hlater
  by_contra hnear
  have hsame : policy.nearDeadline nowMs (graph.timers.slots first).deadlineMs = true := by
    refine QuiescencePolicy.nearDeadline_of_le ?_ (by simpa using hnear)
    have hbound := ((graph.timers.slots first).deadlineMs - nowMs).toNat_lt
    split at hlater <;> split at hlater <;> omega
  rw [hnext _ hpicked] at hsame
  cases hsame

theorem not_near_of_overdue {deadlineMs : UInt32} (hwindow : policy.minSleepWindowMs < 2 ^ 31)
    (hguard : policy.nearDeadlineGuardMs < 2 ^ 31)
    (hoverdue : TimerService.aheadMs nowMs deadlineMs < 0) :
    policy.nearDeadline nowMs deadlineMs = false := by
  have hpast : ¬(deadlineMs - nowMs).toNat < 2 ^ 31 := by
    intro hlt
    rw [TimerService.aheadMs_eq, if_pos hlt] at hoverdue
    omega
  rw [UInt32.lt_iff_toNat_lt] at hwindow hguard
  have hhalf : (2 ^ 31 : UInt32).toNat = 2 ^ 31 := rfl
  rw [Bool.eq_false_iff, Ne, QuiescencePolicy.nearDeadline_iff, QuiescencePolicy.InGuard,
    QuiescencePolicy.InWindow]
  omega

theorem next_not_near (hclose : graph.timers.Close nowMs)
    (hwindow : policy.minSleepWindowMs < 2 ^ 31) (hguard : policy.nearDeadlineGuardMs < 2 ^ 31)
    {index : TimerIndex} (hactive : (graph.timers.slots index).active = true)
    (hoverdue : TimerService.aheadMs nowMs (graph.timers.slots index).deadlineMs < 0) {next : UInt32}
    (hnext : graph.timers.nextDeadlineMs = some next) : policy.nearDeadline nowMs next = false := by
  obtain ⟨first, _, hpicked, hle⟩ := hclose.nextDeadlineMs_le hactive
  obtain rfl := Option.some.inj (hpicked.symm.trans hnext)
  exact not_near_of_overdue hwindow hguard (lt_of_le_of_lt (hle index hactive) hoverdue)

/-- An accepted graph has no timer near the clock, unless one is overlooked. -/
theorem not_near_of_accepted (hseen : ¬graph.Overlooks nowMs policy)
    (hquiet : graph.QuietBesidesTimers policy)
    (hdue : policy.blockDueTimers = true → graph.timers.NoneDue nowMs)
    (hnext : ∀ next, graph.timers.nextDeadlineMs = some next →
      policy.nearDeadline nowMs next = false) {index : TimerIndex}
    (hactive : (graph.timers.slots index).active = true) :
    policy.nearDeadline nowMs (graph.timers.slots index).deadlineMs = false := by
  by_cases hblock : policy.blockDueTimers = true
  · exact not_near_of_noneDue (hdue hblock) hnext hactive
  · by_contra hnear
    have hnone : graph.timers.NoneOverdue nowMs := by
      by_contra hlate
      exact hseen ⟨hquiet, by simpa using hblock, ⟨index, hactive, by simpa using hnear⟩, hlate⟩
    exact hnear (not_near_of_noneOverdue hnone hnext hactive)

/-- Where due timers refuse the sleep or none is overdue, an accepted graph is at rest. Otherwise it
is unless a timer near the clock is overlooked, and where any two active deadlines are close, just
then. -/
theorem isQuiescentAt_atRest (graph : QuiescenceGraph P) (hreports : graph.Reporting)
    (nowMs : UInt32) (policy : Option QuiescencePolicy)
    (hwindow : (policy.getD .default).minSleepWindowMs < 2 ^ 31)
    (hguard : (policy.getD .default).nearDeadlineGuardMs < 2 ^ 31) :
    ((policy.getD .default).blockDueTimers = true ∨ graph.timers.NoneOverdue nowMs →
      (graph.isQuiescentAt nowMs policy).1 = .ok → graph.AtRest nowMs (policy.getD .default)) ∧
    (¬graph.Overlooks nowMs (policy.getD .default) →
      (graph.isQuiescentAt nowMs policy).1 = .ok → graph.AtRest nowMs (policy.getD .default)) ∧
    (graph.timers.Close nowMs →
      (((graph.isQuiescentAt nowMs policy).1 = .ok → graph.AtRest nowMs (policy.getD .default)) ↔
        ¬graph.Overlooks nowMs (policy.getD .default))) := by
  rw [isQuiescentAt_ok_iff hreports]
  generalize policy.getD .default = effective at *
  have henough : ¬graph.Overlooks nowMs effective → graph.QuietBesidesTimers effective ∧
      (effective.blockDueTimers = true → graph.timers.NoneDue nowMs) ∧
      (∀ next, graph.timers.nextDeadlineMs = some next →
        effective.nearDeadline nowMs next = false) → graph.AtRest nowMs effective := by
    rintro hseen ⟨hquiet, hdue, hnext⟩
    refine ⟨hquiet.mailboxes, hquiet.ingress, hquiet.blockers, hdue, ?_, ?_⟩
    · intro index hactive hinside
      have hnear := (effective.nearDeadline_iff nowMs _).mpr (Or.inr hinside)
      rw [not_near_of_accepted hseen hquiet hdue hnext hactive] at hnear
      cases hnear
    · intro index hactive hinside
      have hnear := (effective.nearDeadline_iff nowMs _).mpr (Or.inl hinside)
      rw [not_near_of_accepted hseen hquiet hdue hnext hactive] at hnear
      cases hnear
  refine ⟨fun hinputs => henough fun hover => ?_, henough, fun hclose => ⟨?_, henough⟩⟩
  · rcases hinputs with hblock | hnone
    · rw [hover.unblocked] at hblock
      cases hblock
    · exact hover.overdue hnone
  rintro hrest ⟨hquiet, hunblocked, ⟨index, hactive, hnear⟩, hlate⟩
  obtain ⟨other, hother, hoverdue⟩ : ∃ other, (graph.timers.slots other).active = true ∧
      TimerService.aheadMs nowMs (graph.timers.slots other).deadlineMs < 0 := by
    by_contra hnone
    push Not at hnone
    exact hlate hnone
  have hat := hrest ⟨hquiet, (by simp [hunblocked]), fun next hnext =>
    next_not_near hclose hwindow hguard hother hoverdue hnext⟩
  rcases (effective.nearDeadline_iff nowMs _).mp hnear with hinside | hinside
  · exact hat.guard index hactive hinside
  · exact hat.window index hactive hinside

def idle (timers : TimerService) : QuiescenceGraph Unit where
  actorEnabled := fun _ => true
  mailboxes := fun _ => Mailbox.fresh .fifo8
  ingressService := { queue := fun _ => Msg.zeroed }
  timers := timers
  bounded := fun _ => Nat.zero_le _
  trace_bounded := Nat.zero_le _

theorem idle_reporting (timers : TimerService) : (idle timers).Reporting := by
  intro actor fn hfn
  cases hfn

def overdueAndNear : TimerService :=
  [TimerOp.schedule 80 10 .boot .tick1s 0 true, .schedule 95 10 .boot .tick1s 0 true].foldl
    TimerService.apply .init

def measuring (pending : Bool) : QuiescenceFn := fun report =>
  (.ok, if pending then
    { report with sleepBlockerActorMask := report.sleepBlockerActorMask ||| 256 } else report)

theorem measuring_reports (pending : Bool) : (measuring pending).Reports := by
  intro report
  cases pending with
  | false => simp [measuring, QuiescenceFn.busy, QuiescenceFn.blockers]
  | true => simp [measuring, QuiescenceFn.busy, QuiescenceFn.blockers]

def sensing (pending : Bool) (timers : TimerService) : QuiescenceGraph Unit :=
  { idle timers with
    descriptorQuiescence := fun actor => if actor = .bh1750 then some (measuring pending) else none }

theorem sensing_reporting (pending : Bool) (timers : TimerService) :
    (sensing pending timers).Reporting := by
  intro actor fn hfn
  simp only [quiescenceFn, sensing, idle] at hfn
  split at hfn
  · obtain rfl := Option.some.inj hfn
    exact measuring_reports pending
  · cases hfn

def bothAhead : TimerService :=
  [TimerOp.schedule 1000 100 .boot .tick1s 0 true, .schedule 1000 30 .boot .tick1s 0 true].foldl
    TimerService.apply .init

def guarded : QuiescencePolicy where
  minSleepWindowMs := 20
  nearDeadlineGuardMs := 25
  blockActorSleepBlockers := true

theorem isQuiescentAt_atRest_sensing : (sensing false bothAhead).AtRest 1000 guarded := by
  refine (isQuiescentAt_atRest (sensing false bothAhead) (sensing_reporting _ _) 1000 (some guarded)
    (by decide) (by decide)).1 (Or.inr ?_) (by decide +kernel)
  unfold TimerService.NoneOverdue
  decide +kernel

theorem isQuiescentAt_not_atRest : ¬∀ (graph : QuiescenceGraph Unit) (nowMs : UInt32)
    (policy : Option QuiescencePolicy), graph.Reporting →
    (∀ index, (graph.timers.slots index).active = true →
      (graph.timers.slots index).deadlineMs - nowMs ≠ 2 ^ 31) →
    (policy.getD .default).minSleepWindowMs < 2 ^ 31 →
    (policy.getD .default).nearDeadlineGuardMs < 2 ^ 31 →
    (graph.isQuiescentAt nowMs policy).1 = .ok → graph.AtRest nowMs (policy.getD .default) := by
  intro h
  have hat := h (idle overdueAndNear) 100 (some { minSleepWindowMs := 10 }) (idle_reporting _)
    (by decide +kernel) (by decide) (by decide) (by decide +kernel)
  exact hat.window ⟨1, by decide⟩ (by decide +kernel) ⟨by decide, by decide +kernel⟩

/-- What the two checks without a clock value should say at the clock value `nowMs`. -/
structure ChecksSeeDueTimers (graph : QuiescenceGraph P) (manager : PowerManager)
    (requestedSleepMs nowMs : UInt32) : Prop where
  quiescent : graph.isQuiescent.1 = .ok → graph.timers.NoneDue nowMs
  canSleep : (manager.canSleep graph requestedSleepMs).1 = .ok → graph.timers.NoneDue nowMs
  future : graph.QuietBesidesTimers .default → graph.timers.NoneDue nowMs →
    graph.isQuiescent.1 = .ok ∧
      (manager.policy.refuses requestedSleepMs = false →
        (manager.canSleep graph requestedSleepMs).1 = .ok)

theorem nearDeadline_default (nowMs deadlineMs : UInt32) :
    QuiescencePolicy.default.nearDeadline nowMs deadlineMs = false := rfl

/-- The check without a clock value takes the timers that are due at zero for the due ones. -/
theorem isQuiescent_ok_iff {graph : QuiescenceGraph P} (hreports : graph.Reporting) :
    graph.isQuiescent.1 = .ok ↔
      graph.QuietBesidesTimers .default ∧ graph.timers.NoneDue 0 := by
  rw [isQuiescent, isQuiescentAt_ok_iff hreports]
  constructor
  · rintro ⟨hquiet, hnone, _⟩
    exact ⟨hquiet, hnone rfl⟩
  · rintro ⟨hquiet, hnone⟩
    exact ⟨hquiet, fun _ => hnone, fun next _ => nearDeadline_default 0 next⟩

theorem canSleep_ok_iff (graph : QuiescenceGraph P) (manager : PowerManager)
    (requestedSleepMs : UInt32) :
    (manager.canSleep graph requestedSleepMs).1 = .ok ↔
      manager.policy.refuses requestedSleepMs = false ∧ graph.isQuiescent.1 = .ok := by
  unfold PowerManager.canSleep PowerManager.canSleepAt
  by_cases hrefuses : manager.policy.refuses requestedSleepMs = true
  · simp [hrefuses]
  · have hsame : graph.isQuiescentAt 0 none = graph.isQuiescent := rfl
    simp only [hrefuses, Bool.false_eq_true, ↓reduceIte, hsame]
    split
    · rename_i hrefused
      exact ⟨fun h => absurd h hrefused, fun h => absurd h.2 hrefused⟩
    · rename_i haccepted
      exact ⟨fun _ => ⟨trivial, not_not.mp haccepted⟩, fun _ => rfl⟩

/-- The checks without a clock value are right just when, on a graph with nothing else to do,
a timer is due at the clock value if and only if one is due at zero. -/
theorem checksSeeDueTimers_iff (graph : QuiescenceGraph P) (hreports : graph.Reporting)
    (manager : PowerManager) (requestedSleepMs nowMs : UInt32) :
    graph.ChecksSeeDueTimers manager requestedSleepMs nowMs ↔
      (graph.QuietBesidesTimers .default →
        (graph.timers.NoneDue nowMs ↔ graph.timers.NoneDue 0)) := by
  have hcheck := isQuiescent_ok_iff hreports
  have hsleep := canSleep_ok_iff graph manager requestedSleepMs
  constructor
  · intro hsees hquiet
    constructor
    · intro hnow
      exact (hcheck.mp (hsees.future hquiet hnow).1).2
    · intro hzero
      exact hsees.quiescent (hcheck.mpr ⟨hquiet, hzero⟩)
  · intro hagree
    have hquiescent : graph.isQuiescent.1 = .ok → graph.timers.NoneDue nowMs := by
      intro hok
      obtain ⟨hquiet, hzero⟩ := hcheck.mp hok
      exact (hagree hquiet).mpr hzero
    refine ⟨hquiescent, fun hok => hquiescent (hsleep.mp hok).2, fun hquiet hnow => ?_⟩
    have hok := hcheck.mpr ⟨hquiet, (hagree hquiet).mp hnow⟩
    exact ⟨hok, fun hallowed => hsleep.mpr ⟨hallowed, hok⟩⟩

def allowAll : PowerManager where
  policy := { timedSleepAllowed := true, minSleepMs := 0, maxSleepMs := 0xFFFFFFFF }

theorem checksSeeDueTimers_iff_sensing :
    (sensing false bothAhead).ChecksSeeDueTimers allowAll 20 1000 := by
  refine (checksSeeDueTimers_iff (sensing false bothAhead) (sensing_reporting _ _) allowAll 20
    1000).mpr fun _ => ?_
  have hnow : (sensing false bothAhead).timers.NoneDue 1000 :=
    TimerService.dueTimerCount_eq_zero.mp (by decide +kernel)
  have hzero : (sensing false bothAhead).timers.NoneDue 0 :=
    TimerService.dueTimerCount_eq_zero.mp (by decide +kernel)
  exact ⟨fun _ => hzero, fun _ => hnow⟩

/-- A timer due since 500 is not seen at 1000. -/
theorem not_checksSeeDueTimers : ¬∀ (graph : QuiescenceGraph Unit) (manager : PowerManager)
    (requestedSleepMs nowMs : UInt32), graph.Reporting →
    (∀ index, (graph.timers.slots index).active = true →
      (graph.timers.slots index).deadlineMs - nowMs ≠ 2 ^ 31) →
    graph.ChecksSeeDueTimers manager requestedSleepMs nowMs := by
  intro h
  have hsees := h (idle (TimerService.init.setSlot ⟨0, by decide⟩
    { active := true, deadlineMs := 500, periodMs := 100 })) allowAll 100 1000 (idle_reporting _)
    (by decide +kernel)
  have hdue := hsees.canSleep (by decide +kernel) ⟨0, by decide⟩
    (by decide +kernel)
  revert hdue
  decide +kernel

/-- Faults that a policy blocks on refuse the sleep, whatever the callbacks report. -/
theorem isQuiescentAt_of_faults {graph : QuiescenceGraph P} (nowMs : UInt32)
    {policy : Option QuiescencePolicy}
    (h : (policy.getD .default).faultBlocks graph.faults = true) :
    (graph.isQuiescentAt nowMs policy).1 ≠ .ok := by
  intro hok
  have haccepts : (graph.evaluate nowMs (policy.getD .default)).accepts = true := by
    unfold isQuiescentAt at hok
    by_contra hrejected
    simp [hrejected] at hok
  rw [evaluate, QuiescenceReport.setReason_accepts, QuiescenceReport.accepts_iff,
    QuiescenceReport.blockIf_mask_eq_zero (by decide),
    QuiescenceReport.blockIf_mask_eq_zero (by decide)] at haccepts
  have hfree := haccepts.2.2.1.2
  rw [h] at hfree
  cases hfree

end QuiescenceGraph

inductive FaultCall where
  | emit (payload : FaultPayload)
  | drain (maxRecords : Nat)
  | ackAll

def FaultRegistry.absorber (registry : FaultRegistry) (payload : FaultPayload) : Option Nat :=
  match registry.records.findIdx? (FaultRegistry.sameKey · payload) with
  | some index => some index
  | none => if registry.records.length < faultStoreCapacity then some registry.records.length else none

inductive FaultRegistry.Emitted (registry : FaultRegistry) (payload : FaultPayload) : Prop where
  | repeated (index : Nat) (hlt : index < registry.records.length) :
    FaultRegistry.sameKey (registry.records[index]) payload = true →
    registry.absorber payload = some index → (registry.emit payload).1 = .ok →
    (registry.emit payload).2.records = registry.records.modify index FaultRegistry.repeated →
    Emitted registry payload
  | stored : registry.absorber payload = some registry.records.length →
    (registry.emit payload).1 = .ok →
    (registry.emit payload).2.records = registry.records ++ [{ payload with counter := 1 }] →
    Emitted registry payload
  | dropped : registry.absorber payload = none → (registry.emit payload).1 = .errFull →
    (registry.emit payload).2.records = registry.records → Emitted registry payload

theorem FaultRegistry.emit_cases (registry : FaultRegistry) (payload : FaultPayload) :
    registry.Emitted payload := by
  cases hfind : registry.records.findIdx? (FaultRegistry.sameKey · payload) with
  | some index =>
    obtain ⟨hlt, hkey, _⟩ := List.findIdx?_eq_some_iff_getElem.mp hfind
    refine .repeated index hlt hkey ?_ ?_ ?_
    · simp [absorber, hfind]
    · unfold emit
      split
      · rfl
      · rename_i hnone
        rw [hfind] at hnone
        cases hnone
    · unfold emit
      split
      · rename_i found hfound
        rw [hfind] at hfound
        cases hfound
        rfl
      · rename_i hnone
        rw [hfind] at hnone
        cases hnone
  | none =>
    have hemit : registry.emit payload = if hfull : registry.records.length < faultStoreCapacity then
        (.ok, { registry with
          records := registry.records ++ [{ payload with counter := 1 }]
          emitted := registry.emitted + 1
          bounded := by rw [List.length_append]; exact hfull })
      else
        (.errFull, { registry with
          dropped := registry.dropped + 1, emitted := registry.emitted + 1 }) := by
      unfold emit
      split
      · rename_i found hfound
        rw [hfind] at hfound
        cases hfound
      · rfl
    by_cases hlt : registry.records.length < faultStoreCapacity
    · refine .stored ?_ ?_ ?_
      · simp [absorber, hfind, hlt]
      · rw [hemit, dif_pos hlt]
      · rw [hemit, dif_pos hlt]
    · refine .dropped ?_ ?_ ?_
      · simp [absorber, hfind, hlt]
      · rw [hemit, dif_neg hlt]
      · rw [hemit, dif_neg hlt]

/-- A fault registry, and for each of its records whether it absorbed a critical emit; no
function of the source reads the latter. -/
structure FaultHistory where
  registry : FaultRegistry := .empty
  absorbed : List Bool := []

namespace FaultHistory

def mark (absorbed : List Bool) (index : Nat) (critical : Bool) : List Bool :=
  if index < absorbed.length then absorbed.modify index (· || critical) else absorbed ++ [critical]

def call (h : FaultHistory) : FaultCall → FaultHistory
  | .emit payload =>
    { registry := (h.registry.emit payload).2
      absorbed := match h.registry.absorber payload with
        | some index => mark h.absorbed index (payload.severity == .critical)
        | none => h.absorbed }
  | .drain maxRecords =>
    { registry := h.registry.drain maxRecords, absorbed := h.absorbed.drop maxRecords }
  | .ackAll => { registry := h.registry.ackAll, absorbed := [] }

/-- A record that absorbed a critical emit is still stored. -/
def CriticalPending (h : FaultHistory) : Prop := true ∈ h.absorbed

/-- A pending critical fault keeps every graph with this registry awake. -/
def BlocksSleep (h : FaultHistory) : Prop :=
  h.CriticalPending → ∀ (P : Type) (graph : QuiescenceGraph P) (nowMs : UInt32)
    (policy : Option QuiescencePolicy), graph.faults = h.registry →
    (policy.getD .default).faultPolicy = .blockCriticalOnly →
    (graph.isQuiescentAt nowMs policy).1 ≠ .ok

/-- A critical emit that meets a stored record of its key meets a critical one. -/
def SeverityKept (h : FaultHistory) (input : FaultCall) : Prop :=
  ∀ payload, input = .emit payload → payload.severity = .critical →
    ∀ record ∈ h.registry.records, FaultRegistry.sameKey record payload = true →
      record.severity = .critical

/-- The marked records are critical. -/
structure Inv (h : FaultHistory) : Prop where
  length_eq : h.absorbed.length = h.registry.records.length
  critical : ∀ (index : Nat) (record : FaultPayload), h.absorbed[index]? = some true →
    h.registry.records[index]? = some record → record.severity = .critical

theorem Inv.blocks {h : FaultHistory} (hinv : h.Inv) : h.BlocksSleep := by
  intro hpending P graph nowMs policy hfaults hpolicy
  obtain ⟨index, hlt, hget⟩ := List.mem_iff_getElem.mp hpending
  have hlt' : index < h.registry.records.length := hinv.length_eq ▸ hlt
  have hcritical := hinv.critical index _ (hget ▸ List.getElem?_eq_getElem hlt)
    (List.getElem?_eq_getElem hlt')
  apply QuiescenceGraph.isQuiescentAt_of_faults
  have hany : graph.faults.hasCritical = true := by
    rw [hfaults]
    exact List.any_eq_true.mpr ⟨_, List.getElem_mem hlt', by rw [hcritical]; rfl⟩
  simp [QuiescencePolicy.faultBlocks, hpolicy, hany]

theorem Inv.call {h : FaultHistory} (hinv : h.Inv) {input : FaultCall}
    (hkept : h.SeverityKept input) : (h.call input).Inv := by
  cases input with
  | drain maxRecords =>
    constructor
    · simp only [FaultHistory.call, FaultRegistry.drain, List.length_drop, hinv.length_eq]
    · intro index record hmark hrecord
      simp only [FaultHistory.call, FaultRegistry.drain, List.getElem?_drop] at hmark hrecord
      exact hinv.critical _ record hmark hrecord
  | ackAll =>
    refine ⟨rfl, fun index record hmark _ => ?_⟩
    simp [FaultHistory.call] at hmark
  | emit payload =>
    have hcall : (h.call (.emit payload)).registry = (h.registry.emit payload).2 := rfl
    rcases h.registry.emit_cases payload with
      ⟨index, hlt, hkey, habsorber, _, hrecords⟩ | ⟨habsorber, _, hrecords⟩ | ⟨habsorber, _, hrecords⟩
    · have habsorbed : (h.call (.emit payload)).absorbed =
          h.absorbed.modify index (· || payload.severity == .critical) := by
        simp only [FaultHistory.call, habsorber, mark, hinv.length_eq, hlt, ↓reduceIte]
      constructor
      · rw [hcall, habsorbed, hrecords, List.length_modify, List.length_modify, hinv.length_eq]
      · intro other record hmark hrecord
        rw [habsorbed, List.getElem?_modify] at hmark
        rw [hcall, hrecords, List.getElem?_modify] at hrecord
        obtain ⟨old, hold, rfl⟩ := Option.map_eq_some_iff.mp hrecord
        obtain ⟨was, hwas, hor⟩ := Option.map_eq_some_iff.mp hmark
        by_cases he : index = other
        · subst he
          have hold' : h.registry.records[index] = old :=
            Option.some.inj ((List.getElem?_eq_getElem hlt).symm.trans hold)
          rw [if_pos rfl] at hor ⊢
          change old.severity = .critical
          rcases Bool.or_eq_true _ _ ▸ hor with hmarked | hcritical
          · exact hinv.critical index old (hmarked ▸ hwas) hold
          · exact hkept payload rfl (by simpa using hcritical) old
              (hold' ▸ List.getElem_mem hlt) (hold' ▸ hkey)
        · rw [if_neg he] at hor ⊢
          exact hinv.critical other old (hor ▸ hwas) hold
    · have habsorbed : (h.call (.emit payload)).absorbed =
          h.absorbed ++ [payload.severity == .critical] := by
        simp only [FaultHistory.call, habsorber, mark, hinv.length_eq, lt_irrefl, ↓reduceIte]
      constructor
      · rw [hcall, habsorbed, hrecords, List.length_append, List.length_append, hinv.length_eq]
        rfl
      · intro other record hmark hrecord
        rw [habsorbed, List.getElem?_append, hinv.length_eq] at hmark
        rw [hcall, hrecords, List.getElem?_append] at hrecord
        by_cases hlt : other < h.registry.records.length
        · rw [if_pos hlt] at hmark hrecord
          exact hinv.critical other record hmark hrecord
        · rw [if_neg hlt, List.getElem?_singleton] at hmark hrecord
          split at hmark
          · rename_i hzero
            rw [if_pos hzero] at hrecord
            cases hrecord
            simpa using hmark
          · cases hmark
    · have habsorbed : (h.call (.emit payload)).absorbed = h.absorbed := by
        simp only [FaultHistory.call, habsorber]
      constructor
      · rw [hcall, habsorbed, hrecords, hinv.length_eq]
      · intro other record hmark hrecord
        rw [habsorbed] at hmark
        rw [hcall, hrecords] at hrecord
        exact hinv.critical other record hmark hrecord

/-- While no critical emit is absorbed by a record of lower severity, a critical fault that is
stored blocks sleep. -/
theorem criticalFault_blocks_sleep (calls : List FaultCall)
    (h : Machine.Each call SeverityKept {} calls) : Machine.Always call BlocksSleep {} calls := by
  have hinit : Inv {} := ⟨rfl, fun index record hmark _ => by simp at hmark⟩
  exact (Machine.always_of_each SeverityKept Inv (fun _ _ hinv hkept => hinv.call hkept) hinit h).imp
    fun _ => Inv.blocks

def criticalOverflow (severity : FaultSeverity) : FaultPayload where
  faultId := .activeRouteTableOverflow
  severity := severity
  sourceActor := .runtime

theorem criticalFault_blocks_sleep_drained :
    Machine.Always call BlocksSleep {}
      [.emit (criticalOverflow .critical), .emit PowerManager.sleepRejectedFault, .drain 0] := by
  refine criticalFault_blocks_sleep _ ?_
  refine Machine.each_cons.mpr ⟨?_, Machine.each_cons.mpr ⟨?_, Machine.each_cons.mpr ⟨?_, Machine.each_nil⟩⟩⟩
  · intro payload _ _ record hmem
    cases hmem
  · intro payload hinput hcritical
    cases hinput
    cases hcritical
  · intro payload hinput
    cases hinput

/-- The warning that came first keeps its severity. -/
theorem not_criticalFault_blocks_sleep :
    ¬∀ calls : List FaultCall, Machine.Always call BlocksSleep {} calls := by
  intro h
  have hblocks := (h [.emit (criticalOverflow .warning), .emit (criticalOverflow .critical)]).last
  have hpending : true ∈ (Machine.run call {} [.emit (criticalOverflow .warning),
      .emit (criticalOverflow .critical)]).absorbed := by decide +kernel
  exact hblocks hpending Unit { QuiescenceGraph.idle TimerService.init with
    faults := (Machine.run call {} [.emit (criticalOverflow .warning),
      .emit (criticalOverflow .critical)]).registry } 0 none rfl rfl (by decide +kernel)

end FaultHistory

end EventFramework
