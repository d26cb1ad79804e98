import EventFramework.Core.PumpAccounting
import EventFramework.Runtime.PollFrame

/-!
# The budgets of a poll

The loop tests its budgets between two polls of the scheduler, and hands each poll the whole turn
budget. The pump calls and the samples stay within their budgets; the turns and the messages do
when the policy leaves room for what its pump calls can take.
-/

namespace EventFramework
set_option autoImplicit false

open RoundRobin

variable {P ν ω : Type}

def SystemPump.turnMessages : Nat := (domainCatalog.map DomainPump.defaultBudget).foldr max 0

/-- What a call of the system pump may have taken when it returns. -/
def SystemPumpReport.Spent (turnBudget : Nat) (report : SystemPumpReport) : Prop :=
  report.turnsProcessed ≤ turnBudget ∧
    report.messagesProcessed ≤ report.turnsProcessed * SystemPump.turnMessages

namespace SystemPump

theorem defaultBudget_le (domain : ExecutionDomain) :
    DomainPump.defaultBudget domain ≤ turnMessages := by
  cases domain <;> decide

/-- The turns of a call that are taken, and the messages handled in them. -/
def Call.Takes (turnBudget remaining : Nat) (s : Call P ω) : Prop :=
  s.report.turnsProcessed + remaining = turnBudget ∧
    s.report.messagesProcessed ≤ s.report.turnsProcessed * turnMessages

/-- A visit counts no turn, and handles no more messages than the budget of the domain. -/
theorem visit_takes {prog : Program P ω} {s t : Call P ω} {index : Nat} {domainPump : DomainPump}
    {rc : Result} {report : DomainPumpReport}
    (h : s.examined.visit prog index domainPump (DomainPump.defaultBudget domainPump.domain) =
      (rc, report, t)) :
    t.report.turnsProcessed = s.report.turnsProcessed ∧
      t.report.messagesProcessed = s.report.messagesProcessed ∧
      report.processed ≤ turnMessages := by
  obtain ⟨_, _, hle⟩ := DomainPump.run_account prog domainPump
    (DomainPump.defaultBudget domainPump.domain) (s.examined.world.note (.visitedDomain index))
  simp only [Call.visit, Prod.mk.injEq] at h
  obtain ⟨-, rfl, rfl⟩ := h
  exact ⟨rfl, rfl, hle.trans (defaultBudget_le domainPump.domain)⟩

variable (prog : Program P ω) in
theorem turn_takes {turnBudget remaining : Nat} {s : Call P ω} (h : s.Takes turnBudget remaining)
    (index : Nat) (hremaining : 0 < remaining) :
    match turn prog index remaining s with
    | .pass t | .idle t => t.Takes turnBudget remaining
    | .progress t used => t.Takes turnBudget (remaining - used)
    | .abort t _ => t.report.Spent turnBudget := by
  obtain ⟨hturns, hmessages⟩ := h
  rcases turn_cases prog index remaining s with
    ⟨t, ht, heq, _⟩ | ⟨_, _, _, _, heq⟩ | ⟨_, rc, report, t, _, _, hvisit, heq⟩
  · rw [heq]
    rcases ht with rfl | rfl
    · exact ⟨hturns, hmessages⟩
    · exact ⟨hturns, hmessages⟩
  · rw [heq]
    exact ⟨Nat.le_of_add_right_le (Nat.le_of_eq hturns), hmessages⟩
  · obtain ⟨htaken, hhandled, hle⟩ := visit_takes hvisit
    have hafter : t.report.messagesProcessed + report.processed ≤
        (t.report.turnsProcessed + 1) * turnMessages := by
      rw [htaken, hhandled, Nat.succ_mul]
      exact Nat.add_le_add hmessages hle
    rcases heq with ⟨_, heq⟩ | ⟨_, _, heq⟩ | ⟨_, heq⟩ <;> rw [heq]
    · refine ⟨by rwa [htaken], ?_⟩
      rwa [htaken, hhandled]
    · refine ⟨?_, hafter⟩
      change t.report.turnsProcessed + 1 ≤ turnBudget
      omega
    · refine ⟨?_, hafter⟩
      change t.report.turnsProcessed + 1 + (remaining - 1) = turnBudget
      omega

/-- A call takes no more turns than its budget, and each of them a bounded number of messages. -/
theorem run_spent (prog : Program P ω) (pump : SystemPump) (turnBudget : Nat) (w : World P ω) :
    (pump.run prog turnBudget w).2.1.Spent turnBudget := by
  have hinv : Invariant domainCount (turn prog) (fun s : Call P ω => s.pump.nextDomainIndex)
      (fun _ r _ s => s.Takes turnBudget r) (fun s _ => s.report.Spent turnBudget) := by
    constructor
    · intro i r made s s' hr hs heq
      have hturn := turn_takes prog hs i hr
      rwa [heq] at hturn
    · intro i r made s s' hr hs heq
      have hturn := turn_takes prog hs i hr
      rwa [heq] at hturn
    · intro i r made s s' used hr hs heq
      have hturn := turn_takes prog hs i hr
      rwa [heq] at hturn
    · intro i r made s s' rc hr hs heq
      have hturn := turn_takes prog hs i hr
      rwa [heq] at hturn
    · exact fun hs => hs
  have hstart : (enter pump turnBudget w).wrapped.Takes turnBudget turnBudget :=
    ⟨Nat.zero_add _, Nat.zero_le _⟩
  have hloops := hinv.rounds turnBudget 0 turnBudget false hstart
  change (loops prog turnBudget turnBudget _).Satisfies _ _ at hloops
  unfold run
  rcases runFuel_cases prog turnBudget pump turnBudget w with
    ⟨_, heq⟩ | ⟨_, _, heq⟩ | ⟨_, _, ⟨s, rc, hout, heq⟩ | ⟨remaining, made, s, hout, heq⟩⟩
  · rw [heq]
    exact ⟨Nat.zero_le _, Nat.zero_le _⟩
  · rw [heq]
    exact ⟨Nat.zero_le _, Nat.zero_le _⟩
  · rw [hout] at hloops
    rw [heq]
    exact hloops
  · rw [hout] at hloops
    obtain ⟨_, hturns, hmessages⟩ := hloops
    obtain ⟨hsame, hsent, _⟩ := finish_counts remaining made s
    rw [heq]
    change (finish remaining made s).2.report.Spent turnBudget
    refine ⟨by omega, ?_⟩
    rwa [hsame, hsent]

end SystemPump

theorem RuntimeGraph.pollSchedulerOnce_spent (prog : Program P (TimerService × ν))
    (graph : RuntimeGraph P ν) (turnBudget : Nat) :
    (graph.pollSchedulerOnce prog turnBudget).2.1.Spent turnBudget := by
  have hrun := graph.scheduler.system.run_spent prog turnBudget graph.world
  unfold pollSchedulerOnce RuntimeScheduler.pollOnce
  simp only
  split
  · exact hrun
  · exact hrun

/-- `collect_ingress` takes no more samples than are left of the policy's budgets. -/
def RuntimeLoopPorts.RespectsSamples (ports : RuntimeLoopPorts P ν) (policy : RuntimeLoopPolicy) :
    Prop :=
  ∀ port, ports.collectIngress = some port → ∀ report graph,
    (port policy report graph).2.1 ≤ policy.maxIrqSamples.toNat - report.irqSamples ∧
      (port policy report graph).2.2.1 ≤ policy.maxNetSamples.toNat - report.netSamples

namespace RuntimeLoopPolicy

/-- The turns that the pump calls of a poll can take while the turn budget lasts. -/
def reachableTurns (policy : RuntimeLoopPolicy) : Nat :=
  min (policy.maxPumpCalls.toNat * policy.schedulerTurnBudget.toNat) policy.maxTurns.toNat

/-- The turn budget is tested after each turn, or has room for all pump calls, and the message
budget has room for the turns that are then taken. -/
structure Ample (policy : RuntimeLoopPolicy) : Prop where
  turns : policy.schedulerTurnBudget.toNat = 1 ∨
    policy.maxPumpCalls.toNat * policy.schedulerTurnBudget.toNat ≤ policy.maxTurns.toNat
  messages : policy.reachableTurns * SystemPump.turnMessages ≤ policy.maxMessages.toNat

end RuntimeLoopPolicy

namespace RuntimeLoop

/-- The turns and messages of a report are within what its pump calls can take. -/
structure Roomy (policy : RuntimeLoopPolicy) (report : RuntimeLoopReport) : Prop where
  calls : report.turns.toNat ≤ report.pumpCalls.toNat * policy.schedulerTurnBudget.toNat
  turns : report.turns.toNat ≤ policy.maxTurns.toNat
  messages : report.messages.toNat ≤ report.turns.toNat * SystemPump.turnMessages

structure Bounded (policy : RuntimeLoopPolicy) (report : RuntimeLoopReport) : Prop where
  pumpCalls : report.pumpCalls.toNat ≤ policy.maxPumpCalls.toNat
  irqSamples : report.irqSamples ≤ policy.maxIrqSamples.toNat
  netSamples : report.netSamples ≤ policy.maxNetSamples.toNat
  turns : report.turns.toNat < policy.maxTurns.toNat + policy.schedulerTurnBudget.toNat
  messages : report.messages.toNat < policy.maxMessages.toNat +
    policy.schedulerTurnBudget.toNat * SystemPump.turnMessages
  roomy : policy.Ample → Roomy policy report

variable {prog : Program P (TimerService × ν)} {policy : RuntimeLoopPolicy}
  {ports : RuntimeLoopPorts P ν} {report report' : RuntimeLoopReport}

/-- An ample policy keeps the turns and messages of its calls within their budgets. -/
theorem Bounded.within (h : Bounded policy report) (hample : policy.Ample) :
    report.turns.toNat ≤ policy.maxTurns.toNat ∧
      report.messages.toNat ≤ policy.maxMessages.toNat := by
  obtain ⟨hcalls, hturns, hmessages⟩ := h.roomy hample
  refine ⟨hturns, hmessages.trans (le_trans ?_ hample.messages)⟩
  exact Nat.mul_le_mul_right _
    (Nat.le_min.mpr ⟨hcalls.trans (Nat.mul_le_mul_right _ h.pumpCalls), hturns⟩)

theorem Bounded.sampled (h : Bounded policy report) (hcalls : report'.pumpCalls = report.pumpCalls)
    (hturns : report'.turns = report.turns) (hmessages : report'.messages = report.messages)
    (hirq : report'.irqSamples ≤ policy.maxIrqSamples.toNat)
    (hnet : report'.netSamples ≤ policy.maxNetSamples.toNat) : Bounded policy report' where
  pumpCalls := hcalls ▸ h.pumpCalls
  irqSamples := hirq
  netSamples := hnet
  turns := hturns ▸ h.turns
  messages := hmessages ▸ h.messages
  roomy hample := by
    obtain ⟨hbelow, hwithin, hhandled⟩ := h.roomy hample
    exact ⟨by rwa [hcalls, hturns], by rwa [hturns], by rwa [hmessages, hturns]⟩

theorem Bounded.congr (h : Bounded policy report) (hsame : report'.SameCounts report) :
    Bounded policy report' :=
  h.sampled hsame.pumpCalls hsame.turns hsame.messages (hsame.irqSamples ▸ h.irqSamples)
    (hsame.netSamples ▸ h.netSamples)

/-- Before a poll all budgets have something left. -/
theorem room_of_not_exhausted (h : exhausted policy report = false) :
    report.pumpCalls.toNat < policy.maxPumpCalls.toNat ∧
      report.turns.toNat < policy.maxTurns.toNat ∧
      report.messages.toNat < policy.maxMessages.toNat := by
  simp only [exhausted, Bool.or_eq_false_iff, decide_eq_false_iff_not, UInt32.not_le] at h
  exact ⟨UInt32.lt_iff_toNat_lt.mp h.1.1.1.1, UInt32.lt_iff_toNat_lt.mp h.1.1.2,
    UInt32.lt_iff_toNat_lt.mp h.1.1.1.2⟩

/-- A counter that a poll adds to grows by what the poll took, or wraps to something smaller. -/
theorem toNat_add_le (count : UInt32) (taken : Nat) :
    (count + UInt32.ofNat taken).toNat ≤ count.toNat + taken := by
  rw [UInt32.toNat_add, UInt32.toNat_ofNat']
  exact (Nat.mod_le _ _).trans (Nat.add_le_add_left (Nat.mod_le _ _) _)

theorem toNat_add_of_le {count : UInt32} {taken : Nat} {limit : UInt32}
    (h : count.toNat + taken ≤ limit.toNat) : (count + UInt32.ofNat taken).toNat = count.toNat + taken := by
  have hlimit := limit.toNat_lt
  rw [UInt32.toNat_add, UInt32.toNat_ofNat', Nat.mod_eq_of_lt (a := taken) (by omega)]
  exact Nat.mod_eq_of_lt (by omega)

theorem Roomy.polled {s : LoopState P ν} (h : Roomy policy s.report) (hample : policy.Ample)
    (hleft : exhausted policy s.report = false) (rc : Result) {report : SystemPumpReport}
    (hspent : report.Spent policy.schedulerTurnBudget.toNat) (graph : RuntimeGraph P ν) :
    Roomy policy (RuntimeLoop.polled s rc report graph).report := by
  obtain ⟨hcall, hroom, -⟩ := room_of_not_exhausted hleft
  obtain ⟨hturns, hmessages⟩ := hspent
  have hnext : (s.report.pumpCalls + 1).toNat = s.report.pumpCalls.toNat + 1 :=
    @toNat_add_of_le s.report.pumpCalls 1 policy.maxPumpCalls hcall
  have hcalls : s.report.turns.toNat + report.turnsProcessed ≤
      (s.report.pumpCalls.toNat + 1) * policy.schedulerTurnBudget.toNat := by
    rw [Nat.succ_mul]
    exact Nat.add_le_add h.calls hturns
  have hwithin : s.report.turns.toNat + report.turnsProcessed ≤ policy.maxTurns.toNat := by
    rcases hample.turns with hone | hroomy
    · omega
    · exact (hcalls.trans (Nat.mul_le_mul_right _ hcall)).trans hroomy
  have hhandled : s.report.messages.toNat + report.messagesProcessed ≤
      (s.report.turns.toNat + report.turnsProcessed) * SystemPump.turnMessages := by
    rw [Nat.add_mul]
    exact Nat.add_le_add h.messages hmessages
  have hfits : s.report.messages.toNat + report.messagesProcessed ≤ policy.maxMessages.toNat :=
    (hhandled.trans (Nat.mul_le_mul_right _ (Nat.le_min.mpr
      ⟨hcalls.trans (Nat.mul_le_mul_right _ hcall), hwithin⟩))).trans hample.messages
  simp only [RuntimeLoop.polled]
  refine ⟨?_, ?_, ?_⟩
  · rwa [toNat_add_of_le hwithin, hnext]
  · rwa [toNat_add_of_le hwithin]
  · rwa [toNat_add_of_le hfits, toNat_add_of_le hwithin]

theorem Bounded.polled {s : LoopState P ν} (h : Bounded policy s.report)
    (hleft : exhausted policy s.report = false) (rc : Result) {report : SystemPumpReport}
    (hspent : report.Spent policy.schedulerTurnBudget.toNat) (graph : RuntimeGraph P ν) :
    Bounded policy (RuntimeLoop.polled s rc report graph).report := by
  obtain ⟨hcall, hroom, hmore⟩ := room_of_not_exhausted hleft
  have hturns := toNat_add_le s.report.turns report.turnsProcessed
  have hmessages := toNat_add_le s.report.messages report.messagesProcessed
  have hhandled := hspent.2.trans (Nat.mul_le_mul_right _ hspent.1)
  have htaken := hspent.1
  refine ⟨?_, h.irqSamples, h.netSamples, ?_, ?_,
    fun hample => (h.roomy hample).polled hample hleft rc hspent graph⟩
  · exact (toNat_add_le s.report.pumpCalls 1).trans hcall
  · simp only [RuntimeLoop.polled]
    omega
  · simp only [RuntimeLoop.polled]
    omega

theorem bounded_frame (hports : ports.RespectsSamples policy) :
    BudgetFrame prog policy ports (fun s => Bounded policy s.report) (fun _ => True) where
  ok := trivial
  isPartial := trivial
  report s report hsame hs := hs.congr hsame
  extraPending s pending hs := hs
  scheduler s hs hleft :=
    ⟨hs.polled hleft _ (s.graph.pollSchedulerOnce_spent prog _) _, Or.inr trivial⟩
  collect s hs := by
    refine ⟨?_, trivial⟩
    unfold RuntimeLoop.collect
    split
    · exact hs
    · rename_i port hport
      obtain ⟨hirq, hnet⟩ := hports port hport s.report s.graph
      have hirqs := hs.irqSamples
      have hnets := hs.netSamples
      exact hs.sampled rfl rfl rfl (by simp only; omega) (by simp only; omega)
  publish nowMs s hs := by
    unfold publishTimers
    split
    · exact hs.sampled rfl rfl rfl hs.irqSamples hs.netSamples
    · exact hs
  clock s hs := ⟨hs, trivial⟩
  ended haveTiming startMs s hs := by
    unfold readEnd
    split
    · simp only
      split
      · exact hs.congr ⟨rfl, rfl, rfl, rfl, rfl, rfl⟩
      · exact hs
    · exact hs
  asked endMs s hs := by
    unfold askWork
    split
    · exact hs
    · exact hs

/-- A poll returns a report with the pump calls and the samples within their budgets, and the
turns and messages less than one scheduler poll over theirs. Under an ample policy these are
within their budgets, too. -/
theorem poll_within (prog : Program P (TimerService × ν)) (policy : RuntimeLoopPolicy)
    (ports : RuntimeLoopPorts P ν) (graph : RuntimeGraph P ν) (hbudgeted : policy.Budgeted)
    (hports : ports.RespectsSamples policy) :
    ∃ bound rc s,
      (∀ fuel, bound ≤ fuel → pollOnce prog (some policy) ports fuel graph = some (rc, s)) ∧
      s.report.pumpCalls ≤ policy.maxPumpCalls ∧
      s.report.irqSamples ≤ policy.maxIrqSamples.toNat ∧
      s.report.netSamples ≤ policy.maxNetSamples.toNat ∧
      s.report.turns.toNat < policy.maxTurns.toNat + policy.schedulerTurnBudget.toNat ∧
      s.report.messages.toNat < policy.maxMessages.toNat +
        policy.schedulerTurnBudget.toNat * SystemPump.turnMessages ∧
      (policy.Ample →
        s.report.turns ≤ policy.maxTurns ∧ s.report.messages ≤ policy.maxMessages) := by
  obtain ⟨bound, ⟨rc, s⟩, hrun⟩ := pollOnce_total prog (some policy) ports graph
  have hpos : 0 < policy.schedulerTurnBudget.toNat :=
    Nat.pos_of_ne_zero fun hzero => hbudgeted.schedulerTurn (UInt32.toNat_inj.mp hzero)
  have hstart : Bounded policy (start ports graph).2.2.report := by
    refine ⟨Nat.zero_le _, Nat.zero_le _, Nat.zero_le _, Nat.add_pos_right _ hpos,
      Nat.add_pos_right _ (Nat.mul_pos hpos (by decide)), fun _ => ⟨?_, ?_, ?_⟩⟩
    · exact Nat.zero_le _
    · exact Nat.zero_le _
    · exact Nat.zero_le _
  have hended := ((bounded_frame hports).pollOnce
    ⟨hbudgeted.schedulerTurn, hbudgeted.timerPublish⟩ hstart (hrun bound (Nat.le_refl _))).1
  refine ⟨bound, rc, s, hrun, UInt32.le_iff_toNat_le.mpr hended.pumpCalls, hended.irqSamples,
    hended.netSamples, hended.turns, hended.messages, fun hample => ?_⟩
  obtain ⟨hturns, hmessages⟩ := hended.within hample
  exact ⟨UInt32.le_iff_toNat_le.mpr hturns, UInt32.le_iff_toNat_le.mpr hmessages⟩

section Volley

/-- Two actors of different domains that send one message back and forth. -/
def volley : Program Unit (TimerService × Unit) where
  callbacks := ⟨fun _ _ _ _ w => (.ok, w), fun _ _ _ _ w => w⟩
  handler := fun actor msg =>
    .deliver (if actor = .boot then .diag else .boot) msg .critical false fun rc _ => .ret rc

def volleyGraph : RuntimeGraph Unit Unit where
  scheduler := ⟨SystemPump.init.bindAll [.init .fastLoop, .init .slowIo], 0, 0, 0⟩
  world := ⟨(ActorRegistry.fresh.setRuntime ⟨.boot, ((Mailbox.fresh .fifo8).push
    failingProgram.callbacks (Msg.blank.initPublish .bootStarted .boot).2 ()).2.1, {}⟩).setRuntime
      ⟨.diag, Mailbox.fresh .fifo8, {}⟩, (TimerService.init, ()), []⟩

theorem countingIngress_respects (policy : RuntimeLoopPolicy) :
    (countingIngress .ok 0).RespectsSamples policy := by
  intro port hport report graph
  obtain rfl := Option.some.inj hport
  exact ⟨Nat.zero_le _, Nat.zero_le _⟩

def amplePolicy : RuntimeLoopPolicy :=
  { RuntimeLoopPolicy.default with maxPumpCalls := 2, maxTurns := 8, maxMessages := 264 }

theorem poll_within_volley :
    ∃ bound rc s,
      (∀ fuel, bound ≤ fuel → pollOnce volley (some amplePolicy) (countingIngress .ok 0) fuel
        volleyGraph = some (rc, s)) ∧
      s.report.pumpCalls ≤ 2 ∧ s.report.turns ≤ 8 ∧ s.report.messages ≤ 264 := by
  obtain ⟨bound, rc, s, hrun, hcalls, _, _, _, _, hwithin⟩ :=
    poll_within volley amplePolicy (countingIngress .ok 0) volleyGraph
      ⟨by decide, by decide, by decide, by decide, by decide, by decide, by decide⟩
      (countingIngress_respects _)
  exact ⟨bound, rc, s, hrun, hcalls, hwithin ⟨Or.inr (by decide), by decide⟩⟩

/-- Under the default policy three scheduler polls of four turns each fit before the test of the
turn budget, which is ten. -/
theorem poll_overshoots :
    ¬∀ (prog : Program Unit (TimerService × Unit)) (policy : RuntimeLoopPolicy)
      (ports : RuntimeLoopPorts Unit Unit) (graph : RuntimeGraph Unit Unit) (fuel : Nat)
      (rc : Result) (s : LoopState Unit Unit), policy.Budgeted → ports.RespectsSamples policy →
      pollOnce prog (some policy) ports fuel graph = some (rc, s) →
      s.report.pumpCalls ≤ policy.maxPumpCalls ∧ s.report.turns ≤ policy.maxTurns ∧
        s.report.messages ≤ policy.maxMessages ∧
        s.report.irqSamples ≤ policy.maxIrqSamples.toNat ∧
        s.report.netSamples ≤ policy.maxNetSamples.toNat := by
  intro h
  have hover : (pollOnce volley (some .default) (countingIngress .ok 0) 20 volleyGraph).any
      (fun out => !decide (out.2.report.turns ≤ RuntimeLoopPolicy.default.maxTurns)) = true := by
    decide +kernel
  obtain ⟨⟨rc, s⟩, hrun, hturns⟩ := (Option.any_eq_true _ _).mp hover
  have hwithin := (h volley .default (countingIngress .ok 0) volleyGraph 20 rc s
    default_budgeted (countingIngress_respects _) hrun).2.1
  rw [decide_eq_true hwithin] at hturns
  cases hturns

end Volley

end RuntimeLoop

end EventFramework
