import EventFramework.Core.PumpRules
import Mathlib.Data.List.Basic

/-!
# Turn accounting of the system pump

The turns of a call reach the stats of the pump after its loops. A domain that fails
returns before that and adds one turn only, so the turns the same call took before it are
lost: the stats agree with the reports exactly in the runs where that never happens.
-/

namespace EventFramework
set_option autoImplicit false

open RoundRobin

variable {P ω : Type}

def turnResults (events : List (Moment P)) : List Result :=
  events.filterMap fun m => match m.event with
    | .returnedDomain _ rc => some rc
    | _ => none

@[simp] theorem turnResults_append (events later : List (Moment P)) :
    turnResults (events ++ later) = turnResults events ++ turnResults later :=
  List.filterMap_append

/-- A domain failed in a call after the turn of another one. -/
def LosesTurns (results : List Result) : Prop :=
  .ok ∈ results ∧ ∃ rc ∈ results, rc ≠ .ok ∧ rc ≠ .errEmpty

namespace DomainPump

theorem defaultBudget_pos {domain : ExecutionDomain} {registry : ActorRegistry P}
    (h : pending domain registry ≠ 0) : defaultBudget domain ≠ 0 := by
  obtain ⟨count, hcount, hpos⟩ := List.sum_pos_iff_exists_pos_nat.mp (Nat.pos_of_ne_zero h)
  obtain ⟨index, hindex, rfl⟩ := List.mem_map.mp hcount
  have hmatch : actorMatches (.ofIndex index) domain = true := by
    by_contra hno
    rw [if_neg hno] at hpos
    exact Nat.lt_irrefl 0 hpos
  obtain ⟨info, hinfo, hdomain⟩ : ∃ info, actorMeta (.ofIndex index) = some info ∧
      info.executionDomain = domain := by
    unfold actorMatches at hmatch
    cases hmeta : actorMeta (.ofIndex index) with
    | none => simp [hmeta] at hmatch
    | some info => exact ⟨info, rfl, by simpa [hmeta] using hmatch⟩
  have hdrain : 0 < actorDefaultDrainBudget (.ofIndex index) :=
    drainBudget_pos (by simp [ActorId.isValid, hinfo])
  refine Nat.ne_of_gt (List.sum_pos_iff_exists_pos_nat.mpr ⟨_, List.mem_map.mpr ⟨index, hindex, rfl⟩, ?_⟩)
  simpa only [hinfo, hdomain, if_true, actorDefaultDrainBudget] using hdrain

end DomainPump

namespace SystemPump

/-- The counts of a call inside its loops: the turns are in the report only. -/
structure Call.Counts (pump : SystemPump) (results : List Result) (s : Call P ω) : Prop where
  turns : s.report.turnsProcessed = results.count .ok
  kept : s.pump.stats.turnsProcessed = pump.stats.turnsProcessed
  domains : s.pump.stats.domainsPumped =
    pump.stats.domainsPumped + UInt32.ofNat s.report.turnsProcessed
  messages : s.pump.stats.messagesProcessed =
    pump.stats.messagesProcessed + s.report.messagesProcessed
  results : ∀ rc ∈ results, rc = .ok ∨ rc = .errEmpty

structure Returned (pump pump' : SystemPump) (report : SystemPumpReport) (results : List Result) :
    Prop where
  atMost : pump'.stats.turnsProcessed ≤ pump.stats.turnsProcessed + report.turnsProcessed
  exact : pump'.stats.turnsProcessed = pump.stats.turnsProcessed + report.turnsProcessed ↔
    ¬LosesTurns results
  domains : pump'.stats.domainsPumped = pump.stats.domainsPumped + UInt32.ofNat report.turnsProcessed
  messages : pump'.stats.messagesProcessed = pump.stats.messagesProcessed + report.messagesProcessed

variable {prog : Program P ω} {pump : SystemPump} {results : List Result} {s : Call P ω}

theorem not_losesTurns (h : ∀ rc ∈ results, rc = .ok ∨ rc = .errEmpty) : ¬LosesTurns results := by
  rintro ⟨_, rc, hrc, hok, hempty⟩
  rcases h rc hrc with rfl | rfl
  · exact hok rfl
  · exact hempty rfl

theorem Call.Counts.counted (h : s.Counts pump results) {messages : Nat} :
    (s.counted messages).Counts pump (results ++ [.ok]) := by
  refine ⟨?_, h.kept, ?_, ?_, ?_⟩
  · change s.report.turnsProcessed + 1 = _
    rw [h.turns, List.count_append]
    rfl
  · change s.pump.stats.domainsPumped + 1 = _ + UInt32.ofNat (s.report.turnsProcessed + 1)
    rw [h.domains, UInt32.ofNat_add, UInt32.add_assoc]
    rfl
  · change s.pump.stats.messagesProcessed + messages = _ + (s.report.messagesProcessed + messages)
    rw [h.messages, Nat.add_assoc]
  · intro rc hrc
    rcases List.mem_append.mp hrc with hrc | hrc
    · exact h.results rc hrc
    · exact Or.inl (List.mem_singleton.mp hrc)

/-- A failed turn adds one to the stats, whatever the report says. -/
theorem Call.Counts.failed (h : s.Counts pump results) {messages : Nat} {rc : Result} (hok : rc ≠ .ok)
    (hempty : rc ≠ .errEmpty) :
    Returned pump (s.failed messages rc).pump (s.failed messages rc).report (results ++ [rc]) := by
  have hturns : (s.failed messages rc).pump.stats.turnsProcessed = pump.stats.turnsProcessed + 1 := by
    rw [← h.kept]
    simp only [Call.failed, Call.leave_turnsProcessed]
  have hreport : (s.failed messages rc).report.turnsProcessed = s.report.turnsProcessed + 1 := by
    simp only [Call.failed, Call.leave_report]
  have hloses : LosesTurns (results ++ [rc]) ↔ s.report.turnsProcessed ≠ 0 := by
    rw [h.turns, ← Nat.pos_iff_ne_zero, List.count_pos_iff]
    constructor
    · rintro ⟨hmem, _⟩
      rcases List.mem_append.mp hmem with hmem | hmem
      · exact hmem
      · exact absurd (List.mem_singleton.mp hmem).symm hok
    · intro hmem
      exact ⟨List.mem_append_left _ hmem, rc, by simp, hok, hempty⟩
  refine ⟨by omega, ?_, ?_, ?_⟩
  · rw [hloses, hturns, hreport]
    omega
  · rw [hreport, UInt32.ofNat_add, ← UInt32.add_assoc, ← h.domains]
    simp only [Call.failed, Call.leave_domainsPumped]
    rfl
  · simp only [Call.failed, Call.leave_messagesProcessed, Call.leave_report, h.messages, Nat.add_assoc]

theorem Call.Counts.finish (h : s.Counts pump results) (remaining : Nat) (made : Bool) :
    Returned pump (SystemPump.finish remaining made s).2.pump (SystemPump.finish remaining made s).2.report
      results := by
  obtain ⟨hreport, hmessages, hturns, hdomains, hprocessed⟩ := finish_counts remaining made s
  have hlaw := not_losesTurns h.results
  have hkept := h.kept
  refine ⟨by omega, ?_, ?_, ?_⟩
  · rw [hreport, hturns, h.kept]
    exact ⟨fun _ => hlaw, fun _ => rfl⟩
  · rw [hreport, hdomains, h.domains]
  · rw [hmessages, hprocessed, h.messages]

/-- A turn counts nothing before it is known how it ended, and adds its result to the
history. -/
theorem visit_history (prog : Program P ω) (s : Call P ω) (index : Nat) (domainPump : DomainPump)
    (budget : Nat) :
    ∃ later, (s.visit prog index domainPump budget).2.2.world.history = s.world.history ++ later ∧
      turnResults later = [(s.visit prog index domainPump budget).1] := by
  have hquiet : ∀ e : PumpEvent P, e.ofHandling → ∀ index rc, e ≠ .returnedDomain index rc := by
    rintro e he index rc rfl
    exact he
  obtain ⟨events, heq, hnone⟩ := (Extends.pumpFrame prog hquiet).domainRun
    (by simp) (by simp) domainPump budget (s.world.note (.visitedDomain index))
  have hresults : turnResults events = [] := by
    refine List.filterMap_eq_nil_iff.mpr fun m hm => ?_
    have hm' := hnone m hm
    split
    · rename_i rc hevent
      exact absurd hevent (hm' _ _)
    · rfl
  refine ⟨[⟨.visitedDomain index, s.world.registry⟩] ++ events ++ [⟨.returnedDomain index
    (s.visit prog index domainPump budget).1, (s.visit prog index domainPump budget).2.2.world.registry⟩],
    ?_, ?_⟩
  · change (domainPump.run prog budget (s.world.note (.visitedDomain index))).2.2.2.history ++ _ = _
    rw [heq]
    simp only [World.note, List.append_assoc]
    rfl
  · rw [turnResults_append, turnResults_append, hresults]
    rfl

/-- The history since a call began and the counts that go with it. -/
def Call.Going (pump : SystemPump) (start : World P ω) (s : Call P ω) : Prop :=
  ∃ later, s.world.history = start.history ++ later ∧ s.Counts pump (turnResults later)

def Call.Gone (pump : SystemPump) (start : World P ω) (s : Call P ω) : Prop :=
  ∃ later, s.world.history = start.history ++ later ∧
    Returned pump s.pump s.report (turnResults later)

theorem turn_going {start : World P ω} (h : s.Going pump start) (index remaining : Nat) :
    (turn prog index remaining s).Leads (Call.Going pump start) (Call.Gone pump start) := by
  obtain ⟨later, hhistory, hcounts⟩ := h
  rcases turn_cases prog index remaining s with
    ⟨t, ht, heq, _⟩ | ⟨domainPump, _, hpending, hbudget, _⟩ |
      ⟨domainPump, rc, report, t, _, _, hvisit, heq⟩
  · have hsame : t.world = s.world ∧ t.Counts pump (turnResults later) := by
      rcases ht with rfl | rfl
      · exact ⟨rfl, hcounts⟩
      · exact ⟨rfl, ⟨hcounts.1, hcounts.2, hcounts.3, hcounts.4, hcounts.5⟩⟩
    obtain ⟨hworld, hcounts⟩ := hsame
    rw [heq]
    refine ⟨later ++ [⟨.passedDomain index, t.world.registry⟩], ?_, ?_⟩
    · change t.world.history ++ _ = _
      rw [hworld, hhistory, List.append_assoc]
    · rw [turnResults_append]
      change Call.Counts pump (turnResults later ++ []) _
      rw [List.append_nil]
      exact ⟨hcounts.1, hcounts.2, hcounts.3, hcounts.4, hcounts.5⟩
  · exact absurd hbudget (DomainPump.defaultBudget_pos hpending)
  · obtain ⟨events, hevents, hresult⟩ := visit_history prog s.examined index domainPump
      (DomainPump.defaultBudget domainPump.domain)
    have hkept : t.Counts pump (turnResults later) := by
      obtain rfl : (s.examined.visit prog index domainPump
          (DomainPump.defaultBudget domainPump.domain)).2.2 = t := congrArg (fun out => out.2.2) hvisit
      exact ⟨hcounts.1, hcounts.2, hcounts.3, hcounts.4, hcounts.5⟩
    rw [hvisit] at hevents hresult
    have hhistory' : t.world.history = start.history ++ (later ++ events) := by
      rw [← List.append_assoc, ← hhistory]
      exact hevents
    rcases heq with ⟨hrc, heq⟩ | ⟨hempty, hok, heq⟩ | ⟨hrc, heq⟩ <;> rw [heq]
    · refine ⟨later ++ events, hhistory', ?_⟩
      rw [turnResults_append, hresult, hrc]
      refine ⟨?_, hkept.2, hkept.3, hkept.4, ?_⟩
      · rw [hkept.1, List.count_append]
        rfl
      · intro rc' hrc'
        rcases List.mem_append.mp hrc' with hrc' | hrc'
        · exact hkept.5 rc' hrc'
        · exact Or.inr (List.mem_singleton.mp hrc')
    · refine ⟨later ++ events, hhistory', ?_⟩
      rw [turnResults_append, hresult]
      exact hkept.failed hok hempty
    · refine ⟨later ++ events, hhistory', ?_⟩
      rw [turnResults_append, hresult, hrc]
      exact hkept.counted

def callEvents (prog : Program P ω) (pump : SystemPump) (turnBudget : Nat) (w : World P ω) :
    List (Moment P) :=
  (pump.run prog turnBudget w).2.2.2.history.drop w.history.length

theorem Returned.unchanged (pump pump' : SystemPump) (report : SystemPumpReport)
    (hstats : pump'.stats.turnsProcessed = pump.stats.turnsProcessed ∧
      pump'.stats.domainsPumped = pump.stats.domainsPumped ∧
      pump'.stats.messagesProcessed = pump.stats.messagesProcessed)
    (hreport : report.turnsProcessed = 0 ∧ report.messagesProcessed = 0) :
    Returned pump pump' report [] := by
  obtain ⟨hturns, hdomains, hmessages⟩ := hstats
  have hnone : ¬LosesTurns [] := by simp [LosesTurns]
  refine ⟨by omega, ⟨fun _ => hnone, fun _ => by omega⟩, ?_, by omega⟩
  rw [hdomains, hreport.1]
  exact (UInt32.add_zero _).symm

theorem run_returned (prog : Program P ω) (pump : SystemPump) (turnBudget : Nat) (w : World P ω) :
    Returned pump (pump.run prog turnBudget w).2.2.1 (pump.run prog turnBudget w).2.1
      (turnResults (callEvents prog pump turnBudget w)) := by
  have hstart : (enter pump turnBudget w).wrapped.Going pump w := by
    obtain ⟨hreport, hmessages, hturns, hdomains, hprocessed⟩ := enter_counts pump turnBudget w
    refine ⟨[], (List.append_nil _).symm, hreport, hturns, ?_, ?_, by simp [turnResults]⟩
    · rw [hreport, hdomains]
      exact (UInt32.add_zero _).symm
    · rw [hmessages, hprocessed, Nat.add_zero]
  have hinv : RoundRobin.Invariant domainCount (turn prog) (fun s => s.pump.nextDomainIndex)
      (fun _ _ _ s => s.Going pump w) (fun s _ => s.Gone pump w) :=
    Invariant.of_turn (fun h => turn_going h _ _) id
  have hloops := hinv.rounds turnBudget 0 turnBudget false hstart
  change (loops prog turnBudget turnBudget _).Satisfies _ _ at hloops
  have hevents : ∀ later, (pump.run prog turnBudget w).2.2.2.history = w.history ++ later →
      callEvents prog pump turnBudget w = later := by
    intro later hlater
    rw [callEvents, hlater, List.drop_left]
  unfold run at hevents ⊢
  rcases runFuel_cases prog turnBudget pump turnBudget w with
    ⟨_, heq⟩ | ⟨_, _, heq⟩ | ⟨_, _, ⟨s, rc, hout, heq⟩ | ⟨remaining, made, s, hout, heq⟩⟩
  · rw [heq] at hevents ⊢
    rw [hevents [] (List.append_nil _).symm]
    exact .unchanged _ _ _ ⟨rfl, rfl, rfl⟩ ⟨rfl, rfl⟩
  · rw [heq] at hevents ⊢
    rw [hevents [] (List.append_nil _).symm]
    exact .unchanged _ _ _ ⟨rfl, rfl, rfl⟩ ⟨rfl, rfl⟩
  · rw [hout] at hloops
    obtain ⟨later, hhistory, hreturned⟩ := hloops
    rw [heq] at hevents ⊢
    rw [hevents later hhistory]
    exact hreturned
  · rw [hout] at hloops
    obtain ⟨_, later, hhistory, hcounts⟩ := hloops
    rw [heq] at hevents ⊢
    rw [hevents later ((congrArg World.history (finish_cases remaining made s).1).trans hhistory)]
    exact hcounts.finish remaining made

def reports (prog : Program P ω) : List (PumpCall P ω) → SystemPump → World P ω →
    List (SystemPumpReport × List Result)
  | [], _, _ => []
  | call :: calls, pump, w =>
    let out := pump.run prog call.budget (w.changed call.between)
    (out.2.1, turnResults (callEvents prog pump call.budget (w.changed call.between))) ::
      reports prog calls out.2.2.1 out.2.2.2

/-- The stats after a run of calls are the sums of its reports. -/
def TurnsAccounted (prog : Program P ω) (calls : List (PumpCall P ω)) (pump : SystemPump)
    (w : World P ω) : Prop :=
  (pump.runCalls prog calls w).1.stats.turnsProcessed =
      ((reports prog calls pump w).map fun r => r.1.turnsProcessed).sum ∧
    (pump.runCalls prog calls w).1.stats.domainsPumped =
      UInt32.ofNat (pump.runCalls prog calls w).1.stats.turnsProcessed ∧
    (pump.runCalls prog calls w).1.stats.messagesProcessed =
      ((reports prog calls pump w).map fun r => r.1.messagesProcessed).sum

/-- What a run of calls adds to the stats. -/
theorem runCalls_returned (prog : Program P ω) (calls : List (PumpCall P ω)) :
    ∀ (pump : SystemPump) (w : World P ω),
      (pump.runCalls prog calls w).1.stats.turnsProcessed ≤ pump.stats.turnsProcessed +
        ((reports prog calls pump w).map fun r => r.1.turnsProcessed).sum ∧
      ((pump.runCalls prog calls w).1.stats.turnsProcessed = pump.stats.turnsProcessed +
        ((reports prog calls pump w).map fun r => r.1.turnsProcessed).sum ↔
          ∀ r ∈ reports prog calls pump w, ¬LosesTurns r.2) ∧
      (pump.runCalls prog calls w).1.stats.domainsPumped = pump.stats.domainsPumped +
        UInt32.ofNat ((reports prog calls pump w).map fun r => r.1.turnsProcessed).sum ∧
      (pump.runCalls prog calls w).1.stats.messagesProcessed = pump.stats.messagesProcessed +
        ((reports prog calls pump w).map fun r => r.1.messagesProcessed).sum := by
  induction calls with
  | nil =>
    intro pump w
    exact ⟨Nat.le_refl _, by simp [runCalls, reports], (UInt32.add_zero _).symm, rfl⟩
  | cons call calls ih =>
    intro pump w
    have hcall := run_returned prog pump call.budget (w.changed call.between)
    have hle := hcall.atMost
    have hexact := hcall.exact
    obtain ⟨hle', hexact', hdomains, hmessages⟩ :=
      ih (pump.run prog call.budget (w.changed call.between)).2.2.1
        (pump.run prog call.budget (w.changed call.between)).2.2.2
    simp only [runCalls, reports, List.map_cons, List.sum_cons, List.forall_mem_cons]
    refine ⟨by omega, ?_, ?_, ?_⟩
    · rw [← hexact, ← hexact']
      omega
    · rw [hdomains, hcall.domains, UInt32.ofNat_add, UInt32.add_assoc]
    · rw [hmessages, hcall.messages, Nat.add_assoc]

/-- The stats are the sums of the reports exactly in the runs in which no domain fails
after another one had its turn in the same call. -/
theorem turnsAccounted_iff (prog : Program P ω) (calls : List (PumpCall P ω)) (pumps : List DomainPump)
    (w : World P ω) :
    TurnsAccounted prog calls (init.bindAll pumps) w ↔
      ∀ r ∈ reports prog calls (init.bindAll pumps) w, ¬LosesTurns r.2 := by
  obtain ⟨_, hexact, hdomains, hmessages⟩ := runCalls_returned prog calls (init.bindAll pumps) w
  have hstats : (init.bindAll pumps).stats = {} := bindAll_stats pumps init
  rw [hstats] at hexact hdomains hmessages
  simp only [Nat.zero_add] at hexact hmessages
  rw [← hexact]
  constructor
  · exact fun h => h.1
  · intro h
    refine ⟨h, ?_, hmessages⟩
    rw [hdomains, h]
    exact UInt32.zero_add _

/-- The boot actor succeeds, the diagnostic actor fails. -/
def diagFails : Program Unit Unit where
  callbacks := ⟨fun _ _ _ _ w => (.ok, w), fun _ _ _ _ w => w⟩
  handler := fun actor _ => if actor = .diag then .ret .errState else .ret .ok

def started : Msg Unit := (Msg.blank.initSend .bootStarted .boot .boot).2

def startedMailbox : Mailbox Unit := ((Mailbox.fresh .fifo8).push diagFails.callbacks started ()).2.1

/-- One message for an actor of the fast loop, one for an actor of the slow one. -/
def startedWorld : World Unit Unit where
  registry := (ActorRegistry.fresh.setRuntime ⟨.boot, startedMailbox, {}⟩).setRuntime
    ⟨.diag, startedMailbox, {}⟩
  outside := ()

theorem turnsAccounted_fails :
    ¬TurnsAccounted diagFails [⟨fun registry outside => (registry, outside), 2⟩]
      (init.bindAll [.init .fastLoop, .init .slowIo]) startedWorld := by
  rintro ⟨hturns, _⟩
  revert hturns
  decide

end SystemPump

end EventFramework
