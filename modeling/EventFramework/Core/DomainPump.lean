import EventFramework.Core.ActorRuntime
import EventFramework.Library.RoundRobin

/-!
# The domain pump

`ev_domain_pump.c`: bounded draining of the actors of one execution domain, in the order
of a cursor that moves behind each pumped actor.
-/

namespace EventFramework
set_option autoImplicit false

open RoundRobin

variable {P ω : Type}

structure DomainPumpStats where
  pumpCalls : UInt32 := 0
  pumpEmptyCalls : UInt32 := 0
  pumpBudgetHits : UInt32 := 0
  lastBudget : Nat := 0
  lastProcessed : Nat := 0
  pendingHighWatermark : Nat := 0
  maxActorsExaminedPerCall : Nat := 0
  maxActorsPumpedPerCall : Nat := 0
  maxMessagesPerCall : Nat := 0
  lastActor : ActorId := .none
  lastResult : Result := .ok
  deriving DecidableEq, Repr

structure DomainPump where
  domain : ExecutionDomain
  nextActorIndex : Nat := 0
  stats : DomainPumpStats := {}
  deriving DecidableEq, Repr

structure DomainPumpReport where
  budget : Nat := 0
  processed : Nat := 0
  pendingBefore : Nat := 0
  pendingAfter : Nat := 0
  actorsExamined : Nat := 0
  actorsPumped : Nat := 0
  exhaustedBudget : Bool := false
  lastActor : ActorId := .none
  stopResult : Result := .ok
  deriving DecidableEq, Repr

/-- `ev_domain_pump_actor_matches`. -/
def actorMatches (actor : ActorId) (domain : ExecutionDomain) : Bool :=
  (actorMeta actor).any fun info => info.executionDomain == domain

/-- A call of a pump, after an arbitrary change of the registry and the outside. -/
structure PumpCall (P ω : Type) where
  between : ActorRegistry P → ω → ActorRegistry P × ω
  budget : Nat

def World.changed (w : World P ω) (between : ActorRegistry P → ω → ActorRegistry P × ω) :
    World P ω :=
  { w with
    registry := (between w.registry w.outside).1
    outside := (between w.registry w.outside).2 }

namespace DomainPump

/-- The pump after `ev_domain_pump_init`. -/
def init (domain : ExecutionDomain) : DomainPump := { domain := domain }

def pending (domain : ExecutionDomain) (registry : ActorRegistry P) : Nat :=
  ((List.range actorCount).map fun index =>
    if actorMatches (.ofIndex index) domain then registry.pending (.ofIndex index) else 0).sum

/-- `ev_domain_pump_domain_default_budget`. -/
def defaultBudget (domain : ExecutionDomain) : Nat :=
  ((List.range actorCount).map fun index => match actorMeta (.ofIndex index) with
    | some info => if info.executionDomain = domain then info.drainBudget else 0
    | none => 0).sum

def recordPendingHighWatermark (pump : DomainPump) (pending : Nat) : DomainPump :=
  { pump with
    stats := { pump.stats with
      pendingHighWatermark := max pump.stats.pendingHighWatermark pending } }

def recordCallMaxima (pump : DomainPump) (report : DomainPumpReport) : DomainPump :=
  { pump with
    stats := { pump.stats with
      maxActorsExaminedPerCall := max pump.stats.maxActorsExaminedPerCall report.actorsExamined
      maxActorsPumpedPerCall := max pump.stats.maxActorsPumpedPerCall report.actorsPumped
      maxMessagesPerCall := max pump.stats.maxMessagesPerCall report.processed } }

/-- The variables of `ev_domain_pump_run` that its loops change. -/
structure Call (P ω : Type) where
  pump : DomainPump
  report : DomainPumpReport
  world : World P ω

namespace Call

/-- `continue` without a visit. -/
def passed (s : Call P ω) (index : Nat) : Call P ω :=
  { s with world := s.world.note (.passedActor s.pump.domain index) }

def examined (s : Call P ω) : Call P ω :=
  { s with report := { s.report with actorsExamined := s.report.actorsExamined + 1 } }

/-- The actor pump of a visit, with the cursor moved behind the actor. -/
def visit (prog : Program P ω) (s : Call P ω) (index : Nat) (runtime : ActorRuntime P)
    (budget : Nat) : Result × ActorPumpReport × Call P ω :=
  let out := actorPump prog (.ofIndex index) budget
    (s.world.note (.visitedActor s.pump.domain index))
  (out.1, out.2.1,
    { pump := { s.pump with
        nextActorIndex := advance actorCount index
        stats := { s.pump.stats with lastActor := runtime.actorId } }
      report := { s.report with lastActor := runtime.actorId }
      world := out.2.2 })

def counted (s : Call P ω) (processed : Nat) : Call P ω :=
  { s with report := { s.report with
      processed := s.report.processed + processed
      actorsPumped := s.report.actorsPumped + 1 } }

/-- Every `return` after the counting of the call: the report is filled, the maxima of
the stats follow it. -/
def leave (s : Call P ω) (report : DomainPumpReport) (stats : DomainPumpStats) : Call P ω :=
  { s with report := report, pump := recordCallMaxima { s.pump with stats := stats } report }

/-- The `return` of a visit that failed. -/
def failed (s : Call P ω) (rc : Result) : Call P ω :=
  s.leave
    { s.report with
      pendingAfter := DomainPump.pending s.pump.domain s.world.registry, stopResult := rc }
    { s.pump.stats with lastProcessed := s.report.processed, lastResult := rc }

/-- The `return` for an actor without a drain budget. -/
def contractBroken (s : Call P ω) (runtime : ActorRuntime P) : Call P ω :=
  s.leave
    { s.report with
      lastActor := runtime.actorId
      pendingAfter := DomainPump.pending s.pump.domain s.world.registry
      stopResult := .errContract }
    { s.pump.stats with lastActor := runtime.actorId, lastResult := .errContract }

def wrapped (s : Call P ω) : Call P ω :=
  { s with pump := { s.pump with nextActorIndex := inRange actorCount s.pump.nextActorIndex } }

/-- The `return` of a call that found nothing queued. -/
def empty (s : Call P ω) : Call P ω :=
  s.leave { s.report with stopResult := .errEmpty }
    { s.pump.stats with
      pumpEmptyCalls := s.pump.stats.pumpEmptyCalls + 1, lastResult := .errEmpty }

@[simp] theorem leave_world (s : Call P ω) (report : DomainPumpReport) (stats : DomainPumpStats) :
    (s.leave report stats).world = s.world := rfl

@[simp] theorem leave_report (s : Call P ω) (report : DomainPumpReport) (stats : DomainPumpStats) :
    (s.leave report stats).report = report := rfl

@[simp] theorem leave_domain (s : Call P ω) (report : DomainPumpReport) (stats : DomainPumpStats) :
    (s.leave report stats).pump.domain = s.pump.domain := rfl

@[simp] theorem failed_processed (s : Call P ω) (rc : Result) :
    (s.failed rc).report.processed = s.report.processed := by
  simp only [failed, leave_report]

@[simp] theorem contractBroken_processed (s : Call P ω) (runtime : ActorRuntime P) :
    (s.contractBroken runtime).report.processed = s.report.processed := by
  simp only [contractBroken, leave_report]

@[simp] theorem leave_nextActorIndex (s : Call P ω) (report : DomainPumpReport)
    (stats : DomainPumpStats) :
    (s.leave report stats).pump.nextActorIndex = s.pump.nextActorIndex := rfl

end Call

def turn (prog : Program P ω) (index remaining : Nat) (s : Call P ω) : Turn (Call P ω) Result :=
  if !actorMatches (.ofIndex index) s.pump.domain then .pass (s.passed index)
  else
    let s := s.examined
    match s.world.registry.slots (.ofIndex index) with
    | none => .pass (s.passed index)
    | some runtime =>
      if runtime.pending = 0 then .pass (s.passed index)
      else if runtime.defaultBudget = 0 then .abort (s.contractBroken runtime) .errContract
      else
        let out := s.visit prog index runtime (min runtime.defaultBudget remaining)
        if out.1 = .errEmpty then .idle out.2.2
        else if out.1 ≠ .ok then
          .abort ((out.2.2.counted out.2.1.processed).failed out.1) out.1
        else .progress (out.2.2.counted out.2.1.processed) out.2.1.processed

/-- The loops of `ev_domain_pump_run`, with fuel for the outer one. -/
def loops (prog : Program P ω) (fuel remaining : Nat) (s : Call P ω) : Outcome (Call P ω) Result :=
  rounds actorCount (turn prog) (fun s => s.pump.nextActorIndex) fuel remaining false s

def finish (remaining : Nat) (made : Bool) (s : Call P ω) : Result × Call P ω :=
  let pendingAfter := pending s.pump.domain s.world.registry
  let report := { s.report with pendingAfter := pendingAfter }
  let stats := { s.pump.stats with lastProcessed := s.report.processed }
  if !made then
    (.errState, s.leave { report with stopResult := .errState } { stats with lastResult := .errState })
  else if remaining = 0 ∧ 0 < pendingAfter then
    (.ok, s.leave { report with exhaustedBudget := true, stopResult := .ok }
      { stats with pumpBudgetHits := stats.pumpBudgetHits + 1, lastResult := .ok })
  else (.ok, s.leave { report with stopResult := .errEmpty } { stats with lastResult := .ok })

/-- The call up to the check for queued messages: counted and measured. -/
def enter (pump : DomainPump) (budget : Nat) (w : World P ω) : Call P ω :=
  let pendingBefore := pending pump.domain w.registry
  { pump := recordPendingHighWatermark { pump with
      stats := { pump.stats with
        pumpCalls := pump.stats.pumpCalls + 1, lastBudget := budget, lastProcessed := 0 } }
      pendingBefore
    report := { budget := budget, pendingBefore := pendingBefore }
    world := w }

def Call.result (rc : Result) (s : Call P ω) : Result × DomainPumpReport × DomainPump × World P ω :=
  (rc, s.report, s.pump, s.world)

/-- `ev_domain_pump_run` with fuel for its outer loop. -/
def runFuel (prog : Program P ω) (fuel : Nat) (pump : DomainPump) (budget : Nat) (w : World P ω) :
    Result × DomainPumpReport × DomainPump × World P ω :=
  if budget = 0 then (.errInvalidArg, {}, pump, w)
  else
    let s := enter pump budget w
    if s.report.pendingBefore = 0 then s.empty.result .errEmpty
    else match loops prog fuel budget s.wrapped with
      | .aborted s rc => s.result rc
      | .ended remaining made s => (finish remaining made s).2.result (finish remaining made s).1

/-- Every repeated pass of the outer loop uses some of the budget: the budget is fuel
enough, and more fuel changes nothing (`runFuel_eq`). -/
def run (prog : Program P ω) (pump : DomainPump) (budget : Nat) (w : World P ω) :
    Result × DomainPumpReport × DomainPump × World P ω :=
  runFuel prog budget pump budget w

def runCalls (prog : Program P ω) :
    List (PumpCall P ω) → DomainPump → World P ω → DomainPump × World P ω
  | [], pump, w => (pump, w)
  | call :: calls, pump, w =>
    let out := pump.run prog call.budget (w.changed call.between)
    runCalls prog calls out.2.2.1 out.2.2.2

theorem finish_cases (remaining : Nat) (made : Bool) (s : Call P ω) :
    (finish remaining made s).2.world = s.world ∧
      (finish remaining made s).2.report.processed = s.report.processed ∧
      (finish remaining made s).2.pump.domain = s.pump.domain ∧
      (finish remaining made s).2.pump.nextActorIndex = s.pump.nextActorIndex ∧
      (finish remaining made s).1 = if made then .ok else .errState := by
  cases made with
  | false => simp [finish]
  | true =>
    by_cases hmore : remaining = 0 ∧ 0 < pending s.pump.domain s.world.registry
    · simp [finish, hmore]
    · simp [finish, hmore]

/-- What an iteration does: pass over, break the contract, or visit. -/
theorem turn_cases (prog : Program P ω) (index remaining : Nat) (s : Call P ω) :
    (∃ t, (t = s ∨ t = s.examined) ∧ turn prog index remaining s = .pass (t.passed index) ∧
      (actorMatches (.ofIndex index) s.pump.domain = false ∨
        s.world.registry.pending (.ofIndex index) = 0)) ∨
    (∃ runtime, s.world.registry.slots (.ofIndex index) = some runtime ∧
      actorMatches (.ofIndex index) s.pump.domain = true ∧ runtime.defaultBudget = 0 ∧
      turn prog index remaining s = .abort (s.examined.contractBroken runtime) .errContract) ∨
    ∃ runtime rc report t, s.world.registry.slots (.ofIndex index) = some runtime ∧
      actorMatches (.ofIndex index) s.pump.domain = true ∧
      s.world.registry.pending (.ofIndex index) ≠ 0 ∧ runtime.defaultBudget ≠ 0 ∧
      s.examined.visit prog index runtime (min runtime.defaultBudget remaining) =
        (rc, report, t) ∧
      ((rc = .errEmpty ∧ turn prog index remaining s = .idle t) ∨
        (rc ≠ .errEmpty ∧ rc ≠ .ok ∧ turn prog index remaining s =
          .abort ((t.counted report.processed).failed rc) rc) ∨
        (rc = .ok ∧ turn prog index remaining s =
          .progress (t.counted report.processed) report.processed)) := by
  cases hmatch : actorMatches (.ofIndex index) s.pump.domain with
  | false => exact Or.inl ⟨s, Or.inl rfl, by simp [turn, hmatch], Or.inl rfl⟩
  | true =>
    cases hslot : s.world.registry.slots (.ofIndex index) with
    | none =>
      have hnone : s.examined.world.registry.slots (.ofIndex index) = none := hslot
      refine Or.inl ⟨s.examined, Or.inr rfl, ?_, Or.inr ?_⟩
      · simp [turn, hmatch, hnone]
      · simp [ActorRegistry.pending, hslot]
    | some runtime =>
      have hsome : s.examined.world.registry.slots (.ofIndex index) = some runtime := hslot
      have hpending : s.world.registry.pending (.ofIndex index) = runtime.pending := by
        simp [ActorRegistry.pending, hslot]
      by_cases hempty : runtime.pending = 0
      · exact Or.inl ⟨s.examined, Or.inr rfl, by simp [turn, hmatch, hsome, hempty],
          Or.inr (hpending.trans hempty)⟩
      · by_cases hbudget : runtime.defaultBudget = 0
        · exact Or.inr (Or.inl ⟨runtime, rfl, rfl, hbudget,
            by simp [turn, hmatch, hsome, hempty, hbudget]⟩)
        · generalize hvisit : s.examined.visit prog index runtime
            (min runtime.defaultBudget remaining) = out
          obtain ⟨rc, report, t⟩ := out
          refine Or.inr (Or.inr ⟨runtime, rc, report, t, rfl, rfl, by rwa [hpending], hbudget,
            hvisit, ?_⟩)
          simp only [turn, hmatch, hsome, hempty, hbudget, hvisit, Bool.not_true, if_false,
            Bool.false_eq_true]
          by_cases hidle : rc = .errEmpty
          · exact Or.inl ⟨hidle, by simp [hidle]⟩
          · by_cases hok : rc = .ok
            · exact Or.inr (Or.inr ⟨hok, by simp [hok]⟩)
            · exact Or.inr (Or.inl ⟨hidle, hok, by simp [hidle, hok]⟩)

theorem runFuel_cases (prog : Program P ω) (fuel : Nat) (pump : DomainPump) (budget : Nat)
    (w : World P ω) :
    (budget = 0 ∧ runFuel prog fuel pump budget w = (.errInvalidArg, {}, pump, w)) ∨
    (budget ≠ 0 ∧ pending pump.domain w.registry = 0 ∧
      runFuel prog fuel pump budget w = (enter pump budget w).empty.result .errEmpty) ∨
    (budget ≠ 0 ∧ pending pump.domain w.registry ≠ 0 ∧
      ((∃ s rc, loops prog fuel budget (enter pump budget w).wrapped = .aborted s rc ∧
        runFuel prog fuel pump budget w = s.result rc) ∨
      ∃ remaining made s, loops prog fuel budget (enter pump budget w).wrapped = .ended remaining made s ∧
        runFuel prog fuel pump budget w =
          (finish remaining made s).2.result (finish remaining made s).1)) := by
  have hpending : (enter pump budget w).report.pendingBefore = pending pump.domain w.registry := rfl
  by_cases hbudget : budget = 0
  · exact Or.inl ⟨hbudget, by simp only [runFuel, hbudget, if_true]⟩
  · by_cases hempty : pending pump.domain w.registry = 0
    · exact Or.inr (Or.inl ⟨hbudget, hempty,
        by simp only [runFuel, hbudget, hpending, hempty, if_false, if_true]⟩)
    · refine Or.inr (Or.inr ⟨hbudget, hempty, ?_⟩)
      simp only [runFuel, hbudget, hpending, hempty, if_false]
      cases hloops : loops prog fuel budget (enter pump budget w).wrapped with
      | aborted s rc => exact Or.inl ⟨s, rc, rfl, rfl⟩
      | ended remaining made s => exact Or.inr ⟨remaining, made, s, rfl, rfl⟩

theorem run_domain (prog : Program P ω) (pump : DomainPump) (budget : Nat) (w : World P ω) :
    (pump.run prog budget w).2.2.1.domain = pump.domain := by
  have hturn : ∀ i r (s : Call P ω), (turn prog i r s).Leads (fun t => t.pump.domain = s.pump.domain)
      (fun t => t.pump.domain = s.pump.domain) := by
    intro i r s
    rcases turn_cases prog i r s with
      ⟨t, ht, heq, _⟩ | ⟨runtime, _, _, _, heq⟩ | ⟨runtime, rc, report, t, _, _, _, _, hvisit, heq⟩
    · rw [heq]
      rcases ht with rfl | rfl <;> rfl
    · rw [heq]
      rfl
    · have hsame : t.pump.domain = s.pump.domain := by
        have hthird := congrArg (fun out => out.2.2.pump.domain) hvisit
        exact hthird.symm
      rcases heq with ⟨_, heq⟩ | ⟨_, _, heq⟩ | ⟨_, heq⟩ <;> rw [heq] <;> exact hsame
  have hloops := rounds_relation actorCount (turn prog) (fun s => s.pump.nextActorIndex)
    (fun s t : Call P ω => t.pump.domain = s.pump.domain) (fun _ => rfl)
    (fun hst htu => htu.trans hst) hturn budget budget false (enter pump budget w).wrapped
  change (loops prog budget budget _).Satisfies _ _ at hloops
  unfold run
  rcases runFuel_cases prog budget pump budget w with
    ⟨_, heq⟩ | ⟨_, _, heq⟩ | ⟨_, _, ⟨s, rc, hout, heq⟩ | ⟨remaining, made, s, hout, heq⟩⟩
  · rw [heq]
  · rw [heq]
    rfl
  · rw [hout] at hloops
    rw [heq]
    exact hloops
  · rw [hout] at hloops
    obtain ⟨_, hend⟩ := hloops
    rw [heq]
    exact (finish_cases remaining made s).2.2.1.trans hend

end DomainPump

end EventFramework
