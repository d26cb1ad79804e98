import EventFramework.Core.DomainPump

/-!
# The system pump

`ev_system_pump.c`: round-robin turns over the domain pumps bound to the system, each
with the default budget of its domain.
-/

namespace EventFramework
set_option autoImplicit false

open RoundRobin

variable {P ω : Type}

/-- `lastDomain = none` is `EV_DOMAIN_COUNT`. -/
structure SystemPumpStats where
  runCalls : UInt32 := 0
  emptyCalls : UInt32 := 0
  budgetHits : UInt32 := 0
  domainsPumped : UInt32 := 0
  turnsProcessed : Nat := 0
  messagesProcessed : Nat := 0
  lastTurnBudget : Nat := 0
  lastTurnsProcessed : Nat := 0
  pendingHighWatermark : Nat := 0
  maxDomainsExaminedPerCall : Nat := 0
  maxDomainsPumpedPerCall : Nat := 0
  maxTurnsPerCall : Nat := 0
  maxMessagesPerCall : Nat := 0
  lastDomain : Option ExecutionDomain := none
  lastResult : Result := .ok
  deriving DecidableEq, Repr

/-- A domain pump is only ever stored in the slot of its own domain. -/
structure SystemPump where
  slots : ExecutionDomain → Option DomainPump
  nextDomainIndex : Nat
  stats : SystemPumpStats
  slot_domain : ∀ domain pump, slots domain = some pump → pump.domain = domain

structure SystemPumpReport where
  turnBudget : Nat := 0
  turnsProcessed : Nat := 0
  domainsExamined : Nat := 0
  domainsPumped : Nat := 0
  messagesProcessed : Nat := 0
  pendingBefore : Nat := 0
  pendingAfter : Nat := 0
  exhaustedTurnBudget : Bool := false
  lastDomain : Option ExecutionDomain := none
  stopResult : Result := .ok
  deriving DecidableEq, Repr

namespace SystemPump

/-- The pump after `ev_system_pump_init`. -/
def init : SystemPump where
  slots := fun _ => none
  nextDomainIndex := 0
  stats := {}
  slot_domain := by simp

def setDomain (pump : SystemPump) (domainPump : DomainPump) : SystemPump where
  slots := Function.update pump.slots domainPump.domain (some domainPump)
  nextDomainIndex := pump.nextDomainIndex
  stats := pump.stats
  slot_domain := by
    intro domain other hslot
    by_cases he : domain = domainPump.domain
    · subst he
      rw [Function.update_self] at hslot
      exact Option.some.inj hslot ▸ rfl
    · rw [Function.update_of_ne he] at hslot
      exact pump.slot_domain domain other hslot

def bind (pump : SystemPump) (domainPump : DomainPump) : Result × SystemPump :=
  if (pump.slots domainPump.domain).isSome then (.errState, pump)
  else (.ok, pump.setDomain domainPump)

def bindAll (pump : SystemPump) (pumps : List DomainPump) : SystemPump :=
  pumps.foldl (fun pump domainPump => (pump.bind domainPump).2) pump

def boundCount (pump : SystemPump) : Nat :=
  (domainCatalog.filter fun domain => (pump.slots domain).isSome).length

def pending (pump : SystemPump) (registry : ActorRegistry P) : Nat :=
  ((List.range domainCount).map fun index =>
    match pump.slots (.ofIndex index) with
    | none => 0
    | some domainPump => DomainPump.pending domainPump.domain registry).sum

def updateStats (pump : SystemPump) (f : SystemPumpStats → SystemPumpStats) : SystemPump :=
  { pump with stats := f pump.stats }

def recordPendingHighWatermark (pump : SystemPump) (pending : Nat) : SystemPump :=
  pump.updateStats fun s => { s with pendingHighWatermark := max s.pendingHighWatermark pending }

def recordCallMaxima (pump : SystemPump) (report : SystemPumpReport) : SystemPump :=
  pump.updateStats fun s =>
    { s with
      maxDomainsExaminedPerCall := max s.maxDomainsExaminedPerCall report.domainsExamined
      maxDomainsPumpedPerCall := max s.maxDomainsPumpedPerCall report.domainsPumped
      maxTurnsPerCall := max s.maxTurnsPerCall report.turnsProcessed
      maxMessagesPerCall := max s.maxMessagesPerCall report.messagesProcessed }

/-- The variables of `ev_system_pump_run` that its loops change. -/
structure Call (P ω : Type) where
  pump : SystemPump
  report : SystemPumpReport
  world : World P ω

namespace Call

def passed (s : Call P ω) (index : Nat) : Call P ω :=
  { s with world := s.world.note (.passedDomain index) }

def examined (s : Call P ω) : Call P ω :=
  { s with report := { s.report with domainsExamined := s.report.domainsExamined + 1 } }

/-- The domain pump run of a turn, with the cursor moved behind the domain. -/
def visit (prog : Program P ω) (s : Call P ω) (index : Nat) (domainPump : DomainPump) (budget : Nat) :
    Result × DomainPumpReport × Call P ω :=
  let out := domainPump.run prog budget (s.world.note (.visitedDomain index))
  (out.1, out.2.1,
    { pump := ({ s.pump.setDomain out.2.2.1 with
        nextDomainIndex := advance domainCount index }).updateStats fun stats =>
          { stats with lastDomain := some domainPump.domain }
      report := { s.report with lastDomain := some domainPump.domain }
      world := out.2.2.2.note (.returnedDomain index out.1) })

def counted (s : Call P ω) (messages : Nat) : Call P ω :=
  { s with
    report := { s.report with
      domainsPumped := s.report.domainsPumped + 1
      messagesProcessed := s.report.messagesProcessed + messages
      turnsProcessed := s.report.turnsProcessed + 1 }
    pump := s.pump.updateStats fun stats =>
      { stats with
        domainsPumped := stats.domainsPumped + 1
        messagesProcessed := stats.messagesProcessed + messages } }

/-- Every `return` after the counting of the call. -/
def leave (s : Call P ω) (report : SystemPumpReport) (f : SystemPumpStats → SystemPumpStats) :
    Call P ω :=
  { s with report := report, pump := recordCallMaxima (s.pump.updateStats f) report }

/-- The `return` of a turn that failed: one turn is added to the stats. -/
def failed (s : Call P ω) (messages : Nat) (rc : Result) : Call P ω :=
  s.leave
    { s.report with
      domainsPumped := s.report.domainsPumped + 1
      messagesProcessed := s.report.messagesProcessed + messages
      turnsProcessed := s.report.turnsProcessed + 1
      pendingAfter := s.pump.pending s.world.registry
      stopResult := rc }
    fun stats =>
      { stats with
        domainsPumped := stats.domainsPumped + 1
        turnsProcessed := stats.turnsProcessed + 1
        messagesProcessed := stats.messagesProcessed + messages
        lastTurnsProcessed := s.report.turnsProcessed + 1
        lastResult := rc }

/-- The `return` for a domain without a budget. -/
def contractBroken (s : Call P ω) (domain : ExecutionDomain) : Call P ω :=
  s.leave
    { s.report with
      lastDomain := some domain
      pendingAfter := s.pump.pending s.world.registry
      stopResult := .errContract }
    fun stats => { stats with lastDomain := some domain, lastResult := .errContract }

def wrapped (s : Call P ω) : Call P ω :=
  { s with pump := { s.pump with nextDomainIndex := inRange domainCount s.pump.nextDomainIndex } }

/-- The `return` of a call that found nothing queued. -/
def empty (s : Call P ω) : Call P ω :=
  s.leave { s.report with stopResult := .errEmpty }
    fun stats => { stats with emptyCalls := stats.emptyCalls + 1, lastResult := .errEmpty }

def result (rc : Result) (s : Call P ω) : Result × SystemPumpReport × SystemPump × World P ω :=
  (rc, s.report, s.pump, s.world)

section Leave

variable (s : Call P ω) (report : SystemPumpReport) (f : SystemPumpStats → SystemPumpStats)

@[simp] theorem leave_world : (s.leave report f).world = s.world := rfl
@[simp] theorem leave_report : (s.leave report f).report = report := rfl
@[simp] theorem leave_slots : (s.leave report f).pump.slots = s.pump.slots := rfl

@[simp] theorem leave_nextDomainIndex :
    (s.leave report f).pump.nextDomainIndex = s.pump.nextDomainIndex := rfl

@[simp] theorem leave_turnsProcessed :
    (s.leave report f).pump.stats.turnsProcessed = (f s.pump.stats).turnsProcessed := rfl

@[simp] theorem leave_domainsPumped :
    (s.leave report f).pump.stats.domainsPumped = (f s.pump.stats).domainsPumped := rfl

@[simp] theorem leave_messagesProcessed :
    (s.leave report f).pump.stats.messagesProcessed = (f s.pump.stats).messagesProcessed := rfl

end Leave

end Call

def turn (prog : Program P ω) (index _remaining : Nat) (s : Call P ω) : Turn (Call P ω) Result :=
  match s.pump.slots (.ofIndex index) with
  | none => .pass (s.passed index)
  | some domainPump =>
    let s := s.examined
    if DomainPump.pending domainPump.domain s.world.registry = 0 then .pass (s.passed index)
    else if DomainPump.defaultBudget domainPump.domain = 0 then
      .abort (s.contractBroken domainPump.domain) .errContract
    else
      let out := s.visit prog index domainPump (DomainPump.defaultBudget domainPump.domain)
      if out.1 = .errEmpty then .idle out.2.2
      else if out.1 ≠ .ok then .abort (out.2.2.failed out.2.1.processed out.1) out.1
      else .progress (out.2.2.counted out.2.1.processed) 1

def loops (prog : Program P ω) (fuel remaining : Nat) (s : Call P ω) : Outcome (Call P ω) Result :=
  rounds domainCount (turn prog) (fun s => s.pump.nextDomainIndex) fuel remaining false s

def finish (remaining : Nat) (made : Bool) (s : Call P ω) : Result × Call P ω :=
  let pendingAfter := s.pump.pending s.world.registry
  let report := { s.report with pendingAfter := pendingAfter }
  let counted := fun stats : SystemPumpStats =>
    { stats with
      turnsProcessed := stats.turnsProcessed + s.report.turnsProcessed
      lastTurnsProcessed := s.report.turnsProcessed }
  if !made then
    (.errState, s.leave { report with stopResult := .errState } fun stats =>
      { counted stats with lastResult := .errState })
  else if remaining = 0 ∧ 0 < pendingAfter then
    (.ok, s.leave { report with exhaustedTurnBudget := true, stopResult := .ok } fun stats =>
      { counted stats with budgetHits := (counted stats).budgetHits + 1, lastResult := .ok })
  else
    (.ok, s.leave { report with stopResult := .errEmpty } fun stats =>
      { counted stats with lastResult := .ok })

/-- The call up to the check for queued messages. -/
def enter (pump : SystemPump) (turnBudget : Nat) (w : World P ω) : Call P ω :=
  let pendingBefore := pump.pending w.registry
  { pump := recordPendingHighWatermark (pump.updateStats fun stats =>
      { stats with
        runCalls := stats.runCalls + 1, lastTurnBudget := turnBudget, lastTurnsProcessed := 0 })
      pendingBefore
    report := { turnBudget := turnBudget, pendingBefore := pendingBefore }
    world := w }

/-- `ev_system_pump_run` with fuel for its outer loop. -/
def runFuel (prog : Program P ω) (fuel : Nat) (pump : SystemPump) (turnBudget : Nat)
    (w : World P ω) : Result × SystemPumpReport × SystemPump × World P ω :=
  if turnBudget = 0 then (.errInvalidArg, {}, pump, w)
  else if pump.boundCount = 0 then (.errState, {}, pump, w)
  else
    let s := enter pump turnBudget w
    if s.report.pendingBefore = 0 then s.empty.result .errEmpty
    else match loops prog fuel turnBudget s.wrapped with
      | .aborted s rc => s.result rc
      | .ended remaining made s => (finish remaining made s).2.result (finish remaining made s).1

/-- The turn budget is fuel enough (`runFuel_eq`). -/
def run (prog : Program P ω) (pump : SystemPump) (turnBudget : Nat) (w : World P ω) :
    Result × SystemPumpReport × SystemPump × World P ω :=
  runFuel prog turnBudget pump turnBudget w

def runCalls (prog : Program P ω) :
    List (PumpCall P ω) → SystemPump → World P ω → SystemPump × World P ω
  | [], pump, w => (pump, w)
  | call :: calls, pump, w =>
    let out := pump.run prog call.budget (w.changed call.between)
    runCalls prog calls out.2.2.1 out.2.2.2

theorem finish_cases (remaining : Nat) (made : Bool) (s : Call P ω) :
    (finish remaining made s).2.world = s.world ∧
      (finish remaining made s).2.pump.slots = s.pump.slots ∧
      (finish remaining made s).2.pump.nextDomainIndex = s.pump.nextDomainIndex ∧
      (finish remaining made s).1 = if made then .ok else .errState := by
  cases made with
  | false => simp [finish]
  | true =>
    by_cases hmore : remaining = 0 ∧ 0 < s.pump.pending s.world.registry
    · simp [finish, hmore]
    · simp [finish, hmore]

theorem finish_counts (remaining : Nat) (made : Bool) (s : Call P ω) :
    (finish remaining made s).2.report.turnsProcessed = s.report.turnsProcessed ∧
      (finish remaining made s).2.report.messagesProcessed = s.report.messagesProcessed ∧
      (finish remaining made s).2.pump.stats.turnsProcessed =
        s.pump.stats.turnsProcessed + s.report.turnsProcessed ∧
      (finish remaining made s).2.pump.stats.domainsPumped = s.pump.stats.domainsPumped ∧
      (finish remaining made s).2.pump.stats.messagesProcessed =
        s.pump.stats.messagesProcessed := by
  cases made with
  | false => simp [finish]
  | true =>
    by_cases hmore : remaining = 0 ∧ 0 < s.pump.pending s.world.registry
    · simp [finish, hmore]
    · simp [finish, hmore]

theorem enter_counts (pump : SystemPump) (turnBudget : Nat) (w : World P ω) :
    (enter pump turnBudget w).wrapped.report.turnsProcessed = 0 ∧
      (enter pump turnBudget w).wrapped.report.messagesProcessed = 0 ∧
      (enter pump turnBudget w).wrapped.pump.stats.turnsProcessed = pump.stats.turnsProcessed ∧
      (enter pump turnBudget w).wrapped.pump.stats.domainsPumped = pump.stats.domainsPumped ∧
      (enter pump turnBudget w).wrapped.pump.stats.messagesProcessed =
        pump.stats.messagesProcessed :=
  ⟨rfl, rfl, rfl, rfl, rfl⟩

/-- What an iteration does: pass over, break the contract, or take a turn. -/
theorem turn_cases (prog : Program P ω) (index remaining : Nat) (s : Call P ω) :
    (∃ t, (t = s ∨ t = s.examined) ∧ turn prog index remaining s = .pass (t.passed index) ∧
      (s.pump.slots (.ofIndex index)).all fun domainPump =>
        DomainPump.pending domainPump.domain s.world.registry = 0) ∨
    (∃ domainPump, s.pump.slots (.ofIndex index) = some domainPump ∧
      DomainPump.pending domainPump.domain s.world.registry ≠ 0 ∧
      DomainPump.defaultBudget domainPump.domain = 0 ∧
      turn prog index remaining s =
        .abort (s.examined.contractBroken domainPump.domain) .errContract) ∨
    ∃ domainPump rc report t, s.pump.slots (.ofIndex index) = some domainPump ∧
      DomainPump.pending domainPump.domain s.world.registry ≠ 0 ∧
      s.examined.visit prog index domainPump (DomainPump.defaultBudget domainPump.domain) =
        (rc, report, t) ∧
      ((rc = .errEmpty ∧ turn prog index remaining s = .idle t) ∨
        (rc ≠ .errEmpty ∧ rc ≠ .ok ∧ turn prog index remaining s =
          .abort (t.failed report.processed rc) rc) ∨
        (rc = .ok ∧ turn prog index remaining s = .progress (t.counted report.processed) 1)) := by
  cases hslot : s.pump.slots (.ofIndex index) with
  | none => exact Or.inl ⟨s, Or.inl rfl, by simp [turn, hslot], by simp⟩
  | some domainPump =>
    have hworld : s.examined.world = s.world := rfl
    by_cases hempty : DomainPump.pending domainPump.domain s.world.registry = 0
    · exact Or.inl ⟨s.examined, Or.inr rfl, by simp [turn, hslot, hworld, hempty], by simp [hempty]⟩
    · by_cases hbudget : DomainPump.defaultBudget domainPump.domain = 0
      · exact Or.inr (Or.inl ⟨domainPump, rfl, hempty, hbudget,
          by simp [turn, hslot, hworld, hempty, hbudget]⟩)
      · generalize hvisit : s.examined.visit prog index domainPump
          (DomainPump.defaultBudget domainPump.domain) = out
        obtain ⟨rc, report, t⟩ := out
        refine Or.inr (Or.inr ⟨domainPump, rc, report, t, rfl, hempty, hvisit, ?_⟩)
        simp only [turn, hslot, hworld, hempty, hbudget, hvisit, if_false]
        by_cases hidle : rc = .errEmpty
        · exact Or.inl ⟨hidle, by simp [hidle]⟩
        · by_cases hok : rc = .ok
          · exact Or.inr (Or.inr ⟨hok, by simp [hok]⟩)
          · exact Or.inr (Or.inl ⟨hidle, hok, by simp [hidle, hok]⟩)

theorem runFuel_cases (prog : Program P ω) (fuel : Nat) (pump : SystemPump) (turnBudget : Nat)
    (w : World P ω) :
    (∃ rc, runFuel prog fuel pump turnBudget w = (rc, {}, pump, w)) ∨
    (turnBudget ≠ 0 ∧ pump.pending w.registry = 0 ∧
      runFuel prog fuel pump turnBudget w = (enter pump turnBudget w).empty.result .errEmpty) ∨
    (turnBudget ≠ 0 ∧ pump.pending w.registry ≠ 0 ∧
      ((∃ s rc, loops prog fuel turnBudget (enter pump turnBudget w).wrapped = .aborted s rc ∧
        runFuel prog fuel pump turnBudget w = s.result rc) ∨
      ∃ remaining made s,
        loops prog fuel turnBudget (enter pump turnBudget w).wrapped = .ended remaining made s ∧
        runFuel prog fuel pump turnBudget w =
          (finish remaining made s).2.result (finish remaining made s).1)) := by
  have hpending : (enter pump turnBudget w).report.pendingBefore = pump.pending w.registry := rfl
  by_cases hbudget : turnBudget = 0
  · exact Or.inl ⟨.errInvalidArg, by simp only [runFuel, hbudget, if_true]⟩
  · by_cases hbound : pump.boundCount = 0
    · exact Or.inl ⟨.errState, by simp only [runFuel, hbudget, hbound, if_false, if_true]⟩
    · by_cases hempty : pump.pending w.registry = 0
      · exact Or.inr (Or.inl ⟨hbudget, hempty,
          by simp only [runFuel, hbudget, hbound, hpending, hempty, if_false, if_true]⟩)
      · refine Or.inr (Or.inr ⟨hbudget, hempty, ?_⟩)
        simp only [runFuel, hbudget, hbound, hpending, hempty, if_false]
        cases hloops : loops prog fuel turnBudget (enter pump turnBudget w).wrapped with
        | aborted s rc => exact Or.inl ⟨s, rc, rfl, rfl⟩
        | ended remaining made s => exact Or.inr ⟨remaining, made, s, rfl, rfl⟩

theorem run_ne_empty (prog : Program P ω) (pump : SystemPump) (turnBudget : Nat) (w : World P ω)
    (hpending : pump.pending w.registry ≠ 0) : (pump.run prog turnBudget w).1 ≠ .errEmpty := by
  have hinv : Invariant domainCount (turn prog) (fun s => s.pump.nextDomainIndex)
      (fun _ _ _ _ => True) (fun _ rc => rc ≠ .errEmpty) := by
    refine ⟨fun _ _ _ => trivial, fun _ _ _ => trivial, fun _ _ _ => trivial, ?_, fun _ => trivial⟩
    intro i r made s s' rc _ _ hturn
    rcases turn_cases prog i r s with
      ⟨_, _, heq, _⟩ | ⟨_, _, _, _, heq⟩ |
        ⟨_, rc', _, _, _, _, _, ⟨_, heq⟩ | ⟨hrc, _, heq⟩ | ⟨_, heq⟩⟩ <;>
      rw [heq] at hturn <;> cases hturn
    · decide
    · exact hrc
  have hloops := hinv.rounds turnBudget 0 turnBudget false
    (s := (enter pump turnBudget w).wrapped) trivial
  change (loops prog turnBudget turnBudget _).Satisfies _ _ at hloops
  have hentered : (enter pump turnBudget w).report.pendingBefore ≠ 0 := hpending
  unfold run runFuel
  split
  · exact Result.noConfusion
  · split
    · exact Result.noConfusion
    · simp only
      rw [if_neg hentered]
      split
      · rename_i s rc hout
        rw [hout] at hloops
        exact hloops
      · rename_i remaining made s hout
        change (finish remaining made s).1 ≠ .errEmpty
        rw [(finish_cases remaining made s).2.2.2]
        split <;> decide

theorem bind_cursor (pump : SystemPump) (domainPump : DomainPump) :
    (pump.bind domainPump).2.nextDomainIndex = pump.nextDomainIndex := by
  unfold bind
  split <;> rfl

theorem bindAll_stats (pumps : List DomainPump) : ∀ pump : SystemPump,
    (pump.bindAll pumps).stats = pump.stats := by
  induction pumps with
  | nil => exact fun _ => rfl
  | cons domainPump pumps ih =>
    intro pump
    have hbind : (pump.bind domainPump).2.stats = pump.stats := by
      unfold bind
      split <;> rfl
    exact (ih _).trans hbind

theorem bind_bound (pump : SystemPump) (domainPump : DomainPump) :
    ((pump.bind domainPump).2.slots domainPump.domain).isSome = true ∧
      ∀ domain, (pump.slots domain).isSome = true →
        ((pump.bind domainPump).2.slots domain).isSome = true := by
  unfold bind
  split
  · rename_i hbound
    exact ⟨hbound, fun _ h => h⟩
  · refine ⟨by simp [setDomain], ?_⟩
    intro domain h
    by_cases he : domain = domainPump.domain
    · simp [setDomain, he]
    · simpa [setDomain, he] using h

theorem bindAll_cursor (pumps : List DomainPump) : ∀ pump : SystemPump,
    (pump.bindAll pumps).nextDomainIndex = pump.nextDomainIndex := by
  induction pumps with
  | nil => exact fun _ => rfl
  | cons domainPump pumps ih =>
    intro pump
    exact (ih _).trans (bind_cursor pump domainPump)

theorem bindAll_keeps (pumps : List DomainPump) (domain : ExecutionDomain) : ∀ pump : SystemPump,
    (pump.slots domain).isSome = true → ((pump.bindAll pumps).slots domain).isSome = true := by
  induction pumps with
  | nil => exact fun _ h => h
  | cons domainPump pumps ih =>
    intro pump h
    exact ih _ ((bind_bound pump domainPump).2 domain h)

theorem bindAll_bound {pumps : List DomainPump} {domainPump : DomainPump} :
    ∀ pump : SystemPump, domainPump ∈ pumps →
      ((pump.bindAll pumps).slots domainPump.domain).isSome = true := by
  induction pumps with
  | nil => simp
  | cons first pumps ih =>
    intro pump h
    rcases List.mem_cons.mp h with rfl | h
    · exact bindAll_keeps pumps _ _ (bind_bound pump domainPump).1
    · exact ih _ h

end SystemPump

end EventFramework
