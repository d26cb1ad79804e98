import EventFramework.Core.SystemPump
import EventFramework.Library.FuelLoop
import EventFramework.Runtime.TimerService

/-!
# The runtime loop

`ev_runtime_loop.c` over `ev_runtime_scheduler.c`: ingress, scheduler and timers in one
bounded poll. The loops of the source run on fuel. The timers are part of the outside state
of the handlers, so a handler may schedule them; `ν` is what is outside the graph.
-/

namespace EventFramework
set_option autoImplicit false

open FuelLoop

variable {P ν : Type}

structure RuntimeScheduler where
  system : SystemPump
  activeDomainMask : UInt32
  pollCalls : UInt32
  partialReturns : UInt32

namespace RuntimeScheduler

def pollOnce {ω : Type} (prog : Program P ω) (scheduler : RuntimeScheduler) (turnBudget : Nat)
    (w : World P ω) : Result × SystemPumpReport × RuntimeScheduler × World P ω :=
  let out := scheduler.system.run prog turnBudget w
  let polled := { scheduler with system := out.2.2.1, pollCalls := scheduler.pollCalls + 1 }
  if out.2.1.exhaustedTurnBudget then
    (.errPartial, out.2.1, { polled with partialReturns := polled.partialReturns + 1 }, out.2.2.2)
  else (out.1, out.2.1, polled, out.2.2.2)

end RuntimeScheduler

structure RuntimeGraph (P ν : Type) where
  scheduler : RuntimeScheduler
  world : World P (TimerService × ν)

/-- The graph without its timers: what a publish callback of the timers acts on. -/
abbrev RuntimeRest (P ν : Type) := RuntimeScheduler × World P ν

namespace RuntimeGraph

def timers (graph : RuntimeGraph P ν) : TimerService := graph.world.outside.1

def rest (graph : RuntimeGraph P ν) : RuntimeRest P ν :=
  (graph.scheduler, ⟨graph.world.registry, graph.world.outside.2, graph.world.history⟩)

def ofParts (timers : TimerService) (rest : RuntimeRest P ν) : RuntimeGraph P ν where
  scheduler := rest.1
  world := ⟨rest.2.registry, (timers, rest.2.outside), rest.2.history⟩

/-- `ev_runtime_graph_scheduler_pending`. -/
def schedulerPending (graph : RuntimeGraph P ν) : Nat :=
  graph.scheduler.system.pending graph.world.registry

/-- `ev_runtime_graph_poll_scheduler_once`. -/
def pollSchedulerOnce (prog : Program P (TimerService × ν)) (graph : RuntimeGraph P ν)
    (turnBudget : Nat) : Result × SystemPumpReport × RuntimeGraph P ν :=
  let out := graph.scheduler.pollOnce prog turnBudget graph.world
  (out.1, out.2.1, ⟨out.2.2.1, out.2.2.2⟩)

/-- `ev_runtime_graph_publish_due_timers`. -/
def publishDueTimers (graph : RuntimeGraph P ν) (nowMs : UInt32)
    (deliver : Option (TimerPort P (RuntimeRest P ν))) (maxPublish : Nat) :
    List TimerIndex × RuntimeGraph P ν :=
  let out := graph.timers.publishDue nowMs (deliver.map TimerPort.callback) graph.rest maxPublish
  (out.published, ofParts out.service out.context)

/-- `ev_runtime_graph_timer_published_count`. -/
def timerPublishedCount (graph : RuntimeGraph P ν) : UInt32 := graph.timers.published

end RuntimeGraph

structure RuntimeLoopPolicy where
  maxPumpCalls : UInt32
  maxMessages : UInt32
  maxTurns : UInt32
  maxIrqSamples : UInt32
  maxNetSamples : UInt32
  timerPublishBudget : UInt32
  schedulerTurnBudget : UInt32
  skipTimersWhenSchedulerPending : Bool
  runSchedulerAfterTimers : Bool
  skipTimers : Bool
  deriving DecidableEq, Repr

/-- The sample counters are those of `collect_ingress` and do not wrap. -/
structure RuntimeLoopReport where
  pumpCalls : UInt32 := 0
  turns : UInt32 := 0
  messages : UInt32 := 0
  irqSamples : Nat := 0
  netSamples : Nat := 0
  timersPublished : UInt32 := 0
  pendingBefore : UInt32 := 0
  pendingAfter : UInt32 := 0
  elapsedMs : UInt32 := 0
  exhausted : Bool := false
  isPartial : Bool := false
  lastResult : Result := .ok
  deriving DecidableEq, Repr

/-- The callbacks of the loop. `collectIngress` returns what it adds to the two sample
counters; `nowMs` and `workPending` return what they leave in their out parameter, which
is zero before the call. -/
structure RuntimeLoopPorts (P ν : Type) where
  collectIngress : Option (RuntimeLoopPolicy → RuntimeLoopReport → RuntimeGraph P ν →
    Result × Nat × Nat × RuntimeGraph P ν)
  timerDelivery : Option (TimerPort P (RuntimeRest P ν))
  nowMs : ν → Result × UInt32 × ν
  workPending : Option (UInt32 → RuntimeLoopReport → RuntimeGraph P ν →
    Result × Bool × RuntimeGraph P ν)

/-- What a poll did so far; no function reads it. -/
inductive LoopEvent where
  | collected (rc : Result)
  | polled (rc : Result) (report : SystemPumpReport)
  | clockRead (rc : Result) (nowMs : UInt32)
  | timersPublished (nowMs : UInt32) (slots : List TimerIndex)
  deriving DecidableEq, Repr

/-- `extraPending` is the answer of `work_pending`. -/
structure LoopState (P ν : Type) where
  graph : RuntimeGraph P ν
  report : RuntimeLoopReport
  extraPending : Bool := false
  history : List LoopEvent := []

def RuntimeLoopPolicy.default : RuntimeLoopPolicy where
  maxPumpCalls := 10
  maxMessages := 32
  maxTurns := 10
  maxIrqSamples := 16
  maxNetSamples := 16
  timerPublishBudget := 1
  schedulerTurnBudget := 4
  skipTimersWhenSchedulerPending := true
  runSchedulerAfterTimers := true
  skipTimers := false

namespace RuntimeLoop

/-- `ev_runtime_loop_exhausted`. -/
def exhausted (policy : RuntimeLoopPolicy) (report : RuntimeLoopReport) : Bool :=
  decide (policy.maxPumpCalls ≤ report.pumpCalls) ||
  decide (policy.maxMessages ≤ report.messages) ||
  decide (policy.maxTurns ≤ report.turns) ||
  decide (policy.maxIrqSamples.toNat ≤ report.irqSamples) ||
  decide (policy.maxNetSamples.toNat ≤ report.netSamples)

def recordExhausted (policy : RuntimeLoopPolicy) (s : LoopState P ν) : LoopState P ν :=
  { s with report := { s.report with exhausted := exhausted policy s.report } }

def polled (s : LoopState P ν) (rc : Result) (report : SystemPumpReport)
    (graph : RuntimeGraph P ν) : LoopState P ν :=
  { s with
    graph := graph
    report := { s.report with
      pumpCalls := s.report.pumpCalls + 1
      turns := s.report.turns + UInt32.ofNat report.turnsProcessed
      messages := s.report.messages + UInt32.ofNat report.messagesProcessed }
    history := s.history ++ [.polled rc report] }

def drainBody (prog : Program P (TimerService × ν)) (policy : RuntimeLoopPolicy)
    (s : LoopState P ν) : Option (Step (LoopState P ν) (Result × LoopState P ν)) :=
  if 0 < s.graph.schedulerPending ∧ s.report.exhausted = false then
    if exhausted policy s.report then
      some (.done (.ok, { s with report := { s.report with exhausted := true } }))
    else
      let out := s.graph.pollSchedulerOnce prog policy.schedulerTurnBudget.toNat
      let t := polled s out.1 out.2.1 out.2.2
      if out.1 = .ok ∨ out.1 = .errPartial then some (.again (recordExhausted policy t))
      else if out.1 = .errEmpty then some (.done (.ok, t))
      else some (.done (out.1, { t with report := { t.report with lastResult := out.1 } }))
  else some (.done (.ok, s))

/-- `ev_runtime_loop_drain_scheduler`. -/
def drainScheduler (prog : Program P (TimerService × ν)) (policy : RuntimeLoopPolicy)
    (fuel : Nat) (s : LoopState P ν) : Option (Result × LoopState P ν) :=
  loop (drainBody prog policy) fuel s

/-- `ev_runtime_loop_collect`. -/
def collect (policy : RuntimeLoopPolicy) (ports : RuntimeLoopPorts P ν) (s : LoopState P ν) :
    Result × LoopState P ν :=
  match ports.collectIngress with
  | none => (.ok, s)
  | some port =>
    let out := port policy s.report s.graph
    (out.1,
      { s with
        graph := out.2.2.2
        report := { s.report with
          irqSamples := s.report.irqSamples + out.2.1
          netSamples := s.report.netSamples + out.2.2.1 }
        history := s.history ++ [.collected out.1] })

def ingressBody (prog : Program P (TimerService × ν)) (policy : RuntimeLoopPolicy)
    (ports : RuntimeLoopPorts P ν) (fuel : Nat) (s : LoopState P ν) :
    Option (Step (LoopState P ν) (Result × LoopState P ν)) :=
  let collected := collect policy ports s
  if collected.1 ≠ .ok then some (.done collected)
  else match drainScheduler prog policy fuel (recordExhausted policy collected.2) with
    | none => none
    | some (rc, t) =>
      if rc ≠ .ok then some (.done (rc, t))
      else if t.report.exhausted ∨ (t.report.irqSamples = s.report.irqSamples ∧
          t.report.netSamples = s.report.netSamples) then some (.done (.ok, t))
      else some (.again t)

def ingress (prog : Program P (TimerService × ν)) (policy : RuntimeLoopPolicy)
    (ports : RuntimeLoopPorts P ν) (fuel : Nat) (s : LoopState P ν) :
    Option (Result × LoopState P ν) :=
  loop (ingressBody prog policy ports fuel) fuel s

/-- The publications of one iteration of the timer loop, and the state after them. -/
def publishTimers (policy : RuntimeLoopPolicy) (ports : RuntimeLoopPorts P ν) (nowMs : UInt32)
    (s : LoopState P ν) : Nat × LoopState P ν :=
  if policy.skipTimers = false ∧
      (policy.skipTimersWhenSchedulerPending = false ∨ s.graph.schedulerPending = 0) then
    let out := s.graph.publishDueTimers nowMs ports.timerDelivery policy.timerPublishBudget.toNat
    (out.1.length,
      { s with
        graph := out.2
        report := { s.report with
          timersPublished := s.report.timersPublished + UInt32.ofNat out.1.length }
        history := s.history ++ [.timersPublished nowMs out.1] })
  else (0, s)

def drainAfterTimers (prog : Program P (TimerService × ν)) (policy : RuntimeLoopPolicy)
    (fuel : Nat) (s : LoopState P ν) : Option (Result × LoopState P ν) :=
  if policy.runSchedulerAfterTimers = true ∧ s.report.exhausted = false then
    drainScheduler prog policy fuel s
  else some (.ok, s)

def timerBody (prog : Program P (TimerService × ν)) (policy : RuntimeLoopPolicy)
    (ports : RuntimeLoopPorts P ν) (nowMs : UInt32) (fuel : Nat) (s : LoopState P ν) :
    Option (Step (LoopState P ν) (Result × LoopState P ν)) :=
  let published := publishTimers policy ports nowMs s
  match drainAfterTimers prog policy fuel (recordExhausted policy published.2) with
  | none => none
  | some (rc, t) =>
    if rc ≠ .ok then some (.done (rc, t))
    else if t.report.exhausted = true ∨ published.1 = 0 ∨
        t.graph.timerPublishedCount = s.graph.timerPublishedCount then some (.done (.ok, t))
    else some (.again t)

def publishLoop (prog : Program P (TimerService × ν)) (policy : RuntimeLoopPolicy)
    (ports : RuntimeLoopPorts P ν) (nowMs : UInt32) (fuel : Nat) (s : LoopState P ν) :
    Option (Result × LoopState P ν) :=
  loop (timerBody prog policy ports nowMs fuel) fuel s

/-- The clock read that starts the timer loop. -/
def readClock (ports : RuntimeLoopPorts P ν) (s : LoopState P ν) :
    Result × UInt32 × LoopState P ν :=
  let out := ports.nowMs s.graph.world.outside.2
  (out.1, out.2.1,
    { s with
      graph := RuntimeGraph.ofParts s.graph.timers
        (s.graph.rest.1, { s.graph.rest.2 with outside := out.2.2 })
      history := s.history ++ [.clockRead out.1 out.2.1] })

def timerPhase (prog : Program P (TimerService × ν)) (policy : RuntimeLoopPolicy)
    (ports : RuntimeLoopPorts P ν) (fuel : Nat) (s : LoopState P ν) :
    Option (Result × LoopState P ν) :=
  let clock := readClock ports s
  if clock.1 ≠ .ok then some (clock.1, clock.2.2)
  else publishLoop prog policy ports clock.2.1 fuel clock.2.2

/-- The poll from its first clock read to the label `finalize`. -/
def phases (prog : Program P (TimerService × ν)) (policy : RuntimeLoopPolicy)
    (ports : RuntimeLoopPorts P ν) (fuel : Nat) (s : LoopState P ν) :
    Option (Result × LoopState P ν) :=
  match ingress prog policy ports fuel s with
  | none => none
  | some (rc, t) =>
    if rc ≠ .ok ∨ t.report.exhausted = true then some (rc, t)
    else timerPhase prog policy ports fuel t

/-- The first clock read: `have_timing`, `start_ms` and the state of the ingress loop. -/
def start (ports : RuntimeLoopPorts P ν) (graph : RuntimeGraph P ν) :
    Bool × UInt32 × LoopState P ν :=
  let out := ports.nowMs graph.world.outside.2
  (out.1 == .ok, out.2.1,
    { graph := RuntimeGraph.ofParts graph.timers
        (graph.rest.1, { graph.rest.2 with outside := out.2.2 })
      report := { pendingBefore := UInt32.ofNat graph.schedulerPending } })

/-- `end_ms`, and the state with the elapsed time. -/
def readEnd (ports : RuntimeLoopPorts P ν) (haveTiming : Bool) (startMs : UInt32)
    (s : LoopState P ν) : UInt32 × LoopState P ν :=
  if haveTiming then
    let out := ports.nowMs s.graph.world.outside.2
    (out.2.1,
      { s with
        graph := RuntimeGraph.ofParts s.graph.timers
          (s.graph.rest.1, { s.graph.rest.2 with outside := out.2.2 })
        report := if out.1 = .ok then { s.report with elapsedMs := out.2.1 - startMs } else s.report })
  else (0, s)

/-- The call of `work_pending`; a failure counts as work. -/
def askWork (ports : RuntimeLoopPorts P ν) (endMs : UInt32) (s : LoopState P ν) : LoopState P ν :=
  match ports.workPending with
  | none => { s with extraPending := false }
  | some port =>
    let out := port endMs s.report s.graph
    { s with graph := out.2.2, extraPending := decide (out.1 ≠ .ok) || out.2.1 }

def recordResult (rc : Result) (s : LoopState P ν) : LoopState P ν :=
  { s with report := { s.report with lastResult := rc } }

def recordPending (s : LoopState P ν) : LoopState P ν :=
  { s with report := { s.report with pendingAfter := UInt32.ofNat s.graph.schedulerPending } }

/-- What follows the label `finalize`. -/
def finalize (ports : RuntimeLoopPorts P ν) (haveTiming : Bool) (startMs : UInt32) (rc : Result)
    (s : LoopState P ν) : Result × LoopState P ν :=
  let ended := readEnd ports haveTiming startMs (recordPending s)
  if rc = .ok ∧ ended.2.report.exhausted = true then
    let asked := askWork ports ended.1 ended.2
    if 0 < asked.report.pendingAfter ∨ asked.extraPending = true then
      (.errPartial, recordResult .errPartial
        { asked with report := { asked.report with isPartial := true } })
    else (.ok, recordResult .ok asked)
  else (rc, recordResult rc ended.2)

/-- `ev_runtime_loop_poll_once`: the result with the last state of the poll. A refused policy
leaves the report alone. -/
def pollOnce (prog : Program P (TimerService × ν)) (policy : Option RuntimeLoopPolicy)
    (ports : RuntimeLoopPorts P ν) (fuel : Nat) (graph : RuntimeGraph P ν) :
    Option (Result × LoopState P ν) :=
  let policy := policy.getD .default
  if policy.schedulerTurnBudget = 0 ∨ policy.timerPublishBudget = 0 then
    some (.errInvalidArg, { graph := graph, report := {} })
  else
    let first := start ports graph
    match phases prog policy ports fuel first.2.2 with
    | none => none
    | some (rc, s) => some (finalize ports first.1 first.2.1 rc s)

end RuntimeLoop

end EventFramework
