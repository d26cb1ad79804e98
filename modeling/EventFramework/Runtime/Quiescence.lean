import EventFramework.Core.MailboxRefinement
import EventFramework.Library.SeqRing
import EventFramework.Runtime.Diagnostics
import EventFramework.Runtime.TimerService
import Mathlib.Algebra.Order.BigOperators.Group.List

/-!
# Quiescence and the power manager

`ev_quiescence_service.c` over the graph it inspects, and `ev_power_manager.c`: whether the
graph may go to sleep. A quiescence callback is a function of the report, its actor context
is fixed.
-/

namespace EventFramework
set_option autoImplicit false

variable {P : Type}

/-- `ev_ingress_service_t`. -/
structure IngressService (P : Type) where
  queue : Nat → Msg P
  writeSeq : UInt32 := 0
  readSeq : UInt32 := 0
  highWater : UInt32 := 0
  pushed : UInt32 := 0
  dropped : UInt32 := 0

/-- `EV_INGRESS_CAPACITY`. -/
def ingressCapacity : Nat := 16

/-- `EV_INGRESS_MASK`. -/
def ingressMask : UInt32 := 15

namespace IngressService

def pending (ingress : IngressService P) : UInt32 := ingress.writeSeq - ingress.readSeq

/-- The messages that `ev_ingress_pop` still returns. -/
def messages (ingress : IngressService P) : List (Msg P) :=
  SeqRing.entries ingress.queue ingressCapacity ingress.writeSeq ingress.readSeq

theorem messages_eq_nil {ingress : IngressService P} :
    ingress.messages = [] ↔ ingress.pending = 0 := SeqRing.entries_eq_nil

/-- The zeroed service of `ev_ingress_service_init`. -/
def init : IngressService P := { queue := fun _ => Msg.zeroed }

/-- `ev_ingress_push`. -/
def push (ingress : IngressService P) (msg : Msg P) : Result × IngressService P :=
  if ingress.pending.toNat ≥ ingressCapacity then
    (.errFull, { ingress with dropped := ingress.dropped + 1 })
  else
    let index := (ingress.writeSeq &&& ingressMask).toNat
    let pending := ingress.pending + 1
    (.ok, { ingress with
      queue := Function.update ingress.queue index msg
      writeSeq := ingress.writeSeq + 1
      pushed := ingress.pushed + 1
      highWater := if pending > ingress.highWater then pending else ingress.highWater })

/-- `ev_ingress_pop`. -/
def pop (ingress : IngressService P) : Result × Option (Msg P) × IngressService P :=
  if ingress.pending = 0 then (.errEmpty, none, ingress)
  else
    (.ok, some (ingress.queue (ingress.readSeq &&& ingressMask).toNat),
      { ingress with readSeq := ingress.readSeq + 1 })

end IngressService

structure QuiescenceReport where
  pendingActorMessages : UInt32 := 0
  pendingIngressEvents : UInt32 := 0
  dueTimers : UInt32 := 0
  busyActorMask : UInt32 := 0
  sleepBlockerActorMask : UInt32 := 0
  pendingTraceRecords : UInt32 := 0
  pendingFaultRecords : UInt32 := 0
  pendingLogRecords : UInt32 := 0
  nextDeadlineMs : UInt32 := 0
  earliestSafeSleepUntilMs : UInt32 := 0
  policyBlockerMask : UInt32 := 0
  reason : String := "ok"
  deriving DecidableEq, Repr

/-- `ev_actor_quiescence_fn_t` on the context of its actor. -/
abbrev QuiescenceFn := QuiescenceReport → Result × QuiescenceReport

namespace QuiescenceFn

/-- The bits of `sleep_blocker_actor_mask` that a callback sets. -/
def blockers (fn : QuiescenceFn) : UInt32 := (fn {}).2.sleepBlockerActorMask

def busy (fn : QuiescenceFn) : UInt32 := (fn {}).2.busyActorMask

/-- What the callbacks are for: they set bits in the two actor masks and leave the rest. -/
def Reports (fn : QuiescenceFn) : Prop :=
  ∀ report, (fn report).2 = { report with
    busyActorMask := report.busyActorMask ||| fn.busy
    sleepBlockerActorMask := report.sleepBlockerActorMask ||| fn.blockers }

end QuiescenceFn

inductive QuiescenceBufferPolicy where
  | blockNever
  | blockUntilDrained
  | blockCriticalOnly
  deriving DecidableEq, Repr

structure QuiescencePolicy where
  tracePolicy : QuiescenceBufferPolicy := .blockNever
  faultPolicy : QuiescenceBufferPolicy := .blockNever
  logPolicy : QuiescenceBufferPolicy := .blockNever
  minSleepWindowMs : UInt32 := 0
  nearDeadlineGuardMs : UInt32 := 0
  blockDueTimers : Bool := false
  blockActorSleepBlockers : Bool := false
  deriving DecidableEq, Repr

/-- `ev_quiescence_default_policy`. -/
def QuiescencePolicy.default : QuiescencePolicy where
  faultPolicy := .blockCriticalOnly
  blockDueTimers := true
  blockActorSleepBlockers := true

def blockDueTimer : UInt32 := 0x01
def blockActor : UInt32 := 0x02
def blockTrace : UInt32 := 0x04
def blockFault : UInt32 := 0x08
def blockLog : UInt32 := 0x10
def blockNearDeadline : UInt32 := 0x20

structure QuiescenceService where
  accepted : UInt32 := 0
  rejected : UInt32 := 0
  deriving DecidableEq, Repr

/-- The part of the graph that the quiescence service reads and writes. `instanceQuiescence`
is that of a bound instance, `logPending` what the hook of the log port returns. -/
structure QuiescenceGraph (P : Type) where
  actorEnabled : ActorId → Bool
  mailboxes : ActorId → Mailbox P
  instanceQuiescence : ActorId → Option QuiescenceFn := fun _ => none
  descriptorQuiescence : ActorId → Option QuiescenceFn := fun _ => none
  ingressService : IngressService P
  timers : TimerService := TimerService.init
  traceRing : TraceRing := {}
  faults : FaultRegistry := .empty
  metrics : MetricRegistry := {}
  logPending : Option (Result × UInt32) := none
  quiescenceService : QuiescenceService := {}
  bounded : ∀ actor, (mailboxes actor).count ≤ (mailboxes actor).kind.capacity
  trace_bounded : traceRing.count ≤ traceRingCapacity := by decide

namespace TimerService

def slotDue (svc : TimerService) (nowMs : UInt32) (index : TimerIndex) : Bool :=
  (svc.slots index).active && isDue nowMs (svc.slots index).deadlineMs

/-- `ev_quiescence_due_timer_count`. -/
def dueTimerCount (svc : TimerService) (nowMs : UInt32) : UInt32 :=
  (List.finRange timerServiceCapacity).foldl
    (fun count index => if svc.slotDue nowMs index then count + 1 else count) 0

def NoneDue (svc : TimerService) (nowMs : UInt32) : Prop :=
  ∀ index, (svc.slots index).active = true → isDue nowMs (svc.slots index).deadlineMs = false

end TimerService

/-- `ev_fault_has_critical`. -/
def FaultRegistry.hasCritical (registry : FaultRegistry) : Bool :=
  registry.records.any fun record => record.severity == .critical

namespace QuiescencePolicy

/-- The two tests of a deadline against the clock. -/
def nearDeadline (policy : QuiescencePolicy) (nowMs deadlineMs : UInt32) : Bool :=
  (policy.nearDeadlineGuardMs > 0 && deadlineMs - nowMs ≤ policy.nearDeadlineGuardMs) ||
    (policy.minSleepWindowMs > 0 && deadlineMs - nowMs < policy.minSleepWindowMs)

def faultBlocks (policy : QuiescencePolicy) (faults : FaultRegistry) : Bool :=
  (policy.faultPolicy == .blockUntilDrained && !faults.records.isEmpty) ||
    (policy.faultPolicy == .blockCriticalOnly && faults.hasCritical)

end QuiescencePolicy

namespace QuiescenceReport

/-- `report.policy_blocker_mask |= bit` under a condition. -/
def blockIf (report : QuiescenceReport) (blocked : Bool) (bit : UInt32) : QuiescenceReport :=
  { report with
    policyBlockerMask :=
      if blocked then report.policyBlockerMask ||| bit else report.policyBlockerMask }

def setDeadline (report : QuiescenceReport) (policy : QuiescencePolicy) (nowMs : UInt32) :
    Option UInt32 → QuiescenceReport
  | none => report
  | some next =>
    ({ report with nextDeadlineMs := next, earliestSafeSleepUntilMs := next } : QuiescenceReport).blockIf
      (policy.nearDeadline nowMs next) blockNearDeadline

def setReason (report : QuiescenceReport) : QuiescenceReport :=
  if report.pendingActorMessages > 0 then { report with reason := "actor messages pending" }
  else if report.pendingIngressEvents > 0 then { report with reason := "ingress pending" }
  else if report.policyBlockerMask ≠ 0 then { report with reason := "policy blocker" }
  else report

def accepts (report : QuiescenceReport) : Bool :=
  report.pendingActorMessages == 0 && report.pendingIngressEvents == 0 &&
    report.policyBlockerMask == 0

end QuiescenceReport

namespace QuiescenceGraph

/-- The callback of an actor: that of its bound instance, or else that of its descriptor. -/
def quiescenceFn (graph : QuiescenceGraph P) (actor : ActorId) : Option QuiescenceFn :=
  match graph.instanceQuiescence actor with
  | some fn => some fn
  | none => graph.descriptorQuiescence actor

/-- Every callback of the graph does what callbacks are for. -/
def Reporting (graph : QuiescenceGraph P) : Prop :=
  ∀ actor fn, graph.quiescenceFn actor = some fn → fn.Reports

def visitActor (graph : QuiescenceGraph P) (report : QuiescenceReport) (actor : ActorId) :
    QuiescenceReport :=
  if graph.actorEnabled actor then
    let report := { report with
      pendingActorMessages :=
        report.pendingActorMessages + UInt32.ofNat (graph.mailboxes actor).count }
    match graph.quiescenceFn actor with
    | some fn => (fn report).2
    | none => report
  else report

def actorReport (graph : QuiescenceGraph P) : QuiescenceReport :=
  actorCatalog.foldl graph.visitActor {}

/-- The log records pending; zero without a hook or when it fails. -/
def pendingLogRecords (graph : QuiescenceGraph P) : UInt32 :=
  match graph.logPending with
  | some (.ok, records) => records
  | _ => 0

/-- The report before the policy is applied. -/
def collect (graph : QuiescenceGraph P) (nowMs : UInt32) : QuiescenceReport :=
  { graph.actorReport with
    pendingIngressEvents := graph.ingressService.pending
    dueTimers := graph.timers.dueTimerCount nowMs
    pendingTraceRecords := UInt32.ofNat graph.traceRing.count
    pendingFaultRecords := UInt32.ofNat graph.faults.records.length
    pendingLogRecords := graph.pendingLogRecords }

def evaluate (graph : QuiescenceGraph P) (nowMs : UInt32) (policy : QuiescencePolicy) :
    QuiescenceReport :=
  let report := (graph.collect nowMs).setDeadline policy nowMs graph.timers.nextDeadlineMs
  let report := report.blockIf (policy.blockDueTimers && report.dueTimers > 0) blockDueTimer
  let report := report.blockIf
    (policy.blockActorSleepBlockers && report.sleepBlockerActorMask != 0) blockActor
  let report := report.blockIf
    (policy.tracePolicy == .blockUntilDrained && report.pendingTraceRecords > 0) blockTrace
  let report := report.blockIf (policy.faultBlocks graph.faults) blockFault
  let report := report.blockIf
    (policy.logPolicy == .blockUntilDrained && report.pendingLogRecords > 0) blockLog
  report.setReason

def count (graph : QuiescenceGraph P) (metric : MetricId) : QuiescenceGraph P :=
  { graph with metrics := graph.metrics.increment metric 1 }

/-- `ev_runtime_is_quiescent_at`; no policy means the default one. -/
def isQuiescentAt (graph : QuiescenceGraph P) (nowMs : UInt32) (policy : Option QuiescencePolicy) :
    Result × QuiescenceReport × QuiescenceGraph P :=
  let report := graph.evaluate nowMs (policy.getD .default)
  if report.accepts then
    (.ok, report, { graph with
      quiescenceService := { graph.quiescenceService with
        accepted := graph.quiescenceService.accepted + 1 } }.count .quiescenceAccepted)
  else
    (.errNotReady, report, { graph with
      quiescenceService := { graph.quiescenceService with
        rejected := graph.quiescenceService.rejected + 1 } }.count .quiescenceRejected)

def isQuiescent (graph : QuiescenceGraph P) : Result × QuiescenceReport × QuiescenceGraph P :=
  graph.isQuiescentAt 0 (some .default)

end QuiescenceGraph

/-- The part of `ev_power_policy_t` that the power manager reads. -/
structure PowerPolicy where
  timedSleepAllowed : Bool
  minSleepMs : UInt32
  maxSleepMs : UInt32
  deriving DecidableEq, Repr

structure PowerManager where
  policy : PowerPolicy
  sleepAccepted : UInt32 := 0
  sleepRejected : UInt32 := 0
  deriving DecidableEq, Repr

/-- The requests that the policy refuses. -/
def PowerPolicy.refuses (policy : PowerPolicy) (requestedSleepMs : UInt32) : Bool :=
  !policy.timedSleepAllowed || requestedSleepMs < policy.minSleepMs ||
    requestedSleepMs > policy.maxSleepMs

namespace PowerManager

def rejected (manager : PowerManager) : PowerManager :=
  { manager with sleepRejected := manager.sleepRejected + 1 }

/-- The fault of a rejected sleep. -/
def sleepRejectedFault : FaultPayload where
  faultId := .sleepRejected
  severity := .info
  sourceActor := .power
  triggeringEvent := .sysGotoSleepCmd

/-- `ev_power_manager_can_sleep_at`; a request refused by the policy leaves the report. -/
def canSleepAt (manager : PowerManager) (graph : QuiescenceGraph P) (nowMs requestedSleepMs : UInt32)
    (policy : Option QuiescencePolicy) :
    Result × Option QuiescenceReport × QuiescenceGraph P × PowerManager :=
  if manager.policy.refuses requestedSleepMs then
    (.errPolicy, none, graph.count .sleepRejected, manager.rejected)
  else
    let out := graph.isQuiescentAt nowMs policy
    if out.1 ≠ .ok then
      let graph := { out.2.2 with faults := (out.2.2.faults.emit sleepRejectedFault).2 }
      (out.1, some out.2.1, graph.count .sleepRejected, manager.rejected)
    else
      (.ok, some out.2.1, out.2.2.count .sleepAccepted,
        { manager with sleepAccepted := manager.sleepAccepted + 1 })

/-- `ev_power_manager_can_sleep`. -/
def canSleep (manager : PowerManager) (graph : QuiescenceGraph P) (requestedSleepMs : UInt32) :
    Result × Option QuiescenceReport × QuiescenceGraph P × PowerManager :=
  manager.canSleepAt graph 0 requestedSleepMs none

end PowerManager

namespace TimerService

theorem dueTimerCount_eq_zero {svc : TimerService} {nowMs : UInt32} :
    svc.dueTimerCount nowMs = 0 ↔ svc.NoneDue nowMs := by
  have hfold : ∀ (indices : List TimerIndex) (count : UInt32),
      indices.foldl (fun count index => if svc.slotDue nowMs index then count + 1 else count) count =
        count + UInt32.ofNat (indices.countP (svc.slotDue nowMs)) := by
    intro indices
    induction indices with
    | nil => exact fun count => (UInt32.add_zero count).symm
    | cons index indices ih =>
      intro count
      rw [List.foldl_cons, ih, List.countP_cons]
      by_cases hdue : svc.slotDue nowMs index = true
      · rw [if_pos hdue, if_pos hdue, UInt32.ofNat_add, UInt32.add_assoc, UInt32.add_comm 1]
        rfl
      · rw [if_neg hdue, if_neg hdue, Nat.add_zero]
  have hle : (List.finRange timerServiceCapacity).countP (svc.slotDue nowMs) ≤ 16 :=
    List.countP_le_length.trans (by rw [List.length_finRange]; exact le_refl _)
  rw [dueTimerCount, hfold, UInt32.zero_add, ← UInt32.toNat_inj, UInt32.toNat_ofNat',
    Nat.mod_eq_of_lt (by omega), UInt32.toNat_zero, List.countP_eq_zero]
  constructor
  · intro h index hactive
    have hnot := h index (List.mem_finRange index)
    simpa [slotDue, hactive] using hnot
  · intro h index _ hdue
    simp only [slotDue, Bool.and_eq_true] at hdue
    rw [h index hdue.1] at hdue
    cases hdue.2

end TimerService

namespace QuiescenceReport

theorem blockIf_mask_eq_zero {report : QuiescenceReport} {blocked : Bool} {bit : UInt32}
    (hbit : bit ≠ 0) : (report.blockIf blocked bit).policyBlockerMask = 0 ↔
      report.policyBlockerMask = 0 ∧ blocked = false := by
  cases blocked
  · simp [blockIf]
  · simp [blockIf, hbit]

theorem setReason_accepts (report : QuiescenceReport) :
    report.setReason.accepts = report.accepts := by
  unfold setReason
  split
  · rfl
  · split
    · rfl
    · split <;> rfl

theorem accepts_iff {report : QuiescenceReport} : report.accepts = true ↔
    report.pendingActorMessages = 0 ∧ report.pendingIngressEvents = 0 ∧
      report.policyBlockerMask = 0 := by
  simp only [accepts, Bool.and_eq_true, beq_iff_eq, and_assoc]

theorem setDeadline_mask_eq_zero {report : QuiescenceReport} {policy : QuiescencePolicy}
    {nowMs : UInt32} {next : Option UInt32} :
    (report.setDeadline policy nowMs next).policyBlockerMask = 0 ↔
      report.policyBlockerMask = 0 ∧
        ∀ deadline, next = some deadline → policy.nearDeadline nowMs deadline = false := by
  cases next with
  | none => simp [setDeadline]
  | some deadline =>
    rw [setDeadline, blockIf_mask_eq_zero (by decide)]
    simp

theorem setDeadline_rest (report : QuiescenceReport) (policy : QuiescencePolicy) (nowMs : UInt32)
    (next : Option UInt32) :
    let out := report.setDeadline policy nowMs next
    out.pendingActorMessages = report.pendingActorMessages ∧
    out.pendingIngressEvents = report.pendingIngressEvents ∧
    out.dueTimers = report.dueTimers ∧
    out.sleepBlockerActorMask = report.sleepBlockerActorMask ∧
    out.pendingTraceRecords = report.pendingTraceRecords ∧
    out.pendingLogRecords = report.pendingLogRecords := by
  cases next with
  | none => exact ⟨rfl, rfl, rfl, rfl, rfl, rfl⟩
  | some deadline => exact ⟨rfl, rfl, rfl, rfl, rfl, rfl⟩

end QuiescenceReport

namespace QuiescenceGraph

variable {graph : QuiescenceGraph P}

def actorMessages (graph : QuiescenceGraph P) (actor : ActorId) : Nat :=
  if graph.actorEnabled actor then (graph.mailboxes actor).count else 0

def actorBlockers (graph : QuiescenceGraph P) (actor : ActorId) : UInt32 :=
  if graph.actorEnabled actor then (graph.quiescenceFn actor).elim 0 QuiescenceFn.blockers else 0

theorem visitActor_fields (h : graph.Reporting) (report : QuiescenceReport) (actor : ActorId) :
    (graph.visitActor report actor).pendingActorMessages =
      report.pendingActorMessages + UInt32.ofNat (graph.actorMessages actor) ∧
    (graph.visitActor report actor).sleepBlockerActorMask =
      report.sleepBlockerActorMask ||| graph.actorBlockers actor ∧
    (graph.visitActor report actor).policyBlockerMask = report.policyBlockerMask := by
  unfold visitActor actorMessages actorBlockers
  by_cases hon : graph.actorEnabled actor = true
  · simp only [hon, ↓reduceIte]
    cases hfn : graph.quiescenceFn actor with
    | none => exact ⟨rfl, (UInt32.or_zero).symm, rfl⟩
    | some fn =>
      simp only [h actor fn hfn _, Option.elim_some, and_self]
  · simp only [hon, Bool.false_eq_true, ↓reduceIte]
    exact ⟨(UInt32.add_zero _).symm, (UInt32.or_zero).symm, trivial⟩

theorem visitActors_fields (h : graph.Reporting) (actors : List ActorId) : ∀ report,
    (actors.foldl graph.visitActor report).pendingActorMessages =
      report.pendingActorMessages + UInt32.ofNat (actors.map graph.actorMessages).sum ∧
    ((actors.foldl graph.visitActor report).sleepBlockerActorMask = 0 ↔
      report.sleepBlockerActorMask = 0 ∧ ∀ actor ∈ actors, graph.actorBlockers actor = 0) ∧
    (actors.foldl graph.visitActor report).policyBlockerMask = report.policyBlockerMask := by
  induction actors with
  | nil => exact fun report => ⟨(UInt32.add_zero _).symm, by simp, rfl⟩
  | cons actor actors ih =>
    intro report
    obtain ⟨hmessages, hblockers, hmask⟩ := visitActor_fields h report actor
    obtain ⟨ihmessages, ihblockers, ihmask⟩ := ih (graph.visitActor report actor)
    refine ⟨?_, ?_, ihmask.trans hmask⟩
    · rw [List.foldl_cons, ihmessages, hmessages, List.map_cons, List.sum_cons, UInt32.ofNat_add,
        UInt32.add_assoc]
    · rw [List.foldl_cons, ihblockers, hblockers, UInt32.or_eq_zero_iff, and_assoc,
        List.forall_mem_cons]

theorem actorMessages_le (graph : QuiescenceGraph P) (actor : ActorId) :
    graph.actorMessages actor ≤ 16 := by
  have hcapacity : (graph.mailboxes actor).kind.capacity ≤ 16 := by
    cases (graph.mailboxes actor).kind <;> decide
  have hcount := graph.bounded actor
  unfold actorMessages
  split <;> omega

/-- The counts of so few mailboxes do not wrap. -/
theorem actorReport_messages (h : graph.Reporting) :
    graph.actorReport.pendingActorMessages = 0 ↔
      ∀ actor ∈ actorCatalog, graph.actorMessages actor = 0 := by
  have hsum : (actorCatalog.map graph.actorMessages).sum ≤ actorCatalog.length • 16 := by
    have hle := List.sum_le_card_nsmul (actorCatalog.map graph.actorMessages) 16 (by
      intro count hcount
      obtain ⟨actor, _, rfl⟩ := List.mem_map.mp hcount
      exact graph.actorMessages_le actor)
    rwa [List.length_map] at hle
  have hlength : actorCatalog.length • 16 = 288 := rfl
  rw [actorReport, (visitActors_fields h actorCatalog {}).1, UInt32.zero_add, ← UInt32.toNat_inj,
    UInt32.toNat_ofNat', Nat.mod_eq_of_lt (by omega), UInt32.toNat_zero,
    List.sum_eq_zero_iff_forall_eq_nat]
  simp only [List.mem_map, forall_exists_index, and_imp, forall_apply_eq_imp_iff₂]

theorem actorReport_blockers (h : graph.Reporting) :
    graph.actorReport.sleepBlockerActorMask = 0 ↔
      ∀ actor ∈ actorCatalog, graph.actorBlockers actor = 0 := by
  rw [actorReport, (visitActors_fields h actorCatalog {}).2.1]
  exact and_iff_right rfl

theorem traceCount_eq_zero (graph : QuiescenceGraph P) :
    UInt32.ofNat graph.traceRing.count = 0 ↔ graph.traceRing.count = 0 := by
  have hle : graph.traceRing.count ≤ 32 := graph.trace_bounded
  rw [← UInt32.toNat_inj, UInt32.toNat_ofNat', Nat.mod_eq_of_lt (by omega), UInt32.toNat_zero]

theorem and_blocks {on : Bool} {pending : UInt32} :
    (on && decide (pending > 0)) = false ↔ (on = true → pending = 0) := by
  have hpos : ¬pending > 0 ↔ pending = 0 := by
    rw [gt_iff_lt, UInt32.not_lt, ← UInt32.toNat_inj, UInt32.le_iff_toNat_le]
    simp
  cases on <;> simp [hpos]

theorem and_bits {on : Bool} {mask : UInt32} :
    (on && mask != 0) = false ↔ (on = true → mask = 0) := by
  cases on <;> simp

/-- Nothing but a timer keeps the graph from being quiescent under a policy. -/
structure QuietBesidesTimers (graph : QuiescenceGraph P) (policy : QuiescencePolicy) : Prop where
  mailboxes : ∀ actor ∈ actorCatalog, graph.actorEnabled actor = true →
    (graph.mailboxes actor).count = 0
  ingress : graph.ingressService.messages = []
  blockers : policy.blockActorSleepBlockers = true → ∀ actor ∈ actorCatalog,
    graph.actorEnabled actor = true → ∀ fn, graph.quiescenceFn actor = some fn → fn.blockers = 0
  traces : policy.tracePolicy = .blockUntilDrained → graph.traceRing.count = 0
  faults : policy.faultBlocks graph.faults = false
  logs : policy.logPolicy = .blockUntilDrained → graph.pendingLogRecords = 0

/-- `ev_runtime_is_quiescent_at` succeeds when nothing is pending, no blocked timer is due, and
the one deadline it looks at is not near. -/
theorem isQuiescentAt_ok_iff (h : graph.Reporting) (nowMs : UInt32)
    (policy : Option QuiescencePolicy) :
    (graph.isQuiescentAt nowMs policy).1 = .ok ↔
      graph.QuietBesidesTimers (policy.getD .default) ∧
      ((policy.getD .default).blockDueTimers = true → graph.timers.NoneDue nowMs) ∧
      ∀ next, graph.timers.nextDeadlineMs = some next →
        (policy.getD .default).nearDeadline nowMs next = false := by
  generalize hpolicy : policy.getD .default = effective
  have hok : (graph.isQuiescentAt nowMs policy).1 = .ok ↔
      (graph.evaluate nowMs effective).accepts = true := by
    unfold isQuiescentAt
    simp only [hpolicy]
    split <;> simp_all
  obtain ⟨hmessages, hingress, hdue, hblockers, htraces, hlogs⟩ :=
    (graph.collect nowMs).setDeadline_rest effective nowMs graph.timers.nextDeadlineMs
  rw [hok, evaluate]
  rw [QuiescenceReport.setReason_accepts, QuiescenceReport.accepts_iff]
  rw [QuiescenceReport.blockIf_mask_eq_zero (by decide),
    QuiescenceReport.blockIf_mask_eq_zero (by decide),
    QuiescenceReport.blockIf_mask_eq_zero (by decide),
    QuiescenceReport.blockIf_mask_eq_zero (by decide),
    QuiescenceReport.blockIf_mask_eq_zero (by decide),
    QuiescenceReport.setDeadline_mask_eq_zero]
  simp only [QuiescenceReport.blockIf, hmessages, hingress, hdue, hblockers, htraces, hlogs]
  have hmask : (graph.collect nowMs).policyBlockerMask = 0 :=
    (visitActors_fields h actorCatalog {}).2.2
  have hactors : (graph.collect nowMs).pendingActorMessages = 0 ↔ _ := actorReport_messages h
  have hbits : (graph.collect nowMs).sleepBlockerActorMask = 0 ↔ _ := actorReport_blockers h
  have htimers : (graph.collect nowMs).dueTimers = 0 ↔ graph.timers.NoneDue nowMs :=
    TimerService.dueTimerCount_eq_zero
  have hring : (graph.collect nowMs).pendingTraceRecords = 0 ↔ _ := graph.traceCount_eq_zero
  have hpending : (graph.collect nowMs).pendingIngressEvents = 0 ↔ _ :=
    IngressService.messages_eq_nil.symm
  rw [and_blocks, and_blocks, and_blocks, and_bits, hactors, hbits, htimers, hring, hpending,
    beq_iff_eq, beq_iff_eq]
  constructor
  · rintro ⟨hmail, hin, ⟨⟨⟨⟨⟨_, hnear⟩, hnone⟩, hactor⟩, htrace⟩, hfault⟩, hlog⟩
    refine ⟨⟨?_, hin, ?_, htrace, hfault, hlog⟩, hnone, hnear⟩
    · intro actor hmem hon
      have hzero := hmail actor hmem
      rwa [actorMessages, if_pos hon] at hzero
    · intro hblock actor hmem hon fn hfn
      have hzero := hactor hblock actor hmem
      rwa [actorBlockers, if_pos hon, hfn] at hzero
  · rintro ⟨hquiet, hnone, hnear⟩
    refine ⟨?_, hquiet.ingress, ⟨⟨⟨⟨⟨hmask, hnear⟩, hnone⟩, ?_⟩, hquiet.traces⟩, hquiet.faults⟩,
      hquiet.logs⟩
    · intro actor hmem
      unfold actorMessages
      split
      · rename_i hon
        exact hquiet.mailboxes actor hmem hon
      · rfl
    · intro hblock actor hmem
      unfold actorBlockers
      split
      · rename_i hon
        cases hfn : graph.quiescenceFn actor with
        | none => rfl
        | some fn => exact hquiet.blockers hblock actor hmem hon fn hfn
      · rfl

end QuiescenceGraph

end EventFramework
