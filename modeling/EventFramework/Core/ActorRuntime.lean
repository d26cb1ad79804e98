import EventFramework.Core.Mailbox

/-!
# Actor runtimes and their registry

`ev_actor_runtime.c`. A `World` is the registry, the state outside the core (payload
owners, actor contexts) and the history of what happened so far. The history is read by
no function: it records each event with the registry as it was right after it.

A handler is a program over the three things it can do: deliver a message through the
registry, look at the registry, and act on the outside state.
-/

namespace EventFramework
set_option autoImplicit false

variable {P ω : Type}

structure ActorRuntimeStats where
  enqueued : UInt32 := 0
  enqueueFailed : UInt32 := 0
  stepsOk : UInt32 := 0
  stepsEmpty : UInt32 := 0
  handlerErrors : UInt32 := 0
  disposeErrors : UInt32 := 0
  pumpCalls : UInt32 := 0
  pumpBudgetHits : UInt32 := 0
  pendingHighWatermark : Nat := 0
  lastPumpBudget : Nat := 0
  lastPumpProcessed : Nat := 0
  lastResult : Result := .ok
  deriving DecidableEq, Repr

namespace ActorRuntimeStats

def steppedEmpty (s : ActorRuntimeStats) : ActorRuntimeStats :=
  { s with stepsEmpty := s.stepsEmpty + 1, lastResult := .errEmpty }

def processed (handled disposed rc : Result) (s : ActorRuntimeStats) : ActorRuntimeStats :=
  { s with
    handlerErrors := if handled ≠ .ok then s.handlerErrors + 1 else s.handlerErrors
    disposeErrors := if disposed ≠ .ok then s.disposeErrors + 1 else s.disposeErrors
    stepsOk := if rc = .ok then s.stepsOk + 1 else s.stepsOk
    lastResult := rc }

def pumpStarted (budget : Nat) (s : ActorRuntimeStats) : ActorRuntimeStats :=
  { s with pumpCalls := s.pumpCalls + 1, lastPumpBudget := budget, lastPumpProcessed := 0 }

def pumpEnded (processed : Nat) (s : ActorRuntimeStats) : ActorRuntimeStats :=
  { s with lastPumpProcessed := processed }

def budgetHit (s : ActorRuntimeStats) : ActorRuntimeStats :=
  { s with pumpBudgetHits := s.pumpBudgetHits + 1 }

end ActorRuntimeStats

structure ActorRuntime (P : Type) where
  actorId : ActorId
  mailbox : Mailbox P
  stats : ActorRuntimeStats := {}

structure ActorRegistryStats where
  deliveryAttempted : UInt32 := 0
  deliverySucceeded : UInt32 := 0
  deliveryFailed : UInt32 := 0
  deliveryTargetMissing : UInt32 := 0
  lastTargetActor : ActorId := .none
  lastResult : Result := .ok
  deriving DecidableEq, Repr

/-- A runtime is only ever stored in the slot of its own actor. -/
structure ActorRegistry (P : Type) where
  slots : ActorId → Option (ActorRuntime P)
  stats : ActorRegistryStats
  slot_id : ∀ actor runtime, slots actor = some runtime → runtime.actorId = actor

structure ActorPumpReport where
  budget : Nat := 0
  processed : Nat := 0
  pendingBefore : Nat := 0
  pendingAfter : Nat := 0
  exhaustedBudget : Bool := false
  stopResult : Result := .ok
  deriving DecidableEq, Repr

namespace ActorRuntime

def init (actorId : ActorId) (mailbox : Mailbox P) : Except Result (ActorRuntime P) :=
  match actorMeta actorId with
  | none => .error .errOutOfRange
  | some info =>
    if mailbox.kind ≠ info.mailboxKind then .error .errContract
    else if info.drainBudget = 0 then .error .errContract
    else .ok { actorId := actorId, mailbox := mailbox }

def pending (runtime : ActorRuntime P) : Nat := runtime.mailbox.count

def defaultBudget (runtime : ActorRuntime P) : Nat := actorDefaultDrainBudget runtime.actorId

def recordPendingHighWatermark (runtime : ActorRuntime P) : ActorRuntime P :=
  if runtime.stats.pendingHighWatermark < runtime.pending then
    { runtime with stats := { runtime.stats with pendingHighWatermark := runtime.pending } }
  else runtime

end ActorRuntime

namespace ActorRegistry

/-- The registry after `ev_actor_registry_init`. -/
def fresh : ActorRegistry P where
  slots := fun _ => none
  stats := {}
  slot_id := by simp

def find (registry : ActorRegistry P) (actor : ActorId) : Option (ActorRuntime P) :=
  if actor.isValid then registry.slots actor else none

/-- A write through the pointer to a runtime: the slot of its actor holds the new value. -/
def setRuntime (registry : ActorRegistry P) (runtime : ActorRuntime P) : ActorRegistry P where
  slots := Function.update registry.slots runtime.actorId (some runtime)
  stats := registry.stats
  slot_id := by
    intro actor other hslot
    by_cases he : actor = runtime.actorId
    · subst he
      rw [Function.update_self] at hslot
      exact Option.some.inj hslot ▸ rfl
    · rw [Function.update_of_ne he] at hslot
      exact registry.slot_id actor other hslot

theorem setRuntime_self {registry : ActorRegistry P} {runtime : ActorRuntime P}
    (h : registry.slots runtime.actorId = some runtime) : registry.setRuntime runtime = registry := by
  cases registry with
  | mk slots stats slot_id =>
    simp only [setRuntime, mk.injEq, and_true]
    rw [← h]
    exact Function.update_eq_self _ _

def bind (registry : ActorRegistry P) (runtime : ActorRuntime P) : Result × ActorRegistry P :=
  if !runtime.actorId.isValid then (.errOutOfRange, registry)
  else if (registry.slots runtime.actorId).isSome then (.errState, registry)
  else (.ok, registry.setRuntime runtime)

/-- `ev_actor_runtime_init` on a fresh mailbox and `ev_actor_registry_bind`. -/
def bindActor (registry : ActorRegistry P) (actor : ActorId) (kind : MailboxKind) : ActorRegistry P :=
  match ActorRuntime.init actor (Mailbox.fresh kind) with
  | .ok runtime => (registry.bind runtime).2
  | .error _ => registry

def setup (actors : List (ActorId × MailboxKind)) : ActorRegistry P :=
  actors.foldl (fun registry actor => registry.bindActor actor.1 actor.2) fresh

/-- The number of messages queued for an actor; zero when nothing is bound. -/
def pending (registry : ActorRegistry P) (actor : ActorId) : Nat :=
  (registry.slots actor).elim 0 ActorRuntime.pending

end ActorRegistry

inductive PumpEvent (P : Type) where
  | delivered (target : ActorId) (msg : Msg P) (rc : Result)
  | invoked (actor : ActorId) (msg : Msg P)
  | returned (actor : ActorId) (rc : Result)
  | disposed (actor : ActorId) (msg : Msg P)
  | passedActor (domain : ExecutionDomain) (index : Nat)
  | visitedActor (domain : ExecutionDomain) (index : Nat)
  | passedDomain (index : Nat)
  | visitedDomain (index : Nat)
  | returnedDomain (index : Nat) (rc : Result)

/-- An event and the registry right after it. -/
structure Moment (P : Type) where
  event : PumpEvent P
  registry : ActorRegistry P

structure World (P ω : Type) where
  registry : ActorRegistry P
  outside : ω
  history : List (Moment P) := []

inductive HandlerProg (P ω : Type) where
  | ret (rc : Result)
  | deliver (target : ActorId) (msg : Msg P) (qos : RouteQos) (wantReport : Bool)
      (next : Result → Option MailboxDeliveryReport → HandlerProg P ω)
  | outside (act : ω → ω) (next : ω → HandlerProg P ω)
  | inspect (next : ActorRegistry P → HandlerProg P ω)

/-- The code outside the core: payload callbacks and the actors' handlers. -/
structure Program (P ω : Type) where
  callbacks : Callbacks P ω
  handler : ActorId → Msg P → HandlerProg P ω

namespace World

def note (w : World P ω) (event : PumpEvent P) : World P ω :=
  { w with history := w.history ++ [⟨event, w.registry⟩] }

def setRuntime (w : World P ω) (runtime : ActorRuntime P) : World P ω :=
  { w with registry := w.registry.setRuntime runtime }

def updateRegistryStats (w : World P ω) (f : ActorRegistryStats → ActorRegistryStats) : World P ω :=
  { w with registry := { w.registry with stats := f w.registry.stats } }

def updateStats (w : World P ω) (actor : ActorId) (f : ActorRuntimeStats → ActorRuntimeStats) :
    World P ω :=
  match w.registry.slots actor with
  | none => w
  | some runtime => w.setRuntime { runtime with stats := f runtime.stats }

def deliveryFailed (w : World P ω) (runtime : ActorRuntime P) (rc : Result) : World P ω :=
  (w.updateRegistryStats fun s =>
    { s with deliveryFailed := s.deliveryFailed + 1, lastResult := rc }).setRuntime
      { runtime with stats := { runtime.stats with enqueueFailed := runtime.stats.enqueueFailed + 1 } }

def deliverySucceeded (w : World P ω) (runtime : ActorRuntime P) : World P ω :=
  (w.updateRegistryStats fun s =>
    { s with deliverySucceeded := s.deliverySucceeded + 1, lastResult := .ok }).setRuntime
      { runtime with stats := { runtime.stats with enqueued := runtime.stats.enqueued + 1 } }

def pushed (w : World P ω) (runtime : ActorRuntime P) (rc : Result) (dropped : Bool) : World P ω :=
  if rc = .ok then
    if dropped then w.deliveryFailed runtime.recordPendingHighWatermark .ok
    else w.deliverySucceeded runtime.recordPendingHighWatermark
  else w.deliveryFailed runtime rc

/-- `ev_actor_registry_delivery_impl`. Without a report the drop of a message by its QoS
goes unseen and counts as a success. -/
def deliver (cb : Callbacks P ω) (w : World P ω) (target : ActorId) (msg : Msg P) (qos : RouteQos)
    (wantReport : Bool) : Result × Option MailboxDeliveryReport × World P ω :=
  let w := w.updateRegistryStats fun s =>
    { s with deliveryAttempted := s.deliveryAttempted + 1, lastTargetActor := target }
  match w.registry.find target with
  | none =>
    let w := w.updateRegistryStats fun s =>
      { s with
        deliveryFailed := s.deliveryFailed + 1
        deliveryTargetMissing := s.deliveryTargetMissing + 1
        lastResult := .errNotFound }
    (.errNotFound, if wantReport then some { result := .errNotFound, effect := .rejected } else none,
      w.note (.delivered target msg .errNotFound))
  | some runtime =>
    let pushed := runtime.mailbox.pushQos cb msg qos w.outside
    let report := if wantReport then some pushed.2.1 else none
    let runtime := { runtime with
      mailbox := pushed.2.2.1, stats := { runtime.stats with lastResult := pushed.1 } }
    let dropped := report.any fun r => r.effect == .dropped
    let w := World.pushed { w with outside := pushed.2.2.2 } runtime pushed.1 dropped
    (pushed.1, report, w.note (.delivered target msg pushed.1))

@[simp] theorem note_registry (w : World P ω) (event : PumpEvent P) :
    (w.note event).registry = w.registry := rfl

@[simp] theorem setRuntime_history (w : World P ω) (runtime : ActorRuntime P) :
    (w.setRuntime runtime).history = w.history := rfl

@[simp] theorem updateStats_history (w : World P ω) (actor : ActorId)
    (f : ActorRuntimeStats → ActorRuntimeStats) : (w.updateStats actor f).history = w.history := by
  unfold updateStats
  split <;> rfl

@[simp] theorem pushed_history (w : World P ω) (runtime : ActorRuntime P) (rc : Result)
    (dropped : Bool) : (w.pushed runtime rc dropped).history = w.history := by
  unfold pushed
  split
  · split <;> rfl
  · rfl

theorem deliver_history (cb : Callbacks P ω) (w : World P ω) (target : ActorId) (msg : Msg P)
    (qos : RouteQos) (wantReport : Bool) :
    (w.deliver cb target msg qos wantReport).2.2.history =
      w.history ++ [⟨.delivered target msg (w.deliver cb target msg qos wantReport).1,
        (w.deliver cb target msg qos wantReport).2.2.registry⟩] := by
  unfold deliver
  simp only
  split
  · rfl
  · simp only [note, pushed_history]
    rfl

@[simp] theorem pending_updateStats (w : World P ω) (actor other : ActorId)
    (f : ActorRuntimeStats → ActorRuntimeStats) :
    (w.updateStats actor f).registry.pending other = w.registry.pending other := by
  unfold updateStats
  split
  · rfl
  · rename_i runtime hslot
    have hid := w.registry.slot_id _ _ hslot
    by_cases he : other = actor
    · simp [setRuntime, ActorRegistry.setRuntime, ActorRegistry.pending, ActorRuntime.pending, he, hid,
        hslot]
    · simp [setRuntime, ActorRegistry.setRuntime, ActorRegistry.pending, he, hid]

theorem recordPendingHighWatermark_cases (runtime : ActorRuntime P) :
    ∃ counts, runtime.recordPendingHighWatermark = { runtime with stats := counts } ∧
      counts.enqueued = runtime.stats.enqueued ∧
      counts.enqueueFailed = runtime.stats.enqueueFailed := by
  unfold ActorRuntime.recordPendingHighWatermark
  split
  · exact ⟨_, rfl, rfl, rfl⟩
  · exact ⟨_, rfl, rfl, rfl⟩

theorem pushed_cases (w : World P ω) (runtime : ActorRuntime P) (rc : Result) (dropped : Bool) :
    (w.pushed runtime rc dropped).outside = w.outside ∧
      ∃ stats counts, (w.pushed runtime rc dropped).registry =
        ({ w.registry with stats := stats } : ActorRegistry P).setRuntime
          { runtime with stats := counts } ∧
      stats.deliveryAttempted = w.registry.stats.deliveryAttempted ∧
      stats.deliveryTargetMissing = w.registry.stats.deliveryTargetMissing ∧
      ((rc = .ok ∧ dropped = false ∧
        stats.deliverySucceeded = w.registry.stats.deliverySucceeded + 1 ∧
        stats.deliveryFailed = w.registry.stats.deliveryFailed ∧
        counts.enqueued = runtime.stats.enqueued + 1 ∧
        counts.enqueueFailed = runtime.stats.enqueueFailed) ∨
      ((rc ≠ .ok ∨ dropped = true) ∧
        stats.deliverySucceeded = w.registry.stats.deliverySucceeded ∧
        stats.deliveryFailed = w.registry.stats.deliveryFailed + 1 ∧
        counts.enqueued = runtime.stats.enqueued ∧
        counts.enqueueFailed = runtime.stats.enqueueFailed + 1)) := by
  obtain ⟨counts, heq, henqueued, hfailed⟩ := recordPendingHighWatermark_cases runtime
  unfold pushed
  by_cases hrc : rc = .ok
  · cases dropped with
    | false =>
      rw [if_pos hrc, if_neg (by decide), heq]
      exact ⟨rfl, _, _, rfl, rfl, rfl, Or.inl ⟨hrc, rfl, rfl, rfl, by rw [← henqueued], hfailed⟩⟩
    | true =>
      rw [if_pos hrc, if_pos rfl, heq]
      exact ⟨rfl, _, _, rfl, rfl, rfl, Or.inr ⟨Or.inr rfl, rfl, rfl, henqueued, by rw [← hfailed]⟩⟩
  · rw [if_neg hrc]
    exact ⟨rfl, _, _, rfl, rfl, rfl, Or.inr ⟨Or.inl hrc, rfl, rfl, rfl, rfl⟩⟩

/-- What a delivery does: count a missing target, or push, store the mailbox and count. -/
theorem deliver_cases (cb : Callbacks P ω) (w : World P ω) (target : ActorId) (msg : Msg P)
    (qos : RouteQos) (wantReport : Bool) :
    (w.registry.find target = none ∧
      (w.deliver cb target msg qos wantReport).1 = .errNotFound ∧
      (w.deliver cb target msg qos wantReport).2.2.outside = w.outside ∧
      (w.deliver cb target msg qos wantReport).2.2.registry = { w.registry with
        stats := { w.registry.stats with
          deliveryAttempted := w.registry.stats.deliveryAttempted + 1
          deliveryFailed := w.registry.stats.deliveryFailed + 1
          deliveryTargetMissing := w.registry.stats.deliveryTargetMissing + 1
          lastTargetActor := target
          lastResult := .errNotFound } }) ∨
    ∃ runtime rc report mailbox outside stats counts, w.registry.find target = some runtime ∧
      runtime.mailbox.pushQos cb msg qos w.outside = (rc, report, mailbox, outside) ∧
      (w.deliver cb target msg qos wantReport).1 = rc ∧
      (w.deliver cb target msg qos wantReport).2.2.outside = outside ∧
      (w.deliver cb target msg qos wantReport).2.2.registry =
        ({ w.registry with stats := stats } : ActorRegistry P).setRuntime
          { runtime with mailbox := mailbox, stats := counts } ∧
      stats.deliveryAttempted = w.registry.stats.deliveryAttempted + 1 ∧
      stats.deliveryTargetMissing = w.registry.stats.deliveryTargetMissing ∧
      ((rc = .ok ∧ stats.deliverySucceeded = w.registry.stats.deliverySucceeded + 1 ∧
        stats.deliveryFailed = w.registry.stats.deliveryFailed ∧
        counts.enqueued = runtime.stats.enqueued + 1 ∧
        counts.enqueueFailed = runtime.stats.enqueueFailed) ∨
      ((rc ≠ .ok ∨ report.effect = .dropped) ∧
        stats.deliverySucceeded = w.registry.stats.deliverySucceeded ∧
        stats.deliveryFailed = w.registry.stats.deliveryFailed + 1 ∧
        counts.enqueued = runtime.stats.enqueued ∧
        counts.enqueueFailed = runtime.stats.enqueueFailed + 1)) := by
  cases hfind : w.registry.find target with
  | none =>
    have hsame : (w.updateRegistryStats fun s => { s with
        deliveryAttempted := s.deliveryAttempted + 1, lastTargetActor := target }).registry.find target =
        none := hfind
    refine Or.inl ⟨rfl, ?_, ?_, ?_⟩
    · simp only [deliver, hsame]
    · simp only [deliver, hsame]
      rfl
    · simp only [deliver, hsame]
      rfl
  | some runtime =>
    have hsame : (w.updateRegistryStats fun s => { s with
        deliveryAttempted := s.deliveryAttempted + 1, lastTargetActor := target }).registry.find target =
        some runtime := hfind
    generalize hpush : runtime.mailbox.pushQos cb msg qos w.outside = out
    obtain ⟨rc, report, mailbox, outside⟩ := out
    have hpush' : runtime.mailbox.pushQos cb msg qos (w.updateRegistryStats fun s => { s with
        deliveryAttempted := s.deliveryAttempted + 1, lastTargetActor := target }).outside =
        (rc, report, mailbox, outside) := hpush
    obtain ⟨houtside, stats, counts, hregistry, hattempted, hmissing, hcounts⟩ :=
      pushed_cases (World.mk (w.updateRegistryStats fun s => { s with
          deliveryAttempted := s.deliveryAttempted + 1, lastTargetActor := target }).registry outside
          w.history)
        { runtime with mailbox := mailbox, stats := { runtime.stats with lastResult := rc } } rc
        ((if wantReport then some report else none).any fun r => r.effect == .dropped)
    refine Or.inr ⟨runtime, rc, report, mailbox, outside, stats, counts, rfl, hpush, ?_⟩
    simp only [deliver, hsame, hpush']
    refine ⟨trivial, houtside, hregistry, hattempted, hmissing, ?_⟩
    rcases hcounts with ⟨hrc, _, hrest⟩ | ⟨hrc, hrest⟩
    · exact Or.inl ⟨hrc, hrest⟩
    · refine Or.inr ⟨hrc.imp id fun hdropped => ?_, hrest⟩
      cases wantReport with
      | false => simp at hdropped
      | true => simpa using hdropped

/-- `ev_actor_registry_delivery`. -/
def delivery (cb : Callbacks P ω) (w : World P ω) (target : ActorId) (msg : Msg P) :
    Result × Option MailboxDeliveryReport × World P ω :=
  w.deliver cb target msg .critical false

end World

/-- A run of a handler on the world. -/
def HandlerProg.exec (cb : Callbacks P ω) : HandlerProg P ω → World P ω → Result × World P ω
  | .ret rc, w => (rc, w)
  | .deliver target msg qos wantReport next, w =>
    let out := w.deliver cb target msg qos wantReport
    (next out.1 out.2.1).exec cb out.2.2
  | .outside act next, w =>
    (next (act w.outside)).exec cb { w with outside := act w.outside }
  | .inspect next, w => (next w.registry).exec cb w

section Pump

variable (prog : Program P ω)

def handle (actor : ActorId) (msg : Msg P) (w : World P ω) : Result × Result × World P ω :=
  let handled := (prog.handler actor msg).exec prog.callbacks (w.note (.invoked actor msg))
  let w := handled.2.note (.returned actor handled.1)
  let disposed := msg.dispose prog.callbacks w.outside
  (handled.1, disposed.1, World.note { w with outside := disposed.2.2 } (.disposed actor msg))

/-- `ev_actor_runtime_process_one` on the runtime in the slot of `actor`. -/
def processOne (actor : ActorId) (w : World P ω) : Result × World P ω :=
  match w.registry.slots actor with
  | none => (.errInvalidArg, w)
  | some runtime =>
    let popped := runtime.mailbox.pop
    let w := w.setRuntime { runtime with mailbox := popped.2.2 }
    match popped.2.1 with
    | none => (popped.1, w.updateStats actor fun s => { s with lastResult := popped.1 })
    | some msg =>
      let out := handle prog actor msg w
      let rc := if out.2.1 ≠ .ok ∧ out.1 = .ok then out.2.1 else out.1
      (rc, out.2.2.updateStats actor (.processed out.1 out.2.1 rc))

/-- `ev_actor_runtime_step`. -/
def actorStep (actor : ActorId) (w : World P ω) : Result × World P ω :=
  match w.registry.slots actor with
  | none => (.errInvalidArg, w)
  | some runtime =>
    if runtime.mailbox.isEmpty then
      (.errEmpty, w.updateStats actor .steppedEmpty)
    else processOne prog actor w

/-- The loop of `ev_actor_runtime_pump` with `n` messages of the budget left. -/
def pumpLoop (actor : ActorId) : Nat → Nat → World P ω → Result × Nat × World P ω
  | 0, processed, w => (.ok, processed, w)
  | n + 1, processed, w =>
    if w.registry.pending actor = 0 then (.ok, processed, w)
    else
      let out := processOne prog actor w
      if out.1 ≠ .ok then (out.1, processed + 1, out.2)
      else pumpLoop actor n (processed + 1) out.2

/-- `ev_actor_runtime_pump`. -/
def actorPump (actor : ActorId) (budget : Nat) (w : World P ω) :
    Result × ActorPumpReport × World P ω :=
  match w.registry.slots actor with
  | none => (.errInvalidArg, {}, w)
  | some runtime =>
    if budget = 0 then (.errInvalidArg, {}, w)
    else
      let report : ActorPumpReport := { budget := budget, pendingBefore := runtime.pending }
      let w := w.updateStats actor (.pumpStarted budget)
      if report.pendingBefore = 0 then
        (.errEmpty, { report with stopResult := .errEmpty }, w.updateStats actor .steppedEmpty)
      else
        let out := pumpLoop prog actor budget 0 w
        let w := out.2.2
        let report := { report with processed := out.2.1, pendingAfter := w.registry.pending actor }
        let w := w.updateStats actor (.pumpEnded report.processed)
        if out.1 ≠ .ok then (out.1, { report with stopResult := out.1 }, w)
        else if report.processed < budget then (.ok, { report with stopResult := .errEmpty }, w)
        else if 0 < report.pendingAfter then
          (.ok, { report with exhaustedBudget := true }, w.updateStats actor .budgetHit)
        else (.ok, report, w)

/-- `ev_actor_runtime_pump_default`. -/
def actorPumpDefault (actor : ActorId) (w : World P ω) : Result × ActorPumpReport × World P ω :=
  let budget := (w.registry.slots actor).elim 0 ActorRuntime.defaultBudget
  if budget = 0 then (.errContract, {}, w) else actorPump prog actor budget w

theorem processOne_cases (actor : ActorId) (w : World P ω) :
    (w.registry.slots actor = none ∧ processOne prog actor w = (.errInvalidArg, w)) ∨
    ∃ runtime, w.registry.slots actor = some runtime ∧
      ((runtime.pending = 0 ∧ (processOne prog actor w).1 = .errEmpty ∧
        (processOne prog actor w).2 =
          w.updateStats actor fun s => { s with lastResult := .errEmpty }) ∨
      ∃ msg mb handled disposed w', runtime.pending ≠ 0 ∧
        runtime.mailbox.pop = (.ok, some msg, mb) ∧
        mb.stats.popped = runtime.mailbox.stats.popped + 1 ∧
        handle prog actor msg (w.setRuntime { runtime with mailbox := mb }) =
          (handled, disposed, w') ∧
        (processOne prog actor w).1 =
          (if disposed ≠ .ok ∧ handled = .ok then disposed else handled) ∧
        (processOne prog actor w).2 =
          w'.updateStats actor (.processed handled disposed (processOne prog actor w).1)) := by
  cases hslot : w.registry.slots actor with
  | none => exact Or.inl ⟨rfl, by simp only [processOne, hslot]⟩
  | some runtime =>
    refine Or.inr ⟨runtime, rfl, ?_⟩
    rcases runtime.mailbox.pop_cases with ⟨hempty, hpop⟩ | ⟨msg, mb, hcount, hpop, hpopped⟩
    · have hsame : w.setRuntime runtime = w := by
        have hself := ActorRegistry.setRuntime_self
          (by rw [w.registry.slot_id _ _ hslot]; exact hslot)
        rw [World.setRuntime, hself]
      exact Or.inl ⟨hempty, by simp only [processOne, hslot, hpop],
        by simp only [processOne, hslot, hpop, hsame]⟩
    · generalize hhandle : handle prog actor msg (w.setRuntime { runtime with mailbox := mb }) = out
      obtain ⟨handled, disposed, w'⟩ := out
      refine Or.inr ⟨msg, mb, handled, disposed, w', hcount, hpop, hpopped, hhandle, ?_, ?_⟩
      · simp only [processOne, hslot, hpop, hhandle]
      · simp only [processOne, hslot, hpop, hhandle]

/-- What an actor pump does: nothing, count an empty step, or run its loop. -/
theorem actorPump_cases (actor : ActorId) (budget : Nat) (w : World P ω) :
    (actorPump prog actor budget w = (.errInvalidArg, {}, w) ∧
      (budget = 0 ∨ w.registry.slots actor = none)) ∨
    (actorPump prog actor budget w).1 = .errEmpty ∧ w.registry.pending actor = 0 ∧
      (actorPump prog actor budget w).2.1.processed = 0 ∧
      (actorPump prog actor budget w).2.2 =
        (w.updateStats actor (.pumpStarted budget)).updateStats actor .steppedEmpty ∨
    ∃ rc processed w', w.registry.pending actor ≠ 0 ∧ 0 < budget ∧
      pumpLoop prog actor budget 0 (w.updateStats actor (.pumpStarted budget)) =
        (rc, processed, w') ∧
      (actorPump prog actor budget w).1 = rc ∧
      (actorPump prog actor budget w).2.1.processed = processed ∧
      ((actorPump prog actor budget w).2.2 = w'.updateStats actor (.pumpEnded processed) ∨
        (actorPump prog actor budget w).2.2 =
          (w'.updateStats actor (.pumpEnded processed)).updateStats actor .budgetHit) := by
  cases hslot : w.registry.slots actor with
  | none => exact Or.inl ⟨by simp [actorPump, hslot], Or.inr rfl⟩
  | some runtime =>
    have hpending : w.registry.pending actor = runtime.pending := by
      simp [ActorRegistry.pending, hslot]
    by_cases hbudget : budget = 0
    · exact Or.inl ⟨by simp [actorPump, hslot, hbudget], Or.inl hbudget⟩
    · by_cases hempty : runtime.pending = 0
      · refine Or.inr (Or.inl ⟨?_, hpending.trans hempty, ?_, ?_⟩) <;>
          simp only [actorPump, hslot, hbudget, hempty, if_false, if_true]
      · generalize hloop : pumpLoop prog actor budget 0
          (w.updateStats actor (.pumpStarted budget)) = out
        obtain ⟨rc, processed, w'⟩ := out
        refine Or.inr (Or.inr ⟨rc, processed, w', by rwa [hpending], Nat.pos_of_ne_zero hbudget,
          rfl, ?_⟩)
        simp only [actorPump, hslot, hbudget, hempty, hloop, if_false]
        by_cases hrc : rc = .ok
        · by_cases hless : processed < budget
          · simp [hrc, hless]
          · by_cases hmore : 0 < w'.registry.pending actor
            · simp [hrc, hless, hmore]
            · simp [hrc, hless, hmore]
        · simp [hrc]

end Pump

end EventFramework
