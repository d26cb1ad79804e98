import EventFramework.Library.Machine
import EventFramework.Runtime.RuntimeLoop
import EventFramework.Runtime.ActiveRoutes

/-!
# The runtime builder

Of `ev_runtime_graph.c` the calls that request actors and bind the routes, and the build of
the graph. `ω` is what the init callbacks of the instances act on.
-/

namespace EventFramework
set_option autoImplicit false

variable {P ω : Type}

structure MailboxLayout where
  mailboxKind : MailboxKind
  offset : Nat
  capacity : Nat
  deriving DecidableEq, Repr

/-- `ev_actor_mailbox_layout_lookup`. -/
def mailboxLayoutLookup : ActorId → Option MailboxLayout
  | .boot => some ⟨.fifo8, 0, 8⟩
  | .runtime => some ⟨.fifo8, 8, 8⟩
  | .stream => some ⟨.fifo16, 16, 16⟩
  | .diag => some ⟨.fifo8, 32, 8⟩
  | .app => some ⟨.fifo8, 40, 8⟩
  | .oled => some ⟨.fifo8, 48, 8⟩
  | .rtc => some ⟨.fifo8, 56, 8⟩
  | .ds18b20 => some ⟨.fifo8, 64, 8⟩
  | .bh1750 => some ⟨.fifo8, 72, 8⟩
  | .panel => some ⟨.fifo8, 80, 8⟩
  | .mcp23008 => some ⟨.fifo8, 88, 8⟩
  | .supervisor => some ⟨.fifo8, 96, 8⟩
  | .power => some ⟨.fifo8, 104, 8⟩
  | .watchdog => some ⟨.fifo8, 112, 8⟩
  | .network => some ⟨.fifo8, 120, 8⟩
  | .command => some ⟨.fifo8, 128, 8⟩
  | .fault => some ⟨.fifo8, 136, 8⟩
  | .metrics => some ⟨.fifo8, 144, 8⟩
  | .none | .undeclared _ => none

/-- `EV_RUNTIME_MAILBOX_TOTAL_CAPACITY`. -/
def runtimeMailboxTotalCapacity : Nat := 152

/-- `EV_RUNTIME_MAILBOX_CAPACITY_MAX`. -/
def runtimeMailboxCapacityMax : Nat := 16

/-- `ev_runtime_mailbox_storage_for_actor`: the capacity of the part of the storage. -/
def mailboxStorageForActor (actor : ActorId) (info : ActorMeta) : Except Result Nat :=
  match mailboxLayoutLookup actor with
  | none => .error .errContract
  | some layout =>
    let expected := info.mailboxKind.capacity
    if layout.mailboxKind ≠ info.mailboxKind ∨ layout.capacity ≠ expected ∨ expected = 0 ∨
        layout.capacity > runtimeMailboxCapacityMax ∨
        layout.offset > runtimeMailboxTotalCapacity ∨
        layout.capacity > runtimeMailboxTotalCapacity - layout.offset ∨
        !Mailbox.capacityIsPowerOfTwo layout.capacity then .error .errContract
    else .ok layout.capacity

/-- The pointers that a runtime is wired to: the context slots of the graph, the handlers of
the catalog modules, and what an instance descriptor brings along. -/
inductive ActorPointer where
  | contextOf (actor : ActorId)
  | handlerOf (actor : ActorId)
  | other (address : Nat)
  deriving DecidableEq, Repr

/-- The part of `ev_actor_instance_descriptor_t` that the builder reads. -/
structure ActorInstance (ω : Type) where
  actorId : ActorId
  moduleActorId : ActorId
  actorContext : Option ActorPointer
  contextSize : Nat
  handlerFn : Option ActorPointer
  moduleHandlerFn : Option ActorPointer
  requiredCapabilities : UInt32
  initFn : Option (ω → Result × ω)

/-- `ev_actor_instance_validate`. -/
def ActorInstance.validate (instance_ : ActorInstance ω) : Result :=
  if !instance_.actorId.isValid then .errOutOfRange
  else if instance_.moduleActorId ≠ instance_.actorId then .errContract
  else if instance_.handlerFn.isNone && instance_.moduleHandlerFn.isNone then .errInvalidArg
  else if instance_.contextSize > 0 && instance_.actorContext.isNone then .errInvalidArg
  else .ok

structure ActorWiring where
  handler : ActorPointer
  actorContext : ActorPointer
  deriving DecidableEq, Repr

/-- `EV_RUNTIME_DOMAIN_MASK`. -/
def runtimeDomainMask (domain : ExecutionDomain) : UInt32 :=
  1 <<< UInt32.ofNat (domainCatalog.idxOf domain)

namespace RuntimeScheduler

/-- The loop of `ev_runtime_scheduler_init`; an error ends it. -/
def bindDomains (mask : UInt32) : List ExecutionDomain → SystemPump → Result × SystemPump
  | [], system => (.ok, system)
  | domain :: rest, system =>
    if mask = 0 ∨ mask &&& runtimeDomainMask domain ≠ 0 then
      let bound := system.bind (DomainPump.init domain)
      if bound.1 = .ok then bindDomains mask rest bound.2 else bound
    else bindDomains mask rest system

/-- `ev_runtime_scheduler_init`. -/
def init (mask : UInt32) : Result × RuntimeScheduler :=
  let bound := bindDomains mask domainCatalog SystemPump.init
  (bound.1, { system := bound.2, activeDomainMask := mask, pollCalls := 0, partialReturns := 0 })

end RuntimeScheduler

/-- The builder and the part of its graph that building reads and writes. -/
structure RuntimeBuilder (P ω : Type) where
  toRouteBuilder : RouteBuilder
  graph : RouteGraph := {}
  instances : ActorId → Option (ActorInstance ω) := fun _ => none
  registry : ActorRegistry P := ActorRegistry.fresh
  /-- The wiring of each actor runtime; `none` is a zeroed one. -/
  wiring : ActorId → Option ActorWiring := fun _ => none
  actorEnabled : ActorId → Bool := fun _ => false
  scheduler : Option RuntimeScheduler := none
  outside : ω

namespace RuntimeBuilder

/-- `ev_runtime_builder_init`. -/
def init (boardCaps runtimeCaps : UInt32) (outside : ω) : RuntimeBuilder P ω where
  toRouteBuilder :=
    { requested := fun _ => false, boardCaps := boardCaps, runtimeCaps := runtimeCaps }
  outside := outside

/-- `builder->last_error = rc; return rc`. -/
def fail (s : RuntimeBuilder P ω) (rc : Result) : Result × RuntimeBuilder P ω :=
  (rc, { s with toRouteBuilder := { s.toRouteBuilder with lastError := rc } })

def addInstance (s : RuntimeBuilder P ω) (instance_ : ActorInstance ω) :
    Result × RuntimeBuilder P ω :=
  if instance_.validate ≠ .ok then s.fail instance_.validate
  else if instance_.requiredCapabilities &&& s.toRouteBuilder.boardCaps ≠
      instance_.requiredCapabilities then s.fail .errNoCapability
  else
    (.ok, { s with
      instances := Function.update s.instances instance_.actorId
        (some { instance_ with handlerFn := instance_.handlerFn.or instance_.moduleHandlerFn })
      toRouteBuilder := { s.toRouteBuilder with
        requested := Function.update s.toRouteBuilder.requested instance_.actorId true } })

/-- The instance that `ev_runtime_builder_add_module` adds; every module has a handler. -/
def moduleInstance (actor : ActorId) (module : ActorModule) : ActorInstance ω where
  actorId := actor
  moduleActorId := actor
  actorContext := some (.contextOf actor)
  contextSize := 1
  handlerFn := some (.handlerOf actor)
  moduleHandlerFn := some (.handlerOf actor)
  requiredCapabilities := module.requiredBoardCapabilities
  initFn := none

def addModule (s : RuntimeBuilder P ω) (actor : ActorId) : Result × RuntimeBuilder P ω :=
  if !actor.isValid then s.fail .errOutOfRange
  else match actorModuleFind actor with
    | none => s.fail .errNotFound
    | some module =>
      if module.requiredBoardCapabilities &&& s.toRouteBuilder.boardCaps ≠
          module.requiredBoardCapabilities then s.fail .errNoCapability
      else if module.requiredRuntimeCapabilities &&& s.toRouteBuilder.runtimeCaps ≠
          module.requiredRuntimeCapabilities then s.fail .errNoCapability
      else s.addInstance (moduleInstance actor module)

def setRouteValidationFlags (s : RuntimeBuilder P ω) (flags : UInt32) : RuntimeBuilder P ω :=
  { s with toRouteBuilder := { s.toRouteBuilder with routeValidationFlags := flags } }

def bindRoutes (table : RouteTable) (s : RuntimeBuilder P ω) : Result × RuntimeBuilder P ω :=
  let bound := s.toRouteBuilder.bindRoutes table s.graph
  (bound.1, { s with toRouteBuilder := bound.2.1, graph := bound.2.2 })

/-- `ev_runtime_builder_active_domain_mask`. -/
def activeDomainMask (s : RuntimeBuilder P ω) : UInt32 :=
  actorCatalog.foldl (fun mask actor =>
    if s.toRouteBuilder.requested actor then
      match actorMeta actor with
      | some info => mask ||| runtimeDomainMask info.executionDomain
      | none => mask
    else mask) 0

def prepareRuntime (actor : ActorId) : Except Result (ActorRuntime P) :=
  match actorMeta actor, actorModuleFind actor with
  | some info, some _ =>
    match mailboxStorageForActor actor info with
    | .error rc => .error rc
    | .ok capacity =>
      match Mailbox.init info.mailboxKind capacity with
      | .error rc => .error rc
      | .ok mailbox => ActorRuntime.init actor mailbox
  | _, _ => .error .errNotFound

/-- The init callback of a bound instance; the callbacks of the module descriptors succeed. -/
def runInit (s : RuntimeBuilder P ω) (actor : ActorId) : Result × RuntimeBuilder P ω :=
  match (s.instances actor).bind ActorInstance.initFn with
  | none => (.ok, s)
  | some initFn =>
    let out := initFn s.outside
    let s := { s with outside := out.2 }
    if out.1 = .ok then (.ok, s) else s.fail out.1

def wiringOf (s : RuntimeBuilder P ω) (actor : ActorId) : ActorWiring where
  handler := ((s.instances actor).bind ActorInstance.handlerFn).getD (.handlerOf actor)
  actorContext := ((s.instances actor).bind ActorInstance.actorContext).getD (.contextOf actor)

/-- `ev_mailbox_init` and `ev_actor_runtime_init` write the objects of the graph in place: the
slot of an actor that is bound points to them. -/
def reinitRuntime (s : RuntimeBuilder P ω) (runtime : ActorRuntime P) : RuntimeBuilder P ω :=
  { s with
    wiring := Function.update s.wiring runtime.actorId (some (s.wiringOf runtime.actorId))
    registry := if (s.registry.slots runtime.actorId).isSome then s.registry.setRuntime runtime
      else s.registry }

theorem prepareRuntime_actorId {actor : ActorId} {runtime : ActorRuntime P}
    (h : prepareRuntime actor = .ok runtime) : runtime.actorId = actor := by
  unfold prepareRuntime at h
  split at h
  · split at h
    · cases h
    · split at h
      · cases h
      · unfold ActorRuntime.init at h
        split at h
        · cases h
        · split at h
          · cases h
          · split at h
            · cases h
            · cases h
              rfl
  · cases h

theorem prepareRuntime_error {actor : ActorId} {rc : Result}
    (h : (prepareRuntime actor : Except Result (ActorRuntime P)) = .error rc) : rc ≠ .ok := by
  have hstorage : ∀ info, mailboxStorageForActor actor info = .error rc → rc ≠ .ok := by
    intro info hinfo
    unfold mailboxStorageForActor at hinfo
    split at hinfo
    · cases hinfo
      decide
    · simp only at hinfo
      split at hinfo
      · cases hinfo
        decide
      · cases hinfo
  unfold prepareRuntime at h
  split at h
  · split at h
    · rename_i info _ _ _ _ _ hfail
      cases h
      exact hstorage info hfail
    · split at h
      · rename_i hfail
        cases h
        unfold Mailbox.init at hfail
        split at hfail
        · cases hfail
          decide
        · split at hfail
          · cases hfail
            decide
          · split at hfail
            · cases hfail
              decide
            · cases hfail
      · unfold ActorRuntime.init at h
        split at h
        · cases h
          decide
        · split at h
          · cases h
            decide
          · split at h
            · cases h
              decide
            · cases h
  · cases h
    decide

def withRuntime (s : RuntimeBuilder P ω) (runtime : ActorRuntime P) : RuntimeBuilder P ω :=
  { s with
    wiring := Function.update s.wiring runtime.actorId (some (s.wiringOf runtime.actorId))
    registry := s.registry.setRuntime runtime
    actorEnabled := Function.update s.actorEnabled runtime.actorId true }

/-- One iteration over the actors of `ev_runtime_builder_build`. -/
def buildActor (s : RuntimeBuilder P ω) (actor : ActorId) : Result × RuntimeBuilder P ω :=
  match prepareRuntime actor with
  | .error rc => s.fail rc
  | .ok runtime =>
    let s := s.reinitRuntime runtime
    let bound := s.registry.bind runtime
    if bound.1 ≠ .ok then s.fail bound.1
    else
      runInit { s with
        registry := bound.2
        actorEnabled := Function.update s.actorEnabled actor true } actor

theorem prepareRuntime_isValid {actor : ActorId} {runtime : ActorRuntime P}
    (h : prepareRuntime actor = .ok runtime) : actor.isValid = true := by
  cases actor with
  | none | undeclared raw => cases h
  | _ => rfl

/-- An actor has no module, finds its slot taken, or is bound and runs its init callback. -/
theorem buildActor_cases (s : RuntimeBuilder P ω) (actor : ActorId) :
    (∃ rc, rc ≠ .ok ∧ (prepareRuntime actor : Except Result (ActorRuntime P)) = .error rc ∧
      s.buildActor actor = s.fail rc) ∨
    ∃ runtime : ActorRuntime P, prepareRuntime actor = .ok runtime ∧ runtime.actorId = actor ∧
      ((s.registry.slots actor).isSome = true ∧
        s.buildActor actor = (s.reinitRuntime runtime).fail .errState ∨
      s.registry.slots actor = none ∧
        s.buildActor actor = (s.withRuntime runtime).runInit actor) := by
  unfold buildActor
  cases hprepare : (prepareRuntime actor : Except Result (ActorRuntime P)) with
  | error rc => exact Or.inl ⟨rc, prepareRuntime_error hprepare, rfl, rfl⟩
  | ok runtime =>
    right
    have hid := prepareRuntime_actorId hprepare
    have hvalid := prepareRuntime_isValid hprepare
    subst hid
    refine ⟨runtime, rfl, rfl, ?_⟩
    cases hslot : s.registry.slots runtime.actorId with
    | some old =>
      left
      have htaken : ((s.reinitRuntime runtime).registry.slots runtime.actorId).isSome = true := by
        simp [reinitRuntime, hslot, ActorRegistry.setRuntime]
      have hbind : (s.reinitRuntime runtime).registry.bind runtime =
          (.errState, (s.reinitRuntime runtime).registry) := by
        simp only [ActorRegistry.bind, hvalid, htaken, Bool.not_true, Bool.false_eq_true, if_false,
          if_true]
      refine ⟨rfl, ?_⟩
      simp only [hbind, ne_eq, reduceCtorEq, not_false_eq_true, if_true]
    | none =>
      right
      have hbind : (s.reinitRuntime runtime).registry.bind runtime =
          (.ok, s.registry.setRuntime runtime) := by
        simp [reinitRuntime, hslot, ActorRegistry.bind, hvalid]
      refine ⟨rfl, ?_⟩
      simp only [hbind, ne_eq, not_true_eq_false, if_false]
      rfl

def buildActors : List ActorId → RuntimeBuilder P ω → Result × RuntimeBuilder P ω
  | [], s => (.ok, s)
  | actor :: rest, s =>
    if s.toRouteBuilder.requested actor then
      let out := s.buildActor actor
      if out.1 = .ok then buildActors rest out.2 else out
    else buildActors rest s

/-- `ev_runtime_builder_build`. -/
def build (table : RouteTable) (s : RuntimeBuilder P ω) : Result × RuntimeBuilder P ω :=
  let bound := if s.graph.activeRoutesBound then (.ok, s) else s.bindRoutes table
  if bound.1 ≠ .ok then bound
  else
    let built := buildActors actorCatalog bound.2
    if built.1 ≠ .ok then built
    else
      let scheduled := RuntimeScheduler.init built.2.activeDomainMask
      if scheduled.1 ≠ .ok then built.2.fail scheduled.1
      else (.ok, { built.2 with scheduler := some scheduled.2 })

end RuntimeBuilder

/-- The calls between `ev_runtime_builder_init` and `ev_runtime_builder_build`. -/
inductive BuilderCall (ω : Type) where
  | addInstance (instance_ : ActorInstance ω)
  | addModule (actor : ActorId)
  | setRouteValidationFlags (flags : UInt32)
  | bindRoutes

def RuntimeBuilder.call (table : RouteTable) (s : RuntimeBuilder P ω) :
    BuilderCall ω → RuntimeBuilder P ω
  | .addInstance instance_ => (s.addInstance instance_).2
  | .addModule actor => (s.addModule actor).2
  | .setRouteValidationFlags flags => s.setRouteValidationFlags flags
  | .bindRoutes => (s.bindRoutes table).2

end EventFramework
