import EventFramework.Runtime.GraphRoutes

/-!
# Building a graph again

A build writes the mailbox and the runtime of each requested actor before it finds out
whether the actor is already bound. What a failed build leaves of a running graph is
decided by the first requested actor.
-/

namespace EventFramework
set_option autoImplicit false

variable {P ω : Type}

namespace RuntimeScheduler

/-- The domains of the catalog are distinct, so each finds its slot free. -/
theorem bindDomains_ok (mask : UInt32) (domains : List ExecutionDomain) (hnodup : domains.Nodup) :
    ∀ {system : SystemPump}, (∀ domain ∈ domains, system.slots domain = none) →
      (bindDomains mask domains system).1 = .ok := by
  induction domains with
  | nil => exact fun _ => rfl
  | cons domain rest ih =>
    intro system hfree
    obtain ⟨hnotin, hrest⟩ := List.nodup_cons.mp hnodup
    simp only [bindDomains]
    split
    · have hslot : system.slots (DomainPump.init domain).domain = none :=
        hfree domain List.mem_cons_self
      have hbind : system.bind (DomainPump.init domain) =
          (.ok, system.setDomain (DomainPump.init domain)) := by
        simp [SystemPump.bind, hslot]
      rw [hbind, if_pos rfl]
      apply ih hrest
      intro other hother
      have hne : other ≠ (DomainPump.init domain).domain := by
        rintro rfl
        exact hnotin hother
      change Function.update system.slots _ _ other = none
      rw [Function.update_of_ne hne]
      exact hfree other (List.mem_cons_of_mem _ hother)
    · exact ih hrest fun other hother => hfree other (List.mem_cons_of_mem _ hother)

theorem init_ok (mask : UInt32) : (init mask).1 = .ok :=
  bindDomains_ok mask domainCatalog (by decide) fun _ _ => rfl

end RuntimeScheduler

namespace RuntimeBuilder

structure Intact (s t : RuntimeBuilder P ω) : Prop where
  registry : t.registry = s.registry
  wiring : t.wiring = s.wiring
  scheduler : t.scheduler = s.scheduler
  outside : t.outside = s.outside

theorem Intact.refl (s : RuntimeBuilder P ω) : Intact s s := ⟨rfl, rfl, rfl, rfl⟩

theorem Intact.trans {s t u : RuntimeBuilder P ω} (hst : Intact s t) (htu : Intact t u) : Intact s u :=
  ⟨htu.registry.trans hst.registry, htu.wiring.trans hst.wiring, htu.scheduler.trans hst.scheduler,
    htu.outside.trans hst.outside⟩

theorem Intact.symm {s t : RuntimeBuilder P ω} (h : Intact s t) : Intact t s :=
  ⟨h.registry.symm, h.wiring.symm, h.scheduler.symm, h.outside.symm⟩

/-- The init callbacks of the requested instances, called one after the other, all succeed. -/
def InitsSucceed (requested : ActorId → Bool) (instances : ActorId → Option (ActorInstance ω)) :
    List ActorId → ω → Prop
  | [], _ => True
  | actor :: rest, outside =>
    if requested actor then
      match (instances actor).bind ActorInstance.initFn with
      | none => InitsSucceed requested instances rest outside
      | some initFn =>
        (initFn outside).1 = .ok ∧ InitsSucceed requested instances rest (initFn outside).2
    else InitsSucceed requested instances rest outside

def Buildable (s : RuntimeBuilder P ω) (actors : List ActorId) : Prop :=
  (∀ actor ∈ actors, s.toRouteBuilder.requested actor = true → s.registry.slots actor = none) ∧
    InitsSucceed s.toRouteBuilder.requested s.instances actors s.outside

/-- The runtime of a bound actor is what a build would write: nothing was ever queued,
counted or wired otherwise. -/
def AsInitialised (s : RuntimeBuilder P ω) (actor : ActorId) : Prop :=
  ∃ runtime, prepareRuntime actor = .ok runtime ∧ s.registry.slots actor = some runtime ∧
    s.wiring actor = some (s.wiringOf actor)

/-- A build either succeeds or stops before it writes to a runtime. -/
def SafeToBuild (table : RouteTable) (s : RuntimeBuilder P ω) : Prop :=
  s.graph.activeRoutesBound = false ∧ (s.bindRoutes table).1 ≠ .ok ∨
  s.Buildable actorCatalog ∨
  ∃ actor, actorCatalog.find? s.toRouteBuilder.requested = some actor ∧ s.AsInitialised actor

section Step

variable {s : RuntimeBuilder P ω}

theorem prepareRuntime_valid {actor : ActorId} (h : actor.isValid = true) :
    ∃ runtime : ActorRuntime P, prepareRuntime actor = .ok runtime := by
  cases actor with
  | none | undeclared raw => cases h
  | _ => exact ⟨_, rfl⟩

theorem runInit_fields (s : RuntimeBuilder P ω) (actor : ActorId) :
    (s.runInit actor).2.registry = s.registry ∧ (s.runInit actor).2.wiring = s.wiring ∧
      (s.runInit actor).2.instances = s.instances ∧
      (s.runInit actor).2.toRouteBuilder.requested = s.toRouteBuilder.requested := by
  unfold runInit
  split
  · exact ⟨rfl, rfl, rfl, rfl⟩
  · simp only
    split <;> exact ⟨rfl, rfl, rfl, rfl⟩

theorem runInit_result (s : RuntimeBuilder P ω) (actor : ActorId) :
    match (s.instances actor).bind ActorInstance.initFn with
    | none => (s.runInit actor).1 = .ok ∧ (s.runInit actor).2.outside = s.outside
    | some initFn => (s.runInit actor).1 = (initFn s.outside).1 ∧
        (s.runInit actor).2.outside = (initFn s.outside).2 := by
  unfold runInit
  cases (s.instances actor).bind ActorInstance.initFn with
  | none => exact ⟨rfl, rfl⟩
  | some initFn =>
    simp only
    by_cases hrc : (initFn s.outside).1 = .ok
    · rw [if_pos hrc]
      exact ⟨hrc.symm, rfl⟩
    · rw [if_neg hrc]
      exact ⟨rfl, rfl⟩

/-- Step lemma: what the build of one requested actor needs and does. -/
theorem buildActor_spec {actor : ActorId} (hvalid : actor.isValid = true) :
    ∃ runtime : ActorRuntime P, prepareRuntime actor = .ok runtime ∧ runtime.actorId = actor ∧
      ((s.registry.slots actor).isSome = true ∧
        s.buildActor actor = (s.reinitRuntime runtime).fail .errState ∨
      s.registry.slots actor = none ∧
        s.buildActor actor = (s.withRuntime runtime).runInit actor) := by
  rcases s.buildActor_cases actor with ⟨rc, _, hprepare, _⟩ | hcases
  · obtain ⟨runtime, hok⟩ := prepareRuntime_valid (P := P) hvalid
    rw [hok] at hprepare
    cases hprepare
  · exact hcases

/-- Writing the runtime of a bound actor goes unseen only if that runtime was as initialised. -/
theorem reinitRuntime_intact_iff {actor : ActorId} {runtime : ActorRuntime P}
    (hprepare : prepareRuntime actor = .ok runtime)
    (htaken : (s.registry.slots actor).isSome = true) (rc : Result) :
    Intact s ((s.reinitRuntime runtime).fail rc).2 ↔ s.AsInitialised actor := by
  have hid := prepareRuntime_actorId hprepare
  subst hid
  have hregistry : (s.reinitRuntime runtime).registry = s.registry.setRuntime runtime := by
    simp only [reinitRuntime, htaken, if_true]
  constructor
  · intro h
    have hslots : (s.registry.setRuntime runtime).slots runtime.actorId =
        s.registry.slots runtime.actorId := by
      rw [← hregistry]
      exact congrArg (fun registry => registry.slots runtime.actorId) h.registry
    have hwired : Function.update s.wiring runtime.actorId (some (s.wiringOf runtime.actorId))
        runtime.actorId = s.wiring runtime.actorId := congrFun h.wiring runtime.actorId
    simp only [ActorRegistry.setRuntime, Function.update_self] at hslots
    rw [Function.update_self] at hwired
    exact ⟨runtime, hprepare, hslots.symm, hwired.symm⟩
  · rintro ⟨other, hprepared, hslots, hwired⟩
    rw [hprepare] at hprepared
    cases hprepared
    refine ⟨hregistry.trans (ActorRegistry.setRuntime_self hslots), ?_, rfl, rfl⟩
    change Function.update s.wiring runtime.actorId (some (s.wiringOf runtime.actorId)) = s.wiring
    rw [← hwired]
    exact Function.update_eq_self _ _

/-- Run lemma: the loop over the actors succeeds on the buildable ones only. -/
theorem buildActors_ok_iff (actors : List ActorId) (hvalid : ∀ actor ∈ actors, actor.isValid = true)
    (hnodup : actors.Nodup) : ∀ s : RuntimeBuilder P ω,
      (buildActors actors s).1 = .ok ↔ s.Buildable actors := by
  induction actors with
  | nil => exact fun _ => ⟨fun _ => ⟨by simp, trivial⟩, fun _ => rfl⟩
  | cons actor rest ih =>
    intro s
    obtain ⟨hnotin, hrest⟩ := List.nodup_cons.mp hnodup
    have hih := ih (fun other hother => hvalid other (List.mem_cons_of_mem _ hother)) hrest
    by_cases hrequested : s.toRouteBuilder.requested actor = true
    · obtain ⟨runtime, _, hid, hslot⟩ := buildActor_spec (s := s) (hvalid actor List.mem_cons_self)
      simp only [buildActors, hrequested, if_true]
      rcases hslot with ⟨htaken, hbuild⟩ | ⟨hfree, hbuild⟩
      · rw [hbuild]
        constructor
        · intro h
          cases h
        · rintro ⟨hfree, _⟩
          rw [hfree actor List.mem_cons_self hrequested] at htaken
          cases htaken
      · rw [hbuild]
        obtain ⟨hregistry, _, hinstances, hrequested'⟩ := runInit_fields (s.withRuntime runtime) actor
        have hresult := runInit_result (s.withRuntime runtime) actor
        have hslots : ∀ other ∈ rest, s.registry.slots other = none ↔
            ((s.withRuntime runtime).runInit actor).2.registry.slots other = none := by
          intro other hother
          have hne : other ≠ runtime.actorId := by
            rintro rfl
            exact hnotin (hid ▸ hother)
          rw [hregistry]
          change _ ↔ Function.update s.registry.slots runtime.actorId (some runtime) other = none
          rw [Function.update_of_ne hne]
        have hbound : (∀ other ∈ actor :: rest, s.toRouteBuilder.requested other = true →
              s.registry.slots other = none) ↔
            ∀ other ∈ rest,
              ((s.withRuntime runtime).runInit actor).2.toRouteBuilder.requested other = true →
              ((s.withRuntime runtime).runInit actor).2.registry.slots other = none := by
          rw [List.forall_mem_cons, hrequested']
          constructor
          · rintro ⟨_, hothers⟩ other hother hreq
            exact (hslots other hother).mp (hothers other hother hreq)
          · intro hothers
            exact ⟨fun _ => hfree, fun other hother hreq =>
              (hslots other hother).mpr (hothers other hother hreq)⟩
        unfold Buildable
        rw [hbound]
        have hinits : (s.withRuntime runtime).instances = s.instances := rfl
        have houtside : (s.withRuntime runtime).outside = s.outside := rfl
        rw [hinits, houtside] at hresult
        simp only [InitsSucceed, hrequested, if_true]
        cases hinit : (s.instances actor).bind ActorInstance.initFn with
        | none =>
          rw [hinit] at hresult
          rw [hresult.1, if_pos rfl, hih]
          unfold Buildable
          rw [hresult.2, hinstances, hrequested']
          rfl
        | some initFn =>
          rw [hinit] at hresult
          simp only at hresult
          by_cases hrc : (initFn s.outside).1 = .ok
          · rw [hresult.1, if_pos hrc, hih]
            unfold Buildable
            rw [hresult.2, hinstances, hrequested']
            simp only [hrc, true_and]
            rfl
          · rw [hresult.1, if_neg hrc]
            simp only [hresult.1, hrc, false_and, and_false]
    · have hskip : s.Buildable (actor :: rest) ↔ s.Buildable rest := by
        unfold Buildable
        simp only [List.forall_mem_cons, InitsSucceed, hrequested, Bool.false_eq_true, if_false,
          false_implies, true_and]
      simp only [buildActors, hrequested, Bool.false_eq_true, if_false]
      rw [hih, hskip]

theorem buildActors_bound (actors : List ActorId) : ∀ {s : RuntimeBuilder P ω} {actor : ActorId},
    (s.registry.slots actor).isSome = true →
      ((buildActors actors s).2.registry.slots actor).isSome = true := by
  induction actors with
  | nil => exact fun h => h
  | cons first rest ih =>
    intro s actor h
    have hstep : ((s.buildActor first).2.registry.slots actor).isSome = true := by
      have hset : ∀ runtime : ActorRuntime P,
          ((s.registry.setRuntime runtime).slots actor).isSome = true := by
        intro runtime
        change (Function.update s.registry.slots runtime.actorId (some runtime) actor).isSome = true
        by_cases he : actor = runtime.actorId
        · rw [he, Function.update_self]
          rfl
        · rwa [Function.update_of_ne he]
      rcases s.buildActor_cases first with ⟨rc, _, _, hbuild⟩ | ⟨runtime, _, hid, hslot⟩
      · rw [hbuild]
        exact h
      · rcases hslot with ⟨htaken, hbuild⟩ | ⟨_, hbuild⟩
        · rw [hbuild]
          change ((s.reinitRuntime runtime).registry.slots actor).isSome = true
          simp only [reinitRuntime, hid, htaken, if_true]
          exact hset runtime
        · rw [hbuild, (runInit_fields _ _).1]
          exact hset runtime
    simp only [buildActors]
    split
    · split
      · exact ih hstep
      · exact hstep
    · exact ih h

/-- The loop does nothing before the first requested actor. -/
theorem buildActors_first (actors : List ActorId) (s : RuntimeBuilder P ω) :
    match actors.find? s.toRouteBuilder.requested with
    | none => buildActors actors s = (.ok, s)
    | some actor => ∃ rest, buildActors actors s =
        if (s.buildActor actor).1 = .ok then buildActors rest (s.buildActor actor).2
        else s.buildActor actor := by
  induction actors with
  | nil => rfl
  | cons actor rest ih =>
    cases hrequested : s.toRouteBuilder.requested actor with
    | true =>
      simp only [List.find?_cons, hrequested, buildActors, if_true]
      exact ⟨rest, rfl⟩
    | false =>
      simp only [List.find?_cons, hrequested, buildActors, Bool.false_eq_true, if_false]
      exact ih

theorem bound_fields (table : RouteTable) (s : RuntimeBuilder P ω) :
    Intact s (s.bound table).2 ∧ (s.bound table).2.instances = s.instances ∧
      (s.bound table).2.toRouteBuilder.requested = s.toRouteBuilder.requested := by
  unfold bound
  split
  · exact ⟨.refl s, rfl, rfl⟩
  · exact ⟨⟨rfl, rfl, rfl, rfl⟩, rfl, RouteBuilder.bindRoutes_requested _ _ _⟩

/-- Once the routes are bound, the loop over the actors decides the build. -/
theorem build_of_bound {table : RouteTable} (h : (s.bound table).1 = .ok) :
    ((s.build table).1 = .ok ↔ s.Buildable actorCatalog) ∧
      ((s.build table).1 ≠ .ok →
        s.build table = buildActors actorCatalog (s.bound table).2) := by
  obtain ⟨hintact, hinstances, hrequested⟩ := bound_fields table s
  have hvalid : ∀ actor ∈ actorCatalog, actor.isValid = true :=
    fun actor hmem => (mem_actorCatalog_iff actor).mp hmem
  have hloop := buildActors_ok_iff actorCatalog hvalid actorCatalog_nodup (s.bound table).2
  have hsame : (s.bound table).2.Buildable actorCatalog ↔ s.Buildable actorCatalog := by
    unfold Buildable
    rw [hrequested, hinstances, hintact.registry, hintact.outside]
  rw [hsame] at hloop
  rw [build_eq, if_neg (not_not.mpr h)]
  by_cases hactors : (buildActors actorCatalog (s.bound table).2).1 = .ok
  · rw [if_neg (not_not.mpr hactors), if_neg (not_not.mpr (RuntimeScheduler.init_ok _))]
    exact ⟨iff_of_true rfl (hloop.mp hactors), fun hfail => absurd rfl hfail⟩
  · rw [if_pos hactors]
    exact ⟨hloop, fun _ => rfl⟩

/-- On a graph in any state, and whatever is queued in it, a failed build leaves registry,
mailboxes, runtimes and scheduler as they were just when the build cannot fail, fails while it
binds the routes, or meets first an actor whose runtime is still as initialised. -/
theorem failed_build_intact_iff (table : RouteTable) (s : RuntimeBuilder P ω) :
    ((s.build table).1 ≠ .ok → Intact s (s.build table).2) ↔ s.SafeToBuild table := by
  obtain ⟨hintact, hinstances, hrequested⟩ := bound_fields table s
  by_cases hbound : (s.bound table).1 = .ok
  · have hroutes : ¬ (s.graph.activeRoutesBound = false ∧ (s.bindRoutes table).1 ≠ .ok) := by
      rintro ⟨hflag, hfail⟩
      rw [bound, if_neg (by simp [hflag])] at hbound
      exact hfail hbound
    obtain ⟨hok, hbuild⟩ := build_of_bound hbound
    have hfirst := buildActors_first actorCatalog (s.bound table).2
    rw [hrequested] at hfirst
    by_cases hbuildable : s.Buildable actorCatalog
    · exact iff_of_true (fun hfail => absurd (hok.mpr hbuildable) hfail) (Or.inr (Or.inl hbuildable))
    · have hfail : (s.build table).1 ≠ .ok := mt hok.mp hbuildable
      have hsafe : s.SafeToBuild table ↔ ∃ actor,
          actorCatalog.find? s.toRouteBuilder.requested = some actor ∧ s.AsInitialised actor := by
        simp only [SafeToBuild, hroutes, hbuildable, false_or]
      have hshort : ((s.build table).1 ≠ .ok → Intact s (s.build table).2) ↔
          Intact (s.bound table).2 (buildActors actorCatalog (s.bound table).2).2 := by
        rw [← hbuild hfail]
        exact ⟨fun h => hintact.symm.trans (h hfail), fun h _ => hintact.trans h⟩
      rw [hsafe, hshort]
      cases hfind : actorCatalog.find? s.toRouteBuilder.requested with
      | none =>
        rw [hfind] at hfirst
        rw [hbuild hfail, hfirst] at hfail
        exact absurd rfl hfail
      | some actor =>
        rw [hfind] at hfirst
        obtain ⟨rest, hloop⟩ := hfirst
        have hvalid := (mem_actorCatalog_iff actor).mp (List.mem_of_find?_eq_some hfind)
        have hsame : (s.bound table).2.AsInitialised actor ↔ s.AsInitialised actor := by
          simp only [AsInitialised, wiringOf, hinstances, hintact.registry, hintact.wiring]
        have hone : (∃ first, some actor = some first ∧ s.AsInitialised first) ↔
            s.AsInitialised actor := by simp
        rw [hone, ← hsame, hloop]
        obtain ⟨runtime, hprepare, hid, hslot⟩ := buildActor_spec (s := (s.bound table).2) hvalid
        rcases hslot with ⟨htaken, hstep⟩ | ⟨hfree, hstep⟩
        · rw [hstep, if_neg (by simp [RuntimeBuilder.fail])]
          exact reinitRuntime_intact_iff hprepare htaken .errState
        · have hslots : (((s.bound table).2.buildActor actor).2.registry.slots actor).isSome =
              true := by
            rw [hstep, (runInit_fields _ _).1]
            simp [withRuntime, ActorRegistry.setRuntime, hid]
          have hbuilt : ((buildActors actorCatalog (s.bound table).2).2.registry.slots
              actor).isSome = true := by
            rw [hloop]
            split
            · exact buildActors_bound rest hslots
            · exact hslots
          rw [← hloop]
          constructor
          · intro h
            rw [h.registry, hfree] at hbuilt
            cases hbuilt
          · rintro ⟨_, _, hbound', _⟩
            rw [hfree] at hbound'
            cases hbound'
  · have hbindFails : s.bound table = s.bindRoutes table ∧ s.graph.activeRoutesBound = false := by
      unfold bound at hbound ⊢
      split at hbound
      · exact absurd rfl hbound
      · rename_i hflag
        exact ⟨if_neg hflag, Bool.not_eq_true _ ▸ hflag⟩
    have hbuild : s.build table = s.bound table := by rw [build_eq, if_pos hbound]
    rw [hbuild]
    refine iff_of_true (fun _ => hintact) (Or.inl ⟨hbindFails.2, ?_⟩)
    rw [← hbindFails.1]
    exact hbound

end Step

def runningGraph : RuntimeBuilder Unit Unit :=
  let built := ((init 0 0 () : RuntimeBuilder Unit Unit).addModule .app).2.build .generated
  let sent := ({ registry := built.2.registry, outside := () } : World Unit Unit).delivery
    Callbacks.none .app (Msg.blank.initSend .bootCompleted .boot .app).2
  { built.2 with registry := sent.2.2.registry }

/-- Building the running graph again fails, and the queued message is gone. -/
theorem failed_build_not_intact :
    (((init 0 0 () : RuntimeBuilder Unit Unit).addModule .app).2.build .generated).1 = .ok ∧
      runningGraph.registry.pending .app = 1 ∧
      (runningGraph.build .generated).1 = .errState ∧
      (runningGraph.build .generated).2.registry.pending .app = 0 ∧
      ¬ Intact runningGraph (runningGraph.build .generated).2 := by
  have hbefore : runningGraph.registry.pending .app = 1 := by decide +kernel
  have hafter : (runningGraph.build .generated).2.registry.pending .app = 0 := by decide +kernel
  refine ⟨by decide +kernel, hbefore, by decide +kernel, hafter, fun h => ?_⟩
  rw [h.registry, hbefore] at hafter
  cases hafter

end RuntimeBuilder

end EventFramework
