import EventFramework.Runtime.GraphBuilder

/-!
# The active routes of a built graph

The table that a build leaves was made by the last binding; it matches the actors of the
graph unless an actor was requested after that.
-/

namespace EventFramework
set_option autoImplicit false

variable {P ω : Type}

def ActiveRouteTable.Counted (table : ActiveRouteTable) : Prop :=
  table.activeCount + table.optionalDisabledCount + table.rejectedCount = table.entries.length

theorem ActiveRouteTable.Counted.add {table : ActiveRouteTable} (h : table.Counted)
    (entry : ActiveRoute) : (table.add entry).2.Counted := by
  unfold Counted at h ⊢
  unfold ActiveRouteTable.add
  split
  · simp only [List.length_append, List.length_singleton]
    cases entry.state <;> simp [ActiveRouteState.isRejected] <;> omega
  · exact h

/-- The event and the actor are valid, and the module of the actor accepts the QoS. -/
def Route.Accepted (route : Route) : Prop :=
  route.eventId.isValid = true ∧ route.targetActor.isValid = true ∧
    ∃ module, actorModuleFind route.targetActor = some module ∧
      validateRouteAgainstModule route module = .ok

theorem RouteGraph.emitFault_activeRoutesBound (graph : RouteGraph) (fault : FaultPayload) :
    (graph.emitFault fault).activeRoutesBound = graph.activeRoutesBound := by
  unfold RouteGraph.emitFault
  simp only
  split <;> rfl

namespace RouteBuilder

theorem recorded_activeRoutesBound (graph : RouteGraph) (entry : ActiveRoute) :
    (recorded graph entry).activeRoutesBound = graph.activeRoutesBound := by
  unfold recorded
  split
  · rfl
  · split
    · simp only [RouteGraph.emitFault_activeRoutesBound]
      split <;> rfl
    · rfl

/-- The loop never marks the table bound, and counts what it adds. -/
theorem bindLoop_keeps (builder : RouteBuilder) (routes : List Route) : ∀ graph : RouteGraph,
    (bindLoop builder routes graph).2.activeRoutesBound = graph.activeRoutesBound ∧
      (graph.activeRoutes.Counted → (bindLoop builder routes graph).2.activeRoutes.Counted) := by
  induction routes with
  | nil => exact fun graph => ⟨rfl, fun h => h⟩
  | cons route rest ih =>
    intro graph
    simp only [bindLoop]
    split
    · refine ⟨RouteGraph.emitFault_activeRoutesBound _ _, fun h => ?_⟩
      rw [overflowed, RouteGraph.emitFault_activeRoutes]
      exact h.add _
    · split
      · refine ⟨recorded_activeRoutesBound _ _, fun h => ?_⟩
        rw [recorded_activeRoutes]
        exact h.add _
      · obtain ⟨hbound, hcounted⟩ := ih (recorded (graph.addRoute (builder.classifyRoute route)
          (builder.classifyRoute_reasoned route)) (builder.classifyRoute route))
        refine ⟨hbound.trans (recorded_activeRoutesBound _ _), fun h => hcounted ?_⟩
        rw [recorded_activeRoutes]
        exact h.add _

theorem bindRoutes_counted (builder : RouteBuilder) (table : RouteTable) (graph : RouteGraph) :
    (builder.bindRoutes table graph).2.2.activeRoutes.Counted := by
  have hloop := (bindLoop_keeps builder table.routes
    { graph with
      activeRoutesBound := false
      activeRoutes := {}
      reasoned := ActiveRouteTable.empty_reasoned }).2 rfl
  unfold bindRoutes
  simp only
  split
  · exact hloop
  · split
    · exact hloop
    · exact hloop

theorem bindRoutes_failed {builder : RouteBuilder} {table : RouteTable} {graph : RouteGraph}
    (h : (builder.bindRoutes table graph).1 ≠ .ok) :
    (builder.bindRoutes table graph).2.2.activeRoutesBound = false := by
  have hloop := (bindLoop_keeps builder table.routes
    { graph with
      activeRoutesBound := false
      activeRoutes := {}
      reasoned := ActiveRouteTable.empty_reasoned }).1
  unfold bindRoutes at h ⊢
  simp only at h ⊢
  split
  · exact hloop
  · rename_i hok
    split
    · exact hloop
    · rename_i hfinal
      rw [if_neg hok, if_neg hfinal] at h
      exact absurd rfl h

theorem bindRoutes_requested (builder : RouteBuilder) (table : RouteTable) (graph : RouteGraph) :
    (builder.bindRoutes table graph).2.1.requested = builder.requested := by
  unfold bindRoutes
  simp only
  split
  · rfl
  · split <;> rfl

theorem classifyRoute_enabled_iff (builder : RouteBuilder) (route : Route) :
    (builder.classifyRoute route).state = .enabled ↔
      route.Accepted ∧ builder.requested route.targetActor = true := by
  unfold classifyRoute Route.Accepted
  by_cases hevent : route.eventId.isValid = true
  · by_cases hactor : route.targetActor.isValid = true
    · cases hmodule : actorModuleFind route.targetActor with
      | none => simp [hevent, hactor]
      | some module =>
        by_cases hqos : validateRouteAgainstModule route module = .ok
        · by_cases hrequested : builder.requested route.targetActor = true
          · simp [hevent, hactor, hqos, hrequested, ActiveRoute.enabled]
          · simp only [hevent, hactor, hqos, hrequested]
            simp only [Bool.not_true, Bool.false_eq_true, ↓reduceIte, ne_eq, not_true_eq_false,
              and_false, iff_false]
            split <;> simp [ActiveRoute.optionalDisabled]
        · simp [hevent, hactor, hqos]
    · simp [hevent, hactor]
  · simp [hevent]

end RouteBuilder

namespace RuntimeBuilder

variable {s : RuntimeBuilder P ω}

structure Builds (s t : RuntimeBuilder P ω) : Prop where
  graph : t.graph = s.graph
  requested : t.toRouteBuilder.requested = s.toRouteBuilder.requested
  registry : ∀ actor, (s.registry.slots actor).isSome = true →
    (t.registry.slots actor).isSome = true

theorem Builds.refl (s : RuntimeBuilder P ω) : Builds s s := ⟨rfl, rfl, fun _ h => h⟩

theorem Builds.trans {s t u : RuntimeBuilder P ω} (hst : Builds s t) (htu : Builds t u) :
    Builds s u :=
  ⟨htu.graph.trans hst.graph, htu.requested.trans hst.requested,
    fun actor h => htu.registry actor (hst.registry actor h)⟩

theorem runInit_builds (s : RuntimeBuilder P ω) (actor : ActorId) :
    Builds s (s.runInit actor).2 := by
  unfold runInit
  split
  · exact .refl s
  · simp only
    split
    · exact ⟨rfl, rfl, fun _ h => h⟩
    · exact ⟨rfl, rfl, fun _ h => h⟩

theorem buildActor_ok {actor : ActorId} (h : (s.buildActor actor).1 = .ok) :
    Builds s (s.buildActor actor).2 ∧
      ((s.buildActor actor).2.registry.slots actor).isSome = true := by
  rcases s.buildActor_cases actor with ⟨rc, hrc, _, hbuild⟩ | ⟨runtime, _, hid, hslot⟩
  · rw [hbuild] at h
    exact absurd h hrc
  · rcases hslot with ⟨_, hbuild⟩ | ⟨_, hbuild⟩
    · rw [hbuild] at h
      cases h
    · rw [hbuild]
      have hrun := runInit_builds (s.withRuntime runtime) actor
      have hslots : (s.withRuntime runtime).registry.slots =
          Function.update s.registry.slots actor (some runtime) := by rw [← hid]; rfl
      refine ⟨⟨hrun.graph, hrun.requested, fun other hother => hrun.registry other ?_⟩,
        hrun.registry actor ?_⟩
      · rw [hslots]
        by_cases he : other = actor
        · rw [he, Function.update_self]
          rfl
        · rwa [Function.update_of_ne he]
      · rw [hslots, Function.update_self]
        rfl

theorem buildActors_ok (actors : List ActorId) : ∀ {s : RuntimeBuilder P ω},
    (buildActors actors s).1 = .ok →
    Builds s (buildActors actors s).2 ∧
      ∀ actor ∈ actors, s.toRouteBuilder.requested actor = true →
        ((buildActors actors s).2.registry.slots actor).isSome = true := by
  induction actors with
  | nil => exact fun _ => ⟨.refl _, fun actor hmem => absurd hmem List.not_mem_nil⟩
  | cons actor rest ih =>
    intro s h
    by_cases hrequested : s.toRouteBuilder.requested actor = true
    · by_cases hbuilt : (s.buildActor actor).1 = .ok
      · simp only [buildActors, hrequested, hbuilt, ↓reduceIte] at h ⊢
        obtain ⟨hstep, hslot⟩ := buildActor_ok hbuilt
        obtain ⟨hrest, hslots⟩ := ih h
        refine ⟨hstep.trans hrest, fun other hmem hother => ?_⟩
        rcases List.mem_cons.mp hmem with rfl | hlater
        · exact hrest.registry _ hslot
        · exact hslots other hlater (by rw [hstep.requested]; exact hother)
      · simp only [buildActors, hrequested, hbuilt, ↓reduceIte] at h
    · simp only [buildActors, hrequested, Bool.false_eq_true, ↓reduceIte] at h ⊢
      obtain ⟨hrest, hslots⟩ := ih h
      refine ⟨hrest, fun other hmem hother => ?_⟩
      rcases List.mem_cons.mp hmem with rfl | hlater
      · exact absurd hother hrequested
      · exact hslots other hlater hother

/-- The binding that the build starts from: the one made before, or a new one. -/
def bound (table : RouteTable) (s : RuntimeBuilder P ω) : Result × RuntimeBuilder P ω :=
  if s.graph.activeRoutesBound then (.ok, s) else s.bindRoutes table

theorem build_eq (table : RouteTable) (s : RuntimeBuilder P ω) : s.build table =
    if (s.bound table).1 ≠ .ok then s.bound table
    else if (buildActors actorCatalog (s.bound table).2).1 ≠ .ok then
      buildActors actorCatalog (s.bound table).2
    else if (RuntimeScheduler.init
        (buildActors actorCatalog (s.bound table).2).2.activeDomainMask).1 ≠ .ok then
      (buildActors actorCatalog (s.bound table).2).2.fail (RuntimeScheduler.init
        (buildActors actorCatalog (s.bound table).2).2.activeDomainMask).1
    else (.ok, { (buildActors actorCatalog (s.bound table).2).2 with
      scheduler := some (RuntimeScheduler.init
        (buildActors actorCatalog (s.bound table).2).2.activeDomainMask).2 }) := rfl

theorem build_ok {table : RouteTable} (h : (s.build table).1 = .ok) :
    (s.bound table).1 = .ok ∧ Builds (s.bound table).2 (s.build table).2 ∧
      ∀ actor ∈ actorCatalog, (s.bound table).2.toRouteBuilder.requested actor = true →
        ((s.build table).2.registry.slots actor).isSome = true := by
  rw [build_eq] at h ⊢
  split at h
  · rename_i hfail
    exact absurd h hfail
  · rename_i hbound
    rw [if_neg hbound]
    split at h
    · rename_i hfail
      exact absurd h hfail
    · rename_i hactors
      rw [if_neg hactors]
      split at h
      · rename_i hfail
        exact absurd h hfail
      · rename_i hscheduler
        rw [if_neg hscheduler]
        obtain ⟨hkeep, hslots⟩ := buildActors_ok actorCatalog (not_not.mp hactors)
        exact ⟨not_not.mp hbound, ⟨hkeep.graph, hkeep.requested, hkeep.registry⟩, hslots⟩

theorem call_requested (table : RouteTable) (s : RuntimeBuilder P ω) (input : BuilderCall ω)
    {actor : ActorId} (h : s.toRouteBuilder.requested actor = true) :
    (s.call table input).toRouteBuilder.requested actor = true := by
  have hadd : ∀ instance_ : ActorInstance ω,
      (s.addInstance instance_).2.toRouteBuilder.requested actor = true := by
    intro instance_
    unfold addInstance
    split
    · exact h
    · split
      · exact h
      · by_cases he : actor = instance_.actorId
        · simp [he]
        · simp [Function.update_of_ne he, h]
  cases input with
  | addInstance instance_ => exact hadd instance_
  | addModule added =>
    simp only [call, addModule]
    split
    · exact h
    · split
      · exact h
      · split
        · exact h
        · split
          · exact h
          · exact hadd _
  | setRouteValidationFlags flags => exact h
  | bindRoutes =>
    change ((s.toRouteBuilder.bindRoutes table s.graph).2.1).requested actor = true
    rw [RouteBuilder.bindRoutes_requested]
    exact h

theorem run_requested (table : RouteTable) (calls : List (BuilderCall ω)) {actor : ActorId} :
    ∀ {s : RuntimeBuilder P ω}, s.toRouteBuilder.requested actor = true →
      (Machine.run (call table) s calls).toRouteBuilder.requested actor = true := by
  induction calls with
  | nil => exact fun h => h
  | cons input calls ih => exact fun h => ih (call_requested table _ input h)

theorem call_graph (table : RouteTable) (s : RuntimeBuilder P ω) {input : BuilderCall ω}
    (h : input ≠ .bindRoutes) : (s.call table input).graph = s.graph := by
  have hadd : ∀ instance_ : ActorInstance ω, (s.addInstance instance_).2.graph = s.graph := by
    intro instance_
    unfold addInstance
    split
    · rfl
    · split <;> rfl
  cases input with
  | addInstance instance_ => exact hadd instance_
  | addModule added =>
    simp only [call, addModule]
    split
    · rfl
    · split
      · rfl
      · split
        · rfl
        · split
          · rfl
          · exact hadd _
  | setRouteValidationFlags flags => rfl
  | bindRoutes => exact absurd rfl h

theorem run_graph (table : RouteTable) {calls : List (BuilderCall ω)}
    (h : BuilderCall.bindRoutes ∉ calls) : ∀ s : RuntimeBuilder P ω,
      (Machine.run (call table) s calls).graph = s.graph := by
  induction calls with
  | nil => exact fun _ => rfl
  | cons input calls ih =>
    intro s
    obtain ⟨hinput, hcalls⟩ := not_or.mp (mt List.mem_cons.mpr h)
    exact (ih hcalls _).trans (call_graph table s (Ne.symm hinput))

end RuntimeBuilder

namespace BuilderCall

/-- The calls before and after the last binding. -/
theorem exists_last {calls : List (BuilderCall ω)} (h : .bindRoutes ∈ calls) :
    ∃ before after, calls = before ++ .bindRoutes :: after ∧ .bindRoutes ∉ after := by
  induction calls with
  | nil => cases h
  | cons input calls ih =>
    by_cases hlater : .bindRoutes ∈ calls
    · obtain ⟨before, after, rfl, hafter⟩ := ih hlater
      exact ⟨input :: before, after, rfl, hafter⟩
    · rcases List.mem_cons.mp h with rfl | hmem
      · exact ⟨[], calls, rfl, hlater⟩
      · exact absurd hmem hlater

theorem last_unique {before before' after after' : List (BuilderCall ω)}
    (h : before ++ .bindRoutes :: after = before' ++ .bindRoutes :: after')
    (hafter : .bindRoutes ∉ after) (hafter' : .bindRoutes ∉ after') : before = before' := by
  rcases List.append_eq_append_iff.mp h with ⟨middle, hbefore, hrest⟩ | ⟨middle, hbefore, hrest⟩
  · cases middle with
    | nil => simpa using hbefore.symm
    | cons input middle =>
      have hmem : .bindRoutes ∈ after := by
        rw [(List.cons.inj hrest).2]
        simp
      exact absurd hmem hafter
  · cases middle with
    | nil => simpa using hbefore
    | cons input middle =>
      have hmem : .bindRoutes ∈ after' := by
        rw [(List.cons.inj hrest).2]
        simp
      exact absurd hmem hafter'

end BuilderCall

namespace RuntimeBuilder

structure RoutesMatch (table : RouteTable) (s : RuntimeBuilder P ω) : Prop where
  routes : s.graph.activeRoutes.entries.map ActiveRoute.route = table.routes
  enabled : ∀ entry ∈ s.graph.activeRoutes.entries, entry.route.Accepted →
    (entry.state = .enabled ↔ s.toRouteBuilder.requested entry.route.targetActor = true)
  bound : ∀ entry ∈ s.graph.activeRoutes.entries, entry.state = .enabled →
    (s.registry.find entry.route.targetActor).isSome = true
  others : ∀ entry ∈ s.graph.activeRoutes.entries,
    ¬(entry.route.Accepted ∧ s.toRouteBuilder.requested entry.route.targetActor = true) →
    entry.state = .optionalDisabled ∨ entry.state.isRejected = true
  counted : s.graph.activeRoutes.Counted

/-- No actor of an accepted route was first requested after the last binding, if that one
succeeded. -/
def NoneRequestedLate (table : RouteTable) (s : RuntimeBuilder P ω)
    (calls : List (BuilderCall ω)) : Prop :=
  ∀ before after, calls = before ++ .bindRoutes :: after → .bindRoutes ∉ after →
    ((Machine.run (call table) s before).bindRoutes table).1 = .ok →
    ∀ route ∈ table.routes, route.Accepted →
      (Machine.run (call table) s calls).toRouteBuilder.requested route.targetActor = true →
      (Machine.run (call table) s before).toRouteBuilder.requested route.targetActor = true

/-- The table was made by one builder, which knew no more actors than the last one. -/
structure MadeBy (table : RouteTable) (graph : RouteGraph) (requested : ActorId → Bool)
    (maker : RouteBuilder) : Prop where
  entries : graph.activeRoutes.entries = table.routes.map maker.classifyRoute
  counted : graph.activeRoutes.Counted
  known : ∀ actor, maker.requested actor = true → requested actor = true

theorem bindRoutes_madeBy {table : RouteTable} {s : RuntimeBuilder P ω}
    (h : (s.bindRoutes table).1 = .ok) :
    (s.bindRoutes table).2.graph.activeRoutesBound = true ∧
      MadeBy table (s.bindRoutes table).2.graph s.toRouteBuilder.requested s.toRouteBuilder := by
  have hpair : s.toRouteBuilder.bindRoutes table s.graph =
      (.ok, (s.toRouteBuilder.bindRoutes table s.graph).2.1,
        (s.toRouteBuilder.bindRoutes table s.graph).2.2) := Prod.ext h rfl
  have hbound := RouteBuilder.bindRoutes_ok hpair
  exact ⟨hbound.1, hbound.2.2.1, RouteBuilder.bindRoutes_counted .., fun _ h => h⟩

theorem run_bound (table : RouteTable) {s : RuntimeBuilder P ω}
    (hinit : s.graph.activeRoutesBound = false) (calls : List (BuilderCall ω)) :
    (Machine.run (call table) s calls).graph.activeRoutesBound = true ↔
      ∃ before after, calls = before ++ .bindRoutes :: after ∧ .bindRoutes ∉ after ∧
        ((Machine.run (call table) s before).bindRoutes table).1 = .ok ∧
        (Machine.run (call table) s calls).graph =
          ((Machine.run (call table) s before).bindRoutes table).2.graph := by
  by_cases hmem : .bindRoutes ∈ calls
  · obtain ⟨before, after, rfl, hafter⟩ := BuilderCall.exists_last hmem
    have hgraph : (Machine.run (call table) s (before ++ .bindRoutes :: after)).graph =
        ((Machine.run (call table) s before).bindRoutes table).2.graph := by
      rw [Machine.run_append, Machine.run_cons, run_graph table hafter]
      rfl
    constructor
    · intro hbound
      refine ⟨before, after, rfl, hafter, ?_, hgraph⟩
      by_contra hfail
      have hunbound := RouteBuilder.bindRoutes_failed hfail
      rw [hgraph] at hbound
      exact Bool.false_ne_true (hunbound.symm.trans hbound)
    · rintro ⟨_, _, _, _, hok, hsame⟩
      rw [hsame]
      exact (bindRoutes_madeBy hok).1
  · rw [run_graph table hmem, hinit]
    constructor
    · intro h
      cases h
    · rintro ⟨before, after, rfl, _, _, _⟩
      simp at hmem

/-- A built graph whose table was made by `maker` matches just when `maker` knew every actor of
an accepted route. -/
theorem MadeBy.routesMatch_iff {table : RouteTable} {s : RuntimeBuilder P ω} {maker : RouteBuilder}
    (h : MadeBy table s.graph s.toRouteBuilder.requested maker)
    (hslots : ∀ actor ∈ actorCatalog, s.toRouteBuilder.requested actor = true →
      (s.registry.slots actor).isSome = true) :
    s.RoutesMatch table ↔ ∀ route ∈ table.routes, route.Accepted →
      s.toRouteBuilder.requested route.targetActor = true →
      maker.requested route.targetActor = true := by
  have hentry : ∀ entry ∈ s.graph.activeRoutes.entries, entry.route ∈ table.routes ∧
      (entry.state = .enabled ↔
        entry.route.Accepted ∧ maker.requested entry.route.targetActor = true) := by
    intro entry hmem
    rw [h.entries] at hmem
    obtain ⟨route, hroute, rfl⟩ := List.mem_map.mp hmem
    rw [RouteBuilder.classifyRoute_enabled_iff, RouteBuilder.classifyRoute_route]
    exact ⟨hroute, Iff.rfl⟩
  constructor
  · intro hmatch route hroute haccepted hrequested
    have hmem : maker.classifyRoute route ∈ s.graph.activeRoutes.entries := by
      rw [h.entries]
      exact List.mem_map_of_mem hroute
    have hsame := RouteBuilder.classifyRoute_route maker route
    have henabled := (hmatch.enabled _ hmem (by rwa [hsame])).mpr (by rwa [hsame])
    exact ((RouteBuilder.classifyRoute_enabled_iff maker route).mp henabled).2
  · intro hknown
    refine ⟨?_, ?_, ?_, ?_, h.counted⟩
    · rw [h.entries, List.map_map]
      exact (List.map_congr_left fun route _ =>
        RouteBuilder.classifyRoute_route maker route).trans (List.map_id _)
    · intro entry hmem haccepted
      rw [(hentry entry hmem).2]
      constructor
      · rintro ⟨_, hmaker⟩
        exact h.known _ hmaker
      · intro hrequested
        exact ⟨haccepted, hknown _ (hentry entry hmem).1 haccepted hrequested⟩
    · intro entry hmem henabled
      obtain ⟨haccepted, hmaker⟩ := (hentry entry hmem).2.mp henabled
      rw [ActorRegistry.find, if_pos haccepted.2.1]
      exact hslots _ ((mem_actorCatalog_iff _).mpr haccepted.2.1) (h.known _ hmaker)
    · intro entry hmem hother
      have hnot : entry.state ≠ .enabled := fun henabled =>
        hother ⟨((hentry entry hmem).2.mp henabled).1,
          h.known _ ((hentry entry hmem).2.mp henabled).2⟩
      cases hstate : entry.state <;> simp_all [ActiveRouteState.isRejected]

/-- After a successful build the active routes match the actors requested just when none of
them was requested after the last successful binding. -/
theorem build_routesMatch_iff (table : RouteTable) (boardCaps runtimeCaps : UInt32) (outside : ω)
    (calls : List (BuilderCall ω))
    (h : ((Machine.run (call table) (init boardCaps runtimeCaps outside : RuntimeBuilder P ω)
      calls).build table).1 = .ok) :
    ((Machine.run (call table) (init boardCaps runtimeCaps outside : RuntimeBuilder P ω)
      calls).build table).2.RoutesMatch table ↔
      NoneRequestedLate table (init boardCaps runtimeCaps outside : RuntimeBuilder P ω) calls := by
  obtain ⟨hbound, hbuilds, hslots⟩ := build_ok h
  have hinit : (init boardCaps runtimeCaps outside : RuntimeBuilder P ω).graph.activeRoutesBound =
      false := rfl
  have hrun := run_bound table hinit calls
  generalize (init boardCaps runtimeCaps outside : RuntimeBuilder P ω) = start at *
  generalize hs : Machine.run (call table) start calls = s at *
  have hslots' : ∀ actor ∈ actorCatalog, (s.build table).2.toRouteBuilder.requested actor = true →
      ((s.build table).2.registry.slots actor).isSome = true := by
    intro actor hmem hrequested
    rw [hbuilds.requested] at hrequested
    exact hslots actor hmem hrequested
  by_cases hflag : s.graph.activeRoutesBound = true
  · obtain ⟨before, after, hcalls, hafter, hok, hgraph⟩ := hrun.mp hflag
    have hsame : s.bound table = (.ok, s) := by rw [bound, if_pos hflag]
    rw [hsame] at hbuilds
    have hknown : ∀ actor,
        (Machine.run (call table) start before).toRouteBuilder.requested actor = true →
        (s.build table).2.toRouteBuilder.requested actor = true := by
      intro actor hactor
      rw [hbuilds.requested, ← hs, hcalls, Machine.run_append]
      exact run_requested table _ hactor
    have hmade : MadeBy table (s.build table).2.graph (s.build table).2.toRouteBuilder.requested
        (Machine.run (call table) start before).toRouteBuilder := by
      have hfirst := (bindRoutes_madeBy hok).2
      refine ⟨?_, ?_, hknown⟩
      · rw [hbuilds.graph, hgraph]
        exact hfirst.entries
      · rw [hbuilds.graph, hgraph]
        exact hfirst.counted
    rw [hmade.routesMatch_iff hslots', hbuilds.requested]
    constructor
    · intro hall before' after' hcalls' hafter' _
      rw [← BuilderCall.last_unique (hcalls.symm.trans hcalls') hafter hafter', hs]
      exact hall
    · intro hlate
      have hall := hlate before after hcalls hafter hok
      rw [hs] at hall
      exact hall
  · have hbind : s.bound table = s.bindRoutes table := by rw [bound, if_neg hflag]
    rw [hbind] at hbound hbuilds hslots
    have hfirst := (bindRoutes_madeBy hbound).2
    have hrequested : (s.build table).2.toRouteBuilder.requested = s.toRouteBuilder.requested :=
      hbuilds.requested.trans (RouteBuilder.bindRoutes_requested ..)
    have hmade : MadeBy table (s.build table).2.graph (s.build table).2.toRouteBuilder.requested
        s.toRouteBuilder := by
      refine ⟨?_, ?_, ?_⟩
      · rw [hbuilds.graph]
        exact hfirst.entries
      · rw [hbuilds.graph]
        exact hfirst.counted
      · rw [hrequested]
        exact fun _ hactor => hactor
    rw [hmade.routesMatch_iff hslots', hrequested]
    constructor
    · intro _ before after hcalls hafter hok
      have hunbound : ¬s.graph.activeRoutesBound = true := hflag
      rw [← hs, hcalls, Machine.run_append, Machine.run_cons, run_graph table hafter] at hunbound
      exact absurd (bindRoutes_madeBy hok).1 hunbound
    · exact fun _ _ _ _ hactor => hactor

theorem build_routesMatch_iff_app :
    ((Machine.run (call .generated) (init 0 0 () : RuntimeBuilder Unit Unit)
      [.addModule .app, .bindRoutes]).build .generated).2.RoutesMatch .generated := by
  refine (build_routesMatch_iff .generated 0 0 () [.addModule .app, .bindRoutes] ?_).mpr ?_
  · decide +kernel
  · intro before after hcalls hafter _ route _ _ hrequested
    have hnone : (.bindRoutes : BuilderCall Unit) ∉ [] := List.not_mem_nil
    have hbefore : [.addModule .app] = before := BuilderCall.last_unique hcalls hnone hafter
    subst hbefore
    exact hrequested

/-- The route of an actor that is added after the binding stays disabled. -/
theorem not_build_routesMatch : ¬∀ (boardCaps runtimeCaps : UInt32)
    (calls : List (BuilderCall Unit)),
    ((Machine.run (call .generated) (init boardCaps runtimeCaps () : RuntimeBuilder Unit Unit)
      calls).build .generated).1 = .ok →
    ((Machine.run (call .generated) (init boardCaps runtimeCaps () : RuntimeBuilder Unit Unit)
      calls).build .generated).2.RoutesMatch .generated := by
  intro h
  have hmatch := h 0 0 [.bindRoutes, .addModule .app] (by decide +kernel)
  have hmem : ActiveRoute.optionalDisabled { eventId := .bootCompleted, targetActor := .app } ∈
      ((Machine.run (call .generated) (init 0 0 () : RuntimeBuilder Unit Unit)
        [.bindRoutes, .addModule .app]).build .generated).2.graph.activeRoutes.entries := by
    decide +kernel
  have henabled := (hmatch.enabled _ hmem ⟨by decide, by decide, {}, rfl, by decide⟩).mpr
    (by decide +kernel)
  revert henabled
  decide

end RuntimeBuilder

end EventFramework
