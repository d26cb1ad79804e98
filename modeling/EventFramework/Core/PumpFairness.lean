import EventFramework.Core.PumpRules

/-!
# No starvation

The events of a scheduler in the history form a `RoundRobin.Trace`, and whatever it
passed over had nothing to do. So nothing with work to do waits while another is visited
twice, whatever the budgets and the handlers.
-/

namespace EventFramework
set_option autoImplicit false

open RoundRobin

variable {P ω : Type}

/-- The history as the trace of a scheduler over `count` indices: `event` reads its
events, and whatever was passed over was idle. -/
structure Walk (count : Nat) (event : PumpEvent P → Option Event)
    (idle : ActorRegistry P → Nat → Prop) (history : List (Moment P)) (next index : Nat) : Prop where
  trace : Trace count (history.filterMap fun m => event m.event) next index
  passed : ∀ m ∈ history, ∀ i, event m.event = some (.passed i) → idle m.registry i

namespace Walk

variable {count : Nat} {event : PumpEvent P → Option Event} {idle : ActorRegistry P → Nat → Prop}
variable {history : List (Moment P)} {next index : Nat}

theorem start (h : next < count) : Walk count event idle [] next next :=
  ⟨.start h, by simp⟩

theorem restart (h : Walk count event idle history next index) :
    Walk count event idle history next next :=
  ⟨.restart h.trace, h.passed⟩

theorem pass (h : Walk count event idle history next index) {m : Moment P}
    (hevent : event m.event = some (.passed index)) (hidle : idle m.registry index) :
    Walk count event idle (history ++ [m]) next (advance count index) := by
  refine ⟨?_, ?_⟩
  · rw [List.filterMap_append]
    simpa [hevent] using h.trace.passed
  · intro m' hm i hi
    rcases List.mem_append.mp hm with hm | hm
    · exact h.passed m' hm i hi
    · rw [List.mem_singleton.mp hm] at hi ⊢
      rw [hevent] at hi
      obtain rfl : index = i := by simpa using hi
      exact hidle

theorem visit (h : Walk count event idle history next index) {m : Moment P}
    (hevent : event m.event = some (.visited index)) :
    Walk count event idle (history ++ [m]) (advance count index) (advance count index) := by
  refine ⟨?_, ?_⟩
  · rw [List.filterMap_append]
    simpa [hevent] using h.trace.visited
  · intro m' hm i hi
    rcases List.mem_append.mp hm with hm | hm
    · exact h.passed m' hm i hi
    · rw [List.mem_singleton.mp hm, hevent] at hi
      simp at hi

theorem extend {w w' : World P ω} (h : Walk count event idle w.history next index)
    (hext : Extends (fun e => event e = none) w w') : Walk count event idle w'.history next index := by
  obtain ⟨later, heq, hquiet⟩ := hext
  have hnone : later.filterMap (fun m => event m.event) = [] :=
    List.filterMap_eq_nil_iff.mpr hquiet
  refine ⟨?_, ?_⟩
  · rw [heq, List.filterMap_append, hnone, List.append_nil]
    exact h.trace
  · intro m hm i hi
    rw [heq] at hm
    rcases List.mem_append.mp hm with hm | hm
    · exact h.passed m hm i hi
    · rw [hquiet m hm] at hi
      simp at hi

/-- Between two visits of `a`, an index that is never idle is visited. -/
theorem fair {a b : Nat} (ha : a < count) (hb : b < count) (hne : b ≠ a)
    {before between after : List (Moment P)} {m m' : Moment P}
    (h : Walk count event idle (before ++ m :: (between ++ m' :: after)) next index)
    (hm : event m.event = some (.visited a)) (hm' : event m'.event = some (.visited a))
    (hbusy : ∀ x ∈ between, ¬idle x.registry b) :
    ∃ x ∈ between, event x.event = some (.visited b) := by
  have htrace := h.trace
  simp only [List.filterMap_append, List.filterMap_cons, hm, hm'] at htrace
  have hvisited := htrace.fair ha hb hne (fun hpassed => by
    obtain ⟨x, hx, hevent⟩ := List.mem_filterMap.mp hpassed
    refine hbusy x hx (h.passed x ?_ b hevent)
    simp [hx])
  exact List.mem_filterMap.mp hvisited

end Walk

namespace DomainPump

/-- The scan of the pump of a domain, as the history shows it. -/
def scanEvent (domain : ExecutionDomain) : PumpEvent P → Option Event
  | .passedActor d index => if d = domain then some (.passed index) else none
  | .visitedActor d index => if d = domain then some (.visited index) else none
  | _ => none

theorem eq_visitedActor {domain : ExecutionDomain} {event : PumpEvent P} {index : Nat}
    (h : scanEvent domain event = some (.visited index)) : event = .visitedActor domain index := by
  cases event with
  | visitedActor d i =>
    by_cases hd : d = domain
    · simp only [scanEvent, hd, if_true, Option.some.injEq, Event.visited.injEq] at h
      rw [hd, h]
    · simp [scanEvent, hd] at h
  | passedActor d i =>
    by_cases hd : d = domain <;> simp [scanEvent, hd] at h
  | _ => simp [scanEvent] at h

def ActorIdle (domain : ExecutionDomain) (registry : ActorRegistry P) (index : Nat) : Prop :=
  actorMatches (.ofIndex index) domain = false ∨ registry.pending (.ofIndex index) = 0

abbrev ActorWalk (domain : ExecutionDomain) (history : List (Moment P)) (next index : Nat) : Prop :=
  Walk actorCount (scanEvent domain) (ActorIdle domain) history next index

/-- The walk of a call, at its position. -/
def Call.Walks (domain : ExecutionDomain) (index : Nat) (s : Call P ω) : Prop :=
  s.pump.domain = domain ∧ ActorWalk domain s.world.history s.pump.nextActorIndex index

variable {prog : Program P ω} {domain : ExecutionDomain} {index : Nat} {s : Call P ω}

variable (prog) in
theorem visit_walks (h : s.Walks domain index) (runtime : ActorRuntime P) (budget : Nat) :
    (s.visit prog index runtime budget).2.2.Walks domain (advance actorCount index) := by
  obtain ⟨hdomain, hwalk⟩ := h
  have hevent : scanEvent domain (.visitedActor s.pump.domain index : PumpEvent P) =
      some (.visited index) := if_pos hdomain
  have hquiet : ∀ e : PumpEvent P, e.ofHandling → scanEvent domain e = none := by
    intro e he
    cases e <;> first | rfl | exact he.elim
  have hext := (Extends.pumpFrame prog hquiet).actorPump (.ofIndex index) budget
    (s.world.note (.visitedActor s.pump.domain index))
  exact ⟨hdomain, (hwalk.visit (m := ⟨_, s.world.registry⟩) hevent).extend hext⟩

theorem turn_walks (h : s.Walks domain index) (remaining : Nat) :
    (turn prog index remaining s).Leads (Call.Walks domain (advance actorCount index))
      (fun t => ∃ i, t.Walks domain i) := by
  have hexamined : s.examined.Walks domain index := h
  rcases turn_cases prog index remaining s with
    ⟨t, ht, heq, hidle⟩ | ⟨runtime, _, _, _, heq⟩ | ⟨runtime, rc, report, t, _, _, _, _, hvisit, heq⟩
  · have hsame : t.world = s.world ∧ t.pump = s.pump := by
      rcases ht with rfl | rfl <;> exact ⟨rfl, rfl⟩
    obtain ⟨hdomain, hwalk⟩ := h
    rw [heq]
    refine ⟨by rw [← hdomain, ← hsame.2]; rfl, ?_⟩
    have hevent : scanEvent domain (.passedActor s.pump.domain index : PumpEvent P) =
        some (.passed index) := if_pos hdomain
    have hpass := hwalk.pass (m := ⟨_, s.world.registry⟩) hevent (hdomain ▸ hidle)
    rw [← hsame.1, ← hsame.2] at hpass
    exact hpass
  · rw [heq]
    exact ⟨index, hexamined⟩
  · have hnext := visit_walks prog hexamined runtime (min runtime.defaultBudget remaining)
    rw [hvisit] at hnext
    rcases heq with ⟨_, heq⟩ | ⟨_, _, heq⟩ | ⟨_, heq⟩ <;> rw [heq]
    · exact hnext
    · exact ⟨_, hnext⟩
    · exact hnext

theorem run_walks {pump : DomainPump} {w : World P ω} (hdomain : pump.domain = domain)
    (h : ActorWalk domain w.history pump.nextActorIndex index) (budget : Nat) :
    (pump.run prog budget w).2.2.1.domain = domain ∧
      ∃ i, ActorWalk domain (pump.run prog budget w).2.2.2.history
        (pump.run prog budget w).2.2.1.nextActorIndex i := by
  have hinv : RoundRobin.Invariant actorCount (turn prog) (fun s => s.pump.nextActorIndex)
      (fun i _ _ s => s.Walks domain i) (fun s _ => ∃ i, Call.Walks domain i s) :=
    Invariant.of_turn (fun h => turn_walks h _) fun h => ⟨h.1, h.2.restart⟩
  have hcursor : (enter pump budget w).wrapped.pump.nextActorIndex = pump.nextActorIndex :=
    inRange_of_lt h.trace.bounds.1
  have hstart : (enter pump budget w).wrapped.Walks domain index := ⟨hdomain, by rwa [hcursor]⟩
  have hloops := hinv.rounds budget index budget false hstart
  change (loops prog budget budget _).Satisfies _ _ at hloops
  unfold run
  rcases runFuel_cases prog budget pump budget w with
    ⟨_, heq⟩ | ⟨_, _, heq⟩ | ⟨_, _, ⟨s, rc, hout, heq⟩ | ⟨remaining, made, s, hout, heq⟩⟩
  · rw [heq]
    exact ⟨hdomain, _, h⟩
  · rw [heq]
    exact ⟨hdomain, _, h⟩
  · rw [hout] at hloops
    obtain ⟨i, hend⟩ := hloops
    rw [heq]
    exact ⟨hend.1, i, hend.2⟩
  · rw [hout] at hloops
    obtain ⟨i, hend⟩ := hloops
    obtain ⟨hworld, _, hd, hnext, _⟩ := finish_cases remaining made s
    rw [heq]
    simp only [Call.result, hworld, hd, hnext]
    exact ⟨hend.1, i, hend.2⟩

end DomainPump

namespace SystemPump

def scanEvent : PumpEvent P → Option Event
  | .passedDomain index => some (.passed index)
  | .visitedDomain index => some (.visited index)
  | _ => none

theorem eq_visitedDomain {event : PumpEvent P} {index : Nat}
    (h : scanEvent event = some (.visited index)) : event = .visitedDomain index := by
  cases event with
  | visitedDomain i =>
    simp only [scanEvent, Option.some.injEq, Event.visited.injEq] at h
    rw [h]
  | _ => simp [scanEvent] at h

def DomainIdle (bound : ExecutionDomain → Bool) (registry : ActorRegistry P) (index : Nat) : Prop :=
  bound (.ofIndex index) = false ∨ DomainPump.pending (.ofIndex index) registry = 0

abbrev DomainWalk (bound : ExecutionDomain → Bool) (history : List (Moment P)) (next index : Nat) :
    Prop :=
  Walk domainCount scanEvent (DomainIdle bound) history next index

def Binds (pump : SystemPump) (bound : ExecutionDomain → Bool) : Prop :=
  ∀ domain, (pump.slots domain).isSome = bound domain

def Call.Walks (bound : ExecutionDomain → Bool) (index : Nat) (s : Call P ω) : Prop :=
  s.pump.Binds bound ∧ DomainWalk bound s.world.history s.pump.nextDomainIndex index

variable {prog : Program P ω} {bound : ExecutionDomain → Bool} {index : Nat} {s : Call P ω}

theorem setDomain_binds {pump : SystemPump} {domainPump : DomainPump} (h : pump.Binds bound)
    (hbound : bound domainPump.domain = true) : (pump.setDomain domainPump).Binds bound := by
  intro domain
  by_cases he : domain = domainPump.domain
  · simp [setDomain, he, hbound]
  · simp [setDomain, he, h domain]

variable (prog) in
theorem visit_walks (h : s.Walks bound index) {domainPump : DomainPump}
    (hslot : s.pump.slots (.ofIndex index) = some domainPump) (budget : Nat) :
    (s.visit prog index domainPump budget).2.2.Walks bound (advance domainCount index) := by
  obtain ⟨hbinds, hwalk⟩ := h
  have hquiet : ∀ e : PumpEvent P, e.ofHandling → scanEvent e = none := by
    intro e he
    cases e <;> first | rfl | exact he.elim
  have hext := (Extends.pumpFrame prog hquiet).domainRun (fun _ _ => rfl) (fun _ _ => rfl)
    domainPump budget (s.world.note (.visitedDomain index))
  have hdomain : bound (domainPump.run prog budget
      (s.world.note (.visitedDomain index))).2.2.1.domain = true := by
    rw [DomainPump.run_domain, s.pump.slot_domain _ _ hslot, ← hbinds, hslot]
    rfl
  refine ⟨setDomain_binds hbinds hdomain, ?_⟩
  have hvisited := (hwalk.visit (m := ⟨.visitedDomain index, s.world.registry⟩) rfl).extend
    (w := s.world.note (.visitedDomain index)) hext
  exact hvisited.extend (.note rfl)

theorem turn_walks (h : s.Walks bound index) (remaining : Nat) :
    (turn prog index remaining s).Leads (Call.Walks bound (advance domainCount index))
      (fun t => ∃ i, t.Walks bound i) := by
  have hexamined : s.examined.Walks bound index := h
  rcases turn_cases prog index remaining s with
    ⟨t, ht, heq, hidle⟩ | ⟨domainPump, _, _, _, heq⟩ |
      ⟨domainPump, rc, report, t, hslot, _, hvisit, heq⟩
  · have hsame : t.world = s.world ∧ t.pump = s.pump := by
      rcases ht with rfl | rfl <;> exact ⟨rfl, rfl⟩
    obtain ⟨hbinds, hwalk⟩ := h
    have hnothing : DomainIdle bound s.world.registry index := by
      cases hslot : s.pump.slots (.ofIndex index) with
      | none => exact Or.inl (by rw [← hbinds, hslot]; rfl)
      | some domainPump =>
        rw [hslot] at hidle
        exact Or.inr (by simpa [s.pump.slot_domain _ _ hslot] using hidle)
    have hpass := hwalk.pass (m := ⟨.passedDomain index, s.world.registry⟩) rfl hnothing
    rw [heq]
    rw [← hsame.1, ← hsame.2] at hpass
    exact ⟨fun domain => by rw [← hbinds, ← hsame.2]; rfl, hpass⟩
  · rw [heq]
    exact ⟨index, hexamined⟩
  · have hnext := visit_walks prog hexamined hslot
      (DomainPump.defaultBudget domainPump.domain)
    rw [hvisit] at hnext
    rcases heq with ⟨_, heq⟩ | ⟨_, _, heq⟩ | ⟨_, heq⟩ <;> rw [heq]
    · exact hnext
    · exact ⟨_, hnext⟩
    · exact hnext

theorem run_walks {pump : SystemPump} {w : World P ω} (hbinds : pump.Binds bound)
    (h : DomainWalk bound w.history pump.nextDomainIndex index) (budget : Nat) :
    (pump.run prog budget w).2.2.1.Binds bound ∧
      ∃ i, DomainWalk bound (pump.run prog budget w).2.2.2.history
        (pump.run prog budget w).2.2.1.nextDomainIndex i := by
  have hinv : RoundRobin.Invariant domainCount (turn prog) (fun s => s.pump.nextDomainIndex)
      (fun i _ _ s => s.Walks bound i) (fun s _ => ∃ i, Call.Walks bound i s) :=
    Invariant.of_turn (fun h => turn_walks h _) fun h => ⟨h.1, h.2.restart⟩
  have hcursor : (enter pump budget w).wrapped.pump.nextDomainIndex = pump.nextDomainIndex :=
    inRange_of_lt h.trace.bounds.1
  have hstart : (enter pump budget w).wrapped.Walks bound index := ⟨hbinds, by rwa [hcursor]⟩
  have hloops := hinv.rounds budget index budget false hstart
  change (loops prog budget budget _).Satisfies _ _ at hloops
  unfold run
  rcases runFuel_cases prog budget pump budget w with
    ⟨_, heq⟩ | ⟨_, _, heq⟩ | ⟨_, _, ⟨s, rc, hout, heq⟩ | ⟨remaining, made, s, hout, heq⟩⟩
  · rw [heq]
    exact ⟨hbinds, _, h⟩
  · rw [heq]
    exact ⟨hbinds, _, h⟩
  · rw [hout] at hloops
    obtain ⟨i, hend⟩ := hloops
    rw [heq]
    exact ⟨hend.1, i, hend.2⟩
  · rw [hout] at hloops
    obtain ⟨i, hend⟩ := hloops
    obtain ⟨hworld, hslots, hnext, _⟩ := finish_cases remaining made s
    rw [heq]
    simp only [Call.result, Binds, hworld, hslots, hnext]
    exact ⟨hend.1, i, hend.2⟩

end SystemPump

theorem DomainPump.runCalls_walks (prog : Program P ω) {domain : ExecutionDomain}
    (calls : List (PumpCall P ω)) : ∀ (pump : DomainPump) (w : World P ω) {index : Nat},
      pump.domain = domain → ActorWalk domain w.history pump.nextActorIndex index →
      ∃ next i, ActorWalk domain (pump.runCalls prog calls w).2.history next i := by
  induction calls with
  | nil =>
    intro pump w index _ h
    exact ⟨_, _, h⟩
  | cons call calls ih =>
    intro pump w index hdomain h
    obtain ⟨hd, i, hwalk⟩ := run_walks (w := w.changed call.between) hdomain h
      call.budget
    exact ih _ _ hd hwalk

theorem SystemPump.runCalls_walks (prog : Program P ω) {bound : ExecutionDomain → Bool}
    (calls : List (PumpCall P ω)) : ∀ (pump : SystemPump) (w : World P ω) {index : Nat},
      pump.Binds bound → DomainWalk bound w.history pump.nextDomainIndex index →
      ∃ next i, DomainWalk bound (pump.runCalls prog calls w).2.history next i := by
  induction calls with
  | nil =>
    intro pump w index _ h
    exact ⟨_, _, h⟩
  | cons call calls ih =>
    intro pump w index hbinds h
    obtain ⟨hb, i, hwalk⟩ := run_walks (w := w.changed call.between) hbinds h
      call.budget
    exact ih _ _ hb hwalk

/-- Whoever has work waits for no one twice: between two visits of another actor, or of
another domain, a visit of its own takes place, in the same call or a later one. -/
theorem no_starvation (prog : Program P ω) (calls : List (PumpCall P ω)) (registry : ActorRegistry P)
    (outside : ω) :
    (∀ (domain : ExecutionDomain) (a b : Nat) (before between after : List (Moment P))
        (m m' : Moment P), a < actorCount → b < actorCount → b ≠ a →
      actorMatches (.ofIndex b) domain = true →
      ((DomainPump.init domain).runCalls prog calls ⟨registry, outside, []⟩).2.history =
        before ++ m :: (between ++ m' :: after) →
      m.event = .visitedActor domain a → m'.event = .visitedActor domain a →
      (∀ x ∈ between, x.registry.pending (.ofIndex b) ≠ 0) →
      ∃ x ∈ between, x.event = .visitedActor domain b) ∧
    (∀ (pumps : List DomainPump) (a b : Nat) (before between after : List (Moment P))
        (m m' : Moment P), a < domainCount → b < domainCount → b ≠ a →
      (∃ pump ∈ pumps, pump.domain = .ofIndex b) →
      ((SystemPump.init.bindAll pumps).runCalls prog calls ⟨registry, outside, []⟩).2.history =
        before ++ m :: (between ++ m' :: after) →
      m.event = .visitedDomain a → m'.event = .visitedDomain a →
      (∀ x ∈ between, DomainPump.pending (.ofIndex b) x.registry ≠ 0) →
      ∃ x ∈ between, x.event = .visitedDomain b) := by
  refine ⟨?_, ?_⟩
  · intro domain a b before between after m m' ha hb hne hmatch hhistory hm hm' hbusy
    obtain ⟨next, i, hwalk⟩ : ∃ next i, DomainPump.ActorWalk domain _ next i :=
      DomainPump.runCalls_walks prog calls (.init domain) ⟨registry, outside, []⟩ rfl
        (Walk.start actorCount_pos)
    rw [hhistory] at hwalk
    obtain ⟨x, hx, hevent⟩ := hwalk.fair ha hb hne (by rw [hm]; exact if_pos rfl)
      (by rw [hm']; exact if_pos rfl) (fun x hx hidle => by
        rcases hidle with hidle | hidle
        · rw [hmatch] at hidle
          exact absurd hidle (by decide)
        · exact hbusy x hx hidle)
    exact ⟨x, hx, DomainPump.eq_visitedActor hevent⟩
  · intro pumps a b before between after m m' ha hb hne hbound hhistory hm hm' hbusy
    obtain ⟨next, i, hwalk⟩ := SystemPump.runCalls_walks prog calls
      (SystemPump.init.bindAll pumps) ⟨registry, outside, []⟩ (fun _ => rfl)
      (by rw [SystemPump.bindAll_cursor]; exact Walk.start (by decide))
    rw [hhistory] at hwalk
    obtain ⟨x, hx, hevent⟩ := hwalk.fair ha hb hne (by rw [hm]; rfl) (by rw [hm']; rfl)
      (fun x hx hidle => by
        rcases hidle with hidle | hidle
        · obtain ⟨pump, hpump, hd⟩ := hbound
          have hsome := SystemPump.bindAll_bound SystemPump.init hpump
          rw [hd] at hsome
          exact absurd (hsome.symm.trans hidle) (by decide)
        · exact hbusy x hx hidle)
    exact ⟨x, hx, SystemPump.eq_visitedDomain hevent⟩

def failingProgram : Program Unit Unit where
  callbacks := ⟨fun _ _ _ _ w => (.ok, w), fun _ _ _ _ w => w⟩
  handler := fun _ _ => .ret .errState

def tick : Msg Unit := (Msg.blank.initSend .bootStarted .boot .boot).2

def twoQueued : Mailbox Unit :=
  (((Mailbox.fresh .fifo8).push failingProgram.callbacks tick ()).2.1.push
    failingProgram.callbacks tick ()).2.1

def busyRegistry : ActorRegistry Unit :=
  ((ActorRegistry.fresh.setRuntime ⟨.boot, twoQueued, {}⟩).setRuntime
    ⟨.runtime, twoQueued, {}⟩).setRuntime ⟨.diag, twoQueued, {}⟩

/-- Three calls with the least budget, each after a refill. -/
def refilledCalls : List (PumpCall Unit Unit) :=
  List.replicate 3 ⟨fun _ outside => (busyRegistry, outside), 1⟩

def fastHistory : List (Moment Unit) :=
  ((DomainPump.init .fastLoop).runCalls failingProgram refilledCalls ⟨busyRegistry, (), []⟩).2.history

def systemHistory : List (Moment Unit) :=
  ((SystemPump.init.bindAll [.init .fastLoop, .init .slowIo]).runCalls failingProgram refilledCalls
    ⟨busyRegistry, (), []⟩).2.history

theorem no_starvation_refilled :
    (∃ x ∈ (fastHistory.drop 1).take 23, x.event = .visitedActor .fastLoop 1) ∧
      ∃ x ∈ (systemHistory.drop 2).take 16, x.event = .visitedDomain 2 := by
  obtain ⟨hactors, hdomains⟩ := no_starvation failingProgram refilledCalls busyRegistry ()
  refine ⟨?_, ?_⟩
  · exact hactors .fastLoop 0 1 [] _ (fastHistory.drop 25) _ _ (by decide) (by decide) (by decide)
      (by decide) rfl rfl rfl (by decide)
  · exact hdomains [.init .fastLoop, .init .slowIo] 1 2 (systemHistory.take 1) _
      (systemHistory.drop 19) _ _ (by decide) (by decide) (by decide)
      ⟨.init .slowIo, by simp, rfl⟩ rfl rfl rfl (by decide)

end EventFramework
