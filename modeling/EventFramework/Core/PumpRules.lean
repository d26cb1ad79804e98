import EventFramework.Core.SystemPump

/-!
# Rules for the nested pumps

The three pumps change the world in few ways: counters of runtimes, events in the
history, and single handled messages. What is reflexive, transitive and holds of these
holds of every run.
-/

namespace EventFramework
set_option autoImplicit false

open RoundRobin

variable {P ω : Type}

/-- A relation between worlds that the actions of a handler respect. -/
structure HandlerFrame (cb : Callbacks P ω) (qosOk : RouteQos → Prop)
    (T : World P ω → World P ω → Prop) : Prop where
  refl : ∀ w, T w w
  trans : ∀ {w₁ w₂ w₃}, T w₁ w₂ → T w₂ w₃ → T w₁ w₃
  deliver : ∀ w target msg qos wantReport, qosOk qos →
    T w (w.deliver cb target msg qos wantReport).2.2
  outside : ∀ (w : World P ω) (act : ω → ω), T w { w with outside := act w.outside }

/-- Every delivery the handler may make has a QoS in `qosOk`. -/
def HandlerProg.Delivers (qosOk : RouteQos → Prop) : HandlerProg P ω → Prop
  | .ret _ => True
  | .deliver _ _ qos _ next => qosOk qos ∧ ∀ rc report, (next rc report).Delivers qosOk
  | .outside _ next => ∀ x, (next x).Delivers qosOk
  | .inspect next => ∀ registry, (next registry).Delivers qosOk

theorem HandlerProg.delivers_any (handler : HandlerProg P ω) : handler.Delivers fun _ => True := by
  induction handler with
  | ret rc => trivial
  | deliver target msg qos wantReport next ih => exact ⟨trivial, fun rc report => ih rc report⟩
  | outside act next ih => exact fun x => ih x
  | inspect next ih => exact fun registry => ih registry

theorem HandlerFrame.exec {cb : Callbacks P ω} {qosOk : RouteQos → Prop}
    {T : World P ω → World P ω → Prop} (h : HandlerFrame cb qosOk T) {handler : HandlerProg P ω} :
    handler.Delivers qosOk → ∀ w, T w (handler.exec cb w).2 := by
  induction handler with
  | ret rc =>
    intro _ w
    exact h.refl w
  | deliver target msg qos wantReport next ih =>
    intro hqos w
    exact h.trans (h.deliver w target msg qos wantReport hqos.1) (ih _ _ (hqos.2 _ _) _)
  | outside act next ih =>
    intro hqos w
    exact h.trans (h.outside w act) (ih _ (hqos _) _)
  | inspect next ih =>
    intro hqos w
    exact ih _ (hqos _) w

/-- The events of a handled message and of the deliveries its handler makes. -/
def PumpEvent.ofHandling : PumpEvent P → Prop
  | .delivered .. | .invoked .. | .returned .. | .disposed .. => True
  | _ => False

/-- A relation between worlds that the steps of the pumps respect; `allowed` are the
events it lets them note. -/
structure PumpFrame (prog : Program P ω) (allowed : PumpEvent P → Prop)
    (T : World P ω → World P ω → Prop) : Prop where
  refl : ∀ w, T w w
  trans : ∀ {w₁ w₂ w₃}, T w₁ w₂ → T w₂ w₃ → T w₁ w₃
  stats : ∀ (w : World P ω) actor (f : ActorRuntimeStats → ActorRuntimeStats),
    (∀ s, (f s).enqueued = s.enqueued ∧ (f s).enqueueFailed = s.enqueueFailed) →
    T w (w.updateStats actor f)
  note : ∀ (w : World P ω) event, allowed event → T w (w.note event)
  processOne : ∀ (w : World P ω) actor, T w (processOne prog actor w).2

namespace PumpFrame

variable {prog : Program P ω} {allowed : PumpEvent P → Prop} {T : World P ω → World P ω → Prop}

theorem pumpLoop (h : PumpFrame prog allowed T) (actor : ActorId) (n : Nat) :
    ∀ processed w, T w (pumpLoop prog actor n processed w).2.2 := by
  induction n with
  | zero =>
    intro processed w
    exact h.refl w
  | succ n ih =>
    intro processed w
    unfold EventFramework.pumpLoop
    split
    · exact h.refl w
    · have hone := h.processOne w actor
      simp only
      split
      · exact hone
      · exact h.trans hone (ih _ _)

theorem actorPump (h : PumpFrame prog allowed T) (actor : ActorId) (budget : Nat) (w : World P ω) :
    T w (actorPump prog actor budget w).2.2 := by
  have hstart := h.stats w actor (.pumpStarted budget) fun _ => ⟨rfl, rfl⟩
  rcases actorPump_cases prog actor budget w with
    ⟨heq, _⟩ | ⟨_, _, _, heq⟩ | ⟨rc, processed, w', _, _, hloop, _, _, heq⟩
  · rw [heq]
    exact h.refl w
  · rw [heq]
    exact h.trans hstart (h.stats _ actor _ fun _ => ⟨rfl, rfl⟩)
  · have hrun := h.pumpLoop actor budget 0 (w.updateStats actor (.pumpStarted budget))
    rw [hloop] at hrun
    have hdone := h.trans (h.trans hstart hrun)
      (h.stats w' actor (.pumpEnded processed) fun _ => ⟨rfl, rfl⟩)
    rcases heq with heq | heq <;> rw [heq]
    · exact hdone
    · exact h.trans hdone (h.stats _ actor _ fun _ => ⟨rfl, rfl⟩)

theorem domainVisit (h : PumpFrame prog allowed T)
    (hvisited : ∀ domain index, allowed (.visitedActor domain index)) (s : DomainPump.Call P ω)
    (index : Nat) (runtime : ActorRuntime P) (budget : Nat) :
    T s.world (s.visit prog index runtime budget).2.2.world :=
  h.trans (h.note _ _ (hvisited _ _)) (h.actorPump _ _ _)

theorem domainTurn (h : PumpFrame prog allowed T)
    (hpassed : ∀ domain index, allowed (.passedActor domain index))
    (hvisited : ∀ domain index, allowed (.visitedActor domain index)) (index remaining : Nat)
    (s : DomainPump.Call P ω) :
    (DomainPump.turn prog index remaining s).Leads (fun t => T s.world t.world)
      (fun t => T s.world t.world) := by
  rcases DomainPump.turn_cases prog index remaining s with
    ⟨t, ht, heq, _⟩ | ⟨runtime, _, _, _, heq⟩ |
      ⟨runtime, rc, report, t, _, _, _, _, hvisit, heq⟩
  · have hsame : t.world = s.world := by rcases ht with rfl | rfl <;> rfl
    rw [heq, ← hsame]
    exact h.note _ _ (hpassed _ _)
  · rw [heq]
    exact h.refl _
  · have hstep := h.domainVisit hvisited s.examined index runtime
      (min runtime.defaultBudget remaining)
    rw [hvisit] at hstep
    rcases heq with ⟨_, heq⟩ | ⟨_, _, heq⟩ | ⟨_, heq⟩ <;> rw [heq] <;> exact hstep

theorem domainRunFuel (h : PumpFrame prog allowed T)
    (hpassed : ∀ domain index, allowed (.passedActor domain index))
    (hvisited : ∀ domain index, allowed (.visitedActor domain index)) (fuel : Nat)
    (pump : DomainPump) (budget : Nat) (w : World P ω) :
    T w (pump.runFuel prog fuel budget w).2.2.2 := by
  have hloops := rounds_relation actorCount (DomainPump.turn prog) (fun s => s.pump.nextActorIndex)
    (fun s t => T s.world t.world)
    (fun s => h.refl _) (fun hst htu => h.trans hst htu) (h.domainTurn hpassed hvisited)
    fuel budget false (DomainPump.enter pump budget w).wrapped
  change (DomainPump.loops prog fuel budget _).Satisfies _ _ at hloops
  rcases DomainPump.runFuel_cases prog fuel pump budget w with
    ⟨_, heq⟩ | ⟨_, _, heq⟩ | ⟨_, _, ⟨s, rc, hout, heq⟩ | ⟨remaining, made, s, hout, heq⟩⟩
  · rw [heq]
    exact h.refl w
  · rw [heq]
    exact h.refl w
  · rw [hout] at hloops
    rw [heq]
    exact hloops
  · rw [hout] at hloops
    rw [heq]
    change T w (DomainPump.finish remaining made s).2.world
    rw [(DomainPump.finish_cases remaining made s).1]
    obtain ⟨_, hend⟩ := hloops
    exact hend

theorem domainRun (h : PumpFrame prog allowed T)
    (hpassed : ∀ domain index, allowed (.passedActor domain index))
    (hvisited : ∀ domain index, allowed (.visitedActor domain index)) (pump : DomainPump)
    (budget : Nat) (w : World P ω) : T w (pump.run prog budget w).2.2.2 :=
  h.domainRunFuel hpassed hvisited budget pump budget w

theorem systemVisit (h : PumpFrame prog allowed T)
    (hscan : ∀ event : PumpEvent P, ¬event.ofHandling → allowed event)
    (s : SystemPump.Call P ω) (index : Nat) (domainPump : DomainPump) (budget : Nat) :
    T s.world (s.visit prog index domainPump budget).2.2.world :=
  h.trans (h.trans (h.note _ _ (hscan _ id))
    (h.domainRun (fun _ _ => hscan _ id) (fun _ _ => hscan _ id) domainPump budget _))
    (h.note _ _ (hscan _ id))

theorem systemTurn (h : PumpFrame prog allowed T)
    (hscan : ∀ event : PumpEvent P, ¬event.ofHandling → allowed event)
    (index remaining : Nat) (s : SystemPump.Call P ω) :
    (SystemPump.turn prog index remaining s).Leads (fun t => T s.world t.world)
      (fun t => T s.world t.world) := by
  rcases SystemPump.turn_cases prog index remaining s with
    ⟨t, ht, heq, _⟩ | ⟨domainPump, _, _, _, heq⟩ | ⟨domainPump, rc, report, t, _, _, hvisit, heq⟩
  · have hsame : t.world = s.world := by rcases ht with rfl | rfl <;> rfl
    rw [heq, ← hsame]
    exact h.note _ _ (hscan _ id)
  · rw [heq]
    exact h.refl _
  · have hstep := h.systemVisit hscan s.examined index domainPump
      (DomainPump.defaultBudget domainPump.domain)
    rw [hvisit] at hstep
    rcases heq with ⟨_, heq⟩ | ⟨_, _, heq⟩ | ⟨_, heq⟩ <;> rw [heq] <;> exact hstep

theorem systemRun (h : PumpFrame prog allowed T)
    (hscan : ∀ event : PumpEvent P, ¬event.ofHandling → allowed event)
    (pump : SystemPump) (budget : Nat) (w : World P ω) : T w (pump.run prog budget w).2.2.2 := by
  have hloops := rounds_relation domainCount (SystemPump.turn prog) (fun s => s.pump.nextDomainIndex)
    (fun s t => T s.world t.world)
    (fun s => h.refl _) (fun hst htu => h.trans hst htu) (h.systemTurn hscan)
    budget budget false (SystemPump.enter pump budget w).wrapped
  change (SystemPump.loops prog budget budget _).Satisfies _ _ at hloops
  unfold SystemPump.run
  rcases SystemPump.runFuel_cases prog budget pump budget w with
    ⟨_, heq⟩ | ⟨_, _, heq⟩ | ⟨_, _, ⟨s, rc, hout, heq⟩ | ⟨remaining, made, s, hout, heq⟩⟩
  · rw [heq]
    exact h.refl w
  · rw [heq]
    exact h.refl w
  · rw [hout] at hloops
    rw [heq]
    exact hloops
  · rw [hout] at hloops
    rw [heq]
    change T w (SystemPump.finish remaining made s).2.world
    rw [(SystemPump.finish_cases remaining made s).1]
    obtain ⟨_, hend⟩ := hloops
    exact hend

end PumpFrame

/-- The history grows by events that `quiet` allows. -/
def Extends (quiet : PumpEvent P → Prop) (w w' : World P ω) : Prop :=
  ∃ later, w'.history = w.history ++ later ∧ ∀ m ∈ later, quiet m.event

namespace Extends

variable {quiet : PumpEvent P → Prop} {w w₁ w₂ w₃ : World P ω}

theorem of_same (h : w₂.history = w₁.history) : Extends quiet w₁ w₂ :=
  ⟨[], by rw [h, List.append_nil], by simp⟩

theorem trans (h : Extends quiet w₁ w₂) (h' : Extends quiet w₂ w₃) : Extends quiet w₁ w₃ := by
  obtain ⟨later, heq, hquiet⟩ := h
  obtain ⟨later', heq', hquiet'⟩ := h'
  refine ⟨later ++ later', by rw [heq', heq, List.append_assoc], ?_⟩
  intro m hm
  rcases List.mem_append.mp hm with hm | hm
  · exact hquiet m hm
  · exact hquiet' m hm

theorem note {event : PumpEvent P} (h : quiet event) : Extends quiet w (w.note event) :=
  ⟨[⟨event, w.registry⟩], rfl, by simpa using h⟩

theorem updateStats (actor : ActorId) (f : ActorRuntimeStats → ActorRuntimeStats) :
    Extends quiet w (w.updateStats actor f) := by
  refine of_same ?_
  unfold World.updateStats
  split <;> rfl

theorem deliver (cb : Callbacks P ω) (hquiet : ∀ event : PumpEvent P, event.ofHandling → quiet event)
    (target : ActorId) (msg : Msg P) (qos : RouteQos) (wantReport : Bool) :
    Extends quiet w (w.deliver cb target msg qos wantReport).2.2 := by
  refine ⟨_, w.deliver_history cb target msg qos wantReport, ?_⟩
  intro m hm
  rw [List.mem_singleton.mp hm]
  exact hquiet (.delivered ..) trivial

theorem handlerFrame (cb : Callbacks P ω)
    (hquiet : ∀ event : PumpEvent P, event.ofHandling → quiet event) :
    HandlerFrame cb (fun _ => True) (Extends quiet (P := P) (ω := ω)) where
  refl := fun _ => of_same rfl
  trans := trans
  deliver := fun _ target msg qos wantReport _ => deliver cb hquiet target msg qos wantReport
  outside := fun _ _ => of_same rfl

theorem handle (prog : Program P ω)
    (hquiet : ∀ event : PumpEvent P, event.ofHandling → quiet event) (actor : ActorId) (msg : Msg P) :
    Extends quiet w (EventFramework.handle prog actor msg w).2.2 := by
  have hinvoked : quiet (PumpEvent.invoked actor msg) := hquiet (.invoked ..) trivial
  have hreturned : ∀ rc, quiet (PumpEvent.returned actor rc : PumpEvent P) := fun rc =>
    hquiet (.returned actor rc) trivial
  have hdisposed : quiet (PumpEvent.disposed actor msg) := hquiet (.disposed ..) trivial
  have hrun := (handlerFrame prog.callbacks hquiet).exec (prog.handler actor msg).delivers_any
    (w.note (.invoked actor msg))
  unfold EventFramework.handle
  generalize (prog.handler actor msg).exec prog.callbacks (w.note (.invoked actor msg)) = out at hrun
  exact trans (trans (note hinvoked) hrun)
    (trans (note (hreturned out.1)) (trans (of_same rfl) (note hdisposed)))

theorem processOne (prog : Program P ω)
    (hquiet : ∀ event : PumpEvent P, event.ofHandling → quiet event) (actor : ActorId) :
    Extends quiet w (EventFramework.processOne prog actor w).2 := by
  rcases processOne_cases prog actor w with
    ⟨_, heq⟩ | ⟨runtime, _, ⟨_, _, heq⟩ | ⟨msg, mb, handled, disposed, w', _, _, _, hhandle, _, heq⟩⟩
  · rw [heq]
    exact of_same rfl
  · rw [heq]
    exact of_same (by simp)
  · have hrun := handle (w := w.setRuntime { runtime with mailbox := mb }) prog hquiet actor msg
    rw [hhandle] at hrun
    rw [heq]
    exact trans (trans (of_same rfl) hrun) (updateStats actor _)

theorem pumpFrame (prog : Program P ω)
    (hquiet : ∀ event : PumpEvent P, event.ofHandling → quiet event) :
    PumpFrame prog quiet (Extends quiet (P := P) (ω := ω)) where
  refl := fun _ => of_same rfl
  trans := trans
  stats := fun _ actor f _ => updateStats actor f
  note := fun _ _ h => note h
  processOne := fun _ actor => processOne prog hquiet actor

end Extends

end EventFramework
