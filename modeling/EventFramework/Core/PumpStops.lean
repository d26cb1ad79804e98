import EventFramework.Core.PumpRules

/-!
# What a failing handler stops

The pumps go on after a handler that succeeds. After one that fails with anything but an empty or
a partial result they make no further call: the code of the handler is the result of every pump
above it.
-/

namespace EventFramework
set_option autoImplicit false

open RoundRobin

variable {P ω : Type}

/-- A result that no pump and no loop goes on after. -/
def Result.Stops (rc : Result) : Prop := rc ≠ .ok ∧ rc ≠ .errEmpty ∧ rc ≠ .errPartial

namespace PumpEvent

def Calm : PumpEvent P → Prop
  | .returned _ rc => ¬rc.Stops
  | _ => True

def Idle : PumpEvent P → Prop
  | .delivered .. | .invoked .. | .returned .. => False
  | _ => True

theorem Idle.calm {event : PumpEvent P} (h : event.Idle) : event.Calm := by
  cases event with
  | returned actor rc => exact h.elim
  | _ => trivial

end PumpEvent

/-- A step that handles nothing and leaves what lies outside alone. -/
def Quiet (w w' : World P ω) : Prop := w'.outside = w.outside ∧ Extends PumpEvent.Idle w w'

namespace Quiet

variable {w w' : World P ω}

theorem of_same (houtside : w'.outside = w.outside) (hhistory : w'.history = w.history) : Quiet w w' :=
  ⟨houtside, .of_same hhistory⟩

theorem note {event : PumpEvent P} (h : event.Idle) : Quiet w (w.note event) := ⟨rfl, .note h⟩

theorem updateStats (actor : ActorId) (f : ActorRuntimeStats → ActorRuntimeStats) :
    Quiet w (w.updateStats actor f) := by
  refine ⟨?_, .updateStats actor f⟩
  unfold World.updateStats
  split
  · rfl
  · rfl

end Quiet

variable {T : World P ω → World P ω → Prop} {S : Result → World P ω → World P ω → Prop}

/-- A run with the result `rc`: it went on as `T` says, or was stopped with `rc` as `S` says. -/
def Ran (T : World P ω → World P ω → Prop) (S : Result → World P ω → World P ω → Prop) (rc : Result)
    (w w' : World P ω) : Prop :=
  T w w' ∨ rc.Stops ∧ S rc w w'

theorem Ran.goes {rc : Result} {w w' : World P ω} (h : Ran T S rc w w') (hrc : ¬rc.Stops) : T w w' :=
  h.resolve_right fun hstopped => hrc hstopped.1

/-- `T` holds between the ends of a run that goes on, `S rc` of one that a handler stopped with `rc`. -/
structure StopFrame (prog : Program P ω) (T : World P ω → World P ω → Prop)
    (S : Result → World P ω → World P ω → Prop) : Prop where
  quiet : ∀ {w w'}, Quiet w w' → T w w'
  trans : ∀ {w₁ w₂ w₃}, T w₁ w₂ → T w₂ w₃ → T w₁ w₃
  later : ∀ {rc w₁ w₂ w₃}, T w₁ w₂ → S rc w₂ w₃ → S rc w₁ w₃
  settled : ∀ {rc w₁ w₂ w₃}, S rc w₁ w₂ → Quiet w₂ w₃ → S rc w₁ w₃
  handle : ∀ actor msg w, Ran T S (handle prog actor msg w).1 w (handle prog actor msg w).2.2

namespace StopFrame

variable {prog : Program P ω} {rc : Result} {w w₁ w₂ w₃ : World P ω}

theorem after (h : StopFrame prog T S) (hgoes : T w₁ w₂) (hrun : Ran T S rc w₂ w₃) :
    Ran T S rc w₁ w₃ := by
  rcases hrun with hnext | ⟨hstops, hnext⟩
  · exact Or.inl (h.trans hgoes hnext)
  · exact Or.inr ⟨hstops, h.later hgoes hnext⟩

theorem ended (h : StopFrame prog T S) (hrun : Ran T S rc w₁ w₂) (hquiet : Quiet w₂ w₃) :
    Ran T S rc w₁ w₃ := by
  rcases hrun with hgoes | ⟨hstops, hstopped⟩
  · exact Or.inl (h.trans hgoes (h.quiet hquiet))
  · exact Or.inr ⟨hstops, h.settled hstopped hquiet⟩

theorem processOne (h : StopFrame prog T S) (actor : ActorId) (w : World P ω) :
    Ran T S (processOne prog actor w).1 w (EventFramework.processOne prog actor w).2 := by
  rcases processOne_cases prog actor w with
    ⟨_, heq⟩ | ⟨runtime, _, ⟨_, _, heq⟩ | ⟨msg, mb, handled, disposed, w', _, _, _, hhandle, hrc, heq⟩⟩
  · rw [heq]
    exact Or.inl (h.quiet (.of_same rfl rfl))
  · rw [heq]
    exact Or.inl (h.quiet (.updateStats actor _))
  · have hrun := h.handle actor msg (w.setRuntime { runtime with mailbox := mb })
    rw [hhandle] at hrun
    have hpopped : T w (w.setRuntime { runtime with mailbox := mb }) := h.quiet (.of_same rfl rfl)
    have hworld : Ran T S handled w (EventFramework.processOne prog actor w).2 := by
      rw [heq]
      exact h.ended (h.after hpopped hrun) (.updateStats actor _)
    by_cases hok : handled = .ok
    · exact Or.inl (hworld.goes fun hstops => hstops.1 hok)
    · rw [hrc, if_neg fun hboth => hok hboth.2]
      exact hworld

theorem pumpLoop (h : StopFrame prog T S) (actor : ActorId) (n : Nat) : ∀ processed (w : World P ω),
    Ran T S (pumpLoop prog actor n processed w).1 w (EventFramework.pumpLoop prog actor n processed w).2.2 := by
  induction n with
  | zero => exact fun _ _ => Or.inl (h.quiet (.of_same rfl rfl))
  | succ n ih =>
    intro processed w
    have hone := h.processOne actor w
    unfold EventFramework.pumpLoop
    split
    · exact Or.inl (h.quiet (.of_same rfl rfl))
    · simp only
      split
      · exact hone
      · rename_i hok
        exact h.after (hone.goes fun hstops => hstops.1 (not_not.mp hok)) (ih _ _)

theorem actorPump (h : StopFrame prog T S) (actor : ActorId) (budget : Nat) (w : World P ω) :
    Ran T S (actorPump prog actor budget w).1 w (EventFramework.actorPump prog actor budget w).2.2 := by
  have hstart : T w (w.updateStats actor (.pumpStarted budget)) :=
    h.quiet (.updateStats actor _)
  rcases actorPump_cases prog actor budget w with
    ⟨heq, _⟩ | ⟨_, _, _, heq⟩ | ⟨rc, processed, w', _, _, hloop, hrc, _, heq⟩
  · rw [heq]
    exact Or.inl (h.quiet (.of_same rfl rfl))
  · rw [heq]
    exact Or.inl (h.trans hstart (h.quiet (.updateStats actor _)))
  · have hrun := h.pumpLoop actor budget 0 (w.updateStats actor (.pumpStarted budget))
    rw [hloop] at hrun
    have hdone : Ran T S rc w (w'.updateStats actor (.pumpEnded processed)) :=
      h.ended (h.after hstart hrun) (.updateStats actor _)
    rw [hrc]
    rcases heq with heq | heq <;> rw [heq]
    · exact hdone
    · exact h.ended hdone (.updateStats actor _)

theorem domainTurn (h : StopFrame prog T S) (w : World P ω) :
    Invariant actorCount (DomainPump.turn prog) (fun s => s.pump.nextActorIndex)
      (fun _ _ _ s => T w s.world) (fun s rc => Ran T S rc w s.world) := by
  have hvisited (s : DomainPump.Call P ω) (index : Nat) (runtime : ActorRuntime P) (budget : Nat)
      (hs : T w s.world) :
      Ran T S (s.visit prog index runtime budget).1 w (s.visit prog index runtime budget).2.2.world := by
    have hnoted : T w (s.world.note (.visitedActor s.pump.domain index)) :=
      h.trans hs (h.quiet (.note trivial))
    exact h.after hnoted (h.actorPump (.ofIndex index) budget _)
  refine ⟨?_, ?_, ?_, ?_, fun h => h⟩
  · intro i r made s s' _ hs hturn
    rcases DomainPump.turn_cases prog i r s with
      ⟨t, ht, heq, _⟩ | ⟨_, _, _, _, heq⟩ | ⟨_, _, _, _, _, _, _, _, _, ⟨_, heq⟩ | ⟨_, _, heq⟩ | ⟨_, heq⟩⟩ <;>
      rw [heq] at hturn <;> cases hturn
    have hsame : t.world = s.world := by rcases ht with rfl | rfl <;> rfl
    exact h.trans (hsame ▸ hs) (h.quiet (.note trivial))
  · intro i r made s s' _ hs hturn
    rcases DomainPump.turn_cases prog i r s with
      ⟨t, ht, heq, _⟩ | ⟨_, _, _, _, heq⟩ |
        ⟨runtime, rc, report, t, _, _, _, _, hvisit, ⟨hrc, heq⟩ | ⟨_, _, heq⟩ | ⟨_, heq⟩⟩ <;>
      rw [heq] at hturn <;> cases hturn
    have hrun := hvisited s.examined i runtime (min runtime.defaultBudget r) hs
    rw [hvisit] at hrun
    exact hrun.goes fun hstops => hstops.2.1 hrc
  · intro i r made s s' used _ hs hturn
    rcases DomainPump.turn_cases prog i r s with
      ⟨t, ht, heq, _⟩ | ⟨_, _, _, _, heq⟩ |
        ⟨runtime, rc, report, t, _, _, _, _, hvisit, ⟨_, heq⟩ | ⟨_, _, heq⟩ | ⟨hrc, heq⟩⟩ <;>
      rw [heq] at hturn <;> cases hturn
    have hrun := hvisited s.examined i runtime (min runtime.defaultBudget r) hs
    rw [hvisit] at hrun
    exact hrun.goes fun hstops => hstops.1 hrc
  · intro i r made s s' rc _ hs hturn
    rcases DomainPump.turn_cases prog i r s with
      ⟨t, ht, heq, _⟩ | ⟨_, _, _, _, heq⟩ |
        ⟨runtime, rc', report, t, _, _, _, _, hvisit, ⟨_, heq⟩ | ⟨_, _, heq⟩ | ⟨_, heq⟩⟩ <;>
      rw [heq] at hturn <;> cases hturn
    · exact Or.inl hs
    · have hrun := hvisited s.examined i runtime (min runtime.defaultBudget r) hs
      rw [hvisit] at hrun
      exact hrun

theorem domainRun (h : StopFrame prog T S) (pump : DomainPump) (budget : Nat) (w : World P ω) :
    Ran T S (pump.run prog budget w).1 w (pump.run prog budget w).2.2.2 := by
  have hloops := (h.domainTurn w).rounds budget 0 budget false
    (s := (DomainPump.enter pump budget w).wrapped) (h.quiet (.of_same rfl rfl))
  change (DomainPump.loops prog budget budget _).Satisfies _ _ at hloops
  unfold DomainPump.run
  rcases DomainPump.runFuel_cases prog budget pump budget w with
    ⟨_, heq⟩ | ⟨_, _, heq⟩ | ⟨_, _, ⟨s, rc, hout, heq⟩ | ⟨remaining, made, s, hout, heq⟩⟩
  · rw [heq]
    exact Or.inl (h.quiet (.of_same rfl rfl))
  · rw [heq]
    exact Or.inl (h.quiet (.of_same rfl rfl))
  · rw [hout] at hloops
    rw [heq]
    exact hloops
  · rw [hout] at hloops
    obtain ⟨_, hend⟩ := hloops
    rw [heq]
    change Ran T S _ w (DomainPump.finish remaining made s).2.world
    rw [(DomainPump.finish_cases remaining made s).1]
    exact Or.inl hend

/-- A turn over the domains; only the end of the scan marks the turn budget as spent. -/
theorem systemTurn (h : StopFrame prog T S) (w : World P ω) :
    Invariant domainCount (SystemPump.turn prog) (fun s => s.pump.nextDomainIndex)
      (fun _ _ _ s => T w s.world ∧ s.report.exhaustedTurnBudget = false)
      (fun s rc => Ran T S rc w s.world ∧ s.report.exhaustedTurnBudget = false) := by
  have hvisited (s : SystemPump.Call P ω) (index : Nat) (domainPump : DomainPump) (budget : Nat)
      (hs : T w s.world) :
      Ran T S (s.visit prog index domainPump budget).1 w
        (s.visit prog index domainPump budget).2.2.world := by
    have hnoted : T w (s.world.note (.visitedDomain index)) :=
      h.trans hs (h.quiet (.note trivial))
    exact h.ended (h.after hnoted (h.domainRun domainPump budget _)) (.note trivial)
  refine ⟨?_, ?_, ?_, ?_, fun h => h⟩
  · intro i r made s s' _ hs hturn
    rcases SystemPump.turn_cases prog i r s with
      ⟨t, ht, heq, _⟩ | ⟨_, _, _, _, heq⟩ | ⟨_, _, _, _, _, _, _, ⟨_, heq⟩ | ⟨_, _, heq⟩ | ⟨_, heq⟩⟩ <;>
      rw [heq] at hturn <;> cases hturn
    have hsame : t.world = s.world ∧
        t.report.exhaustedTurnBudget = s.report.exhaustedTurnBudget := by
      rcases ht with rfl | rfl <;> exact ⟨rfl, rfl⟩
    exact ⟨h.trans (hsame.1 ▸ hs.1) (h.quiet (.note trivial)), hsame.2.trans hs.2⟩
  · intro i r made s s' _ hs hturn
    rcases SystemPump.turn_cases prog i r s with
      ⟨t, ht, heq, _⟩ | ⟨_, _, _, _, heq⟩ |
        ⟨domainPump, rc, report, t, _, _, hvisit, ⟨hrc, heq⟩ | ⟨_, _, heq⟩ | ⟨_, heq⟩⟩ <;>
      rw [heq] at hturn <;> cases hturn
    have hrun := hvisited s.examined i domainPump
      (DomainPump.defaultBudget domainPump.domain) hs.1
    have hreport := congrArg (fun out => out.2.2.report.exhaustedTurnBudget) hvisit
    rw [hvisit] at hrun
    exact ⟨hrun.goes fun hstops => hstops.2.1 hrc, hreport.symm.trans hs.2⟩
  · intro i r made s s' used _ hs hturn
    rcases SystemPump.turn_cases prog i r s with
      ⟨t, ht, heq, _⟩ | ⟨_, _, _, _, heq⟩ |
        ⟨domainPump, rc, report, t, _, _, hvisit, ⟨_, heq⟩ | ⟨_, _, heq⟩ | ⟨hrc, heq⟩⟩ <;>
      rw [heq] at hturn <;> cases hturn
    have hrun := hvisited s.examined i domainPump
      (DomainPump.defaultBudget domainPump.domain) hs.1
    have hreport := congrArg (fun out => out.2.2.report.exhaustedTurnBudget) hvisit
    rw [hvisit] at hrun
    exact ⟨hrun.goes fun hstops => hstops.1 hrc, hreport.symm.trans hs.2⟩
  · intro i r made s s' rc _ hs hturn
    rcases SystemPump.turn_cases prog i r s with
      ⟨t, ht, heq, _⟩ | ⟨_, _, _, _, heq⟩ |
        ⟨domainPump, rc', report, t, _, _, hvisit, ⟨_, heq⟩ | ⟨_, _, heq⟩ | ⟨_, heq⟩⟩ <;>
      rw [heq] at hturn <;> cases hturn
    · exact ⟨Or.inl hs.1, hs.2⟩
    · have hrun := hvisited s.examined i domainPump
        (DomainPump.defaultBudget domainPump.domain) hs.1
      have hreport := congrArg (fun out => out.2.2.report.exhaustedTurnBudget) hvisit
      rw [hvisit] at hrun
      exact ⟨hrun, hreport.symm.trans hs.2⟩

/-- A run of the system pump, which reports a spent turn budget only when it succeeds. -/
theorem systemRun (h : StopFrame prog T S) (pump : SystemPump) (budget : Nat) (w : World P ω) :
    Ran T S (pump.run prog budget w).1 w (pump.run prog budget w).2.2.2 ∧
      ((pump.run prog budget w).2.1.exhaustedTurnBudget = true → (pump.run prog budget w).1 = .ok) := by
  have hloops := (h.systemTurn w).rounds budget 0 budget false
    (s := (SystemPump.enter pump budget w).wrapped) ⟨h.quiet (.of_same rfl rfl), rfl⟩
  change (SystemPump.loops prog budget budget _).Satisfies _ _ at hloops
  unfold SystemPump.run
  rcases SystemPump.runFuel_cases prog budget pump budget w with
    ⟨_, heq⟩ | ⟨_, _, heq⟩ | ⟨_, _, ⟨s, rc, hout, heq⟩ | ⟨remaining, made, s, hout, heq⟩⟩
  · rw [heq]
    exact ⟨Or.inl (h.quiet (.of_same rfl rfl)), (fun hspent => by cases hspent)⟩
  · rw [heq]
    exact ⟨Or.inl (h.quiet (.of_same rfl rfl)), (fun hspent => by cases hspent)⟩
  · rw [hout] at hloops
    rw [heq]
    exact ⟨hloops.1, fun hspent => absurd (hloops.2.symm.trans hspent) Bool.false_ne_true⟩
  · rw [hout] at hloops
    obtain ⟨_, hend, hreport⟩ := hloops
    rw [heq]
    constructor
    · change Ran T S _ w (SystemPump.finish remaining made s).2.world
      rw [(SystemPump.finish_cases remaining made s).1]
      exact Or.inl hend
    · intro hspent
      change (SystemPump.finish remaining made s).2.report.exhaustedTurnBudget = true at hspent
      change (SystemPump.finish remaining made s).1 = .ok
      cases made with
      | true => exact (SystemPump.finish_cases remaining true s).2.2.2
      | false => exact absurd (hreport.symm.trans hspent) Bool.false_ne_true

end StopFrame

/-- A handler returned `rc`, and from then on no handler was called. -/
def Stopped (rc : Result) (w w' : World P ω) : Prop :=
  ∃ before actor registry after,
    w'.history = w.history ++ (before ++ ⟨.returned actor rc, registry⟩ :: after) ∧
      (∀ m ∈ before, m.event.Calm) ∧ ∀ m ∈ after, m.event.Idle

section Stops

variable {rc : Result} {w w₁ w₂ w₃ : World P ω}

theorem Stopped.later (hcalm : Extends PumpEvent.Calm w₁ w₂) (h : Stopped rc w₂ w₃) :
    Stopped rc w₁ w₃ := by
  obtain ⟨before, actor, registry, after, heq, hbefore, hafter⟩ := h
  obtain ⟨earlier, hearlier, hquiet⟩ := hcalm
  refine ⟨earlier ++ before, actor, registry, after, ?_, ?_, hafter⟩
  · rw [heq, hearlier, List.append_assoc, List.append_assoc]
  · intro m hm
    rcases List.mem_append.mp hm with hm | hm
    · exact hquiet m hm
    · exact hbefore m hm

theorem Stopped.settled (h : Stopped rc w₁ w₂) (hidle : Extends PumpEvent.Idle w₂ w₃) :
    Stopped rc w₁ w₃ := by
  obtain ⟨before, actor, registry, after, heq, hbefore, hafter⟩ := h
  obtain ⟨later, hlater, hquiet⟩ := hidle
  refine ⟨before, actor, registry, after ++ later, ?_, hbefore, ?_⟩
  · rw [hlater, heq, List.append_assoc, List.append_assoc, List.cons_append]
  · intro m hm
    rcases List.mem_append.mp hm with hm | hm
    · exact hafter m hm
    · exact hquiet m hm

theorem Extends.calm_of_idle (h : Extends PumpEvent.Idle w₁ w₂) : Extends PumpEvent.Calm w₁ w₂ := by
  obtain ⟨later, heq, hidle⟩ := h
  exact ⟨later, heq, fun m hm => (hidle m hm).calm⟩

/-- The handler that stops a run is the last that is called, and its code is the result. -/
theorem Ran.stop (h : Ran (Extends PumpEvent.Calm) Stopped rc w w₁) : ∃ later, w₁.history = w.history ++ later ∧
    ∀ before actor code registry after, later = before ++ ⟨.returned actor code, registry⟩ :: after →
      code.Stops → rc = code ∧ ∀ m ∈ after, m.event.Idle := by
  rcases h with ⟨later, heq, hcalm⟩ | ⟨_, before', actor', registry', after', heq, hbefore, hafter⟩
  · refine ⟨later, heq, fun before actor code registry after hsplit hstops => ?_⟩
    have hmem : ⟨.returned actor code, registry⟩ ∈ later :=
      hsplit ▸ List.mem_append_right before List.mem_cons_self
    exact absurd hstops (hcalm _ hmem)
  · refine ⟨_, heq, fun before actor code registry after hsplit hstops => ?_⟩
    rcases List.append_eq_append_iff.mp hsplit with ⟨rest, _, hrest⟩ | ⟨rest, hrest, hsame⟩
    · cases rest with
      | nil =>
        obtain ⟨hlast, rfl⟩ := List.cons.inj hrest
        cases hlast
        exact ⟨rfl, hafter⟩
      | cons first rest =>
        obtain ⟨_, rfl⟩ := List.cons.inj hrest
        exact (hafter _ (List.mem_append_right rest List.mem_cons_self)).elim
    · cases rest with
      | nil =>
        obtain ⟨hlast, rfl⟩ := List.cons.inj hsame
        cases hlast
        exact ⟨rfl, hafter⟩
      | cons first rest =>
        obtain ⟨rfl, _⟩ := List.cons.inj hsame
        have hcalm := hbefore _ (hrest ▸ List.mem_append_right before List.mem_cons_self)
        exact absurd hstops hcalm

theorem exec_calm (cb : Callbacks P ω) (handler : HandlerProg P ω) (w : World P ω) :
    Extends PumpEvent.Calm w (handler.exec cb w).2 := by
  have hframe : HandlerFrame cb (fun _ => True) (Extends PumpEvent.Calm (P := P) (ω := ω)) := by
    refine ⟨fun _ => .of_same rfl, Extends.trans, ?_, fun _ _ => .of_same rfl⟩
    intro w target msg qos wantReport _
    refine ⟨_, w.deliver_history cb target msg qos wantReport, ?_⟩
    intro m hm
    rw [List.mem_singleton.mp hm]
    trivial
  exact hframe.exec handler.delivers_any w

/-- Every program stops at the first handler whose code stops the pumps. -/
theorem stopFrame (prog : Program P ω) :
    StopFrame prog (Extends PumpEvent.Calm) (Stopped (P := P) (ω := ω)) where
  quiet h := h.2.calm_of_idle
  trans h h' := h.trans h'
  later hcalm h := h.later hcalm
  settled h hquiet := h.settled hquiet.2
  handle actor msg w := by
    have hinvoked : Extends PumpEvent.Calm w (w.note (.invoked actor msg)) := .note trivial
    have hrun := hinvoked.trans (exec_calm prog.callbacks (prog.handler actor msg) _)
    unfold EventFramework.handle
    generalize (prog.handler actor msg).exec prog.callbacks (w.note (.invoked actor msg)) = out at hrun
    simp only
    have hdisposed (outside : ω) : Extends PumpEvent.Idle (out.2.note (.returned actor out.1))
        (World.note { out.2.note (.returned actor out.1) with outside := outside }
          (.disposed actor msg)) := .note trivial
    by_cases hstops : out.1.Stops
    · refine Or.inr ⟨hstops, Stopped.settled (Stopped.later hrun ?_) (hdisposed _)⟩
      exact ⟨[], actor, out.2.registry, [], rfl, fun m hm => absurd hm List.not_mem_nil,
        fun m hm => absurd hm List.not_mem_nil⟩
    · have hreturned : (PumpEvent.returned actor out.1 : PumpEvent P).Calm := hstops
      exact Or.inl ((hrun.trans (.note hreturned)).trans (hdisposed _).calm_of_idle)

end Stops

end EventFramework
