import EventFramework.Apps.DemoApp
import EventFramework.Core.OutsideFrame
import EventFramework.Library.Machine
import EventFramework.Runtime.PollFrame

/-!
# When sleep is admitted

What `ev_demo_app_sleep_arm` has made sure of when it succeeds, and what the polls do until the
disarm.
-/

namespace EventFramework
set_option autoImplicit false

variable {P ε : Type}

structure PendingCounts (ε : Type) where
  irq : ε → UInt32
  net : ε → UInt32

namespace PendingCounts

structure Same (counts : PendingCounts ε) (e e' : ε) : Prop where
  irq : counts.irq e' = counts.irq e
  net : counts.net e' = counts.net e

theorem Same.trans {counts : PendingCounts ε} {e e' e'' : ε} (h : counts.Same e e')
    (h' : counts.Same e' e'') : counts.Same e e'' :=
  ⟨h'.irq.trans h.irq, h'.net.trans h.net⟩

/-- A statistics function that returns a count when it succeeds. -/
structure Answers (counts : PendingCounts ε) (count : ε → UInt32)
    (getStats : ε → Result × UInt32 × ε) : Prop where
  count : ∀ e, (getStats e).1 = .ok → (getStats e).2.1 = count e
  same : ∀ e, counts.Same e (getStats e).2.2

end PendingCounts

namespace DemoPorts

/-- Both ports report their pending counts, and neither that nor the clock changes them. -/
structure Report (ports : DemoPorts P ε) (counts : PendingCounts ε) : Prop where
  irq : ∃ getStats, ports.irq.bind IngressIrqPort.getStats = some getStats ∧
    counts.Answers counts.irq getStats
  net : ∃ getStats, ports.net.bind IngressNetPort.getStats = some getStats ∧
    counts.Answers counts.net getStats
  clock : ∀ e, counts.Same e (ports.clock e).2.2

theorem nowMs_env (ports : DemoPorts P ε) (e : ε) : (ports.nowMs e).2.2 = (ports.clock e).2.2 := by
  unfold nowMs
  simp only
  split <;> rfl

end DemoPorts

namespace DemoApp

open DemoGraph

def sleepClock (ports : DemoPorts P ε) (e : ε) : Result × UInt32 :=
  let out := ports.nowMs (pendingIrqSamples ports e).2.2
  (out.1, out.2.1)

structure Quiet (registry : ActorRegistry P) (nowMs : UInt32) (w : DemoOutside P ε) : Prop where
  mailboxes : ∀ actor runtime, w.2.actorEnabled actor = true →
    registry.slots actor = some runtime → actor.isValid = true → runtime.mailbox.count = 0
  timers : w.1.NoneDue nowMs
  oled : w.2.oledPendingFlush = false
  ds18b20 : w.2.ds18b20ConversionPending = false
  bh1750 : w.2.bh1750MeasurementPending = false
  faults : w.2.routes.faults.hasCritical = false

structure NothingPending (counts : PendingCounts ε) (registry : ActorRegistry P) (nowMs : UInt32)
    (w : DemoOutside P ε) : Prop extends Quiet registry nowMs w where
  irq : counts.irq w.2.env = 0
  net : counts.net w.2.env = 0

/-- Every condition of an admission but the one on the network port. -/
structure ClearBesidesNet (ports : DemoPorts P ε) (counts : PendingCounts ε)
    (registry : ActorRegistry P) (w : DemoOutside P ε) : Prop
    extends Quiet registry (sleepClock ports w.2.env).2 w where
  unarmed : w.2.sleepArming = false
  reported : (pendingIrqSamples ports w.2.env).1 = .ok
  irq : counts.irq w.2.env = 0
  clock : (sleepClock ports w.2.env).1 = .ok
  ingress : w.2.ingressService.messages = []

/-- What happens between an arming and the disarm. -/
inductive ArmedInput (P ε : Type) where
  | poll (handler : ActorId → Msg P → HandlerProg P (DemoOutside P ε)) (fuel : Nat)
  | elsewhere (act : DemoGraph P ε → DemoGraph P ε)

def armedStep (ports : DemoPorts P ε) (graph : DemoGraph P ε) : ArmedInput P ε → DemoGraph P ε
  | .poll handler fuel => ((poll ports handler fuel graph).map fun out => out.2.graph).getD graph
  | .elsewhere act => act graph

def armedView (w : DemoOutside P ε) : Bool × List (IngressItem P) := (w.2.sleepArming, w.2.popped)

/-- Neither a handler nor anything outside the polls disarms or takes from the ingress ports. -/
def Undisturbed (graph : DemoGraph P ε) : ArmedInput P ε → Prop
  | .poll handler _ => ∀ actor msg, (handler actor msg).Keeps armedView
  | .elsewhere act => armedView (act graph).world.outside = armedView graph.world.outside

/-- A poll pops no ingress sample and publishes no timer. -/
def TakesNothing (ports : DemoPorts P ε) (graph : DemoGraph P ε) : ArmedInput P ε → Prop
  | .poll handler fuel => ∀ rc s, poll ports handler fuel graph = some (rc, s) →
    (app s.graph).popped = (app graph).popped ∧ s.report.timersPublished = 0 ∧
      ∀ nowMs slots, .timersPublished nowMs slots ∉ s.history
  | .elsewhere _ => True

/-- An arming that succeeds finds nothing pending, and until the disarm the polls take nothing. -/
def SleepAdmitted (ports : DemoPorts P ε) (counts : PendingCounts ε) (graph : DemoGraph P ε) : Prop :=
  let out := sleepArm ports graph.world.registry graph.world.outside
  let armed : DemoGraph P ε := { graph with world := { graph.world with outside := out.2.2 } }
  out.1 = .ok →
    NothingPending counts graph.world.registry (sleepClock ports (app graph).env).2 out.2.2 ∧
    ∀ inputs, Machine.Each (armedStep ports) Undisturbed armed inputs →
      Machine.Each (armedStep ports) (TakesNothing ports) armed inputs

theorem actorBit_ne_zero {actor : ActorId} (h : actor.isValid = true) : actorBit actor ≠ 0 := by
  have hall : ∀ actor ∈ actorCatalog, actorBit actor ≠ 0 := by decide
  exact hall actor ((mem_actorCatalog_iff actor).mpr h)

theorem actorQuiescence_reports (actor : ActorId) (pending : Bool) :
    (actorQuiescence actor pending).Reports := by
  intro report
  cases pending
  · simp [actorQuiescence, QuiescenceFn.busy, QuiescenceFn.blockers]
  · simp [actorQuiescence, QuiescenceFn.busy, QuiescenceFn.blockers]

theorem actorQuiescence_blockers {actor : ActorId} {pending : Bool} (h : actor.isValid = true) :
    (actorQuiescence actor pending).blockers = 0 ↔ pending = false := by
  cases pending
  · simp [actorQuiescence, QuiescenceFn.blockers]
  · simp [actorQuiescence, QuiescenceFn.blockers, actorBit_ne_zero h]

theorem defaultQuiescence_reports : defaultQuiescence.Reports := by
  intro report
  simp [defaultQuiescence, QuiescenceFn.busy, QuiescenceFn.blockers]

theorem quiescenceFn_cases {registry : ActorRegistry P} {w : DemoOutside P ε} {actor : ActorId}
    {fn : QuiescenceFn} (h : (quiescenceGraph registry w).quiescenceFn actor = some fn) :
    fn = defaultQuiescence ∨ w.2.actorEnabled actor = true ∧ w.2.quiescenceFor actor = some fn := by
  unfold QuiescenceGraph.quiescenceFn at h
  cases hinstance : (quiescenceGraph registry w).instanceQuiescence actor with
  | none =>
    rw [hinstance] at h
    obtain ⟨_, _, rfl⟩ := Option.map_eq_some_iff.mp h
    exact Or.inl rfl
  | some own =>
    rw [hinstance] at h
    obtain rfl := Option.some.inj h
    change (if w.2.actorEnabled actor then w.2.quiescenceFor actor else none) = some own at hinstance
    split at hinstance
    · rename_i hon
      exact Or.inr ⟨hon, hinstance⟩
    · cases hinstance

theorem quiescenceFor_cases {app : DemoApp P ε} {actor : ActorId} {fn : QuiescenceFn}
    (h : app.quiescenceFor actor = some fn) :
    (actor = .oled ∧ fn = app.oledQuiescence) ∨ (actor = .ds18b20 ∧ fn = app.ds18b20Quiescence) ∨
      actor = .bh1750 ∧ fn = app.bh1750Quiescence := by
  cases actor <;> simp_all [quiescenceFor]

theorem quiescenceGraph_reporting (registry : ActorRegistry P) (w : DemoOutside P ε) :
    (quiescenceGraph registry w).Reporting := by
  intro actor fn hfn
  rcases quiescenceFn_cases hfn with rfl | ⟨_, hown⟩
  · exact defaultQuiescence_reports
  · rcases quiescenceFor_cases hown with ⟨_, rfl⟩ | ⟨_, rfl⟩ | ⟨_, rfl⟩
    · exact actorQuiescence_reports _ _
    · exact actorQuiescence_reports _ _
    · exact actorQuiescence_reports _ _

theorem countedMailbox_eq_zero {registry : ActorRegistry P} {actor : ActorId} :
    (countedMailbox registry actor).1.count = 0 ↔
      ∀ runtime, registry.slots actor = some runtime → runtime.mailbox.count = 0 := by
  unfold countedMailbox
  cases registry.slots actor with
  | none => simp [Mailbox.fresh]
  | some runtime =>
    by_cases hle : runtime.mailbox.count ≤ runtime.mailbox.kind.capacity
    · simp [hle]
    · have hpos : 0 < runtime.mailbox.kind.capacity := by cases runtime.mailbox.kind <;> decide
      simp only [hle, ↓reduceDIte, Option.some.injEq, forall_eq']
      omega

theorem isQuiescentAt_ok_iff (nowMs : UInt32) (registry : ActorRegistry P) (w : DemoOutside P ε) :
    (isQuiescentAt nowMs sleepPolicy registry w).1 = .ok ↔
      Quiet registry nowMs w ∧ w.2.ingressService.messages = [] := by
  have hiff := QuiescenceGraph.isQuiescentAt_ok_iff (quiescenceGraph_reporting registry w) nowMs
    (some sleepPolicy)
  have hfar : ∀ next, sleepPolicy.nearDeadline nowMs next = false := by
    intro next
    simp [QuiescencePolicy.nearDeadline, sleepPolicy]
  change ((quiescenceGraph registry w).isQuiescentAt nowMs (some sleepPolicy)).1 = .ok ↔ _
  rw [hiff]
  constructor
  · rintro ⟨hquiet, hdue, _⟩
    have hblockers {actor : ActorId} {fn : QuiescenceFn} (hvalid : actor.isValid = true)
        (hon : w.2.actorEnabled actor = true) (hfn : w.2.quiescenceFor actor = some fn) :
        fn.blockers = 0 := by
      refine hquiet.blockers rfl actor ((mem_actorCatalog_iff actor).mpr hvalid) hon fn ?_
      simp only [QuiescenceGraph.quiescenceFn, quiescenceGraph, hon, ↓reduceIte, hfn]
    refine ⟨⟨?_, hdue rfl, ?_, ?_, ?_, ?_⟩, hquiet.ingress⟩
    · intro actor runtime hon hslot hvalid
      exact countedMailbox_eq_zero.mp
        (hquiet.mailboxes actor ((mem_actorCatalog_iff actor).mpr hvalid) hon) runtime hslot
    · by_contra hpending
      have hzero := hblockers rfl (w.2.oled_enabled (Bool.not_eq_false _ ▸ hpending)) rfl
      exact hpending ((actorQuiescence_blockers rfl).mp hzero)
    · by_contra hpending
      have hzero := hblockers rfl (w.2.ds18b20_enabled (Bool.not_eq_false _ ▸ hpending)) rfl
      exact hpending ((actorQuiescence_blockers rfl).mp hzero)
    · by_contra hpending
      have hzero := hblockers rfl (w.2.bh1750_enabled (Bool.not_eq_false _ ▸ hpending)) rfl
      exact hpending ((actorQuiescence_blockers rfl).mp hzero)
    · have hfaults := hquiet.faults
      simpa [QuiescencePolicy.faultBlocks, sleepPolicy, quiescenceGraph] using hfaults
  · rintro ⟨hquiet, hingress⟩
    refine ⟨⟨?_, hingress, ?_, ?_, ?_, ?_⟩, fun _ => hquiet.timers, fun next _ => hfar next⟩
    · intro actor hmem hon
      refine countedMailbox_eq_zero.mpr fun runtime hslot => ?_
      exact hquiet.mailboxes actor runtime hon hslot ((mem_actorCatalog_iff actor).mp hmem)
    · intro _ actor hmem _ fn hfn
      have hvalid := (mem_actorCatalog_iff actor).mp hmem
      rcases quiescenceFn_cases hfn with rfl | ⟨_, hown⟩
      · rfl
      · rcases quiescenceFor_cases hown with ⟨rfl, rfl⟩ | ⟨rfl, rfl⟩ | ⟨rfl, rfl⟩
        · exact (actorQuiescence_blockers hvalid).mpr hquiet.oled
        · exact (actorQuiescence_blockers hvalid).mpr hquiet.ds18b20
        · exact (actorQuiescence_blockers hvalid).mpr hquiet.bh1750
    · intro hblock
      cases hblock
    · simpa [QuiescencePolicy.faultBlocks, sleepPolicy, quiescenceGraph] using hquiet.faults
    · intro hblock
      cases hblock

structure SameWork (w w' : DemoOutside P ε) : Prop where
  timers : w'.1 = w.1
  actorEnabled : w'.2.actorEnabled = w.2.actorEnabled
  oled : w'.2.oledPendingFlush = w.2.oledPendingFlush
  ds18b20 : w'.2.ds18b20ConversionPending = w.2.ds18b20ConversionPending
  bh1750 : w'.2.bh1750MeasurementPending = w.2.bh1750MeasurementPending
  faults : w'.2.routes.faults = w.2.routes.faults
  popped : w'.2.popped = w.2.popped

theorem Quiet.same {registry : ActorRegistry P} {nowMs : UInt32} {w w' : DemoOutside P ε}
    (h : Quiet registry nowMs w) (hsame : SameWork w w') : Quiet registry nowMs w' where
  mailboxes actor runtime hon := h.mailboxes actor runtime (hsame.actorEnabled ▸ hon)
  timers := hsame.timers ▸ h.timers
  oled := hsame.oled.trans h.oled
  ds18b20 := hsame.ds18b20.trans h.ds18b20
  bh1750 := hsame.bh1750.trans h.bh1750
  faults := hsame.faults ▸ h.faults

section Arming

variable {ports : DemoPorts P ε} {counts : PendingCounts ε} (registry : ActorRegistry P)
  (w : DemoOutside P ε)

theorem pendingIrqSamples_spec (h : ports.Report counts) (e : ε) :
    counts.Same e (pendingIrqSamples ports e).2.2 ∧
      ((pendingIrqSamples ports e).1 = .ok → (pendingIrqSamples ports e).2.1 = counts.irq e) := by
  obtain ⟨getStats, hport, hanswers⟩ := h.irq
  unfold pendingIrqSamples
  rw [hport]
  simp only
  split
  · rename_i hfailed
    exact ⟨hanswers.same e, fun hok => absurd hok hfailed⟩
  · exact ⟨hanswers.same e, hanswers.count e⟩

/-- The guard succeeds when both ports answer and nothing is pending in the application or the
interrupt port. -/
theorem sleepQuiescenceGuard_ok_iff (h : ports.Report counts) :
    (sleepQuiescenceGuard ports registry w).1 = .ok ↔
      (pendingIrqSamples ports w.2.env).1 = .ok ∧ counts.irq w.2.env = 0 ∧
        (sleepClock ports w.2.env).1 = .ok ∧
        Quiet registry (sleepClock ports w.2.env).2 w ∧ w.2.ingressService.messages = [] := by
  obtain ⟨_, hcount⟩ := pendingIrqSamples_spec h w.2.env
  have hsame {nowMs : UInt32} {e : ε} :
      Quiet registry nowMs (w.1, { w.2 with env := e }) ↔ Quiet registry nowMs w :=
    ⟨fun hq => hq.same ⟨rfl, rfl, rfl, rfl, rfl, rfl, rfl⟩,
      fun hq => hq.same ⟨rfl, rfl, rfl, rfl, rfl, rfl, rfl⟩⟩
  unfold sleepQuiescenceGuard
  simp only
  split
  · rename_i hfailed
    exact ⟨fun hok => absurd hok hfailed, fun hall => absurd hall.1 hfailed⟩
  · rename_i hirq
    have hirq : (pendingIrqSamples ports w.2.env).1 = .ok := not_not.mp hirq
    split
    · rename_i hfailed
      exact ⟨fun hok => absurd hok hfailed, fun hall => absurd hall.2.2.1 hfailed⟩
    · rename_i hclock
      have hclock : (sleepClock ports w.2.env).1 = .ok := not_not.mp hclock
      have hquiet := isQuiescentAt_ok_iff (sleepClock ports w.2.env).2 registry (w.1, { w.2 with
        env := (ports.nowMs (pendingIrqSamples ports w.2.env).2.2).2.2 })
      rw [hsame] at hquiet
      split
      · rename_i hrefused
        refine ⟨(fun hok => by cases hok), ?_⟩
        rintro ⟨_, hzero, _, hq, hingress⟩
        rcases hrefused with hbusy | hpending
        · exact absurd (hquiet.mpr ⟨hq, hingress⟩) hbusy
        · exact absurd ((hcount hirq).trans hzero) hpending
      · rename_i hadmitted
        obtain ⟨hok, hzero⟩ := not_or.mp hadmitted
        obtain ⟨hq, hingress⟩ := hquiet.mp (not_not.mp hok)
        have hzero : counts.irq w.2.env = 0 := (hcount hirq).symm.trans (not_not.mp hzero)
        exact ⟨fun _ => ⟨hirq, hzero, hclock, hq, hingress⟩, fun _ => rfl⟩

theorem SameWork.trans {w w' w'' : DemoOutside P ε} (h : SameWork w w') (h' : SameWork w' w'') :
    SameWork w w'' where
  timers := h'.timers.trans h.timers
  actorEnabled := h'.actorEnabled.trans h.actorEnabled
  oled := h'.oled.trans h.oled
  ds18b20 := h'.ds18b20.trans h.ds18b20
  bh1750 := h'.bh1750.trans h.bh1750
  faults := h'.faults.trans h.faults
  popped := h'.popped.trans h.popped

theorem onOutside_frame {α : Type} (act : ε → α × ε) :
    SameWork w (DemoPorts.onOutside act w).2 ∧
      (DemoPorts.onOutside act w).2.2.sleepArming = w.2.sleepArming ∧
      (DemoPorts.onOutside act w).2.2.env = (act w.2.env).2 :=
  ⟨⟨rfl, rfl, rfl, rfl, rfl, rfl, rfl⟩, rfl, rfl⟩

theorem isQuiescentAt_frame (nowMs : UInt32) (policy : QuiescencePolicy) :
    SameWork w (isQuiescentAt nowMs policy registry w).2.2 ∧
      (isQuiescentAt nowMs policy registry w).2.2.2.sleepArming = w.2.sleepArming ∧
      (isQuiescentAt nowMs policy registry w).2.2.2.env = w.2.env := by
  unfold isQuiescentAt
  generalize (quiescenceGraph registry w).isQuiescentAt nowMs (some policy) = out
  exact ⟨⟨rfl, rfl, rfl, rfl, rfl, rfl, rfl⟩, rfl, rfl⟩

theorem sleepQuiescenceGuard_frame (h : ports.Report counts) :
    SameWork w (sleepQuiescenceGuard ports registry w).2.2 ∧
      (sleepQuiescenceGuard ports registry w).2.2.2.sleepArming = w.2.sleepArming ∧
      counts.Same w.2.env (sleepQuiescenceGuard ports registry w).2.2.2.env := by
  have hpending := (pendingIrqSamples_spec h w.2.env).1
  have hirq := onOutside_frame w (fun e => (((pendingIrqSamples ports e).1,
    (pendingIrqSamples ports e).2.1), (pendingIrqSamples ports e).2.2))
  unfold sleepQuiescenceGuard
  simp only
  generalize DemoPorts.onOutside (fun e => (((pendingIrqSamples ports e).1,
    (pendingIrqSamples ports e).2.1), (pendingIrqSamples ports e).2.2)) w = irq at *
  obtain ⟨hwork, harming, henv⟩ := hirq
  rw [← henv] at hpending
  split
  · exact ⟨hwork, harming, hpending⟩
  · have hclock := onOutside_frame irq.2 (fun e => (((ports.nowMs e).1, (ports.nowMs e).2.1),
      (ports.nowMs e).2.2))
    generalize DemoPorts.onOutside (fun e => (((ports.nowMs e).1, (ports.nowMs e).2.1),
      (ports.nowMs e).2.2)) irq.2 = clock at *
    obtain ⟨hworkClock, harmingClock, henvClock⟩ := hclock
    have hread : counts.Same w.2.env clock.2.2.env := by
      rw [henvClock, ports.nowMs_env]
      exact hpending.trans (h.clock _)
    split
    · exact ⟨hwork.trans hworkClock, harmingClock.trans harming, hread⟩
    · have hasked := isQuiescentAt_frame registry clock.2 clock.1.2 sleepPolicy
      generalize isQuiescentAt clock.1.2 sleepPolicy registry clock.2 = asked at *
      obtain ⟨hworkAsked, harmingAsked, henvAsked⟩ := hasked
      rw [← henvAsked] at hread
      split
      · exact ⟨(hwork.trans hworkClock).trans hworkAsked,
          harmingAsked.trans (harmingClock.trans harming), hread⟩
      · exact ⟨(hwork.trans hworkClock).trans hworkAsked,
          harmingAsked.trans (harmingClock.trans harming), hread⟩

theorem sleepArm_ok_iff (h : ports.Report counts) :
    (sleepArm ports registry w).1 = .ok ↔ ClearBesidesNet ports counts registry w := by
  unfold sleepArm
  simp only
  split
  · rename_i harmed
    have harmed : w.2.sleepArming = true := harmed
    refine ⟨(fun hok => by cases hok), fun hclear => ?_⟩
    exact absurd (harmed.symm.trans hclear.unarmed) (by decide)
  · rename_i hunarmed
    have hunarmed : w.2.sleepArming = false := Bool.eq_false_iff.mpr hunarmed
    have hguard := sleepQuiescenceGuard_ok_iff registry (setArming true
      (countOutside (fun s => { s with sleepArmAttempts := s.sleepArmAttempts + 1 }) w)) h
    have hback {nowMs : UInt32} (hq : Quiet registry nowMs (setArming true
        (countOutside (fun s => { s with sleepArmAttempts := s.sleepArmAttempts + 1 }) w))) :
        Quiet registry nowMs w := hq.same ⟨rfl, rfl, rfl, rfl, rfl, rfl, rfl⟩
    split
    · rename_i hrefused
      refine ⟨fun hok => absurd hok hrefused, fun hclear => ?_⟩
      refine absurd (hguard.mpr ⟨hclear.reported, hclear.irq, hclear.clock, ?_, hclear.ingress⟩) hrefused
      exact hclear.toQuiet.same ⟨rfl, rfl, rfl, rfl, rfl, rfl, rfl⟩
    · rename_i hadmitted
      obtain ⟨hreported, hirq, hclock, hq, hingress⟩ := hguard.mp (not_not.mp hadmitted)
      exact ⟨fun _ => ⟨hback hq, hunarmed, hreported, hirq, hclock, hingress⟩, fun _ => rfl⟩

theorem sleepArm_frame (h : ports.Report counts) (hok : (sleepArm ports registry w).1 = .ok) :
    SameWork w (sleepArm ports registry w).2.2 ∧
      (sleepArm ports registry w).2.2.2.sleepArming = true ∧
      counts.Same w.2.env (sleepArm ports registry w).2.2.2.env := by
  have hguard := sleepQuiescenceGuard_frame registry (setArming true
    (countOutside (fun s => { s with sleepArmAttempts := s.sleepArmAttempts + 1 }) w)) h
  unfold sleepArm at hok ⊢
  simp only at hok ⊢
  generalize sleepQuiescenceGuard ports registry (setArming true
    (countOutside (fun s => { s with sleepArmAttempts := s.sleepArmAttempts + 1 }) w)) = out at *
  obtain ⟨hwork, harming, hsame⟩ := hguard
  split at hok
  · cases hok
  · rename_i hunarmed
    rw [if_neg hunarmed] at ⊢
    split at hok
    · rename_i hrefused
      exact absurd hok hrefused
    · rename_i hadmitted
      rw [if_neg hadmitted]
      exact ⟨⟨hwork.timers, hwork.actorEnabled, hwork.oled, hwork.ds18b20, hwork.bh1750,
        hwork.faults, hwork.popped⟩, harming, hsame⟩

end Arming

section Armed

variable {ports : DemoPorts P ε} {handler : ActorId → Msg P → HandlerProg P (DemoOutside P ε)}
  {graph : DemoGraph P ε}

/-- The poll so far disarmed nothing, popped nothing and did not reach the timers. -/
structure Asleep (graph : DemoGraph P ε) (s : LoopState P (DemoApp P ε)) : Prop where
  view : armedView s.graph.world.outside = armedView graph.world.outside
  count : s.report.timersPublished = 0
  unpublished : ∀ nowMs slots, .timersPublished nowMs slots ∉ s.history

theorem Asleep.note {s : LoopState P (DemoApp P ε)} (h : Asleep graph s) {g : DemoGraph P ε}
    {report : RuntimeLoopReport} {event : LoopEvent} {pending : Bool}
    (hview : armedView g.world.outside = armedView s.graph.world.outside)
    (hcount : report.timersPublished = s.report.timersPublished)
    (hevent : ∀ nowMs slots, event ≠ .timersPublished nowMs slots) :
    Asleep graph ⟨g, report, pending, s.history ++ [event]⟩ where
  view := hview.trans h.view
  count := hcount.trans h.count
  unpublished nowMs slots hmem := by
    rcases List.mem_append.mp hmem with hbefore | hlast
    · exact h.unpublished nowMs slots hbefore
    · exact hevent nowMs slots (List.mem_singleton.mp hlast).symm

theorem outsideCallbacks_keeps (ports : DemoPorts P ε) :
    ports.outsideCallbacks.Keeps (armedView (P := P)) where
  retain _ _ _ _ _ := rfl
  release _ _ _ _ _ := rfl

theorem collectIngress_armed (harmed : (app graph).sleepArming = true) (budget : PollBudget) :
    collectIngress ports budget graph = (.ok, budget, graph) :=
  if_pos (Or.inl harmed)

theorem loopWorkPending_view (ports : DemoPorts P ε) (nowMs : UInt32) (report : RuntimeLoopReport)
    (graph : DemoGraph P ε) :
    armedView (loopWorkPending ports nowMs report graph).2.2.world.outside =
      armedView graph.world.outside := by
  unfold loopWorkPending
  simp only
  have hasked (e : ε) : armedView (isQuiescentAt nowMs duePolicy
      (graph.setEnv e).world.registry (graph.setEnv e).world.outside).2.2 =
        armedView graph.world.outside := by
    obtain ⟨hwork, harming, _⟩ := isQuiescentAt_frame (graph.setEnv e).world.registry
      (graph.setEnv e).world.outside nowMs duePolicy
    exact Prod.ext harming hwork.popped
  exact hasked _

theorem armed_frame (hhandler : ∀ actor msg, (handler actor msg).Keeps armedView)
    (harmed : (app graph).sleepArming = true) :
    RuntimeLoop.PollFrame (program ports handler) (app graph).pollPolicy (loopPorts ports)
      (Asleep graph) (fun _ => True) where
  ok := trivial
  isPartial := trivial
  report s report hcount hs := ⟨hs.view, hcount.trans hs.count, hs.unpublished⟩
  extraPending s pending hs := ⟨hs.view, hs.count, hs.unpublished⟩
  scheduler s hs := by
    have hkeeps : (program ports handler).Keeps (armedView (P := P)) :=
      ⟨outsideCallbacks_keeps ports, hhandler⟩
    have hrun := s.graph.pollSchedulerOnce_keeps hkeeps
      (app graph).pollPolicy.schedulerTurnBudget.toNat
    refine ⟨hs.note hrun rfl ?_, Or.inr trivial⟩
    intro nowMs slots hevent
    cases hevent
  collect s hs := by
    have hstill : (app s.graph).sleepArming = true :=
      (congrArg Prod.fst hs.view).trans harmed
    refine ⟨?_, trivial⟩
    simp only [RuntimeLoop.collect, loopPorts, loopCollect, collectIngress_armed hstill]
    refine hs.note rfl rfl ?_
    intro nowMs slots hevent
    cases hevent
  publish nowMs s hs := by
    unfold RuntimeLoop.publishTimers
    have hskip : ¬((app graph).pollPolicy.skipTimers = false ∧
        ((app graph).pollPolicy.skipTimersWhenSchedulerPending = false ∨
          s.graph.schedulerPending = 0)) := by
      rintro ⟨hoff, _⟩
      exact absurd (harmed.symm.trans hoff) (by decide)
    rw [if_neg hskip]
    exact hs
  clock s hs := by
    refine ⟨hs.note rfl rfl ?_, trivial⟩
    intro nowMs slots hevent
    cases hevent
  ended haveTiming startMs s hs := by
    unfold RuntimeLoop.readEnd
    split
    · refine ⟨hs.view, ?_, hs.unpublished⟩
      change (if _ then _ else s.report).timersPublished = 0
      split
      · exact hs.count
      · exact hs.count
    · exact hs
  asked endMs s hs :=
    ⟨(loopWorkPending_view ports endMs s.report s.graph).trans hs.view, hs.count, hs.unpublished⟩

theorem pollPolicy_budgets (app : DemoApp P ε) :
    app.pollPolicy.schedulerTurnBudget ≠ 0 ∧ app.pollPolicy.timerPublishBudget ≠ 0 :=
  ⟨(by decide : demoAppTurnBudget ≠ 0), (by decide : (1 : UInt32) ≠ 0)⟩

/-- A poll under an arming that no handler ends. -/
theorem poll_armed (hhandler : ∀ actor msg, (handler actor msg).Keeps armedView)
    (harmed : (app graph).sleepArming = true) {fuel : Nat} {rc : Result}
    {s : LoopState P (DemoApp P ε)} (hpoll : poll ports handler fuel graph = some (rc, s)) :
    Asleep graph s := by
  unfold poll at hpoll
  split at hpoll
  · obtain ⟨_, rfl⟩ := Prod.mk.inj (Option.some.inj hpoll)
    exact ⟨rfl, rfl, fun _ _ hmem => absurd hmem List.not_mem_nil⟩
  · cases hrun : RuntimeLoop.pollOnce (program ports handler) (some (app graph).pollPolicy)
        (loopPorts ports) fuel graph with
    | none =>
      rw [hrun] at hpoll
      cases hpoll
    | some out =>
      rw [hrun] at hpoll
      obtain ⟨_, rfl⟩ := Prod.mk.inj (Option.some.inj hpoll)
      have hstart : Asleep graph (RuntimeLoop.start (loopPorts ports) graph).2.2 :=
        ⟨rfl, rfl, fun _ _ hmem => absurd hmem List.not_mem_nil⟩
      have hended := ((armed_frame hhandler harmed).pollOnce
        (app graph).pollPolicy_budgets hstart hrun).1
      exact ⟨hended.view, hended.count, hended.unpublished⟩

theorem takesNothing_run (harmed : (app graph).sleepArming = true)
    {inputs : List (ArmedInput P ε)}
    (h : Machine.Each (armedStep ports) Undisturbed graph inputs) :
    Machine.Each (armedStep ports) (TakesNothing ports) graph inputs := by
  have hview {g : DemoGraph P ε} {input : ArmedInput P ε} (hg : (app g).sleepArming = true)
      (hcalm : Undisturbed g input) : (app (armedStep ports g input)).sleepArming = true := by
    cases input with
    | elsewhere act => exact (congrArg Prod.fst hcalm).trans hg
    | poll handler fuel =>
      simp only [armedStep]
      cases hpoll : poll ports handler fuel g with
      | none => exact hg
      | some out => exact (congrArg Prod.fst (poll_armed hcalm hg hpoll).view).trans hg
  have halways := Machine.always_of_each Undisturbed (fun g => (app g).sleepArming = true)
    (fun _ _ hg hcalm => hview hg hcalm) harmed h
  intro earlier input hpre
  have hg := halways earlier ((List.prefix_append _ _).trans hpre)
  have hcalm := h earlier input hpre
  cases input with
  | elsewhere act => trivial
  | poll handler fuel =>
    intro rc s hpoll
    obtain ⟨hsame, hcount, hnone⟩ := poll_armed hcalm hg hpoll
    exact ⟨congrArg Prod.snd hsame, hcount, hnone⟩

end Armed

/-- What is pending in the network port when the arming succeeds was pending before. -/
theorem SleepAdmitted.net {ports : DemoPorts P ε} {counts : PendingCounts ε}
    {graph : DemoGraph P ε} (h : SleepAdmitted ports counts graph) (hreport : ports.Report counts)
    (hok : (sleepArm ports graph.world.registry graph.world.outside).1 = .ok) :
    counts.net (app graph).env = 0 :=
  (sleepArm_frame graph.world.registry graph.world.outside hreport hok).2.2.net.symm.trans
    (h hok).1.net

/-- A sleep is admitted only with nothing pending just when the network port is quiet wherever
everything else is. -/
theorem sleepAdmitted_iff {ports : DemoPorts P ε} {counts : PendingCounts ε}
    (hreport : ports.Report counts) (graph : DemoGraph P ε) :
    SleepAdmitted ports counts graph ↔
      (ClearBesidesNet ports counts graph.world.registry graph.world.outside →
        counts.net (app graph).env = 0) := by
  have hiff := sleepArm_ok_iff graph.world.registry graph.world.outside hreport
  constructor
  · exact fun hadmitted hclear => hadmitted.net hreport (hiff.mpr hclear)
  · intro hnet hok
    obtain ⟨hwork, harmed, hsame⟩ :=
      sleepArm_frame graph.world.registry graph.world.outside hreport hok
    have hclear := hiff.mp hok
    refine ⟨⟨hclear.toQuiet.same hwork, hsame.irq.trans hclear.irq,
      hsame.net.trans (hnet hclear)⟩, fun inputs hcalm => ?_⟩
    refine takesNothing_run ?_ hcalm
    exact harmed

section Mqtt

def countingPorts : DemoPorts Unit (UInt32 × UInt32) where
  callbacks := ⟨fun _ _ _ _ e => (.ok, e), fun _ _ _ _ e => e⟩
  clock e := (.ok, 1000000, e)
  irq := some ⟨none, some fun e => (.ok, e.1, e), none⟩
  net := some ⟨none, some fun e => (.ok, e.2, e)⟩

def portCounts : PendingCounts (UInt32 × UInt32) := ⟨Prod.fst, Prod.snd⟩

theorem countingPorts_report : countingPorts.Report portCounts where
  irq := ⟨_, rfl, fun _ _ => rfl, fun _ => ⟨rfl, rfl⟩⟩
  net := ⟨_, rfl, fun _ _ => rfl, fun _ => ⟨rfl, rfl⟩⟩
  clock _ := ⟨rfl, rfl⟩

/-- The application after its boot, with empty mailboxes, and so many network events waiting. -/
def bootedGraph (netEvents : UInt32) : DemoGraph Unit (UInt32 × UInt32) where
  scheduler := ⟨SystemPump.init.bindAll [.init .fastLoop], 0, 0, 0⟩
  world :=
    { registry := ActorRegistry.fresh.setRuntime ⟨.power, Mailbox.fresh .fifo8, {}⟩
      outside := (TimerService.init,
        { bootPublished := true
          actorEnabled := fun _ => true
          ingressService := ⟨fun _ => Msg.zeroed, 0, 0, 0, 0, 0⟩
          env := (0, netEvents) })
      history := [] }

theorem bootedGraph_clear (netEvents : UInt32) : ClearBesidesNet countingPorts portCounts
    (bootedGraph netEvents).world.registry (bootedGraph netEvents).world.outside where
  mailboxes actor runtime _ hslot _ := by
    by_cases hpower : actor = .power
    · subst hpower
      obtain rfl := Option.some.inj hslot
      rfl
    · cases (Function.update_of_ne hpower _ _).symm.trans hslot
  timers index hactive := by cases hactive
  oled := rfl
  ds18b20 := rfl
  bh1750 := rfl
  faults := rfl
  unarmed := rfl
  reported := rfl
  irq := rfl
  clock := rfl
  ingress := IngressService.messages_eq_nil.mpr (UInt32.sub_self 0)

theorem sleepAdmitted_iff_booted : SleepAdmitted countingPorts portCounts (bootedGraph 1) ↔
    (ClearBesidesNet countingPorts portCounts (bootedGraph 1).world.registry
      (bootedGraph 1).world.outside → portCounts.net (app (bootedGraph 1)).env = 0) :=
  sleepAdmitted_iff countingPorts_report (bootedGraph 1)

/-- The guard does not ask the network port. -/
theorem not_sleepAdmitted : ¬SleepAdmitted countingPorts portCounts (bootedGraph 1) := by
  intro h
  have hok := (sleepArm_ok_iff (bootedGraph 1).world.registry (bootedGraph 1).world.outside
    countingPorts_report).mpr (bootedGraph_clear 1)
  exact absurd (h.net countingPorts_report hok) (by decide)

end Mqtt

end DemoApp

end EventFramework
