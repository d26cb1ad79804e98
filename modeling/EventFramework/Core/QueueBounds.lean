import EventFramework.Core.MailboxRefinement
import EventFramework.Core.PumpRules
import Mathlib.Algebra.Order.BigOperators.Group.List
import Mathlib.Algebra.Order.Ring.Nat

/-!
# Bounds on what is queued

Deliveries, handlers and pumps keep every mailbox of a registry well formed, so that what is queued
for the bound domains stays below a fixed bound.
-/

namespace EventFramework
set_option autoImplicit false

variable {P ω : Type}

namespace Mailbox

variable {mb : Mailbox P}

theorem Wf.pushQos (h : mb.Wf) (cb : Callbacks P ω) (msg : Msg P) (qos : RouteQos) (w : ω) :
    (mb.pushQos cb msg qos w).2.2.1.Wf :=
  (pushQos_matches cb ⟨h, rfl⟩ msg qos w).holds.1

theorem Wf.pop (h : mb.Wf) : mb.pop.2.2.Wf := by
  cases hq : mb.queued with
  | nil =>
    have hempty : mb.Holds [] := ⟨h, hq⟩
    rw [pop_empty hempty]
    exact h
  | cons first rest => exact (pop_holds ⟨h, hq⟩).2.2.1.1

theorem Wf.count_le_sixteen (h : mb.Wf) : mb.count ≤ 16 := by
  have hle := h.count_le
  rw [h.storageCount_eq] at hle
  refine Nat.le_trans hle ?_
  cases mb.kind <;> decide

end Mailbox

def ActorRegistry.Sound (registry : ActorRegistry P) : Prop :=
  ∀ actor runtime, registry.slots actor = some runtime → runtime.mailbox.Wf

namespace ActorRegistry.Sound

variable {registry : ActorRegistry P}

theorem same {other : ActorRegistry P} (h : registry.Sound) (hslots : other.slots = registry.slots) :
    other.Sound := fun actor runtime hslot => h actor runtime (hslots ▸ hslot)

theorem setRuntime (h : registry.Sound) {runtime : ActorRuntime P} (hwf : runtime.mailbox.Wf) :
    (registry.setRuntime runtime).Sound := by
  intro actor other hslot
  by_cases hactor : actor = runtime.actorId
  · subst hactor
    simp only [ActorRegistry.setRuntime, Function.update_self] at hslot
    obtain rfl := Option.some.inj hslot
    exact hwf
  · simp only [ActorRegistry.setRuntime, Function.update_of_ne hactor] at hslot
    exact h actor other hslot

theorem pending_le (h : registry.Sound) (actor : ActorId) : registry.pending actor ≤ 16 := by
  unfold ActorRegistry.pending
  cases hslot : registry.slots actor with
  | none => exact Nat.zero_le 16
  | some runtime => exact (h actor runtime hslot).count_le_sixteen

theorem domainPending_le (h : registry.Sound) (domain : ExecutionDomain) :
    DomainPump.pending domain registry ≤ actorCount * 16 := by
  unfold DomainPump.pending
  refine Nat.le_trans (List.sum_le_card_nsmul _ 16 ?_) (by simp)
  intro n hn
  obtain ⟨index, _, rfl⟩ := List.mem_map.mp hn
  split
  · exact h.pending_le _
  · exact Nat.zero_le 16

/-- What the domains hold fits into the counter of a report. -/
theorem systemPending_lt (h : registry.Sound) (pump : SystemPump) : pump.pending registry < 2 ^ 32 := by
  have hle : pump.pending registry ≤ domainCount * (actorCount * 16) := by
    unfold SystemPump.pending
    refine Nat.le_trans (List.sum_le_card_nsmul _ (actorCount * 16) ?_) (by simp)
    intro n hn
    obtain ⟨index, _, rfl⟩ := List.mem_map.mp hn
    split
    · exact Nat.zero_le _
    · exact h.domainPending_le _
  exact Nat.lt_of_le_of_lt hle (by decide)

end ActorRegistry.Sound

def KeepsSound (w w' : World P ω) : Prop := w.registry.Sound → w'.registry.Sound

namespace KeepsSound

theorem same {w w' : World P ω} (h : w'.registry.slots = w.registry.slots) : KeepsSound w w' :=
  fun hs => hs.same h

theorem deliver (cb : Callbacks P ω) (w : World P ω) (target : ActorId) (msg : Msg P) (qos : RouteQos)
    (wantReport : Bool) : KeepsSound w (w.deliver cb target msg qos wantReport).2.2 := by
  intro hs
  rcases w.deliver_cases cb target msg qos wantReport with
    ⟨_, _, _, hregistry⟩ | ⟨runtime, rc, report, mailbox, outside, stats, counts, hfind, hpush, _, _,
      hregistry, _⟩
  · rw [hregistry]
    exact hs.same rfl
  · obtain ⟨_, hslot⟩ : target.isValid = true ∧ w.registry.slots target = some runtime := by
      simpa [ActorRegistry.find] using hfind
    have hpushed := (hs target runtime hslot).pushQos cb msg qos w.outside
    rw [hpush] at hpushed
    rw [hregistry]
    have hbefore : ({ w.registry with stats := stats } : ActorRegistry P).Sound := hs.same rfl
    exact hbefore.setRuntime hpushed

theorem updateStats (w : World P ω) (actor : ActorId) (f : ActorRuntimeStats → ActorRuntimeStats) :
    KeepsSound w (w.updateStats actor f) := by
  intro hs
  unfold World.updateStats
  split
  · exact hs
  · rename_i runtime hslot
    exact hs.setRuntime (hs actor runtime hslot)

theorem handlerFrame (cb : Callbacks P ω) :
    HandlerFrame cb (fun _ => True) (KeepsSound (P := P) (ω := ω)) where
  refl := fun _ => id
  trans := fun h h' hs => h' (h hs)
  deliver := fun w target msg qos wantReport _ => deliver cb w target msg qos wantReport
  outside := fun _ _ => same rfl

theorem processOne (prog : Program P ω) (w : World P ω) (actor : ActorId) :
    KeepsSound w (EventFramework.processOne prog actor w).2 := by
  intro hs
  rcases processOne_cases prog actor w with
    ⟨_, heq⟩ | ⟨runtime, hslot, ⟨_, _, heq⟩ | ⟨msg, mb, handled, disposed, w', _, hpop, _, hhandle, _, heq⟩⟩
  · rw [heq]
    exact hs
  · rw [heq]
    exact updateStats w actor _ hs
  · have hpopped := (hs actor runtime hslot).pop
    rw [hpop] at hpopped
    have hexec := (handlerFrame prog.callbacks).exec (prog.handler actor msg).delivers_any
      ((w.setRuntime { runtime with mailbox := mb }).note (.invoked actor msg))
    have hkept : w'.registry.Sound := by
      have hrun := congrArg (fun out => out.2.2.registry) hhandle
      rw [← hrun]
      exact hexec (hs.setRuntime hpopped)
    rw [heq]
    exact updateStats w' actor _ hkept

theorem pumpFrame (prog : Program P ω) :
    PumpFrame prog (fun _ => True) (KeepsSound (P := P) (ω := ω)) where
  refl := fun _ => id
  trans := fun h h' hs => h' (h hs)
  stats := fun w actor f _ => updateStats w actor f
  note := fun _ _ _ => id
  processOne := processOne prog

theorem systemRun (prog : Program P ω) (pump : SystemPump) (budget : Nat) (w : World P ω) :
    KeepsSound w (pump.run prog budget w).2.2.2 :=
  (pumpFrame prog).systemRun (fun _ _ => trivial) pump budget w

end KeepsSound

end EventFramework
