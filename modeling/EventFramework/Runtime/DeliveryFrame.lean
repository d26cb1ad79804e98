import EventFramework.Core.RegistryShares
import EventFramework.Runtime.DeliveryAgreement

/-!
# What a publication keeps

A publication changes the world only by its deliveries and by reading the clock for the trace. What
both keep, the publication keeps, whatever its result.
-/

namespace EventFramework
set_option autoImplicit false

variable {P ω ι : Type}

namespace Delivery

theorem noteError_world (s : Delivery P ω) (error : Result) (target : ActorId) :
    (s.noteError error target).graph.world = s.graph.world := by
  unfold noteError
  split <;> rfl

theorem reject_world (s : Delivery P ω) (entry : ActiveRoute) (msg : Msg P) :
    (s.reject entry msg).graph.world = s.graph.world := by
  unfold reject
  simp only
  rw [noteError_world, emitFault_world]
  split <;> rfl

theorem conclude_world (s : Delivery P ω) (finalRc : Result) :
    (conclude finalRc s).2.graph.world = s.graph.world := by
  unfold conclude
  split
  · rfl
  · split <;> rfl

/-- The parts of a publication of `msg` that touch the world keep `Inv`. -/
structure PublishFrame (ports : DeliveryPorts P ω) (msg : Msg P) (Inv : World P ω → Prop) : Prop where
  deliver : ∀ w target qos, Inv w →
    Inv (w.deliver ports.callbacks target { msg with targetActor := target } qos true).2.2
  clock : ∀ now, ports.clock = some now → ∀ w, Inv w → Inv { w with outside := (now w.outside).2.2 }

namespace PublishFrame

variable {ports : DeliveryPorts P ω} {msg : Msg P} {Inv : World P ω → Prop} {s : Delivery P ω}

theorem deliverOne (h : PublishFrame ports msg Inv) (hs : Inv s.graph.world) (route : Route) :
    Inv (Delivery.deliverOne ports s route msg).2.graph.world := by
  rw [(deliverOne_attempt ports s route msg).1]
  have hdelivered := h.deliver _ route.targetActor route.qos hs
  unfold attempt traceTimestampUs
  cases hclock : ports.clock with
  | none => exact hdelivered
  | some now => exact h.clock now hclock _ hdelivered

theorem publishEntries (h : PublishFrame ports msg Inv) (entries : List ActiveRoute) :
    ∀ (finalRc : Result) {s : Delivery P ω}, Inv s.graph.world →
      Inv (Delivery.publishEntries ports msg entries finalRc s).2.graph.world := by
  induction entries with
  | nil => exact fun _ _ hs => hs
  | cons entry rest ih =>
    intro finalRc s hs
    unfold Delivery.publishEntries
    split
    · exact ih finalRc hs
    · have hmatched : Inv s.matchRoute.graph.world := hs
      cases hstate : entry.state with
      | optionalDisabled => exact ih finalRc hs
      | enabled =>
        simp only
        split
        · exact h.deliverOne hmatched entry.route
        · exact ih _ (h.deliverOne hmatched entry.route)
      | rejectedInvalidEvent | rejectedInvalidActor | rejectedMissingMandatoryActor
      | rejectedQosConflict | rejectedOverflow =>
        simp only
        refine ih _ ?_
        rw [reject_world]
        exact hmatched

theorem publishRoutes (h : PublishFrame ports msg Inv) (routes : List Route) :
    ∀ (finalRc : Result) {s : Delivery P ω}, Inv s.graph.world →
      Inv (Delivery.publishRoutes ports msg routes finalRc s).2.graph.world := by
  induction routes with
  | nil => exact fun _ _ hs => hs
  | cons route rest ih =>
    intro finalRc s hs
    unfold Delivery.publishRoutes
    simp only
    split
    · exact h.deliverOne hs route
    · exact ih _ (h.deliverOne hs route)

theorem publish (h : PublishFrame ports msg Inv) {graph : DeliveryGraph P ω} (hs : Inv graph.world) :
    Inv (Delivery.publish ports graph msg).2.graph.world := by
  unfold Delivery.publish
  simp only
  rw [conclude_world]
  split
  · exact h.publishEntries _ _ hs
  · exact h.publishRoutes _ _ hs

end PublishFrame

end Delivery

namespace PayloadOwner.Balanced

variable {owner : PayloadOwner P ω ι} {rest : ι → Nat} {msg : Msg P} {ports : DeliveryPorts P ω}
  {graph : DeliveryGraph P ω}

theorem publish (h : owner.Balanced rest graph.world) (hcallbacks : ports.callbacks = owner.callbacks)
    (hclock : ∀ now, ports.clock = some now → ∀ w c, owner.Counts w c →
      owner.Counts (now w).2.2 c ∧ owner.Keeps w (now w).2.2)
    (hone : ∀ (msg : Msg P) i, owner.shares msg i ≤ 1) (howns : owner.Owns graph.world.outside msg)
    (hle : ∀ i, owner.shares msg i ≤ rest i) (hroom : ∀ i, actorCount * 16 + rest i + 1 < 2 ^ 32) :
    owner.Balanced rest (Delivery.publish ports graph msg).2.graph.world ∧
      owner.Keeps graph.world.outside (Delivery.publish ports graph msg).2.graph.world.outside := by
  have hframe : Delivery.PublishFrame ports msg fun w =>
      owner.Balanced rest w ∧ owner.Keeps graph.world.outside w.outside := by
    refine ⟨?_, ?_⟩
    · intro w target qos ⟨hw, hkeeps⟩
      obtain ⟨hshares, hretarget⟩ := owner.retarget msg target
      have hsent := hretarget _ (owner.owns_keeps howns hkeeps hw.counts fun i =>
        Nat.le_add_left_of_le (hle i))
      rw [hcallbacks]
      obtain ⟨hw', hkeeps'⟩ := hw.deliver hsent (fun i => hshares ▸ hle i) (fun i _ => by
        have := hw.registryShares_le hone i
        have := hroom i
        omega) target qos true
      exact ⟨hw', owner.keeps_trans hkeeps hkeeps'⟩
    · intro now hnow w ⟨hw, hkeeps⟩
      obtain ⟨hcounts, hkeeps'⟩ := hclock now hnow _ _ hw.counts
      exact ⟨hw.outside hkeeps' hcounts, owner.keeps_trans hkeeps hkeeps'⟩
  exact hframe.publish ⟨h, owner.keeps_refl _⟩

end PayloadOwner.Balanced

end EventFramework
