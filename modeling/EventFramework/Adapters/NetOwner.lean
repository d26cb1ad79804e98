import EventFramework.Adapters.NetShares

/-!
# The payload slots behind their callbacks

The payload slots of the network adapter as the users of messages see them: a message in a slot has
one share of it.
-/

namespace EventFramework
set_option autoImplicit false

variable {κ δ : Type}

/-- The payload callbacks of the adapter beside those of others, which act on their own state. -/
def netCallbacks (foreign : Callbacks (NetPtr κ) δ) : Callbacks (NetPtr κ) (NetAdapter κ × δ) where
  retain fn ctx data size w :=
    match fn with
    | .payloadRetain =>
      let out := w.1.payloadRetain ctx data size
      (out.1, out.2, w.2)
    | fn =>
      let out := foreign.retain fn ctx data size w.2
      (out.1, w.1, out.2)
  release fn ctx data size w :=
    match fn with
    | .payloadRelease => (w.1.payloadRelease ctx data size, w.2)
    | fn => (w.1, foreign.release fn ctx data size w.2)

namespace Msg

def netSlot (msg : Msg (NetPtr κ)) : Option NetSlotIndex :=
  if msg.storage = .external then msg.external.netSlot else none

def netShares (msg : Msg (NetPtr κ)) (index : NetSlotIndex) : Nat :=
  if msg.netSlot = some index then 1 else 0

/-- A message in a slot was built from the lease of the slot. -/
def LeasesSlot (msg : Msg (NetPtr κ)) : Prop :=
  ∀ index, msg.netSlot = some index → msg.external = NetAdapter.payloadMakeLease index ∧
    msg.payloadSize = netMqttRxPayloadSize ∧ msg.hasCookie = true ∧ msg.isDisposed = false

variable {msg : Msg (NetPtr κ)} {index : NetSlotIndex}

theorem netShares_eq_zero (h : msg.netSlot = none) (index : NetSlotIndex) : msg.netShares index = 0 := by
  simp [netShares, h]

theorem netShares_le_one (msg : Msg (NetPtr κ)) (index : NetSlotIndex) : msg.netShares index ≤ 1 := by
  unfold netShares
  split
  · exact Nat.le_refl 1
  · exact Nat.zero_le 1

theorem storage_of_netSlot (h : msg.netSlot = some index) : msg.storage = .external := by
  by_contra hother
  simp [netSlot, hother] at h

theorem checkedSlot_none (h : msg.netSlot = none) (hstorage : msg.storage = .external)
    (ctx : Option (NetPtr κ)) (size : Nat) :
    NetAdapter.checkedSlot ctx msg.external.data size = none := by
  rw [netSlot, if_pos hstorage, ExternalPayload.netSlot] at h
  unfold NetAdapter.checkedSlot
  split
  · rename_i hdata
    simp [hdata] at h
  · rfl

/-- A message outside the slots leaves the adapter alone. -/
theorem retain_outside (h : msg.netSlot = none) (foreign : Callbacks (NetPtr κ) δ) (w : NetAdapter κ × δ) :
    (Mailbox.retainForQueue (netCallbacks foreign) msg w).2.1 = w.1 := by
  unfold Mailbox.retainForQueue
  split
  · rfl
  · rename_i hexternal
    rw [not_or, not_not] at hexternal
    unfold Msg.retain
    split
    · rfl
    · cases eventMeta msg.eventId with
      | none => rfl
      | some info =>
        simp only
        split
        · rfl
        · cases info.payloadKind with
          | lease =>
            cases msg.external.retainFn with
            | none => rfl
            | some fn =>
              cases fn with
              | payloadRetain =>
                simp only [netCallbacks, NetAdapter.payloadRetain, checkedSlot_none h hexternal.1]
              | payloadRelease | slot | slotPayload | foreign => rfl
          | _ => rfl

theorem release_outside (h : msg.netSlot = none) (foreign : Callbacks (NetPtr κ) δ) (w : NetAdapter κ × δ) :
    (msg.releasePayload (netCallbacks foreign) w).1 = w.1 := by
  unfold releasePayload
  split
  · rename_i hexternal
    cases msg.external.releaseFn with
    | none => rfl
    | some fn =>
      cases fn with
      | payloadRelease =>
        simp only [netCallbacks, NetAdapter.payloadRelease, checkedSlot_none h hexternal.1]
      | payloadRetain | slot | slotPayload | foreign => rfl
  · rfl

/-- A message in a slot retains it and releases it. -/
theorem retain_inside (howns : msg.LeasesSlot) (h : msg.netSlot = some index)
    (foreign : Callbacks (NetPtr κ) δ) (w : NetAdapter κ × δ) :
    Mailbox.retainForQueue (netCallbacks foreign) msg w =
        ((w.1.retainSlot index).1, (w.1.retainSlot index).2, w.2) ∨
      (Mailbox.retainForQueue (netCallbacks foreign) msg w).1 ≠ .ok ∧
        (Mailbox.retainForQueue (netCallbacks foreign) msg w).2 = w := by
  obtain ⟨hexternal, hsize, hcookie, _⟩ := howns index h
  have hstorage := storage_of_netSlot h
  have hpos : msg.payloadSize ≠ 0 := by rw [hsize]; decide
  unfold Mailbox.retainForQueue Msg.retain
  simp only [hstorage, hpos, ne_eq, not_true_eq_false, or_self, if_false, hcookie, Bool.not_true,
    Bool.false_eq_true]
  cases eventMeta msg.eventId with
  | none => exact Or.inr ⟨Result.noConfusion, rfl⟩
  | some info =>
    simp only
    cases info.payloadKind with
    | lease =>
      refine Or.inl ?_
      simp [hexternal, hsize, NetAdapter.payloadMakeLease, netCallbacks, NetAdapter.payloadRetain,
        NetAdapter.checkedSlot]
    | streamView => exact Or.inr ⟨Result.noConfusion, rfl⟩
    | _ => exact Or.inr ⟨Result.noConfusion, rfl⟩

theorem release_inside (howns : msg.LeasesSlot) (h : msg.netSlot = some index)
    (foreign : Callbacks (NetPtr κ) δ) (w : NetAdapter κ × δ) :
    msg.releasePayload (netCallbacks foreign) w = (w.1.releaseSlot index, w.2) := by
  obtain ⟨hexternal, hsize, _, _⟩ := howns index h
  have hpos : 0 < netMqttRxPayloadSize := by decide
  simp [releasePayload, storage_of_netSlot h, hexternal, hsize, hpos, NetAdapter.payloadMakeLease,
    netCallbacks, NetAdapter.payloadRelease, NetAdapter.checkedSlot]

end Msg

namespace NetAdapter

variable {net net' net'' : NetAdapter κ} {c c' : NetSlotIndex → Nat}

/-- The slots in use were in use before, with the same payload, and the ring is as it was. -/
structure KeepsSlots (net net' : NetAdapter κ) : Prop extends SameRing net net' where
  used : ∀ index, (net'.payloadSlots index).inUse = true →
    (net.payloadSlots index).inUse = true ∧
      (net'.payloadSlots index).payload = (net.payloadSlots index).payload

theorem KeepsSlots.refl (net : NetAdapter κ) : net.KeepsSlots net :=
  ⟨⟨rfl, rfl, rfl⟩, fun _ h => ⟨h, rfl⟩⟩

theorem KeepsSlots.trans (h : net.KeepsSlots net') (h' : net'.KeepsSlots net'') :
    net.KeepsSlots net'' := by
  refine ⟨h.toSameRing.trans h'.toSameRing, fun index hused => ?_⟩
  obtain ⟨hmid, hpayload⟩ := h'.used index hused
  exact ⟨(h.used index hmid).1, hpayload.trans (h.used index hmid).2⟩

theorem KeepsPayload.keepsSlots (h : net.Counts c) (h' : net'.Counts c') (hring : net.SameRing net')
    (hkeeps : net.KeepsPayload net' c') (hpos : ∀ index, 0 < c' index → 0 < c index) :
    net.KeepsSlots net' := by
  refine ⟨hring, fun index hused => ?_⟩
  rw [h'.inUse] at hused
  have hshared := of_decide_eq_true hused
  rw [h.inUse]
  exact ⟨decide_eq_true (hpos index hshared), hkeeps index hshared⟩

theorem retainSlot_same (index : NetSlotIndex) : net.SameRing (net.retainSlot index).2 := by
  unfold retainSlot
  split <;> exact ⟨rfl, rfl, rfl⟩

theorem addShare_pos {index : NetSlotIndex} (hshared : 0 < c index) (other : NetSlotIndex)
    (h : 0 < addShare index c other) : 0 < c other := by
  unfold addShare at h
  by_cases hother : other = index
  · exact hother ▸ hshared
  · rwa [Function.update_of_ne hother] at h

theorem subShare_pos {index : NetSlotIndex} (other : NetSlotIndex) (h : 0 < subShare index c other) :
    0 < c other := by
  unfold subShare at h
  by_cases hother : other = index
  · subst hother
    rw [Function.update_self] at h
    omega
  · rwa [Function.update_of_ne hother] at h

theorem addShare_eq {msg : Msg (NetPtr κ)} {index : NetSlotIndex} (h : msg.netSlot = some index) :
    addShare index c = fun other => c other + msg.netShares other := by
  funext other
  unfold addShare Msg.netShares
  by_cases hother : other = index
  · subst hother
    simp [h]
  · simp [h, hother, Ne.symm hother]

theorem subShare_eq {msg : Msg (NetPtr κ)} {index : NetSlotIndex} (h : msg.netSlot = some index)
    (hc : ∀ other, c' other + msg.netShares other = c other) : subShare index c = c' := by
  funext other
  have hother := hc other
  unfold subShare Msg.netShares at *
  by_cases he : other = index
  · subst he
    simp only [h, if_true] at hother
    rw [Function.update_self]
    omega
  · have hne : ¬some index = some other := fun h => he (Option.some.inj h).symm
    rw [h, if_neg hne] at hother
    rw [Function.update_of_ne he]
    exact hother.symm

/-- The payload slots, behind their callbacks. -/
def owner (foreign : Callbacks (NetPtr κ) δ) : PayloadOwner (NetPtr κ) (NetAdapter κ × δ) NetSlotIndex where
  callbacks := netCallbacks foreign
  shares := Msg.netShares
  Counts w c := w.1.Counts c
  Owns _ msg := msg.LeasesSlot
  Keeps w w' := w.1.KeepsSlots w'.1
  keeps_refl w := .refl w.1
  keeps_trans := KeepsSlots.trans
  plain := by
    intro msg hstorage
    have hnone : msg.netSlot = none := if_neg hstorage
    refine ⟨Msg.netShares_eq_zero hnone, fun _ index hslot => ?_⟩
    rw [hnone] at hslot
    cases hslot
  stale := by
    intro w msg howns hstale index
    refine Msg.netShares_eq_zero ?_ index
    cases hslot : msg.netSlot with
    | none => rfl
    | some found =>
      obtain ⟨_, _, hcookie, hlive⟩ := howns found hslot
      rw [hcookie, hlive] at hstale
      simp at hstale
  retarget msg target := ⟨rfl, fun _ howns => howns⟩
  owns_keeps howns _ _ _ := howns
  retain := by
    intro w c msg hcounts howns hle hroom
    cases hslot : msg.netSlot with
    | none =>
      rw [Msg.retain_outside hslot]
      have hsame : (fun index => c index + msg.netShares index) = c := funext fun index => by
        rw [Msg.netShares_eq_zero hslot, Nat.add_zero]
      rw [hsame]
      exact ⟨.refl _, fun _ => hcounts, fun _ => hcounts⟩
    | some index =>
      have hone : msg.netShares index = 1 := if_pos hslot
      have hshared : 0 < c index := Nat.lt_of_lt_of_le (hone ▸ Nat.one_pos) (hle index)
      obtain ⟨hok, hmore, hkeeps⟩ := hcounts.retainSlot hshared (hroom index (hone ▸ Nat.one_pos))
      rcases Msg.retain_inside howns hslot foreign w with heq | ⟨hfails, hsame⟩
      · rw [heq, ← addShare_eq hslot]
        refine ⟨?_, fun _ => hmore, fun hne => absurd hok hne⟩
        refine KeepsPayload.keepsSlots hcounts hmore (retainSlot_same index) (fun other hpos => ?_)
          (addShare_pos hshared)
        exact hkeeps other (addShare_pos hshared other hpos)
      · rw [hsame]
        exact ⟨.refl _, fun hok' => absurd hok' hfails, fun _ => hcounts⟩
  release := by
    intro w c c' msg hcounts howns hle hc
    cases hslot : msg.netSlot with
    | none =>
      rw [Msg.release_outside hslot]
      have hsame : c' = c := funext fun index => by
        have := hc index
        rwa [Msg.netShares_eq_zero hslot] at this
      exact ⟨hsame ▸ hcounts, .refl _⟩
    | some index =>
      have hone : msg.netShares index = 1 := if_pos hslot
      have hshared : 0 < c index := Nat.lt_of_lt_of_le (hone ▸ Nat.one_pos) (hle index)
      obtain ⟨hless, hkeeps, _⟩ := hcounts.releaseSlot hshared
      rw [Msg.release_inside howns hslot, ← subShare_eq hslot hc]
      exact ⟨hless, KeepsPayload.keepsSlots hcounts hless (releaseSlot_same index).toSameRing hkeeps
        subShare_pos⟩

end NetAdapter

end EventFramework
