import EventFramework.Core.LeaseShares

/-!
# Transfers of lease shares

What the message and queue operations do to the counts of the pool, as balances: the
shares a message or a queue had, for the shares it has afterwards.
-/

namespace EventFramework
set_option autoImplicit false

variable {κ ν : Type}

namespace LeasePool

variable {foreign : Callbacks (LeasePtr κ) ν} {c : Nat → Nat}

/-- The slots of the pool, behind its callbacks. -/
def owner (foreign : Callbacks (LeasePtr κ) ν) : PayloadOwner (LeasePtr κ) (LeasePool × ν) Nat where
  callbacks := leaseCallbacks foreign
  shares := Msg.shares
  Counts w c := w.1.Counts c
  Owns w msg := w.1.Owns msg
  Keeps w w' := w.1.Keeps w'.1
  keeps_refl w := Keeps.refl w.1
  keeps_trans := Keeps.trans
  plain h := ⟨Msg.shares_eq_zero (Msg.not_usesPool_of_storage h),
    fun _ => owns_of_not_usesPool (Msg.not_usesPool_of_storage h)⟩
  stale howns hstale := Msg.shares_eq_zero (not_usesPool_of_stale howns hstale)
  retarget msg target := by
    refine ⟨rfl, fun w howns huse => ?_⟩
    obtain ⟨index, hatt⟩ := howns huse
    exact ⟨index, hatt.cookie, hatt.live, hatt.retainFn_eq, hatt.releaseFn_eq, hatt.ctx_eq,
      hatt.data_eq, hatt.size_eq⟩
  owns_keeps howns hkeeps hcounts hle := by
    refine howns.keeps hkeeps fun index hleased => hcounts.used ?_
    exact Nat.lt_of_lt_of_le (Nat.lt_of_lt_of_eq Nat.one_pos (Msg.shares_self hleased).symm) (hle index)
  retain hcounts howns hle hroom :=
    retainForQueue_counts hcounts howns hle fun index hleased =>
      hroom index (Nat.lt_of_lt_of_eq Nat.one_pos (Msg.shares_self hleased).symm)
  release hcounts howns hle hc := releasePayload_counts foreign hcounts howns hle hc

/-- Offering a message to a queue: whatever the arrival, the counts follow the queue. -/
theorem offer_counts {queued : List (Msg (LeasePtr κ))} {w : LeasePool × ν} (h : w.1.Counts c)
    {msg : Msg (LeasePtr κ)} (howns : w.1.Owns msg) (hle : ∀ i, msg.shares i ≤ c i)
    (hroom : ∀ i, msg.leasedSlot = some i → c i + 1 < 2 ^ 32)
    (hqueued : ∀ old ∈ queued, w.1.Owns old) (hqle : ∀ i, queueShares queued i ≤ c i)
    {arrival : Arrival} (hindex : ∀ k, arrival = .replaceAt k → k < queued.length)
    {out : Result × QueueState (LeasePtr κ) (LeasePool × ν)}
    (hout : (QueueState.mk queued w).offer (leaseCallbacks foreign) arrival msg = out) :
    w.1.Keeps out.2.owners.1 ∧ (∀ old ∈ out.2.queued, old = msg ∨ old ∈ queued) ∧
      ∀ c' : Nat → Nat,
        (∀ i, c' i + queueShares queued i = c i + queueShares out.2.queued i) →
        out.2.owners.1.Counts c' := by
  refine (owner foreign).offer_counts h howns hle (fun i hpos => ?_) hqueued hqle hindex hout
  apply hroom i
  by_contra hother
  exact absurd hpos (Nat.not_lt.mpr (Nat.le_of_eq (if_neg hother)))

theorem setExternalPayload_settles {w : LeasePool × ν} (h : w.1.Counts c) {msg : Msg (LeasePtr κ)}
    (howns : w.1.Owns msg) (hle : ∀ i, msg.shares i ≤ c i) (data : Option (LeasePtr κ)) (size : Nat)
    (retainFn releaseFn : Option κ) (ctx : Option (LeasePtr κ)) :
    Settles c w msg (msg.setExternalPayload (leaseCallbacks foreign) data size
      (retainFn.map .foreign) (releaseFn.map .foreign) ctx w).2 := by
  rcases msg.setExternalPayload_cases (leaseCallbacks foreign) data size (retainFn.map .foreign)
    (releaseFn.map .foreign) ctx w with ⟨rc, _, heq⟩ | ⟨_, _, heq⟩ <;> rw [heq]
  · exact settles_unchanged h howns
  · apply settles_released h howns hle
    split
    · rintro ⟨_, _, hretain | hrelease⟩
      · cases retainFn <;> simp at hretain
      · cases releaseFn <;> simp at hrelease
    · exact Msg.not_usesPool_of_storage (by simp [Msg.clearPayload])

theorem setInlinePayload_settles {w : LeasePool × ν} (h : w.1.Counts c) {msg : Msg (LeasePtr κ)}
    (howns : w.1.Owns msg) (hle : ∀ i, msg.shares i ≤ c i) (data : Option (List UInt8)) (size : Nat) :
    Settles c w msg (msg.setInlinePayload (leaseCallbacks foreign) data size w).2 := by
  rcases msg.setInlinePayload_cases (leaseCallbacks foreign) data size w with
    ⟨rc, _, heq⟩ | ⟨msg', hstorage, heq⟩ <;> rw [heq]
  · exact settles_unchanged h howns
  · exact settles_released h howns hle (Msg.not_usesPool_of_storage hstorage)

/-- Attaching takes a share for the message; a message that refuses it gives it back. -/
theorem attachMsg_settles {w : LeasePool × ν} (h : w.1.Counts c) {msg : Msg (LeasePtr κ)}
    (howns : w.1.Owns msg) (hle : ∀ i, msg.shares i ≤ c i) (handle : LeaseHandle)
    (hroom : ∀ i, handle.slot = some i → w.1.handleIsLive handle = true → c i + 1 < 2 ^ 32) :
    Settles c w msg (attachMsg foreign msg handle w).2 := by
  cases hlive : w.1.handleIsLive handle with
  | false =>
    simp only [attachMsg, hlive, Bool.not_false, if_true]
    refine ⟨keeps_countStaleHandle _ _, howns, ?_⟩
    intro c' hc
    have hsame : c' = c := funext fun i => Nat.add_right_cancel (hc i)
    exact hsame ▸ h.countStaleHandle handle
  | true =>
    obtain ⟨i, hslot, hpos, hgen⟩ := (h.live_iff handle).mp hlive
    have hlt := h.lt hpos
    have hdata : w.1.handleData handle = some (.storage (i * w.1.slotSize) : LeasePtr κ) := by
      simp [handleData, hslot, hlive, slotDataPtr, h.metadataIsValid hlt, h.slotIndex_eq i hlt]
    have hsize : w.1.handleSize handle = (w.1.slots i).payloadSize := by
      simp [handleSize, hslot, hlive]
    have hsome : ¬ ((w.1.handleData handle : Option (LeasePtr κ)).isNone = true ∧
        0 < w.1.handleSize handle) := by simp [hdata]
    simp only [attachMsg, hlive, Bool.not_true, Bool.false_eq_true, if_false, hsome]
    by_cases hload : 0 < w.1.handleSize handle
    · let c₁ : Nat → Nat := Function.update c i (c i + 1)
      have hself : c₁ i = c i + 1 := Function.update_self ..
      have hother : ∀ j, j ≠ i → c₁ j = c j := fun j hj => Function.update_of_ne hj ..
      obtain ⟨hok, hcounts, hkeeps⟩ := retain_live c₁ h hslot hlive (hroom i hslot hlive) hself hother
      have hle₁ : ∀ j, c j ≤ c₁ j := by
        intro j
        by_cases hj : j = i
        · rw [hj, hself]
          exact Nat.le_succ _
        · exact Nat.le_of_eq (hother j hj).symm
      have howns₁ : (w.1.retain handle).2.Owns msg := howns.keeps hkeeps fun j hleased =>
        hcounts.used (by
          have := hle j
          have := hle₁ j
          rw [Msg.shares_self hleased] at *
          omega)
      simp only [hload, hok, ne_eq, not_true_eq_false, if_true, if_false]
      rcases msg.setExternalPayload_cases (leaseCallbacks foreign) (w.1.handleData handle)
        (w.1.handleSize handle) (some .retainFromSlot) (some .releaseFromSlot)
        (handle.slot.map .slot) ((w.1.retain handle).2, w.2) with
        ⟨rc, hrc, heq⟩ | ⟨hcookie, hdisposed, heq⟩ <;> rw [heq]
      · simp only [hrc, not_false_eq_true, if_true]
        have hlive₁ : (w.1.retain handle).2.handleIsLive handle = true := by
          refine (hcounts.live_iff handle).mpr ⟨i, hslot, by omega, ?_⟩
          exact ((hkeeps.slot i (hcounts.used (by omega))).2.1).trans hgen
        obtain ⟨_, hcounts₂, hkeeps₂⟩ := release_live c hcounts hslot hlive₁
          (by omega) (fun j hj => (hother j hj).symm)
        refine ⟨hkeeps.trans hkeeps₂, howns, ?_⟩
        intro c' hc
        have hsame : c' = c := funext fun j => Nat.add_right_cancel (hc j)
        exact hsame ▸ hcounts₂
      · simp only [not_true_eq_false, if_false, if_pos hload, hdata, hslot, Option.map_some]
        have hattached : w.1.Attached ({ msg.clearPayload with
            storage := .external
            external := ⟨some (.storage (i * w.1.slotSize)), w.1.handleSize handle,
              some .retainFromSlot, some .releaseFromSlot, some (.slot i)⟩
            payloadSize := w.1.handleSize handle } : Msg (LeasePtr κ)) i :=
          ⟨hcookie, hdisposed, rfl, rfl, rfl, rfl, hsize⟩
        have hleased := leasedSlot_of_attached ⟨rfl, hload, Or.inl rfl⟩ hattached
        have hfree : ∀ c' : Nat → Nat, (∀ j, c' j + msg.shares j = c₁ j) → _ := fun c' hc =>
          releasePayload_counts foreign (w := ((w.1.retain handle).2, w.2)) hcounts
            howns₁ (fun j => Nat.le_trans (hle j) (hle₁ j)) hc
        refine ⟨hkeeps.trans (hfree (fun j => c₁ j - msg.shares j) fun j => ?_).2,
          fun _ => ⟨i, hattached⟩, ?_⟩
        · exact Nat.sub_add_cancel (Nat.le_trans (hle j) (hle₁ j))
        · intro c' hc
          refine (hfree c' fun j => ?_).1
          have := hc j
          by_cases hj : j = i
          · rw [hj] at this ⊢
            rw [Msg.shares_self hleased] at this
            omega
          · rw [Msg.shares_other hleased hj] at this
            rw [hother j hj]
            exact this
    · simp only [hload, if_false]
      exact setExternalPayload_settles h howns hle none 0 none none _

end LeasePool

end EventFramework
