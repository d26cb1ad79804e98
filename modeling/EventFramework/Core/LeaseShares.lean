import EventFramework.Core.LeasePool
import EventFramework.Core.PayloadOwner

/-!
# Shares of the lease pool

`Counts pool c` says that the reference counts of the pool are the function `c` from
slots to numbers of shares. The pool operations, the payload callbacks and the queue
operations move that function by the shares they take and give back.
-/

namespace EventFramework
set_option autoImplicit false

variable {κ ν : Type}

namespace Msg

/-- The slot a message that was not disposed refers to by the pool's release callback. -/
def leasedSlot (msg : Msg (LeasePtr κ)) : Option Nat :=
  if msg.isDisposed || msg.storage != .external || msg.payloadSize == 0 then none
  else match msg.external.releaseFn, msg.external.lifecycleCtx with
    | some .releaseFromSlot, some (.slot index) => some index
    | _, _ => none

/-- The shares of slot `index` that the message owns: one or none. -/
def shares (msg : Msg (LeasePtr κ)) (index : Nat) : Nat :=
  if msg.leasedSlot = some index then 1 else 0

def UsesPool (msg : Msg (LeasePtr κ)) : Prop :=
  msg.storage = .external ∧ 0 < msg.payloadSize ∧
    (msg.external.retainFn = some .retainFromSlot ∨ msg.external.releaseFn = some .releaseFromSlot)

theorem usesPool_of_leasedSlot {msg : Msg (LeasePtr κ)} {index : Nat}
    (h : msg.leasedSlot = some index) : msg.UsesPool := by
  unfold leasedSlot at h
  split at h
  · simp at h
  · rename_i hlive
    simp only [Bool.or_eq_true, bne_iff_ne, ne_eq, beq_iff_eq, not_or, not_not] at hlive
    split at h
    · rename_i hrelease _
      exact ⟨hlive.1.2, Nat.pos_of_ne_zero hlive.2, Or.inr hrelease⟩
    · simp at h

theorem shares_eq_zero {msg : Msg (LeasePtr κ)} (h : ¬ msg.UsesPool) (index : Nat) :
    msg.shares index = 0 := by
  unfold shares
  rw [if_neg]
  intro hleased
  exact h (usesPool_of_leasedSlot hleased)

theorem shares_self {msg : Msg (LeasePtr κ)} {index : Nat} (h : msg.leasedSlot = some index) :
    msg.shares index = 1 := if_pos h

theorem shares_other {msg : Msg (LeasePtr κ)} {index : Nat} (h : msg.leasedSlot = some index)
    {j : Nat} (hj : j ≠ index) : msg.shares j = 0 := by
  apply if_neg
  rw [h]
  intro he
  exact hj (Option.some.inj he).symm

theorem not_usesPool_of_storage {msg : Msg (LeasePtr κ)} (h : msg.storage ≠ .external) :
    ¬ msg.UsesPool := fun huse => h huse.1

end Msg

namespace LeasePool

/-- The message points at slot `index` the way `attach_msg` left it. -/
structure Attached (pool : LeasePool) (msg : Msg (LeasePtr κ)) (index : Nat) : Prop where
  cookie : msg.hasCookie = true
  live : msg.isDisposed = false
  retainFn_eq : msg.external.retainFn = some .retainFromSlot
  releaseFn_eq : msg.external.releaseFn = some .releaseFromSlot
  ctx_eq : msg.external.lifecycleCtx = some (.slot index)
  data_eq : msg.external.data = some (.storage (index * pool.slotSize))
  size_eq : msg.payloadSize = (pool.slots index).payloadSize

/-- A message that uses the pool's callbacks is attached to one of its slots. -/
def Owns (pool : LeasePool) (msg : Msg (LeasePtr κ)) : Prop :=
  msg.UsesPool → ∃ index, pool.Attached msg index

/-- The reference counts of the pool are `c`. -/
structure Counts (pool : LeasePool) (c : Nat → Nat) : Prop where
  slotSize_pos : 0 < pool.slotSize
  slotIndex_eq : ∀ i, i < pool.slotCount → (pool.slots i).slotIndex = i
  payload_le : ∀ i, i < pool.slotCount → (pool.slots i).payloadSize ≤ pool.slotSize
  refcount_eq : ∀ i, i < pool.slotCount → (pool.slots i).refcount.toNat = c i
  inUse_iff : ∀ i, i < pool.slotCount → ((pool.slots i).inUse = true ↔ 0 < c i)
  outside : ∀ i, pool.slotCount ≤ i → c i = 0
  inUse_eq : pool.stats.inUse =
    ((Finset.range pool.slotCount).filter fun i => (pool.slots i).inUse = true).card

/-- No slot was acquired between the two pools: what is in use was in use, for the
same payload. -/
structure Keeps (pool pool' : LeasePool) : Prop where
  slotCount_eq : pool'.slotCount = pool.slotCount
  slotSize_eq : pool'.slotSize = pool.slotSize
  slot : ∀ i, (pool'.slots i).inUse = true → (pool.slots i).inUse = true ∧
    (pool'.slots i).generation = (pool.slots i).generation ∧
    (pool'.slots i).payloadSize = (pool.slots i).payloadSize

theorem Keeps.refl (pool : LeasePool) : pool.Keeps pool :=
  ⟨rfl, rfl, fun _ hused => ⟨hused, rfl, rfl⟩⟩

theorem Keeps.trans {p₁ p₂ p₃ : LeasePool} (h : p₁.Keeps p₂) (h' : p₂.Keeps p₃) : p₁.Keeps p₃ := by
  refine ⟨h'.slotCount_eq.trans h.slotCount_eq, h'.slotSize_eq.trans h.slotSize_eq, ?_⟩
  intro i hused
  obtain ⟨hused₂, hgen₂, hsize₂⟩ := h'.slot i hused
  obtain ⟨hused₁, hgen₁, hsize₁⟩ := h.slot i hused₂
  exact ⟨hused₁, hgen₂.trans hgen₁, hsize₂.trans hsize₁⟩

theorem leasedSlot_of_attached {pool : LeasePool} {msg : Msg (LeasePtr κ)} {index : Nat}
    (huse : msg.UsesPool) (h : pool.Attached msg index) : msg.leasedSlot = some index := by
  have hsize := huse.2.1.ne'
  simp [Msg.leasedSlot, h.live, huse.1, hsize, h.releaseFn_eq, h.ctx_eq]

theorem owns_of_not_usesPool {pool : LeasePool} {msg : Msg (LeasePtr κ)} (h : ¬ msg.UsesPool) :
    pool.Owns msg := fun huse => absurd huse h

/-- An attached message stays attached while its slot is in use. -/
theorem Owns.keeps {pool pool' : LeasePool} {msg : Msg (LeasePtr κ)} (h : pool.Owns msg)
    (hkeeps : pool.Keeps pool')
    (hused : ∀ i, msg.leasedSlot = some i → (pool'.slots i).inUse = true) : pool'.Owns msg := by
  intro huse
  obtain ⟨i, hatt⟩ := h huse
  have hslot := hkeeps.slot i (hused i (leasedSlot_of_attached huse hatt))
  refine ⟨i, hatt.cookie, hatt.live, hatt.retainFn_eq, hatt.releaseFn_eq, hatt.ctx_eq, ?_, ?_⟩
  · rw [hkeeps.slotSize_eq]
    exact hatt.data_eq
  · rw [hslot.2.2]
    exact hatt.size_eq

namespace Counts

variable {pool : LeasePool} {c : Nat → Nat}

theorem lt (h : pool.Counts c) {i : Nat} (hi : 0 < c i) : i < pool.slotCount := by
  by_contra hge
  have := h.outside i (Nat.le_of_not_lt hge)
  omega

theorem used (h : pool.Counts c) {i : Nat} (hi : 0 < c i) : (pool.slots i).inUse = true :=
  (h.inUse_iff i (h.lt hi)).mpr hi

theorem metadataIsValid (h : pool.Counts c) {i : Nat} (hi : i < pool.slotCount) :
    pool.slotMetadataIsValid i = true := by
  have hcount : pool.slotCount ≠ 0 := by omega
  have hsize := h.slotSize_pos.ne'
  have hle := Nat.not_lt.mpr (h.payload_le i hi)
  simp [slotMetadataIsValid, h.slotIndex_eq i hi, hi, hcount, hsize, hle]

/-- A live handle names a slot that has shares. -/
theorem live_iff (h : pool.Counts c) (handle : LeaseHandle) :
    pool.handleIsLive handle = true ↔
      ∃ i, handle.slot = some i ∧ 0 < c i ∧ (pool.slots i).generation = handle.generation := by
  cases hs : handle.slot with
  | none => simp [handleIsLive, hs]
  | some i =>
    simp only [handleIsLive, hs, Option.some.injEq, exists_eq_left']
    constructor
    · intro hlive
      simp only [Bool.and_eq_true, beq_iff_eq, decide_eq_true_eq] at hlive
      obtain ⟨⟨⟨hmeta, hused⟩, hgen⟩, _⟩ := hlive
      simp only [slotMetadataIsValid, Bool.and_eq_true, decide_eq_true_eq] at hmeta
      have hlt : i < pool.slotCount := by
        have := hmeta.1.2
        have := hmeta.1.1.2
        omega
      exact ⟨(h.inUse_iff i hlt).mp hused, hgen⟩
    · rintro ⟨hpos, hgen⟩
      have hlt := h.lt hpos
      have hcount := h.refcount_eq i hlt
      have hpos' : 0 < (pool.slots i).refcount := by
        rw [UInt32.lt_iff_toNat_lt]
        simpa [hcount] using hpos
      simp [h.metadataIsValid hlt, h.used hpos, hgen, hpos']

theorem withStats (h : pool.Counts c) {stats : LeasePoolStats}
    (hstats : stats.inUse = pool.stats.inUse) : Counts { pool with stats := stats } c :=
  ⟨h.slotSize_pos, h.slotIndex_eq, h.payload_le, h.refcount_eq, h.inUse_iff, h.outside,
    hstats.trans h.inUse_eq⟩

theorem countStale (h : pool.Counts c) : pool.countStale.Counts c := h.withStats rfl

theorem setSlot (h : pool.Counts c) {i : Nat} (hi : i < pool.slotCount) (slot : LeaseSlot)
    (hindex : slot.slotIndex = (pool.slots i).slotIndex) (hpayload : slot.payloadSize ≤ pool.slotSize)
    {c' : Nat → Nat} (hself : c' i = slot.refcount.toNat) (hother : ∀ j, j ≠ i → c' j = c j)
    (hiff : slot.inUse = true ↔ 0 < c' i) (storage : Nat → UInt8) {stats : LeasePoolStats}
    (hstats : stats.inUse + (pool.slots i).inUse.toNat = pool.stats.inUse + slot.inUse.toNat) :
    Counts { pool with
      slots := Function.update pool.slots i slot, storage := storage, stats := stats } c' := by
  refine ⟨h.slotSize_pos, ?_, ?_, ?_, ?_, ?_, ?_⟩
  · intro j hj
    by_cases he : j = i
    · subst he
      simpa using hindex.trans (h.slotIndex_eq j hj)
    · simpa [Function.update_of_ne he] using h.slotIndex_eq j hj
  · intro j hj
    by_cases he : j = i
    · subst he
      simpa using hpayload
    · simpa [Function.update_of_ne he] using h.payload_le j hj
  · intro j hj
    by_cases he : j = i
    · subst he
      simp [hself]
    · simpa [Function.update_of_ne he, hother j he] using h.refcount_eq j hj
  · intro j hj
    by_cases he : j = i
    · subst he
      simpa using hiff
    · simpa [Function.update_of_ne he, hother j he] using h.inUse_iff j hj
  · intro j hj
    have hj' : pool.slotCount ≤ j := hj
    exact (hother j (by omega)).trans (h.outside j hj)
  · have hcard := card_filter_update (Finset.mem_range.mpr hi) LeaseSlot.inUse pool.slots slot
    have hused := h.inUse_eq
    change stats.inUse = ((Finset.range pool.slotCount).filter fun j =>
      (Function.update pool.slots i slot j).inUse = true).card
    omega

/-- A new positive reference count on a slot in use. -/
theorem recount (h : pool.Counts c) {i : Nat} (hi : 0 < c i) {refcount : UInt32}
    (hpos : 0 < refcount.toNat) {c' : Nat → Nat} (hself : c' i = refcount.toNat)
    (hother : ∀ j, j ≠ i → c' j = c j) {stats : LeasePoolStats}
    (hstats : stats.inUse = pool.stats.inUse) :
    Counts { pool with
      slots := Function.update pool.slots i { pool.slots i with refcount := refcount }
      stats := stats } c' := by
  have hlt := h.lt hi
  have hused := h.used hi
  refine h.setSlot hlt { pool.slots i with refcount := refcount } rfl (h.payload_le i hlt) hself hother ?_ pool.storage (by rw [hstats])
  simp [hused, hself, hpos]

/-- The last share given back: the slot is cleared and free. -/
theorem free (h : pool.Counts c) {i : Nat} (hi : 0 < c i) {c' : Nat → Nat} (hself : c' i = 0)
    (hother : ∀ j, j ≠ i → c' j = c j) (storage : Nat → UInt8) (stats : LeasePoolStats)
    (hstats : stats.inUse = pool.stats.inUse - 1) :
    Counts { pool with
      slots := Function.update pool.slots i
        { pool.slots i with refcount := 0, payloadSize := 0, inUse := false }
      storage := storage
      stats := stats } c' := by
  have hlt := h.lt hi
  have hused := h.used hi
  have hpos : 0 < pool.stats.inUse := by
    rw [h.inUse_eq, Finset.card_pos]
    exact ⟨i, by simp [hlt, hused]⟩
  refine h.setSlot hlt { pool.slots i with refcount := 0, payloadSize := 0, inUse := false } rfl
    (Nat.zero_le _) hself hother (by simp [hself]) storage ?_
  rw [hstats, hused]
  exact Nat.sub_add_cancel hpos

/-- A free slot handed out with its first share. -/
theorem take (h : pool.Counts c) {i : Nat} (hlt : i < pool.slotCount)
    (hfree : (pool.slots i).inUse = false) {payloadSize : Nat} (hsize : payloadSize ≤ pool.slotSize)
    {c' : Nat → Nat} (hself : c' i = 1) (hother : ∀ j, j ≠ i → c' j = c j) (generation : UInt32)
    (storage : Nat → UInt8) {stats : LeasePoolStats} (hstats : stats.inUse = pool.stats.inUse + 1) :
    Counts { pool with
      slots := Function.update pool.slots i { pool.slots i with
        inUse := true, refcount := 1, payloadSize := payloadSize, generation := generation }
      storage := storage
      stats := stats } c' := by
  refine h.setSlot hlt { pool.slots i with
    inUse := true, refcount := 1, payloadSize := payloadSize, generation := generation } rfl hsize
    hself hother (by simp [hself]) storage ?_
  rw [hstats, hfree]
  rfl

end Counts

section Operations

variable {pool : LeasePool} {c c' : Nat → Nat}

theorem keeps_countStaleHandle (pool : LeasePool) (handle : LeaseHandle) :
    pool.Keeps (pool.countStaleHandle handle) := by
  unfold countStaleHandle
  split
  · exact ⟨rfl, rfl, fun _ hused => ⟨hused, rfl, rfl⟩⟩
  · exact Keeps.refl pool

theorem Counts.countStaleHandle (h : pool.Counts c) (handle : LeaseHandle) :
    (pool.countStaleHandle handle).Counts c := by
  unfold LeasePool.countStaleHandle
  split
  · exact h.countStale
  · exact h

theorem keeps_setSlot {pool' : LeasePool} {i : Nat} {slot : LeaseSlot}
    (hslots : pool'.slots = Function.update pool.slots i slot)
    (hcount : pool'.slotCount = pool.slotCount) (hsize : pool'.slotSize = pool.slotSize)
    (hused : (pool.slots i).inUse = true) (hgen : slot.generation = (pool.slots i).generation)
    (hpayload : slot.inUse = true → slot.payloadSize = (pool.slots i).payloadSize) :
    pool.Keeps pool' := by
  refine ⟨hcount, hsize, ?_⟩
  intro j
  rw [hslots]
  by_cases he : j = i
  · subst he
    simp only [Function.update_self]
    exact fun hused' => ⟨hused, hgen, hpayload hused'⟩
  · simp only [Function.update_of_ne he]
    exact fun hused' => ⟨hused', trivial, trivial⟩

theorem retain_dead {handle : LeaseHandle} (hdead : pool.handleIsLive handle = false) :
    pool.retain handle = (.errState, pool.countStaleHandle handle) := by
  unfold retain
  rw [hdead]
  cases handle.slot <;> rfl

theorem release_dead {handle : LeaseHandle} (hdead : pool.handleIsLive handle = false) :
    pool.release handle = (.errState, pool.countStaleHandle handle) := by
  unfold release
  rw [hdead]
  cases handle.slot <;> rfl

variable (c') in
theorem retain_live (h : pool.Counts c) {handle : LeaseHandle} {i : Nat}
    (hslot : handle.slot = some i) (hlive : pool.handleIsLive handle = true)
    (hroom : c i + 1 < 2 ^ 32) (hself : c' i = c i + 1) (hother : ∀ j, j ≠ i → c' j = c j) :
    (pool.retain handle).1 = .ok ∧ (pool.retain handle).2.Counts c' ∧
      pool.Keeps (pool.retain handle).2 := by
  obtain ⟨i', hslot', hpos, _⟩ := (h.live_iff handle).mp hlive
  obtain rfl : i = i' := Option.some.inj (hslot.symm.trans hslot')
  have hcount := h.refcount_eq i (h.lt hpos)
  have hnext : ((pool.slots i).refcount + 1).toNat = c i + 1 := by
    rw [UInt32.toNat_add, hcount]
    exact Nat.mod_eq_of_lt hroom
  have hpos' : 0 < ((pool.slots i).refcount + 1).toNat := by omega
  simp only [retain, hslot, hlive, true_and]
  exact ⟨h.recount hpos hpos' (hself.trans hnext.symm) hother rfl,
    keeps_setSlot rfl rfl rfl (h.used hpos) rfl fun _ => rfl⟩

variable (c') in
theorem release_live (h : pool.Counts c) {handle : LeaseHandle} {i : Nat}
    (hslot : handle.slot = some i) (hlive : pool.handleIsLive handle = true)
    (hself : c' i = c i - 1) (hother : ∀ j, j ≠ i → c' j = c j) :
    (pool.release handle).1 = .ok ∧ (pool.release handle).2.Counts c' ∧
      pool.Keeps (pool.release handle).2 := by
  obtain ⟨i', hslot', hpos, _⟩ := (h.live_iff handle).mp hlive
  obtain rfl : i = i' := Option.some.inj (hslot.symm.trans hslot')
  have hcount := h.refcount_eq i (h.lt hpos)
  have hprev : ((pool.slots i).refcount - 1).toNat = c i - 1 := by
    have hbound := (pool.slots i).refcount.toNat_lt
    rw [UInt32.toNat_sub, hcount]
    simp only [UInt32.toNat_one]
    omega
  have hused := h.used hpos
  by_cases hlast : (pool.slots i).refcount - 1 = 0
  · have hzero : c' i = 0 := by
      rw [hself, ← hprev, hlast]
      rfl
    have hfree := h.free hpos hzero hother (pool.clearRegion i).storage { pool.stats with
      releases := pool.stats.releases + 1, inUse := pool.stats.inUse - 1 } rfl
    simp only [release, hslot, hlive, hlast, if_true, true_and]
    exact ⟨hfree, keeps_setSlot rfl rfl rfl hused rfl (by simp)⟩
  · have hpos' : 0 < ((pool.slots i).refcount - 1).toNat := by
      rw [Nat.pos_iff_ne_zero]
      intro hzero
      exact hlast (UInt32.toNat_inj.mp (by simpa using hzero))
    simp only [release, hslot, hlive, hlast, if_false, true_and]
    exact ⟨h.recount hpos hpos' (hself.trans hprev.symm) hother rfl,
      keeps_setSlot rfl rfl rfl hused rfl fun _ => rfl⟩

theorem findFree_spec (pool : LeasePool) (n index : Nat) {i : Nat}
    (h : pool.findFree n index = some i) :
    index ≤ i ∧ i < index + n ∧ (pool.slots i).inUse = false := by
  induction n generalizing index with
  | zero => simp [findFree] at h
  | succ n ih =>
    unfold findFree at h
    split at h
    · obtain ⟨hle, hlt, hfree⟩ := ih (index + 1) h
      exact ⟨by omega, by omega, hfree⟩
    · rename_i hfree
      obtain rfl := Option.some.inj h
      exact ⟨Nat.le_refl _, by omega, by simpa using hfree⟩

/-- Acquiring takes the first share of a slot that had none, or changes no slot. -/
theorem acquire_counts (h : pool.Counts c) (payloadSize : Nat) :
    (∃ i generation, (pool.acquire payloadSize).2.1 = some ⟨some i, generation⟩ ∧ c i = 0 ∧
      (pool.acquire payloadSize).2.2.slotCount = pool.slotCount ∧
      (pool.acquire payloadSize).2.2.slotSize = pool.slotSize ∧
      ((pool.acquire payloadSize).2.2.slots i).generation = generation ∧
      (∀ j, j ≠ i → (pool.acquire payloadSize).2.2.slots j = pool.slots j) ∧
      (pool.acquire payloadSize).2.2.Counts (Function.update c i 1)) ∨
    ((pool.acquire payloadSize).2.1 = none ∧ pool.Keeps (pool.acquire payloadSize).2.2 ∧
      (pool.acquire payloadSize).2.2.Counts c) := by
  unfold acquire
  split
  · exact Or.inr ⟨rfl, Keeps.refl pool, h⟩
  · rename_i hsize
    split
    · exact Or.inr ⟨rfl, ⟨rfl, rfl, fun _ hused => ⟨hused, rfl, rfl⟩⟩, h.withStats rfl⟩
    · rename_i i hfind
      left
      obtain ⟨_, hlt, hfree⟩ := findFree_spec pool pool.slotCount 0 hfind
      have hlt' : i < pool.slotCount := by omega
      have hzero : c i = 0 := by
        by_contra hpos
        have := h.used (Nat.pos_of_ne_zero hpos)
        simp [hfree] at this
      refine ⟨i, _, rfl, hzero, rfl, rfl, by simp [setSlot], ?_, ?_⟩
      · intro j hj
        simp [setSlot, clearRegion, Function.update_of_ne hj]
      · exact h.take hlt' hfree (Nat.le_of_not_lt hsize) (Function.update_self ..)
          (fun j hj => Function.update_of_ne hj ..) _ _ rfl

end Operations

def queueShares (queued : List (Msg (LeasePtr κ))) (index : Nat) : Nat :=
  (queued.map fun msg => msg.shares index).sum

@[simp] theorem queueShares_nil (index : Nat) :
    queueShares ([] : List (Msg (LeasePtr κ))) index = 0 := rfl

@[simp] theorem queueShares_cons (msg : Msg (LeasePtr κ)) (rest : List (Msg (LeasePtr κ)))
    (index : Nat) : queueShares (msg :: rest) index = msg.shares index + queueShares rest index := rfl

theorem queueShares_perm {a b : List (Msg (LeasePtr κ))} (h : a.Perm b) (index : Nat) :
    queueShares a index = queueShares b index := (h.map _).sum_nat

theorem shares_le_queueShares {msg : Msg (LeasePtr κ)} {queued : List (Msg (LeasePtr κ))}
    (h : msg ∈ queued) (index : Nat) : msg.shares index ≤ queueShares queued index :=
  List.le_sum_of_mem (List.mem_map_of_mem h)

section Callbacks

variable {pool : LeasePool} {c c' : Nat → Nat}

/-- The pool's callbacks find the slot of an attached message and its live handle. -/
theorem Counts.slot_guards (h : pool.Counts c) {msg : Msg (LeasePtr κ)} {i : Nat}
    (hatt : pool.Attached msg i) (hpos : 0 < c i) :
    pool.slotMetadataIsValid i = true ∧ (pool.slots i).inUse = true ∧
      pool.isSlotData i msg.external.data = true ∧ (pool.slots i).payloadSize = msg.payloadSize ∧
      pool.handleIsLive ⟨some i, (pool.slots i).generation⟩ = true := by
  have hlt := h.lt hpos
  refine ⟨h.metadataIsValid hlt, h.used hpos, ?_, hatt.size_eq.symm, ?_⟩
  · simp [isSlotData, hatt.data_eq, h.slotIndex_eq i hlt]
  · exact (h.live_iff _).mpr ⟨i, rfl, hpos, rfl⟩

theorem Counts.retainFromSlot (h : pool.Counts c) {msg : Msg (LeasePtr κ)} {i : Nat}
    (hatt : pool.Attached msg i) (hpos : 0 < c i) (hroom : c i + 1 < 2 ^ 32) (c' : Nat → Nat)
    (hself : c' i = c i + 1) (hother : ∀ j, j ≠ i → c' j = c j) :
    (pool.retainFromSlot msg.external.lifecycleCtx msg.external.data msg.payloadSize).1 = .ok ∧
      (pool.retainFromSlot msg.external.lifecycleCtx msg.external.data msg.payloadSize).2.Counts c' ∧
      pool.Keeps
        (pool.retainFromSlot msg.external.lifecycleCtx msg.external.data msg.payloadSize).2 := by
  obtain ⟨hmeta, hused, hdata, hsize, hlive⟩ := h.slot_guards hatt hpos
  have hretain := retain_live c' h rfl hlive hroom hself hother
  simpa [LeasePool.retainFromSlot, hatt.ctx_eq, hmeta, hused, hdata, hsize] using hretain

theorem Counts.releaseFromSlot (h : pool.Counts c) {msg : Msg (LeasePtr κ)} {i : Nat}
    (hatt : pool.Attached msg i) (hpos : 0 < c i) (hself : c' i = c i - 1)
    (hother : ∀ j, j ≠ i → c' j = c j) :
    (pool.releaseFromSlot msg.external.lifecycleCtx msg.external.data msg.payloadSize).Counts c' ∧
      pool.Keeps
        (pool.releaseFromSlot msg.external.lifecycleCtx msg.external.data msg.payloadSize) := by
  obtain ⟨hmeta, hused, hdata, hsize, hlive⟩ := h.slot_guards hatt hpos
  have hrelease := (release_live c' h rfl hlive hself hother).2
  simpa [LeasePool.releaseFromSlot, hatt.ctx_eq, hmeta, hused, hdata, hsize] using hrelease

end Callbacks

section Payloads

variable {foreign : Callbacks (LeasePtr κ) ν} {c c' : Nat → Nat}

variable (foreign) in
/-- The release call of a message gives back exactly the share the message owns. -/
theorem releasePayload_counts {w : LeasePool × ν} (h : w.1.Counts c) {msg : Msg (LeasePtr κ)}
    (howns : w.1.Owns msg) (hle : ∀ i, msg.shares i ≤ c i)
    (hc : ∀ i, c' i + msg.shares i = c i) :
    (msg.releasePayload (leaseCallbacks foreign) w).1.Counts c' ∧
      w.1.Keeps (msg.releasePayload (leaseCallbacks foreign) w).1 := by
  by_cases huse : msg.UsesPool
  · obtain ⟨i, hatt⟩ := howns huse
    have hleased := leasedSlot_of_attached huse hatt
    have hone := Msg.shares_self hleased
    have hpos : 0 < c i := by
      have := hle i
      omega
    have hself : c' i = c i - 1 := by
      have := hc i
      omega
    have hother : ∀ j, j ≠ i → c' j = c j := by
      intro j hj
      have := hc j
      rw [Msg.shares_other hleased hj] at this
      exact this
    have hrelease := h.releaseFromSlot hatt hpos hself hother
    simpa [Msg.releasePayload, huse.1, huse.2.1, hatt.releaseFn_eq, leaseCallbacks] using hrelease
  · have hsame : c' = c := by
      funext i
      have := hc i
      rw [Msg.shares_eq_zero huse] at this
      exact this
    have hpool : (msg.releasePayload (leaseCallbacks foreign) w).1 = w.1 := by
      unfold Msg.releasePayload
      split
      · rename_i hstored
        cases hfn : msg.external.releaseFn with
        | none => rfl
        | some fn =>
          cases fn with
          | releaseFromSlot => exact absurd ⟨hstored.1, hstored.2, Or.inr hfn⟩ huse
          | storage _ | slot _ | retainFromSlot | foreign _ => rfl
      · rfl
    rw [hpool, hsame]
    exact ⟨h, Keeps.refl _⟩

/-- Retaining a message for a queue takes the share the queued copy will own, or, on a
failure, none. -/
theorem retainForQueue_counts {w : LeasePool × ν} (h : w.1.Counts c) {msg : Msg (LeasePtr κ)}
    (howns : w.1.Owns msg) (hle : ∀ i, msg.shares i ≤ c i)
    (hroom : ∀ i, msg.leasedSlot = some i → c i + 1 < 2 ^ 32) :
    w.1.Keeps (Mailbox.retainForQueue (leaseCallbacks foreign) msg w).2.1 ∧
      ((Mailbox.retainForQueue (leaseCallbacks foreign) msg w).1 = .ok →
        (Mailbox.retainForQueue (leaseCallbacks foreign) msg w).2.1.Counts
          fun i => c i + msg.shares i) ∧
      ((Mailbox.retainForQueue (leaseCallbacks foreign) msg w).1 ≠ .ok →
        (Mailbox.retainForQueue (leaseCallbacks foreign) msg w).2.1.Counts c) := by
  have hstay : ¬ msg.UsesPool → (fun i => c i + msg.shares i) = c := by
    intro huse
    funext i
    rw [Msg.shares_eq_zero huse, Nat.add_zero]
  have hplain : (msg.storage ≠ .external ∨ msg.payloadSize = 0) → ¬ msg.UsesPool := by
    rintro (hs | hp) ⟨hs', hp', _⟩
    · exact hs hs'
    · omega
  unfold Mailbox.retainForQueue
  split
  · rename_i hnone
    rw [hstay (hplain hnone)]
    exact ⟨Keeps.refl _, fun _ => h, fun _ => h⟩
  · rcases msg.retain_cases (leaseCallbacks foreign) w with
      ⟨rc, hrc, heq⟩ | ⟨hnone, heq⟩ | ⟨fn, hstorage, hsize, hfn, heq⟩ <;> rw [heq]
    · exact ⟨Keeps.refl _, fun hok => absurd hok hrc, fun _ => h⟩
    · rw [hstay (hplain hnone)]
      exact ⟨Keeps.refl _, fun _ => h, fun _ => h⟩
    · by_cases huse : msg.UsesPool
      · obtain ⟨i, hatt⟩ := howns huse
        have hleased := leasedSlot_of_attached huse hatt
        have hone := Msg.shares_self hleased
        have hpos : 0 < c i := by
          have := hle i
          omega
        obtain rfl : fn = .retainFromSlot := by
          rw [hatt.retainFn_eq] at hfn
          exact (Option.some.inj hfn).symm
        obtain ⟨hok, hcounts, hkeeps⟩ := h.retainFromSlot hatt hpos (hroom i hleased)
          (fun j => c j + msg.shares j) (by simp only [hone])
          (fun j hj => by simp only [Msg.shares_other hleased hj, Nat.add_zero])
        exact ⟨hkeeps, fun _ => hcounts, fun hne => absurd hok hne⟩
      · have hpool : ((leaseCallbacks foreign).retain fn msg.external.lifecycleCtx
            msg.external.data msg.payloadSize w).2.1 = w.1 := by
          cases fn with
          | retainFromSlot => exact absurd ⟨hstorage, hsize, Or.inl hfn⟩ huse
          | storage _ | slot _ | releaseFromSlot | foreign _ => rfl
        rw [hpool, hstay huse]
        exact ⟨Keeps.refl _, fun _ => h, fun _ => h⟩

variable (foreign) in
theorem releaseAll_counts {queued : List (Msg (LeasePtr κ))} :
    ∀ {w : LeasePool × ν} {c : Nat → Nat}, w.1.Counts c → (∀ msg ∈ queued, w.1.Owns msg) →
      (∀ i, c' i + queueShares queued i = c i) →
      (queued.foldl (fun w msg => msg.releasePayload (leaseCallbacks foreign) w) w).1.Counts c' ∧
        w.1.Keeps
          (queued.foldl (fun w msg => msg.releasePayload (leaseCallbacks foreign) w) w).1 := by
  induction queued with
  | nil =>
    intro w c h _ hc
    have hsame : c' = c := funext fun i => hc i
    exact ⟨hsame ▸ h, Keeps.refl _⟩
  | cons msg rest ih =>
    intro w c h howns hc
    have hsum : ∀ i, c' i + (msg.shares i + queueShares rest i) = c i := hc
    have hback : ∀ i, c' i + queueShares rest i + msg.shares i = c i := by
      intro i
      have := hsum i
      omega
    obtain ⟨hcounts, hkeeps⟩ := releasePayload_counts foreign h
      (howns msg List.mem_cons_self) (fun i => by have := hsum i; omega) hback
    have hrest : ∀ later ∈ rest,
        (msg.releasePayload (leaseCallbacks foreign) w).1.Owns later := by
      intro later hlater
      refine (howns later (List.mem_cons_of_mem _ hlater)).keeps hkeeps ?_
      intro i hleased
      apply hcounts.used
      have := shares_le_queueShares hlater i
      rw [Msg.shares_self hleased] at this
      omega
    obtain ⟨hcounts', hkeeps'⟩ := ih hcounts hrest fun _ => rfl
    exact ⟨hcounts', hkeeps.trans hkeeps'⟩

/-- What an operation on one message does to the counts: the share the message had for
the share it has. -/
structure Settles (c : Nat → Nat) (w : LeasePool × ν) (msg : Msg (LeasePtr κ))
    (out : Msg (LeasePtr κ) × LeasePool × ν) : Prop where
  keeps : w.1.Keeps out.2.1
  owns : w.1.Owns out.1
  counts : ∀ c' : Nat → Nat, (∀ i, c' i + msg.shares i = c i + out.1.shares i) → out.2.1.Counts c'

theorem settles_unchanged {w : LeasePool × ν} (h : w.1.Counts c) {msg : Msg (LeasePtr κ)}
    (howns : w.1.Owns msg) : Settles c w msg (msg, w) := by
  refine ⟨Keeps.refl _, howns, ?_⟩
  intro c' hc
  have hsame : c' = c := funext fun i => Nat.add_right_cancel (hc i)
  exact hsame ▸ h

theorem settles_released {w : LeasePool × ν} (h : w.1.Counts c) {msg msg' : Msg (LeasePtr κ)}
    (howns : w.1.Owns msg) (hle : ∀ i, msg.shares i ≤ c i) (huse : ¬ msg'.UsesPool) :
    Settles c w msg (msg', msg.releasePayload (leaseCallbacks foreign) w) := by
  have hfree : ∀ c' : Nat → Nat, (∀ i, c' i + msg.shares i = c i) → _ := fun c' hc =>
    releasePayload_counts foreign h howns hle hc
  refine ⟨(hfree (fun i => c i - msg.shares i) fun i => ?_).2, owns_of_not_usesPool huse, ?_⟩
  · have := hle i
    omega
  · intro c' hc
    refine (hfree c' fun i => ?_).1
    have := hc i
    rw [Msg.shares_eq_zero huse] at this
    exact this

theorem not_usesPool_of_stale {pool : LeasePool} {msg : Msg (LeasePtr κ)} (howns : pool.Owns msg)
    (hstale : msg.hasCookie = false ∨ msg.isDisposed = true) : ¬ msg.UsesPool := by
  intro huse
  obtain ⟨i, hatt⟩ := howns huse
  rcases hstale with hcookie | hdisposed
  · simp [hatt.cookie] at hcookie
  · simp [hatt.live] at hdisposed

theorem dispose_settles {w : LeasePool × ν} (h : w.1.Counts c) {msg : Msg (LeasePtr κ)}
    (howns : w.1.Owns msg) (hle : ∀ i, msg.shares i ≤ c i) :
    Settles c w msg (msg.dispose (leaseCallbacks foreign) w).2 := by
  unfold Msg.dispose
  split
  · rename_i hcookie
    have huse := not_usesPool_of_stale howns (Or.inl (by simpa using hcookie))
    refine ⟨Keeps.refl _, owns_of_not_usesPool (Msg.not_usesPool_of_storage (by simp [Msg.blank])),
      ?_⟩
    intro c' hc
    have hsame : c' = c := by
      funext i
      have := hc i
      rw [Msg.shares_eq_zero huse, Msg.shares_eq_zero
        (Msg.not_usesPool_of_storage (by simp [Msg.blank]))] at this
      exact this
    exact hsame ▸ h
  · split
    · exact settles_unchanged h howns
    · exact settles_released h howns hle (Msg.not_usesPool_of_storage (by simp [Msg.clearPayload]))

end Payloads

end LeasePool

end EventFramework
