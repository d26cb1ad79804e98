import EventFramework.Core.LeaseShares
import EventFramework.Library.Generations

/-!
# Stale lease handles

Any calls on the lease pool, with any handles, messages and payload contexts. A handle is good
for one generation of its slot.
-/

namespace EventFramework
set_option autoImplicit false

variable {κ ν : Type}

/-- `retainFromSlot` and `releaseFromSlot` are what messages call with the contexts they hold. -/
inductive LeasePoolCall (κ : Type) where
  | acquire (payloadSize : Nat)
  | retain (handle : LeaseHandle)
  | release (handle : LeaseHandle)
  | retainFromSlot (ctx payload : Option (LeasePtr κ)) (payloadSize : Nat)
  | releaseFromSlot (ctx payload : Option (LeasePtr κ)) (payloadSize : Nat)
  | attachMsg (msg : Msg (LeasePtr κ)) (handle : LeaseHandle)

namespace LeasePool

def call (foreign : Callbacks (LeasePtr κ) ν) (w : LeasePool × ν) : LeasePoolCall κ → LeasePool × ν
  | .acquire payloadSize => ((w.1.acquire payloadSize).2.2, w.2)
  | .retain handle => ((w.1.retain handle).2, w.2)
  | .release handle => ((w.1.release handle).2, w.2)
  | .retainFromSlot ctx payload payloadSize => ((w.1.retainFromSlot ctx payload payloadSize).2, w.2)
  | .releaseFromSlot ctx payload payloadSize => (w.1.releaseFromSlot ctx payload payloadSize, w.2)
  | .attachMsg msg handle => (attachMsg foreign msg handle w).2.2

def issued (w : LeasePool × ν) : LeasePoolCall κ → Option LeaseHandle
  | .acquire payloadSize => (w.1.acquire payloadSize).2.1
  | _ => none

/-- A slot as its handles see it. -/
def leaseSlot (index : Nat) (w : LeasePool × ν) : Generations.Slot where
  generation := (w.1.slots index).generation.toNat
  live := (w.1.slots index).inUse

def handsOut (index : Nat) (w : LeasePool × ν) (input : LeasePoolCall κ) : Bool :=
  (issued w input).any fun handle => handle.slot == some index

def reuses (foreign : Callbacks (LeasePtr κ) ν) (index : Nat) (w : LeasePool × ν)
    (calls : List (LeasePoolCall κ)) : Nat :=
  Generations.reuses (call foreign) (handsOut index) w calls

def generations : Nat := 2 ^ 32 - 1

/-- No slot was handed out from the one pool to the other. -/
def NoneTaken (pool pool' : LeasePool) : Prop :=
  ∀ index, (pool'.slots index).generation = (pool.slots index).generation ∧
    ((pool'.slots index).inUse = true → (pool.slots index).inUse = true)

theorem noneTaken_of_slots {pool pool' : LeasePool} (h : pool'.slots = pool.slots) :
    pool.NoneTaken pool' := by
  intro index
  rw [h]
  exact ⟨rfl, id⟩

theorem NoneTaken.trans {p₁ p₂ p₃ : LeasePool} (h : p₁.NoneTaken p₂) (h' : p₂.NoneTaken p₃) :
    p₁.NoneTaken p₃ :=
  fun index => ⟨(h' index).1.trans (h index).1, fun hused => (h index).2 ((h' index).2 hused)⟩

theorem noneTaken_setSlot {pool pool' : LeasePool} {index : Nat} {slot : LeaseSlot}
    (hslots : pool'.slots = Function.update pool.slots index slot)
    (hgeneration : slot.generation = (pool.slots index).generation)
    (hused : slot.inUse = true → (pool.slots index).inUse = true) : pool.NoneTaken pool' := by
  intro other
  rw [hslots]
  by_cases hsame : other = index
  · rw [hsame, Function.update_self]
    exact ⟨hgeneration, hused⟩
  · rw [Function.update_of_ne hsame]
    exact ⟨rfl, id⟩

theorem countStaleHandle_slots (pool : LeasePool) (handle : LeaseHandle) :
    (pool.countStaleHandle handle).slots = pool.slots ∧
      (pool.countStaleHandle handle).storage = pool.storage := by
  unfold countStaleHandle
  split
  · exact ⟨rfl, rfl⟩
  · exact ⟨rfl, rfl⟩

theorem retain_noneTaken (pool : LeasePool) (handle : LeaseHandle) :
    pool.NoneTaken (pool.retain handle).2 := by
  unfold retain
  split
  · exact noneTaken_setSlot rfl rfl id
  · exact noneTaken_of_slots (pool.countStaleHandle_slots handle).1

theorem release_noneTaken (pool : LeasePool) (handle : LeaseHandle) :
    pool.NoneTaken (pool.release handle).2 := by
  unfold release
  split
  · simp only
    split
    · exact noneTaken_setSlot rfl rfl fun hused => by cases hused
    · exact noneTaken_setSlot rfl rfl id
  · exact noneTaken_of_slots (pool.countStaleHandle_slots handle).1

theorem retainFromSlot_noneTaken (pool : LeasePool) (ctx payload : Option (LeasePtr κ))
    (payloadSize : Nat) : pool.NoneTaken (pool.retainFromSlot ctx payload payloadSize).2 := by
  unfold retainFromSlot
  split
  · split
    · exact noneTaken_of_slots rfl
    · split
      · exact noneTaken_of_slots rfl
      · exact retain_noneTaken pool _
  · exact noneTaken_of_slots rfl

theorem releaseFromSlot_noneTaken (pool : LeasePool) (ctx payload : Option (LeasePtr κ))
    (payloadSize : Nat) : pool.NoneTaken (pool.releaseFromSlot ctx payload payloadSize) := by
  unfold releaseFromSlot
  split
  · split
    · exact noneTaken_of_slots rfl
    · split
      · exact noneTaken_of_slots rfl
      · exact release_noneTaken pool _
  · exact noneTaken_of_slots rfl

section Calls

variable (foreign : Callbacks (LeasePtr κ) ν)

theorem releasePayload_noneTaken (msg : Msg (LeasePtr κ)) (w : LeasePool × ν) :
    w.1.NoneTaken (msg.releasePayload (leaseCallbacks foreign) w).1 := by
  unfold Msg.releasePayload
  split
  · split
    · unfold leaseCallbacks
      simp only
      split
      · exact releaseFromSlot_noneTaken w.1 _ _ _
      · exact noneTaken_of_slots rfl
    · exact noneTaken_of_slots rfl
  · exact noneTaken_of_slots rfl

theorem setExternalPayload_noneTaken (msg : Msg (LeasePtr κ)) (data : Option (LeasePtr κ))
    (size : Nat) (retainFn releaseFn lifecycleCtx : Option (LeasePtr κ)) (w : LeasePool × ν) :
    w.1.NoneTaken (msg.setExternalPayload (leaseCallbacks foreign) data size retainFn releaseFn
      lifecycleCtx w).2.2.1 := by
  rcases Msg.setExternalPayload_cases (leaseCallbacks foreign) msg data size retainFn releaseFn
    lifecycleCtx w with ⟨rc, _, hrefused⟩ | ⟨_, _, haccepted⟩
  · rw [hrefused]
    exact noneTaken_of_slots rfl
  · rw [haccepted]
    exact releasePayload_noneTaken foreign msg w

theorem attachMsg_noneTaken (msg : Msg (LeasePtr κ)) (handle : LeaseHandle) (w : LeasePool × ν) :
    w.1.NoneTaken (attachMsg foreign msg handle w).2.2.1 := by
  unfold attachMsg
  split
  · exact noneTaken_of_slots (w.1.countStaleHandle_slots handle).1
  · simp only
    split
    · exact noneTaken_of_slots rfl
    · split
      · split
        · exact retain_noneTaken w.1 handle
        · have hattached := (retain_noneTaken w.1 handle).trans
            (setExternalPayload_noneTaken foreign msg (w.1.handleData handle)
              (w.1.handleSize handle) (some .retainFromSlot) (some .releaseFromSlot)
              (handle.slot.map .slot) ((w.1.retain handle).2, w.2))
          split
          · exact hattached.trans (release_noneTaken _ handle)
          · exact hattached
      · exact setExternalPayload_noneTaken foreign msg none 0 none none _ w

theorem nextGeneration_toNat (generation : UInt32) :
    (if generation + 1 = 0 then 1 else generation + 1).toNat =
      Generations.next generations generation.toNat := by
  have hlt := generation.toNat_lt
  have hzero : generation + 1 = 0 ↔ generation.toNat = 2 ^ 32 - 1 := by
    rw [← UInt32.toNat_inj, UInt32.toNat_add, UInt32.toNat_one, UInt32.toNat_zero]
    omega
  unfold Generations.next generations
  split
  · rename_i hwrap
    rw [if_pos (hzero.mp hwrap)]
    rfl
  · rename_i hroom
    rw [if_neg fun hlast => hroom (hzero.mpr hlast), UInt32.toNat_add, UInt32.toNat_one]
    rw [hzero] at hroom
    omega

theorem acquire_cases (pool : LeasePool) (payloadSize : Nat) :
    ((pool.acquire payloadSize).2.1 = none ∧ (pool.acquire payloadSize).2.2.slots = pool.slots) ∨
    ∃ index slot, (pool.slots index).inUse = false ∧ slot.inUse = true ∧
      slot.generation.toNat = Generations.next generations (pool.slots index).generation.toNat ∧
      (pool.acquire payloadSize).2.1 = some ⟨some index, slot.generation⟩ ∧
      (pool.acquire payloadSize).2.2.slots = Function.update pool.slots index slot := by
  unfold acquire
  split
  · exact Or.inl ⟨rfl, rfl⟩
  · split
    · exact Or.inl ⟨rfl, rfl⟩
    · rename_i index hfind
      obtain ⟨_, _, hfree⟩ := findFree_spec pool pool.slotCount 0 hfind
      exact Or.inr ⟨index, _, hfree, rfl, nextGeneration_toNat _, rfl, rfl⟩

theorem turn_of_noneTaken {index : Nat} {w w' : LeasePool × ν} (h : w.1.NoneTaken w'.1) :
    Generations.Turn generations (leaseSlot index w) (leaseSlot index w') false :=
  .kept (h index).2 (congrArg UInt32.toNat (h index).1)

theorem call_tracks (index : Nat) :
    Generations.Tracks (call foreign) (leaseSlot index) (handsOut index) generations := by
  intro w input
  cases input with
  | acquire payloadSize =>
    unfold handsOut issued
    simp only
    rcases w.1.acquire_cases payloadSize with ⟨hnone, hslots⟩ |
      ⟨taken, slot, hfree, hused, hgeneration, hissued, hslots⟩
    · rw [hnone]
      exact turn_of_noneTaken (noneTaken_of_slots hslots)
    · rw [hissued]
      by_cases hsame : taken = index
      · have hflag : (some taken == some index) = true := by rw [hsame, beq_self_eq_true]
        simp only [Option.any_some, hflag]
        rw [hsame] at hfree hgeneration hslots
        refine .taken hfree ?_
        simp only [leaseSlot, call, hslots, Function.update_self]
        exact hgeneration
      · have hflag : (some taken == some index) = false := by simpa using hsame
        simp only [Option.any_some, hflag]
        refine .kept ?_ ?_
        · simp only [leaseSlot, call, hslots, Function.update_of_ne (Ne.symm hsame)]
          exact id
        · simp only [leaseSlot, call, hslots, Function.update_of_ne (Ne.symm hsame)]
  | retain handle => exact turn_of_noneTaken (retain_noneTaken w.1 handle)
  | release handle => exact turn_of_noneTaken (release_noneTaken w.1 handle)
  | retainFromSlot ctx payload payloadSize =>
    exact turn_of_noneTaken (retainFromSlot_noneTaken w.1 ctx payload payloadSize)
  | releaseFromSlot ctx payload payloadSize =>
    exact turn_of_noneTaken (releaseFromSlot_noneTaken w.1 ctx payload payloadSize)
  | attachMsg msg handle => exact turn_of_noneTaken (attachMsg_noneTaken foreign msg handle w)

theorem issued_slot {w : LeasePool × ν} {input : LeasePoolCall κ} {handle : LeaseHandle}
    (h : issued w input = some handle) : ∃ index, handle.slot = some index ∧
      (leaseSlot index (call foreign w input)).generation = handle.generation.toNat := by
  cases input with
  | acquire payloadSize =>
    rcases w.1.acquire_cases payloadSize with ⟨hnone, _⟩ | ⟨index, slot, _, _, _, hissued, hslots⟩
    · rw [issued, hnone] at h
      cases h
    · rw [issued, hissued] at h
      obtain rfl := Option.some.inj h
      refine ⟨index, rfl, ?_⟩
      simp only [leaseSlot, call, hslots, Function.update_self]
  | retain _ => cases h
  | release _ => cases h
  | retainFromSlot _ _ _ => cases h
  | releaseFromSlot _ _ _ => cases h
  | attachMsg _ _ => cases h

/-- What the pool does with a handle that it rejects: no slot and no payload byte changes. -/
structure Rejects (w : LeasePool × ν) (handle : LeaseHandle) : Prop where
  retain : (w.1.retain handle).1 = .errState ∧ (w.1.retain handle).2.slots = w.1.slots ∧
    (w.1.retain handle).2.storage = w.1.storage
  release : (w.1.release handle).1 = .errState ∧ (w.1.release handle).2.slots = w.1.slots ∧
    (w.1.release handle).2.storage = w.1.storage
  attachMsg : ∀ msg : Msg (LeasePtr κ), (attachMsg foreign msg handle w).1 = .errState ∧
    (attachMsg foreign msg handle w).2.1 = msg ∧
    (attachMsg foreign msg handle w).2.2.1.slots = w.1.slots ∧
    (attachMsg foreign msg handle w).2.2.1.storage = w.1.storage ∧
    (attachMsg foreign msg handle w).2.2.2 = w.2
  isValid : w.1.handleIsValid handle = false
  data : w.1.handleData (κ := κ) handle = none
  size : w.1.handleSize handle = 0
  refcount : w.1.handleRefcount handle = 0

theorem rejects_of_dead {w : LeasePool × ν} {handle : LeaseHandle}
    (hdead : w.1.handleIsLive handle = false) : Rejects foreign w handle := by
  have hstale := w.1.countStaleHandle_slots handle
  refine ⟨?_, ?_, fun msg => ?_, hdead, ?_, ?_, ?_⟩
  · rw [retain_dead hdead]
    exact ⟨rfl, hstale⟩
  · rw [release_dead hdead]
    exact ⟨rfl, hstale⟩
  · have hrefused : LeasePool.attachMsg foreign msg handle w =
        (.errState, msg, w.1.countStaleHandle handle, w.2) := by
      rw [LeasePool.attachMsg, hdead]
      rfl
    rw [hrefused]
    exact ⟨rfl, rfl, hstale.1, hstale.2, rfl⟩
  · rw [handleData, hdead]
    cases handle.slot <;> rfl
  · rw [handleSize, hdead]
    cases handle.slot <;> rfl
  · rw [handleRefcount, hdead]
    cases handle.slot <;> rfl

/-- After its slot was freed, a handle is rejected until the generations have come round. -/
theorem rejects_stale {w : LeasePool × ν} {handle : LeaseHandle} {index : Nat}
    (hslot : handle.slot = some index)
    (hgeneration : (leaseSlot index w).generation = handle.generation.toNat)
    {earlier since : List (LeasePoolCall κ)} (hpre : earlier <+: since)
    (hfreed : ((Machine.run (call foreign) w earlier).1.slots index).inUse = false)
    (hfew : reuses foreign index w since < generations) :
    Rejects foreign (Machine.run (call foreign) w since) handle := by
  have hle : (leaseSlot index w).generation ≤ generations := by
    have hlt := handle.generation.toNat_lt
    rw [hgeneration, generations]
    omega
  have hstale := Generations.stale (call_tracks foreign index) hle hpre hfreed hfew
  apply rejects_of_dead
  rw [Bool.eq_false_iff, handleIsLive, hslot]
  intro hlive
  simp only [Bool.and_eq_true, beq_iff_eq] at hlive
  apply hstale
  refine ⟨hlive.1.1.2, ?_⟩
  rw [hgeneration, ← hlive.1.2]
  rfl

/-- The slot is not handed out under the same generation before the generations have come round. -/
theorem issued_ne {w : LeasePool × ν} {handle handle' : LeaseHandle} {index : Nat}
    (hslot : handle.slot = some index)
    (hgeneration : (leaseSlot index w).generation = handle.generation.toNat)
    {since : List (LeasePoolCall κ)} {input : LeasePoolCall κ}
    (hissued : issued (Machine.run (call foreign) w since) input = some handle')
    (hfew : reuses foreign index w (since ++ [input]) < generations) : handle' ≠ handle := by
  rintro rfl
  have hle : (leaseSlot index w).generation ≤ generations := by
    have hlt := handle'.generation.toNat_lt
    rw [hgeneration, generations]
    omega
  have hflag : handsOut index (Machine.run (call foreign) w since) input = true := by
    rw [handsOut, hissued, Option.any_some, hslot, beq_self_eq_true]
  have hsome : 0 < reuses foreign index w (since ++ [input]) := by
    rw [reuses, Generations.reuses_append, Generations.reuses, hflag, Bool.toNat_true]
    omega
  obtain ⟨index', hslot', hgeneration'⟩ := issued_slot foreign hissued
  obtain rfl : index = index' := Option.some.inj (hslot.symm.trans hslot')
  apply Generations.generation_ne (call_tracks foreign index) hle hsome hfew
  rw [Machine.run_append, Machine.run_cons, Machine.run_nil, hgeneration', hgeneration]

end Calls

end LeasePool

end EventFramework
