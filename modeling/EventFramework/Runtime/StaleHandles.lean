import EventFramework.Core.LeaseHandles
import EventFramework.Runtime.TimerAttempts

/-!
# Stale timer tokens and lease handles

The timer service in single steps, so that a publish callback may cancel and schedule between
any two of them. A token is good for one generation of its slot.
-/

namespace EventFramework
set_option autoImplicit false

variable {P σ κ ν : Type}

/-- `published` counts a publication and `attempted` is what `ev_timer_publish_due` does to a
slot after the attempt. -/
inductive TimerStep where
  | schedule (nowMs delayMs : UInt32) (targetActor : ActorId) (eventId : EventId) (arg0 : UInt32)
    (periodic : Bool)
  | cancel (token : TimerToken)
  | published
  | attempted (index : TimerIndex)

namespace TimerService

def step (svc : TimerService) : TimerStep → TimerService
  | .schedule nowMs delayMs targetActor eventId arg0 periodic =>
    match svc.schedule nowMs delayMs targetActor eventId arg0 periodic with
    | .ok (_, svc) => svc
    | .error _ => svc
  | .cancel token => (svc.cancel token).2
  | .published => { svc with published := svc.published + 1 }
  | .attempted index => svc.setSlot index (svc.slots index).advanced

def issued (svc : TimerService) : TimerStep → Option TimerToken
  | .schedule nowMs delayMs targetActor eventId arg0 periodic =>
    match svc.schedule nowMs delayMs targetActor eventId arg0 periodic with
    | .ok (token, _) => some token
    | .error _ => none
  | _ => none

/-- A slot as its tokens see it. -/
def timerSlot (index : TimerIndex) (svc : TimerService) : Generations.Slot where
  generation := (svc.slots index).generation.toNat
  live := (svc.slots index).active

def handsOut (index : TimerIndex) (svc : TimerService) (input : TimerStep) : Bool :=
  (svc.issued input).any fun token => token.slot.toNat == index.val

def reuses (index : TimerIndex) (svc : TimerService) (steps : List TimerStep) : Nat :=
  Generations.reuses step (handsOut index) svc steps

def generations : Nat := 2 ^ 16 - 1

section Calls

variable (port : TimerPort P σ)

theorem run_cancels (tokens : List TimerToken) (svc : TimerService) :
    tokens.foldl (fun svc token => (svc.cancel token).2) svc =
      Machine.run step svc (tokens.map .cancel) := by
  rw [Machine.run, List.foldl_map]
  rfl

theorem visit_steps (nowMs : UInt32) (index : TimerIndex) (s : Publishing σ) :
    ∃ steps, (s.visit port.callback nowMs index).service = Machine.run step s.service steps := by
  unfold Publishing.visit
  split
  · have hdeliver : ∃ steps,
        (s.deliver port.callback index).service = Machine.run step s.service steps := by
      rw [Publishing.deliver_callback]
      simp only
      split
      · split
        · refine ⟨(port s.service s.context (s.service.slots index).targetActor
            (s.service.slots index).message.2).2.1.map .cancel ++ [.published], ?_⟩
          rw [Machine.run_append, ← run_cancels]
          rfl
        · exact ⟨_, run_cancels _ _⟩
      · exact ⟨[], rfl⟩
    obtain ⟨steps, hsteps⟩ := hdeliver
    refine ⟨steps ++ [.attempted index], ?_⟩
    rw [Machine.run_append, ← hsteps]
    rfl
  · exact ⟨[], rfl⟩

theorem visitAll_steps (nowMs : UInt32) (maxPublish : Nat) (indices : List TimerIndex) :
    ∀ s : Publishing σ, ∃ steps,
      (Publishing.visitAll port.callback nowMs maxPublish indices s).service =
        Machine.run step s.service steps := by
  induction indices with
  | nil => exact fun s => ⟨[], rfl⟩
  | cons index rest ih =>
    intro s
    rw [Publishing.visitAll]
    split
    · obtain ⟨first, hfirst⟩ := visit_steps port nowMs index s
      obtain ⟨later, hlater⟩ := ih (s.visit port.callback nowMs index)
      exact ⟨first ++ later, by rw [Machine.run_append, ← hfirst, hlater]⟩
    · exact ⟨[], rfl⟩

end Calls

/-- Every call on an initialised service is a run of single steps. -/
theorem call_steps (run : TimerRun σ) {call : TimerCall P σ} (hinit : call ≠ .init) :
    ∃ steps, (run.call call).2.service = Machine.run step run.service steps := by
  cases call with
  | init => exact absurd rfl hinit
  | schedule nowMs delayMs targetActor eventId arg0 periodic =>
    refine ⟨[.schedule nowMs delayMs targetActor eventId arg0 periodic], ?_⟩
    simp only [TimerRun.call, Machine.run_cons, Machine.run_nil, step]
    cases run.service.schedule nowMs delayMs targetActor eventId arg0 periodic with
    | ok out => rfl
    | error rc => rfl
  | cancel token => exact ⟨[.cancel token], rfl⟩
  | publishDue waitMs publish maxPublish =>
    cases publish with
    | none => exact ⟨[], rfl⟩
    | some port => exact visitAll_steps port _ maxPublish _ _

theorem nextGeneration_toNat (slot : TimerSlot) :
    slot.nextGeneration.toNat = Generations.next generations slot.generation.toNat := by
  have hlt := slot.generation.toNat_lt
  have hzero : slot.generation + 1 = 0 ↔ slot.generation.toNat = 2 ^ 16 - 1 := by
    rw [← UInt16.toNat_inj, UInt16.toNat_add, UInt16.toNat_one, UInt16.toNat_zero]
    omega
  unfold TimerSlot.nextGeneration Generations.next generations
  split
  · rename_i hwrap
    rw [if_pos (hzero.mp hwrap)]
    rfl
  · rename_i hroom
    rw [if_neg fun hlast => hroom (hzero.mpr hlast), UInt16.toNat_add, UInt16.toNat_one]
    rw [hzero] at hroom
    omega

theorem schedule_cases (svc : TimerService) (nowMs delayMs : UInt32) (targetActor : ActorId)
    (eventId : EventId) (arg0 : UInt32) (periodic : Bool) :
    (∃ rc, svc.schedule nowMs delayMs targetActor eventId arg0 periodic = .error rc) ∨
    ∃ index token slot svc',
      svc.schedule nowMs delayMs targetActor eventId arg0 periodic = .ok (token, svc') ∧
      (svc.slots index).active = false ∧ slot.active = true ∧
      slot.generation.toNat = Generations.next generations (svc.slots index).generation.toNat ∧
      token.slot.toNat = index.val ∧ token.generation = slot.generation ∧
      svc'.slots = Function.update svc.slots index slot := by
  unfold schedule
  split
  · exact Or.inl ⟨_, rfl⟩
  · cases hfree : svc.freeIndex with
    | none => exact Or.inl ⟨_, rfl⟩
    | some index =>
      have hinactive := List.find?_some hfree
      have hfits : (UInt16.ofNat index.val).toNat = index.val := by
        have hlt : index.val < 16 := index.isLt
        rw [UInt16.toNat_ofNat']
        omega
      exact Or.inr ⟨index, _, _, _, rfl, by simpa using hinactive, rfl, nextGeneration_toNat _,
        hfits, rfl, rfl⟩

theorem advanced_active {slot : TimerSlot} (h : slot.advanced.active = true) :
    slot.active = true := by
  unfold TimerSlot.advanced at h
  split at h
  · exact h
  · cases h

theorem turn_of_kept {index : TimerIndex} {svc svc' : TimerService}
    (h : TimerSlot.Kept (svc.slots index) (svc'.slots index)) :
    Generations.Turn generations (timerSlot index svc) (timerSlot index svc') false := by
  rcases h with hsame | hoff
  · exact .kept (fun hlive => by simpa only [timerSlot, hsame] using hlive)
      (by simp only [timerSlot, hsame])
  · refine .kept (fun hlive => ?_) ?_
    · simp only [timerSlot, hoff] at hlive
      cases hlive
    · simp only [timerSlot, hoff]
      rfl

theorem step_tracks (index : TimerIndex) :
    Generations.Tracks step (timerSlot index) (handsOut index) generations := by
  intro svc input
  cases input with
  | cancel token => exact turn_of_kept (cancel_kept svc token index)
  | published => exact turn_of_kept (.refl _)
  | attempted other =>
    by_cases hsame : index = other
    · subst hsame
      refine .kept (fun hlive => ?_) ?_
      · simp only [timerSlot, step, setSlot_self] at hlive ⊢
        exact advanced_active hlive
      · simp only [timerSlot, step, setSlot_self, TimerSlot.advanced_generation]
    · exact turn_of_kept (.inl (setSlot_of_ne svc _ hsame))
  | schedule nowMs delayMs targetActor eventId arg0 periodic =>
    unfold handsOut issued
    rcases svc.schedule_cases nowMs delayMs targetActor eventId arg0 periodic with ⟨rc, hrefused⟩ |
      ⟨taken, token, slot, svc', hschedule, hfree, _, hgeneration, htoken, _, hslots⟩
    · simp only [hrefused]
      apply turn_of_kept
      simp only [step, hrefused]
      exact .refl _
    · simp only [hschedule]
      by_cases hsame : taken = index
      · have hflag : (token.slot.toNat == index.val) = true := by rw [htoken, hsame, beq_self_eq_true]
        simp only [Option.any_some, hflag]
        rw [hsame] at hfree hgeneration hslots
        refine .taken hfree ?_
        simp only [timerSlot, step, hschedule, hslots, Function.update_self]
        exact hgeneration
      · have hflag : (token.slot.toNat == index.val) = false := by
          rw [htoken, beq_eq_false_iff_ne]
          exact fun heq => hsame (Fin.ext heq)
        simp only [Option.any_some, hflag]
        apply turn_of_kept
        simp only [step, hschedule, hslots, Function.update_of_ne (Ne.symm hsame)]
        exact .refl _

theorem issued_slot {svc : TimerService} {input : TimerStep} {token : TimerToken}
    (h : svc.issued input = some token) : ∃ index : TimerIndex, token.slot.toNat = index.val ∧
      (timerSlot index (svc.step input)).generation = token.generation.toNat := by
  cases input with
  | schedule nowMs delayMs targetActor eventId arg0 periodic =>
    rcases svc.schedule_cases nowMs delayMs targetActor eventId arg0 periodic with ⟨rc, hrefused⟩ |
      ⟨index, other, slot, svc', hschedule, _, _, _, htoken, hgeneration, hslots⟩
    · simp only [issued, hrefused] at h
      cases h
    · simp only [issued, hschedule] at h
      obtain rfl := Option.some.inj h
      refine ⟨index, htoken, ?_⟩
      simp only [timerSlot, step, hschedule, hslots, Function.update_self, hgeneration]
  | cancel _ => cases h
  | published => cases h
  | attempted _ => cases h

/-- After its timer was cancelled or expired, a token is not found until the generations have come
round. -/
theorem cancel_stale {svc : TimerService} {token : TimerToken} {index : TimerIndex}
    (hslot : token.slot.toNat = index.val)
    (hgeneration : (timerSlot index svc).generation = token.generation.toNat)
    {earlier since : List TimerStep} (hpre : earlier <+: since)
    (hended : ((Machine.run step svc earlier).slots index).active = false)
    (hfew : reuses index svc since < generations) :
    (Machine.run step svc since).cancel token = (.errNotFound, Machine.run step svc since) := by
  have hle : (timerSlot index svc).generation ≤ generations := by
    have hlt := token.generation.toNat_lt
    rw [hgeneration, generations]
    omega
  have hstale := Generations.stale (step_tracks index) hle hpre hended hfew
  have hnone : (Machine.run step svc since).tokenIndex token = none := by
    unfold tokenIndex
    split
    · rename_i hlt
      rw [if_neg]
      rintro ⟨hactive, hsame⟩
      have hindex : (⟨token.slot.toNat, hlt⟩ : TimerIndex) = index := Fin.ext hslot
      simp only [hindex] at hactive hsame
      apply hstale
      refine ⟨hactive, ?_⟩
      rw [hgeneration, ← hsame]
      rfl
    · rfl
  rw [cancel, hnone]

theorem issued_ne {svc : TimerService} {token token' : TimerToken} {index : TimerIndex}
    (hslot : token.slot.toNat = index.val)
    (hgeneration : (timerSlot index svc).generation = token.generation.toNat)
    {since : List TimerStep} {input : TimerStep}
    (hissued : (Machine.run step svc since).issued input = some token')
    (hfew : reuses index svc (since ++ [input]) < generations) : token' ≠ token := by
  rintro rfl
  have hle : (timerSlot index svc).generation ≤ generations := by
    have hlt := token'.generation.toNat_lt
    rw [hgeneration, generations]
    omega
  have hflag : handsOut index (Machine.run step svc since) input = true := by
    rw [handsOut, hissued, Option.any_some, hslot, beq_self_eq_true]
  have hsome : 0 < reuses index svc (since ++ [input]) := by
    rw [reuses, Generations.reuses_append, Generations.reuses, hflag, Bool.toNat_true]
    omega
  obtain ⟨index', hslot', hgeneration'⟩ := issued_slot hissued
  obtain rfl : index = index' := Fin.ext (hslot.symm.trans hslot')
  apply Generations.generation_ne (step_tracks index) hle hsome hfew
  rw [Machine.run_append, Machine.run_cons, Machine.run_nil, hgeneration', hgeneration]

end TimerService

/-- What becomes of a token while its slot is handed out fewer times than it has generations:
once the timer was cancelled or expired a cancel does nothing, and no token like it is issued. -/
structure TokenSafe (svc : TimerService) (token : TimerToken) (index : TimerIndex)
    (since : List TimerStep) : Prop where
  stale : ∀ earlier, earlier <+: since →
    ((Machine.run TimerService.step svc earlier).slots index).active = false →
    svc.reuses index since < TimerService.generations →
    (Machine.run TimerService.step svc since).cancel token =
      (.errNotFound, Machine.run TimerService.step svc since)
  unique : ∀ input token', (Machine.run TimerService.step svc since).issued input = some token' →
    svc.reuses index (since ++ [input]) < TimerService.generations → token' ≠ token

/-- The same for a handle, once its slot was freed. -/
structure HandleSafe (foreign : Callbacks (LeasePtr κ) ν) (w : LeasePool × ν) (handle : LeaseHandle)
    (index : Nat) (since : List (LeasePoolCall κ)) : Prop where
  stale : ∀ earlier, earlier <+: since →
    ((Machine.run (LeasePool.call foreign) w earlier).1.slots index).inUse = false →
    LeasePool.reuses foreign index w since < LeasePool.generations →
    LeasePool.Rejects foreign (Machine.run (LeasePool.call foreign) w since) handle
  unique : ∀ input handle',
    LeasePool.issued (Machine.run (LeasePool.call foreign) w since) input = some handle' →
    LeasePool.reuses foreign index w (since ++ [input]) < LeasePool.generations → handle' ≠ handle

/-- Tokens and handles of an earlier generation are harmless, whatever happens after they were
issued. -/
theorem stale_handles_harmless (foreign : Callbacks (LeasePtr κ) ν) :
    (∀ (svc : TimerService) (input : TimerStep) (token : TimerToken),
      svc.issued input = some token → ∃ index : TimerIndex, token.slot.toNat = index.val ∧
        ∀ since, TokenSafe (svc.step input) token index since) ∧
    (∀ (w : LeasePool × ν) (input : LeasePoolCall κ) (handle : LeaseHandle),
      LeasePool.issued w input = some handle → ∃ index, handle.slot = some index ∧
        ∀ since, HandleSafe foreign (LeasePool.call foreign w input) handle index since) := by
  constructor
  · intro svc input token hissued
    obtain ⟨index, hslot, hgeneration⟩ := TimerService.issued_slot hissued
    refine ⟨index, hslot, fun since => ⟨?_, ?_⟩⟩
    · exact fun earlier hpre hended => TimerService.cancel_stale hslot hgeneration hpre hended
    · exact fun later token' => TimerService.issued_ne hslot hgeneration
  · intro w input handle hissued
    obtain ⟨index, hslot, hgeneration⟩ := LeasePool.issued_slot foreign hissued
    refine ⟨index, hslot, fun since => ⟨?_, ?_⟩⟩
    · exact fun earlier hpre => LeasePool.rejects_stale foreign hslot hgeneration hpre
    · exact fun later handle' => LeasePool.issued_ne foreign hslot hgeneration

/-- A timer cancelled twice, and a lease released twice after its slot was taken again. -/
theorem stale_handles_harmless_twice :
    (∃ svc : TimerService, svc.cancel ⟨0, 1⟩ = (.errNotFound, svc) ∧ svc.scheduled = 1) ∧
    ∃ w : LeasePool × Unit, (w.1.release ⟨some 0, 1⟩).1 = .errState ∧
      (w.1.slots 0).refcount = 1 := by
  obtain ⟨htokens, hhandles⟩ := stale_handles_harmless
    (⟨fun _ _ _ _ w => (.ok, w), fun _ _ _ _ w => w⟩ : Callbacks (LeasePtr Unit) Unit)
  obtain ⟨index, hindex, hsafe⟩ := htokens TimerService.init
    (.schedule 0 5 .fault .tick1s 0 false) ⟨0, 1⟩ rfl
  obtain rfl : ⟨0, by decide⟩ = index := Fin.ext hindex
  obtain ⟨slot, hslot, hkept⟩ := hhandles (LeasePool.fresh 1 4, ()) (.acquire 4) ⟨some 0, 1⟩ rfl
  obtain rfl : 0 = slot := Option.some.inj hslot
  constructor
  · exact ⟨_, (hsafe [.cancel ⟨0, 1⟩]).stale _ (List.prefix_refl _) (by decide) (by decide), rfl⟩
  · have hrejects := (hkept [.release ⟨some 0, 1⟩, .acquire 2]).stale [.release ⟨some 0, 1⟩]
      ⟨[.acquire 2], rfl⟩ (by decide) (by decide)
    exact ⟨_, hrejects.release.1, by decide⟩

end EventFramework
