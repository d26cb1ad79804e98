import EventFramework.Actors.ActorWorld

/-!
# The supervisor actor

`ev_supervisor_actor.c`: it waits for the hardware to report ready after boot and then
publishes `EV_SYSTEM_READY` with the mask of the active hardware.

The supervisor sets its flag and its mask before the publication and never repeats one that
failed. The announcement is therefore what the context says just as long as no publication
of `EV_SYSTEM_READY` fails.
-/

namespace EventFramework
set_option autoImplicit false

variable {P ω : Type}

def supervisorHwMcp23008 : UInt32 := 0x1

def supervisorHwRtc : UInt32 := 0x2

def supervisorHwOled : UInt32 := 0x4

def supervisorHwDs18b20 : UInt32 := 0x8

def supervisorHwBh1750 : UInt32 := 0x10

def supervisorBootSettleTicks : UInt32 := 1

def supervisorRequiredMask : UInt32 := supervisorHwMcp23008 ||| supervisorHwRtc

def supervisorOptionalMask : UInt32 :=
  supervisorHwOled ||| supervisorHwDs18b20 ||| supervisorHwBh1750

def supervisorKnownMask : UInt32 := supervisorRequiredMask ||| supervisorOptionalMask

structure SupervisorActor where
  activeHardwareMask : UInt32 := 0
  observedHardwareMask : UInt32 := 0
  requiredHardwareMask : UInt32
  optionalHardwareMask : UInt32
  knownHardwareMask : UInt32
  bootObserved : Bool := false
  systemReadyPublished : Bool := false
  ticksWaited : UInt32 := 0
  deriving DecidableEq, Repr

/-- A supervisor calls no port but its delivery callback. -/
abbrev SupervisorState (P ω : Type) := Running SupervisorActor P Empty ω

namespace SupervisorActor

def init : SupervisorActor where
  requiredHardwareMask := supervisorRequiredMask
  optionalHardwareMask := supervisorOptionalMask
  knownHardwareMask := supervisorKnownMask

def configureHardware (ctx : SupervisorActor) (requiredHardwareMask optionalHardwareMask : UInt32) :
    Result × SupervisorActor :=
  let knownMask := requiredHardwareMask ||| optionalHardwareMask
  if knownMask &&& ~~~supervisorKnownMask ≠ 0 then (.errOutOfRange, ctx)
  else if requiredHardwareMask &&& optionalHardwareMask ≠ 0 then (.errContract, ctx)
  else
    (.ok, { ctx with
      requiredHardwareMask := requiredHardwareMask
      optionalHardwareMask := optionalHardwareMask
      knownHardwareMask := knownMask })

def markReady (ctx : SupervisorActor) (hwMask : UInt32) : SupervisorActor :=
  { ctx with
    observedHardwareMask := ctx.observedHardwareMask ||| hwMask
    activeHardwareMask := ctx.activeHardwareMask ||| hwMask }

def markRemainingOffline (ctx : SupervisorActor) : SupervisorActor :=
  { ctx with observedHardwareMask := ctx.observedHardwareMask ||| ctx.knownHardwareMask }

def publishSystemReady (port : ActorPort P ω) (s : SupervisorState P ω) :
    Result × SupervisorState P ω :=
  s.publishEvent port .systemReady .supervisor (some (wordBytes s.ctx.activeHardwareMask))

def tryPublishIfSettled (port : ActorPort P ω) (s : SupervisorState P ω) :
    Result × SupervisorState P ω :=
  if !s.ctx.bootObserved || s.ctx.systemReadyPublished then (.ok, s)
  else
    let settledMask := s.ctx.observedHardwareMask &&& s.ctx.requiredHardwareMask
    if settledMask = s.ctx.requiredHardwareMask ∨ supervisorBootSettleTicks ≤ s.ctx.ticksWaited then
      let ctx :=
        if supervisorBootSettleTicks ≤ s.ctx.ticksWaited then s.ctx.markRemainingOffline else s.ctx
      publishSystemReady port (s.setCtx { ctx with systemReadyPublished := true })
    else (.ok, s)

def handleReady (port : ActorPort P ω) (s : SupervisorState P ω) (hwMask : UInt32) :
    Result × SupervisorState P ω :=
  let becameActive := s.ctx.activeHardwareMask &&& hwMask = 0
  let s := s.setCtx (s.ctx.markReady hwMask)
  if !s.ctx.systemReadyPublished then tryPublishIfSettled port s
  else if becameActive then publishSystemReady port s
  else (.ok, s)

def handle (port : ActorPort P ω) (s : SupervisorState P ω) (msg : Inbound) :
    Result × SupervisorState P ω :=
  match msg.eventId with
  | .bootCompleted =>
    (.ok, s.setCtx { s.ctx with
      bootObserved := true
      systemReadyPublished := false
      ticksWaited := 0
      activeHardwareMask := 0
      observedHardwareMask := 0 })
  | .mcp23008Ready => handleReady port s supervisorHwMcp23008
  | .rtcReady => handleReady port s supervisorHwRtc
  | .oledReady => handleReady port s supervisorHwOled
  | .ds18b20Ready => handleReady port s supervisorHwDs18b20
  | .bh1750Ready => handleReady port s supervisorHwBh1750
  | .tick1s =>
    if s.ctx.bootObserved && !s.ctx.systemReadyPublished then
      tryPublishIfSettled port (s.setCtx { s.ctx with ticksWaited := s.ctx.ticksWaited + 1 })
    else (.ok, s)
  | _ => (.errContract, s)

def step (port : ActorPort P ω) : SupervisorState P ω → Inbound → SupervisorState P ω :=
  Running.step (handle port)

/-- The system ready message that the latest events leave in force: the last one published with
`EV_OK` since the last boot. -/
def inForce : Option (Msg P) → ActorEvent P Empty → Option (Msg P)
  | last, .received msg => if msg.eventId = .bootCompleted then none else last
  | last, .published msg result =>
    if msg.eventId = .systemReady ∧ result = .ok then some msg else last
  | last, _ => last

def announced (history : List (ActorEvent P Empty)) : Option (Msg P) := history.foldl inForce none

/-- The `active_hardware_mask` that a system ready message carries. -/
def announcedMask (msg : Msg P) : UInt32 := wordAt msg.inlineMemory 0

/-- Readiness is announced with the mask of the context. -/
def Announced (s : SupervisorState P ω) : Prop :=
  s.ctx.systemReadyPublished = true →
    ∃ msg, announced s.world.history = some msg ∧ announcedMask msg = s.ctx.activeHardwareMask

/-- Every publication of `EV_SYSTEM_READY` returned `EV_OK`. -/
def AllDelivered (s : SupervisorState P ω) : Prop :=
  ∀ msg result, .published msg result ∈ s.world.history → msg.eventId = .systemReady → result = .ok

/-- What holds as long as every publication succeeded: before the flag nothing is in force, after
it the message with the mask of the context. -/
structure Sound (s : SupervisorState P ω) : Prop where
  before : s.ctx.systemReadyPublished = false → announced s.world.history = none
  after : Announced s

theorem announced_note (history : List (ActorEvent P Empty)) (event : ActorEvent P Empty) :
    announced (history ++ [event]) = inForce (announced history) event :=
  List.foldl_append

/-- The message of a publication of `EV_SYSTEM_READY`. -/
def readyMessage (mask : UInt32) : Msg P :=
  ActorWorld.outgoing .systemReady .supervisor (some (wordBytes mask))

theorem announcedMask_readyMessage (mask : UInt32) :
    announcedMask (readyMessage mask : Msg P) = mask :=
  wordAt_wordBytes mask

/-- What a handler call that publishes nothing leaves behind. -/
def Quiet (s s' : SupervisorState P ω) : Prop :=
  s'.world = s.world ∧ s'.ctx.systemReadyPublished = s.ctx.systemReadyPublished ∧
    (s.ctx.systemReadyPublished = true → s'.ctx.activeHardwareMask = s.ctx.activeHardwareMask)

/-- What a handler call that publishes leaves behind. A second announcement has another mask. -/
def Publishes (s s' : SupervisorState P ω) : Prop :=
  ∃ result, s'.world.history =
      s.world.history ++ [.published (readyMessage s'.ctx.activeHardwareMask) result] ∧
    s'.ctx.systemReadyPublished = true ∧
    (s.ctx.systemReadyPublished = true → s'.ctx.activeHardwareMask ≠ s.ctx.activeHardwareMask)

theorem publishSystemReady_spec (port : ActorPort P ω) (s : SupervisorState P ω) :
    (publishSystemReady port s).2.ctx = s.ctx ∧
      ∃ result, (publishSystemReady port s).2.world.history =
        s.world.history ++ [.published (readyMessage s.ctx.activeHardwareMask) result] := by
  obtain ⟨result, outside, hpublish⟩ := Running.publishEvent_spec port .systemReady .supervisor
    (some (wordBytes s.ctx.activeHardwareMask)) (by rfl) s
  rw [publishSystemReady, hpublish]
  exact ⟨rfl, result, rfl⟩

/-- With the flag down, settling either does nothing or announces the mask of the context. -/
theorem tryPublishIfSettled_cases (port : ActorPort P ω) (s : SupervisorState P ω) :
    (tryPublishIfSettled port s).2 = s ∨
      s.ctx.systemReadyPublished = false ∧
      (tryPublishIfSettled port s).2.ctx.activeHardwareMask = s.ctx.activeHardwareMask ∧
      Publishes s (tryPublishIfSettled port s).2 := by
  unfold tryPublishIfSettled
  split
  · exact Or.inl rfl
  · rename_i hwaits
    simp only [Bool.or_eq_true, not_or, Bool.not_eq_true] at hwaits
    simp only
    split
    · right
      refine ⟨hwaits.2, ?_⟩
      generalize hctx : (if supervisorBootSettleTicks ≤ s.ctx.ticksWaited then
        s.ctx.markRemainingOffline else s.ctx) = ctx
      have hmask : ctx.activeHardwareMask = s.ctx.activeHardwareMask := by
        rw [← hctx]
        split <;> rfl
      obtain ⟨hkept, result, hhistory⟩ := publishSystemReady_spec port
        (s.setCtx { ctx with systemReadyPublished := true })
      refine ⟨?_, result, ?_, ?_, ?_⟩
      · rw [hkept]
        exact hmask
      · rw [hhistory, hkept]
        rfl
      · rw [hkept]
        rfl
      · intro hflag
        simp [hwaits.2] at hflag
    · exact Or.inl rfl

section Bits

variable {mask hwMask : UInt32} {bit : Nat} (hbit : hwMask.toBitVec = BitVec.twoPow 32 bit)

include hbit

theorem and_bit_eq_zero_iff : mask &&& hwMask = 0 ↔ mask.toBitVec.getLsbD bit = false ∨ 32 ≤ bit := by
  rw [← UInt32.toBitVec_inj, UInt32.toBitVec_and, hbit, BitVec.and_twoPow]
  by_cases hset : mask.toBitVec.getLsbD bit = true
  · rw [if_pos hset]
    have hlt : bit < 32 := BitVec.lt_of_getLsbD hset
    constructor
    · intro hzero
      have := congrArg (BitVec.getLsbD · bit) hzero
      simp [hlt] at this
    · rintro (hclear | hge)
      · simp [hset] at hclear
      · omega
  · rw [if_neg hset]
    simpa using Or.inl (by simpa using hset)

theorem or_bit (h : mask &&& hwMask ≠ 0) : mask ||| hwMask = mask := by
  have hset : mask.toBitVec.getLsbD bit = true := by
    by_contra hclear
    exact h ((and_bit_eq_zero_iff hbit).mpr (Or.inl (by simpa using hclear)))
  rw [← UInt32.toBitVec_inj, UInt32.toBitVec_or, hbit]
  apply BitVec.eq_of_getLsbD_eq
  intro i hi
  rw [BitVec.getLsbD_or, BitVec.getLsbD_twoPow]
  by_cases heq : bit = i
  · rw [← heq, hset, Bool.true_or]
  · simp [heq]

theorem or_bit_ne (hlt : bit < 32) (h : mask &&& hwMask = 0) : mask ||| hwMask ≠ mask := by
  intro hsame
  have hclear : mask.toBitVec.getLsbD bit = false := by
    rcases (and_bit_eq_zero_iff hbit).mp h with hclear | hge
    · exact hclear
    · omega
  rw [← UInt32.toBitVec_inj, UInt32.toBitVec_or, hbit] at hsame
  have hsaid := congrArg (BitVec.getLsbD · bit) hsame
  simp only [BitVec.getLsbD_or, BitVec.getLsbD_twoPow, hclear] at hsaid
  simp [hlt] at hsaid

end Bits

theorem handleReady_cases (port : ActorPort P ω) (s : SupervisorState P ω) {hwMask : UInt32} (bit : Nat)
    (hbit : hwMask.toBitVec = BitVec.twoPow 32 bit) (hlt : bit < 32) :
    Quiet s (handleReady port s hwMask).2 ∨ Publishes s (handleReady port s hwMask).2 := by
  by_cases hflag : s.ctx.systemReadyPublished = true
  · by_cases hnew : s.ctx.activeHardwareMask &&& hwMask = 0
    · have hready : handleReady port s hwMask =
          publishSystemReady port (s.setCtx (s.ctx.markReady hwMask)) := by
        simp [handleReady, hnew, Running.setCtx, markReady, hflag]
      obtain ⟨hkept, result, hhistory⟩ :=
        publishSystemReady_spec port (s.setCtx (s.ctx.markReady hwMask))
      rw [hready]
      refine Or.inr ⟨result, ?_, ?_, fun _ => ?_⟩
      · rw [hhistory, hkept]
        rfl
      · rw [hkept]
        exact hflag
      · rw [hkept]
        exact or_bit_ne hbit hlt hnew
    · have hready : handleReady port s hwMask = (.ok, s.setCtx (s.ctx.markReady hwMask)) := by
        simp [handleReady, hnew, Running.setCtx, markReady, hflag]
      rw [hready]
      exact Or.inl ⟨rfl, rfl, fun _ => or_bit hbit hnew⟩
  · have hready : handleReady port s hwMask =
        tryPublishIfSettled port (s.setCtx (s.ctx.markReady hwMask)) := by
      simp [handleReady, Running.setCtx, markReady, hflag]
    rw [hready]
    rcases tryPublishIfSettled_cases port (s.setCtx (s.ctx.markReady hwMask)) with
      hsame | ⟨_, _, result, hhistory, hset, _⟩
    · rw [hsame]
      exact Or.inl ⟨rfl, rfl, fun h => absurd h hflag⟩
    · exact Or.inr ⟨result, hhistory, hset, fun h => absurd h hflag⟩

theorem handle_cases (port : ActorPort P ω) (s : SupervisorState P ω) {msg : Inbound}
    (h : msg.eventId ≠ .bootCompleted) :
    Quiet s (handle port s msg).2 ∨ Publishes s (handle port s msg).2 := by
  have hrefl (rc : Result) (hstep : handle port s msg = (rc, s)) :
      Quiet s (handle port s msg).2 ∨ Publishes s (handle port s msg).2 := by
    rw [hstep]
    exact Or.inl ⟨rfl, rfl, fun _ => rfl⟩
  unfold handle at hrefl ⊢
  split
  · rename_i hboot
    exact absurd hboot h
  · exact handleReady_cases port s 0 (by decide) (by decide)
  · exact handleReady_cases port s 1 (by decide) (by decide)
  · exact handleReady_cases port s 2 (by decide) (by decide)
  · exact handleReady_cases port s 3 (by decide) (by decide)
  · exact handleReady_cases port s 4 (by decide) (by decide)
  · split
    · rename_i hwaits
      simp only [Bool.and_eq_true, Bool.not_eq_true'] at hwaits
      rcases tryPublishIfSettled_cases port
          (s.setCtx { s.ctx with ticksWaited := s.ctx.ticksWaited + 1 }) with
        hsame | ⟨_, _, result, hhistory, hset, _⟩
      · rw [hsame]
        exact Or.inl ⟨rfl, rfl, fun _ => rfl⟩
      · exact Or.inr ⟨result, hhistory, hset, fun hflag => by simp [hwaits.2] at hflag⟩
    · exact Or.inl ⟨rfl, rfl, fun _ => rfl⟩
  · exact Or.inl ⟨rfl, rfl, fun _ => rfl⟩

theorem handle_boot (port : ActorPort P ω) (s : SupervisorState P ω) {msg : Inbound}
    (h : msg.eventId = .bootCompleted) :
    (handle port s msg).2.world = s.world ∧
      (handle port s msg).2.ctx.systemReadyPublished = false := by
  unfold handle
  rw [h]
  exact ⟨rfl, rfl⟩

theorem step_cases (port : ActorPort P ω) (s : SupervisorState P ω) (msg : Inbound) :
    (msg.eventId = .bootCompleted ∧ (step port s msg).ctx.systemReadyPublished = false ∧
      announced (step port s msg).world.history = none ∧
      ∀ sent result, .published sent result ∈ (step port s msg).world.history ↔
        .published sent result ∈ s.world.history) ∨
    ((step port s msg).ctx.systemReadyPublished = s.ctx.systemReadyPublished ∧
      (s.ctx.systemReadyPublished = true →
        (step port s msg).ctx.activeHardwareMask = s.ctx.activeHardwareMask) ∧
      announced (step port s msg).world.history = announced s.world.history ∧
      ∀ sent result, .published sent result ∈ (step port s msg).world.history ↔
        .published sent result ∈ s.world.history) ∨
    (∃ result, (step port s msg).ctx.systemReadyPublished = true ∧
      (s.ctx.systemReadyPublished = true →
        (step port s msg).ctx.activeHardwareMask ≠ s.ctx.activeHardwareMask) ∧
      announced (step port s msg).world.history =
        (if result = .ok then some (readyMessage (step port s msg).ctx.activeHardwareMask)
          else announced s.world.history) ∧
      ∀ sent rc, .published sent rc ∈ (step port s msg).world.history ↔
        .published sent rc ∈ s.world.history ∨
          sent = readyMessage (step port s msg).ctx.activeHardwareMask ∧ rc = result) := by
  let start := s.note (.received msg)
  have hstep : (step port s msg).ctx = (handle port start msg).2.ctx ∧
      (step port s msg).world.history =
        (handle port start msg).2.world.history ++ [.returned (handle port start msg).1] :=
    ⟨rfl, rfl⟩
  have hstart : start.world.history = s.world.history ++ [.received msg] := rfl
  by_cases hboot : msg.eventId = .bootCompleted
  · obtain ⟨hworld, hflag⟩ := handle_boot port start hboot
    refine Or.inl ⟨hboot, by rw [hstep.1]; exact hflag, ?_, fun sent result => ?_⟩
    · rw [hstep.2, hworld, hstart, announced_note, announced_note]
      simp [inForce, hboot]
    · rw [hstep.2, hworld, hstart]
      simp
  · right
    rcases handle_cases port start hboot with ⟨hworld, hflag, hmask⟩ | ⟨result, hhistory, hflag, hmask⟩
    · refine Or.inl ⟨by rw [hstep.1]; exact hflag, by rw [hstep.1]; exact hmask, ?_,
        fun sent result => ?_⟩
      · rw [hstep.2, hworld, hstart, announced_note, announced_note]
        simp [inForce, hboot]
      · rw [hstep.2, hworld, hstart]
        simp
    · refine Or.inr ⟨result, by rw [hstep.1]; exact hflag, by rw [hstep.1]; exact hmask, ?_,
        fun sent rc => ?_⟩
      · rw [hstep.2, hhistory, hstart, announced_note, announced_note, announced_note, hstep.1]
        simp [inForce, hboot, readyMessage, ActorWorld.outgoing]
      · rw [hstep.2, hhistory, hstart, hstep.1]
        simp

/-- A step without a failed announcement keeps the announcement in line with the context. -/
theorem step_sound (port : ActorPort P ω) {s : SupervisorState P ω} {msg : Inbound} (h : Sound s)
    (hdelivered : AllDelivered (step port s msg)) : Sound (step port s msg) := by
  rcases step_cases port s msg with ⟨_, hflag, hnone, _⟩ | ⟨hflag, hmask, hsame, _⟩ |
    ⟨result, hflag, _, hannounced, hhistory⟩
  · exact ⟨fun _ => hnone, fun hset => by simp [hflag] at hset⟩
  · refine ⟨fun hclear => ?_, fun hset => ?_⟩
    · rw [hsame]
      exact h.before (hflag.symm.trans hclear)
    · rw [hflag] at hset
      rw [hsame, hmask hset]
      exact h.after hset
  · have hok : result = .ok := hdelivered _ result ((hhistory _ _).mpr (Or.inr ⟨rfl, rfl⟩)) rfl
    refine ⟨fun hclear => by simp [hflag] at hclear, fun _ => ?_⟩
    rw [if_pos hok] at hannounced
    exact ⟨_, hannounced, announcedMask_readyMessage _⟩

/-- A failed announcement leaves the flag set and nothing in force that has the mask of the
context. -/
theorem step_unannounced (port : ActorPort P ω) {s : SupervisorState P ω} {msg : Inbound}
    (h : Sound s) (hbefore : AllDelivered s) (hfailed : ¬AllDelivered (step port s msg)) :
    ¬Announced (step port s msg) := by
  rcases step_cases port s msg with ⟨_, _, _, hhistory⟩ | ⟨_, _, _, hhistory⟩ |
    ⟨result, hflag, hmask, hannounced, hhistory⟩
  · exact absurd (fun sent rc hmem => hbefore sent rc ((hhistory sent rc).mp hmem)) hfailed
  · exact absurd (fun sent rc hmem => hbefore sent rc ((hhistory sent rc).mp hmem)) hfailed
  · have hrc : result ≠ .ok := by
      rintro rfl
      refine hfailed fun sent rc hmem hevent => ?_
      rcases (hhistory sent rc).mp hmem with hold | ⟨_, hok⟩
      · exact hbefore sent rc hold hevent
      · exact hok
    intro hempty
    obtain ⟨sent, hsent, hempty⟩ := hempty hflag
    rw [hannounced, if_neg hrc] at hsent
    cases hold : s.ctx.systemReadyPublished with
    | false =>
      rw [h.before hold] at hsent
      cases hsent
    | true =>
      obtain ⟨last, hlast, hequal⟩ := h.after hold
      rw [hlast] at hsent
      cases hsent
      exact hmask hold (hempty.symm.trans hequal)

theorem step_forgets (port : ActorPort P ω) {s : SupervisorState P ω} {msg : Inbound}
    (h : AllDelivered (step port s msg)) : AllDelivered s := by
  intro sent result hmem
  rcases step_cases port s msg with ⟨_, _, _, hhistory⟩ | ⟨_, _, _, hhistory⟩ |
    ⟨_, _, _, _, hhistory⟩
  · exact h sent result ((hhistory sent result).mpr hmem)
  · exact h sent result ((hhistory sent result).mpr hmem)
  · exact h sent result ((hhistory sent result).mpr (Or.inl hmem))

def start (outside : ω) (requiredHardwareMask optionalHardwareMask : UInt32) :
    SupervisorState P ω where
  ctx := (init.configureHardware requiredHardwareMask optionalHardwareMask).2
  world := { outside := outside }

theorem start_sound (outside : ω) (requiredHardwareMask optionalHardwareMask : UInt32) :
    Sound (start outside requiredHardwareMask optionalHardwareMask : SupervisorState P ω) := by
  refine ⟨fun _ => rfl, fun hset => ?_⟩
  have hflag : (init.configureHardware requiredHardwareMask
      optionalHardwareMask).2.systemReadyPublished = false := by
    unfold configureHardware
    simp only
    split
    · rfl
    · split <;> rfl
  exact absurd (hset.symm.trans hflag) (by decide)

/-- Readiness is announced in every state of a run just when every publication of
`EV_SYSTEM_READY` in the run returned `EV_OK`. -/
theorem announced_iff_delivered (port : ActorPort P ω) (outside : ω)
    (requiredHardwareMask optionalHardwareMask : UInt32) (msgs : List Inbound) :
    Machine.Always (step port) Announced (start outside requiredHardwareMask optionalHardwareMask) msgs ↔
      AllDelivered (Machine.run (step port)
        (start outside requiredHardwareMask optionalHardwareMask) msgs) := by
  have hstart : AllDelivered (start outside requiredHardwareMask optionalHardwareMask :
      SupervisorState P ω) := by
    intro sent result hmem
    cases hmem
  exact Machine.always_iff_final Announced AllDelivered (fun s => Sound s ∧ AllDelivered s)
    (fun s h => h.1.after) (fun s msg h => step_forgets port h)
    (fun s msg h hnext => ⟨step_sound port h.1 hnext, hnext⟩)
    (fun s msg h hnext => step_unannounced port h.1 h.2 hnext)
    ⟨start_sound outside requiredHardwareMask optionalHardwareMask, hstart⟩ hstart msgs

def fullMailboxes : ActorPort Unit Unit where
  routes := RouteTable.generated
  deliver := fun _ _ w => (.errFull, w)

/-- Boot and one tick: the only announcement fails, and the flag stays set. -/
theorem announced_fails : ¬Machine.Always (step fullMailboxes) Announced
    (start () supervisorRequiredMask supervisorOptionalMask)
    [{ eventId := .bootCompleted }, { eventId := .tick1s }] := by
  intro h
  obtain ⟨msg, hmsg, _⟩ := h.last (by decide)
  have hnone : (announced (Machine.run (step fullMailboxes)
      (start () supervisorRequiredMask supervisorOptionalMask)
      [{ eventId := .bootCompleted }, { eventId := .tick1s }]).world.history).isNone = true := by
    decide +kernel
  rw [hmsg] at hnone
  cases hnone

end SupervisorActor

end EventFramework
