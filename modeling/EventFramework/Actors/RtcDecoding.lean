import EventFramework.Actors.RtcRegisters

/-!
# The samples of the RTC actor

What `ev_rtc_actor_try_refresh_time` does with an image of the time registers. It takes over every
image whose numbers are in range, and that is every image that encodes a date and a time as long as
the digits are decimal.
-/

namespace EventFramework
set_option autoImplicit false

variable {P ω : Type}

open Calendar (DateTime)

namespace RtcActor

open Ds3231

section Samples

def takenTime (image : Nat → UInt8) : Option TimePayload :=
  let payload := decodeRegisters image
  if payloadIsValid payload then some { payload with unixTime := buildUnixTime payload } else none

/-- What a sample of the time does: it is taken over, and what is published of it carries it. A
call that succeeds publishes what has changed. -/
structure Takes (payload : TimePayload) (s : RtcState P ω) (out : Result × RtcState P ω) : Prop where
  failures : out.2.ctx.readFailures = s.ctx.readFailures
  time : out.2.ctx.lastTime = payload
  published : ∃ sent, out.2.publications = s.publications ++ sent ∧
    (∀ pub ∈ sent, pub.1.eventId = .timeUpdated → pub.1.inlineBytes = payload.bytes) ∧
    (out.1 = .ok → (s.ctx.timeValid = false ∨ s.ctx.lastTime ≠ payload) →
      ∃ pub ∈ sent, pub.1.eventId = .timeUpdated ∧ pub.2 = .ok)

variable (ports : RtcPorts P ω) (payload : TimePayload) (s : RtcState P ω)

theorem publishReady_spec :
    (publishReady ports s).2.ctx = s.ctx ∧
      (publishReady ports s).2.publications =
        s.publications ++ [(ActorWorld.outgoing .rtcReady .rtc none, (publishReady ports s).1)] :=
  ⟨rfl, Running.publications_publishEvent ports.delivery .rtcReady .rtc none (by rfl) s⟩

theorem publishTimeUpdate_spec :
    (publishTimeUpdate ports payload s).2.ctx.readFailures = s.ctx.readFailures ∧
      (publishTimeUpdate ports payload s).2.ctx.lastTime = s.ctx.lastTime ∧
      (publishTimeUpdate ports payload s).2.publications =
        s.publications ++ [(ActorWorld.outgoing .timeUpdated .rtc (some payload.bytes),
          (publishTimeUpdate ports payload s).1)] := by
  have hsent := Running.publications_publishEvent ports.delivery .timeUpdated .rtc
    (some payload.bytes) (by rfl) s
  unfold publishTimeUpdate
  simp only
  split <;> exact ⟨rfl, rfl, hsent⟩

theorem acceptTime_takes : Takes payload s (acceptTime ports payload s) := by
  let accepted := s.setCtx { s.ctx with lastTime := payload, timeValid := true }
  have hupdate (t : RtcState P ω) (earlier : List (Msg P × Result))
      (hctx : t.ctx = accepted.ctx) (ht : t.publications = s.publications ++ earlier)
      (hearlier : ∀ pub ∈ earlier, pub.1.eventId ≠ .timeUpdated) :
      Takes payload s (publishTimeUpdate ports payload t) := by
    obtain ⟨hfailures, htime, hpublished⟩ := publishTimeUpdate_spec ports payload t
    refine ⟨by rw [hfailures, hctx]; rfl, by rw [htime, hctx]; rfl,
      earlier ++ [(ActorWorld.outgoing .timeUpdated .rtc (some payload.bytes),
        (publishTimeUpdate ports payload t).1)], ?_, ?_, ?_⟩
    · rw [hpublished, ht, List.append_assoc]
    · intro pub hpub hevent
      rcases List.mem_append.mp hpub with hold | hnew
      · exact absurd hevent (hearlier pub hold)
      · rw [List.mem_singleton.mp hnew]
        rfl
    · intro hok _
      exact ⟨_, List.mem_append_right _ (List.mem_singleton.mpr rfl), rfl, hok⟩
  unfold acceptTime
  cases hvalid : s.ctx.timeValid with
  | true =>
    simp only [Bool.not_true, Bool.false_eq_true, if_false, ne_eq, not_true_eq_false,
      Bool.false_or, Bool.not_eq_true']
    split
    · rename_i hsame
      have heq : s.ctx.lastTime = payload := by simpa using hsame
      refine ⟨rfl, rfl, [], (List.append_nil _).symm, fun pub hpub => absurd hpub List.not_mem_nil,
        fun _ hchanged => ?_⟩
      rcases hchanged with hinvalid | hdiffers
      · rw [hvalid] at hinvalid
        cases hinvalid
      · exact absurd heq hdiffers
    · exact hupdate accepted [] rfl (List.append_nil _).symm fun pub hpub =>
        absurd hpub List.not_mem_nil
  | false =>
    obtain ⟨hctx, hpublished⟩ := publishReady_spec ports accepted
    simp only [Bool.not_false, Bool.true_or, Bool.not_true, Bool.false_eq_true, if_true, if_false]
    have hready : ∀ pub ∈ [((ActorWorld.outgoing .rtcReady .rtc none : Msg P),
        (publishReady ports accepted).1)], pub.1.eventId ≠ .timeUpdated := by
      intro pub hpub hevent
      rw [List.mem_singleton.mp hpub] at hevent
      cases hevent
    split
    · rename_i hfailed
      have hfailures : (publishReady ports accepted).2.ctx.readFailures = s.ctx.readFailures := by
        rw [hctx]
        rfl
      have htime : (publishReady ports accepted).2.ctx.lastTime = payload := by
        rw [hctx]
        rfl
      exact ⟨hfailures, htime, _, hpublished,
        fun pub hpub hevent => absurd hevent (hready pub hpub), fun hok => absurd hok hfailed⟩
    · exact hupdate _ _ hctx hpublished hready

variable {image : Nat → UInt8} (fallbackPoll : Bool)

/-- The bus answers the next read of the time registers with the image. -/
def Reads (image : Nat → UInt8) : Prop :=
  (ports.i2c.readRegs s.ctx.device 0x00 7 s.world.outside).1 = (.ok, image)

/-- The sample is not counted as a failed read. -/
def Accepts : Prop := (tryRefreshTime ports fallbackPoll s).2.ctx.readFailures = s.ctx.readFailures

theorem readTimePayload_eq (hread : Reads ports s image) :
    (readTimePayload ports s).1 = (.ok, (takenTime image).getD (decodeRegisters image)) ∧
      (readTimePayload ports s).2.ctx = s.ctx ∧
      (readTimePayload ports s).2.publications = s.publications := by
  let out := DeviceState.readRegs ports.i2c s.ctx.device 0x00 7 s
  have hout : out.1 = (.ok, image) := hread
  have hctx : out.2.ctx = s.ctx := rfl
  have hpublications : out.2.publications = s.publications := by
    refine List.filterMap_append.trans ?_
    exact List.append_nil _
  have hread' : readTimePayload ports s =
      if out.1.1 ≠ .ok then ((.errState, {}), out.2)
      else if !payloadIsValid (decodeRegisters out.1.2) then ((.ok, decodeRegisters out.1.2), out.2)
      else ((.ok, { decodeRegisters out.1.2 with
        unixTime := buildUnixTime (decodeRegisters out.1.2) }), out.2) := rfl
  rw [hread', hout]
  unfold takenTime
  cases hvalid : payloadIsValid (decodeRegisters image) <;>
    simp [hvalid, hctx, hpublications]

/-- The state after the count of the fallback poll differs in nothing that a sample reads. -/
theorem payloadIsValid_unixTime (payload : TimePayload) (unixTime : UInt32) :
    payloadIsValid { payload with unixTime := unixTime } = payloadIsValid payload := rfl

theorem tryRefreshTime_start :
    ∃ t : RtcState P ω, (t.world = s.world ∧ t.ctx.device = s.ctx.device) ∧
      t.ctx.readFailures = s.ctx.readFailures ∧ t.ctx.timeValid = s.ctx.timeValid ∧
      t.ctx.lastTime = s.ctx.lastTime ∧
      tryRefreshTime ports fallbackPoll s =
        if (readTimePayload ports t).1.1 ≠ .ok ∨
            payloadIsValid (readTimePayload ports t).1.2 = false then
          (.ok, (readTimePayload ports t).2.setCtx { (readTimePayload ports t).2.ctx with
            readFailures := (readTimePayload ports t).2.ctx.readFailures + 1 })
        else acceptTime ports (readTimePayload ports t).1.2 (readTimePayload ports t).2 := by
  cases fallbackPoll with
  | false => exact ⟨s, ⟨rfl, rfl⟩, rfl, rfl, rfl, rfl⟩
  | true =>
    exact ⟨s.setCtx { s.ctx with fallbackPolls := s.ctx.fallbackPolls + 1 }, ⟨rfl, rfl⟩, rfl, rfl,
      rfl, rfl⟩

theorem tryRefreshTime_rejects (hread : Reads ports s image) (hnone : takenTime image = none) :
    (tryRefreshTime ports fallbackPoll s).2.ctx.readFailures = s.ctx.readFailures + 1 := by
  have hinvalid : payloadIsValid (decodeRegisters image) = false := by
    unfold takenTime at hnone
    simpa using hnone
  obtain ⟨t, ⟨hworld, hdevice⟩, hfailures, _, _, heq⟩ := tryRefreshTime_start ports s fallbackPoll
  have ht : Reads ports t image := by
    rw [Reads, hworld, hdevice]
    exact hread
  obtain ⟨hresult, hctx, _⟩ := readTimePayload_eq ports t ht
  rw [hnone, Option.getD_none] at hresult
  rw [heq, if_pos (Or.inr (by rw [hresult]; exact hinvalid)), hctx]
  exact congrArg (· + 1) hfailures

theorem tryRefreshTime_takes {payload : TimePayload} (hread : Reads ports s image)
    (htaken : takenTime image = some payload) :
    Takes payload s (tryRefreshTime ports fallbackPoll s) := by
  have hvalid : payloadIsValid payload = true := by
    unfold takenTime at htaken
    simp only at htaken
    split at htaken
    · rename_i hvalid
      rw [← Option.some.inj htaken, payloadIsValid_unixTime]
      exact hvalid
    · cases htaken
  obtain ⟨t, ⟨hworld, hdevice⟩, hfailures, hwas, hlast, heq⟩ :=
    tryRefreshTime_start ports s fallbackPoll
  have ht : Reads ports t image := by
    rw [Reads, hworld, hdevice]
    exact hread
  obtain ⟨hresult, hctx, hpublications⟩ := readTimePayload_eq ports t ht
  rw [htaken, Option.getD_some] at hresult
  have htakes := acceptTime_takes ports payload (readTimePayload ports t).2
  have hbefore : t.publications = s.publications := by
    rw [Running.publications, hworld]
    rfl
  have hpublished := htakes.published
  rw [hpublications, hbefore, hctx, hwas, hlast] at hpublished
  rw [heq, if_neg (by rw [hresult]; simp [hvalid]), hresult]
  exact ⟨by rw [htakes.failures, hctx, hfailures], htakes.time, hpublished⟩

theorem takenTime_eq_some_iff {payload : TimePayload} :
    takenTime image = some payload ↔
      InRange image ∧
        payload = { decodeRegisters image with unixTime := buildUnixTime (decodeRegisters image) } := by
  rw [← valid_decodeRegisters_iff]
  unfold takenTime
  simp only
  split
  · rename_i hvalid
    rw [Option.some_inj]
    exact ⟨fun h => ⟨hvalid, h.symm⟩, fun h => h.2.symm⟩
  · rename_i hinvalid
    exact ⟨fun h => absurd h (by simp), fun h => absurd h.1 hinvalid⟩

theorem accepts_iff (hread : Reads ports s image) : Accepts ports s fallbackPoll ↔ InRange image := by
  cases htaken : takenTime image with
  | none =>
    have hrejects := tryRefreshTime_rejects ports s fallbackPoll hread htaken
    have hout : ¬InRange image := fun hrange => by
      have hsome := takenTime_eq_some_iff.mpr ⟨hrange, rfl⟩
      rw [htaken] at hsome
      cases hsome
    have hmore : s.ctx.readFailures + 1 ≠ s.ctx.readFailures := by
      intro heq
      have hword := s.ctx.readFailures.toNat_lt
      have hnat := congrArg UInt32.toNat heq
      rw [UInt32.toNat_add] at hnat
      have hone : (1 : UInt32).toNat = 1 := rfl
      omega
    refine iff_of_false (fun haccepts => hmore ?_) hout
    exact hrejects.symm.trans haccepts
  | some payload =>
    exact iff_of_true (tryRefreshTime_takes ports s fallbackPoll hread htaken).failures
      (takenTime_eq_some_iff.mp htaken).1

end Samples

/-- The actor accepts an image just when it encodes a date and a time, and publishes these. -/
def DecodesExactly (image : Nat → UInt8) : Prop :=
  ∀ (P ω : Type) (ports : RtcPorts P ω) (s : RtcState P ω) (fallbackPoll : Bool),
    Reads ports s image →
      (Accepts ports s fallbackPoll ↔ ∃ moment weekday, Encodes image moment weekday) ∧
      ∀ moment weekday, Encodes image moment weekday →
        ∃ payload : TimePayload, payload.Shows moment weekday ∧
          Takes payload s (tryRefreshTime ports fallbackPoll s)

/-- An image that encodes is in range, and what the actor takes from it shows what it encodes. -/
theorem encodes_taken {image : Nat → UInt8} {moment : DateTime} {weekday : Nat}
    (h : Encodes image moment weekday) :
    ∃ payload, takenTime image = some payload ∧ payload.Shows moment weekday := by
  obtain ⟨_, hone, hshows⟩ := encodes_iff.mp h
  have hweekday := h.weekday.1
  have hvalid := (exists_shows_iff _).mpr ⟨moment, weekday, hone, by omega, hshows⟩
  exact ⟨_, takenTime_eq_some_iff.mpr ⟨(valid_decodeRegisters_iff image).mp hvalid, rfl⟩,
    ⟨hshows.year, hshows.month, hshows.day, hshows.weekday, hshows.hours, hshows.minutes,
      hshows.seconds⟩⟩

theorem encodes_of_decimal {image : Nat → UInt8} (hrange : InRange image) (hdecimal : Decimal image) :
    ∃ moment weekday, Encodes image moment weekday := by
  obtain ⟨moment, weekday, hone, _, hshows⟩ :=
    (exists_shows_iff _).mp ((valid_decodeRegisters_iff image).mpr hrange)
  exact ⟨moment, weekday, encodes_iff.mpr ⟨hdecimal, hone, hshows⟩⟩

def imagePorts (image : Nat → UInt8) : RtcPorts Unit Unit where
  i2c := {
    writeStream := fun _ _ w => (.ok, w)
    writeRegs := fun _ _ _ w => (.ok, w)
    readRegs := fun _ _ _ w => ((.ok, image), w) }
  irq := { enable := fun _ _ w => (.ok, w) }
  delivery := { routes := RouteTable.generated, deliver := fun _ _ w => (.ok, w) }

/-- An image in range with a digit that is not decimal is accepted and encodes nothing. -/
theorem not_decodes {image : Nat → UInt8} (hrange : InRange image) (hdigits : ¬Decimal image) :
    ¬DecodesExactly image := by
  intro h
  let s : RtcState Unit Unit := .start (fresh ⟨0, 0x68⟩ 0) ()
  have hread : Reads (imagePorts image) s image := rfl
  obtain ⟨moment, weekday, hencodes⟩ :=
    (h Unit Unit (imagePorts image) s false hread).1.mp
      ((accepts_iff (imagePorts image) s false hread).mpr hrange)
  exact hdigits (encodes_iff.mp hencodes).1

/-- The registers are decoded exactly just when they are out of range or have decimal digits, with
an hour of 1 to 12 in 12-hour mode. -/
theorem decodes_iff (image : Nat → UInt8) : DecodesExactly image ↔ (InRange image → Decimal image) := by
  constructor
  · intro h hrange
    by_contra hdigits
    exact not_decodes hrange hdigits h
  · intro h P ω ports s fallbackPoll hread
    refine ⟨?_, fun moment weekday hencodes => ?_⟩
    · rw [accepts_iff ports s fallbackPoll hread]
      constructor
      · exact fun hrange => encodes_of_decimal hrange (h hrange)
      · rintro ⟨moment, weekday, hencodes⟩
        obtain ⟨payload, htaken, _⟩ := encodes_taken hencodes
        exact (takenTime_eq_some_iff.mp htaken).1
    · obtain ⟨payload, htaken, hshows⟩ := encodes_taken hencodes
      exact ⟨payload, hshows, tryRefreshTime_takes ports s fallbackPoll hread htaken⟩

/-- Seconds of `0x1A` are taken for twenty. -/
theorem not_decodes_seconds :
    ¬DecodesExactly fun i => [0x1A, 0x00, 0x00, 0x01, 0x01, 0x01, 0x24].getD i 0 := by
  apply not_decodes
  · exact ⟨by decide, by decide, by decide, by decide, by decide, by decide⟩
  · exact fun h => absurd h.second.2 (by decide)

end RtcActor

end EventFramework
