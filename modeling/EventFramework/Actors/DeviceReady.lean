import EventFramework.Actors.RtcActor
import EventFramework.Actors.Ds18b20Actor
import EventFramework.Actors.OledActor

/-!
# The readiness of a device

The RTC, DS18B20 and OLED actors raise the flag of their ready point before they publish their
READY event, and the flag keeps them from publishing it again. Whether a raised flag stands for
a delivered event is settled by the first attempt of a run.
-/

namespace EventFramework
set_option autoImplicit false

variable {A P ω : Type}

/-- A step that makes at most one attempt to publish `eventId`. The ready point is not entered
without an attempt, and a failed attempt leaves the actor past it. -/
def ReadyStep (eventId : EventId) (ready : A → Prop) (s s' : DeviceState A P ω) : Prop :=
  (s'.results eventId = s.results eventId ∧ (ready s'.ctx → ready s.ctx)) ∨
  ∃ r, s'.results eventId = s.results eventId ++ [r] ∧ (r ≠ .ok → ready s'.ctx)

/-- Past the ready point the READY event was published with `EV_OK`. -/
def ReadyKept (eventId : EventId) (ready : A → Prop) (s : DeviceState A P ω) : Prop :=
  ready s.ctx → .ok ∈ s.results eventId

/-- The first publication of `eventId`, if there was one, returned `EV_OK`. -/
def FirstDelivered (eventId : EventId) (s : DeviceState A P ω) : Prop :=
  ∀ r, (s.results eventId).head? = some r → r = .ok

namespace ReadyStep

variable {eventId : EventId} {ready : A → Prop} {s t u : DeviceState A P ω}

theorem quiet (hresults : t.results eventId = s.results eventId) (hready : ready t.ctx → ready s.ctx) :
    ReadyStep eventId ready s t :=
  Or.inl ⟨hresults, hready⟩

theorem before (hresults : t.results eventId = s.results eventId) (hready : ready t.ctx → ready s.ctx)
    (h : ReadyStep eventId ready t u) : ReadyStep eventId ready s u := by
  rcases h with ⟨hsame, hback⟩ | ⟨r, hmore, hraised⟩
  · exact Or.inl ⟨hsame.trans hresults, fun hu => hready (hback hu)⟩
  · exact Or.inr ⟨r, by rw [hmore, hresults], hraised⟩

theorem after (h : ReadyStep eventId ready s t) (hresults : u.results eventId = t.results eventId)
    (hready : ready u.ctx ↔ ready t.ctx) : ReadyStep eventId ready s u := by
  rcases h with ⟨hsame, hback⟩ | ⟨r, hmore, hraised⟩
  · exact Or.inl ⟨hresults.trans hsame, fun hu => hback (hready.mp hu)⟩
  · exact Or.inr ⟨r, hresults.trans hmore, fun hr => hready.mpr (hraised hr)⟩

theorem step {handle : DeviceState A P ω → Inbound → Result × DeviceState A P ω}
    (h : ∀ s msg, ReadyStep eventId ready s (handle s msg).2) (s : DeviceState A P ω) (msg : Inbound) :
    ReadyStep eventId ready s (Running.step handle s msg) := by
  have hhandled := (h (s.note (.received msg)) msg).before (Running.results_received eventId s msg) id
  exact hhandled.after (Running.results_returned eventId _ _) Iff.rfl

end ReadyStep

namespace RtcActor

def IsReady (ctx : RtcActor) : Prop := ctx.timeValid = true

theorem publishTimeUpdate_keeps (ports : RtcPorts P ω) (payload : TimePayload) (s : RtcState P ω) :
    (publishTimeUpdate ports payload s).2.results .rtcReady = s.results .rtcReady ∧
      (publishTimeUpdate ports payload s).2.ctx.timeValid = s.ctx.timeValid := by
  obtain ⟨hctx, hresults⟩ := Running.results_publishEvent ports.delivery .rtcReady .timeUpdated .rtc
    (some payload.bytes) (by rfl) s
  rw [if_neg EventId.noConfusion, List.append_nil] at hresults
  unfold publishTimeUpdate
  simp only
  split
  · exact ⟨hresults, by rw [hctx]; rfl⟩
  · exact ⟨hresults, by rw [hctx]⟩

theorem acceptTime_ready (ports : RtcPorts P ω) (payload : TimePayload) (s : RtcState P ω) :
    ReadyStep .rtcReady IsReady s (acceptTime ports payload s).2 := by
  let accepted := s.setCtx { s.ctx with lastTime := payload, timeValid := true }
  cases hvalid : s.ctx.timeValid with
  | true =>
    unfold acceptTime
    simp only [hvalid, Bool.not_true, Bool.false_eq_true, if_false, ne_eq, not_true_eq_false]
    split
    · exact .quiet rfl fun _ => hvalid
    · exact .quiet (publishTimeUpdate_keeps ports payload accepted).1 fun _ => hvalid
  | false =>
    obtain ⟨hctx, hresults⟩ := Running.results_publishEvent ports.delivery .rtcReady .rtcReady .rtc none
      (by rfl) accepted
    rw [if_pos rfl] at hresults
    have hset : (publishReady ports accepted).2.ctx.timeValid = true := by
      rw [publishReady, hctx]
      rfl
    have hattempt : ReadyStep .rtcReady IsReady s (publishReady ports accepted).2 :=
      Or.inr ⟨_, hresults, fun _ => hset⟩
    obtain ⟨hkept, hstays⟩ := publishTimeUpdate_keeps ports payload (publishReady ports accepted).2
    unfold acceptTime
    simp only [hvalid, Bool.not_false, Bool.true_or, Bool.not_true, Bool.false_eq_true, if_true, if_false]
    split
    · exact hattempt
    · exact hattempt.after hkept (by rw [IsReady, IsReady, hstays])

theorem tryRefreshTime_ready (ports : RtcPorts P ω) (fallbackPoll : Bool) (s : RtcState P ω) :
    ReadyStep .rtcReady IsReady s (tryRefreshTime ports fallbackPoll s).2 := by
  generalize hpoll : (if fallbackPoll = true then
    s.setCtx { s.ctx with fallbackPolls := s.ctx.fallbackPolls + 1 } else s) = polled
  have hsame : polled.results .rtcReady = s.results .rtcReady ∧
      polled.ctx.timeValid = s.ctx.timeValid := by
    rw [← hpoll]
    split <;> exact ⟨rfl, rfl⟩
  have hread : (readTimePayload ports polled).2.ctx = polled.ctx ∧
      polled.OnlyCalls (readTimePayload ports polled).2 := by
    have hcall : polled.OnlyCalls (DeviceState.readRegs ports.i2c polled.ctx.device 0x00 7 polled).2 :=
      Running.onlyCalls_call _ _ polled
    unfold readTimePayload
    simp only
    split
    · exact ⟨rfl, hcall⟩
    · split <;> exact ⟨rfl, hcall⟩
  have hresults := (hread.2.results .rtcReady).trans hsame.1
  have hvalid : (readTimePayload ports polled).2.ctx.timeValid = s.ctx.timeValid := by
    rw [hread.1, hsame.2]
  unfold tryRefreshTime
  simp only [hpoll]
  split
  · exact .quiet hresults fun h => hvalid.symm.trans h
  · exact (acceptTime_ready ports _ _).before hresults fun h => hvalid.symm.trans h

theorem handle_ready (ports : RtcPorts P ω) (s : RtcState P ω) (msg : Inbound) :
    ReadyStep .rtcReady IsReady s (handle ports s msg).2 := by
  unfold handle
  split
  · exact tryRefreshTime_ready ports false s
  · have hcalls : (enableSquareWave ports s).2.ctx = s.ctx ∧ s.OnlyCalls (enableSquareWave ports s).2 := by
      have hwrite : s.OnlyCalls (DeviceState.writeRegs ports.i2c s.ctx.device 0x0E [0x00] s).2 :=
        Running.onlyCalls_call _ _ s
      unfold enableSquareWave
      simp only
      split
      · exact ⟨rfl, hwrite⟩
      · exact ⟨rfl, hwrite.trans (Running.onlyCalls_call _ _ _)⟩
    exact .quiet (hcalls.2.results .rtcReady) fun h => by
      have hsame := congrArg timeValid hcalls.1
      exact hsame.symm.trans h
  · unfold handleGpioIrq
    split
    · exact .quiet rfl id
    · split
      · exact .quiet rfl id
      · split
        · exact .quiet rfl id
        · exact (tryRefreshTime_ready ports false _).before rfl id
  · simp only
    split
    · exact (tryRefreshTime_ready ports true _).before rfl id
    · exact .quiet rfl id
  · exact .quiet rfl id

end RtcActor

namespace Ds18b20Actor

def IsReady (ctx : Ds18b20Actor) : Prop := ctx.tempValid = true

theorem recordStartResult_tempValid (ctx : Ds18b20Actor) (status : Result) :
    (ctx.recordStartResult status).tempValid = ctx.tempValid := by
  unfold recordStartResult
  split
  · rfl
  · simp only
    split <;> rfl

theorem recordReadFailure_tempValid (ctx : Ds18b20Actor) (rc : Result) :
    (ctx.recordReadFailure rc).tempValid = ctx.tempValid := by
  unfold recordReadFailure
  simp only
  split
  · rfl
  · split
    · rfl
    · split <;> rfl

theorem publishTemperature_keeps (ports : Ds18b20Ports P ω) (centiCelsius : Int16)
    (s : Ds18b20State P ω) :
    (publishTemperature ports centiCelsius s).2.results .ds18b20Ready = s.results .ds18b20Ready ∧
      (publishTemperature ports centiCelsius s).2.ctx = s.ctx := by
  obtain ⟨hctx, hresults⟩ := Running.results_publishEvent ports.delivery .ds18b20Ready .tempUpdated
    .ds18b20 (some [centiCelsius.toUInt16.toUInt8, (centiCelsius.toUInt16 >>> 8).toUInt8]) (by rfl) s
  rw [if_neg EventId.noConfusion, List.append_nil] at hresults
  exact ⟨hresults, hctx⟩

theorem acceptTemperature_ready (ports : Ds18b20Ports P ω) (centiCelsius : Int16)
    (s : Ds18b20State P ω) :
    ReadyStep .ds18b20Ready IsReady s (acceptTemperature ports centiCelsius s).2 := by
  let accepted := s.setCtx { s.ctx with
    sensorPresent := true
    lastReadOk := true
    tempValid := true
    lastCentiCelsius := centiCelsius
    scratchpadReadsOk := s.ctx.scratchpadReadsOk + 1 }
  cases hvalid : s.ctx.tempValid with
  | true =>
    obtain ⟨hresults, _⟩ := publishTemperature_keeps ports centiCelsius accepted
    unfold acceptTemperature
    simp only [hvalid, Bool.not_true, Bool.false_eq_true, if_false, ne_eq, not_true_eq_false]
    exact .quiet hresults fun _ => hvalid
  | false =>
    obtain ⟨hctx, hresults⟩ := Running.results_publishEvent ports.delivery .ds18b20Ready .ds18b20Ready
      .ds18b20 none (by rfl) accepted
    rw [if_pos rfl] at hresults
    have hset : (publishReady ports accepted).2.ctx.tempValid = true := by
      rw [publishReady, hctx]
      rfl
    have hattempt : ReadyStep .ds18b20Ready IsReady s (publishReady ports accepted).2 :=
      Or.inr ⟨_, hresults, fun _ => hset⟩
    obtain ⟨hkept, hstays⟩ := publishTemperature_keeps ports centiCelsius (publishReady ports accepted).2
    unfold acceptTemperature
    simp only [hvalid, Bool.not_false, if_true]
    split
    · exact hattempt
    · exact hattempt.after hkept (by rw [hstays])

theorem tryRead_ready (ports : Ds18b20Ports P ω) (s : Ds18b20State P ω) :
    ReadyStep .ds18b20Ready IsReady s (tryRead ports s).2 := by
  obtain ⟨hctx, hcalls⟩ := readTemperature_quiet ports (s.setCtx { s.ctx with conversionPending := false })
  have hresults := hcalls.results .ds18b20Ready
  have hvalid := congrArg tempValid hctx
  generalize hread : readTemperature ports (s.setCtx { s.ctx with conversionPending := false }) = read
    at hctx hcalls hresults hvalid
  have hpublished : ReadyStep .ds18b20Ready IsReady s
      (if read.1.1 = .ok then acceptTemperature ports read.1.2 read.2
        else (.ok, read.2.setCtx (read.2.ctx.recordReadFailure read.1.1))).2 := by
    split
    · exact (acceptTemperature_ready ports _ _).before hresults fun h => hvalid.symm.trans h
    · refine .quiet hresults fun h => ?_
      rw [IsReady, Running.setCtx, recordReadFailure_tempValid] at h
      exact hvalid.symm.trans h
  unfold tryRead
  by_cases hpending : (!s.ctx.conversionPending) = true
  · rw [if_pos hpending]
    exact .quiet rfl id
  · rw [if_neg hpending]
    by_cases hdue : (!deadlineDue s.ctx.actorNowMs s.ctx.conversionDeadlineMs) = true
    · rw [if_pos hdue]
      exact .quiet rfl id
    · rw [if_neg hdue]
      simp only [hread]
      generalize (if read.1.1 = .ok then acceptTemperature ports read.1.2 read.2
        else (.ok, read.2.setCtx (read.2.ctx.recordReadFailure read.1.1))) = published
        at hpublished ⊢
      split
      · obtain ⟨hsame, hrestart⟩ :=
          Ds18b20Driver.startConversionSkipRom_quiet ports.onewire published.2
        refine hpublished.after (hrestart.results .ds18b20Ready) ?_
        rw [IsReady, IsReady, Running.setCtx, recordStartResult_tempValid, hsame]
      · exact hpublished

theorem handle_ready (ports : Ds18b20Ports P ω) (s : Ds18b20State P ω) (msg : Inbound) :
    ReadyStep .ds18b20Ready IsReady s (handle ports s msg).2 := by
  unfold handle
  split
  · obtain ⟨hctx, hcalls⟩ := Ds18b20Driver.startConversionSkipRom_quiet ports.onewire s
    refine .quiet (hcalls.results .ds18b20Ready) fun h => ?_
    rw [handleBoot, startConversion, IsReady, Running.setCtx, recordStartResult_tempValid, hctx] at h
    exact h
  · refine (tryRead_ready ports _).before (Running.results_setCtx _ s _) fun h => ?_
    change s.ctx.tempValid = true
    exact h
  · refine (tryRead_ready ports _).before (Running.results_setCtx _ s _) fun h => ?_
    change s.ctx.tempValid = true
    exact h
  · exact .quiet rfl id

theorem step_ready (ports : Ds18b20Ports P ω) (s : Ds18b20State P ω) (input : Ds18b20Input) :
    ReadyStep .ds18b20Ready IsReady s (step ports s input) := by
  cases input with
  | message msg => exact ReadyStep.step (handle_ready ports) s msg
  | configureResolution resolutionBits =>
    refine .quiet rfl fun h => ?_
    have hsame : (s.ctx.configureResolution resolutionBits).2.tempValid = s.ctx.tempValid := by
      unfold configureResolution
      split
      · rfl
      · split <;> rfl
    exact hsame.symm.trans h

end Ds18b20Actor

namespace OledActor

def IsReady (ctx : OledActor) : Prop := ctx.state = .ready

theorem Transfers.results {s s' : OledState P ω} (h : Transfers s s') :
    s'.results .oledReady = s.results .oledReady :=
  h.1.results .oledReady

theorem Transfers.state {s s' : OledState P ω} (h : Transfers s s') : s'.ctx.state = s.ctx.state := by
  obtain ⟨_, _, _, hctx⟩ := h
  rw [hctx]

theorem flushPending_quiet (ports : OledPorts P ω) (s : OledState P ω) :
    (flushPending ports s).2.results .oledReady = s.results .oledReady ∧
      (IsReady (flushPending ports s).2.ctx → IsReady s.ctx) := by
  unfold flushPending
  split
  · exact ⟨rfl, id⟩
  · have hpages := flushPages_transfers ports (List.range oledPageCount) (s.setCtx { s.ctx with
      stats := { s.ctx.stats with flushAttempts := s.ctx.stats.flushAttempts + 1 } })
    simp only
    split
    · exact ⟨hpages.results, fun h => by cases h⟩
    · exact ⟨hpages.results, fun h => hpages.state.symm.trans h⟩

theorem enterReady_ready (ports : OledPorts P ω) (s : OledState P ω) :
    ReadyStep .oledReady IsReady s (enterReady ports s).2 := by
  generalize hentered : (s.setCtx { s.ctx with
    state := .ready
    stats := { s.ctx.stats with initSuccesses := s.ctx.stats.initSuccesses + 1 } }) = entered
  have hbefore : entered.results .oledReady = s.results .oledReady ∧ IsReady entered.ctx := by
    rw [← hentered]
    exact ⟨rfl, rfl⟩
  obtain ⟨hctx, hresults⟩ := Running.results_publishEvent ports.delivery .oledReady .oledReady .oled none
    (by rfl) entered
  rw [if_pos rfl, hbefore.1] at hresults
  obtain ⟨hflush, _⟩ := flushPending_quiet ports (publishReady ports entered).2
  unfold enterReady
  simp only [hentered]
  split
  · refine Or.inr ⟨_, hresults, fun _ => ?_⟩
    rw [publishReady, hctx]
    exact hbefore.2
  · rename_i hdelivered
    have hok := not_not.mp hdelivered
    split
    · exact Or.inr ⟨_, hflush.trans hresults, fun hr => absurd hok hr⟩
    · exact Or.inr ⟨_, hresults, fun hr => absurd hok hr⟩

theorem syncFullFramebuffer_quiet (ports : OledPorts P ω) (s : OledState P ω) :
    (syncFullFramebuffer ports s).2.results .oledReady = s.results .oledReady ∧
      (IsReady (syncFullFramebuffer ports s).2.ctx → IsReady s.ctx) := by
  have hpages := syncPages_transfers ports (List.range oledPageCount) s
  unfold syncFullFramebuffer
  simp only
  split
  · exact ⟨hpages.results, fun h => by cases h⟩
  · exact ⟨hpages.results, fun h => hpages.state.symm.trans h⟩

theorem tryInitialize_ready (ports : OledPorts P ω) (s : OledState P ω) :
    ReadyStep .oledReady IsReady s (tryInitialize ports s).2 := by
  generalize hcounted : (s.setCtx { s.ctx with
    stats := { s.ctx.stats with initAttempts := s.ctx.stats.initAttempts + 1 } }) = counted
  have hsame : counted.results .oledReady = s.results .oledReady ∧ counted.ctx.state = s.ctx.state := by
    rw [← hcounted]
    exact ⟨rfl, rfl⟩
  have hcommands := sendCommands_transfers ports (initSequence s.ctx.controller) counted
  obtain ⟨hsync, hback⟩ := syncFullFramebuffer_quiet ports
    (sendCommands ports (initSequence s.ctx.controller) counted).2
  have hresults := hsync.trans (hcommands.results.trans hsame.1)
  have hready := fun h => hsame.2.symm.trans (hcommands.state.symm.trans (hback h))
  unfold tryInitialize
  simp only [hcounted]
  split
  · exact .quiet (hcommands.results.trans hsame.1) fun h => by cases h
  · split
    · exact .quiet hresults fun h => by cases h
    · exact (enterReady_ready ports _).before hresults hready

theorem commitStaged_quiet (ports : OledPorts P ω) (s : OledState P ω) :
    (commitStaged ports s).2.results .oledReady = s.results .oledReady ∧
      (IsReady (commitStaged ports s).2.ctx → IsReady s.ctx) := by
  unfold commitStaged
  split
  · exact ⟨rfl, id⟩
  · split
    · exact ⟨rfl, id⟩
    · exact flushPending_quiet ports s

theorem markDirty_state (ctx : OledActor) (page startColumn endColumn : Nat) :
    (ctx.markDirty page startColumn endColumn).state = ctx.state := by
  unfold markDirty
  split <;> rfl

theorem foldl_markColumn_state (page : Nat) (columns : List Nat) :
    ∀ ctx : OledActor, (columns.foldl (markColumn page) ctx).state = ctx.state := by
  induction columns with
  | nil => exact fun _ => rfl
  | cons column columns ih =>
    intro ctx
    rw [List.foldl_cons, ih, markColumn]
    split
    · exact markDirty_state ctx _ _ _
    · rfl

theorem foldl_markPage_state (pages : List Nat) :
    ∀ ctx : OledActor, (pages.foldl markPage ctx).state = ctx.state := by
  induction pages with
  | nil => exact fun _ => rfl
  | cons page pages ih =>
    intro ctx
    rw [List.foldl_cons, ih, markPage, foldl_markColumn_state]

theorem prepareSceneCommit_state (ctx : OledActor) (scene : OledScene) :
    (ctx.prepareSceneCommit scene).2.state = ctx.state := by
  unfold prepareSceneCommit
  split
  · rfl
  · generalize (if scene.flags &&& 0x01 ≠ 0 then
      renderLines scene (List.range oledSceneLineCount) fun _ _ => 0
      else (.ok, fun _ _ => 0) : Result × Framebuffer) = staged
    simp only
    split
    · rfl
    · rw [foldl_markPage_state]
      rfl

theorem seedStaging_state (ctx : OledActor) : ctx.seedStaging.state = ctx.state := by
  unfold seedStaging
  split <;> rfl

theorem handleDisplayText_quiet (s : OledState P ω) (msg : Inbound) :
    (handleDisplayText s msg).2.results .oledReady = s.results .oledReady ∧
      (handleDisplayText s msg).2.ctx.state = s.ctx.state := by
  unfold handleDisplayText
  split
  · exact ⟨rfl, rfl⟩
  · simp only
    split
    · exact ⟨rfl, rfl⟩
    · split
      · exact ⟨rfl, seedStaging_state s.ctx⟩
      · refine ⟨rfl, ?_⟩
        rw [Running.setCtx, markDirty_state]
        exact seedStaging_state s.ctx

theorem handleCommitFrame_quiet (ports : OledPorts P ω) (s : OledState P ω) (msg : Inbound) :
    (handleCommitFrame ports s msg).2.results .oledReady = s.results .oledReady ∧
      (IsReady (handleCommitFrame ports s msg).2.ctx → IsReady s.ctx) := by
  unfold handleCommitFrame
  split
  · exact commitStaged_quiet ports s
  · rename_i payload _
    have hstate := prepareSceneCommit_state s.ctx (readScene payload)
    split
    · exact commitStaged_quiet ports s
    · split
      · exact ⟨rfl, id⟩
      · simp only
        split
        · exact ⟨rfl, fun h => hstate.symm.trans h⟩
        · obtain ⟨hresults, hback⟩ := commitStaged_quiet ports
            (s.setCtx (s.ctx.prepareSceneCommit (readScene payload)).2)
          exact ⟨hresults, fun h => hstate.symm.trans (hback h)⟩

theorem handleTick_ready (ports : OledPorts P ω) (s : OledState P ω) :
    ReadyStep .oledReady IsReady s (handleTick ports s).2 := by
  unfold handleTick
  simp only
  split
  · exact .quiet rfl id
  · split
    · split
      · obtain ⟨hresults, hback⟩ := flushPending_quiet ports (s.setCtx { s.ctx with
          tickCounter := s.ctx.tickCounter + 1
          stats := { s.ctx.stats with tickEventsSeen := s.ctx.stats.tickEventsSeen + 1 } })
        exact .quiet hresults hback
      · exact .quiet rfl id
    · exact (tryInitialize_ready ports _).before rfl id
    · split
      · exact .quiet rfl id
      · exact (tryInitialize_ready ports _).before rfl id
    · exact .quiet rfl id

theorem handle_ready (ports : OledPorts P ω) (s : OledState P ω) (msg : Inbound) :
    ReadyStep .oledReady IsReady s (handle ports s msg).2 := by
  unfold handle
  split
  · exact (tryInitialize_ready ports _).before rfl id
  · exact handleTick_ready ports s
  · obtain ⟨hresults, hstate⟩ := handleDisplayText_quiet s msg
    exact .quiet hresults fun h => hstate.symm.trans h
  · obtain ⟨hresults, hback⟩ := handleCommitFrame_quiet ports s msg
    exact .quiet hresults hback
  · exact .quiet rfl id

end OledActor

/-- Past the ready point the READY event was delivered in every state of a run just when the first
attempt to publish it, if there was one, succeeded. -/
theorem ready_kept_iff :
    (∀ (ports : RtcPorts P ω) (device : I2cDevice) (sqwLineId : UInt8) (outside : ω)
        (msgs : List Inbound),
      Machine.Always (RtcActor.step ports) (ReadyKept .rtcReady RtcActor.IsReady)
          (.start (.fresh device sqwLineId) outside) msgs ↔
        FirstDelivered .rtcReady
          (Machine.run (RtcActor.step ports) (.start (.fresh device sqwLineId) outside) msgs)) ∧
    (∀ (ports : Ds18b20Ports P ω) (outside : ω) (inputs : List Ds18b20Input),
      Machine.Always (Ds18b20Actor.step ports) (ReadyKept .ds18b20Ready Ds18b20Actor.IsReady)
          (.start Ds18b20Actor.init outside) inputs ↔
        FirstDelivered .ds18b20Ready
          (Machine.run (Ds18b20Actor.step ports) (.start Ds18b20Actor.init outside) inputs)) ∧
    (∀ (ports : OledPorts P ω) (device : I2cDevice) (controller : OledController) (outside : ω)
        (msgs : List Inbound),
      Machine.Always (OledActor.step ports) (ReadyKept .oledReady OledActor.IsReady)
          (.start (.fresh device controller) outside) msgs ↔
        FirstDelivered .oledReady
          (Machine.run (OledActor.step ports) (.start (.fresh device controller) outside) msgs)) := by
  refine ⟨?_, ?_, ?_⟩
  · intro ports device sqwLineId outside msgs
    exact Machine.always_iff_first (fun s : RtcState P ω => s.ctx.IsReady) (Running.results .rtcReady) .ok
      (ReadyStep.step (RtcActor.handle_ready ports)) rfl (by intro h; cases h) msgs
  · intro ports outside inputs
    exact Machine.always_iff_first (fun s : Ds18b20State P ω => s.ctx.IsReady)
      (Running.results .ds18b20Ready) .ok (Ds18b20Actor.step_ready ports) rfl (by intro h; cases h) inputs
  · intro ports device controller outside msgs
    exact Machine.always_iff_first (fun s : OledState P ω => s.ctx.IsReady) (Running.results .oledReady)
      .ok (ReadyStep.step (OledActor.handle_ready ports)) rfl (by intro h; cases h) msgs

/-- An I2C bus whose registers all read one, which is a valid time. -/
def onesI2c : I2cPort Unit where
  writeStream := fun _ _ w => (.ok, w)
  writeRegs := fun _ _ _ w => (.ok, w)
  readRegs := fun _ _ _ w => ((.ok, fun _ => 1), w)

/-- A sensor whose scratchpad is zero, which has a valid checksum. -/
def zeroOnewire : OnewirePort Unit where
  reset := fun w => (.ok, w)
  writeByte := fun _ w => (.ok, w)
  readByte := fun w => ((.ok, 0), w)

def refusingDelivery : ActorPort Unit Unit where
  routes := RouteTable.generated
  deliver := fun _ _ w => (.errFull, w)

/-- Each READY event meets a full mailbox: after the first time read at boot, after the first
temperature read eight ticks later, and after the panel took every write at boot. -/
theorem ready_lost :
    ¬Machine.Always
        (RtcActor.step (P := Unit) {
          i2c := onesI2c, irq := { enable := fun _ _ w => (.ok, w) }, delivery := refusingDelivery })
        (ReadyKept .rtcReady RtcActor.IsReady) (.start (.fresh ⟨0, 0x68⟩ 0) ())
        [{ eventId := .bootCompleted }] ∧
      ¬Machine.Always
        (Ds18b20Actor.step (P := Unit) { onewire := zeroOnewire, delivery := refusingDelivery })
        (ReadyKept .ds18b20Ready Ds18b20Actor.IsReady) (.start Ds18b20Actor.init ())
        (.message { eventId := .bootCompleted } ::
          List.replicate 8 (.message { eventId := .tick100ms })) ∧
      ¬Machine.Always
        (OledActor.step (P := Unit) { i2c := onesI2c, delivery := refusingDelivery })
        (ReadyKept .oledReady OledActor.IsReady) (.start (.fresh ⟨0, 0x3C⟩ .ssd1306) ())
        [{ eventId := .bootCompleted }] := by
  refine ⟨?_, ?_, ?_⟩
  · intro h
    have hlost := h.last (by change _ = true; decide +kernel)
    revert hlost
    decide +kernel
  · intro h
    have hlost := h.last (by change _ = true; decide +kernel)
    revert hlost
    decide +kernel
  · intro h
    have hlost := h.last (by change _ = OledPhase.ready; decide +kernel)
    revert hlost
    decide +kernel

end EventFramework
