import EventFramework.Actors.OledScene
import EventFramework.Apps.DemoPolicy

/-!
# What the display shows

What the messages so far say that the display shall show, and that every scene of the application
shows it. The publications do not matter: a scene that one loses is followed by the next.
-/

namespace EventFramework
set_option autoImplicit false

open Pendulum

variable {ω : Type}

/-- What the display shall show, and what that depends on. -/
structure Showing where
  moves : Nat := 0
  ready : Bool := false
  paused : Bool := false
  display : Bool := false
  time : Option TimePayload := none
  temp : Option Int16 := none

namespace Showing

/-- After one more message. The screen saver moves on a tick of the ready system. -/
def next (showing : Showing) (msg : Inbound) : Showing :=
  match msg.eventId with
  | .bootCompleted => { showing with moves := 0, ready := false, paused := false, display := false }
  | .systemReady =>
    (msg.sized 4).elim showing fun payload =>
      { showing with
        ready := true
        display := wordAt payload 0 &&& supervisorHwOled != 0
        temp := if wordAt payload 0 &&& supervisorHwDs18b20 ≠ 0 then showing.temp else none }
  | .tick1s =>
    if showing.ready && !showing.paused then { showing with moves := showing.moves + 1 } else showing
  | .tempUpdated =>
    (msg.sized 2).elim showing fun payload => { showing with temp := some (halfAt payload 0).toInt16 }
  | .timeUpdated =>
    (msg.sized 12).elim showing fun payload => { showing with time := some (readTimePayload payload) }
  | .buttonEvent =>
    (msg.sized 2).elim showing fun payload =>
      if AppActor.togglesScreensaver payload then { showing with paused := !showing.paused } else showing
  | _ => showing

def after (msgs : List Inbound) : Showing := msgs.foldl next {}

theorem after_snoc (msgs : List Inbound) (msg : Inbound) : after (msgs ++ [msg]) = (after msgs).next msg :=
  List.foldl_append

def timeText (showing : Showing) : List UInt8 :=
  showing.time.elim (asciiBytes ['-', '-', ':', '-', '-', ':', '-', '-']) clockText

def tempText (showing : Showing) : List UInt8 :=
  showing.temp.elim (asciiBytes ['-', '-', '.', '-', '-', ' ', 'C']) fun temp => celsiusText temp.toInt

/-- The time shown is one that the clock can have read. -/
def Timely (showing : Showing) : Prop :=
  ∀ time, showing.time = some time → RtcActor.payloadIsValid time = true

end Showing

/-! ## The state of the application -/

namespace AppActor

structure Tracks (ctx : AppActor) (showing : Showing) : Prop where
  ready : ctx.systemReady = showing.ready
  paused : ctx.screensaverPaused = showing.paused
  display : (ctx.activeHardwareMask &&& supervisorHwOled != 0) = showing.display
  time : (if ctx.timeValid then some ctx.lastTime else none) = showing.time
  temp : (if ctx.tempValid then some ctx.lastTemp else none) = showing.temp
  column : (axisSwing ctx.currentColumnOffset ctx.directionX).At oledMaxColumnOffset.toNat
    (showing.moves % (2 * oledMaxColumnOffset.toNat))
  page : (axisSwing ctx.currentPageOffset ctx.directionY).At oledMaxPageOffset.toNat
    (showing.moves % (2 * oledMaxPageOffset.toNat))

theorem tracks_start : Tracks {} {} where
  ready := rfl
  paused := rfl
  display := rfl
  time := rfl
  temp := rfl
  column := at_start oledMaxColumnOffset.toNat
  page := at_start oledMaxPageOffset.toNat

namespace Tracks

variable {ctx : AppActor} {showing : Showing}

theorem rendered (h : Tracks ctx showing) : Tracks ctx.rendered showing :=
  ⟨h.ready, h.paused, h.display, h.time, h.temp, h.column, h.page⟩

theorem booted (h : Tracks ctx showing) :
    Tracks ctx.booted { showing with moves := 0, ready := false, paused := false, display := false } where
  ready := rfl
  paused := rfl
  display := (rfl : ((0 : UInt32) &&& supervisorHwOled != 0) = false)
  time := h.time
  temp := h.temp
  column := at_start oledMaxColumnOffset.toNat
  page := at_start oledMaxPageOffset.toNat

/-- A temperature without its sensor is dropped. -/
theorem made_ready (h : Tracks ctx showing) (mask : UInt32) :
    Tracks (ctx.ready mask)
      { showing with
        ready := true
        display := mask &&& supervisorHwOled != 0
        temp := if mask &&& supervisorHwDs18b20 ≠ 0 then showing.temp else none } := by
  refine ⟨rfl, h.paused, rfl, h.time, ?_, h.column, h.page⟩
  rw [← h.temp]
  unfold AppActor.ready
  by_cases hsensor : mask &&& supervisorHwDs18b20 = 0
  · simp only [hsensor, bne_self_eq_false, Bool.and_false, Bool.false_eq_true, if_false, ne_eq,
      not_true_eq_false]
  · simp only [bne_iff_ne.mpr hsensor, Bool.and_true, ne_eq, hsensor, not_false_eq_true, if_true]

theorem stepped (h : Tracks ctx showing) :
    Tracks ctx.stepped
      (if showing.paused then showing else { showing with moves := showing.moves + 1 }) := by
  unfold AppActor.stepped
  by_cases hpaused : ctx.screensaverPaused = true
  · rw [if_pos hpaused, if_pos (h.paused ▸ hpaused)]
    exact h
  · rw [if_neg hpaused, if_neg (h.paused ▸ hpaused)]
    refine ⟨h.ready, h.paused, h.display, h.time, h.temp, ?_, ?_⟩
    · have hmoved := h.column.succ (by decide)
      rw [← screensaverStepAxis_move] at hmoved
      exact hmoved
    · have hmoved := h.page.succ (by decide)
      rw [← screensaverStepAxis_move] at hmoved
      exact hmoved

theorem toggled (h : Tracks ctx showing) :
    Tracks ctx.toggled { showing with paused := !showing.paused } :=
  ⟨h.ready, congrArg not h.paused, h.display, h.time, h.temp, h.column, h.page⟩

end Tracks

/-! ## What is sent -/

def sentScene? : ActorEvent Empty AppCall → Option OledScene
  | .called (.publishOledSceneCommit scene) => some scene
  | _ => none

def scenes (s : AppState ω) : List OledScene := s.world.history.filterMap sentScene?

section Handling

variable (port : AppPort ω) {s s' : AppState ω} {showing : Showing}

theorem scenes_call (call : AppCall) :
    scenes (AppActor.call port call s).2 = scenes s ++ [ActorEvent.called call].filterMap sentScene? :=
  List.filterMap_append

theorem scenes_note (event : ActorEvent Empty AppCall) :
    scenes (s.note event) = scenes s ++ [event].filterMap sentScene? :=
  List.filterMap_append

theorem scenes_command {call : AppCall} (hcommand : sentScene? (.called call) = none) (s : AppState ω) :
    scenes (AppActor.call port call s).2 = scenes s := by
  rw [scenes_call, List.filterMap_cons_none hcommand]
  exact List.append_nil _

theorem scenes_panelLed (valueMask validMask : UInt8) (s : AppState ω) :
    scenes (publishPanelLedCommand port valueMask validMask s).2 = scenes s :=
  scenes_command port rfl s

/-- A handler's outcome: the state agrees, and what it sends besides commands is the scene of it. -/
structure Handled (s s' : AppState ω) (showing : Showing) : Prop where
  tracks : Tracks s'.ctx showing
  sent : scenes s' = scenes s ∨ scenes s' = scenes s ++ [s'.ctx.scene]

theorem handled_setCtx {ctx : AppActor} (h : Tracks ctx showing) : Handled s (s.setCtx ctx) showing :=
  ⟨h, .inl rfl⟩

theorem scenes_renderOledFrame (s : AppState ω) :
    scenes (renderOledFrame port s).2 =
      scenes s ++ if s.ctx.hardwareActive supervisorHwOled then [(renderOledFrame port s).2.ctx.scene]
        else [] := by
  unfold renderOledFrame
  cases s.ctx.hardwareActive supervisorHwOled with
  | false => exact (List.append_nil _).symm
  | true => exact scenes_call port _

theorem renderOledFrame_handled (h : Tracks s.ctx showing) :
    Handled s (renderOledFrame port s).2 showing := by
  unfold renderOledFrame
  split
  · exact ⟨h, .inl rfl⟩
  · exact ⟨h.rendered, .inr (scenes_call port _)⟩

theorem announceReady_quiet (s : AppState ω) :
    (announceReady port s).2.ctx = s.ctx ∧ scenes (announceReady port s).2 = scenes s := by
  unfold announceReady
  by_cases hpanel : s.ctx.activeHardwareMask &&& supervisorHwMcp23008 ≠ 0
  · simp only [if_pos hpanel]
    split
    · exact ⟨rfl, scenes_panelLed port _ _ s⟩
    · exact ⟨rfl, (scenes_command port rfl _).trans (scenes_panelLed port _ _ s)⟩
  · simp only [if_neg hpanel]
    exact ⟨rfl, scenes_command port rfl s⟩

theorem Handled.behind {mid : AppState ω} (h : Handled mid s' showing)
    (hquiet : scenes mid = scenes s) : Handled s s' showing :=
  ⟨h.tracks, hquiet ▸ h.sent⟩

theorem handleSystemReady_handled (h : Tracks s.ctx showing) (msg : Inbound) :
    Handled s (handleSystemReady port s msg).2
      ((msg.sized 4).elim showing fun payload =>
        { showing with
          ready := true
          display := wordAt payload 0 &&& supervisorHwOled != 0
          temp := if wordAt payload 0 &&& supervisorHwDs18b20 ≠ 0 then showing.temp else none }) := by
  unfold handleSystemReady
  cases msg.sized 4 with
  | none => exact ⟨h, .inl rfl⟩
  | some payload =>
    have hready := h.made_ready (wordAt payload 0)
    obtain ⟨hctx, hquiet⟩ := announceReady_quiet port (s.setCtx (s.ctx.ready (wordAt payload 0)))
    simp only [Option.elim_some]
    by_cases hfirst : (!s.ctx.systemReady) = true
    · simp only [if_pos hfirst]
      split
      · exact ⟨hctx ▸ hready, .inl hquiet⟩
      · exact (renderOledFrame_handled port (hctx ▸ hready)).behind hquiet
    · simp only [if_neg hfirst]
      rw [if_neg (not_not.mpr rfl)]
      exact (renderOledFrame_handled port (s := s.setCtx (s.ctx.ready (wordAt payload 0))) hready).behind rfl

theorem keepPayload_handled (h : Tracks s.ctx showing) (msg : Inbound) {size : Nat}
    {kept : (Nat → UInt8) → AppActor} {shown : (Nat → UInt8) → Showing}
    (hkept : ∀ payload, Tracks (kept payload) (shown payload)) :
    Handled s (keepPayload size kept s msg).2 ((msg.sized size).elim showing shown) := by
  unfold keepPayload
  cases msg.sized size with
  | none => exact ⟨h, .inl rfl⟩
  | some payload => exact handled_setCtx (hkept payload)

theorem keepPayload_unshown (h : Tracks s.ctx showing) (msg : Inbound) {size : Nat}
    {kept : (Nat → UInt8) → AppActor} (hkept : ∀ payload, Tracks (kept payload) showing) :
    Handled s (keepPayload size kept s msg).2 showing := by
  have hhandled : Handled s (keepPayload size kept s msg).2
      ((msg.sized size).elim showing fun _ => showing) := keepPayload_handled h msg hkept
  have hsame : ((msg.sized size).elim showing fun _ => showing) = showing := by
    cases msg.sized size with
    | none => rfl
    | some payload => rfl
  rwa [hsame] at hhandled

theorem handleButtonEvent_handled (h : Tracks s.ctx showing) (msg : Inbound) :
    Handled s (handleButtonEvent port s msg).2
      ((msg.sized 2).elim showing fun payload =>
        if togglesScreensaver payload then { showing with paused := !showing.paused } else showing) := by
  unfold handleButtonEvent
  cases msg.sized 2 with
  | none => exact ⟨h, .inl rfl⟩
  | some payload =>
    simp only [Option.elim_some]
    split
    · exact ⟨h.toggled, .inl (scenes_panelLed port _ _ _)⟩
    · exact ⟨h, .inl rfl⟩

theorem handleTick1s_handled (h : Tracks s.ctx showing) :
    Handled s (handleTick1s port s).2
      (if showing.ready && !showing.paused then { showing with moves := showing.moves + 1 }
        else showing) := by
  have hmoved := h.stepped
  unfold handleTick1s
  by_cases hready : showing.ready = true
  · have hstate : s.ctx.systemReady = true := h.ready.trans hready
    have hshown : (if showing.ready && !showing.paused then { showing with moves := showing.moves + 1 }
        else showing) = if showing.paused then showing else { showing with moves := showing.moves + 1 } := by
      rw [hready, Bool.true_and]
      by_cases hpaused : showing.paused = true
      · rw [hpaused]
        rfl
      · rw [Bool.eq_false_iff.mpr hpaused]
        rfl
    rw [hshown, hstate]
    exact (renderOledFrame_handled port (s := s.setCtx s.ctx.stepped) hmoved).behind rfl
  · have hidle : showing.ready = false := Bool.eq_false_iff.mpr hready
    have hstate : s.ctx.systemReady = false := h.ready.trans hidle
    rw [hidle, hstate]
    exact ⟨h, .inl rfl⟩

/-- A tick sends the scene just when the display is there. -/
theorem handleTick1s_sends (h : Tracks s.ctx showing) :
    scenes (handleTick1s port s).2 =
      scenes s ++ if showing.ready && showing.display then [(handleTick1s port s).2.ctx.scene] else [] := by
  unfold handleTick1s
  by_cases hready : showing.ready = true
  · have hactive : s.ctx.stepped.hardwareActive supervisorHwOled = (showing.ready && showing.display) := by
      have hmoved := h.stepped
      unfold hardwareActive
      rw [hmoved.ready, hmoved.display]
      split
      · rfl
      · rfl
    rw [← hactive, h.ready.trans hready]
    exact scenes_renderOledFrame port (s.setCtx s.ctx.stepped)
  · have hidle : showing.ready = false := Bool.eq_false_iff.mpr hready
    rw [h.ready, hidle]
    exact (List.append_nil _).symm

theorem handle_handled (h : Tracks s.ctx showing) (msg : Inbound) :
    Handled s (handle port s msg).2 (showing.next msg) := by
  unfold handle Showing.next
  cases msg.eventId with
  | bootCompleted => exact handled_setCtx h.booted
  | systemReady => exact handleSystemReady_handled port h msg
  | tick1s => exact handleTick1s_handled port h
  | tempUpdated =>
    exact keepPayload_handled h msg fun _ => ⟨h.ready, h.paused, h.display, h.time, rfl, h.column, h.page⟩
  | lightUpdated =>
    exact keepPayload_unshown h msg fun _ => ⟨h.ready, h.paused, h.display, h.time, h.temp, h.column, h.page⟩
  | timeUpdated =>
    exact keepPayload_handled h msg fun _ => ⟨h.ready, h.paused, h.display, rfl, h.temp, h.column, h.page⟩
  | buttonEvent => exact handleButtonEvent_handled port h msg
  | diagSnapshotRsp =>
    exact keepPayload_unshown h msg fun _ => ⟨h.ready, h.paused, h.display, h.time, h.temp, h.column, h.page⟩
  | _ => exact ⟨h, .inl rfl⟩

/-- What a handler sends, a step sends. -/
theorem scenes_step (s : AppState ω) (msg : Inbound) :
    scenes (step port s msg) = scenes (handle port (s.note (.received msg)) msg).2 :=
  (scenes_note _).trans (List.append_nil _)

theorem scenes_received (s : AppState ω) (msg : Inbound) : scenes (s.note (.received msg)) = scenes s :=
  (scenes_note _).trans (List.append_nil _)

theorem step_sends (h : Tracks s.ctx showing) {tick : Inbound} (htick : tick.eventId = .tick1s) :
    scenes (step port s tick) =
      scenes s ++ if showing.ready && showing.display then [(step port s tick).ctx.scene] else [] := by
  have hhandle : handle port (s.note (.received tick)) tick = handleTick1s port (s.note (.received tick)) := by
    unfold handle
    rw [htick]
  have hsends := handleTick1s_sends port (s := s.note (.received tick)) h
  rw [← hhandle, ← scenes_step, scenes_received] at hsends
  exact hsends

theorem step_handled (h : Tracks s.ctx showing) (msg : Inbound) :
    Handled s (step port s msg) (showing.next msg) := by
  have hhandled := handle_handled port (s := s.note (.received msg)) h msg
  refine ⟨hhandled.tracks, ?_⟩
  rw [scenes_step, ← scenes_received s msg]
  exact hhandled.sent

theorem run_snoc (outside : ω) (msgs : List Inbound) (msg : Inbound) :
    run port outside (msgs ++ [msg]) = step port (run port outside msgs) msg :=
  Machine.run_append _ _ _ _

end Handling

/-- Every scene of a run is the scene of a state that agrees with the messages up to it. -/
theorem run_tracks (port : AppPort ω) (outside : ω) (msgs : List Inbound) :
    Tracks (run port outside msgs).ctx (Showing.after msgs) ∧
      ∀ scene ∈ scenes (run port outside msgs),
        ∃ earlier ctx, earlier <+: msgs ∧ Tracks ctx (Showing.after earlier) ∧ scene = ctx.scene := by
  induction msgs using List.reverseRecOn with
  | nil => exact ⟨tracks_start, fun scene hscene => absurd hscene List.not_mem_nil⟩
  | append_singleton msgs msg ih =>
    obtain ⟨htracks, hsent⟩ := ih
    have hhandled := step_handled port htracks msg
    rw [run_snoc, Showing.after_snoc]
    refine ⟨hhandled.tracks, fun scene hscene => ?_⟩
    have hbefore (hmem : scene ∈ scenes (run port outside msgs)) :
        ∃ earlier ctx, earlier <+: msgs ++ [msg] ∧ Tracks ctx (Showing.after earlier) ∧
          scene = ctx.scene := by
      obtain ⟨earlier, ctx, hprefix, hrest⟩ := hsent scene hmem
      exact ⟨earlier, ctx, hprefix.trans (List.prefix_append _ _), hrest⟩
    rcases hhandled.sent with hsame | hnew
    · exact hbefore (hsame ▸ hscene)
    · rw [hnew] at hscene
      rcases List.mem_append.mp hscene with hold | hlast
      · exact hbefore hold
      · refine ⟨msgs ++ [msg], _, List.prefix_refl _, ?_, List.mem_singleton.mp hlast⟩
        rw [Showing.after_snoc]
        exact hhandled.tracks

/-! ## What the display reads -/

structure Shows (scene : OledScene) (showing : Showing) : Prop where
  column : scene.columnOffset = triangle oledMaxColumnOffset.toNat showing.moves
  page : scene.pageOffset = triangle oledMaxPageOffset.toNat showing.moves
  visible : scene.flags = oledSceneFlagVisible
  title : OledActor.lineText (scene.lines 0) = oledTitleText
  time : OledActor.lineText (scene.lines 1) = showing.timeText
  temp : OledActor.lineText (scene.lines 2) = showing.tempText

section Texts

variable {ctx : AppActor} {showing : Showing}

theorem Tracks.timeText (h : Tracks ctx showing) : ctx.formatTimeText = showing.timeText := by
  unfold formatTimeText Showing.timeText
  rw [← h.time]
  cases ctx.timeValid with
  | false => rfl
  | true => rfl

theorem Tracks.tempText (h : Tracks ctx showing) : ctx.formatTempText = showing.tempText := by
  unfold formatTempText Showing.tempText
  rw [← h.temp]
  cases ctx.tempValid with
  | false => rfl
  | true => rfl

/-- The display reads the scene out of the memory that the application filled. -/
theorem Tracks.shows (h : Tracks ctx showing) :
    Shows (OledActor.readScene fun i => ctx.scene.bytes.getD i 0) showing := by
  obtain ⟨hpage, hcolumn, hflags, hlines⟩ := ctx.scene_wellSized.readScene_bytes
  have hline (line : Nat) (hline : line < oledSceneLineCount) :
      OledActor.lineText ((OledActor.readScene fun i => ctx.scene.bytes.getD i 0).lines line) =
        ctx.lineTexts line := (hlines line hline).trans (ctx.lineText_sceneLines hline)
  exact
    { column := hcolumn.trans h.column.position
      page := hpage.trans h.page.position
      visible := hflags
      title := hline 0 (by decide)
      time := (hline 1 (by decide)).trans h.timeText
      temp := (hline 2 (by decide)).trans h.tempText }

end Texts

end AppActor

theorem valid_below {time : TimePayload} (h : RtcActor.payloadIsValid time = true) :
    time.hours.toNat < 100 ∧ time.minutes.toNat < 100 ∧ time.seconds.toNat < 100 := by
  have hrange : time.hours ≤ 23 ∧ time.minutes ≤ 59 ∧ time.seconds ≤ 59 := by
    unfold RtcActor.payloadIsValid at h
    by_cases hout : time.month = 0 ∨ 12 < time.month ∨ time.weekday = 0 ∨ 7 < time.weekday ∨
        23 < time.hours ∨ 59 < time.minutes ∨ 59 < time.seconds
    · rw [if_pos hout] at h
      cases h
    · simp only [not_or, UInt8.not_lt] at hout
      exact ⟨hout.2.2.2.2.1, hout.2.2.2.2.2⟩
  obtain ⟨hhours, hminutes, hseconds⟩ := hrange
  have hhours' : time.hours.toNat ≤ 23 := UInt8.le_iff_toNat_le.mp hhours
  have hminutes' : time.minutes.toNat ≤ 59 := UInt8.le_iff_toNat_le.mp hminutes
  have hseconds' : time.seconds.toNat ≤ 59 := UInt8.le_iff_toNat_le.mp hseconds
  omega

theorem Showing.Timely.timeText_length_le {showing : Showing} (h : showing.Timely) :
    showing.timeText.length ≤ 9 := by
  unfold Showing.timeText
  cases htime : showing.time with
  | none => decide
  | some time =>
    obtain ⟨hhours, hminutes, hseconds⟩ := valid_below (h time htime)
    have hcolon : (asciiBytes [':']).length = 1 := rfl
    change (clockText time).length ≤ 9
    unfold clockText
    simp only [List.length_append, twoDigits_length hhours, twoDigits_length hminutes,
      twoDigits_length hseconds, hcolon]
    decide

theorem Showing.tempText_length_le (showing : Showing) : showing.tempText.length ≤ 9 := by
  unfold Showing.tempText
  cases showing.temp with
  | none => decide
  | some temp => exact celsiusText_length_le temp

namespace AppActor.Shows

variable {scene : OledScene} {showing : Showing}

theorem clock (h : Shows scene showing) {time : TimePayload} (htime : showing.time = some time)
    (hvalid : RtcActor.payloadIsValid time = true) :
    readClock (OledActor.lineText (scene.lines 1)) =
      (time.hours.toNat, time.minutes.toNat, time.seconds.toNat) := by
  obtain ⟨hhours, hminutes, hseconds⟩ := valid_below hvalid
  rw [h.time, Showing.timeText, htime]
  exact readClock_clockText hhours hminutes hseconds

theorem celsius (h : Shows scene showing) {temp : Int16} (htemp : showing.temp = some temp) :
    readCelsius (OledActor.lineText (scene.lines 2)) = temp.toInt := by
  rw [h.temp, Showing.tempText, htemp]
  exact readCelsius_celsiusText temp.toInt

theorem offsets_le (h : Shows scene showing) : scene.columnOffset ≤ 18 ∧ scene.pageOffset ≤ 2 := by
  rw [h.column, h.page]
  exact ⟨triangle_le _ _, triangle_le _ _⟩

theorem staged (h : Shows scene showing) (ctx : OledActor) :
    (ctx.prepareSceneCommit scene).1 = .ok ∧
      (ctx.prepareSceneCommit scene).2.stagingFramebuffer = OledActor.sceneFrame scene := by
  obtain ⟨hcolumn, hpage⟩ := h.offsets_le
  have hwidth : oledWidth = 72 := rfl
  have hcount : oledSceneLineCount = 3 := rfl
  have hvisible : scene.flags &&& 0x01 ≠ 0 := by
    rw [h.visible]
    decide
  obtain ⟨haccepted, hstaging⟩ := OledActor.prepareSceneCommit_staging ctx (by omega) hvisible
  have hblank : OledActor.WrapsBlank scene := fun line hline hwraps => by omega
  exact ⟨haccepted, hstaging.trans ((OledActor.drawn_iff_wrapsBlank (by omega)).mpr hblank)⟩

theorem inside (h : Shows scene showing) (htimely : showing.Timely) {line : Nat}
    (hline : line < oledSceneLineCount) :
    scene.pageOffset + line < oledPageCount ∧
      scene.columnOffset + oledTextCellAdvance * (OledActor.lineText (scene.lines line)).length ≤
        oledWidth := by
  obtain ⟨hcolumn, hpage⟩ := h.offsets_le
  have hwidth : oledWidth = 72 := rfl
  have hpages : oledPageCount = 5 := rfl
  have hcell : oledTextCellAdvance = 6 := rfl
  have hcount : oledSceneLineCount = 3 := rfl
  have hchars : (OledActor.lineText (scene.lines line)).length ≤ 9 := by
    obtain rfl | rfl | rfl : line = 0 ∨ line = 1 ∨ line = 2 := by omega
    · rw [h.title]
      decide
    · rw [h.time]
      exact htimely.timeText_length_le
    · rw [h.temp]
      exact showing.tempText_length_le
  rw [hcell]
  omega

end AppActor.Shows

namespace AppActor

/-- Every scene of a run, as the display reads it, shows what the messages up to it say, and the
display takes it as it is. Its numbers are read back from its lines, and it is inside the panel. -/
theorem scenes_legible (port : AppPort ω) (outside : ω) (msgs : List Inbound) {scene : OledScene}
    (hsent : scene ∈ scenes (run port outside msgs)) :
    let read := OledActor.readScene fun i => scene.bytes.getD i 0
    ∃ earlier, earlier <+: msgs ∧ Shows read (Showing.after earlier) ∧
      (∀ time, (Showing.after earlier).time = some time → RtcActor.payloadIsValid time = true →
        readClock (OledActor.lineText (read.lines 1)) =
          (time.hours.toNat, time.minutes.toNat, time.seconds.toNat)) ∧
      (∀ temp, (Showing.after earlier).temp = some temp →
        readCelsius (OledActor.lineText (read.lines 2)) = temp.toInt) ∧
      (∀ ctx : OledActor, (ctx.prepareSceneCommit read).1 = .ok ∧
        (ctx.prepareSceneCommit read).2.stagingFramebuffer = OledActor.sceneFrame read) ∧
      ((Showing.after earlier).Timely → ∀ line, line < oledSceneLineCount →
        read.pageOffset + line < oledPageCount ∧
          read.columnOffset + oledTextCellAdvance * (OledActor.lineText (read.lines line)).length ≤
            oledWidth) := by
  intro read
  obtain ⟨earlier, ctx, hprefix, htracks, rfl⟩ := (run_tracks port outside msgs).2 scene hsent
  have hshows : Shows read (Showing.after earlier) := htracks.shows
  refine ⟨earlier, hprefix, hshows, ?_, ?_, ?_, ?_⟩
  · intro time htime hvalid
    exact hshows.clock htime hvalid
  · intro temp htemp
    exact hshows.celsius htemp
  · intro oled
    exact hshows.staged oled
  · intro htimely line hline
    exact hshows.inside htimely hline

def beforeMidnight : TimePayload where
  year := 2024
  month := 2
  day := 29
  weekday := 4
  hours := 23
  minutes := 59
  seconds := 53

/-- Readiness with a display and a sensor, the time, a temperature below zero and a tick. -/
def coldEvening : List Inbound :=
  [⟨.systemReady, some fun i => if i = 0 then 12 else 0, 4⟩,
    ⟨.timeUpdated, some fun i => beforeMidnight.bytes.getD i 0, 12⟩,
    ⟨.tempUpdated, some fun i => if i = 0 then 0x2E else 0xFB, 2⟩, ⟨.tick1s, none, 0⟩]

/-- A scene without dashes was sent after both messages came. -/
theorem coldEvening_shown {earlier : List Inbound} (h : earlier <+: coldEvening)
    (htime : (Showing.after earlier).time ≠ none) (htemp : (Showing.after earlier).temp ≠ none) :
    (Showing.after earlier).time = some beforeMidnight ∧ (Showing.after earlier).temp = some (-1234) := by
  rw [List.prefix_iff_eq_take.mp h] at htime htemp ⊢
  have hle : earlier.length ≤ 4 := h.length_le
  generalize earlier.length = count at *
  have hread := congrArg some (readTimePayload_bytes beforeMidnight)
  obtain rfl | rfl | rfl | rfl | rfl : count = 0 ∨ count = 1 ∨ count = 2 ∨ count = 3 ∨ count = 4 := by
    omega
  · exact absurd rfl htime
  · exact absurd rfl htime
  · exact absurd rfl htemp
  · exact ⟨hread, rfl⟩
  · exact ⟨hread, rfl⟩

theorem coldEvening_sent :
    1 < (scenes (run (fun _ outside => (.ok, outside)) () coldEvening)).length := by
  decide

theorem scenes_legible_cold :
    ∃ scene ∈ scenes (run (fun _ outside => (.ok, outside)) () coldEvening),
      let read := OledActor.readScene fun i => scene.bytes.getD i 0
      readClock (OledActor.lineText (read.lines 1)) = (23, 59, 53) ∧
        readCelsius (OledActor.lineText (read.lines 2)) = -1234 := by
  refine ⟨_, List.get_mem _ ⟨1, coldEvening_sent⟩, ?_⟩
  obtain ⟨earlier, hprefix, hshows, hclock, hcelsius, -⟩ := scenes_legible _ () coldEvening
    (List.get_mem _ ⟨1, coldEvening_sent⟩)
  have htime : (Showing.after earlier).time ≠ none := fun hnone => by
    have hdashes := hshows.time
    rw [Showing.timeText, hnone] at hdashes
    revert hdashes
    decide
  have htemp : (Showing.after earlier).temp ≠ none := fun hnone => by
    have hdashes := hshows.temp
    rw [Showing.tempText, hnone] at hdashes
    revert hdashes
    decide
  obtain ⟨hevening, hcold⟩ := coldEvening_shown hprefix htime htemp
  exact ⟨hclock beforeMidnight hevening (by decide), hcelsius (-1234) hcold⟩

/-- A tick sends one scene that shows where the screen saver is by then, or none where the system is
not ready or has no display, whatever became of the publications before. -/
theorem tick_shown (port : AppPort ω) (outside : ω) (msgs : List Inbound) {tick : Inbound}
    (htick : tick.eventId = .tick1s) :
    ((Showing.after msgs).ready = true ∧ (Showing.after msgs).display = true →
      ∃ scene, scenes (run port outside (msgs ++ [tick])) =
          scenes (run port outside msgs) ++ [scene] ∧
        Shows (OledActor.readScene fun i => scene.bytes.getD i 0) (Showing.after (msgs ++ [tick]))) ∧
    (¬((Showing.after msgs).ready = true ∧ (Showing.after msgs).display = true) →
      scenes (run port outside (msgs ++ [tick])) = scenes (run port outside msgs)) := by
  obtain ⟨htracks, -⟩ := run_tracks port outside msgs
  have hafter := (run_tracks port outside (msgs ++ [tick])).1
  have hsends := step_sends port htracks htick
  rw [run_snoc] at hafter ⊢
  rw [hsends]
  constructor
  · rintro ⟨hready, hdisplay⟩
    rw [hready, hdisplay]
    exact ⟨_, rfl, hafter.shows⟩
  · intro hnone
    rw [if_neg (fun hboth => hnone (Bool.and_eq_true_iff.mp hboth)), List.append_nil]

theorem tick_shown_ready :
    let msgs : List Inbound := [⟨.systemReady, some fun i => if i = 0 then 4 else 0, 4⟩]
    let tick : Inbound := ⟨.tick1s, none, 0⟩
    ∃ scene, scenes (run (fun _ outside => (.ok, outside)) () (msgs ++ [tick])) =
        scenes (run (fun _ outside => (.ok, outside)) () msgs) ++ [scene] ∧
      Shows (OledActor.readScene fun i => scene.bytes.getD i 0) (Showing.after (msgs ++ [tick])) := by
  intro msgs tick
  have hthere : (Showing.after msgs).ready = true ∧ (Showing.after msgs).display = true := ⟨rfl, rfl⟩
  exact (tick_shown (fun _ outside => (.ok, outside)) () msgs rfl).1 hthere

end AppActor

end EventFramework
