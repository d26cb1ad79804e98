import EventFramework.Actors.PanelActor
import EventFramework.Apps.DemoPresentation

/-!
# The application actor

Of `ev_demo_policy.c` the application actor: what it keeps of the messages that it handles, and the
commands and scenes that it sends. A port stands for the publications of `ev_demo_app.c`.
-/

namespace EventFramework
set_option autoImplicit false

variable {ω : Type}

/-- `EV_DEMO_APP_BUTTON_TOGGLE_SCREENSAVER`. -/
def buttonToggleScreensaver : UInt8 := 0

/-- `EV_DEMO_APP_LED_SCREENSAVER_PAUSED`. -/
def ledScreensaverPaused : UInt8 := 0x01

inductive AppCall where
  | publishPanelLedCommand (valueMask validMask : UInt8)
  | publishDiagRequest
  | publishOledSceneCommit (scene : OledScene)

/-- A publication acts on what is outside the actor and may return anything. -/
abbrev AppPort (ω : Type) := AppCall → ω → Result × ω

abbrev AppState (ω : Type) := Running AppActor Empty AppCall ω

/-- The payload of a message, where it has the size of what is read from it. -/
def Inbound.sized (msg : Inbound) (size : Nat) : Option (Nat → UInt8) :=
  if msg.payloadSize ≠ size then none else msg.payload

/-- The `uint16_t` at an offset. -/
def halfAt (memory : Nat → UInt8) (offset : Nat) : UInt16 :=
  UInt16.ofNat ((memory offset).toNat + 256 * (memory (offset + 1)).toNat)

theorem halfAt_eq {memory : Nat → UInt8} {offset : Nat} {half : UInt16}
    (hlow : memory offset = half.toUInt8) (hhigh : memory (offset + 1) = (half >>> 8).toUInt8) :
    halfAt memory offset = half := by
  have hlt := half.toNat_lt
  have hshift : (half >>> 8).toNat = half.toNat / 256 := by
    rw [UInt16.toNat_shiftRight, Nat.shiftRight_eq_div_pow]
    rfl
  apply UInt16.toNat_inj.mp
  unfold halfAt
  rw [hlow, hhigh, UInt16.toNat_toUInt8, UInt16.toNat_toUInt8, hshift, UInt16.toNat_ofNat']
  omega

/-- The time in a payload of `sizeof(ev_time_payload_t)` bytes. -/
def readTimePayload (payload : Nat → UInt8) : TimePayload where
  unixTime := wordAt payload 0
  year := halfAt payload 4
  month := payload 6
  day := payload 7
  weekday := payload 8
  hours := payload 9
  minutes := payload 10
  seconds := payload 11

/-- The application reads the time that the clock published. -/
theorem readTimePayload_bytes (time : TimePayload) :
    readTimePayload (fun i => time.bytes.getD i 0) = time := by
  have hunix : wordAt (fun i => time.bytes.getD i 0) 0 = time.unixTime := wordAt_wordBytes time.unixTime
  have hyear : halfAt (fun i => time.bytes.getD i 0) 4 = time.year := halfAt_eq rfl rfl
  unfold readTimePayload
  rw [hunix, hyear]
  rfl

namespace AppActor

def call (port : AppPort ω) (call : AppCall) (s : AppState ω) : Result × AppState ω :=
  let out := port call s.world.outside
  (out.1, ⟨s.ctx, ⟨out.2, s.world.history ++ [.called call]⟩⟩)

/-- `ev_demo_app_publish_panel_led_command`. -/
def publishPanelLedCommand (port : AppPort ω) (valueMask validMask : UInt8) (s : AppState ω) :
    Result × AppState ω :=
  call port (.publishPanelLedCommand (valueMask &&& mcp23008LedMask) (validMask &&& mcp23008LedMask)) s

/-- `ev_demo_app_render_oled_frame`. -/
def renderOledFrame (port : AppPort ω) (s : AppState ω) : Result × AppState ω :=
  if !s.ctx.hardwareActive supervisorHwOled then (.ok, s)
  else call port (.publishOledSceneCommit s.ctx.scene) (s.setCtx s.ctx.rendered)

/-- `ev_demo_app_handle_tick_for_oled`. -/
def handleTickForOled (port : AppPort ω) (s : AppState ω) : Result × AppState ω :=
  renderOledFrame port (s.setCtx s.ctx.stepped)

def handleTick1s (port : AppPort ω) (s : AppState ω) : Result × AppState ω :=
  if !s.ctx.systemReady then (.ok, s) else handleTickForOled port s

def booted (ctx : AppActor) : AppActor :=
  { ctx with
    currentPageOffset := 0
    currentColumnOffset := 0
    lastPageOffset := 0
    lastColumnOffset := 0
    directionX := 1
    directionY := 1
    oledFrameVisible := false
    screensaverPaused := false
    panelLedMask := 0
    systemReady := false
    lightValid := false
    activeHardwareMask := 0 }

def ready (ctx : AppActor) (activeHardwareMask : UInt32) : AppActor :=
  { ctx with
    systemReady := true
    activeHardwareMask := activeHardwareMask
    tempValid := ctx.tempValid && activeHardwareMask &&& supervisorHwDs18b20 != 0
    lightValid := ctx.lightValid && activeHardwareMask &&& supervisorHwBh1750 != 0 }

/-- What the first system ready message sends before the frame. -/
def announceReady (port : AppPort ω) (s : AppState ω) : Result × AppState ω :=
  let led :=
    if s.ctx.activeHardwareMask &&& supervisorHwMcp23008 ≠ 0 then
      publishPanelLedCommand port 0 mcp23008LedMask s
    else (.ok, s)
  if led.1 ≠ .ok then led else call port .publishDiagRequest led.2

def handleSystemReady (port : AppPort ω) (s : AppState ω) (msg : Inbound) : Result × AppState ω :=
  match msg.sized 4 with
  | none => (.errContract, s)
  | some payload =>
    let firstSystemReady := !s.ctx.systemReady
    let s := s.setCtx (s.ctx.ready (wordAt payload 0))
    let announced := if firstSystemReady then announceReady port s else (.ok, s)
    if announced.1 ≠ .ok then announced else renderOledFrame port announced.2

/-- The messages of which the actor keeps the payload and no more. -/
def keepPayload (size : Nat) (kept : (Nat → UInt8) → AppActor) (s : AppState ω) (msg : Inbound) :
    Result × AppState ω :=
  match msg.sized size with
  | none => (.errContract, s)
  | some payload => (.ok, s.setCtx (kept payload))

def toggled (ctx : AppActor) : AppActor :=
  { ctx with
    screensaverPaused := !ctx.screensaverPaused
    panelLedMask :=
      if !ctx.screensaverPaused then ctx.panelLedMask ||| ledScreensaverPaused
      else ctx.panelLedMask &&& ~~~ledScreensaverPaused }

/-- The button that stops the screen saver and lets it go on. -/
def togglesScreensaver (payload : Nat → UInt8) : Bool :=
  payload 0 = buttonToggleScreensaver && payload 1 = ButtonAction.short.code

def handleButtonEvent (port : AppPort ω) (s : AppState ω) (msg : Inbound) : Result × AppState ω :=
  match msg.sized 2 with
  | none => (.errContract, s)
  | some payload =>
    if togglesScreensaver payload then
      let s := s.setCtx s.ctx.toggled
      publishPanelLedCommand port s.ctx.panelLedMask ledScreensaverPaused s
    else (.ok, s)

/-- `ev_demo_app_actor_handle`, without its statistics and its log. -/
def handle (port : AppPort ω) (s : AppState ω) (msg : Inbound) : Result × AppState ω :=
  match msg.eventId with
  | .bootCompleted => (.ok, s.setCtx s.ctx.booted)
  | .systemReady => handleSystemReady port s msg
  | .tick1s => handleTick1s port s
  | .tempUpdated =>
    keepPayload 2 (fun payload =>
      { s.ctx with lastTemp := (halfAt payload 0).toInt16, tempValid := true }) s msg
  | .lightUpdated =>
    keepPayload 8 (fun payload =>
      { s.ctx with lastLight := ⟨wordAt payload 0, halfAt payload 4⟩, lightValid := true }) s msg
  | .timeUpdated =>
    keepPayload 12 (fun payload =>
      { s.ctx with lastTime := readTimePayload payload, timeValid := true }) s msg
  | .buttonEvent => handleButtonEvent port s msg
  | .diagSnapshotRsp =>
    keepPayload 16 (fun payload =>
      { s.ctx with
        lastSnapshotSequence := wordAt payload 0
        lastDiagTicksSeen := wordAt payload 4 }) s msg
  | _ => (.errContract, s)

def step (port : AppPort ω) : AppState ω → Inbound → AppState ω := Running.step (handle port)

def start (outside : ω) : AppState ω := ⟨{}, ⟨outside, []⟩⟩

def run (port : AppPort ω) (outside : ω) (msgs : List Inbound) : AppState ω :=
  Machine.run (step port) (start outside) msgs

end AppActor

end EventFramework
