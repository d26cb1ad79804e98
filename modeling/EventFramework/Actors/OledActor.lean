import EventFramework.Actors.DevicePorts
import Mathlib.Logic.Function.Basic

/-!
# The OLED actor

`ev_oled_actor.c`: a framebuffer of five pages of 72 columns, a staging buffer for the text and
the scenes that arrive, the dirty column range of each page, and the transfers to an SSD1306
or SH1106 panel.
-/

namespace EventFramework
set_option autoImplicit false

variable {P ω : Type}

def oledWidth : Nat := 72

def oledPageCount : Nat := 5

def oledTextMaxChars : Nat := 22

def oledSceneLineCount : Nat := 3

def oledDataChunkBytes : Nat := 32

def oledSh1106ColumnOffset : Nat := 2

def oledSsd1306ColumnOffset : Nat := 28

/-- `k_ev_oled_font_5x7`, from the space to the tilde. -/
def oledFont5x7 : List (List UInt8) :=
  [ [0x00, 0x00, 0x00, 0x00, 0x00], [0x00, 0x00, 0x5F, 0x00, 0x00], [0x00, 0x07, 0x00, 0x07, 0x00],
    [0x14, 0x7F, 0x14, 0x7F, 0x14], [0x24, 0x2A, 0x7F, 0x2A, 0x12], [0x23, 0x13, 0x08, 0x64, 0x62],
    [0x36, 0x49, 0x55, 0x22, 0x50], [0x00, 0x05, 0x03, 0x00, 0x00], [0x00, 0x1C, 0x22, 0x41, 0x00],
    [0x00, 0x41, 0x22, 0x1C, 0x00], [0x14, 0x08, 0x3E, 0x08, 0x14], [0x08, 0x08, 0x3E, 0x08, 0x08],
    [0x00, 0x50, 0x30, 0x00, 0x00], [0x08, 0x08, 0x08, 0x08, 0x08], [0x00, 0x60, 0x60, 0x00, 0x00],
    [0x20, 0x10, 0x08, 0x04, 0x02], [0x3E, 0x51, 0x49, 0x45, 0x3E], [0x00, 0x42, 0x7F, 0x40, 0x00],
    [0x42, 0x61, 0x51, 0x49, 0x46], [0x21, 0x41, 0x45, 0x4B, 0x31], [0x18, 0x14, 0x12, 0x7F, 0x10],
    [0x27, 0x45, 0x45, 0x45, 0x39], [0x3C, 0x4A, 0x49, 0x49, 0x30], [0x01, 0x71, 0x09, 0x05, 0x03],
    [0x36, 0x49, 0x49, 0x49, 0x36], [0x06, 0x49, 0x49, 0x29, 0x1E], [0x00, 0x36, 0x36, 0x00, 0x00],
    [0x00, 0x56, 0x36, 0x00, 0x00], [0x08, 0x14, 0x22, 0x41, 0x00], [0x14, 0x14, 0x14, 0x14, 0x14],
    [0x00, 0x41, 0x22, 0x14, 0x08], [0x02, 0x01, 0x51, 0x09, 0x06], [0x32, 0x49, 0x79, 0x41, 0x3E],
    [0x7E, 0x11, 0x11, 0x11, 0x7E], [0x7F, 0x49, 0x49, 0x49, 0x36], [0x3E, 0x41, 0x41, 0x41, 0x22],
    [0x7F, 0x41, 0x41, 0x22, 0x1C], [0x7F, 0x49, 0x49, 0x49, 0x41], [0x7F, 0x09, 0x09, 0x09, 0x01],
    [0x3E, 0x41, 0x49, 0x49, 0x7A], [0x7F, 0x08, 0x08, 0x08, 0x7F], [0x00, 0x41, 0x7F, 0x41, 0x00],
    [0x20, 0x40, 0x41, 0x3F, 0x01], [0x7F, 0x08, 0x14, 0x22, 0x41], [0x7F, 0x40, 0x40, 0x40, 0x40],
    [0x7F, 0x02, 0x0C, 0x02, 0x7F], [0x7F, 0x04, 0x08, 0x10, 0x7F], [0x3E, 0x41, 0x41, 0x41, 0x3E],
    [0x7F, 0x09, 0x09, 0x09, 0x06], [0x3E, 0x41, 0x51, 0x21, 0x5E], [0x7F, 0x09, 0x19, 0x29, 0x46],
    [0x46, 0x49, 0x49, 0x49, 0x31], [0x01, 0x01, 0x7F, 0x01, 0x01], [0x3F, 0x40, 0x40, 0x40, 0x3F],
    [0x1F, 0x20, 0x40, 0x20, 0x1F], [0x3F, 0x40, 0x38, 0x40, 0x3F], [0x63, 0x14, 0x08, 0x14, 0x63],
    [0x07, 0x08, 0x70, 0x08, 0x07], [0x61, 0x51, 0x49, 0x45, 0x43], [0x00, 0x7F, 0x41, 0x41, 0x00],
    [0x02, 0x04, 0x08, 0x10, 0x20], [0x00, 0x41, 0x41, 0x7F, 0x00], [0x04, 0x02, 0x01, 0x02, 0x04],
    [0x40, 0x40, 0x40, 0x40, 0x40], [0x00, 0x01, 0x02, 0x04, 0x00], [0x20, 0x54, 0x54, 0x54, 0x78],
    [0x7F, 0x48, 0x44, 0x44, 0x38], [0x38, 0x44, 0x44, 0x44, 0x20], [0x38, 0x44, 0x44, 0x48, 0x7F],
    [0x38, 0x54, 0x54, 0x54, 0x18], [0x08, 0x7E, 0x09, 0x01, 0x02], [0x08, 0x14, 0x54, 0x54, 0x3C],
    [0x7F, 0x08, 0x04, 0x04, 0x78], [0x00, 0x44, 0x7D, 0x40, 0x00], [0x20, 0x40, 0x44, 0x3D, 0x00],
    [0x7F, 0x10, 0x28, 0x44, 0x00], [0x00, 0x41, 0x7F, 0x40, 0x00], [0x7C, 0x04, 0x18, 0x04, 0x78],
    [0x7C, 0x08, 0x04, 0x04, 0x78], [0x38, 0x44, 0x44, 0x44, 0x38], [0x7C, 0x14, 0x14, 0x14, 0x08],
    [0x08, 0x14, 0x14, 0x18, 0x7C], [0x7C, 0x08, 0x04, 0x04, 0x08], [0x48, 0x54, 0x54, 0x54, 0x20],
    [0x04, 0x3F, 0x44, 0x40, 0x20], [0x3C, 0x40, 0x40, 0x20, 0x7C], [0x1C, 0x20, 0x40, 0x20, 0x1C],
    [0x3C, 0x40, 0x30, 0x40, 0x3C], [0x44, 0x28, 0x10, 0x28, 0x44], [0x0C, 0x50, 0x50, 0x50, 0x3C],
    [0x44, 0x64, 0x54, 0x4C, 0x44], [0x00, 0x08, 0x36, 0x41, 0x00], [0x00, 0x00, 0x7F, 0x00, 0x00],
    [0x00, 0x41, 0x36, 0x08, 0x00], [0x08, 0x04, 0x08, 0x10, 0x08] ]

def oledSsd1306Init : List UInt8 :=
  [0xAE, 0xD5, 0x80, 0xA8, 0x27, 0xD3, 0x00, 0xAD, 0x30, 0x8D, 0x14, 0x40, 0xA6, 0xA4, 0x20, 0x00,
    0xA1, 0xC8, 0xDA, 0x12, 0x81, 0xAF, 0xD9, 0x22, 0xDB, 0x20, 0x2E, 0xAF]

def oledSh1106Init : List UInt8 :=
  [0xAE, 0xA6, 0xD5, 0x80, 0xA8, 0x3F, 0xDA, 0x12, 0xD3, 0x00, 0x40, 0x8D, 0x14, 0x20, 0x00, 0xA1,
    0xC8, 0x81, 0x7F, 0xD9, 0x22, 0xDB, 0x40, 0xA4, 0xAF]

inductive OledController where
  | ssd1306
  | sh1106
  deriving DecidableEq, Repr

inductive OledPhase where
  | uninitialized
  | waitBoot
  | ready
  | error
  deriving DecidableEq, Repr

abbrev Framebuffer := Nat → Nat → UInt8

structure OledStats where
  bootEventsSeen : UInt32 := 0
  tickEventsSeen : UInt32 := 0
  displayCommandsSeen : UInt32 := 0
  initAttempts : UInt32 := 0
  initSuccesses : UInt32 := 0
  initFailures : UInt32 := 0
  flushAttempts : UInt32 := 0
  flushSuccesses : UInt32 := 0
  flushFailures : UInt32 := 0
  retriesScheduled : UInt32 := 0
  lastI2cStatus : I2cStatus := .ok

/-- `ev_oled_actor_ctx_t`, with its ports left out. Bit `p` of the mask is for page `p`. -/
structure OledActor where
  device : I2cDevice
  controller : OledController
  state : OledPhase := .waitBoot
  lastI2cStatus : I2cStatus := .ok
  tickCounter : UInt32 := 0
  retryDueTick : UInt32 := 0
  retryDelayTicks : UInt32 := 5
  bootObserved : Bool := false
  pendingFlush : Bool := false
  dirtyPageMask : Nat := 0
  dirtyColumnStart : Nat → Nat := fun _ => oledWidth
  dirtyColumnEnd : Nat → Nat := fun _ => 0
  framebuffer : Framebuffer := fun _ _ => 0
  stagingFramebuffer : Framebuffer := fun _ _ => 0
  stats : OledStats := {}

structure OledPorts (P ω : Type) where
  i2c : I2cPort ω
  delivery : ActorPort P ω

abbrev OledState (P ω : Type) := DeviceState OledActor P ω

/-- `ev_oled_display_text_cmd_t`. -/
structure OledDisplayTextCmd where
  page : Nat
  column : Nat
  text : List UInt8

/-- `ev_oled_scene_t`, without its reserved byte. -/
structure OledScene where
  pageOffset : Nat
  columnOffset : Nat
  flags : UInt8
  lines : Nat → List UInt8

namespace OledActor

def glyphForChar (c : UInt8) : List UInt8 :=
  let index := if c < 32 ∨ 126 < c then 63 else c.toNat
  oledFont5x7.getD (index - 32) []

def boundedText (text : List UInt8) (maxLen : Nat) : List UInt8 :=
  (text.take maxLen).takeWhile (· ≠ 0)

def publishReady (ports : OledPorts P ω) (s : OledState P ω) : Result × OledState P ω :=
  s.publishEvent ports.delivery .oledReady .oled none

def writeStream (ports : OledPorts P ω) (data : List UInt8) (s : OledState P ω) :
    I2cStatus × OledState P ω :=
  let out := DeviceState.writeStream ports.i2c s.ctx.device data s
  (out.1, out.2.setCtx { out.2.ctx with
    lastI2cStatus := out.1, stats := { out.2.ctx.stats with lastI2cStatus := out.1 } })

/-- The loop that `ev_oled_actor_send_commands` and `ev_oled_actor_send_data` share. The length
of the data bounds the number of chunks. -/
def sendChunks (ports : OledPorts P ω) (control : UInt8) :
    Nat → List UInt8 → OledState P ω → Result × OledState P ω
  | 0, _, s => (.ok, s)
  | fuel + 1, data, s =>
    if data = [] then (.ok, s)
    else
      let out := writeStream ports (control :: data.take oledDataChunkBytes) s
      if out.1 ≠ .ok then (.errState, out.2)
      else sendChunks ports control fuel (data.drop oledDataChunkBytes) out.2

def sendCommands (ports : OledPorts P ω) (commands : List UInt8) (s : OledState P ω) :
    Result × OledState P ω :=
  sendChunks ports 0x00 commands.length commands s

def sendData (ports : OledPorts P ω) (data : List UInt8) (s : OledState P ω) :
    Result × OledState P ω :=
  sendChunks ports 0x40 data.length data s

def resetDirty (ctx : OledActor) : OledActor :=
  { ctx with
    pendingFlush := false
    dirtyPageMask := 0
    dirtyColumnStart := fun _ => oledWidth
    dirtyColumnEnd := fun _ => 0 }

def markDirty (ctx : OledActor) (page startColumn endColumn : Nat) : OledActor :=
  if oledPageCount ≤ page ∨ endColumn ≤ startColumn ∨ oledWidth < endColumn then ctx
  else
    { ctx with
      pendingFlush := true
      dirtyPageMask := ctx.dirtyPageMask ||| 1 <<< page
      dirtyColumnStart := Function.update ctx.dirtyColumnStart page
        (min startColumn (ctx.dirtyColumnStart page))
      dirtyColumnEnd := Function.update ctx.dirtyColumnEnd page
        (max endColumn (ctx.dirtyColumnEnd page)) }

def scheduleRetry (ctx : OledActor) : OledActor :=
  { ctx with
    state := .error
    retryDueTick := ctx.tickCounter + ctx.retryDelayTicks
    stats := { ctx.stats with retriesScheduled := ctx.stats.retriesScheduled + 1 } }

/-- The bytes of the columns from `start` on. -/
def pageSlice (pageData : Nat → UInt8) (start count : Nat) : List UInt8 :=
  (List.range' start count).map pageData

/-- The loop of `ev_oled_actor_apply_address_window` for an SH1106, a page address and a column
address before each chunk. -/
def applySh1106Window (ports : OledPorts P ω) (page endColumn : Nat) (pageData : Nat → UInt8) :
    Nat → Nat → OledState P ω → Result × OledState P ω
  | 0, _, s => (.ok, s)
  | fuel + 1, current, s =>
    if endColumn ≤ current then (.ok, s)
    else
      let physicalColumn := UInt8.ofNat (current + oledSh1106ColumnOffset)
      let pageAddress : UInt8 := 0xB0
      let lowColumn : UInt8 := 0x00
      let highColumn : UInt8 := 0x10
      let commands := sendCommands ports [pageAddress ||| UInt8.ofNat page,
        lowColumn ||| (physicalColumn &&& 0x0F), highColumn ||| ((physicalColumn >>> 4) &&& 0x0F)] s
      if commands.1 ≠ .ok then commands
      else
        let chunk := min oledDataChunkBytes (endColumn - current)
        let data := sendData ports (pageSlice pageData current chunk) commands.2
        if data.1 ≠ .ok then data
        else applySh1106Window ports page endColumn pageData fuel (current + chunk) data.2

def applyAddressWindow (ports : OledPorts P ω) (page startColumn endColumn : Nat)
    (pageData : Nat → UInt8) (s : OledState P ω) : Result × OledState P ω :=
  if oledPageCount ≤ page ∨ endColumn ≤ startColumn ∨ oledWidth < endColumn then (.errInvalidArg, s)
  else
    match s.ctx.controller with
    | .sh1106 =>
      applySh1106Window ports page endColumn pageData (endColumn - startColumn) startColumn s
    | .ssd1306 =>
      let commands := sendCommands ports [0x21, UInt8.ofNat (startColumn + oledSsd1306ColumnOffset),
        UInt8.ofNat (endColumn - 1 + oledSsd1306ColumnOffset), 0x22, UInt8.ofNat page,
        UInt8.ofNat page] s
      if commands.1 ≠ .ok then commands
      else sendData ports (pageSlice pageData startColumn (endColumn - startColumn)) commands.2

/-- The page loop of `ev_oled_actor_sync_full_framebuffer`, up to the first failure. -/
def syncPages (ports : OledPorts P ω) : List Nat → OledState P ω → Result × OledState P ω
  | [], s => (.ok, s)
  | page :: pages, s =>
    let out := applyAddressWindow ports page 0 oledWidth (s.ctx.framebuffer page) s
    if out.1 ≠ .ok then out else syncPages ports pages out.2

def syncFullFramebuffer (ports : OledPorts P ω) (s : OledState P ω) : Result × OledState P ω :=
  let baselineAttempts := s.ctx.stats.flushAttempts
  let baselineSuccesses := s.ctx.stats.flushSuccesses
  let out := syncPages ports (List.range oledPageCount) s
  let stats := { out.2.ctx.stats with flushAttempts := baselineAttempts + 1 }
  if out.1 ≠ .ok then
    (.ok, out.2.setCtx (scheduleRetry { out.2.ctx with
      stats := { stats with
        flushSuccesses := baselineSuccesses, flushFailures := stats.flushFailures + 1 } }))
  else
    (.ok, out.2.setCtx { out.2.ctx with
      stats := { stats with flushSuccesses := baselineSuccesses + 1 } })

/-- The inner loop of `ev_oled_actor_render_text_into`, on one row. -/
def renderGlyph : List UInt8 → Nat → (Nat → UInt8) → Nat → UInt8
  | [], _, row => row
  | byte :: glyph, target, row =>
    if oledWidth ≤ target then row
    else renderGlyph glyph ((target + 1) % 256) (Function.update row target byte)

/-- The outer loop, from character `idx` on. -/
def renderChars (column : Nat) : List UInt8 → Nat → (Nat → UInt8) → Nat → UInt8
  | [], _, row => row
  | c :: text, idx, row =>
    let dst := (column + idx * 6 % 256) % 256
    if oledWidth ≤ dst then row
    else renderChars column text (idx + 1) (renderGlyph (glyphForChar c) dst row)

def renderTextInto (framebuffer : Framebuffer) (cmd : OledDisplayTextCmd) : Result × Framebuffer :=
  if oledPageCount ≤ cmd.page ∨ oledWidth ≤ cmd.column then (.errOutOfRange, framebuffer)
  else
    let cleared := fun column =>
      if cmd.column ≤ column ∧ column < oledWidth then 0 else framebuffer cmd.page column
    (.ok, Function.update framebuffer cmd.page
      (renderChars cmd.column (boundedText cmd.text oledTextMaxChars) 0 cleared))

def terminated (text : List UInt8) : List UInt8 := text.set (oledTextMaxChars - 1) 0

/-- The line loop of `ev_oled_actor_prepare_scene_commit`. -/
def renderLines (scene : OledScene) : List Nat → Framebuffer → Result × Framebuffer
  | [], staging => (.ok, staging)
  | line :: lines, staging =>
    let page := (scene.pageOffset + line) % 256
    if oledPageCount ≤ page then renderLines scene lines staging
    else
      let out := renderTextInto staging ⟨page, scene.columnOffset, terminated (scene.lines line)⟩
      if out.1 ≠ .ok then out else renderLines scene lines out.2

/-- Marks a column whose staged byte differs from the shown one. -/
def markColumn (page : Nat) (ctx : OledActor) (column : Nat) : OledActor :=
  if ctx.stagingFramebuffer page column ≠ ctx.framebuffer page column then
    ctx.markDirty page column (column + 1)
  else ctx

def markPage (ctx : OledActor) (page : Nat) : OledActor :=
  (List.range oledWidth).foldl (markColumn page) ctx

def prepareSceneCommit (ctx : OledActor) (scene : OledScene) : Result × OledActor :=
  if oledWidth ≤ scene.columnOffset then (.errOutOfRange, ctx)
  else
    let staged : Result × Framebuffer :=
      if scene.flags &&& 0x01 ≠ 0 then
        renderLines scene (List.range oledSceneLineCount) fun _ _ => 0
      else (.ok, fun _ _ => 0)
    let ctx := { ctx with stagingFramebuffer := staged.2 }
    if staged.1 ≠ .ok then (staged.1, ctx)
    else (.ok, (List.range oledPageCount).foldl markPage (resetDirty ctx))

/-- The page loop of `ev_oled_actor_flush_pending`, up to the first failure. -/
def flushPages (ports : OledPorts P ω) : List Nat → OledState P ω → Result × OledState P ω
  | [], s => (.ok, s)
  | page :: pages, s =>
    let startColumn := s.ctx.dirtyColumnStart page
    let endColumn := s.ctx.dirtyColumnEnd page
    if s.ctx.dirtyPageMask.testBit page = false ∨ endColumn ≤ startColumn ∨ oledWidth < endColumn then
      flushPages ports pages s
    else
      let out := applyAddressWindow ports page startColumn endColumn (s.ctx.stagingFramebuffer page) s
      if out.1 ≠ .ok then out else flushPages ports pages out.2

def flushPending (ports : OledPorts P ω) (s : OledState P ω) : Result × OledState P ω :=
  if !s.ctx.pendingFlush then (.ok, s)
  else
    let out := flushPages ports (List.range oledPageCount) (s.setCtx { s.ctx with
      stats := { s.ctx.stats with flushAttempts := s.ctx.stats.flushAttempts + 1 } })
    let ctx := out.2.ctx
    if out.1 ≠ .ok then
      (.ok, out.2.setCtx (scheduleRetry { ctx with
        stats := { ctx.stats with flushFailures := ctx.stats.flushFailures + 1 } }))
    else
      let ctx := resetDirty { ctx with framebuffer := ctx.stagingFramebuffer }
      (.ok, out.2.setCtx { ctx with
        stats := { ctx.stats with flushSuccesses := ctx.stats.flushSuccesses + 1 } })

def initSequence : OledController → List UInt8
  | .sh1106 => oledSh1106Init
  | .ssd1306 => oledSsd1306Init

/-- A failed initialization is counted and tried again later. -/
def initFailed (s : OledState P ω) : Result × OledState P ω :=
  (.ok, s.setCtx (scheduleRetry { s.ctx with
    stats := { s.ctx.stats with initFailures := s.ctx.stats.initFailures + 1 } }))

/-- The part of `ev_oled_actor_try_initialize` behind the synchronization. -/
def enterReady (ports : OledPorts P ω) (s : OledState P ω) : Result × OledState P ω :=
  let ready := publishReady ports (s.setCtx { s.ctx with
    state := .ready
    stats := { s.ctx.stats with initSuccesses := s.ctx.stats.initSuccesses + 1 } })
  if ready.1 ≠ .ok then ready
  else if ready.2.ctx.pendingFlush then flushPending ports ready.2
  else (.ok, ready.2)

def tryInitialize (ports : OledPorts P ω) (s : OledState P ω) : Result × OledState P ω :=
  let commands := sendCommands ports (initSequence s.ctx.controller) (s.setCtx { s.ctx with
    stats := { s.ctx.stats with initAttempts := s.ctx.stats.initAttempts + 1 } })
  if commands.1 ≠ .ok then initFailed commands.2
  else
    let sync := syncFullFramebuffer ports commands.2
    if sync.1 ≠ .ok then initFailed sync.2 else enterReady ports sync.2

/-- The command in a payload of `sizeof(ev_oled_display_text_cmd_t)` bytes. -/
def readDisplayTextCmd (payload : Nat → UInt8) : OledDisplayTextCmd where
  page := (payload 0).toNat
  column := (payload 1).toNat
  text := terminated ((List.range' 2 oledTextMaxChars).map payload)

/-- The scene in a payload of `sizeof(ev_oled_scene_t)` bytes. -/
def readScene (payload : Nat → UInt8) : OledScene where
  pageOffset := (payload 0).toNat
  columnOffset := (payload 1).toNat
  flags := payload 2
  lines := fun line =>
    terminated ((List.range' (4 + oledTextMaxChars * line) oledTextMaxChars).map payload)

/-- Text is drawn over what is pending, or over what is shown when nothing is. -/
def seedStaging (ctx : OledActor) : OledActor :=
  if !ctx.pendingFlush then { ctx with stagingFramebuffer := ctx.framebuffer } else ctx

def handleDisplayText (s : OledState P ω) (msg : Inbound) : Result × OledState P ω :=
  match msg.payload with
  | none => (.errContract, s)
  | some payload =>
    if msg.payloadSize ≠ 24 then (.errContract, s)
    else
      let ctx := s.ctx.seedStaging
      let cmd := readDisplayTextCmd payload
      let rendered := renderTextInto ctx.stagingFramebuffer cmd
      let ctx := { ctx with
        stagingFramebuffer := rendered.2
        stats := { ctx.stats with displayCommandsSeen := ctx.stats.displayCommandsSeen + 1 } }
      if rendered.1 ≠ .ok then (.errContract, s.setCtx ctx)
      else (.ok, s.setCtx (ctx.markDirty cmd.page cmd.column oledWidth))

/-- The part of `ev_oled_actor_handle_commit_frame` behind the scene. -/
def commitStaged (ports : OledPorts P ω) (s : OledState P ω) : Result × OledState P ω :=
  if !s.ctx.pendingFlush then (.ok, s)
  else if s.ctx.state ≠ .ready then (.ok, s)
  else flushPending ports s

def handleCommitFrame (ports : OledPorts P ω) (s : OledState P ω) (msg : Inbound) :
    Result × OledState P ω :=
  match msg.payload with
  | none => commitStaged ports s
  | some payload =>
    if msg.payloadSize = 0 then commitStaged ports s
    else if msg.payloadSize ≠ 70 then (.errContract, s)
    else
      let prepared := s.ctx.prepareSceneCommit (readScene payload)
      if prepared.1 ≠ .ok then (.errContract, s.setCtx prepared.2)
      else commitStaged ports (s.setCtx prepared.2)

def handleTick (ports : OledPorts P ω) (s : OledState P ω) : Result × OledState P ω :=
  let s := s.setCtx { s.ctx with
    tickCounter := s.ctx.tickCounter + 1
    stats := { s.ctx.stats with tickEventsSeen := s.ctx.stats.tickEventsSeen + 1 } }
  if !s.ctx.bootObserved then (.ok, s)
  else
    match s.ctx.state with
    | .ready => if s.ctx.pendingFlush then flushPending ports s else (.ok, s)
    | .waitBoot => tryInitialize ports s
    | .error =>
      if (s.ctx.tickCounter - s.ctx.retryDueTick).toInt32 < 0 then (.ok, s)
      else tryInitialize ports s
    | .uninitialized => (.ok, s)

/-- The context that `ev_oled_actor_init` leaves. -/
def fresh (device : I2cDevice) (controller : OledController) : OledActor where
  device := device
  controller := controller

def init (device : I2cDevice) (controller : OledController) : Result × Option OledActor :=
  if 0x7F < device.address7bit then (.errInvalidArg, none)
  else (.ok, some (fresh device controller))

def handle (ports : OledPorts P ω) (s : OledState P ω) (msg : Inbound) : Result × OledState P ω :=
  match msg.eventId with
  | .bootCompleted =>
    tryInitialize ports (s.setCtx { s.ctx with
      bootObserved := true
      stats := { s.ctx.stats with bootEventsSeen := s.ctx.stats.bootEventsSeen + 1 } })
  | .tick1s => handleTick ports s
  | .oledDisplayTextCmd => handleDisplayText s msg
  | .oledCommitFrame => handleCommitFrame ports s msg
  | _ => (.errContract, s)

def step (ports : OledPorts P ω) : OledState P ω → Inbound → OledState P ω :=
  Running.step (handle ports)

/-- Port calls that change nothing in the context but the last status and the counters. -/
def Transfers (s s' : OledState P ω) : Prop :=
  s.OnlyCalls s' ∧
    ∃ status stats, s'.ctx = { s.ctx with lastI2cStatus := status, stats := stats }

namespace Transfers

theorem refl (s : OledState P ω) : Transfers s s := ⟨.refl s, _, _, rfl⟩

theorem trans {s t u : OledState P ω} (hst : Transfers s t) (htu : Transfers t u) :
    Transfers s u := by
  obtain ⟨hcalls, status, stats, hctx⟩ := hst
  obtain ⟨hcalls', status', stats', hctx'⟩ := htu
  refine ⟨hcalls.trans hcalls', status', stats', ?_⟩
  rw [hctx', hctx]

end Transfers

theorem writeStream_transfers (ports : OledPorts P ω) (data : List UInt8) (s : OledState P ω) :
    Transfers s (writeStream ports data s).2 :=
  ⟨(Running.onlyCalls_call _ _ s).setCtx _, _, _, rfl⟩

theorem sendChunks_transfers (ports : OledPorts P ω) (control : UInt8) (fuel : Nat) :
    ∀ (data : List UInt8) (s : OledState P ω),
      Transfers s (sendChunks ports control fuel data s).2 := by
  induction fuel with
  | zero =>
    intro data s
    exact .refl s
  | succ fuel ih =>
    intro data s
    unfold sendChunks
    by_cases hend : data = []
    · rw [if_pos hend]
      exact .refl s
    · rw [if_neg hend]
      have hwrite := writeStream_transfers ports (control :: data.take oledDataChunkBytes) s
      by_cases hstatus : (writeStream ports (control :: data.take oledDataChunkBytes) s).1 ≠ .ok
      · simp only [if_pos hstatus]
        exact hwrite
      · simp only [if_neg hstatus]
        exact hwrite.trans (ih _ _)

theorem sendCommands_transfers (ports : OledPorts P ω) (commands : List UInt8) (s : OledState P ω) :
    Transfers s (sendCommands ports commands s).2 :=
  sendChunks_transfers ports _ _ _ _

theorem sendData_transfers (ports : OledPorts P ω) (data : List UInt8) (s : OledState P ω) :
    Transfers s (sendData ports data s).2 :=
  sendChunks_transfers ports _ _ _ _

theorem applySh1106Window_transfers (ports : OledPorts P ω) (page endColumn : Nat)
    (pageData : Nat → UInt8) (fuel : Nat) :
    ∀ (current : Nat) (s : OledState P ω),
      Transfers s (applySh1106Window ports page endColumn pageData fuel current s).2 := by
  induction fuel with
  | zero =>
    intro current s
    exact .refl s
  | succ fuel ih =>
    intro current s
    unfold applySh1106Window
    split
    · exact .refl s
    · simp only
      split
      · exact sendCommands_transfers ports _ s
      · split
        · exact (sendCommands_transfers ports _ s).trans (sendData_transfers ports _ _)
        · exact ((sendCommands_transfers ports _ s).trans (sendData_transfers ports _ _)).trans (ih _ _)

theorem applyAddressWindow_transfers (ports : OledPorts P ω) (page startColumn endColumn : Nat)
    (pageData : Nat → UInt8) (s : OledState P ω) :
    Transfers s (applyAddressWindow ports page startColumn endColumn pageData s).2 := by
  unfold applyAddressWindow
  split
  · exact .refl s
  · split
    · exact applySh1106Window_transfers ports _ _ _ _ _ s
    · simp only
      split
      · exact sendCommands_transfers ports _ s
      · exact (sendCommands_transfers ports _ s).trans (sendData_transfers ports _ _)

theorem syncPages_transfers (ports : OledPorts P ω) (pages : List Nat) :
    ∀ s : OledState P ω, Transfers s (syncPages ports pages s).2 := by
  induction pages with
  | nil => exact .refl
  | cons page pages ih =>
    intro s
    have hpage := applyAddressWindow_transfers ports page 0 oledWidth (s.ctx.framebuffer page) s
    unfold syncPages
    simp only
    split
    · exact hpage
    · exact hpage.trans (ih _)

theorem flushPages_transfers (ports : OledPorts P ω) (pages : List Nat) :
    ∀ s : OledState P ω, Transfers s (flushPages ports pages s).2 := by
  induction pages with
  | nil => exact .refl
  | cons page pages ih =>
    intro s
    have hpage := applyAddressWindow_transfers ports page (s.ctx.dirtyColumnStart page)
      (s.ctx.dirtyColumnEnd page) (s.ctx.stagingFramebuffer page) s
    unfold flushPages
    simp only
    split
    · exact ih s
    · split
      · exact hpage
      · exact hpage.trans (ih _)

end OledActor

end EventFramework
