import EventFramework.Drivers.Ds18b20Driver

/-!
# The DS18B20 actor

`ev_ds18b20_actor.c`: it starts a conversion, waits for its deadline by counting ticks of
100 ms, reads the scratchpad and starts the next conversion.
-/

namespace EventFramework
set_option autoImplicit false

variable {P ω : Type}

/-- `ev_ds18b20_actor_ctx_t`, with its ports left out. -/
structure Ds18b20Actor where
  conversionPending : Bool := false
  sensorPresent : Bool := false
  resolutionBits : UInt8
  conversionWaitMs : UInt16
  actorNowMs : UInt32 := 0
  conversionStartedAtMs : UInt32 := 0
  conversionDeadlineMs : UInt32 := 0
  lastReadOk : Bool := false
  tempValid : Bool := false
  lastCentiCelsius : Int16 := 0
  conversionsStarted : UInt32 := 0
  scratchpadReadsOk : UInt32 := 0
  crcFailures : UInt32 := 0
  noDeviceFailures : UInt32 := 0
  ioFailures : UInt32 := 0
  conversionDeadlineSkips : UInt32 := 0
  noncanonicalTicksIgnored : UInt32 := 0
  deriving DecidableEq

structure Ds18b20Ports (P ω : Type) where
  onewire : OnewirePort ω
  delivery : ActorPort P ω

abbrev Ds18b20State (P ω : Type) := DeviceState Ds18b20Actor P ω

/-- A call from outside: a message, or a new resolution. -/
inductive Ds18b20Input where
  | message (msg : Inbound)
  | configureResolution (resolutionBits : UInt8)

namespace Ds18b20Actor

def deadlineDue (nowMs deadlineMs : UInt32) : Bool := decide (0 ≤ (nowMs - deadlineMs).toInt32)

def resolutionIsValid (resolutionBits : UInt8) : Bool :=
  decide (9 ≤ resolutionBits) && decide (resolutionBits ≤ 12)

def publishReady (ports : Ds18b20Ports P ω) (s : Ds18b20State P ω) :
    Result × Ds18b20State P ω :=
  s.publishEvent ports.delivery .ds18b20Ready .ds18b20 none

def publishTemperature (ports : Ds18b20Ports P ω) (centiCelsius : Int16) (s : Ds18b20State P ω) :
    Result × Ds18b20State P ω :=
  let raw := centiCelsius.toUInt16
  s.publishEvent ports.delivery .tempUpdated .ds18b20 (some [raw.toUInt8, (raw >>> 8).toUInt8])

def recordStartResult (ctx : Ds18b20Actor) (status : Result) : Ds18b20Actor :=
  if status = .ok then
    { ctx with
      sensorPresent := true
      conversionPending := true
      conversionStartedAtMs := ctx.actorNowMs
      conversionDeadlineMs := ctx.actorNowMs + ctx.conversionWaitMs.toUInt32
      conversionsStarted := ctx.conversionsStarted + 1 }
  else
    let ctx := { ctx with sensorPresent := false, conversionPending := false }
    if status = .errNotFound then { ctx with noDeviceFailures := ctx.noDeviceFailures + 1 }
    else { ctx with ioFailures := ctx.ioFailures + 1 }

def startConversion (ports : Ds18b20Ports P ω) (s : Ds18b20State P ω) :
    Result × Ds18b20State P ω :=
  let out := Ds18b20Driver.startConversionSkipRom ports.onewire s
  (.ok, out.2.setCtx (out.2.ctx.recordStartResult out.1))

def recordReadFailure (ctx : Ds18b20Actor) (rc : Result) : Ds18b20Actor :=
  let ctx := { ctx with lastReadOk := false }
  if rc = .errContract then { ctx with crcFailures := ctx.crcFailures + 1 }
  else if rc = .errNotFound then
    { ctx with sensorPresent := false, noDeviceFailures := ctx.noDeviceFailures + 1 }
  else if rc = .errState then { ctx with ioFailures := ctx.ioFailures + 1 }
  else ctx

/-- The branch of `ev_ds18b20_actor_try_read` for a decoded measurement. -/
def acceptTemperature (ports : Ds18b20Ports P ω) (centiCelsius : Int16) (s : Ds18b20State P ω) :
    Result × Ds18b20State P ω :=
  let wasValid := s.ctx.tempValid
  let s := s.setCtx { s.ctx with
    sensorPresent := true
    lastReadOk := true
    tempValid := true
    lastCentiCelsius := centiCelsius
    scratchpadReadsOk := s.ctx.scratchpadReadsOk + 1 }
  let ready := if !wasValid then publishReady ports s else (.ok, s)
  if ready.1 ≠ .ok then ready else publishTemperature ports centiCelsius ready.2

def readTemperature (ports : Ds18b20Ports P ω) (s : Ds18b20State P ω) :
    (Result × Int16) × Ds18b20State P ω :=
  let out := Ds18b20Driver.readScratchpadSkipRom ports.onewire s
  if out.1.1 = .ok then
    let decoded := Ds18b20Driver.decodeCentiCelsius out.1.2
    ((decoded.1, decoded.2.getD 0), out.2)
  else ((out.1.1, 0), out.2)

def tryRead (ports : Ds18b20Ports P ω) (s : Ds18b20State P ω) : Result × Ds18b20State P ω :=
  if !s.ctx.conversionPending then (.ok, s)
  else if !deadlineDue s.ctx.actorNowMs s.ctx.conversionDeadlineMs then
    (.ok, s.setCtx { s.ctx with conversionDeadlineSkips := s.ctx.conversionDeadlineSkips + 1 })
  else
    let read := readTemperature ports (s.setCtx { s.ctx with conversionPending := false })
    let published :=
      if read.1.1 = .ok then acceptTemperature ports read.1.2 read.2
      else (.ok, read.2.setCtx (read.2.ctx.recordReadFailure read.1.1))
    -- A failed publication returns without a restart.
    if published.1 = .ok then
      let restart := Ds18b20Driver.startConversionSkipRom ports.onewire published.2
      (.ok, restart.2.setCtx (restart.2.ctx.recordStartResult restart.1))
    else published

def handleBoot (ports : Ds18b20Ports P ω) (s : Ds18b20State P ω) : Result × Ds18b20State P ω :=
  startConversion ports s

def handleTick (ports : Ds18b20Ports P ω) (elapsedMs : UInt32) (s : Ds18b20State P ω) :
    Result × Ds18b20State P ω :=
  tryRead ports (s.setCtx { s.ctx with actorNowMs := s.ctx.actorNowMs + elapsedMs })

def init : Ds18b20Actor where
  resolutionBits := ds18b20DefaultResolutionBits
  conversionWaitMs := Ds18b20Driver.conversionTimeMs ds18b20DefaultResolutionBits

def configureResolution (ctx : Ds18b20Actor) (resolutionBits : UInt8) : Result × Ds18b20Actor :=
  if !resolutionIsValid resolutionBits then (.errOutOfRange, ctx)
  else if ctx.conversionPending then (.errState, ctx)
  else
    (.ok, { ctx with
      resolutionBits := resolutionBits
      conversionWaitMs := Ds18b20Driver.conversionTimeMs resolutionBits })

def handle (ports : Ds18b20Ports P ω) (s : Ds18b20State P ω) (msg : Inbound) :
    Result × Ds18b20State P ω :=
  match msg.eventId with
  | .bootCompleted => handleBoot ports s
  | .tick100ms => handleTick ports 100 s
  | .tick1s =>
    tryRead ports (s.setCtx { s.ctx with
      noncanonicalTicksIgnored := s.ctx.noncanonicalTicksIgnored + 1 })
  | _ => (.errContract, s)

def step (ports : Ds18b20Ports P ω) (s : Ds18b20State P ω) : Ds18b20Input → Ds18b20State P ω
  | .message msg => Running.step (handle ports) s msg
  | .configureResolution resolutionBits => s.setCtx (s.ctx.configureResolution resolutionBits).2

theorem readTemperature_quiet (ports : Ds18b20Ports P ω) (s : Ds18b20State P ω) :
    (readTemperature ports s).2.ctx = s.ctx ∧ s.OnlyCalls (readTemperature ports s).2 := by
  obtain ⟨hctx, hcalls⟩ := Ds18b20Driver.readScratchpadSkipRom_quiet ports.onewire s
  unfold readTemperature
  simp only
  split <;> exact ⟨hctx, hcalls⟩

end Ds18b20Actor

end EventFramework
