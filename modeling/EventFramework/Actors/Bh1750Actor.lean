import EventFramework.Drivers.Bh1750Driver

/-!
# The BH1750 actor

`ev_bh1750_actor.c`: it starts a measurement, waits for its deadline by counting ticks of 100 ms,
reads it and starts the next one. A failure of the bus delays the next attempt by a back-off that
doubles.
-/

namespace EventFramework
set_option autoImplicit false

variable {P ω : Type}

/-- `ev_bh1750_actor_ctx_t`, with its ports left out. -/
structure Bh1750Actor where
  device : I2cDevice
  mode : Bh1750Mode
  measurementWaitMs : UInt16
  actorNowMs : UInt32 := 0
  measurementDeadlineMs : UInt32 := 0
  retryDeadlineMs : UInt32 := 0
  retryBackoffMs : UInt32 := 0
  measurementPending : Bool := false
  sensorPresent : Bool := false
  readyPublished : Bool := false
  lastReadOk : Bool := false
  lightValid : Bool := false
  lastRaw : UInt16 := 0
  lastMilliLux : UInt32 := 0
  measurementsStarted : UInt32 := 0
  measurementsOk : UInt32 := 0
  noDeviceFailures : UInt32 := 0
  ioFailures : UInt32 := 0
  optionalRetryBackoffs : UInt32 := 0
  optionalRetrySkips : UInt32 := 0
  deadlineSkips : UInt32 := 0
  noncanonicalTicksIgnored : UInt32 := 0
  deriving DecidableEq

structure Bh1750Ports (P ω : Type) where
  i2c : I2cStreamPort ω
  delivery : ActorPort P ω

abbrev Bh1750State (P ω : Type) := Running Bh1750Actor P I2cStreamCall ω

/-- A call from outside: a message, or a new mode by its value. -/
inductive Bh1750Input where
  | message (msg : Inbound)
  | configureMode (value : UInt32)

def bh1750TickDeltaMs : UInt32 := 100

def bh1750OptionalRetryInitialMs : UInt32 := 1000

def bh1750OptionalRetryMaxMs : UInt32 := 10000

namespace Bh1750Actor

def deadlineDue (nowMs deadlineMs : UInt32) : Bool := decide (0 ≤ (nowMs - deadlineMs).toInt32)

def publishReady (ports : Bh1750Ports P ω) (s : Bh1750State P ω) : Result × Bh1750State P ω :=
  s.publishEvent ports.delivery .bh1750Ready .bh1750 none

/-- The bytes of `ev_light_payload_t`, its padding as zeros. -/
def lightBytes (raw : UInt16) (milliLux : UInt32) : List UInt8 :=
  wordBytes milliLux ++ [raw.toUInt8, (raw >>> 8).toUInt8, 0, 0]

def publishLight (ports : Bh1750Ports P ω) (raw : UInt16) (milliLux : UInt32)
    (s : Bh1750State P ω) : Result × Bh1750State P ω :=
  s.publishEvent ports.delivery .lightUpdated .bh1750 (some (lightBytes raw milliLux))

def clearOptionalBackoff (ctx : Bh1750Actor) : Bh1750Actor :=
  { ctx with retryBackoffMs := 0, retryDeadlineMs := 0 }

def nextBackoff (backoffMs : UInt32) : UInt32 :=
  if backoffMs = 0 then bh1750OptionalRetryInitialMs
  else if backoffMs < bh1750OptionalRetryMaxMs / 2 then backoffMs * 2
  else bh1750OptionalRetryMaxMs

def scheduleOptionalRetry (ctx : Bh1750Actor) : Bh1750Actor :=
  let next := nextBackoff ctx.retryBackoffMs
  { ctx with
    retryBackoffMs := next
    retryDeadlineMs := ctx.actorNowMs + next
    optionalRetryBackoffs := ctx.optionalRetryBackoffs + 1 }

def optionalRetryDue (ctx : Bh1750Actor) : Bool :=
  if ctx.retryBackoffMs = 0 then true else deadlineDue ctx.actorNowMs ctx.retryDeadlineMs

def countFailure (ctx : Bh1750Actor) (status : Result) : Bh1750Actor :=
  if status = .errNotFound then
    { ctx with sensorPresent := false, noDeviceFailures := ctx.noDeviceFailures + 1 }
  else { ctx with ioFailures := ctx.ioFailures + 1 }

def recordStart (ctx : Bh1750Actor) (status : Result) : Bh1750Actor :=
  if status = .ok then
    let ctx := { ctx with
      sensorPresent := true
      measurementPending := true
      measurementDeadlineMs := ctx.actorNowMs + ctx.measurementWaitMs.toUInt32 }
    let ctx := ctx.clearOptionalBackoff
    { ctx with measurementsStarted := ctx.measurementsStarted + 1 }
  else
    ({ ctx with measurementPending := false }.countFailure status).scheduleOptionalRetry

def startMeasurement (ports : Bh1750Ports P ω) (s : Bh1750State P ω) :
    Result × Bh1750State P ω :=
  let out := Bh1750Driver.startMeasurement ports.i2c s.ctx.device s.ctx.mode s
  (.ok, out.2.setCtx (out.2.ctx.recordStart out.1))

def boot (ports : Bh1750Ports P ω) (s : Bh1750State P ω) : Result × Bh1750State P ω :=
  let out := Bh1750Driver.powerOn ports.i2c s.ctx.device s
  if out.1 ≠ .ok then (.ok, out.2.setCtx (out.2.ctx.recordStart out.1))
  else startMeasurement ports out.2

/-- The branch of `ev_bh1750_actor_try_read` for a measurement that was read. -/
def acceptLight (ports : Bh1750Ports P ω) (raw : UInt16) (milliLux : UInt32) (s : Bh1750State P ω) :
    Result × Bh1750State P ω :=
  let s := s.setCtx { s.ctx with
    sensorPresent := true
    lastReadOk := true
    lastRaw := raw
    lastMilliLux := milliLux
    lightValid := true
    measurementsOk := s.ctx.measurementsOk + 1 }
  let ready := if !s.ctx.readyPublished then publishReady ports s else (.ok, s)
  if ready.1 ≠ .ok then ready
  else publishLight ports raw milliLux (ready.2.setCtx { ready.2.ctx with readyPublished := true })

def rejectReading (ctx : Bh1750Actor) (rc : Result) : Bh1750Actor :=
  ({ ctx with lastReadOk := false }.countFailure rc).scheduleOptionalRetry

def tryRead (ports : Bh1750Ports P ω) (s : Bh1750State P ω) : Result × Bh1750State P ω :=
  if !s.ctx.measurementPending then (.ok, s)
  else if !deadlineDue s.ctx.actorNowMs s.ctx.measurementDeadlineMs then
    (.ok, s.setCtx { s.ctx with deadlineSkips := s.ctx.deadlineSkips + 1 })
  else
    let read := Bh1750Driver.readMeasurement ports.i2c s.ctx.device
      (s.setCtx { s.ctx with measurementPending := false })
    if read.1.1 = .ok then
      let published := acceptLight ports read.1.2.1 read.1.2.2 read.2
      -- A failed publication returns without a restart.
      if published.1 = .ok then startMeasurement ports published.2 else published
    else (.ok, read.2.setCtx (read.2.ctx.rejectReading read.1.1))

def tick (ports : Bh1750Ports P ω) (elapsedMs : UInt32) (s : Bh1750State P ω) :
    Result × Bh1750State P ω :=
  let s := s.setCtx { s.ctx with actorNowMs := s.ctx.actorNowMs + elapsedMs }
  if !s.ctx.measurementPending then
    if !s.ctx.optionalRetryDue then
      (.ok, s.setCtx { s.ctx with optionalRetrySkips := s.ctx.optionalRetrySkips + 1 })
    else if !s.ctx.sensorPresent then boot ports s
    else startMeasurement ports s
  else tryRead ports s

def init (device : I2cDevice) : Result × Option Bh1750Actor :=
  if Bh1750Driver.validateAddr7 device.address7bit ≠ .ok then (.errInvalidArg, none)
  else
    (.ok, some {
      device := device
      mode := .oneTimeHighRes
      measurementWaitMs := Bh1750Driver.measurementWaitMs .oneTimeHighRes })

def configureMode (ctx : Bh1750Actor) (value : UInt32) : Result × Bh1750Actor :=
  if ctx.measurementPending then (.errState, ctx)
  else
    match Bh1750Driver.validateMode value with
    | (_, some mode) =>
      (.ok, { ctx with mode := mode, measurementWaitMs := Bh1750Driver.measurementWaitMs mode })
    | (rc, none) => (rc, ctx)

def handle (ports : Bh1750Ports P ω) (s : Bh1750State P ω) (msg : Inbound) :
    Result × Bh1750State P ω :=
  match msg.eventId with
  | .bootCompleted => boot ports s
  | .tick100ms => tick ports bh1750TickDeltaMs s
  | .tick1s =>
    (.ok, s.setCtx { s.ctx with noncanonicalTicksIgnored := s.ctx.noncanonicalTicksIgnored + 1 })
  | _ => (.errContract, s)

def step (ports : Bh1750Ports P ω) (s : Bh1750State P ω) : Bh1750Input → Bh1750State P ω
  | .message msg => Running.step (handle ports) s msg
  | .configureMode value => s.setCtx (s.ctx.configureMode value).2

def start (ctx : Bh1750Actor) (outside : ω) : Bh1750State P ω where
  ctx := ctx
  world := { outside := outside }

end Bh1750Actor

end EventFramework
