import EventFramework.Actors.DevicePorts

/-!
# The RTC actor

`ev_rtc_actor.c`: it samples the time registers of a DS3231, after boot, on the falling edge of
the square wave and, as a fallback, on the tick of one second.
-/

namespace EventFramework
set_option autoImplicit false

variable {P ω : Type}

def rtcFallbackPollThresholdTicks : UInt32 := 2

def irqEdgeFalling : UInt8 := 2

/-- `ev_time_payload_t`. -/
structure TimePayload where
  unixTime : UInt32 := 0
  year : UInt16 := 0
  month : UInt8 := 0
  day : UInt8 := 0
  weekday : UInt8 := 0
  hours : UInt8 := 0
  minutes : UInt8 := 0
  seconds : UInt8 := 0
  deriving DecidableEq, Repr

/-- `ev_rtc_actor_ctx_t`, with its ports left out. -/
structure RtcActor where
  device : I2cDevice
  sqwLineId : UInt8
  sqwEnabled : Bool := false
  timeValid : Bool := false
  lastTime : TimePayload := {}
  irqSamplesSeen : UInt32 := 0
  publishedUpdates : UInt32 := 0
  fallbackPolls : UInt32 := 0
  readFailures : UInt32 := 0
  ticksSinceLastIrq : UInt32 := 0
  deriving DecidableEq, Repr

structure RtcPorts (P ω : Type) where
  i2c : I2cPort ω
  irq : IrqPort ω
  delivery : ActorPort P ω

abbrev RtcState (P ω : Type) := DeviceState RtcActor P ω

namespace TimePayload

def bytes (payload : TimePayload) : List UInt8 :=
  wordBytes payload.unixTime ++ [payload.year.toUInt8, (payload.year >>> 8).toUInt8, payload.month,
    payload.day, payload.weekday, payload.hours, payload.minutes, payload.seconds]

end TimePayload

namespace RtcActor

def bcdToDecimal (bcd : UInt8) : UInt8 := (bcd >>> 4) * 10 + (bcd &&& 0x0F)

def decodeHours (rawHours : UInt8) : UInt8 :=
  if rawHours &&& 0x40 ≠ 0 then
    let hours := bcdToDecimal (rawHours &&& 0x1F)
    if rawHours &&& 0x20 ≠ 0 then
      if hours < 12 then hours + 12 else hours
    else if hours = 12 then 0
    else hours
  else bcdToDecimal (rawHours &&& 0x3F)

def isLeapYear (year : UInt16) : Bool :=
  if year % 400 = 0 then true
  else if year % 100 = 0 then false
  else year % 4 = 0

def daysInMonth (year : UInt16) (month : UInt8) : UInt8 :=
  if month = 0 ∨ 12 < month then 0
  else if month = 2 ∧ isLeapYear year = true then 29
  else [31, 28, 31, 30, 31, 30, 31, 31, 30, 31, 30, 31].getD (month.toNat - 1) 0

def payloadIsValid (payload : TimePayload) : Bool :=
  if payload.month = 0 ∨ 12 < payload.month ∨ payload.weekday = 0 ∨ 7 < payload.weekday ∨
      23 < payload.hours ∨ 59 < payload.minutes ∨ 59 < payload.seconds then false
  else if payload.day = 0 ∨ daysInMonth payload.year payload.month < payload.day then false
  else true

def buildUnixTime (payload : TimePayload) : UInt32 :=
  let years := (List.range' 1970 (payload.year.toNat - 1970)).map UInt16.ofNat
  let months := (List.range' 1 (payload.month.toNat - 1)).map UInt8.ofNat
  let days := years.foldl (fun days year => days + if isLeapYear year then 366 else 365) 0
  let days := months.foldl (fun days month => days + (daysInMonth payload.year month).toUInt32) days
  let days := days + (payload.day.toUInt32 - 1)
  days * 86400 + payload.hours.toUInt32 * 3600 + payload.minutes.toUInt32 * 60 +
    payload.seconds.toUInt32

/-- The fields of the payload but `unix_time`, from the seven time registers. -/
def decodeRegisters (rawTime : Nat → UInt8) : TimePayload where
  seconds := bcdToDecimal (rawTime 0 &&& 0x7F)
  minutes := bcdToDecimal (rawTime 1 &&& 0x7F)
  hours := decodeHours (rawTime 2)
  weekday := bcdToDecimal (rawTime 3 &&& 0x07)
  day := bcdToDecimal (rawTime 4 &&& 0x3F)
  month := bcdToDecimal (rawTime 5 &&& 0x1F)
  year :=
    let year := 2000 + (bcdToDecimal (rawTime 6)).toUInt16
    if rawTime 5 &&& 0x80 ≠ 0 then year + 100 else year

def publishReady (ports : RtcPorts P ω) (s : RtcState P ω) : Result × RtcState P ω :=
  s.publishEvent ports.delivery .rtcReady .rtc none

def publishTimeUpdate (ports : RtcPorts P ω) (payload : TimePayload) (s : RtcState P ω) :
    Result × RtcState P ω :=
  let out := s.publishEvent ports.delivery .timeUpdated .rtc (some payload.bytes)
  if out.1 = .ok then
    (out.1, out.2.setCtx { out.2.ctx with publishedUpdates := out.2.ctx.publishedUpdates + 1 })
  else out

def enableSquareWave (ports : RtcPorts P ω) (s : RtcState P ω) : Result × RtcState P ω :=
  let out := DeviceState.writeRegs ports.i2c s.ctx.device 0x0E [0x00] s
  if out.1 ≠ .ok then (.errState, out.2)
  else DeviceState.irqEnable ports.irq out.2.ctx.sqwLineId true out.2

def readTimePayload (ports : RtcPorts P ω) (s : RtcState P ω) :
    (Result × TimePayload) × RtcState P ω :=
  let out := DeviceState.readRegs ports.i2c s.ctx.device 0x00 7 s
  if out.1.1 ≠ .ok then ((.errState, {}), out.2)
  else
    let payload := decodeRegisters out.1.2
    if !payloadIsValid payload then ((.ok, payload), out.2)
    else ((.ok, { payload with unixTime := buildUnixTime payload }), out.2)

/-- The part of `ev_rtc_actor_try_refresh_time` that follows an accepted sample. -/
def acceptTime (ports : RtcPorts P ω) (payload : TimePayload) (s : RtcState P ω) :
    Result × RtcState P ω :=
  let changed := !s.ctx.timeValid || s.ctx.lastTime != payload
  let wasValid := s.ctx.timeValid
  let s := s.setCtx { s.ctx with lastTime := payload, timeValid := true }
  let ready := if !wasValid then publishReady ports s else (.ok, s)
  if ready.1 ≠ .ok then ready
  else if !changed then (.ok, ready.2)
  else publishTimeUpdate ports payload ready.2

def tryRefreshTime (ports : RtcPorts P ω) (fallbackPoll : Bool) (s : RtcState P ω) :
    Result × RtcState P ω :=
  let s := if fallbackPoll then
    s.setCtx { s.ctx with fallbackPolls := s.ctx.fallbackPolls + 1 } else s
  let out := readTimePayload ports s
  if out.1.1 ≠ .ok ∨ payloadIsValid out.1.2 = false then
    (.ok, out.2.setCtx { out.2.ctx with readFailures := out.2.ctx.readFailures + 1 })
  else acceptTime ports out.1.2 out.2

/-- `ev_irq_sample_t` has its line, its edge and its level in the first three bytes of eight. -/
def handleGpioIrq (ports : RtcPorts P ω) (s : RtcState P ω) (msg : Inbound) :
    Result × RtcState P ω :=
  match msg.payload with
  | none => (.errContract, s)
  | some sample =>
    if msg.payloadSize ≠ 8 then (.errContract, s)
    else if sample 0 ≠ s.ctx.sqwLineId ∨ sample 1 ≠ irqEdgeFalling ∨ sample 2 ≠ 0 then (.ok, s)
    else
      tryRefreshTime ports false (s.setCtx { s.ctx with
        irqSamplesSeen := s.ctx.irqSamplesSeen + 1
        ticksSinceLastIrq := 0 })

/-- The context that `ev_rtc_actor_init` leaves. -/
def fresh (device : I2cDevice) (sqwLineId : UInt8) : RtcActor where
  device := device
  sqwLineId := sqwLineId

def init (device : I2cDevice) (sqwLineId : UInt8) : Result × Option RtcActor :=
  if 0x7F < device.address7bit then (.errInvalidArg, none)
  else (.ok, some (fresh device sqwLineId))

def handle (ports : RtcPorts P ω) (s : RtcState P ω) (msg : Inbound) : Result × RtcState P ω :=
  match msg.eventId with
  | .bootCompleted => tryRefreshTime ports false s
  | .mcp23008Ready =>
    let out := enableSquareWave ports s
    (.ok, out.2.setCtx { out.2.ctx with sqwEnabled := out.1 == .ok })
  | .gpioIrq => handleGpioIrq ports s msg
  | .tick1s =>
    let s := s.setCtx { s.ctx with ticksSinceLastIrq := s.ctx.ticksSinceLastIrq + 1 }
    if !s.ctx.sqwEnabled || rtcFallbackPollThresholdTicks ≤ s.ctx.ticksSinceLastIrq then
      tryRefreshTime ports true s
    else (.ok, s)
  | _ => (.errContract, s)

def step (ports : RtcPorts P ω) : RtcState P ω → Inbound → RtcState P ω :=
  Running.step (handle ports)

end RtcActor

end EventFramework
