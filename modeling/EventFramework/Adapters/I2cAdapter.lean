import EventFramework.Actors.DevicePorts

/-!
# The I2C adapter

The four transactions of `ev_i2c_adapter.c`: a GPIO software master on two open-drain lines under one
mutex. The lines, the timer and the mutex are those of an `I2cHal` and may do anything.
-/

namespace EventFramework
set_option autoImplicit false

variable {ε α : Type}

/-- The functions of the SDK that the adapter calls. `getSda` and `getScl` return the level of the
line, `mutexTake` whether the mutex was taken within its timeout. -/
structure I2cHal (ε : Type) where
  setSda : Bool → ε → ε
  setScl : Bool → ε → ε
  getSda : ε → Bool × ε
  getScl : ε → Bool × ε
  getTime : ε → Int × ε
  delayUs : Nat → ε → ε
  mutexTake : ε → Bool × ε
  mutexGive : ε → ε

inductive I2cPhase where
  | idle
  | start
  | addrW
  | reg
  | dataW
  | restart
  | addrR
  | dataR
  | finalNack
  | stop
  | release
  deriving DecidableEq, Repr

/-- `ev_esp8266_i2c_adapter_ctx_t`. -/
structure I2cCtx where
  portNum : UInt8 := 0
  configured : Bool := false
  transactionsStarted : UInt32 := 0
  transactionsFailed : UInt32 := 0
  nacks : UInt32 := 0
  timeouts : UInt32 := 0
  busLocked : UInt32 := 0
  busRecoveries : UInt32 := 0
  busRecoveryFailures : UInt32 := 0
  addressWriteAcks : UInt32 := 0
  addressWriteNacks : UInt32 := 0
  addressReadAcks : UInt32 := 0
  addressReadNacks : UInt32 := 0
  dataWriteAcks : UInt32 := 0
  dataWriteNacks : UInt32 := 0
  readBytes : UInt32 := 0
  readFinalNackSent : UInt32 := 0
  stopAttempted : UInt32 := 0
  stopOk : UInt32 := 0
  stopReleaseFail : UInt32 := 0
  busIdleAfterStopOk : UInt32 := 0
  busIdleAfterStopFail : UInt32 := 0
  transactionLockCount : UInt32 := 0
  transactionUnlockCount : UInt32 := 0
  transactionLockUnbalanced : UInt32 := 0
  lastStatus : I2cStatus := .ok
  lastAddr7bit : UInt8 := 0
  lastPhase : I2cPhase := .idle
  lastSdaHighAfterStop : Bool := false
  lastSclHighAfterStop : Bool := false
  transactionActive : Bool := false
  deriving DecidableEq, Repr

/-- The adapter with its two output pins; a pin at `true` releases its line. `starts` counts the
START conditions completed and is read by no function. -/
structure I2cState (ε : Type) where
  ctx : I2cCtx
  mutexCreated : Bool
  sdaOut : Bool
  sclOut : Bool
  starts : Nat := 0
  env : ε

namespace I2cState

def updateCtx (f : I2cCtx → I2cCtx) (s : I2cState ε) : I2cState ε := { s with ctx := f s.ctx }

end I2cState

def i2cTransactionTimeoutUs : Int := 150 * 1000
def i2cHalfPeriodUs : Nat := 5
def i2cClockStretchTimeoutUs : Nat := 300
def i2cRecoveryPulses : Nat := 9
def i2cMaxPayloadBytes : Nat := 64

namespace I2cAdapter

open I2cState

def txnIsValid (portNum address7bit : UInt8) (s : I2cState ε) : Bool :=
  s.ctx.configured && s.ctx.portNum == portNum && decide (address7bit ≤ 0x7F)

def payloadLenIsValid (dataLen : Nat) : Bool := decide (dataLen ≤ i2cMaxPayloadBytes)

def setPhase (phase : I2cPhase) : I2cState ε → I2cState ε :=
  updateCtx fun c => { c with lastPhase := phase }

def beginDiag (address7bit : UInt8) : I2cState ε → I2cState ε :=
  updateCtx fun c => { c with lastAddr7bit := address7bit, lastStatus := .ok, lastPhase := .idle }

/-- The counters of `ev_esp8266_i2c_note_ack_phase`. -/
def countAck (phase : I2cPhase) (status : I2cStatus) (c : I2cCtx) : I2cCtx :=
  match phase, status with
  | .addrW, .ok => { c with addressWriteAcks := c.addressWriteAcks + 1 }
  | .addrW, .errNack => { c with addressWriteNacks := c.addressWriteNacks + 1 }
  | .addrR, .ok => { c with addressReadAcks := c.addressReadAcks + 1 }
  | .addrR, .errNack => { c with addressReadNacks := c.addressReadNacks + 1 }
  | .reg, .ok => { c with dataWriteAcks := c.dataWriteAcks + 1 }
  | .reg, .errNack => { c with dataWriteNacks := c.dataWriteNacks + 1 }
  | .dataW, .ok => { c with dataWriteAcks := c.dataWriteAcks + 1 }
  | .dataW, .errNack => { c with dataWriteNacks := c.dataWriteNacks + 1 }
  | _, _ => c

def noteAckPhase (phase : I2cPhase) (status : I2cStatus) (s : I2cState ε) : I2cState ε :=
  updateCtx (countAck phase status) (setPhase phase s)

/-- The counters of `ev_esp8266_i2c_record_status`. -/
def countStatus (status : I2cStatus) (c : I2cCtx) : I2cCtx :=
  match status with
  | .ok => c
  | .errTimeout =>
    { c with transactionsFailed := c.transactionsFailed + 1, timeouts := c.timeouts + 1 }
  | .errNack => { c with transactionsFailed := c.transactionsFailed + 1, nacks := c.nacks + 1 }
  | .errBusLocked =>
    { c with transactionsFailed := c.transactionsFailed + 1, busLocked := c.busLocked + 1 }

def recordStatus (status : I2cStatus) (s : I2cState ε) : I2cStatus × I2cState ε :=
  (status, updateCtx (fun c => countStatus status { c with lastStatus := status }) s)

variable (hal : I2cHal ε)

/-- `gpio_set_level` on the SDA pin. -/
def setSda (level : Bool) (s : I2cState ε) : I2cState ε :=
  { s with sdaOut := level, env := hal.setSda level s.env }

def setScl (level : Bool) (s : I2cState ε) : I2cState ε :=
  { s with sclOut := level, env := hal.setScl level s.env }

def releaseSda : I2cState ε → I2cState ε := setSda hal true
def releaseScl : I2cState ε → I2cState ε := setScl hal true
def driveSdaLow : I2cState ε → I2cState ε := setSda hal false
def driveSclLow : I2cState ε → I2cState ε := setScl hal false

/-- `ets_delay_us`. -/
def delayUs (us : Nat) (s : I2cState ε) : I2cState ε := { s with env := hal.delayUs us s.env }

def sampleSda (s : I2cState ε) : Bool × I2cState ε :=
  ((hal.getSda s.env).1, { s with env := (hal.getSda s.env).2 })

def sampleScl (s : I2cState ε) : Bool × I2cState ε :=
  ((hal.getScl s.env).1, { s with env := (hal.getScl s.env).2 })

/-- `esp_timer_get_time`. -/
def readTime (s : I2cState ε) : Int × I2cState ε :=
  ((hal.getTime s.env).1, { s with env := (hal.getTime s.env).2 })

def deadlineExpired (startedUs : Int) (s : I2cState ε) : Bool × I2cState ε :=
  let now := readTime hal s
  (decide (i2cTransactionTimeoutUs ≤ now.1 - startedUs), now.2)

/-- The loop of `ev_esp8266_i2c_wait_scl_high`, with so many microseconds left to wait. -/
def waitSclHighFor (startedUs : Int) : Nat → I2cState ε → I2cStatus × I2cState ε
  | 0, s =>
    let scl := sampleScl hal s
    if scl.1 then (.ok, scl.2) else (.errTimeout, (deadlineExpired hal startedUs scl.2).2)
  | left + 1, s =>
    let scl := sampleScl hal s
    if scl.1 then (.ok, scl.2)
    else
      let expired := deadlineExpired hal startedUs scl.2
      if expired.1 then (.errTimeout, expired.2)
      else waitSclHighFor startedUs left (delayUs hal 1 expired.2)

def waitSclHigh (startedUs : Int) : I2cState ε → I2cStatus × I2cState ε :=
  waitSclHighFor hal startedUs i2cClockStretchTimeoutUs

def raiseScl (startedUs : Int) (s : I2cState ε) : I2cStatus × I2cState ε :=
  let expired := deadlineExpired hal startedUs s
  if expired.1 then (.errTimeout, expired.2)
  else
    let waited := waitSclHigh hal startedUs (releaseScl hal expired.2)
    if waited.1 ≠ .ok then waited else (.ok, delayUs hal i2cHalfPeriodUs waited.2)

def lowerScl (s : I2cState ε) : I2cState ε := delayUs hal i2cHalfPeriodUs (driveSclLow hal s)

def releaseBusLines (s : I2cState ε) : I2cState ε := releaseScl hal (releaseSda hal s)

/-- The pulses of `ev_esp8266_i2c_recover_bus`, until SDA is high. -/
def recoveryPulses (startedUs : Int) : Nat → I2cState ε → I2cStatus × I2cState ε
  | 0, s => (.ok, s)
  | left + 1, s =>
    let raised := raiseScl hal startedUs s
    if raised.1 ≠ .ok then raised
    else
      let sda := sampleSda hal raised.2
      if sda.1 then (.ok, sda.2) else recoveryPulses startedUs left (lowerScl hal sda.2)

def countRecoveryFailure : I2cState ε → I2cState ε :=
  updateCtx fun c => { c with busRecoveryFailures := c.busRecoveryFailures + 1 }

def recoveryStop (startedUs : Int) (s : I2cState ε) : I2cStatus × I2cState ε :=
  let raised := raiseScl hal startedUs (delayUs hal i2cHalfPeriodUs (driveSdaLow hal s))
  if raised.1 ≠ .ok then (raised.1, countRecoveryFailure (releaseBusLines hal raised.2))
  else
    let sda := sampleSda hal (delayUs hal i2cHalfPeriodUs (releaseSda hal raised.2))
    if !sda.1 then (.errBusLocked, countRecoveryFailure sda.2)
    else
      let scl := sampleScl hal sda.2
      if !scl.1 then (.errBusLocked, countRecoveryFailure scl.2) else (.ok, scl.2)

def recoverBus (startedUs : Int) (s : I2cState ε) : I2cStatus × I2cState ε :=
  let s := updateCtx (fun c => { c with busRecoveries := c.busRecoveries + 1 }) s
  let pulsed := recoveryPulses hal startedUs i2cRecoveryPulses (releaseScl hal (releaseSda hal s))
  if pulsed.1 ≠ .ok then (pulsed.1, countRecoveryFailure pulsed.2)
  else recoveryStop hal startedUs pulsed.2

/-- The recovery of a bus whose SDA is low while SCL is high. -/
def freeSda (startedUs : Int) (s : I2cState ε) : I2cStatus × I2cState ε :=
  let sda := sampleSda hal s
  if sda.1 then (.ok, sda.2) else recoverBus hal startedUs sda.2

def prepareBus (startedUs : Int) (s : I2cState ε) : I2cStatus × I2cState ε :=
  let waited := waitSclHigh hal startedUs (releaseBusLines hal s)
  if waited.1 ≠ .ok then waited else freeSda hal startedUs waited.2

def startEdges (s : I2cState ε) : I2cState ε :=
  let s := delayUs hal i2cHalfPeriodUs (driveSdaLow hal (delayUs hal i2cHalfPeriodUs s))
  let s := delayUs hal i2cHalfPeriodUs (driveSclLow hal s)
  { s with starts := s.starts + 1 }

def startCondition (startedUs : Int) (s : I2cState ε) : I2cStatus × I2cState ε :=
  let waited := waitSclHigh hal startedUs (releaseScl hal (releaseSda hal s))
  if waited.1 ≠ .ok then waited
  else
    let ready := freeSda hal startedUs waited.2
    if ready.1 ≠ .ok then ready else (.ok, startEdges hal ready.2)

def countStopFailure : I2cState ε → I2cState ε :=
  updateCtx fun c => { c with
    stopReleaseFail := c.stopReleaseFail + 1
    busIdleAfterStopFail := c.busIdleAfterStopFail + 1 }

def countStopOk : I2cState ε → I2cState ε :=
  updateCtx fun c => { c with
    stopOk := c.stopOk + 1
    busIdleAfterStopOk := c.busIdleAfterStopOk + 1 }

/-- The two levels after a STOP, and the phase that follows it. -/
def recordLevelsAfterStop (s : I2cState ε) : Bool × I2cState ε :=
  let sda := sampleSda hal s
  let scl := sampleScl hal sda.2
  (sda.1 && scl.1, setPhase .release (updateCtx (fun c => { c with
    lastSdaHighAfterStop := sda.1
    lastSclHighAfterStop := scl.1 }) scl.2))

def stopCondition (startedUs : Int) (s : I2cState ε) : I2cStatus × I2cState ε :=
  let s := updateCtx (fun c => { c with stopAttempted := c.stopAttempted + 1 }) (setPhase .stop s)
  let raised := raiseScl hal startedUs (delayUs hal i2cHalfPeriodUs (driveSdaLow hal s))
  if raised.1 ≠ .ok then
    (raised.1, (recordLevelsAfterStop hal (countStopFailure (releaseBusLines hal raised.2))).2)
  else
    let levels := recordLevelsAfterStop hal
      (delayUs hal i2cHalfPeriodUs (releaseSda hal raised.2))
    if !levels.1 then (.errBusLocked, countStopFailure levels.2) else (.ok, countStopOk levels.2)

/-- The level of a bit: SDA is released for a one. -/
def outputSda (level : Bool) (s : I2cState ε) : I2cState ε :=
  if level then releaseSda hal s else driveSdaLow hal s

/-- The bits of `ev_esp8266_i2c_write_byte`, the most significant one first. -/
def writeBits (startedUs : Int) : Nat → UInt8 → I2cState ε → I2cStatus × I2cState ε
  | 0, _, s => (.ok, s)
  | left + 1, value, s =>
    let raised := raiseScl hal startedUs (outputSda hal (value &&& 0x80 != 0) s)
    if raised.1 ≠ .ok then (raised.1, releaseSda hal raised.2)
    else writeBits startedUs left (value <<< 1) (lowerScl hal raised.2)

def writeByte (value : UInt8) (startedUs : Int) (s : I2cState ε) : I2cStatus × I2cState ε :=
  let written := writeBits hal startedUs 8 value s
  if written.1 ≠ .ok then written
  else
    let raised := raiseScl hal startedUs (releaseSda hal written.2)
    if raised.1 ≠ .ok then raised
    else
      let sda := sampleSda hal raised.2
      (if !sda.1 then .ok else .errNack, lowerScl hal sda.2)

def writeByteObserved (value : UInt8) (startedUs : Int) (phase : I2cPhase) (s : I2cState ε) :
    I2cStatus × I2cState ε :=
  let written := writeByte hal value startedUs s
  (written.1, noteAckPhase phase written.1 written.2)

/-- The bits of `ev_esp8266_i2c_read_byte`, shifted into the bits read so far. -/
def readBits (startedUs : Int) : Nat → UInt8 → I2cState ε → (I2cStatus × UInt8) × I2cState ε
  | 0, value, s => ((.ok, value), s)
  | left + 1, value, s =>
    let raised := raiseScl hal startedUs s
    if raised.1 ≠ .ok then ((raised.1, value), raised.2)
    else
      let sda := sampleSda hal raised.2
      let shifted := value <<< 1
      readBits startedUs left (if sda.1 then shifted ||| 0x01 else shifted) (lowerScl hal sda.2)

def countReadByte (ackAfterByte : Bool) (c : I2cCtx) : I2cCtx :=
  if ackAfterByte then { c with readBytes := c.readBytes + 1, lastPhase := .dataR }
  else
    { c with
      readBytes := c.readBytes + 1
      readFinalNackSent := c.readFinalNackSent + 1
      lastPhase := .finalNack }

/-- The byte is `none` where the out parameter is left alone. -/
def readByte (ackAfterByte : Bool) (startedUs : Int) (s : I2cState ε) :
    (I2cStatus × Option UInt8) × I2cState ε :=
  let bits := readBits hal startedUs 8 0 (releaseSda hal s)
  if bits.1.1 ≠ .ok then ((bits.1.1, none), bits.2)
  else
    let raised := raiseScl hal startedUs (outputSda hal (!ackAfterByte) bits.2)
    if raised.1 ≠ .ok then ((raised.1, none), releaseSda hal raised.2)
    else
      let s := releaseSda hal (lowerScl hal raised.2)
      ((.ok, some bits.1.2), updateCtx (countReadByte ackAfterByte) s)

def writePayload (startedUs : Int) : List UInt8 → I2cState ε → I2cStatus × I2cState ε
  | [], s => (.ok, s)
  | value :: data, s =>
    let written := writeByteObserved hal value startedUs .dataW s
    if written.1 ≠ .ok then written else writePayload startedUs data written.2

/-- The read loop of the transactions: the bytes of the buffer that it fills. -/
def readPayload (startedUs : Int) : Nat → I2cState ε → (I2cStatus × List UInt8) × I2cState ε
  | 0, s => ((.ok, []), s)
  | left + 1, s =>
    let out := readByte hal (decide (0 < left)) startedUs s
    if out.1.1 ≠ .ok then ((out.1.1, []), out.2)
    else
      let rest := readPayload startedUs left out.2
      ((rest.1.1, out.1.2.toList ++ rest.1.2), rest.2)

def takeBus (s : I2cState ε) : I2cStatus × I2cState ε :=
  if s.mutexCreated = false then (.errBusLocked, s)
  else
    let taken := hal.mutexTake s.env
    let s := { s with env := taken.2 }
    if taken.1 = false then (.errTimeout, s)
    else (.ok, updateCtx (fun c => { c with transactionLockCount := c.transactionLockCount + 1 }) s)

def countUnlock (c : I2cCtx) : I2cCtx :=
  { c with
    transactionLockUnbalanced :=
      if c.transactionLockCount ≤ c.transactionUnlockCount then c.transactionLockUnbalanced + 1
      else c.transactionLockUnbalanced
    transactionUnlockCount := c.transactionUnlockCount + 1 }

def giveBus (s : I2cState ε) : I2cState ε :=
  if s.mutexCreated then
    let s := updateCtx countUnlock s
    { s with env := hal.mutexGive s.env }
  else s

/-- The start time, and the status of the preparation. -/
def beginLocked (s : I2cState ε) : (I2cStatus × Int) × I2cState ε :=
  let now := readTime hal s
  let prepared := prepareBus hal now.1 now.2
  ((prepared.1, now.1),
    if prepared.1 = .ok then
      updateCtx (fun c => { c with transactionsStarted := c.transactionsStarted + 1 }) prepared.2
    else prepared.2)

def statusNeedsRecovery (transferStatus stopStatus : I2cStatus) : Bool :=
  if stopStatus ≠ .ok then true
  else transferStatus == .errTimeout || transferStatus == .errBusLocked

/-- The STOP of `ev_esp8266_i2c_finish_locked`: the status of the transfer, that of the STOP. -/
def finishStop (started : Bool) (startedUs : Int) (status : I2cStatus) (s : I2cState ε) :
    (I2cStatus × I2cStatus) × I2cState ε :=
  if started then
    let stopped := stopCondition hal startedUs s
    ((if status = .ok then stopped.1 else status, stopped.1), stopped.2)
  else ((status, .ok), s)

/-- The recovery of `ev_esp8266_i2c_finish_locked`, when the two statuses ask for one. -/
def finishRecovery (startedUs : Int) (status stopStatus : I2cStatus) (s : I2cState ε) :
    I2cStatus × I2cState ε :=
  if statusNeedsRecovery status stopStatus then
    let recovered := recoverBus hal startedUs s
    (if status = .ok ∧ recovered.1 ≠ .ok then recovered.1 else status, recovered.2)
  else (status, s)

def finishLocked (started : Bool) (startedUs : Int) (status : I2cStatus) (s : I2cState ε) :
    I2cStatus × I2cState ε :=
  let stopped := finishStop hal started startedUs status s
  let ended := finishRecovery hal startedUs stopped.1.1 stopped.1.2 stopped.2
  recordStatus ended.1 (releaseBusLines hal ended.2)

/-- A step of a transfer that is taken while the status is OK. -/
def whileOk (out : I2cStatus × I2cState ε) (next : I2cState ε → I2cStatus × I2cState ε) :
    I2cStatus × I2cState ε :=
  if out.1 = .ok then next out.2 else out

structure Transfer (ε α : Type) where
  started : Bool
  startedUs : Int
  status : I2cStatus
  data : α
  state : I2cState ε

/-- The preparation, the START and, after it, the bytes of a transfer. -/
def transfer (initial : α) (bytes : Int → I2cState ε → (I2cStatus × α) × I2cState ε)
    (s : I2cState ε) : Transfer ε α :=
  let begun := beginLocked hal s
  let opened := whileOk (begun.1.1, begun.2) fun s =>
    startCondition hal begun.1.2 (setPhase .start s)
  if opened.1 = .ok then
    let out := bytes begun.1.2 opened.2
    ⟨true, begun.1.2, out.1.1, out.1.2, out.2⟩
  else ⟨false, begun.1.2, opened.1, initial, opened.2⟩

def setActive (active : Bool) : I2cState ε → I2cState ε :=
  updateCtx fun c => { c with transactionActive := active }

/-- What ends a transaction that holds the mutex. -/
def closeTransaction (t : Transfer ε α) : (I2cStatus × α) × I2cState ε :=
  let finished := finishLocked hal t.started t.startedUs t.status t.state
  ((finished.1, t.data), giveBus hal (setActive false finished.2))

def transaction (portNum address7bit : UInt8) (argsOk : Bool) (initial : α)
    (bytes : Int → I2cState ε → (I2cStatus × α) × I2cState ε) (s : I2cState ε) :
    (I2cStatus × α) × I2cState ε :=
  if !txnIsValid portNum address7bit s || !argsOk then ((.errBusLocked, initial), s)
  else
    let taken := takeBus hal (beginDiag address7bit s)
    if taken.1 ≠ .ok then
      let recorded := recordStatus taken.1 taken.2
      ((recorded.1, initial), recorded.2)
    else closeTransaction hal (transfer hal initial bytes (setActive true taken.2))

def addressWrite (address7bit : UInt8) : UInt8 := (address7bit <<< 1) ||| 0

def addressRead (address7bit : UInt8) : UInt8 := (address7bit <<< 1) ||| 1

def writing (act : Int → I2cState ε → I2cStatus × I2cState ε) (startedUs : Int) (s : I2cState ε) :
    (I2cStatus × List UInt8) × I2cState ε :=
  (((act startedUs s).1, []), (act startedUs s).2)

def writeStreamBytes (address7bit : UInt8) (data : List UInt8) (startedUs : Int) (s : I2cState ε) :
    I2cStatus × I2cState ε :=
  whileOk (writeByteObserved hal (addressWrite address7bit) startedUs .addrW s)
    (writePayload hal startedUs data)

def writeRegsBytes (address7bit firstReg : UInt8) (data : List UInt8) (startedUs : Int)
    (s : I2cState ε) : I2cStatus × I2cState ε :=
  whileOk (whileOk (writeByteObserved hal (addressWrite address7bit) startedUs .addrW s)
    (writeByteObserved hal firstReg startedUs .reg)) (writePayload hal startedUs data)

/-- The read loop after the steps before it. -/
def readAfter (dataLen : Nat) (startedUs : Int) (out : I2cStatus × I2cState ε) :
    (I2cStatus × List UInt8) × I2cState ε :=
  if out.1 = .ok then readPayload hal startedUs dataLen out.2 else ((out.1, []), out.2)

def readStreamBytes (address7bit : UInt8) (dataLen : Nat) (startedUs : Int) (s : I2cState ε) :
    (I2cStatus × List UInt8) × I2cState ε :=
  readAfter hal dataLen startedUs
    (writeByteObserved hal (addressRead address7bit) startedUs .addrR s)

def readRegsBytes (address7bit firstReg : UInt8) (dataLen : Nat) (startedUs : Int)
    (s : I2cState ε) : (I2cStatus × List UInt8) × I2cState ε :=
  let addressed := writeByteObserved hal (addressWrite address7bit) startedUs .addrW s
  let selected := whileOk addressed (writeByteObserved hal firstReg startedUs .reg)
  let restarted := whileOk selected fun s => startCondition hal startedUs (setPhase .restart s)
  readAfter hal dataLen startedUs (whileOk restarted
    (writeByteObserved hal (addressRead address7bit) startedUs .addrR))

def writeStream (portNum address7bit : UInt8) (data : List UInt8) (s : I2cState ε) :
    (I2cStatus × List UInt8) × I2cState ε :=
  transaction hal portNum address7bit (payloadLenIsValid data.length) []
    (writing (writeStreamBytes hal address7bit data)) s

def writeRegs (portNum address7bit firstReg : UInt8) (data : List UInt8) (s : I2cState ε) :
    (I2cStatus × List UInt8) × I2cState ε :=
  transaction hal portNum address7bit (payloadLenIsValid data.length) []
    (writing (writeRegsBytes hal address7bit firstReg data)) s

def readStream (portNum address7bit : UInt8) (dataLen : Nat) (s : I2cState ε) :
    (I2cStatus × List UInt8) × I2cState ε :=
  transaction hal portNum address7bit (payloadLenIsValid dataLen) []
    (readStreamBytes hal address7bit dataLen) s

def readRegs (portNum address7bit firstReg : UInt8) (dataLen : Nat) (s : I2cState ε) :
    (I2cStatus × List UInt8) × I2cState ε :=
  transaction hal portNum address7bit (decide (dataLen ≠ 0) && payloadLenIsValid dataLen) []
    (readRegsBytes hal address7bit firstReg dataLen) s

end I2cAdapter

inductive I2cCall where
  | writeStream (address7bit : UInt8) (data : List UInt8)
  | writeRegs (address7bit firstReg : UInt8) (data : List UInt8)
  | readStream (address7bit : UInt8) (dataLen : Nat)
  | readRegs (address7bit firstReg : UInt8) (dataLen : Nat)
  deriving DecidableEq, Repr

namespace I2cCall

/-- A call: the status, and the bytes that it left in the buffer of a read. -/
def run (hal : I2cHal ε) (portNum : UInt8) (s : I2cState ε) :
    I2cCall → (I2cStatus × List UInt8) × I2cState ε
  | .writeStream address7bit data => I2cAdapter.writeStream hal portNum address7bit data s
  | .writeRegs address7bit firstReg data =>
    I2cAdapter.writeRegs hal portNum address7bit firstReg data s
  | .readStream address7bit dataLen => I2cAdapter.readStream hal portNum address7bit dataLen s
  | .readRegs address7bit firstReg dataLen =>
    I2cAdapter.readRegs hal portNum address7bit firstReg dataLen s

end I2cCall

end EventFramework
