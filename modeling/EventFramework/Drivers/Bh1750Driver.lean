import EventFramework.Actors.DevicePorts

/-!
# The BH1750 driver

`ev_bh1750_driver.c`: the commands of one light sensor on the I2C bus and the reading of its
measurement.
-/

namespace EventFramework
set_option autoImplicit false

variable {A P ω : Type}

/-- `ev_bh1750_mode_t`. -/
inductive Bh1750Mode where
  | continuousHighRes
  | continuousHighRes2
  | continuousLowRes
  | oneTimeHighRes
  | oneTimeHighRes2
  | oneTimeLowRes
  deriving DecidableEq, Repr

/-- The value of a mode is the command that starts a measurement in it. -/
def Bh1750Mode.command : Bh1750Mode → UInt8
  | .continuousHighRes => 0x10
  | .continuousHighRes2 => 0x11
  | .continuousLowRes => 0x13
  | .oneTimeHighRes => 0x20
  | .oneTimeHighRes2 => 0x21
  | .oneTimeLowRes => 0x23

/-- The streams of `ev_i2c_port_t`, bound to their context. A read returns what the buffer holds
after it. -/
structure I2cStreamPort (ω : Type) where
  writeStream : I2cDevice → List UInt8 → ω → I2cStatus × ω
  readStream : I2cDevice → Nat → ω → (I2cStatus × (Nat → UInt8)) × ω

inductive I2cStreamCall where
  | writeStream (data : List UInt8) (status : I2cStatus)
  | readStream (count : Nat) (status : I2cStatus) (data : Nat → UInt8)

def I2cStreamCall.status : I2cStreamCall → I2cStatus
  | .writeStream _ status => status
  | .readStream _ status _ => status

namespace Bh1750Driver

def mapI2cStatus : I2cStatus → Result
  | .ok => .ok
  | .errNack => .errNotFound
  | .errTimeout => .errTimeout
  | .errBusLocked => .errState

def validateAddr7 (addr7 : UInt8) : Result :=
  if addr7 = 0x23 ∨ addr7 = 0x5C then .ok
  else if 128 ≤ addr7 then .errOutOfRange
  else .errInvalidArg

/-- `ev_bh1750_validate_mode` on the value of the enumeration, with the mode it stands for. -/
def validateMode (value : UInt32) : Result × Option Bh1750Mode :=
  if value = 0x10 then (.ok, some .continuousHighRes)
  else if value = 0x11 then (.ok, some .continuousHighRes2)
  else if value = 0x13 then (.ok, some .continuousLowRes)
  else if value = 0x20 then (.ok, some .oneTimeHighRes)
  else if value = 0x21 then (.ok, some .oneTimeHighRes2)
  else if value = 0x23 then (.ok, some .oneTimeLowRes)
  else (.errInvalidArg, none)

def writeCommand (port : I2cStreamPort ω) (device : I2cDevice) (command : UInt8)
    (s : Running A P I2cStreamCall ω) : Result × Running A P I2cStreamCall ω :=
  let rc := validateAddr7 device.address7bit
  if rc ≠ .ok then (rc, s)
  else
    let out := s.call (port.writeStream device [command]) (.writeStream [command])
    (mapI2cStatus out.1, out.2)

def powerOn (port : I2cStreamPort ω) (device : I2cDevice) (s : Running A P I2cStreamCall ω) :
    Result × Running A P I2cStreamCall ω :=
  writeCommand port device 0x01 s

def startMeasurement (port : I2cStreamPort ω) (device : I2cDevice) (mode : Bh1750Mode)
    (s : Running A P I2cStreamCall ω) : Result × Running A P I2cStreamCall ω :=
  writeCommand port device mode.command s

def rawToMilliLux (raw : UInt16) : UInt32 := (raw.toUInt32 * 5000 + 3) / 6

/-- The result, and the raw value of a measurement that was read with its light. -/
def readMeasurement (port : I2cStreamPort ω) (device : I2cDevice) (s : Running A P I2cStreamCall ω) :
    (Result × UInt16 × UInt32) × Running A P I2cStreamCall ω :=
  let rc := validateAddr7 device.address7bit
  if rc ≠ .ok then ((rc, 0, 0), s)
  else
    let out := s.call (port.readStream device 2) fun out => .readStream 2 out.1 out.2
    let rc := mapI2cStatus out.1.1
    if rc ≠ .ok then ((rc, 0, 0), out.2)
    else
      let raw := ((out.1.2 0).toUInt16 <<< 8) ||| (out.1.2 1).toUInt16
      ((.ok, raw, rawToMilliLux raw), out.2)

def measurementWaitMs : Bh1750Mode → UInt16
  | .continuousLowRes | .oneTimeLowRes => 24
  | .continuousHighRes | .continuousHighRes2 | .oneTimeHighRes | .oneTimeHighRes2 => 180

theorem mapI2cStatus_ok {status : I2cStatus} : mapI2cStatus status = .ok ↔ status = .ok := by
  cases status <;> decide

end Bh1750Driver

end EventFramework
