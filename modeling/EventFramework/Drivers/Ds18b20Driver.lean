import EventFramework.Actors.DevicePorts

/-!
# The DS18B20 driver

`ev_ds18b20_driver.c`: the 1-Wire transactions of one sensor addressed with SKIP ROM, the
Dallas CRC and the decoding of the scratchpad.
-/

namespace EventFramework
set_option autoImplicit false

variable {A P ω : Type}

structure Ds18b20Measurement where
  centiCelsius : Int16
  resolutionBits : UInt8
  deriving DecidableEq

def ds18b20ScratchpadBytes : Nat := 9

def ds18b20DefaultResolutionBits : UInt8 := 12

namespace Ds18b20Driver

def mapOnewireStatus (status : OnewireStatus) : Result :=
  if status = .ok then .ok
  else if status = .errNoDevice then .errNotFound
  else .errState

/-- One bit of `ev_ds18b20_crc8`, on the remainder and the rest of the byte. -/
def crc8Bit (state : UInt8 × UInt8) : UInt8 × UInt8 :=
  let mix := (state.1 ^^^ state.2) &&& 0x01
  let crc := state.1 >>> 1
  (if mix ≠ 0 then crc ^^^ 0x8C else crc, state.2 >>> 1)

def crc8Byte (crc current : UInt8) : UInt8 := (crc8Bit^[8] (crc, current)).1

def crc8 (data : List UInt8) : UInt8 := data.foldl crc8Byte 0

def conversionTimeMs (resolutionBits : UInt8) : UInt16 :=
  if resolutionBits = 9 then 94
  else if resolutionBits = 10 then 188
  else if resolutionBits = 11 then 375
  else 750

def validateScratchpad (scratchpad : List UInt8) : Result :=
  if crc8 (scratchpad.take (ds18b20ScratchpadBytes - 1)) ≠
      scratchpad.getD (ds18b20ScratchpadBytes - 1) 0 then .errContract
  else .ok

/-- The register value with the bits below the configured resolution cleared. -/
def decodeRaw (scratchpad : List UInt8) : Int16 × UInt8 :=
  let raw := (((scratchpad.getD 1 0).toUInt16 <<< 8) ||| (scratchpad.getD 0 0).toUInt16).toInt16
  let config := scratchpad.getD 4 0 &&& 0x60
  if config = 0x00 then (raw &&& ~~~0x0007, 9)
  else if config = 0x20 then (raw &&& ~~~0x0003, 10)
  else if config = 0x40 then (raw &&& ~~~0x0001, 11)
  else (raw, 12)

def decodeMeasurement (scratchpad : List UInt8) : Result × Option Ds18b20Measurement :=
  if validateScratchpad scratchpad ≠ .ok then (.errContract, none)
  else
    let raw := decodeRaw scratchpad
    let scaled := raw.1.toInt * 25
    let scaled := if 0 ≤ scaled then (scaled + 2).tdiv 4 else (scaled - 2).tdiv 4
    (.ok, some ⟨Int16.ofInt scaled, raw.2⟩)

def decodeCentiCelsius (scratchpad : List UInt8) : Result × Option Int16 :=
  let out := decodeMeasurement scratchpad
  (out.1, out.2.map Ds18b20Measurement.centiCelsius)

def startConversionSkipRom (port : OnewirePort ω) (s : DeviceState A P ω) :
    Result × DeviceState A P ω :=
  let reset := DeviceState.onewireReset port s
  if reset.1 ≠ .ok then (mapOnewireStatus reset.1, reset.2)
  else
    let skipRom := DeviceState.onewireWriteByte port 0xCC reset.2
    if skipRom.1 ≠ .ok then (mapOnewireStatus skipRom.1, skipRom.2)
    else
      let convert := DeviceState.onewireWriteByte port 0x44 skipRom.2
      (mapOnewireStatus convert.1, convert.2)

/-- The read loop of `ev_ds18b20_read_scratchpad_skip_rom`, after the bytes read so far. -/
def readBytes (port : OnewirePort ω) : Nat → List UInt8 → DeviceState A P ω →
    (OnewireStatus × List UInt8) × DeviceState A P ω
  | 0, scratchpad, s => ((.ok, scratchpad), s)
  | remaining + 1, scratchpad, s =>
    let out := DeviceState.onewireReadByte port s
    if out.1.1 ≠ .ok then ((out.1.1, scratchpad), out.2)
    else readBytes port remaining (scratchpad ++ [out.1.2]) out.2

def readScratchpadSkipRom (port : OnewirePort ω) (s : DeviceState A P ω) :
    (Result × List UInt8) × DeviceState A P ω :=
  let reset := DeviceState.onewireReset port s
  if reset.1 ≠ .ok then ((mapOnewireStatus reset.1, []), reset.2)
  else
    let skipRom := DeviceState.onewireWriteByte port 0xCC reset.2
    if skipRom.1 ≠ .ok then ((mapOnewireStatus skipRom.1, []), skipRom.2)
    else
      let command := DeviceState.onewireWriteByte port 0xBE skipRom.2
      if command.1 ≠ .ok then ((mapOnewireStatus command.1, []), command.2)
      else
        let out := readBytes port ds18b20ScratchpadBytes [] command.2
        if out.1.1 ≠ .ok then ((mapOnewireStatus out.1.1, out.1.2), out.2)
        else ((validateScratchpad out.1.2, out.1.2), out.2)

/-- Both transactions keep the context and do nothing but call the port. -/
theorem startConversionSkipRom_quiet (port : OnewirePort ω) (s : DeviceState A P ω) :
    (startConversionSkipRom port s).2.ctx = s.ctx ∧
      s.OnlyCalls (startConversionSkipRom port s).2 := by
  have hreset : s.OnlyCalls (DeviceState.onewireReset port s).2 := Running.onlyCalls_call _ _ _
  have hskip := hreset.trans (Running.onlyCalls_call (port.writeByte 0xCC) (.onewireWriteByte 0xCC) _)
  have hconvert := hskip.trans (Running.onlyCalls_call (port.writeByte 0x44) (.onewireWriteByte 0x44) _)
  unfold startConversionSkipRom
  by_cases hstatus : (DeviceState.onewireReset port s).1 ≠ .ok
  · rw [if_pos hstatus]
    exact ⟨rfl, hreset⟩
  · rw [if_neg hstatus]
    by_cases hwritten :
        (DeviceState.onewireWriteByte port 0xCC (DeviceState.onewireReset port s).2).1 ≠ .ok
    · simp only [if_pos hwritten]
      exact ⟨rfl, hskip⟩
    · simp only [if_neg hwritten]
      exact ⟨rfl, hconvert⟩

theorem readBytes_quiet (port : OnewirePort ω) (remaining : Nat) :
    ∀ (scratchpad : List UInt8) (s : DeviceState A P ω),
      (readBytes port remaining scratchpad s).2.ctx = s.ctx ∧
        s.OnlyCalls (readBytes port remaining scratchpad s).2 := by
  induction remaining with
  | zero =>
    intro scratchpad s
    exact ⟨rfl, .refl s⟩
  | succ remaining ih =>
    intro scratchpad s
    have hread : s.OnlyCalls (DeviceState.onewireReadByte port s).2 := Running.onlyCalls_call _ _ _
    unfold readBytes
    by_cases hstatus : (DeviceState.onewireReadByte port s).1.1 ≠ .ok
    · simp only [if_pos hstatus]
      exact ⟨rfl, hread⟩
    · simp only [if_neg hstatus]
      obtain ⟨hctx, hcalls⟩ := ih (scratchpad ++ [(DeviceState.onewireReadByte port s).1.2])
        (DeviceState.onewireReadByte port s).2
      exact ⟨hctx, hread.trans hcalls⟩

theorem readScratchpadSkipRom_quiet (port : OnewirePort ω) (s : DeviceState A P ω) :
    (readScratchpadSkipRom port s).2.ctx = s.ctx ∧
      s.OnlyCalls (readScratchpadSkipRom port s).2 := by
  have hreset : s.OnlyCalls (DeviceState.onewireReset port s).2 := Running.onlyCalls_call _ _ _
  have hskip := hreset.trans (Running.onlyCalls_call (port.writeByte 0xCC) (.onewireWriteByte 0xCC) _)
  have hcommand := hskip.trans (Running.onlyCalls_call (port.writeByte 0xBE) (.onewireWriteByte 0xBE) _)
  obtain ⟨hctx, hbytes⟩ := readBytes_quiet port ds18b20ScratchpadBytes []
    (DeviceState.onewireWriteByte port 0xBE
      (DeviceState.onewireWriteByte port 0xCC (DeviceState.onewireReset port s).2).2).2
  have hread := hcommand.trans hbytes
  unfold readScratchpadSkipRom
  by_cases hstatus : (DeviceState.onewireReset port s).1 ≠ .ok
  · rw [if_pos hstatus]
    exact ⟨rfl, hreset⟩
  · rw [if_neg hstatus]
    by_cases hskipped :
        (DeviceState.onewireWriteByte port 0xCC (DeviceState.onewireReset port s).2).1 ≠ .ok
    · simp only [if_pos hskipped]
      exact ⟨rfl, hskip⟩
    · simp only [if_neg hskipped]
      by_cases hwritten : (DeviceState.onewireWriteByte port 0xBE
          (DeviceState.onewireWriteByte port 0xCC (DeviceState.onewireReset port s).2).2).1 ≠ .ok
      · simp only [if_pos hwritten]
        exact ⟨rfl, hcommand⟩
      · simp only [if_neg hwritten]
        split
        · exact ⟨hctx, hread⟩
        · exact ⟨hctx, hread⟩

end Ds18b20Driver

end EventFramework
