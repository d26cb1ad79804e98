import EventFramework.Drivers.Ds18b20Driver
import EventFramework.Library.BitMask
import EventFramework.Library.Rounding

/-!
# The temperature in a scratchpad

`ev_ds18b20_decode_measurement` scales the temperature register to hundredths of a degree and stores
the result in an `int16_t`. The register reaches further than the hundredths do.
-/

namespace EventFramework
set_option autoImplicit false

open Rounding (RoundsAway)

namespace Ds18b20Driver

def registerValue (scratchpad : List UInt8) : ℤ :=
  let word := (scratchpad.getD 0 0).toNat + 256 * (scratchpad.getD 1 0).toNat
  if word < 32768 then word else word - 65536

/-- The bits of the register below the resolution of the configuration. -/
def unusedBits (scratchpad : List UInt8) : Nat := 3 - (scratchpad.getD 4 0).toNat / 32 % 4

def temperatureRegister (scratchpad : List UInt8) : ℤ :=
  registerValue scratchpad - registerValue scratchpad % 2 ^ unusedBits scratchpad

def CrcMatches (scratchpad : List UInt8) : Prop :=
  crc8 (scratchpad.take (ds18b20ScratchpadBytes - 1)) =
    scratchpad.getD (ds18b20ScratchpadBytes - 1) 0

instance (scratchpad : List UInt8) : Decidable (CrcMatches scratchpad) :=
  inferInstanceAs (Decidable (crc8 (scratchpad.take (ds18b20ScratchpadBytes - 1)) =
    scratchpad.getD (ds18b20ScratchpadBytes - 1) 0))

/-- A measurement has a matching CRC and the temperature of the register in hundredths of a degree,
rounded half away from zero; a temperature that does not fit is an error. -/
structure DecodesExactly (scratchpad : List UInt8) : Prop where
  measured : (decodeMeasurement scratchpad).1 = .ok → CrcMatches scratchpad ∧
    ∃ measurement, (decodeMeasurement scratchpad).2 = some measurement ∧
      RoundsAway ((temperatureRegister scratchpad * 100 : ℚ) / 16) measurement.centiCelsius.toInt
  refused : ∀ centiCelsius : ℤ, RoundsAway ((temperatureRegister scratchpad * 100 : ℚ) / 16) centiCelsius →
    ¬(-32768 ≤ centiCelsius ∧ centiCelsius ≤ 32767) → (decodeMeasurement scratchpad).1 ≠ .ok

section Register

variable (scratchpad : List UInt8)

theorem word_toNat (low high : UInt8) :
    ((high.toUInt16 <<< 8) ||| low.toUInt16).toNat = low.toNat + 256 * high.toNat := by
  have hlow := low.toNat_lt
  have hhigh := high.toNat_lt
  have height : (8 : UInt16).toNat % 16 = 8 := rfl
  rw [UInt16.toNat_or, UInt16.toNat_shiftLeft, UInt8.toNat_toUInt16, UInt8.toNat_toUInt16, height]
  rw [Nat.mod_eq_of_lt (by rw [Nat.shiftLeft_eq]; omega),
    ← Nat.shiftLeft_add_eq_or_of_lt hlow, Nat.shiftLeft_eq]
  omega

theorem toInt_toInt16 (word : UInt16) :
    word.toInt16.toInt = if word.toNat < 32768 then (word.toNat : ℤ) else word.toNat - 65536 := by
  have hword := word.toNat_lt
  change word.toBitVec.toInt = _
  rw [BitVec.toInt_eq_toNat_cond]
  change (if 2 * word.toNat < 2 ^ 16 then (word.toNat : ℤ) else word.toNat - (2 ^ 16 : Nat)) = _
  split <;> split <;> omega

theorem toInt_clear_low (raw : Int16) {mask : Int16} {low : Nat} (hlow : low ≤ 3)
    (hmask : mask.toBitVec = BitVec.ofNat 16 (2 ^ low - 1)) :
    (raw &&& ~~~mask).toInt = raw.toInt - raw.toInt % 2 ^ low := by
  have hword := raw.toBitVec.isLt
  change (raw.toBitVec &&& ~~~mask.toBitVec).toInt =
    raw.toBitVec.toInt - raw.toBitVec.toInt % 2 ^ low
  rw [hmask, BitVec.toInt_eq_toNat_cond, BitVec.toInt_eq_toNat_cond, BitMask.toNat_clear_low]
  have hcases : low = 0 ∨ low = 1 ∨ low = 2 ∨ low = 3 := by omega
  rcases hcases with rfl | rfl | rfl | rfl <;> norm_num <;> split <;> split <;> omega

/-- What the driver takes for the temperature. -/
theorem decodeRaw_toInt : (decodeRaw scratchpad).1.toInt = temperatureRegister scratchpad := by
  have hraw : (((scratchpad.getD 1 0).toUInt16 <<< 8) ||| (scratchpad.getD 0 0).toUInt16).toInt16.toInt =
      registerValue scratchpad := by
    rw [toInt_toInt16, word_toNat]
    unfold registerValue
    simp only
  have hnineBits (raw : Int16) : (raw &&& ~~~0x0007).toInt = raw.toInt - raw.toInt % 2 ^ 3 :=
    toInt_clear_low raw (by decide) (by decide)
  have htenBits (raw : Int16) : (raw &&& ~~~0x0003).toInt = raw.toInt - raw.toInt % 2 ^ 2 :=
    toInt_clear_low raw (by decide) (by decide)
  have helevenBits (raw : Int16) : (raw &&& ~~~0x0001).toInt = raw.toInt - raw.toInt % 2 ^ 1 :=
    toInt_clear_low raw (by decide) (by decide)
  have hconfig : ∀ n, n < 256 →
      (n / 32 % 4 = 0 ↔ UInt8.ofNat n &&& 0x60 = 0x00) ∧
      (n / 32 % 4 = 1 ↔ UInt8.ofNat n &&& 0x60 = 0x20) ∧
      (n / 32 % 4 = 2 ↔ UInt8.ofNat n &&& 0x60 = 0x40) := by
    decide +kernel
  obtain ⟨hnine, hten, heleven⟩ := hconfig (scratchpad.getD 4 0).toNat (scratchpad.getD 4 0).toNat_lt
  rw [UInt8.ofNat_toNat] at hnine hten heleven
  unfold decodeRaw temperatureRegister unusedBits
  simp only
  rw [← hraw]
  split
  · rename_i h
    rw [hnine.mpr h]
    exact hnineBits _
  · rename_i hnot
    split
    · rename_i h
      rw [hten.mpr h]
      exact htenBits _
    · rename_i hnot'
      split
      · rename_i h
        rw [heleven.mpr h]
        exact helevenBits _
      · rename_i hnot''
        have htwelve : 3 - (scratchpad.getD 4 0).toNat / 32 % 4 = 0 := by
          have hzero := mt hnine.mp hnot
          have hone := mt hten.mp hnot'
          have htwo := mt heleven.mp hnot''
          omega
        rw [htwelve, pow_zero, Int.emod_one, Int.sub_zero]

def scaled (raw : ℤ) : ℤ := if 0 ≤ raw * 25 then (raw * 25 + 2).tdiv 4 else (raw * 25 - 2).tdiv 4

theorem scaled_rounds (raw : ℤ) : RoundsAway ((raw * 100 : ℚ) / 16) (scaled raw) := by
  have htwo : (0 : ℤ) < 2 := by decide
  have h := Rounding.roundsAway_tdiv htwo (raw * 25)
  have hfraction : (((raw * 25 : ℤ) : ℚ) / ((2 * 2 : ℤ) : ℚ)) = (raw * 100 : ℚ) / 16 := by
    push_cast
    ring
  rwa [hfraction] at h

theorem scaled_fits_iff {raw : ℤ} :
    (-32768 ≤ scaled raw ∧ scaled raw ≤ 32767) ↔ -5242 ≤ raw ∧ raw ≤ 5242 := by
  unfold scaled
  split
  · rw [Int.tdiv_eq_ediv_of_nonneg (by omega)]
    omega
  · rw [show raw * 25 - 2 = -(2 - raw * 25) by omega, Int.neg_tdiv,
      Int.tdiv_eq_ediv_of_nonneg (by omega)]
    omega

theorem decodeMeasurement_match {scratchpad : List UInt8} (h : CrcMatches scratchpad) :
    decodeMeasurement scratchpad =
      (.ok, some ⟨Int16.ofInt (scaled (temperatureRegister scratchpad)), (decodeRaw scratchpad).2⟩) := by
  have hvalid : validateScratchpad scratchpad = .ok := if_neg (not_not.mpr h)
  unfold decodeMeasurement
  rw [hvalid, if_neg (not_not.mpr rfl), ← decodeRaw_toInt]
  rfl

theorem decodeMeasurement_mismatch {scratchpad : List UInt8} (h : ¬CrcMatches scratchpad) :
    decodeMeasurement scratchpad = (.errContract, none) := by
  have hinvalid : validateScratchpad scratchpad = .errContract := if_pos h
  unfold decodeMeasurement
  rw [hinvalid, if_pos (by decide)]

end Register

/-- A scratchpad is decoded exactly just when its CRC does not match or its temperature fits. -/
theorem decodes_exactly_iff (scratchpad : List UInt8) :
    DecodesExactly scratchpad ↔
      (CrcMatches scratchpad →
        -5242 ≤ temperatureRegister scratchpad ∧ temperatureRegister scratchpad ≤ 5242) := by
  have hrounds := scaled_rounds (temperatureRegister scratchpad)
  by_cases hcrc : CrcMatches scratchpad
  · have hdecoded := decodeMeasurement_match hcrc
    rw [← scaled_fits_iff]
    constructor
    · intro h _
      by_contra hlarge
      apply h.refused _ hrounds hlarge
      rw [hdecoded]
    · intro h
      have hfits := h hcrc
      refine ⟨fun _ => ⟨hcrc, _, by rw [hdecoded], ?_⟩, fun centiCelsius hother hlarge => ?_⟩
      · rw [Int16.toInt_ofInt_of_le (by omega) (by omega)]
        exact hrounds
      · rw [hrounds.unique hother] at hfits
        exact absurd hfits hlarge
  · have hdecoded := decodeMeasurement_mismatch hcrc
    refine iff_of_true ⟨fun hok => ?_, fun _ _ _ hok => ?_⟩ fun h => absurd h hcrc
    · rw [hdecoded] at hok
      cases hok
    · rw [hdecoded] at hok
      cases hok

/-- A register of `0x147B` is 327.69 degrees, and is reported as -327.67. -/
theorem not_decodes_exactly :
    let scratchpad : List UInt8 := [0x7B, 0x14, 0x4B, 0x46, 0x7F, 0xFF, 0x0C, 0x10, 0x9D]
    ¬DecodesExactly scratchpad := by
  intro scratchpad h
  have hcrc : CrcMatches scratchpad := by decide +kernel
  apply h.refused _ (scaled_rounds (temperatureRegister scratchpad)) (by decide +kernel)
  rw [decodeMeasurement_match hcrc]

end Ds18b20Driver

end EventFramework
