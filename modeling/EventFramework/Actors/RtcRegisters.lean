import EventFramework.Actors.RtcActor
import EventFramework.Library.Calendar

/-!
# The time registers of a DS3231

What the seven time registers encode, and the numbers that the RTC actor decodes from them. The actor
checks the numbers, not the BCD digits nor the range of the hour in 12-hour mode.
-/

namespace EventFramework
set_option autoImplicit false

open Calendar (DateTime IsLeap monthDays)

namespace Ds3231

/-- A number in two decimal digits, one a nibble. -/
def Bcd (raw value : Nat) : Prop :=
  ∃ tens units, tens ≤ 9 ∧ units ≤ 9 ∧ raw = 16 * tens + units ∧ value = 10 * tens + units

/-- Bit 6 chooses the 12-hour mode, where bit 5 is PM. -/
def HourEncoded (raw hour : Nat) : Prop :=
  if raw / 64 % 2 = 0 then Bcd (raw % 64) hour
  else ∃ hour12, 1 ≤ hour12 ∧ hour12 ≤ 12 ∧ Bcd (raw % 32) hour12 ∧
    hour = hour12 % 12 + 12 * (raw / 32 % 2)

/-- The registers hold a date, a time and a day of the week in the format of the chip. -/
structure Encodes (image : Nat → UInt8) (moment : DateTime) (weekday : Nat) : Prop where
  second : Bcd ((image 0).toNat % 128) moment.second
  minute : Bcd ((image 1).toNat % 128) moment.minute
  hour : HourEncoded (image 2).toNat moment.hour
  weekday : (image 3).toNat % 8 = weekday ∧ 1 ≤ weekday
  day : Bcd ((image 4).toNat % 64) moment.day
  month : Bcd ((image 5).toNat % 32) moment.month
  year : ∃ yy, Bcd (image 6).toNat yy ∧ moment.year = 2000 + yy + 100 * ((image 5).toNat / 128)

def nibbles (raw : Nat) : Nat := 10 * (raw / 16) + raw % 16

def Digits (raw : Nat) : Prop := raw / 16 ≤ 9 ∧ raw % 16 ≤ 9

def hourField (raw : Nat) : Nat := if raw / 64 % 2 = 0 then raw % 64 else raw % 32

def yearField (image : Nat → UInt8) : Nat :=
  2000 + nibbles (image 6).toNat + 100 * ((image 5).toNat / 128)

structure InRange (image : Nat → UInt8) : Prop where
  second : nibbles ((image 0).toNat % 128) ≤ 59
  minute : nibbles ((image 1).toNat % 128) ≤ 59
  hour : nibbles (hourField (image 2).toNat) ≤ 23
  weekday : 1 ≤ (image 3).toNat % 8
  month : 1 ≤ nibbles ((image 5).toNat % 32) ∧ nibbles ((image 5).toNat % 32) ≤ 12
  day : 1 ≤ nibbles ((image 4).toNat % 64) ∧
    nibbles ((image 4).toNat % 64) ≤ monthDays (yearField image) (nibbles ((image 5).toNat % 32))

/-- Every digit is decimal, and in 12-hour mode the hour is 1 to 12. -/
structure Decimal (image : Nat → UInt8) : Prop where
  second : Digits ((image 0).toNat % 128)
  minute : Digits ((image 1).toNat % 128)
  hour : Digits (hourField (image 2).toNat)
  hour12 : (image 2).toNat / 64 % 2 = 1 →
    1 ≤ nibbles ((image 2).toNat % 32) ∧ nibbles ((image 2).toNat % 32) ≤ 12
  day : Digits ((image 4).toNat % 64)
  month : Digits ((image 5).toNat % 32)
  year : Digits (image 6).toNat

theorem bcd_iff {raw value : Nat} : Bcd raw value ↔ Digits raw ∧ value = nibbles raw := by
  unfold Bcd Digits nibbles
  constructor
  · rintro ⟨tens, units, htens, hunits, hraw, hvalue⟩
    omega
  · rintro ⟨⟨htens, hunits⟩, hvalue⟩
    exact ⟨raw / 16, raw % 16, htens, hunits, by omega, hvalue⟩

end Ds3231

namespace TimePayload

structure Shows (payload : TimePayload) (moment : DateTime) (weekday : Nat) : Prop where
  year : payload.year.toNat = moment.year
  month : payload.month.toNat = moment.month
  day : payload.day.toNat = moment.day
  weekday : payload.weekday.toNat = weekday
  hours : payload.hours.toNat = moment.hour
  minutes : payload.minutes.toNat = moment.minute
  seconds : payload.seconds.toNat = moment.second

end TimePayload

namespace RtcActor

open Ds3231

section Fields

theorem toNat_mask (raw : UInt8) (bits : Nat) (hbits : bits ≤ 8) :
    (raw &&& UInt8.ofNat (2 ^ bits - 1)).toNat = raw.toNat % 2 ^ bits := by
  have hpow : 2 ^ bits ≤ 2 ^ 8 := Nat.pow_le_pow_right (by decide) hbits
  have hsize : UInt8.size = 2 ^ 8 := rfl
  have hpos : 0 < 2 ^ bits := Nat.two_pow_pos bits
  have hmask : (UInt8.ofNat (2 ^ bits - 1)).toNat = 2 ^ bits - 1 :=
    UInt8.toNat_ofNat_of_lt' (by omega)
  rw [UInt8.toNat_and, hmask, Nat.and_two_pow_sub_one_eq_mod]

theorem bcdToDecimal_toNat (bcd : UInt8) : (bcdToDecimal bcd).toNat = nibbles bcd.toNat := by
  have hall : ∀ n, n < 256 → (bcdToDecimal (UInt8.ofNat n)).toNat = nibbles n := by
    decide +kernel
  have hbyte := hall bcd.toNat bcd.toNat_lt
  rwa [UInt8.ofNat_toNat] at hbyte

/-- The number of a 12-hour field goes over 23 just when the hour does, and otherwise the hour is
read from it. -/
theorem decodeHours_toNat (raw : UInt8) :
    ((decodeHours raw).toNat ≤ 23 ↔ nibbles (hourField raw.toNat) ≤ 23) ∧
      (Digits (hourField raw.toNat) →
        (raw.toNat / 64 % 2 = 0 → (decodeHours raw).toNat = nibbles (raw.toNat % 64)) ∧
        (raw.toNat / 64 % 2 = 1 → 1 ≤ nibbles (raw.toNat % 32) → nibbles (raw.toNat % 32) ≤ 12 →
          (decodeHours raw).toNat = nibbles (raw.toNat % 32) % 12 + 12 * (raw.toNat / 32 % 2))) := by
  have hall : ∀ n, n < 256 →
      ((decodeHours (UInt8.ofNat n)).toNat ≤ 23 ↔ nibbles (hourField n) ≤ 23) ∧
        (n / 64 % 2 = 0 → (decodeHours (UInt8.ofNat n)).toNat = nibbles (n % 64)) ∧
        (n / 64 % 2 = 1 → 1 ≤ nibbles (n % 32) → nibbles (n % 32) ≤ 12 →
          (decodeHours (UInt8.ofNat n)).toNat = nibbles (n % 32) % 12 + 12 * (n / 32 % 2)) := by
    decide +kernel
  obtain ⟨hrange, h24, h12⟩ := hall raw.toNat raw.toNat_lt
  rw [UInt8.ofNat_toNat] at hrange h24 h12
  exact ⟨hrange, fun _ => ⟨h24, h12⟩⟩

theorem isLeapYear_iff (year : UInt16) : isLeapYear year = true ↔ IsLeap year.toNat := by
  have hmod (d : UInt16) : year % d = 0 ↔ year.toNat % d.toNat = 0 := by
    rw [← UInt16.toNat_inj, UInt16.toNat_mod]
    rfl
  unfold isLeapYear IsLeap
  simp only [hmod]
  have h400 : (400 : UInt16).toNat = 400 := rfl
  have h100 : (100 : UInt16).toNat = 100 := rfl
  have h4 : (4 : UInt16).toNat = 4 := rfl
  rw [h400, h100, h4]
  split
  · simp only [true_iff]
    omega
  · split
    · simp only [Bool.false_eq_true, false_iff]
      omega
    · rw [decide_eq_true_iff]
      omega

theorem daysInMonth_toNat (year : UInt16) {month : UInt8} (hone : 1 ≤ month.toNat)
    (htwelve : month.toNat ≤ 12) :
    (daysInMonth year month).toNat = monthDays year.toNat month.toNat := by
  have hyears (year' : UInt16) (hsame : isLeapYear year = isLeapYear year') :
      (daysInMonth year month).toNat = (daysInMonth year' month).toNat ∧
        monthDays year.toNat month.toNat = monthDays year'.toNat month.toNat := by
    have hleap : IsLeap year.toNat ↔ IsLeap year'.toNat := by
      rw [← isLeapYear_iff, ← isLeapYear_iff, hsame]
    unfold daysInMonth monthDays
    rw [hsame]
    simp only [hleap, and_self]
  have hall : ∀ n, n < 13 → 1 ≤ n →
      (daysInMonth 2000 (UInt8.ofNat n)).toNat = monthDays 2000 n ∧
        (daysInMonth 2001 (UInt8.ofNat n)).toNat = monthDays 2001 n := by
    decide
  obtain ⟨hlong, hshort⟩ := hall month.toNat (by omega) hone
  rw [UInt8.ofNat_toNat] at hlong hshort
  cases hyear : isLeapYear year with
  | true =>
    obtain ⟨hdays, hmonth⟩ := hyears 2000 hyear
    rw [hdays, hmonth]
    exact hlong
  | false =>
    obtain ⟨hdays, hmonth⟩ := hyears 2001 hyear
    rw [hdays, hmonth]
    exact hshort

theorem decodeRegisters_toNat (image : Nat → UInt8) :
    (decodeRegisters image).seconds.toNat = nibbles ((image 0).toNat % 128) ∧
      (decodeRegisters image).minutes.toNat = nibbles ((image 1).toNat % 128) ∧
      (decodeRegisters image).weekday.toNat = (image 3).toNat % 8 ∧
      (decodeRegisters image).day.toNat = nibbles ((image 4).toNat % 64) ∧
      (decodeRegisters image).month.toNat = nibbles ((image 5).toNat % 32) ∧
      (decodeRegisters image).year.toNat = yearField image := by
  have hfield (raw : UInt8) (bits : Nat) (hbits : bits ≤ 8) :
      (bcdToDecimal (raw &&& UInt8.ofNat (2 ^ bits - 1))).toNat = nibbles (raw.toNat % 2 ^ bits) := by
    rw [bcdToDecimal_toNat, toNat_mask raw bits hbits]
  refine ⟨hfield (image 0) 7 (by decide), hfield (image 1) 7 (by decide), ?_,
    hfield (image 4) 6 (by decide), hfield (image 5) 5 (by decide), ?_⟩
  · refine (hfield (image 3) 3 (by decide)).trans ?_
    unfold nibbles
    omega
  · have hcentury : image 5 &&& 0x80 ≠ 0 ↔ (image 5).toNat / 128 = 1 := by
      have hall : ∀ n, n < 256 → (UInt8.ofNat n &&& 0x80 ≠ 0 ↔ n / 128 = 1) := by decide +kernel
      have hbyte := hall (image 5).toNat (image 5).toNat_lt
      rwa [UInt8.ofNat_toNat] at hbyte
    have hbyte := (image 5).toNat_lt
    have hyear : (2000 + (bcdToDecimal (image 6)).toUInt16).toNat =
        2000 + nibbles (image 6).toNat := by
      have hsix := (image 6).toNat_lt
      rw [UInt16.toNat_add, UInt8.toNat_toUInt16, bcdToDecimal_toNat]
      apply Nat.mod_eq_of_lt
      change 2000 + nibbles (image 6).toNat < 65536
      unfold nibbles
      omega
    simp only [decodeRegisters, yearField]
    split
    · rename_i hset
      have hhundred : (100 : UInt16).toNat = 100 := rfl
      rw [UInt16.toNat_add, hyear, hcentury.mp hset, hhundred]
      apply Nat.mod_eq_of_lt
      have hsix := (image 6).toNat_lt
      unfold nibbles
      omega
    · rename_i hclear
      have hzero : (image 5).toNat / 128 = 0 := by
        have hne := mt hcentury.mpr hclear
        omega
      rw [hyear, hzero, Nat.mul_zero, Nat.add_zero]

theorem payloadIsValid_iff (payload : TimePayload) :
    payloadIsValid payload = true ↔
      (1 ≤ payload.month.toNat ∧ payload.month.toNat ≤ 12) ∧
        (1 ≤ payload.weekday.toNat ∧ payload.weekday.toNat ≤ 7) ∧ payload.hours.toNat ≤ 23 ∧
        payload.minutes.toNat ≤ 59 ∧ payload.seconds.toNat ≤ 59 ∧ 1 ≤ payload.day.toNat ∧
        payload.day.toNat ≤ monthDays payload.year.toNat payload.month.toNat := by
  have hzero (field : UInt8) : field = 0 ↔ field.toNat = 0 := by
    rw [← UInt8.toNat_inj]
    rfl
  have hover (bound field : UInt8) : bound < field ↔ bound.toNat < field.toNat := UInt8.lt_iff_toNat_lt
  unfold payloadIsValid
  simp only [hzero, hover]
  have h12 : (12 : UInt8).toNat = 12 := rfl
  have h7 : (7 : UInt8).toNat = 7 := rfl
  have h23 : (23 : UInt8).toNat = 23 := rfl
  have h59 : (59 : UInt8).toNat = 59 := rfl
  rw [h12, h7, h23, h59]
  split
  · simp only [Bool.false_eq_true, false_iff]
    omega
  · rename_i hfields
    rw [daysInMonth_toNat payload.year (by omega) (by omega)]
    split
    · simp only [Bool.false_eq_true, false_iff]
      omega
    · simp only [true_iff]
      omega

theorem valid_decodeRegisters_iff (image : Nat → UInt8) :
    payloadIsValid (decodeRegisters image) = true ↔ InRange image := by
  obtain ⟨hseconds, hminutes, hweekday, hday, hmonth, hyear⟩ := decodeRegisters_toNat image
  have hhours := (decodeHours_toNat (image 2)).1
  have hdecoded : (decodeRegisters image).hours = decodeHours (image 2) := rfl
  rw [payloadIsValid_iff, hseconds, hminutes, hweekday, hday, hmonth, hyear, hdecoded, hhours]
  constructor
  · rintro ⟨hm, hw, hh, hmin, hsec, hd⟩
    exact ⟨hsec, hmin, hh, hw.1, hm, hd⟩
  · intro h
    exact ⟨h.month, ⟨h.weekday, by omega⟩, h.hour, h.minute, h.second, h.day⟩

theorem hourEncoded_iff {raw : UInt8} {hour : Nat} :
    HourEncoded raw.toNat hour ↔
      Digits (hourField raw.toNat) ∧
        (raw.toNat / 64 % 2 = 1 →
          1 ≤ nibbles (raw.toNat % 32) ∧ nibbles (raw.toNat % 32) ≤ 12) ∧
        (decodeHours raw).toNat = hour := by
  have hdecode := (decodeHours_toNat raw).2
  unfold HourEncoded
  by_cases hmode : raw.toNat / 64 % 2 = 0
  · have hfield : hourField raw.toNat = raw.toNat % 64 := if_pos hmode
    rw [if_pos hmode, hfield, bcd_iff]
    rw [hfield] at hdecode
    constructor
    · rintro ⟨hdigits, hhour⟩
      refine ⟨hdigits, fun htwelve => ?_, ?_⟩
      · omega
      · rw [hhour]
        exact (hdecode hdigits).1 hmode
    · rintro ⟨hdigits, _, hhour⟩
      exact ⟨hdigits, by rw [← hhour]; exact (hdecode hdigits).1 hmode⟩
  · have hset : raw.toNat / 64 % 2 = 1 := by omega
    have hfield : hourField raw.toNat = raw.toNat % 32 := if_neg hmode
    rw [if_neg hmode, hfield]
    rw [hfield] at hdecode
    constructor
    · rintro ⟨hour12, hone, htwelve, hbcd, hhour⟩
      obtain ⟨hdigits, hvalue⟩ := bcd_iff.mp hbcd
      rw [hvalue] at hone htwelve hhour
      refine ⟨hdigits, fun _ => ⟨hone, htwelve⟩, ?_⟩
      rw [hhour]
      exact (hdecode hdigits).2 hset hone htwelve
    · rintro ⟨hdigits, hrange, hhour⟩
      obtain ⟨hone, htwelve⟩ := hrange hset
      refine ⟨nibbles (raw.toNat % 32), hone, htwelve, bcd_iff.mpr ⟨hdigits, rfl⟩, ?_⟩
      rw [← hhour]
      exact (hdecode hdigits).2 hset hone htwelve

/-- An image that encodes is one with decimal digits whose decoding shows what it encodes. -/
theorem encodes_iff {image : Nat → UInt8} {moment : DateTime} {weekday : Nat} :
    Encodes image moment weekday ↔
      Decimal image ∧ 1 ≤ weekday ∧ (decodeRegisters image).Shows moment weekday := by
  obtain ⟨hseconds, hminutes, hweekday, hday, hmonth, hyear⟩ := decodeRegisters_toNat image
  constructor
  · intro h
    obtain ⟨hsecondDigits, hsecond⟩ := bcd_iff.mp h.second
    obtain ⟨hminuteDigits, hminute⟩ := bcd_iff.mp h.minute
    obtain ⟨hdayDigits, hdayValue⟩ := bcd_iff.mp h.day
    obtain ⟨hmonthDigits, hmonthValue⟩ := bcd_iff.mp h.month
    obtain ⟨hhourDigits, hhour12, hhour⟩ := hourEncoded_iff.mp h.hour
    obtain ⟨yy, hyy, hyearValue⟩ := h.year
    obtain ⟨hyearDigits, hyyValue⟩ := bcd_iff.mp hyy
    refine ⟨⟨hsecondDigits, hminuteDigits, hhourDigits, hhour12, hdayDigits, hmonthDigits,
      hyearDigits⟩, h.weekday.2, ?_⟩
    refine ⟨?_, hmonth.trans hmonthValue.symm, hday.trans hdayValue.symm,
      hweekday.trans h.weekday.1, hhour, hminutes.trans hminute.symm, hseconds.trans hsecond.symm⟩
    rw [hyear, hyearValue, hyyValue]
    rfl
  · rintro ⟨hdigits, hone, hshows⟩
    refine ⟨bcd_iff.mpr ⟨hdigits.second, ?_⟩, bcd_iff.mpr ⟨hdigits.minute, ?_⟩,
      hourEncoded_iff.mpr ⟨hdigits.hour, hdigits.hour12, hshows.hours⟩, ⟨?_, hone⟩,
      bcd_iff.mpr ⟨hdigits.day, ?_⟩, bcd_iff.mpr ⟨hdigits.month, ?_⟩,
      ⟨nibbles (image 6).toNat, bcd_iff.mpr ⟨hdigits.year, rfl⟩, ?_⟩⟩
    · rw [← hshows.seconds, hseconds]
    · rw [← hshows.minutes, hminutes]
    · rw [← hshows.weekday, hweekday]
    · rw [← hshows.day, hday]
    · rw [← hshows.month, hmonth]
    · rw [← hshows.year, hyear]
      rfl

theorem exists_shows_iff (payload : TimePayload) :
    payloadIsValid payload = true ↔
      ∃ moment weekday, 1 ≤ weekday ∧ weekday ≤ 7 ∧ payload.Shows moment weekday := by
  rw [payloadIsValid_iff]
  constructor
  · rintro ⟨hmonth, hweekday, hhours, hminutes, hseconds, hday⟩
    let moment : DateTime := {
      year := payload.year.toNat, month := payload.month.toNat, day := payload.day.toNat
      month_range := hmonth, day_range := hday
      hour := payload.hours.toNat, minute := payload.minutes.toNat, second := payload.seconds.toNat
      hour_lt := Nat.lt_succ_of_le hhours, minute_lt := Nat.lt_succ_of_le hminutes
      second_lt := Nat.lt_succ_of_le hseconds }
    exact ⟨moment, payload.weekday.toNat, hweekday.1, hweekday.2, rfl, rfl, rfl, rfl, rfl, rfl, rfl⟩
  · rintro ⟨moment, weekday, hone, hseven, hshows⟩
    have hhour := moment.hour_lt
    have hminute := moment.minute_lt
    have hsecond := moment.second_lt
    rw [hshows.year, hshows.month, hshows.day, hshows.weekday, hshows.hours, hshows.minutes,
      hshows.seconds]
    exact ⟨moment.month_range, ⟨hone, hseven⟩, by omega, by omega, by omega, moment.day_range⟩

end Fields

end RtcActor

end EventFramework
