import EventFramework.Actors.RtcDecoding

/-!
# The unix time of the RTC actor

`ev_rtc_actor_build_unix_time` counts the days of years and months in a `uint32_t` and turns them into
seconds. The century bit reaches years whose seconds no longer fit.
-/

namespace EventFramework
set_option autoImplicit false

variable {P ω : Type}

open Calendar (DateTime IsLeap monthDays yearDays daysBeforeYear daysBeforeMonth)

namespace RtcActor

open Ds3231

theorem foldl_add_toNat {α : Type} (f : α → UInt32) (g : α → Nat) (items : List α)
    (hfg : ∀ item ∈ items, (f item).toNat = g item) (start : UInt32) :
    (items.foldl (fun sum item => sum + f item) start).toNat =
      (start.toNat + (items.map g).sum) % 2 ^ 32 := by
  induction items generalizing start with
  | nil => exact (Nat.mod_eq_of_lt start.toNat_lt).symm
  | cons item items ih =>
    rw [List.foldl_cons, ih (fun other hmem => hfg other (List.mem_cons_of_mem _ hmem)),
      UInt32.toNat_add, hfg item List.mem_cons_self, List.map_cons, List.sum_cons]
    omega

theorem years_toNat (year : UInt16) :
    (((List.range' 1970 (year.toNat - 1970)).map UInt16.ofNat).foldl
        (fun (days : UInt32) year => days + if isLeapYear year then 366 else 365) 0).toNat =
      daysBeforeYear 1970 year.toNat % 2 ^ 32 := by
  have hyear := year.toNat_lt
  rw [List.foldl_map,
    foldl_add_toNat (fun n => if isLeapYear (UInt16.ofNat n) then 366 else 365) yearDays]
  · rw [daysBeforeYear]
    exact congrArg (· % 2 ^ 32) (Nat.zero_add _)
  · intro n hn
    have hrange := (List.mem_range'_1.mp hn).2
    have hleap := isLeapYear_iff (UInt16.ofNat n)
    rw [UInt16.toNat_ofNat_of_lt' (by change n < 65536; omega)] at hleap
    unfold yearDays
    cases hcase : isLeapYear (UInt16.ofNat n) with
    | true => rw [if_pos rfl, if_pos (hleap.mp hcase)]; rfl
    | false =>
      rw [if_neg Bool.false_ne_true, if_neg fun h => by rw [hleap.mpr h] at hcase; cases hcase]
      rfl

theorem months_toNat (year : UInt16) {month : UInt8} (hmonth : month.toNat ≤ 12) (days : UInt32) :
    (((List.range' 1 (month.toNat - 1)).map UInt8.ofNat).foldl
        (fun (days : UInt32) month => days + (daysInMonth year month).toUInt32) days).toNat =
      (days.toNat + daysBeforeMonth year.toNat month.toNat) % 2 ^ 32 := by
  rw [List.foldl_map, foldl_add_toNat (fun n => (daysInMonth year (UInt8.ofNat n)).toUInt32)
    (monthDays year.toNat)]
  · rfl
  · intro n hn
    obtain ⟨hone, hlast⟩ := List.mem_range'_1.mp hn
    have hsmall : (UInt8.ofNat n).toNat = n :=
      UInt8.toNat_ofNat_of_lt' (by change n < 256; omega)
    rw [UInt8.toNat_toUInt32, daysInMonth_toNat year (by omega) (by omega), hsmall]

/-- The unix time is the count of the seconds, modulo the word. -/
theorem buildUnixTime_toNat {payload : TimePayload} {moment : DateTime} {weekday : Nat}
    (h : payload.Shows moment weekday) :
    (buildUnixTime payload).toNat = moment.seconds 1970 % 2 ^ 32 := by
  have hmonth := moment.month_range
  have hday := moment.day_range
  have hyears := years_toNat payload.year
  have htwelve : payload.month.toNat ≤ 12 := by
    rw [h.month]
    exact hmonth.2
  have hmonths := months_toNat payload.year htwelve
    (((List.range' 1970 (payload.year.toNat - 1970)).map UInt16.ofNat).foldl
      (fun (days : UInt32) year => days + if isLeapYear year then 366 else 365) 0)
  have hone : (payload.day.toUInt32 - 1).toNat = moment.day - 1 := by
    rw [UInt32.toNat_sub_of_le]
    · rw [UInt8.toNat_toUInt32, h.day]
      rfl
    · rw [UInt32.le_iff_toNat_le, UInt8.toNat_toUInt32, h.day]
      exact hday.1
  unfold buildUnixTime
  simp only
  rw [hyears, h.year, h.month] at hmonths
  rw [UInt32.toNat_add, UInt32.toNat_add, UInt32.toNat_add, UInt32.toNat_mul, UInt32.toNat_mul,
    UInt32.toNat_mul, UInt32.toNat_add, h.year, h.month, hmonths, hone, UInt8.toNat_toUInt32,
    UInt8.toNat_toUInt32, UInt8.toNat_toUInt32, h.hours, h.minutes, h.seconds]
  have h86400 : (86400 : UInt32).toNat = 86400 := rfl
  have h3600 : (3600 : UInt32).toNat = 3600 := rfl
  have h60 : (60 : UInt32).toNat = 60 := rfl
  rw [h86400, h3600, h60, DateTime.seconds, Calendar.Date.days]
  omega

/-- The last second that a word counts from 1970 on. -/
def lastUnixMoment : DateTime where
  year := 2106
  month := 2
  day := 7
  hour := 6
  minute := 28
  second := 15
  month_range := by decide
  day_range := by decide
  hour_lt := by decide
  minute_lt := by decide
  second_lt := by decide

theorem lastUnixMoment_seconds : lastUnixMoment.seconds 1970 = 2 ^ 32 - 1 := by
  decide +kernel

/-- A clock set to the beginning of 1970 shows the moment after as many seconds as `unix_time`
says, and what the actor takes from images of earlier moments has a smaller one. -/
structure UnixExact (payload : TimePayload) (moment : DateTime) : Prop where
  exact : DateTime.tick^[payload.unixTime.toNat] (.newYear 1970) = moment
  later : ∀ image payload' moment' weekday, takenTime image = some payload' →
    payload'.Shows moment' weekday → moment'.fields < moment.fields →
    payload'.unixTime < payload.unixTime

theorem taken_unixTime {image : Nat → UInt8} {payload : TimePayload} {moment : DateTime} {weekday : Nat}
    (htaken : takenTime image = some payload) (hshows : payload.Shows moment weekday) :
    1970 ≤ moment.year ∧ payload.unixTime.toNat = moment.seconds 1970 % 2 ^ 32 := by
  obtain ⟨_, rfl⟩ := takenTime_eq_some_iff.mp htaken
  have hyear : (decodeRegisters image).year.toNat = moment.year := hshows.year
  constructor
  · rw [← hyear, (decodeRegisters_toNat image).2.2.2.2.2, yearField]
    omega
  · have hdecoded : (decodeRegisters image).Shows moment weekday := ⟨hshows.year, hshows.month,
      hshows.day, hshows.weekday, hshows.hours, hshows.minutes, hshows.seconds⟩
    exact buildUnixTime_toNat hdecoded

theorem fields_le_last_iff {moment : DateTime} (hyear : 1970 ≤ moment.year) :
    moment.fields ≤ lastUnixMoment.fields ↔ moment.seconds 1970 < 2 ^ 32 := by
  have hlast : 1970 ≤ lastUnixMoment.year := by decide
  have hlater := DateTime.seconds_lt_iff hlast hyear
  rw [lastUnixMoment_seconds] at hlater
  rw [← not_lt, ← hlater]
  omega

theorem taken_exact_iff {image : Nat → UInt8} {payload : TimePayload} {moment : DateTime} {weekday : Nat}
    (htaken : takenTime image = some payload) (hshows : payload.Shows moment weekday) :
    UnixExact payload moment ↔ moment.fields ≤ lastUnixMoment.fields := by
  obtain ⟨hyear, hunix⟩ := taken_unixTime htaken hshows
  have hword := payload.unixTime.toNat_lt
  rw [fields_le_last_iff hyear]
  constructor
  · intro h
    rw [(DateTime.iterate_iff hyear _).mp h.exact]
    exact hword
  · intro hfits
    have hsame : payload.unixTime.toNat = moment.seconds 1970 := hunix.trans (Nat.mod_eq_of_lt hfits)
    refine ⟨(DateTime.iterate_iff hyear _).mpr hsame.symm, ?_⟩
    intro image' payload' moment' weekday' htaken' hshows' hearlier
    obtain ⟨hyear', hunix'⟩ := taken_unixTime htaken' hshows'
    have hless := DateTime.seconds_lt hyear' hearlier
    rw [UInt32.lt_iff_toNat_lt, hunix', hsame]
    exact Nat.lt_of_le_of_lt (Nat.mod_le _ _) hless

/-- The unix time of an accepted sample is exact, and larger than that of every earlier one, just
when the sample is not after 2106-02-07T06:28:15. -/
theorem unix_exact_iff (ports : RtcPorts P ω) (s : RtcState P ω) (fallbackPoll : Bool)
    {image : Nat → UInt8} (hread : Reads ports s image) (haccepts : Accepts ports s fallbackPoll)
    {moment : DateTime} {weekday : Nat}
    (hshows : (tryRefreshTime ports fallbackPoll s).2.ctx.lastTime.Shows moment weekday) :
    UnixExact (tryRefreshTime ports fallbackPoll s).2.ctx.lastTime moment ↔
      moment.fields ≤ [2106, 2, 7, 6, 28, 15] := by
  have hrange := (accepts_iff ports s fallbackPoll hread).mp haccepts
  have htaken := takenTime_eq_some_iff.mpr ⟨hrange, rfl⟩
  rw [(tryRefreshTime_takes ports s fallbackPoll hread htaken).time] at hshows ⊢
  exact taken_exact_iff htaken hshows

/-- The registers of a second, a minute, an hour, a day, a month and a year of two digits. -/
def registers (second minute hour day month year : UInt8) : Nat → UInt8 :=
  fun i => [second, minute, hour, 0x01, day, month, year].getD i 0

/-- 2024-03-19T12:34:56. -/
theorem unix_exact_2024 :
    let image := registers 0x56 0x34 0x12 0x19 0x03 0x24
    let s : RtcState Unit Unit := .start (fresh ⟨0, 0x68⟩ 0) ()
    ∃ moment : DateTime, moment.fields = [2024, 3, 19, 12, 34, 56] ∧
      UnixExact (tryRefreshTime (imagePorts image) false s).2.ctx.lastTime moment := by
  intro image s
  let moment : DateTime := {
    year := 2024, month := 3, day := 19, hour := 12, minute := 34, second := 56
    month_range := by decide, day_range := by decide
    hour_lt := by decide, minute_lt := by decide, second_lt := by decide }
  refine ⟨moment, rfl, ?_⟩
  have hread : Reads (imagePorts image) s image := rfl
  have haccepts : Accepts (imagePorts image) s false := by
    unfold Accepts
    decide +kernel
  have hshows : (tryRefreshTime (imagePorts image) false s).2.ctx.lastTime.Shows moment 1 := by
    constructor <;> decide +kernel
  exact (unix_exact_iff (imagePorts image) s false hread haccepts hshows).mpr (by decide)

/-- In 2150, with the century bit set, the seconds have wrapped. -/
theorem not_unix_exact_2150 :
    let image := registers 0x00 0x00 0x00 0x01 0x81 0x50
    let s : RtcState Unit Unit := .start (fresh ⟨0, 0x68⟩ 0) ()
    Accepts (imagePorts image) s false ∧
      ∀ moment weekday,
        (tryRefreshTime (imagePorts image) false s).2.ctx.lastTime.Shows moment weekday →
          ¬UnixExact (tryRefreshTime (imagePorts image) false s).2.ctx.lastTime moment := by
  intro image s
  have hread : Reads (imagePorts image) s image := rfl
  have haccepts : Accepts (imagePorts image) s false := by
    unfold Accepts
    decide +kernel
  refine ⟨haccepts, fun moment weekday hshows h => ?_⟩
  have hrange := (accepts_iff (imagePorts image) s false hread).mp haccepts
  have htaken := takenTime_eq_some_iff.mpr ⟨hrange, rfl⟩
  rw [(tryRefreshTime_takes (imagePorts image) s false hread htaken).time] at hshows h
  have hfits := (taken_exact_iff htaken hshows).mp h
  have hyear : moment.year = 2150 := by
    rw [← hshows.year]
    decide +kernel
  have hlate : lastUnixMoment.fields < moment.fields := by
    unfold DateTime.fields
    rw [hyear]
    exact List.Lex.rel (by decide)
  exact absurd hlate (not_lt.mpr hfits)

end RtcActor

end EventFramework
