import Mathlib.Algebra.Ring.Nat
import Mathlib.Data.List.Lex
import Mathlib.Logic.Function.Iterate

/-!
# The proleptic Gregorian calendar

Dates and times of day that exist, the clock that moves from one second to the next, and the number
of seconds that it counts from the beginning of a base year on. Later moments have larger counts.
-/

namespace Calendar
set_option autoImplicit false

def IsLeap (year : Nat) : Prop := year % 4 = 0 ∧ (year % 100 = 0 → year % 400 = 0)

instance : DecidablePred IsLeap := fun year =>
  inferInstanceAs (Decidable (year % 4 = 0 ∧ (year % 100 = 0 → year % 400 = 0)))

def yearDays (year : Nat) : Nat := if IsLeap year then 366 else 365

def monthDays (year : Nat) : Nat → Nat
  | 2 => if IsLeap year then 29 else 28
  | 4 | 6 | 9 | 11 => 30
  | _ => 31

structure Date where
  year : Nat
  month : Nat
  day : Nat
  month_range : 1 ≤ month ∧ month ≤ 12
  day_range : 1 ≤ day ∧ day ≤ monthDays year month
  deriving DecidableEq

/-- A second of a day that exists. -/
structure DateTime extends Date where
  hour : Nat
  minute : Nat
  second : Nat
  hour_lt : hour < 24
  minute_lt : minute < 60
  second_lt : second < 60
  deriving DecidableEq

theorem monthDays_pos (year month : Nat) : 1 ≤ monthDays year month := by
  unfold monthDays
  split
  · split <;> decide
  all_goals decide

namespace Date

def newYear (year : Nat) : Date where
  year := year
  month := 1
  day := 1
  month_range := by decide
  day_range := ⟨Nat.le_refl 1, monthDays_pos year 1⟩

def next (date : Date) : Date :=
  if hday : date.day < monthDays date.year date.month then
    { date with day := date.day + 1, day_range := ⟨Nat.le_add_left 1 _, hday⟩ }
  else if hmonth : date.month < 12 then
    { date with
      month := date.month + 1, day := 1, month_range := ⟨Nat.le_add_left 1 _, hmonth⟩
      day_range := ⟨Nat.le_refl 1, monthDays_pos _ _⟩ }
  else newYear (date.year + 1)

end Date

namespace DateTime

def newYear (year : Nat) : DateTime where
  toDate := .newYear year
  hour := 0
  minute := 0
  second := 0
  hour_lt := by decide
  minute_lt := by decide
  second_lt := by decide

def tick (moment : DateTime) : DateTime :=
  if hsecond : moment.second + 1 < 60 then
    { moment with second := moment.second + 1, second_lt := hsecond }
  else if hminute : moment.minute + 1 < 60 then
    { moment with
      minute := moment.minute + 1, second := 0, minute_lt := hminute, second_lt := by decide }
  else if hhour : moment.hour + 1 < 24 then
    { moment with
      hour := moment.hour + 1, minute := 0, second := 0
      hour_lt := hhour, minute_lt := by decide, second_lt := by decide }
  else
    { toDate := moment.toDate.next, hour := 0, minute := 0, second := 0
      hour_lt := by decide, minute_lt := by decide, second_lt := by decide }

/-- The fields from the largest to the smallest, in which moments are compared. -/
def fields (moment : DateTime) : List Nat :=
  [moment.year, moment.month, moment.day, moment.hour, moment.minute, moment.second]

end DateTime

section Days

variable (base : Nat)

def daysBeforeYear (year : Nat) : Nat := ((List.range' base (year - base)).map yearDays).sum

def daysBeforeMonth (year month : Nat) : Nat := ((List.range' 1 (month - 1)).map (monthDays year)).sum

/-- The days from the beginning of the base year to a date. -/
def Date.days (date : Date) : Nat :=
  daysBeforeYear base date.year + daysBeforeMonth date.year date.month + (date.day - 1)

/-- The seconds from the beginning of the base year to a moment. -/
def DateTime.seconds (moment : DateTime) : Nat :=
  moment.toDate.days base * 86400 + moment.hour * 3600 + moment.minute * 60 + moment.second

variable {base}

theorem daysBeforeYear_succ {year : Nat} (h : base ≤ year) :
    daysBeforeYear base (year + 1) = daysBeforeYear base year + yearDays year := by
  have hlength : year + 1 - base = year - base + 1 := by omega
  have hlast : base + (year - base) = year := by omega
  rw [daysBeforeYear, hlength, List.range'_1_concat, List.map_append, List.sum_append, hlast]
  rw [List.map_singleton, List.sum_singleton]
  rfl

theorem daysBeforeYear_mono {year year' : Nat} (hbase : base ≤ year) (h : year ≤ year') :
    daysBeforeYear base year ≤ daysBeforeYear base year' := by
  induction h with
  | refl => exact Nat.le_refl _
  | step hle ih =>
    rw [daysBeforeYear_succ (Nat.le_trans hbase hle)]
    exact Nat.le_trans ih (Nat.le_add_right _ _)

theorem daysBeforeMonth_succ (year : Nat) {month : Nat} (h : 1 ≤ month) :
    daysBeforeMonth year (month + 1) = daysBeforeMonth year month + monthDays year month := by
  have hlength : month + 1 - 1 = month - 1 + 1 := by omega
  have hlast : 1 + (month - 1) = month := by omega
  rw [daysBeforeMonth, hlength, List.range'_1_concat, List.map_append, List.sum_append, hlast]
  rw [List.map_singleton, List.sum_singleton]
  rfl

theorem daysBeforeMonth_mono (year : Nat) {month month' : Nat} (hone : 1 ≤ month)
    (h : month ≤ month') : daysBeforeMonth year month ≤ daysBeforeMonth year month' := by
  induction h with
  | refl => exact Nat.le_refl _
  | step hle ih =>
    rw [daysBeforeMonth_succ year (Nat.le_trans hone hle)]
    exact Nat.le_trans ih (Nat.le_add_right _ _)

theorem daysBeforeMonth_year (year : Nat) : daysBeforeMonth year 13 = yearDays year := by
  simp only [daysBeforeMonth, List.range', List.map_cons, List.map_nil, monthDays, yearDays]
  split <;> rfl

theorem Date.days_lt_month (date : Date) :
    daysBeforeMonth date.year date.month + (date.day - 1) <
      daysBeforeMonth date.year (date.month + 1) := by
  rw [daysBeforeMonth_succ date.year date.month_range.1]
  have hday := date.day_range
  omega

theorem Date.days_lt_year (date : Date) (hbase : base ≤ date.year) :
    date.days base < daysBeforeYear base (date.year + 1) := by
  have hmonth := date.days_lt_month
  have hyear := daysBeforeMonth_mono date.year (Nat.le_add_left 1 date.month)
    (Nat.add_le_add_right date.month_range.2 1)
  rw [daysBeforeMonth_year] at hyear
  rw [daysBeforeYear_succ hbase, Date.days]
  omega

theorem Date.days_next (date : Date) (hbase : base ≤ date.year) :
    date.next.days base = date.days base + 1 ∧ base ≤ date.next.year := by
  have hday := date.day_range
  have hmonth := date.month_range
  unfold Date.next
  split
  · refine ⟨?_, hbase⟩
    simp only [Date.days]
    omega
  · have hend : date.day = monthDays date.year date.month := by omega
    split
    · refine ⟨?_, hbase⟩
      simp only [Date.days, daysBeforeMonth_succ date.year hmonth.1]
      omega
    · have hlast : date.month = 12 := by omega
      refine ⟨?_, Nat.le_succ_of_le hbase⟩
      have hfirst : daysBeforeMonth (date.year + 1) 1 = 0 := rfl
      have hfill := daysBeforeMonth_year date.year
      rw [daysBeforeMonth_succ date.year (by decide), ← hlast] at hfill
      simp only [Date.newYear, Date.days, hfirst, daysBeforeYear_succ hbase]
      omega

end Days

section Seconds

variable {base : Nat}

theorem DateTime.seconds_tick (moment : DateTime) (hbase : base ≤ moment.year) :
    moment.tick.seconds base = moment.seconds base + 1 ∧ base ≤ moment.tick.year := by
  have hsecond := moment.second_lt
  have hminute := moment.minute_lt
  have hhour := moment.hour_lt
  unfold DateTime.tick
  split
  · refine ⟨?_, hbase⟩
    simp only [DateTime.seconds]
    omega
  · split
    · refine ⟨?_, hbase⟩
      simp only [DateTime.seconds]
      omega
    · split
      · refine ⟨?_, hbase⟩
        simp only [DateTime.seconds]
        omega
      · obtain ⟨hdays, hyear⟩ := moment.toDate.days_next hbase
        refine ⟨?_, hyear⟩
        simp only [DateTime.seconds, hdays]
        omega

theorem DateTime.seconds_newYear (base : Nat) : (newYear base).seconds base = 0 := by
  simp [DateTime.seconds, Date.days, newYear, Date.newYear, daysBeforeYear, daysBeforeMonth]

/-- The clock counts the seconds. -/
theorem DateTime.seconds_iterate (base n : Nat) :
    (tick^[n] (newYear base)).seconds base = n ∧ base ≤ (tick^[n] (newYear base)).year := by
  induction n with
  | zero => exact ⟨seconds_newYear base, Nat.le_refl base⟩
  | succ n ih =>
    rw [Function.iterate_succ_apply']
    obtain ⟨hcount, hyear⟩ := seconds_tick _ ih.2
    exact ⟨hcount.trans (congrArg (· + 1) ih.1), hyear⟩

theorem Date.days_lt {date date' : Date} (hbase : base ≤ date.year)
    (h : [date.year, date.month, date.day] < [date'.year, date'.month, date'.day]) :
    date.days base < date'.days base := by
  simp only [List.cons_lt_cons_iff, List.not_lt_nil, and_false, or_false] at h
  have hday := date.day_range
  rcases h with hyear | ⟨hyear, hmonth | ⟨hmonth, hlater⟩⟩
  · have hend : daysBeforeYear base (date.year + 1) ≤ daysBeforeYear base date'.year :=
      daysBeforeYear_mono (Nat.le_succ_of_le hbase) hyear
    have hbefore := date.days_lt_year hbase
    have hafter : daysBeforeYear base date'.year ≤ date'.days base := by
      unfold Date.days
      omega
    omega
  · have hend : daysBeforeMonth date.year (date.month + 1) ≤ daysBeforeMonth date.year date'.month :=
      daysBeforeMonth_mono date.year (Nat.le_add_left 1 date.month) hmonth
    have hbefore := date.days_lt_month
    simp only [Date.days, ← hyear]
    omega
  · simp only [Date.days, ← hyear, ← hmonth]
    omega

theorem DateTime.seconds_lt {moment moment' : DateTime} (hbase : base ≤ moment.year)
    (h : moment.fields < moment'.fields) : moment.seconds base < moment'.seconds base := by
  have hminute := moment.minute_lt
  have hsecond := moment.second_lt
  have hhour := moment.hour_lt
  by_cases hdate : [moment.year, moment.month, moment.day] <
      [moment'.year, moment'.month, moment'.day]
  · have hdays := Date.days_lt hbase hdate
    unfold DateTime.seconds
    omega
  · simp only [DateTime.fields, List.cons_lt_cons_iff, List.not_lt_nil, and_false, or_false] at h hdate
    have hsame : moment.year = moment'.year ∧ moment.month = moment'.month ∧
        moment.day = moment'.day := by omega
    have hdays : moment.toDate.days base = moment'.toDate.days base := by
      simp only [Date.days, hsame]
    unfold DateTime.seconds
    omega

theorem DateTime.fields_injective : Function.Injective fields := by
  intro moment moment' h
  simp only [fields, List.cons.injEq, and_true] at h
  obtain ⟨hyear, hmonth, hday, hhour, hminute, hsecond⟩ := h
  obtain ⟨⟨⟩⟩ := moment
  obtain ⟨⟨⟩⟩ := moment'
  cases hyear
  cases hmonth
  cases hday
  cases hhour
  cases hminute
  cases hsecond
  rfl

theorem DateTime.seconds_lt_iff {moment moment' : DateTime} (hbase : base ≤ moment.year)
    (hbase' : base ≤ moment'.year) :
    moment.seconds base < moment'.seconds base ↔ moment.fields < moment'.fields := by
  refine ⟨fun h => ?_, seconds_lt hbase⟩
  rcases lt_trichotomy moment.fields moment'.fields with hlt | heq | hgt
  · exact hlt
  · rw [fields_injective heq] at h
    exact absurd h (Nat.lt_irrefl _)
  · exact absurd h (Nat.lt_asymm (seconds_lt hbase' hgt))

/-- The clock that starts with the base year shows a moment after as many seconds as are counted to
it. -/
theorem DateTime.iterate_iff {moment : DateTime} (hbase : base ≤ moment.year) (n : Nat) :
    tick^[n] (newYear base) = moment ↔ moment.seconds base = n := by
  obtain ⟨hcount, hyear⟩ := seconds_iterate base n
  constructor
  · rintro rfl
    exact hcount
  · intro h
    apply fields_injective
    rcases lt_trichotomy (tick^[n] (newYear base)).fields moment.fields with hlt | heq | hgt
    · have hless := seconds_lt hyear hlt
      omega
    · exact heq
    · have hless := seconds_lt hbase hgt
      omega

end Seconds

end Calendar
