/-
# Theory.Calendar — civil dates, time zones and durations of Go's `time` package

An instant is its Unix second.  A zone is what Go's `Location.lookup` returns: the offset in force and
the instants between which it is in force.  `date` looks the offset up twice around a transition, as
`time.Date` does.  Durations are int64 nanoseconds and wrap; adding one to an instant takes the floor
of its seconds.  `addDate64` is `AddDate` with machine words, for a number of years or months that
nobody has bounded; `addDate` is its integer counterpart.
-/
import Mathlib.Algebra.Group.Nat.Defs
import Mathlib.Algebra.Ring.Int.Defs
import NewApi.Theory.Machine

namespace NewApi.Theory.Calendar

/-- The offset in force at an instant, and the instants it is in force between. -/
structure Zone where
  offset : Int
  start : Int
  stop : Int

structure Location where
  lookup : Int → Zone

def utc : Location := ⟨fun _ => ⟨0, -2 ^ 63, 2 ^ 63 - 1⟩⟩

/-- Days from 1970-01-01 to a Gregorian date; `month` is 1 to 12, `day` is any. -/
def daysFromCivil (year month day : Int) : Int :=
  let y := if month ≤ 2 then year - 1 else year
  let era := y / 400
  let yoe := y - era * 400
  let doy := (153 * (if month ≤ 2 then month + 9 else month - 3) + 2) / 5 + day - 1
  era * 146097 + (yoe * 365 + yoe / 4 - yoe / 100 + doy) - 719468

variable (days : Int)

/-- The Gregorian date (year, month, day) of a day number. -/
def civilFromDays : Int × Int × Int :=
  let z := days + 719468
  let era := z / 146097
  let doe := z - era * 146097
  let yoe := (doe - doe / 1460 + doe / 36524 - doe / 146096) / 365
  let doy := doe - (365 * yoe + yoe / 4 - yoe / 100)
  let mp := (5 * doy + 2) / 153
  let month := if mp < 10 then mp + 3 else mp - 9
  let year := yoe + era * 400
  (if month ≤ 2 then year + 1 else year, month, doy - (153 * mp + 2) / 5 + 1)

/-- The second of the local clock at an instant, counted from 1970-01-01 00:00. -/
def localSecond (loc : Location) (t : Int) : Int := t + (loc.lookup t).offset

def civil (loc : Location) (t : Int) : Int × Int × Int := civilFromDays (localSecond loc t / 86400)

/-- `Time.Weekday`, Sunday is 0. -/
def weekday (loc : Location) (t : Int) : Int := (localSecond loc t / 86400 + 4) % 7

/-- The instant at which the local clock shows `second`. -/
def Location.instant (loc : Location) (second : Int) : Int :=
  let zone := loc.lookup second
  if zone.offset = 0 then second
  else
    let t := second - zone.offset
    if t < zone.start ∨ zone.stop ≤ t then second - (loc.lookup t).offset else t

/-- `time.Date` with the clock time given as a second of the day. -/
def date (loc : Location) (year month day second : Int) : Int :=
  let y := year + (month - 1) / 12
  let m := (month - 1) % 12 + 1
  loc.instant (daysFromCivil y m day * 86400 + second)

def addDate (loc : Location) (t years months days : Int) : Int :=
  let (y, m, d) := civil loc t
  date loc (y + years) (m + months) (d + days) (localSecond loc t % 86400)

/-- `dateToAbsDays`: the days since 1 March of the year -292277022400, in uint64. -/
def dateToAbsDays (year month day : Int) : Int :=
  let janFeb := if month < 3 then 1 else 0
  let amonth := month + 12 * janFeb
  let y := (year - janFeb + 292277022400) % 2 ^ 64
  let ayday := (979 * amonth - 2919) / 2 ^ 5
  let cday := 1461 * (y % 100) / 4
  let centurydays := 146097 * (y / 100) % 2 ^ 64 / 4
  (centurydays + (cday + ayday + day - 1)) % 2 ^ 64

/-- `dateToAbsDays` of 1 January 1970. -/
def unixAbsDays : Int := 106751990353932 + 719468

def Location.instant64 (loc : Location) (unix : Int) : Int :=
  let zone := loc.lookup unix
  if zone.offset = 0 then unix
  else
    let utc := wrap64 (unix - zone.offset)
    if utc < zone.start ∨ zone.stop ≤ utc then wrap64 (unix - (loc.lookup utc).offset) else utc

/-- `time.Date` with machine words. -/
def date64 (loc : Location) (year month day second : Int) : Int :=
  let m := wrap64 (month - 1)
  let y := wrap64 (year + m / 12)
  loc.instant64 (wrap64 ((dateToAbsDays y (m % 12 + 1) day - unixAbsDays) * 86400 + second))

def addDate64 (loc : Location) (t years months days : Int) : Int :=
  let (y, m, d) := civil loc t
  date64 loc (wrap64 (y + years)) (wrap64 (m + months)) (wrap64 (d + days)) (localSecond loc t % 86400)

/-- `time.Duration(n) * time.Second`, in nanoseconds. -/
def seconds (n : Int) : Int := wrap64 (n * 1000000000)

/-- `time.Duration(n) * time.Hour`, in nanoseconds. -/
def hours (n : Int) : Int := wrap64 (n * 3600000000000)

/-- `Time.Add` on a whole second, read back by `Time.Unix`. -/
def add (t duration : Int) : Int := t + duration / 1000000000

example : civilFromDays (daysFromCivil 2024 2 29) = (2024, 2, 29) := by decide

-- 2024-01-31 plus one month is 2024-03-02, as `AddDate` normalises it.
example : addDate utc (date utc 2024 1 31 3600) 0 1 0 = date utc 2024 3 2 3600 := by decide

example : addDate64 utc (date utc 2024 1 31 3600) 0 1 0 = date utc 2024 3 2 3600 := by decide

/-! ## What date arithmetic does to an instant

`civilFromDays` and `daysFromCivil` are inverse to each other
(`daysFromCivil_civilFromDays`), so adding days to a date adds them to the local clock,
whatever the zone does (`addDate_days`).  Months are counted from year 0; each is at least
28 days long (`monthDays_add`), so in a zone whose offsets stay within a day of universal
time a date some months later is a later instant, if its second is an int64 (`lt_addDate64_months`).
-/

/-! ## Days and dates -/

variable {yoe doy n : Int} {loc : Location}

/-- The day of the year stays within the year: `doe` is a day of a 400-year era. -/
theorem dayOfYear_bounds {doe : Int} (low : 0 ≤ doe) (high : doe < 146097)
    (year : yoe = (doe - doe / 1460 + doe / 36524 - doe / 146096) / 365) :
    0 ≤ doe - (365 * yoe + yoe / 4 - yoe / 100) ∧ doe - (365 * yoe + yoe / 4 - yoe / 100) < 366 := by
  -- The centuries are split because the divisions by 4, 100 and 400 are not linear together.
  have century : doe / 36524 = 0 ∨ doe / 36524 = 1 ∨ doe / 36524 = 2 ∨ doe / 36524 = 3 ∨ doe / 36524 = 4 := by omega
  have hundred : yoe / 100 = 0 ∨ yoe / 100 = 1 ∨ yoe / 100 = 2 ∨ yoe / 100 = 3 := by omega
  constructor
  · have leapDays : yoe / 4 - yoe / 100 ≤ doe / 1460 - doe / 36524 + doe / 146096 := by
      rcases century with c | c | c | c | c <;> rcases hundred with y | y | y | y <;> omega
    omega
  · rcases century with c | c | c | c | c <;> omega

/-- The date that a day of a year that begins in March has. -/
def marchDate (year doy : Int) : Int × Int × Int :=
  let mp := (5 * doy + 2) / 153
  let month := if mp < 10 then mp + 3 else mp - 9
  (if month ≤ 2 then year + 1 else year, month, doy - (153 * mp + 2) / 5 + 1)

theorem marchDate_month (year : Int) (low : 0 ≤ doy) (high : doy < 366) :
    1 ≤ (marchDate year doy).2.1 ∧ (marchDate year doy).2.1 ≤ 12 := by
  simp only [marchDate]
  split <;> omega

theorem daysFromCivil_marchDate (era : Int) (first : 0 ≤ yoe) (last : yoe < 400) (low : 0 ≤ doy) (high : doy < 366) :
    daysFromCivil (marchDate (yoe + era * 400) doy).1 (marchDate (yoe + era * 400) doy).2.1
        (marchDate (yoe + era * 400) doy).2.2 = era * 146097 + (yoe * 365 + yoe / 4 - yoe / 100 + doy) - 719468 := by
  have era_eq : (yoe + era * 400) / 400 = era := by omega
  simp only [marchDate, daysFromCivil]
  by_cases early : (5 * doy + 2) / 153 < 10
  · simp only [if_pos early]
    rw [if_neg (by omega), if_neg (by omega), if_neg (by omega), era_eq]
    omega
  · simp only [if_neg early]
    rw [if_pos (by omega), if_pos (by omega), if_pos (by omega), add_sub_cancel_right, era_eq]
    omega

/-- A day as the era of 400 years it is in, the year of the era and the day of the year. -/
theorem civilFromDays_eq : ∃ era yoe doy, 0 ≤ yoe ∧ yoe < 400 ∧ 0 ≤ doy ∧ doy < 366 ∧
      days = era * 146097 + (yoe * 365 + yoe / 4 - yoe / 100 + doy) - 719468 ∧
      civilFromDays days = marchDate (yoe + era * 400) doy := by
  have low : 0 ≤ days + 719468 - (days + 719468) / 146097 * 146097 := by omega
  have high : days + 719468 - (days + 719468) / 146097 * 146097 < 146097 := by omega
  have bounds := dayOfYear_bounds low high rfl
  refine ⟨(days + 719468) / 146097, _, _, ?_, ?_, bounds.1, bounds.2, ?_, rfl⟩
  · omega
  · omega
  · omega

theorem month_bounds : 1 ≤ (civilFromDays days).2.1 ∧ (civilFromDays days).2.1 ≤ 12 := by
  obtain ⟨era, yoe, doy, -, -, low, high, -, same⟩ := civilFromDays_eq days
  rw [same]
  exact marchDate_month _ low high

theorem daysFromCivil_civilFromDays :
    daysFromCivil (civilFromDays days).1 (civilFromDays days).2.1 (civilFromDays days).2.2 = days := by
  obtain ⟨era, yoe, doy, first, last, low, high, counted, same⟩ := civilFromDays_eq days
  rw [same, daysFromCivil_marchDate era first last low high, ← counted]

theorem daysFromCivil_add (year month day n : Int) :
    daysFromCivil year month (day + n) = daysFromCivil year month day + n := by
  simp only [daysFromCivil]
  omega

/-- The date of an instant, at second `second` of its day. -/
theorem date_civil (loc : Location) (t n second : Int) :
    date loc (civil loc t).1 (civil loc t).2.1 ((civil loc t).2.2 + n) second =
      loc.instant ((localSecond loc t / 86400 + n) * 86400 + second) := by
  have month := month_bounds (localSecond loc t / 86400)
  have days := daysFromCivil_civilFromDays (localSecond loc t / 86400)
  simp only [date, civil]
  rw [show ((civilFromDays (localSecond loc t / 86400)).2.1 - 1) / 12 = 0 by omega,
    show ((civilFromDays (localSecond loc t / 86400)).2.1 - 1) % 12 + 1 =
      (civilFromDays (localSecond loc t / 86400)).2.1 by omega,
    add_zero, daysFromCivil_add, days]

theorem addDate_days (loc : Location) (t n : Int) :
    addDate loc t 0 0 n = loc.instant (localSecond loc t + n * 86400) := by
  have shown := date_civil loc t n (localSecond loc t % 86400)
  simp only [addDate, add_zero]
  rw [shown]
  congr 1
  omega

/-! ## Adding months -/

/-- Days to day `day` of the `k`-th month, counted from January of year 0. -/
def monthDays (k day : Int) : Int := daysFromCivil (k / 12) (k % 12 + 1) day

/-- The era of 400 years taken apart; the year begins in March. -/
theorem daysFromCivil_eq (year month day : Int) : daysFromCivil year month day = (if month ≤ 2 then
        365 * (year - 1) + (year - 1) / 4 - (year - 1) / 100 + (year - 1) / 400 + (153 * (month + 9) + 2) / 5
      else 365 * year + year / 4 - year / 100 + year / 400 + (153 * (month - 3) + 2) / 5) + day - 719469 := by
  simp only [daysFromCivil]
  split <;> omega

/-- A month is between 28 and 31 days long. -/
theorem monthDays_succ (k day : Int) : monthDays k day + 28 ≤ monthDays (k + 1) day ∧
    monthDays (k + 1) day ≤ monthDays k day + 31 := by
  unfold monthDays
  rw [daysFromCivil_eq, daysFromCivil_eq]
  have month : k % 12 = 0 ∨ k % 12 = 1 ∨ k % 12 = 11 ∨ (2 ≤ k % 12 ∧ k % 12 ≤ 10) := by omega
  rcases month with january | february | december | ⟨march, november⟩
  · have next : (k + 1) % 12 = 1 ∧ (k + 1) / 12 = k / 12 := by omega
    rw [if_pos (by omega), if_pos (by omega), next.2]
    omega
  · have next : (k + 1) % 12 = 2 ∧ (k + 1) / 12 = k / 12 := by omega
    rw [if_pos (by omega), if_neg (by omega), next.2]
    omega
  · have next : (k + 1) % 12 = 0 ∧ (k + 1) / 12 = k / 12 + 1 := by omega
    rw [if_neg (by omega), if_pos (by omega), next.2]
    omega
  · have next : (k + 1) % 12 = k % 12 + 1 ∧ (k + 1) / 12 = k / 12 := by omega
    rw [if_neg (by omega), if_neg (by omega), next.1, next.2]
    omega

theorem monthDays_add (k day : Int) (n : Nat) : monthDays k day + 28 * n ≤ monthDays (k + n) day ∧
    monthDays (k + n) day ≤ monthDays k day + 31 * n := by
  induction n with
  | zero => simp
  | succ n ih =>
    have longer := monthDays_succ (k + n) day
    rw [show k + ((n + 1 : Nat) : Int) = k + n + 1 by omega]
    omega

/-- The offsets of the zone stay within a day of universal time. -/
def Location.Within (loc : Location) : Prop := ∀ t, -86400 ≤ (loc.lookup t).offset ∧ (loc.lookup t).offset ≤ 86400

theorem instant_near (within : loc.Within) (second : Int) :
    second - 86400 ≤ loc.instant second ∧ loc.instant second ≤ second + 86400 := by
  have here := within second
  have there := within (second - (loc.lookup second).offset)
  simp only [Location.instant]
  split
  · omega
  · split <;> omega

/-! ## Machine words -/

theorem instant64_eq (within : loc.Within) {unix : Int} (low : -(2 ^ 63) + 86400 ≤ unix)
    (high : unix + 86400 < 2 ^ 63) : loc.instant64 unix = loc.instant unix := by
  have here := within unix
  have there := within (unix - (loc.lookup unix).offset)
  simp only [Location.instant64, Location.instant]
  rw [wrap64_of_bounds (by omega) (by omega), wrap64_of_bounds (by omega) (by omega)]

/-- The days of the years before a year that begins in March, by centuries. -/
theorem yearDays_eq {year rest : Int} (low : -(2 ^ 38) - 1 ≤ year) (high : year < 2 ^ 40) (least : 0 ≤ rest)
    (most : rest < 400) :
    (146097 * ((year + 292277022400) % 2 ^ 64 / 100) % 2 ^ 64 / 4 +
      (1461 * ((year + 292277022400) % 2 ^ 64 % 100) / 4 + rest)) % 2 ^ 64 =
        365 * year + year / 4 - year / 100 + year / 400 + rest + 106751990353932 := by
  obtain ⟨y, rfl⟩ : ∃ y, year = y - 292277022400 := ⟨year + 292277022400, by omega⟩
  rw [sub_add_cancel, Int.emod_eq_of_lt (a := y) (by omega) (by omega)]
  obtain ⟨century, cyear, rfl, first, last⟩ : ∃ century cyear, y = 100 * century + cyear ∧ 0 ≤ cyear ∧ cyear < 100 :=
    ⟨y / 100, y % 100, by omega, by omega, by omega⟩
  rw [show (100 * century + cyear) / 100 = century by omega, show (100 * century + cyear) % 100 = cyear by omega,
    Int.emod_eq_of_lt (a := 146097 * century) (by omega) (by omega)]
  have centuries : 146097 * century / 4 = 36524 * century + century / 4 := by omega
  have years : 1461 * cyear / 4 = 365 * cyear + cyear / 4 := by omega
  rw [centuries, years, Int.emod_eq_of_lt (by omega) (by omega)]
  omega

/-- In uint64 the days are exact for the years that an int64 second can have, and far beyond. -/
theorem dateToAbsDays_eq {year month day : Int} (low : -(2 ^ 38) ≤ year) (high : year < 2 ^ 40)
    (first : 1 ≤ month) (last : month ≤ 12) (one : 1 ≤ day) (most : day ≤ 31) :
    dateToAbsDays year month day = daysFromCivil year month day + unixAbsDays := by
  have table {m : Int} (march : 3 ≤ m) (february : m ≤ 14) :
      (979 * m - 2919) / 2 ^ 5 = (153 * (m - 3) + 2) / 5 := by
    omega
  rw [daysFromCivil_eq]
  unfold dateToAbsDays unixAbsDays
  by_cases early : month ≤ 2
  · simp only [if_pos early, if_pos (show month < 3 by omega)]
    rw [table (by omega) (by omega), add_sub_assoc, add_assoc (1461 * _ / 4)]
    rw [yearDays_eq (by omega) (by omega) (by omega) (by omega)]
    omega
  · simp only [if_neg early, if_neg (show ¬month < 3 by omega), sub_zero]
    rw [table (by omega) (by omega), add_sub_assoc, add_assoc (1461 * _ / 4)]
    rw [yearDays_eq (by omega) (by omega) (by omega) (by omega)]
    omega

theorem day_bounds : 1 ≤ (civilFromDays days).2.2 ∧ (civilFromDays days).2.2 ≤ 31 := by
  obtain ⟨era, yoe, doy, -, -, low, high, -, same⟩ := civilFromDays_eq days
  rw [same]
  simp only [marchDate]
  omega

theorem year_bounds (low : -(2 ^ 46) ≤ days) (high : days ≤ 2 ^ 46) :
    -(2 ^ 38) + 1 ≤ (civilFromDays days).1 ∧ (civilFromDays days).1 < 2 ^ 38 := by
  obtain ⟨era, yoe, doy, first, last, least, most, counted, same⟩ := civilFromDays_eq days
  rw [same]
  simp only [marchDate]
  split <;> omega

/-- The second of the local clock `months` after an instant, in integers. -/
def laterSecond (loc : Location) (t months : Int) : Int :=
  let (year, month, day) := civil loc t
  monthDays (12 * year + (month - 1) + months) day * 86400 + localSecond loc t % 86400

section
variable (within : loc.Within) {t : Int} (low : -(2 ^ 62) ≤ t) (high : t < 2 ^ 62) (ahead : 0 < n)
  (limit : n ≤ 12 * 2 ^ 39)
include within low high ahead limit

/-- Up to `2 ^ 39` years later only the second wraps. -/
theorem addDate64_months : addDate64 loc t 0 n 0 = loc.instant64 (wrap64 (laterSecond loc t n)) := by
  have offset := within t
  have clock : localSecond loc t = t + (loc.lookup t).offset := rfl
  have month := month_bounds (localSecond loc t / 86400)
  have day := day_bounds (localSecond loc t / 86400)
  have year := year_bounds (localSecond loc t / 86400) (by omega) (by omega)
  simp only [addDate64, date64, laterSecond, civil, monthDays, add_zero]
  generalize civilFromDays (localSecond loc t / 86400) = shown at month day year
  obtain ⟨y, m, d⟩ := shown
  simp only at month day year ⊢
  rw [wrap64_of_bounds (n := y) (by omega) (by omega), wrap64_of_bounds (n := d) (by omega) (by omega),
    wrap64_of_bounds (n := m + n) (by omega) (by omega), wrap64_of_bounds (n := m + n - 1) (by omega) (by omega),
    wrap64_of_bounds (n := y + (m + n - 1) / 12) (by omega) (by omega),
    dateToAbsDays_eq (by omega) (by omega) (by omega) (by omega) (by omega) (by omega), add_sub_cancel_right,
    show (12 * y + (m - 1) + n) / 12 = y + (m + n - 1) / 12 by omega,
    show (12 * y + (m - 1) + n) % 12 = (m + n - 1) % 12 by omega]

/-- The end is after the start as long as its second is an int64. -/
theorem lt_addDate64_months (clear : laterSecond loc t n + 86400 < 2 ^ 63 ∨ 2 ^ 63 + 86400 ≤ laterSecond loc t n) :
    t < addDate64 loc t 0 n 0 ↔ laterSecond loc t n < 2 ^ 63 := by
  have offset := within t
  have clock : localSecond loc t = t + (loc.lookup t).offset := rfl
  have between : localSecond loc t + 28 * 86400 ≤ laterSecond loc t n ∧
      laterSecond loc t n ≤ localSecond loc t + 31 * 86400 * n := by
    have month := month_bounds (localSecond loc t / 86400)
    have days := daysFromCivil_civilFromDays (localSecond loc t / 86400)
    obtain ⟨months, rfl⟩ := Int.eq_ofNat_of_zero_le (Int.le_of_lt ahead)
    simp only [laterSecond, civil]
    generalize civilFromDays (localSecond loc t / 86400) = shown at month days
    obtain ⟨y, m, d⟩ := shown
    simp only at month days ⊢
    have longer := monthDays_add (12 * y + (m - 1)) d months
    have first : monthDays (12 * y + (m - 1)) d = localSecond loc t / 86400 := by
      unfold monthDays
      rw [show (12 * y + (m - 1)) / 12 = y by omega, show (12 * y + (m - 1)) % 12 + 1 = m by omega, days]
    omega
  rw [addDate64_months within low high ahead limit]
  rcases clear with inside | beyond
  · rw [wrap64_of_bounds (by omega) (by omega), instant64_eq within (by omega) (by omega)]
    have near := instant_near within (laterSecond loc t n)
    omega
  · rw [wrap64_of_ge (by omega) (by omega), instant64_eq within (by omega) (by omega)]
    have near := instant_near within (laterSecond loc t n - 2 ^ 64)
    omega

end

theorem addDate64_years (within : loc.Within) {t : Int} (low : -(2 ^ 62) ≤ t) (high : t < 2 ^ 62) (ahead : 0 < n)
    (limit : n ≤ 2 ^ 39) : addDate64 loc t n 0 0 = addDate64 loc t 0 (12 * n) 0 := by
  have offset := within t
  have clock : localSecond loc t = t + (loc.lookup t).offset := rfl
  have month := month_bounds (localSecond loc t / 86400)
  have year := year_bounds (localSecond loc t / 86400) (by omega) (by omega)
  simp only [addDate64, date64, civil, add_zero]
  generalize civilFromDays (localSecond loc t / 86400) = shown at month year
  obtain ⟨y, m, d⟩ := shown
  simp only at month year ⊢
  rw [wrap64_of_bounds (n := y) (by omega) (by omega), wrap64_of_bounds (n := m) (by omega) (by omega),
    wrap64_of_bounds (n := y + n) (by omega) (by omega), wrap64_of_bounds (n := m - 1) (by omega) (by omega),
    wrap64_of_bounds (n := m + 12 * n) (by omega) (by omega),
    wrap64_of_bounds (n := m + 12 * n - 1) (by omega) (by omega),
    show y + n + (m - 1) / 12 = y + (m + 12 * n - 1) / 12 by omega,
    show (m + 12 * n - 1) % 12 = (m - 1) % 12 by omega]

/-- A duration of less than a second is lost. -/
theorem lt_add_iff (t duration : Int) : t < add t duration ↔ 1000000000 ≤ duration := by
  unfold add
  omega

@[simp] theorem localSecond_utc (t : Int) : localSecond utc t = t := by simp [localSecond, utc]

@[simp] theorem instant_utc (second : Int) : utc.instant second = second := by simp [Location.instant, utc]

theorem within_utc : utc.Within := by
  intro t
  simp [utc]

end NewApi.Theory.Calendar
