/-
# Subscription.PlanTimes — plans whose times do not move

The nanoseconds of a plan's times are an int64 and wrap, so an end may not be after the start, and a
custom reset period may be no time at all: then every reset date is its own successor and the
catch-up loop never ends.  The int64 second of a date in 300 billion years wraps as well.  The same
loop never ends with daily, weekly and monthly resets where a clock change skips midnight and
`time.Date` answers with the evening before.
-/
import NewApi.Subscription.ResetTimes

namespace NewApi.Subscription
open Theory Theory.Schedule Theory.Calendar Model

variable {cfg : Config} {plan : SubscriptionPlan} {sub : UserSubscription} {now : Int}

/-- What is asked of the duration: a second or more is left of it in int64 nanoseconds, and the second
of a date is an int64.  A plan without a positive duration is refused. -/
def DurationFits (cfg : Config) (start : Int) (plan : SubscriptionPlan) : Prop :=
  match plan.durationUnit with
  | .year => plan.durationValue ≤ 0 ∨ laterSecond cfg.location start (12 * plan.durationValue) < 2 ^ 63
  | .month => plan.durationValue ≤ 0 ∨ laterSecond cfg.location start plan.durationValue < 2 ^ 63
  | .day => plan.durationValue ≤ 0 ∨ 1000000000 ≤ hours (wrap64 (plan.durationValue * 24))
  | .hour => plan.durationValue ≤ 0 ∨ 1000000000 ≤ hours plan.durationValue
  | .custom => plan.customSeconds ≤ 0 ∨ 1000000000 ≤ seconds plan.customSeconds
  | .other _ => True

/-- The months of a duration in years or months. -/
def calendarMonths (plan : SubscriptionPlan) : Option Int :=
  match plan.durationUnit with
  | .year => some (12 * plan.durationValue)
  | .month => some plan.durationValue
  | _ => none

/-- A start within `2 ^ 62` seconds of 1970.  A date is at most `2 ^ 39` years later, so that its second
wraps once, and it is not within a day of the last int64, where the zone's offset decides. -/
structure Foreseeable (cfg : Config) (start : Int) (plan : SubscriptionPlan) : Prop where
  low : -(2 ^ 62) ≤ start
  high : start < 2 ^ 62
  limit : ∀ months ∈ calendarMonths plan, months ≤ 12 * 2 ^ 39
  clear : ∀ months ∈ calendarMonths plan, laterSecond cfg.location start months + 86400 < 2 ^ 63 ∨
    2 ^ 63 + 86400 ≤ laterSecond cfg.location start months

/-- `calcPlanEndTime` returns an end after the start, or an error. -/
def EndsLater (cfg : Config) (start : Int) (plan : SubscriptionPlan) : Prop :=
  ∀ endTime, calcPlanEndTime cfg start plan = .ok endTime → start < endTime

theorem endsLater_iff (within : cfg.location.Within) {start : Int} (seen : Foreseeable cfg start plan) :
    EndsLater cfg start plan ↔ DurationFits cfg start plan := by
  unfold EndsLater DurationFits calcPlanEndTime
  cases unit : plan.durationUnit with
  | year =>
    have months : 12 * plan.durationValue ∈ calendarMonths plan := by simp [calendarMonths, unit]
    have limit := seen.limit _ months
    by_cases positive : plan.durationValue ≤ 0
    · simp [positive]
    · simpa [positive, addDate64_years within seen.low seen.high (n := plan.durationValue) (by omega) (by omega)]
        using lt_addDate64_months within seen.low seen.high (by omega) limit (seen.clear _ months)
  | month =>
    have months : plan.durationValue ∈ calendarMonths plan := by simp [calendarMonths, unit]
    by_cases positive : plan.durationValue ≤ 0
    · simp [positive]
    · simpa [positive] using lt_addDate64_months within seen.low seen.high (by omega) (seen.limit _ months)
        (seen.clear _ months)
  | day | hour => by_cases positive : plan.durationValue ≤ 0 <;> simp [positive, lt_add_iff]
  | custom => by_cases positive : plan.customSeconds ≤ 0 <;> simp [positive, lt_add_iff]
  | other text => by_cases positive : plan.durationValue ≤ 0 <;> simp [positive]

/-! ## The catch-up loop -/

theorem resets_never (never : plan.period = .never) : Resets cfg plan sub now sub := by
  refine ⟨0, fun fuel _ s w => ?_⟩
  unfold SubscriptionPlan.period at never
  by_cases ahead : sub.nextResetTime > 0 ∧ sub.nextResetTime > now
  · simp [maybeResetUserSubscriptionWithPlanTx, resetOutcome, ahead]
  · simp [maybeResetUserSubscriptionWithPlanTx, resetOutcome, never]

/-- The call returns exactly if the loop is not reached or ends. -/
theorem exists_resets_iff (cfg : Config) (plan : SubscriptionPlan) (sub : UserSubscription) (now : Int) :
    (∃ row, Resets cfg plan sub now row) ↔ (sub.nextResetTime > 0 ∧ sub.nextResetTime > now) ∨ plan.period = .never ∨
        ∃ last, Ends (nextDate cfg plan sub) now sub.resetBase (nextDate cfg plan sub sub.resetBase) false last := by
  by_cases ahead : sub.nextResetTime > 0 ∧ sub.nextResetTime > now
  · exact iff_of_true ⟨sub, resets_ahead ahead⟩ (.inl ahead)
  by_cases never : plan.period = .never
  · exact iff_of_true ⟨sub, resets_never never⟩ (.inr (.inl never))
  simp only [ahead, never, false_or]
  constructor
  · rintro ⟨row, enough, resets⟩
    have returned := resets enough (Nat.le_refl _) .empty id
    unfold maybeResetUserSubscriptionWithPlanTx at returned
    rw [resetOutcome_eq enough ahead never] at returned
    cases ended : chase (nextDate cfg plan sub) now enough sub.resetBase
        (nextDate cfg plan sub sub.resetBase) false with
    | none => simp [ended, decided] at returned
    | some last => exact ⟨last, ends_of_chase ended⟩
  · rintro ⟨last, ends⟩
    exact ⟨_, resets_of_ends sub last ahead never ends⟩

theorem resetAfter_custom (cfg : Config) (custom : plan.period = .custom) (t : Int) : resetAfter cfg plan t =
      if plan.quotaResetCustomSeconds ≤ 0 then 0
      else add t (seconds plan.quotaResetCustomSeconds) := by
  unfold SubscriptionPlan.period at custom
  unfold resetAfter calcNextResetTime
  rw [custom]
  by_cases positive : plan.quotaResetCustomSeconds ≤ 0 <;> simp [nextResetTime, positive]

theorem exists_ends_of_none (none_ : ∀ t, resetAfter cfg plan t = 0) :
    ∃ last, Ends (nextDate cfg plan sub) now sub.resetBase (nextDate cfg plan sub sub.resetBase) false last := by
  refine ⟨_, ends_stop fun due => ?_⟩
  have positive := due.1
  have zero : nextDate cfg plan sub sub.resetBase = 0 := by simp [cut, none_]
  omega

/-- With custom seconds the loop runs for ever on a period that comes out as no time. -/
theorem exists_ends_custom (custom : plan.period = .custom) :
    (∃ last, Ends (nextDate cfg plan sub) now sub.resetBase (nextDate cfg plan sub sub.resetBase) false last) ↔
    plan.quotaResetCustomSeconds ≤ 0 ∨ ¬(0 ≤ seconds plan.quotaResetCustomSeconds ∧
        seconds plan.quotaResetCustomSeconds < 1000000000) ∨
      ¬(0 < sub.resetBase ∧ sub.resetBase ≤ now ∧ sub.Covers sub.resetBase) := by
  have after := resetAfter_custom cfg custom
  by_cases positive : plan.quotaResetCustomSeconds ≤ 0
  · simp only [positive] at after
    exact iff_of_true (exists_ends_of_none after) (.inl positive)
  generalize seconds plan.quotaResetCustomSeconds = duration at after ⊢
  unfold nextDate
  by_cases still : 0 ≤ duration ∧ duration < 1000000000
  · have same : resetAfter cfg plan = id := by
      funext t
      rw [after]
      simp only [add, id]
      omega
    have orderly : Orderly (id : Int → Int) := ⟨fun _ _ le => le, fun _ => Int.le_refl _⟩
    rw [same, exists_ends_iff orderly fun t u => covers_of_le]
    simp only [positive, still, and_self, not_true_eq_false, false_or]
    refine not_congr ⟨?_, ?_⟩
    · rintro ⟨ahead, t, -, before, reached, covered⟩
      exact ⟨ahead, Int.le_trans before reached, covers_of_le before covered⟩
    · rintro ⟨ahead, reached, covered⟩
      exact ⟨ahead, sub.resetBase, rfl, Int.le_refl _, reached, covered⟩
  · refine iff_of_true ?_ (.inr (.inl still))
    -- The time that is left falls with each date, or the date itself does.
    refine exists_ends (fun _ => True) (fun t => if 0 < duration then (now - t).toNat else t.toNat) trivial
      fun t _ due more => ⟨trivial, ?_⟩
    have reached := more
    rw [(cut_of_due more).1, after] at reached ⊢
    unfold Due add at reached
    unfold add
    split
    all_goals omega

/-- What is asked of the reset dates: the loop is not reached, or no date that it would come to
is its own successor.  Custom seconds repeat when less than a second is left of them. -/
def DatesMove (cfg : Config) (plan : SubscriptionPlan) (sub : UserSubscription) (now : Int) : Prop :=
  (sub.nextResetTime > 0 ∧ sub.nextResetTime > now) ∨
    match plan.period with
    | .never => True
    | .custom =>
      plan.quotaResetCustomSeconds ≤ 0 ∨
        ¬(0 ≤ seconds plan.quotaResetCustomSeconds ∧ seconds plan.quotaResetCustomSeconds < 1000000000) ∨
        ¬(0 < sub.resetBase ∧ sub.resetBase ≤ now ∧ sub.Covers sub.resetBase)
    | .daily | .weekly | .monthly =>
      ¬Repeats (resetAfter cfg plan) sub.Covers now sub.resetBase

/-- What is assumed of the server's zone: its offsets are at most a day, and calendar dates
come in the order of the instants they are computed from. -/
structure OrderlyZone (cfg : Config) (plan : SubscriptionPlan) : Prop where
  within : cfg.location.Within
  dates : plan.period = .daily ∨ plan.period = .weekly ∨ plan.period = .monthly →
    Orderly (resetAfter cfg plan)

theorem exists_resets_iff_datesMove (zone : OrderlyZone cfg plan) (sub : UserSubscription)
    (now : Int) : (∃ row, Resets cfg plan sub now row) ↔ DatesMove cfg plan sub now := by
  rw [exists_resets_iff]
  apply or_congr Iff.rfl
  cases period : plan.period with
  | never => simp
  | custom => simpa using exists_ends_custom period
  | daily => simpa using exists_ends_iff (zone.dates (.inl period)) fun t u => covers_of_le
  | weekly => simpa using exists_ends_iff (zone.dates (.inr (.inl period))) fun t u => covers_of_le
  | monthly => simpa using exists_ends_iff (zone.dates (.inr (.inr period))) fun t u => covers_of_le

/-! ## Sound times -/

theorem resetAfter_daily_utc (daily : plan.period = .daily) (t : Int) :
    resetAfter plainConfig plan t = t / 86400 * 86400 + 86400 := by
  unfold SubscriptionPlan.period at daily
  unfold resetAfter calcNextResetTime
  rw [daily, nextResetTime_daily]
  simp [plainConfig]

theorem orderlyZone_daily_utc (daily : plan.period = .daily) : OrderlyZone plainConfig plan := by
  refine ⟨within_utc, fun _ => ⟨fun t u before => ?_, fun t => ?_⟩⟩
  · rw [resetAfter_daily_utc daily, resetAfter_daily_utc daily]
    omega
  · simp only [resetAfter_daily_utc daily]
    omega

/-- A date that is its own successor and due keeps the call from returning. -/
theorem not_resets_of_fixed (t : Int) (behind : ¬(sub.nextResetTime > 0 ∧ sub.nextResetTime > now))
    (periodic : plan.period ≠ .never) (first : nextDate cfg plan sub sub.resetBase = t)
    (fixed : nextDate cfg plan sub t = t) (due : Due now t) : ¬∃ row, Resets cfg plan sub now row := by
  rw [exists_resets_iff]
  rintro (ahead | never | ⟨last, enough, ends⟩)
  · exact behind ahead
  · exact periodic never
  · have trap : ∀ u, u = t → Due now u ∧ nextDate cfg plan sub u = t := by
      rintro u rfl
      exact ⟨due, fixed⟩
    have running : chase (nextDate cfg plan sub) now enough sub.resetBase
        (nextDate cfg plan sub sub.resetBase) false = none :=
      chase_trapped trap first enough
    rw [ends enough (Nat.le_refl _)] at running
    cases running

/-- A plan whose length and reset period are `2 ^ 55` seconds: in nanoseconds, `0` of an int64. -/
def wrappingPlan : SubscriptionPlan :=
  { dailyPlan with
    durationUnit := .custom, customSeconds := 36028797018963968
    quotaResetPeriod := "custom", quotaResetCustomSeconds := 36028797018963968 }

/-- A plan of 300 billion years. -/
def longPlan : SubscriptionPlan := { dailyPlan with durationUnit := .year, durationValue := 300000000000 }

/-- A zone whose clock goes from 24:00 to 01:00 once: Chile on 2 September 2023. -/
def midnightGap : Location :=
  ⟨fun t =>
    if t < 1693713600 then ⟨-14400, -2 ^ 63, 1693713600⟩ else ⟨-10800, 1693713600, 2 ^ 63 - 1⟩⟩

def gapConfig : Config := ⟨midnightGap, 500000, false, toString, Rat.floor⟩

end NewApi.Subscription
