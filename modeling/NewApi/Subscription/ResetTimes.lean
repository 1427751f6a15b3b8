/-
# Subscription.ResetTimes — catching up with missed quota resets

The reset dates of a plan are a schedule (`resetAfter`), cut off at the end of the subscription, and
the loop is `Schedule.chase`.  When every date is after the one it is computed from (`Advances`), the
row does not depend on how often the function ran on the way.  Dates count from 1970, because the code
reads a time of zero or less as "unset".
-/
import NewApi.Theory.Schedule
import NewApi.Model.SubscriptionQuota

namespace NewApi.Model
open Theory Theory.Schedule

def SubscriptionPlan.period (plan : SubscriptionPlan) : ResetPeriod := normalizeResetPeriod plan.quotaResetPeriod

/-- What the reset dates of a subscription are counted from. -/
def UserSubscription.resetBase (sub : UserSubscription) : Int :=
  if sub.lastResetTime ≤ 0 then sub.startTime else sub.lastResetTime

/-- `t` is not after the end of the subscription; an end of zero or less is none. -/
def UserSubscription.Covers (sub : UserSubscription) (t : Int) : Prop := sub.endTime ≤ 0 ∨ t ≤ sub.endTime
deriving Decidable

end NewApi.Model

namespace NewApi.Subscription
open Theory Theory.Schedule Theory.Calendar Model

/-! ## The dates of a plan -/

section
variable (cfg : Config) (plan : SubscriptionPlan)

/-- The reset date after `t`, whenever the subscription ends; `0` for none. -/
def resetAfter (t : Int) : Int := calcNextResetTime cfg t plan 0

/-- The reset dates after `base`. -/
inductive Boundary (base : Int) : Int → Prop where
  | first {t : Int}
      (next : nextResetTime cfg.location base plan plan.period = some t) :
      Boundary base t
  | later {t u : Int} (before : Boundary base t)
      (next : nextResetTime cfg.location t plan plan.period = some u) :
      Boundary base u

/-- Every reset date is after the one it is computed from. -/
def Advances : Prop := ∀ t u, nextResetTime cfg.location t plan plan.period = some u → t < u

end

variable {cfg : Config} {plan : SubscriptionPlan} {sub : UserSubscription} {now : Int}

/-- The date after `t` within the subscription. -/
abbrev nextDate (cfg : Config) (plan : SubscriptionPlan) (sub : UserSubscription) : Int → Int :=
  cut (resetAfter cfg plan) sub.Covers

theorem calcNextResetTime_eq_cut (cfg : Config) (plan : SubscriptionPlan) (sub : UserSubscription)
    (t : Int) : calcNextResetTime cfg t plan sub.endTime = nextDate cfg plan sub t := by
  unfold nextDate cut resetAfter calcNextResetTime
  cases nextResetTime cfg.location t plan (normalizeResetPeriod plan.quotaResetPeriod) with
  | none => simp
  | some next =>
    by_cases covered : sub.Covers next
    · have open_ : ¬(sub.endTime > 0 ∧ next > sub.endTime) := by
        unfold UserSubscription.Covers at covered
        omega
      simp [covered, open_]
    · have closed : sub.endTime > 0 ∧ next > sub.endTime := by
        unfold UserSubscription.Covers at covered
        omega
      simp [covered, closed]

variable {t base u : Int}

theorem covers_of_le (before : t ≤ u) (covered : sub.Covers u) : sub.Covers t := by
  unfold UserSubscription.Covers at covered ⊢
  omega

theorem resetAfter_of_next (next : nextResetTime cfg.location t plan plan.period = some u) :
    resetAfter cfg plan t = u := by
  unfold SubscriptionPlan.period at next
  simp [resetAfter, calcNextResetTime, next]

theorem next_of_resetAfter (some_ : resetAfter cfg plan t ≠ 0) : nextResetTime cfg.location t plan plan.period =
      some (resetAfter cfg plan t) := by
  unfold SubscriptionPlan.period
  unfold resetAfter calcNextResetTime at some_ ⊢
  cases next : nextResetTime cfg.location t plan (normalizeResetPeriod plan.quotaResetPeriod) with
  | none => simp [next] at some_
  | some u => simp

/-- No date comes before the first one. -/
theorem Boundary.first_le (advances : Advances cfg plan) (boundary : Boundary cfg plan base t) :
    ∃ first, nextResetTime cfg.location base plan plan.period = some first ∧ first ≤ t := by
  induction boundary with
  | first next => exact ⟨_, next, Int.le_refl _⟩
  | later _ next ih =>
    obtain ⟨first, here, before⟩ := ih
    exact ⟨first, here, Int.le_trans before (Int.le_of_lt (advances _ _ next))⟩

/-- A date of the plan that the subscription covers lies in `(base, now]`. -/
def ResetsWithin (cfg : Config) (plan : SubscriptionPlan) (sub : UserSubscription) (now : Int) : Prop :=
  ∃ t, Boundary cfg plan sub.resetBase t ∧ sub.resetBase < t ∧ t ≤ now ∧ sub.Covers t

section
variable (advances : Advances cfg plan)
include advances

/-- The first date decides whether there is a reset. -/
theorem due_iff_resetsWithin (counted : 0 ≤ sub.resetBase) :
    Due now (nextDate cfg plan sub sub.resetBase) ↔ ResetsWithin cfg plan sub now := by
  constructor
  · intro due
    obtain ⟨same, covered⟩ := cut_of_due due
    rw [nextDate, same] at due
    have next : nextResetTime cfg.location sub.resetBase plan plan.period =
        some (resetAfter cfg plan sub.resetBase) := next_of_resetAfter (by have := due.1; omega)
    exact ⟨_, .first next, advances _ _ next, due.2, covered⟩
  · rintro ⟨t, boundary, -, reached, covered⟩
    obtain ⟨first, next, before⟩ := boundary.first_le advances
    have after := advances _ _ next
    rw [nextDate, cut, resetAfter_of_next next, if_pos (covers_of_le before covered)]
    exact ⟨by omega, by omega⟩

/-- A date of zero means that none is left within the subscription. -/
theorem not_covers_of_cut_eq_zero (counted : 0 ≤ base)
    (none_ : nextDate cfg plan sub base = 0) (boundary : Boundary cfg plan base t) : ¬sub.Covers t := by
  intro covered
  obtain ⟨first, next, before⟩ := boundary.first_le advances
  have after := advances _ _ next
  rw [nextDate, cut, resetAfter_of_next next, if_pos (covers_of_le before covered)] at none_
  omega

/-- Zero or after its base. -/
theorem cut_eq_zero_or_lt (sub : UserSubscription) (base : Int) :
    nextDate cfg plan sub base = 0 ∨ base < nextDate cfg plan sub base := by
  unfold nextDate cut
  split
  · by_cases none_ : resetAfter cfg plan base = 0
    · exact .inl none_
    · exact .inr (advances _ _ (next_of_resetAfter none_))
  · exact .inl rfl

end

/-! ## One call -/

theorem catchUp_eq_chase (cfg : Config) (plan : SubscriptionPlan) (sub : UserSubscription)
    (now : Int) (fuel : Nat) (base next : Int) (advanced : Bool) :
    catchUp cfg plan sub.endTime now fuel base next advanced =
      chase (nextDate cfg plan sub) now fuel base next advanced := by
  induction fuel generalizing base next advanced with
  | zero => rfl
  | succ fuel ih =>
    simp only [catchUp, ih, calcNextResetTime_eq_cut]
    rfl

/-- The row the loop leaves when it has come to `last`. -/
def caughtUp (sub : UserSubscription) : Int × Int × Bool → UserSubscription
  | (base, next, false) =>
    if sub.nextResetTime = 0 ∧ next > 0 then
      { sub with nextResetTime := next, lastResetTime := base }
    else sub
  | (base, next, true) =>
    { sub with amountUsed := 0, lastResetTime := base, nextResetTime := next }

/-- What is decided from the end of the loop. -/
def decided (sub : UserSubscription) : Option (Int × Int × Bool) → ResetOutcome
  | none => .endless
  | some (base, next, false) =>
    if sub.nextResetTime = 0 ∧ next > 0 then .schedule (caughtUp sub (base, next, false)) else .keep
  | some (base, next, true) => .reset (caughtUp sub (base, next, true))

theorem resetOutcome_eq (fuel : Nat) (behind : ¬(sub.nextResetTime > 0 ∧ sub.nextResetTime > now))
    (periodic : plan.period ≠ .never) : resetOutcome cfg fuel sub plan now =
      decided sub (chase (nextDate cfg plan sub) now fuel sub.resetBase
        (nextDate cfg plan sub sub.resetBase) false) := by
  unfold SubscriptionPlan.period at periodic
  unfold resetOutcome
  rw [if_neg behind, if_neg periodic, ← catchUp_eq_chase, ← calcNextResetTime_eq_cut]
  unfold UserSubscription.resetBase
  simp only
  cases catchUp cfg plan sub.endTime now fuel
      (if sub.lastResetTime ≤ 0 then sub.startTime else sub.lastResetTime)
      (calcNextResetTime cfg (if sub.lastResetTime ≤ 0 then sub.startTime else sub.lastResetTime)
        plan sub.endTime) false with
  | none => rfl
  | some last =>
    obtain ⟨base, next, advanced⟩ := last
    cases advanced with
    | false =>
      by_cases unset : sub.nextResetTime = 0 ∧ next > 0 <;> simp [decided, caughtUp, unset]
    | true => rfl

/-- `maybeResetUserSubscriptionWithPlanTx` on the row, at `now`, leaves `row`. -/
def Resets (cfg : Config) (plan : SubscriptionPlan) (sub : UserSubscription) (now : Int)
    (row : UserSubscription) : Prop :=
  ∃ enough, ∀ fuel, enough ≤ fuel → ∀ (s : Store) (w : Store → Store),
    (maybeResetUserSubscriptionWithPlanTx cfg fuel sub plan now ⟨s, w, []⟩).1 = .ok row

theorem resets_ahead (ahead : sub.nextResetTime > 0 ∧ sub.nextResetTime > now) : Resets cfg plan sub now sub := by
  refine ⟨0, fun fuel _ s w => ?_⟩
  simp [maybeResetUserSubscriptionWithPlanTx, resetOutcome, ahead]

theorem resets_of_ends (sub : UserSubscription) (last : Int × Int × Bool)
    (behind : ¬(sub.nextResetTime > 0 ∧ sub.nextResetTime > now)) (periodic : plan.period ≠ .never)
    (ends : Ends (nextDate cfg plan sub) now sub.resetBase (nextDate cfg plan sub sub.resetBase) false last) :
    Resets cfg plan sub now (caughtUp sub last) := by
  obtain ⟨enough, ends⟩ := ends
  refine ⟨enough, fun fuel lasts s w => ?_⟩
  unfold maybeResetUserSubscriptionWithPlanTx
  rw [resetOutcome_eq fuel behind periodic, ends fuel lasts]
  obtain ⟨base, next, advanced⟩ := last
  cases advanced with
  | false =>
    by_cases unset : sub.nextResetTime = 0 ∧ next > 0
    · simp only [decided, if_pos unset]
      rfl
    · simp only [decided, caughtUp, if_neg unset]
      rfl
  | true => rfl

theorem resetBase_caughtUp {next : Int} (passed : 0 < base) : (caughtUp sub (base, next, true)).resetBase = base := by
  show (if base ≤ 0 then _ else base) = base
  exact if_neg (by omega)

theorem resetBase_scheduled (next : Int) : UserSubscription.resetBase
      { sub with nextResetTime := next, lastResetTime := sub.resetBase } = sub.resetBase := by
  unfold UserSubscription.resetBase
  split <;> simp_all

/-- How the loop ends: it passed nothing, or stopped behind a date it passed. -/
theorem ends_cases {after : Int → Int} {last : Int × Int × Bool} (ends : Ends after now base (after base) false last) :
    (last = (base, after base, false) ∧ ¬Due now (after base)) ∨
      ∃ t, last = (t, after t, true) ∧ 0 < t ∧ ¬Due now (after t) := by
  have kept := ends_invariant (fun b n a => (a = false ∧ b = base ∧ n = after base) ∨ (a = true ∧ 0 < b ∧ n = after b))
    (.inl ⟨rfl, rfl, rfl⟩) (fun _ next _ _ due => .inr ⟨rfl, due.1, rfl⟩) ends
  obtain ⟨b, n, a⟩ := last
  simp only at kept
  obtain ⟨⟨rfl, rfl, rfl⟩ | ⟨rfl, positive, rfl⟩, stopped⟩ := kept
  · exact .inl ⟨rfl, stopped⟩
  · exact .inr ⟨b, rfl, positive, stopped⟩

/-- A schedule that advances is caught up with. -/
theorem exists_ends_of_advances (advances : Advances cfg plan) (sub : UserSubscription) (now base : Int) :
    ∃ last, Ends (nextDate cfg plan sub) now base (nextDate cfg plan sub base) false last := by
  refine exists_ends (fun _ => True) (fun t => (now - t).toNat) trivial fun t _ due more => ?_
  refine ⟨trivial, ?_⟩
  have later := cut_eq_zero_or_lt advances sub t
  have positive := more.1
  have reached := more.2
  omega

/-- The row after two calls is the row after the second one alone. -/
theorem resets_caughtUp (periodic : plan.period ≠ .never) {now₁ now₂ : Int}
    (ordered : now₁ ≤ now₂) {last₁ last₂ : Int × Int × Bool}
    (behind : ¬(sub.nextResetTime > 0 ∧ sub.nextResetTime > now₁))
    (ends₁ : Ends (nextDate cfg plan sub) now₁ sub.resetBase (nextDate cfg plan sub sub.resetBase) false last₁)
    (ends₂ : Ends (nextDate cfg plan sub) now₂ sub.resetBase (nextDate cfg plan sub sub.resetBase) false last₂) :
    Resets cfg plan (caughtUp sub last₁) now₂ (caughtUp sub last₂) := by
  generalize afterward : nextDate cfg plan sub = after at ends₁ ends₂
  -- A row whose next date is the one behind `t` goes on from `t`.
  have resumed {t : Int} {advanced : Bool} (row : UserSubscription)
      (ends : Ends after now₁ sub.resetBase (after sub.resetBase) false (t, after t, advanced))
      (caught : caughtUp sub (t, after t, advanced) = row) (based : row.resetBase = t)
      (dated : row.nextResetTime = after t) (alike : nextDate cfg plan row = after)
      (same : ∀ u n, caughtUp row (u, n, true) = caughtUp sub (u, n, true)) :
      Resets cfg plan row now₂ (caughtUp sub last₂) := by
    have onward := (ends_trans ordered ends).mp ends₂
    by_cases due : Due now₂ (after t)
    · have passed := (ends_invariant (fun _ _ a => a = true) rfl (fun _ _ _ _ _ => rfl) ((ends_pass due).mp onward)).1
      obtain ⟨u, n, a⟩ := last₂
      obtain rfl : a = true := passed
      rw [← same]
      refine resets_of_ends row _ (fun ahead => ?_) periodic ?_
      · have := due.2
        omega
      · rw [alike, based]
        exact (ends_pass due).mpr ((ends_pass due).mp onward)
    · rw [ends_unique onward (ends_stop due), caught]
      by_cases ahead : row.nextResetTime > 0 ∧ row.nextResetTime > now₂
      · exact resets_ahead ahead
      · have still := resets_of_ends row (t, after t, false) ahead periodic (by rw [alike, based]; exact ends_stop due)
        rwa [show caughtUp row (t, after t, false) = row from if_neg (by omega)] at still
  obtain ⟨rfl, -⟩ | ⟨t, rfl, positive, -⟩ := ends_cases ends₁
  · -- Nothing was due at `now₁`: the row is as before, or has its first date now.
    by_cases unset : sub.nextResetTime = 0 ∧ after sub.resetBase > 0
    · have scheduled : caughtUp sub (sub.resetBase, after sub.resetBase, false) =
          { sub with nextResetTime := after sub.resetBase, lastResetTime := sub.resetBase } := if_pos unset
      rw [scheduled]
      exact resumed _ ends₁ scheduled (resetBase_scheduled _) rfl afterward fun _ _ => rfl
    · rw [show caughtUp sub (sub.resetBase, after sub.resetBase, false) = sub from if_neg unset]
      subst afterward
      exact resets_of_ends _ _ (fun ahead => behind ⟨ahead.1, by omega⟩) periodic ends₂
  · exact resumed _ ends₁ rfl (resetBase_caughtUp positive) rfl afterward fun _ _ => rfl

/-! ## The plans -/

/-- Custom seconds advance unless their nanoseconds overflow. -/
theorem advances_custom (custom : plan.period = .custom)
    (fits : plan.quotaResetCustomSeconds * 1000000000 < 2 ^ 63) : Advances cfg plan := by
  intro t u next
  rw [custom] at next
  simp only [nextResetTime] at next
  split at next
  · cases next
  · cases next
    rw [lt_add_iff, seconds, wrap64_of_bounds (by omega) fits]
    omega

/-- Daily dates: the midnight of the day, then a day more of the local clock. -/
theorem nextResetTime_daily (loc : Location) (base : Int) (plan : SubscriptionPlan) :
    nextResetTime loc base plan .daily = some (loc.instant
        (localSecond loc (loc.instant (localSecond loc base / 86400 * 86400)) + 86400)) := by
  have midnight := date_civil loc base 0 0
  simp only [add_zero] at midnight
  simp only [nextResetTime, midnight, addDate_days, one_mul]

theorem advances_daily_utc (utc_ : cfg.location = utc) (daily : plan.period = .daily) : Advances cfg plan := by
  intro t u next
  rw [daily, utc_, nextResetTime_daily] at next
  simp only [localSecond_utc, instant_utc, Option.some.injEq] at next
  omega

/-- **Catching up does not depend on the way.**  To run the function at `now₁` and then at
`now₂` leaves the row that running it at `now₂` leaves.  Its next reset is after `now₂`, or it
is 0 and no date within the subscription is left; and the used amount is set to 0 when a date
within the subscription lies in `(base, now₂]`, and only then. -/
theorem catchUp_path_independent (cfg : Config) (plan : SubscriptionPlan) (sub : UserSubscription)
    {now₁ now₂ : Int} (ordered : now₁ ≤ now₂) (periodic : plan.period ≠ .never)
    (fits : plan.period = .custom → plan.quotaResetCustomSeconds * 1000000000 < 2 ^ 63)
    (calendar : plan.period ≠ .custom → Advances cfg plan) (counted : 0 ≤ sub.resetBase)
    (scheduled : sub.nextResetTime = 0 ∨ sub.nextResetTime = calcNextResetTime cfg sub.resetBase plan sub.endTime) :
    ∃ mid row, Resets cfg plan sub now₁ mid ∧ Resets cfg plan mid now₂ row ∧ Resets cfg plan sub now₂ row ∧
      (row.nextResetTime = 0 ∨ now₂ < row.nextResetTime) ∧
      (row.nextResetTime = 0 → ∀ t, Boundary cfg plan row.resetBase t → ¬sub.Covers t) ∧
      (ResetsWithin cfg plan sub now₂ → row.amountUsed = 0) ∧
      (¬ResetsWithin cfg plan sub now₂ → row.amountUsed = sub.amountUsed) := by
  have advances : Advances cfg plan := by
    by_cases custom : plan.period = .custom
    · exact advances_custom custom (fits custom)
    · exact calendar custom
  rw [calcNextResetTime_eq_cut] at scheduled
  have first := cut_eq_zero_or_lt advances sub sub.resetBase
  have within : Due now₂ (nextDate cfg plan sub sub.resetBase) ↔
      ResetsWithin cfg plan sub now₂ := due_iff_resetsWithin advances counted
  by_cases ahead : sub.nextResetTime > 0 ∧ sub.nextResetTime > now₂
  · -- The next date is still ahead at both times.
    have next : nextDate cfg plan sub sub.resetBase = sub.nextResetTime := by omega
    rw [next] at within
    have none_ : ¬ResetsWithin cfg plan sub now₂ := by
      rw [← within]
      unfold Due
      omega
    refine ⟨sub, sub, resets_ahead (by omega), resets_ahead ahead, resets_ahead ahead, .inr ahead.2,
      fun unset => ?_, fun some_ => absurd some_ none_, fun _ => rfl⟩
    omega
  · obtain ⟨last₂, ends₂⟩ := exists_ends_of_advances advances sub now₂ sub.resetBase
    have reset₂ := resets_of_ends sub last₂ ahead periodic ends₂
    have path : ∃ mid, Resets cfg plan sub now₁ mid ∧ Resets cfg plan mid now₂ (caughtUp sub last₂) := by
      by_cases early : sub.nextResetTime > 0 ∧ sub.nextResetTime > now₁
      · exact ⟨sub, resets_ahead early, reset₂⟩
      · obtain ⟨last₁, ends₁⟩ := exists_ends_of_advances advances sub now₁ sub.resetBase
        exact ⟨_, resets_of_ends sub last₁ early periodic ends₁, resets_caughtUp periodic ordered early ends₁ ends₂⟩
    obtain ⟨mid, one, two⟩ := path
    refine ⟨mid, caughtUp sub last₂, one, two, reset₂, ?_⟩
    obtain ⟨rfl, stopped⟩ | ⟨t, rfl, positive, stopped⟩ := ends_cases ends₂
    · -- No date was due.
      have none_ : ¬ResetsWithin cfg plan sub now₂ := by rwa [← within]
      unfold Due at stopped
      by_cases unset : sub.nextResetTime = 0 ∧
          nextDate cfg plan sub sub.resetBase > 0
      · rw [show caughtUp sub (_, _, false) = _ from if_pos unset]
        refine ⟨.inr (by simp only; omega), fun zero => ?_, fun some_ => absurd some_ none_,
          fun _ => rfl⟩
        simp only at zero
        omega
      · rw [show caughtUp sub (_, _, false) = sub from if_neg unset]
        have zero : nextDate cfg plan sub sub.resetBase = 0 := by omega
        refine ⟨.inl (by omega), fun _ t boundary => ?_, fun some_ => absurd some_ none_,
          fun _ => rfl⟩
        exact not_covers_of_cut_eq_zero advances counted zero boundary
    · -- Dates were passed, so the first one was due.
      have some_ : ResetsWithin cfg plan sub now₂ := by
        rw [← within]
        by_contra stopped
        cases ends_unique ends₂ (ends_stop stopped)
      have next := cut_eq_zero_or_lt advances sub t
      unfold Due at stopped
      refine ⟨?_, fun zero u boundary => ?_, fun _ => rfl, fun none_ => absurd some_ none_⟩
      · show nextDate cfg plan sub t = 0 ∨ now₂ < nextDate cfg plan sub t
        omega
      · rw [resetBase_caughtUp positive] at boundary
        exact not_covers_of_cut_eq_zero advances (by omega) zero boundary

/-- A plan that resets every day, and a subscription to it of which 40 are used. -/
def dailyPlan : SubscriptionPlan :=
  { id := 1, title := "daily", priceAmount := 1, durationUnit := .month, durationValue := 1
    customSeconds := 0, enabled := true, allowBalancePay := some true, maxPurchasePerUser := 0
    upgradeGroup := "", totalAmount := 100, quotaResetPeriod := "daily"
    quotaResetCustomSeconds := 0 }

def usedSubscription (startTime endTime : Int) : UserSubscription :=
  { id := 1, userId := 7, planId := 1, amountTotal := 100, amountUsed := 40, startTime, endTime
    status := .active, source := "order", lastResetTime := 0, nextResetTime := 0
    upgradeGroup := "", prevUserGroup := "" }

/-- Started in the second day, run in the third and the fifth: the row is reset to the fifth. -/
theorem daily_caught_up : ∃ mid row, Resets plainConfig dailyPlan (usedSubscription 100000 2000000) 200000 mid ∧
      Resets plainConfig dailyPlan mid 400000 row ∧
      Resets plainConfig dailyPlan (usedSubscription 100000 2000000) 400000 row := by
  obtain ⟨mid, row, one, two, both, -⟩ := catchUp_path_independent plainConfig dailyPlan
    (usedSubscription 100000 2000000) (by decide : (200000 : Int) ≤ 400000) (by decide)
    (fun custom => absurd custom (by decide))
    (fun _ => advances_daily_utc rfl (by decide)) (by decide) (.inl rfl)
  exact ⟨mid, row, one, two, both⟩

/-- The next midnight is after the end of the subscription, and passing it resets nothing; and
of a subscription that starts before 1970 no date is ever noted, although the midnights of
1970 lie ahead and within it. -/
theorem midnights_passed_over : (∃ row, Resets plainConfig dailyPlan (usedSubscription 86400 100000) 200000 row ∧
      row.amountUsed = 40 ∧ Boundary plainConfig dailyPlan 86400 172800) ∧
    (∃ row, Resets plainConfig dailyPlan (usedSubscription (-100000) 2000000) 0 row ∧
      row.nextResetTime = 0 ∧ Boundary plainConfig dailyPlan row.resetBase 86400 ∧ row.Covers 86400) := by
  constructor
  · refine ⟨_, resets_of_ends _ _ (by decide) (by decide) (ends_stop (by decide)), by decide, ?_⟩
    exact .first (by decide)
  · refine ⟨_, resets_of_ends _ _ (by decide) (by decide) (ends_stop (by decide)), by decide, ?_,
      by decide⟩
    have day : Boundary plainConfig dailyPlan (-100000) (-86400) := .first (by decide)
    have epoch : Boundary plainConfig dailyPlan (-100000) 0 := day.later (by decide)
    exact epoch.later (by decide)

end NewApi.Subscription
