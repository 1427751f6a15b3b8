/-
# Model.Plan — end times and quota reset times of a subscription plan

`model/subscription.go`: `calcPlanEndTime`, `NormalizeResetPeriod`,
`calcNextResetTime`, `getSubscriptionPlanByIdTx` and the catch-up loop of
`maybeResetUserSubscriptionWithPlanTx`.  The loop need not end (a custom period that
wraps to zero seconds never advances), so it takes fuel.  Reset dates are at most a month after
instants that are no later than now, where machine words do not wrap.
-/
import NewApi.Model.Store

namespace NewApi.Model
open Theory Theory.Calendar Theory.Text

def calcPlanEndTime (cfg : Config) (start : Int) (plan : SubscriptionPlan) : Except String Int :=
  if plan.durationValue ≤ 0 ∧ plan.durationUnit ≠ .custom then .error "duration_value must be > 0"
  else
    match plan.durationUnit with
    | .year => .ok (addDate64 cfg.location start plan.durationValue 0 0)
    | .month => .ok (addDate64 cfg.location start 0 plan.durationValue 0)
    | .day => .ok (add start (hours (wrap64 (plan.durationValue * 24))))
    | .hour => .ok (add start (hours plan.durationValue))
    | .custom =>
      if plan.customSeconds ≤ 0 then .error "custom_seconds must be > 0"
      else .ok (add start (seconds plan.customSeconds))
    | .other text => .error ("invalid duration_unit: " ++ text)

def normalizeResetPeriod (period : String) : ResetPeriod :=
  match trimSpace period with
  | "daily" => .daily
  | "weekly" => .weekly
  | "monthly" => .monthly
  | "custom" => .custom
  | _ => .never

/-- The reset after `base`, without regard to the end of the subscription. -/
def nextResetTime (loc : Location) (base : Int) (plan : SubscriptionPlan) : ResetPeriod → Option Int
  | .never => none
  | .daily =>
    let (year, month, day) := civil loc base
    some (addDate loc (date loc year month day 0) 0 0 1)
  | .weekly =>
    let (year, month, day) := civil loc base
    -- Monday is 1 and Sunday is 7: the next Monday is 8 - weekday days away.
    let weekday := if weekday loc base = 0 then 7 else weekday loc base
    some (addDate loc (date loc year month day 0) 0 0 (8 - weekday))
  | .monthly =>
    let (year, month, _) := civil loc base
    some (addDate loc (date loc year month 1 0) 0 1 0)
  | .custom =>
    if plan.quotaResetCustomSeconds ≤ 0 then none
    else some (add base (seconds plan.quotaResetCustomSeconds))

/-- `0` stands for no further reset. -/
def calcNextResetTime (cfg : Config) (base : Int) (plan : SubscriptionPlan) (endUnix : Int) : Int :=
  match nextResetTime cfg.location base plan (normalizeResetPeriod plan.quotaResetPeriod) with
  | none => 0
  | some next => if endUnix > 0 ∧ next > endUnix then 0 else next

/-- The loop `for next > 0 && next <= now`: the last reset passed, the next one and
whether any was passed.  `none` when `fuel` rounds were not enough. -/
def catchUp (cfg : Config) (plan : SubscriptionPlan) (endUnix now : Int) :
    Nat → Int → Int → Bool → Option (Int × Int × Bool)
  | 0, base, next, advanced => if 0 < next ∧ next ≤ now then none else some (base, next, advanced)
  | fuel + 1, base, next, advanced =>
    if 0 < next ∧ next ≤ now then
      catchUp cfg plan endUnix now fuel next (calcNextResetTime cfg next plan endUnix) true
    else some (base, next, advanced)

def SubscriptionPlan.normalizeDefaults (plan : SubscriptionPlan) : SubscriptionPlan :=
  { plan with allowBalancePay := some (plan.allowBalancePay.getD true) }

def getSubscriptionPlanByIdTx (id : Int) : Db SubscriptionPlan :=
  if id ≤ 0 then Sql.throw "invalid plan id"
  else do
    match ← Sql.peek (·.caches.plan id) with
    | some cached => pure cached.normalizeDefaults
    | none =>
      let plan ← first (·.plans id) errRecordNotFound
      pure plan.normalizeDefaults

/-- The plan that `getSubscriptionPlanByIdTx` answers with: a cache hit, or the row. -/
def Store.planById (s : Store) (id : Int) : Option SubscriptionPlan :=
  if id ≤ 0 then none
  else ((s.caches.plan id).or (s.plans id)).map SubscriptionPlan.normalizeDefaults

/-! ## What an administrator may store as a subscription plan

`controller/subscription.go`: the checks and defaults of `AdminCreateSubscriptionPlan` and
`AdminUpdateSubscriptionPlan`, which are the same but for the id and for
`allow_balance_pay`.  Neither bounds the durations from above.
-/

def ResetPeriod.text : ResetPeriod → String
  | .never => "never"
  | .daily => "daily"
  | .weekly => "weekly"
  | .monthly => "monthly"
  | .custom => "custom"

/-- The unit that is stored: an empty one means months. -/
def DurationUnit.orMonth : DurationUnit → DurationUnit
  | .other "" => .month
  | unit => unit

variable (groupExists : String → Bool)

/-- The checks both handlers make, in their order; `groupExists` is the table of group ratios. -/
def validatePlan (plan : SubscriptionPlan) : Except String SubscriptionPlan :=
  let unit := plan.durationUnit.orMonth
  let value := if plan.durationValue ≤ 0 ∧ unit ≠ .custom then 1 else plan.durationValue
  let upgradeGroup := trimSpace plan.upgradeGroup
  let period := normalizeResetPeriod plan.quotaResetPeriod
  if trimSpace plan.title = "" then .error "套餐标题不能为空"
  else if plan.priceAmount < 0 then .error "价格不能为负数"
  else if plan.priceAmount > 9999 then .error "价格不能超过9999"
  else if plan.maxPurchasePerUser < 0 then .error "购买上限不能为负数"
  else if plan.totalAmount < 0 then .error "总额度不能为负数"
  else if upgradeGroup ≠ "" ∧ !groupExists upgradeGroup then .error "升级分组不存在"
  else if period = .custom ∧ plan.quotaResetCustomSeconds ≤ 0 then .error "自定义重置周期需大于0秒"
  else .ok { plan with
    durationUnit := unit, durationValue := value, upgradeGroup, quotaResetPeriod := period.text }

/-- The plan that is stored; the database gives it its id. -/
def adminCreateSubscriptionPlan (plan : SubscriptionPlan) : Except String SubscriptionPlan :=
  validatePlan groupExists
    { plan with id := 0, allowBalancePay := some (plan.allowBalancePay.getD true) }

/-- The row after the update of `stored`; without `allow_balance_pay` the column is kept. -/
def adminUpdateSubscriptionPlan (id : Int) (stored plan : SubscriptionPlan) : Except String SubscriptionPlan :=
  if id ≤ 0 then .error "无效的ID"
  else validatePlan groupExists
    { plan with id, allowBalancePay := plan.allowBalancePay.or stored.allowBalancePay }

/-- A plan that one of the two handlers stores. -/
def Accepted (plan : SubscriptionPlan) : Prop :=
  (∃ groupExists request, adminCreateSubscriptionPlan groupExists request = .ok plan) ∨
    ∃ groupExists id stored request,
      adminUpdateSubscriptionPlan groupExists id stored request = .ok plan

end NewApi.Model
