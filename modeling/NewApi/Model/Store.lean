/-
# Model.Store — the tables and the process memory the billing code works on

Rows carry the columns the modelled functions read or write; money and ratios are exact rationals.
Besides the tables the store holds what a server process keeps in memory: the pending deltas of the
batch updater, the order locks, and the cache contents (`caches`), which no billing function decides.

`history` is a history variable: every credit, charge, refund, reset and created subscription is
recorded by the statement that makes it.
-/
import Mathlib.Data.Rat.Defs
import NewApi.Theory.Program
import NewApi.Theory.Calendar
import NewApi.Theory.Text

namespace NewApi.Model
open Theory

/-- `payment_provider`; `unset` is the empty default of old rows. -/
inductive PaymentProvider where
  | unset | epay | stripe | creem | waffo | waffoPancake | balance
deriving DecidableEq

/-- `common.TopUpStatus*`, the status of top-up and subscription orders. -/
inductive TopUpStatus where
  | pending | success | failed | expired
deriving DecidableEq

inductive SubscriptionStatus where
  | active | expired | cancelled
deriving DecidableEq

/-- `subscription_pre_consume_records.status`. -/
inductive RecordStatus where
  | consumed | refunded
deriving DecidableEq

/-- `subscription_plans.duration_unit`; `other` is any text that is none of the units. -/
inductive DurationUnit where
  | year | month | day | hour | custom
  | other (text : String)
deriving DecidableEq

inductive ResetPeriod where
  | never | daily | weekly | monthly | custom
deriving DecidableEq

structure User where
  id : Int
  group : String
  quota : Int
  email : String
  stripeCustomer : String
deriving DecidableEq

structure Token where
  id : Int
  key : String
  remainQuota : Int
  usedQuota : Int
  unlimitedQuota : Bool
deriving DecidableEq

structure SubscriptionPlan where
  id : Int
  title : String
  priceAmount : Rat
  durationUnit : DurationUnit
  durationValue : Int
  customSeconds : Int
  enabled : Bool
  allowBalancePay : Option Bool
  maxPurchasePerUser : Int
  upgradeGroup : String
  totalAmount : Int
  quotaResetPeriod : String
  quotaResetCustomSeconds : Int
deriving DecidableEq

structure UserSubscription where
  id : Int
  userId : Int
  planId : Int
  amountTotal : Int
  amountUsed : Int
  startTime : Int
  endTime : Int
  status : SubscriptionStatus
  source : String
  lastResetTime : Int
  nextResetTime : Int
  upgradeGroup : String
  prevUserGroup : String
deriving DecidableEq

structure SubscriptionPreConsumeRecord where
  requestId : String
  userId : Int
  userSubscriptionId : Int
  preConsumed : Int
  status : RecordStatus
deriving DecidableEq

structure TopUp where
  userId : Int
  amount : Int
  money : Rat
  tradeNo : String
  paymentMethod : String
  paymentProvider : PaymentProvider
  createTime : Int
  completeTime : Int
  status : TopUpStatus
deriving DecidableEq

structure SubscriptionOrder where
  userId : Int
  planId : Int
  money : Rat
  tradeNo : String
  paymentMethod : String
  paymentProvider : PaymentProvider
  status : TopUpStatus
  createTime : Int
  completeTime : Int
  providerPayload : String
deriving DecidableEq

inductive Completion where
  | recharge | rechargeCreem | rechargeWaffo | rechargeWaffoPancake | manual | epayNotify
deriving DecidableEq

/-- What the history variable records. -/
inductive Event where
  | credited (tradeNo : String) (userId amount : Int) (by_ : Completion)
  | charged (requestId : String) (subscriptionId amount : Int)
  | refunded (requestId : String) (subscriptionId amount : Int)
  | posted (subscriptionId delta : Int)
  | reset (subscriptionId : Int)
  | subscribed (tradeNo : String) (subscriptionId : Int)
deriving DecidableEq

/-- Cache contents.  Redis and the in-process caches are outside the model: what they
answer is part of the state, and nothing the model does depends on them being fresh. -/
structure Caches where
  userQuota : Int → Option Int
  token : String → Option Token
  plan : Int → Option SubscriptionPlan

structure Store where
  users : Int → Option User
  tokens : List Token
  plans : Int → Option SubscriptionPlan
  subs : List UserSubscription
  records : List SubscriptionPreConsumeRecord
  topUps : List TopUp
  orders : List SubscriptionOrder
  nextSubId : Int
  caches : Caches
  batchUserQuota : Int → Int
  batchTokenQuota : Int → Int
  /-- process, trade number ↦ is the order lock of that process held -/
  orderLocks : Nat → String → Bool
  history : List Event

structure Config where
  location : Calendar.Location
  quotaPerUnit : Rat
  batchUpdateEnabled : Bool
  /-- `logger.FormatQuota`, which depends on the display settings -/
  formatQuota : Int → String
  /-- what the `quota` column keeps of a value that need not be whole -/
  storeQuota : Rat → Int

/-- Universal time, no batching, quotas cut to whole numbers. -/
def plainConfig : Config := ⟨Calendar.utc, 500000, false, toString, Rat.floor⟩

abbrev Db := Sql Store

def errRecordNotFound : String := "record not found"

/-- `First`: the row, or `ErrRecordNotFound`. -/
def first {α : Type} (row : Store → Option α) (missing : String) : Db α :=
  Sql.read fun s =>
    match row s with
    | some a => .ok a
    | none => .error missing

namespace Store

def emptyCaches : Caches := ⟨fun _ => none, fun _ => none, fun _ => none⟩

def empty : Store where
  users _ := none
  tokens := []
  plans _ := none
  subs := []
  records := []
  topUps := []
  orders := []
  nextSubId := 1
  caches := emptyCaches
  batchUserQuota _ := 0
  batchTokenQuota _ := 0
  orderLocks _ _ := false
  history := []

variable (s : Store)

def setUser (id : Int) (change : User → User) : Store :=
  { s with users := Function.update s.users id ((s.users id).map change) }

def setToken (id : Int) (change : Token → Token) : Store :=
  { s with tokens := s.tokens.map fun t => if t.id = id then change t else t }

def findSub (id : Int) : Option UserSubscription := s.subs.find? (·.id = id)

def saveSub (sub : UserSubscription) : Store :=
  { s with subs := s.subs.map fun r => if r.id = sub.id then sub else r }

def findRecord (requestId : String) : Option SubscriptionPreConsumeRecord :=
  s.records.find? (·.requestId = requestId)

def saveRecord (record : SubscriptionPreConsumeRecord) : Store :=
  { s with records := s.records.map fun r => if r.requestId = record.requestId then record else r }

def findTopUp (tradeNo : String) : Option TopUp := s.topUps.find? (·.tradeNo = tradeNo)

def saveTopUp (topUp : TopUp) : Store :=
  { s with topUps := s.topUps.map fun r => if r.tradeNo = topUp.tradeNo then topUp else r }

def findOrder (tradeNo : String) : Option SubscriptionOrder := s.orders.find? (·.tradeNo = tradeNo)

def saveOrder (order : SubscriptionOrder) : Store :=
  { s with orders := s.orders.map fun r => if r.tradeNo = order.tradeNo then order else r }

def log (event : Event) : Store := { s with history := s.history ++ [event] }

end Store
end NewApi.Model
