/-
# Model.FundingSource — wallet and subscription as sources of funds

`service/funding_source.go`.  A funding source is a mutable object in the source; here
every method returns the changed source beside its outcome.
-/
import NewApi.Model.SubscriptionQuota
import NewApi.Model.Wallet

namespace NewApi.Model
open Theory Program

/-- The rounds of `refundWithRetry` that are left. -/
def refundAttempts (fn : Db Unit) : Nat → String → Program Store (Except String Unit)
  | 0, lastErr => .done (.error lastErr)
  | attempts + 1, _ => do
      match ← store fn with
      | .ok () => .done (.ok ())
      | .error e => refundAttempts fn attempts e

/-- `refundWithRetry`: at most three attempts. -/
def refundWithRetry (fn : Db Unit) : Program Store (Except String Unit) := refundAttempts fn 3 ""

structure WalletFunding where
  userId : Int
  consumed : Int
deriving DecidableEq

structure SubscriptionFunding where
  requestId : String
  userId : Int
  amount : Int
  subscriptionId : Int
  preConsumed : Int
  amountTotal : Int
  amountUsedAfter : Int
  planId : Int
  planTitle : String
deriving DecidableEq

inductive FundingSource where
  | wallet (funding : WalletFunding)
  | subscription (funding : SubscriptionFunding)
deriving DecidableEq

/-- `BillingSourceWallet`, `BillingSourceSubscription`; `none` before it is known. -/
inductive BillingSource where
  | none | wallet | subscription
deriving DecidableEq

/-- `GetSubscriptionPlanInfoByUserSubscriptionId`, past its cache. -/
def getSubscriptionPlanInfo (userSubscriptionId : Int) : Db (Int × String) :=
  if userSubscriptionId ≤ 0 then Sql.throw "invalid userSubscriptionId"
  else do
    let sub ← first (·.findSub userSubscriptionId) errRecordNotFound
    let plan ← getSubscriptionPlanByIdTx sub.planId
    pure (sub.planId, plan.title)

namespace FundingSource

def source : FundingSource → BillingSource
  | .wallet _ => .wallet
  | .subscription _ => .subscription

/-- `PreConsume(amount)`; a subscription ignores the argument and takes its own amount. -/
def preConsume (cfg : Config) (fuel : Nat) (now amount : Int) :
    FundingSource → Program Store (Except String FundingSource)
  | .wallet funding =>
    if amount ≤ 0 then .done (.ok (.wallet funding))
    else do
      match ← store (decreaseUserQuota cfg funding.userId amount false) with
      | .error e => .done (.error e)
      | .ok () => .done (.ok (.wallet { funding with consumed := amount }))
  | .subscription funding => do
      match ← store (preConsumeUserSubscription cfg fuel funding.requestId funding.userId
          funding.amount now) with
      | .error e => .done (.error e)
      | .ok res =>
        let charged := { funding with
          subscriptionId := res.userSubscriptionId
          preConsumed := res.preConsumed
          amountTotal := res.amountTotal
          amountUsedAfter := res.amountUsedAfter }
        match ← store (getSubscriptionPlanInfo res.userSubscriptionId) with
        | .error _ => .done (.ok (.subscription charged))
        | .ok (planId, planTitle) => .done (.ok (.subscription { charged with planId, planTitle }))

def settle (cfg : Config) (delta : Int) (funding : FundingSource) : Program Store (Except String Unit) :=
  if delta = 0 then .done (.ok ())
  else
    match funding with
    | .wallet funding =>
      if delta > 0 then store (decreaseUserQuota cfg funding.userId delta false)
      else store (increaseUserQuota cfg funding.userId (-delta) false)
    | .subscription funding =>
      store (postConsumeUserSubscriptionDelta (.posted funding.subscriptionId delta) funding.subscriptionId delta)

/-- `Refund()`: a wallet is credited once, a subscription by request id and with retries. -/
def refund (cfg : Config) : FundingSource → Program Store (Except String Unit)
  | .wallet funding =>
    if funding.consumed ≤ 0 then .done (.ok ())
    else store (increaseUserQuota cfg funding.userId funding.consumed false)
  | .subscription funding =>
    if funding.preConsumed ≤ 0 then .done (.ok ())
    else refundWithRetry (refundSubscriptionPreConsume funding.requestId)

end FundingSource
end NewApi.Model
