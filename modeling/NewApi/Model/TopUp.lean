/-
# Model.TopUp — top-up orders and the callbacks that complete them

`model/topup.go` and, of `controller/topup.go`, `LockOrder`, `UnlockOrder`, `EpayNotify` after the
signature was verified and `AdminCompleteTopUp`.  Log rows are left out.  Every credit is recorded in
the history by the statement that makes it.
-/
import NewApi.Theory.Decimal
import NewApi.Model.Wallet
import NewApi.Model.Subscription

namespace NewApi.Model
open Theory Sql

def errTopUpNotFound : String := "topup not found"
def errTopUpStatusInvalid : String := "topup status invalid"
def errNoTradeNo : String := "未提供支付单号"
def errNoOrder : String := "充值订单不存在"
def errOrderStatus : String := "充值订单状态错误"
def errInvalidQuota : String := "无效的充值额度"
def errRechargeFailed : String := "充值失败，请稍后重试"

variable (cfg : Config)

/-- `int(dAmount.Mul(dQuotaPerUnit).IntPart())`. -/
def quotaOfUnits (units : Rat) : Int := Decimal.intPart (units * cfg.quotaPerUnit)

def TopUp.succeed (topUp : TopUp) (clock : Int) : TopUp := { topUp with completeTime := clock, status := .success }

variable (tradeNo : String)

/-- The row lock and read every completion starts with. -/
def findTopUpTx (missing : String) : Db TopUp :=
  failWith missing (first (·.findTopUp tradeNo) errRecordNotFound)

def updatePendingTopUpTx (expected : PaymentProvider) (target : TopUpStatus) : Db Unit := do
  let topUp ← findTopUpTx tradeNo errTopUpNotFound
  if expected ≠ .unset ∧ topUp.paymentProvider ≠ expected then throw errPaymentMethodMismatch
  else if topUp.status ≠ .pending then throw errTopUpStatusInvalid
  else write (·.saveTopUp { topUp with status := target })

def updatePendingTopUpStatus (expected : PaymentProvider) (target : TopUpStatus) : Db Unit :=
  if tradeNo = "" then throw errNoTradeNo
  else transaction (updatePendingTopUpTx tradeNo expected target)

/-! ## Completing -/

namespace Store

def credit (s : Store) (topUp : TopUp) (amount : Int) (by_ : Completion) : Store :=
  (s.addUserQuota topUp.userId amount).log (.credited topUp.tradeNo topUp.userId amount by_)

/-- What the column gains from `quota = quota + value` when `value` need not be whole. -/
def gain (cfg : Config) (s : Store) (userId : Int) (value : Rat) : Int :=
  match s.users userId with
  | some user => cfg.storeQuota (user.quota + value) - user.quota
  | none => 0

def setEmail (s : Store) (userId : Int) (email : String) : Store := s.setUser userId fun u => { u with email }

def setStripeCustomer (s : Store) (userId : Int) (customer : String) : Store :=
  s.setUser userId fun u => { u with stripeCustomer := customer }

end Store

/-- `float64` money times the quota of a unit is added as it is; the database decides what
the column keeps. -/
def rechargeTx (referenceId customerId : String) (clock : Int) : Db Unit := do
  let topUp ← findTopUpTx referenceId errNoOrder
  if topUp.paymentProvider ≠ .stripe then throw errPaymentMethodMismatch
  else if topUp.status ≠ .pending then throw errOrderStatus
  else do
    write (·.saveTopUp (topUp.succeed clock))
    let quota : Rat := topUp.money * cfg.quotaPerUnit
    write fun s =>
      (s.credit topUp (s.gain cfg topUp.userId quota) .recharge).setStripeCustomer topUp.userId customerId

def recharge (referenceId customerId : String) (clock : Int) : Db Unit :=
  if referenceId = "" then throw errNoTradeNo
  else failWith errRechargeFailed (transaction (rechargeTx cfg referenceId customerId clock))

/-- Whether the customer's email is to be stored: only for a user without one. -/
def needsEmailTx (userId : Int) (customerEmail : String) : Db Bool :=
  if customerEmail ≠ "" then do
    let user ← first (·.users userId) errRecordNotFound
    pure (user.email = "")
  else pure false

def rechargeCreemTx (referenceId customerEmail : String) (clock : Int) : Db Unit := do
  let topUp ← findTopUpTx referenceId errNoOrder
  if topUp.paymentProvider ≠ .creem then throw errPaymentMethodMismatch
  else if topUp.status ≠ .pending then throw errOrderStatus
  else do
    write (·.saveTopUp (topUp.succeed clock))
    -- The amount of a Creem order is the quota itself.
    let quota := topUp.amount
    let setsEmail ← needsEmailTx topUp.userId customerEmail
    write fun s =>
      let credited := s.credit topUp quota .rechargeCreem
      if setsEmail then credited.setEmail topUp.userId customerEmail else credited

def rechargeCreem (referenceId customerEmail : String) (clock : Int) : Db Unit :=
  if referenceId = "" then throw errNoTradeNo
  else failWith errRechargeFailed (transaction (rechargeCreemTx referenceId customerEmail clock))

/-- The body `RechargeWaffo` and `RechargeWaffoPancake` share. -/
def rechargeUnitsTx (provider : PaymentProvider) (by_ : Completion) (tradeNo : String)
    (clock : Int) : Db Unit := do
  let topUp ← findTopUpTx tradeNo errNoOrder
  if topUp.paymentProvider ≠ provider then throw errPaymentMethodMismatch
  else if topUp.status = .success then pure ()
  else if topUp.status ≠ .pending then throw errOrderStatus
  else
    let quotaToAdd := quotaOfUnits cfg topUp.amount
    if quotaToAdd ≤ 0 then throw errInvalidQuota
    else do
      write (·.saveTopUp (topUp.succeed clock))
      write (·.credit topUp quotaToAdd by_)

def rechargeWaffo (tradeNo : String) (clock : Int) : Db Unit :=
  if tradeNo = "" then throw errNoTradeNo
  else failWith errRechargeFailed
    (transaction (rechargeUnitsTx cfg .waffo .rechargeWaffo tradeNo clock))

def rechargeWaffoPancake (tradeNo : String) (clock : Int) : Db Unit :=
  if tradeNo = "" then throw errNoTradeNo
  else failWith errRechargeFailed
    (transaction (rechargeUnitsTx cfg .waffoPancake .rechargeWaffoPancake tradeNo clock))

/-- Money of a Stripe order is in units; of any other order Amount is. -/
def manualQuota (cfg : Config) (topUp : TopUp) : Int :=
  quotaOfUnits cfg (if topUp.paymentProvider = .stripe then topUp.money else topUp.amount)

def manualCompleteTx (tradeNo : String) (clock : Int) : Db Unit := do
  let topUp ← findTopUpTx tradeNo errNoOrder
  if topUp.status = .success then pure ()
  else if topUp.status ≠ .pending then throw "订单状态不是待支付，无法补单"
  else
    let quotaToAdd := manualQuota cfg topUp
    if quotaToAdd ≤ 0 then throw errInvalidQuota
    else do
      write (·.saveTopUp (topUp.succeed clock))
      write (·.credit topUp quotaToAdd .manual)

def manualCompleteTopUp (tradeNo : String) (clock : Int) : Db Unit :=
  if tradeNo = "" then throw "未提供订单号"
  else transaction (manualCompleteTx cfg tradeNo clock)

/-! ## Handlers that lock the order -/

def Store.setLock (s : Store) (process : Nat) (tradeNo : String) (held : Bool) : Store :=
  let locks := Function.update (s.orderLocks process) tradeNo held
  { s with orderLocks := Function.update s.orderLocks process locks }

variable (process : Nat)

/-- `LockOrder`: wait until no handler of the same process has the order. -/
def lockOrder (tradeNo : String) : Program Store (Except String Unit) :=
  Program.await (fun s => !s.orderLocks process tradeNo) (memory (·.setLock process tradeNo true))

def unlockOrder (tradeNo : String) : Program Store (Except String Unit) :=
  Program.store (memory (·.setLock process tradeNo false))

/-- `IncreaseUserQuota(topUp.UserId, quotaToAdd, true)`; the second statement is the
history variable. -/
def creditEpay (cfg : Config) (topUp : TopUp) : Db Unit := do
  increaseUserQuota cfg topUp.userId (quotaOfUnits cfg topUp.amount) true
  memory (·.log (.credited topUp.tradeNo topUp.userId (quotaOfUnits cfg topUp.amount) .epayNotify))

/-- What a handler tells its caller. -/
inductive Reply where
  | success
  | fail (e : String)
deriving DecidableEq

/-- `defer UnlockOrder`, and the handler is over. -/
def unlockAndReply (tradeNo : String) (reply : Reply) : Program Store Reply := do
  let _ ← unlockOrder process tradeNo
  .done reply

/-- The row `EpayNotify` saves: the row it read, with the actual payment type. -/
def TopUp.epayPaid (topUp : TopUp) (type : String) : TopUp :=
  { topUp with paymentMethod := type, status := .success }

/-- After the order was saved as a success: the credit.  An error is only logged. -/
def epayCredit (tradeNo : String) (topUp : TopUp) : Program Store Reply := do
  let _ ← Program.store (creditEpay cfg topUp)
  unlockAndReply process tradeNo .success

/-- After a pending order was read: `topUp.Update()`, which saves every column. -/
def epaySave (tradeNo : String) (topUp : TopUp) : Program Store Reply := do
  match ← Program.store (autocommit (·.saveTopUp topUp)) with
  | .error _ => unlockAndReply process tradeNo .success
  | .ok _ => epayCredit cfg process tradeNo topUp

/-- With the order locked. -/
def epayLocked (tradeNo type : String) : Program Store Reply := do
  match ← Program.store (first (·.findTopUp tradeNo) errRecordNotFound) with
  | .error _ => unlockAndReply process tradeNo .success
  | .ok topUp =>
    if topUp.paymentProvider ≠ .epay then unlockAndReply process tradeNo .success
    else if topUp.status = .pending then
      epaySave cfg process tradeNo (topUp.epayPaid type)
    else unlockAndReply process tradeNo .success

/-- `EpayNotify` for a verified `TRADE_SUCCESS`: "success" was written to the caller before
anything was done, and stays the answer. -/
def epayNotify (tradeNo type : String) : Program Store Reply := do
  let _ ← lockOrder process tradeNo
  epayLocked cfg process tradeNo type

def adminCompleteTopUp (tradeNo : String) (clock : Int) : Program Store Reply :=
  if tradeNo = "" then .done (.fail "参数错误")
  else do
    let _ ← lockOrder process tradeNo
    match ← Program.store (manualCompleteTopUp cfg tradeNo clock) with
    | .error e => unlockAndReply process tradeNo (.fail e)
    | .ok _ => unlockAndReply process tradeNo .success

end NewApi.Model
