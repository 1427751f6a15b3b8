/-
# Model.Subscription — creating, ending and paying for subscriptions

`model/subscription.go`: creating a subscription, the three ways it ends, with the group downgrade,
and the orders.  Cache updates and log rows after a commit are left out.
-/
import Mathlib.Data.Rat.Floor
import Mathlib.Data.List.Dedup
import NewApi.Model.SubscriptionQuota

namespace NewApi.Model
open Theory Theory.Text Sql

/-- A missing user reads as the empty group. -/
def getUserGroupByIdTx (userId : Int) : Db String :=
  if userId ≤ 0 then throw "invalid userId"
  else read fun s => .ok (((s.users userId).map (·.group)).getD "")

variable (s : Store)

def Store.setGroup (userId : Int) (group : String) : Store := s.setUser userId fun u => { u with group }

/-- The row an `upgrade_group <> ''` query over the rows of `userId` in force at `now`
finds. -/
def Store.activeUpgrade (userId now : Int) (other : UserSubscription → Bool) : Option UserSubscription :=
  s.subs.find? fun sub => sub.userId = userId ∧ sub.ActiveAt now ∧ sub.upgradeGroup ≠ "" ∧ other sub

/-- The group the user falls back to; empty when it stays. -/
def downgradeUserGroupForSubscriptionTx (sub : UserSubscription) (now : Int) : Db String := do
  let upgradeGroup := trimSpace sub.upgradeGroup
  if upgradeGroup = "" then pure ""
  else
    let currentGroup ← getUserGroupByIdTx sub.userId
    if currentGroup ≠ upgradeGroup then pure ""
    else
      -- A failed query counts as "no other subscription".
      match ← attempt (read fun s => .ok (s.activeUpgrade sub.userId now (·.id ≠ sub.id))) with
      | .ok (some _) => pure ""
      | _ =>
        let prevGroup := trimSpace sub.prevUserGroup
        if prevGroup = "" ∨ prevGroup = currentGroup then pure ""
        else do
          write (·.setGroup sub.userId prevGroup)
          pure prevGroup

def Store.countSubs (userId planId : Int) : Nat :=
  s.subs.countP fun sub => sub.userId = userId ∧ sub.planId = planId

/-- `tx.Create(sub)`: the row gets the next id. -/
def Store.createSub (sub : UserSubscription) : Store :=
  { s with subs := s.subs ++ [{ sub with id := s.nextSubId }], nextSubId := s.nextSubId + 1 }

/-- Move the user to the plan's group; the result is the group to return to later. -/
def upgradeUserGroupTx (userId : Int) (upgradeGroup : String) : Db String :=
  if upgradeGroup = "" then pure ""
  else do
    let currentGroup ← getUserGroupByIdTx userId
    if currentGroup = upgradeGroup then pure ""
    else do
      write (·.setGroup userId upgradeGroup)
      pure currentGroup

def checkPurchaseLimitTx (userId : Int) (plan : SubscriptionPlan) : Db Unit :=
  if plan.maxPurchasePerUser > 0 then do
    let count ← read fun s => .ok (s.countSubs userId plan.id)
    if (count : Int) ≥ plan.maxPurchasePerUser then throw "已达到该套餐购买上限" else pure ()
  else pure ()

variable (cfg : Config)

/-- `order` is not an argument of the source: the history variable records the created
subscription under it. -/
def createUserSubscriptionFromPlanTx (order : String) (userId : Int)
    (plan : SubscriptionPlan) (source : String) (now : Int) : Db UserSubscription :=
  if plan.id = 0 then throw "invalid plan"
  else if userId ≤ 0 then throw "invalid user id"
  else do
    checkPurchaseLimitTx userId plan
    match calcPlanEndTime cfg now plan with
    | .error e => throw e
    | .ok endTime =>
      let nextReset := calcNextResetTime cfg now plan endTime
      let lastReset := if nextReset > 0 then now else 0
      let upgradeGroup := trimSpace plan.upgradeGroup
      let prevGroup ← upgradeUserGroupTx userId upgradeGroup
      let id ← peek (·.nextSubId)
      let sub : UserSubscription :=
        { id, userId, planId := plan.id, amountTotal := plan.totalAmount, amountUsed := 0
          startTime := now, endTime, status := .active, source
          lastResetTime := lastReset, nextResetTime := nextReset
          upgradeGroup, prevUserGroup := prevGroup }
      write fun s => (s.createSub sub).log (.subscribed order id)
      pure sub

/-! ## Ending -/

def Store.deleteSub (s : Store) (id : Int) : Store := { s with subs := s.subs.filter fun sub => sub.id ≠ id }

def rollbackMessage (target : String) : String := if target = "" then "" else "用户分组将回退到 " ++ target

/-- The row after it was invalidated. -/
def UserSubscription.cancel (sub : UserSubscription) (now : Int) : UserSubscription :=
  { sub with status := .cancelled, endTime := now }

def adminInvalidateTx (userSubscriptionId now : Int) : Db String := do
  let sub ← first (·.findSub userSubscriptionId) errRecordNotFound
  write (·.saveSub (sub.cancel now))
  let target ← downgradeUserGroupForSubscriptionTx (sub.cancel now) now
  pure (rollbackMessage target)

def adminInvalidateUserSubscription (userSubscriptionId now : Int) : Db String :=
  if userSubscriptionId ≤ 0 then throw "invalid userSubscriptionId"
  else transaction (adminInvalidateTx userSubscriptionId now)

def adminDeleteTx (userSubscriptionId now : Int) : Db String := do
  let sub ← first (·.findSub userSubscriptionId) errRecordNotFound
  let target ← downgradeUserGroupForSubscriptionTx sub now
  write (·.deleteSub userSubscriptionId)
  pure (rollbackMessage target)

def adminDeleteUserSubscription (userSubscriptionId now : Int) : Db String :=
  if userSubscriptionId ≤ 0 then throw "invalid userSubscriptionId"
  else transaction (adminDeleteTx userSubscriptionId now)

/-- A row `ExpireDueSubscriptions` ends. -/
def UserSubscription.DueAt (sub : UserSubscription) (now : Int) : Prop :=
  sub.status = .active ∧ sub.endTime > 0 ∧ sub.endTime ≤ now
deriving Decidable

/-- What the update of the due rows of `userId` makes of a row. -/
def UserSubscription.expire (sub : UserSubscription) (userId now : Int) : UserSubscription :=
  if sub.userId = userId ∧ sub.DueAt now then { sub with status := .expired } else sub

def Store.expireUser (s : Store) (userId now : Int) : Store := { s with subs := s.subs.map (·.expire userId now) }

/-- `Order("end_time desc, id desc")`. -/
def endsAfter (a b : UserSubscription) : Prop := endsBefore b a
deriving Decidable

/-- The expired upgrade of a user that ended last (`Limit(1)`). -/
def Store.lastExpired (s : Store) (userId : Int) : Option UserSubscription :=
  ((s.subs.filter fun sub => sub.userId = userId ∧ sub.status = .expired ∧
    sub.upgradeGroup ≠ "").insertionSort endsAfter).head?

/-- The transaction for one user: the group returned to, and the rows ended. -/
def expireUserTx (userId now : Int) : Db (String × Nat) := do
  let affected ← peek fun s => s.subs.countP fun sub => sub.userId = userId ∧ sub.DueAt now
  write (·.expireUser userId now)
  match ← attempt (read fun s => .ok (s.activeUpgrade userId now fun _ => true)) with
  | .ok (some _) => pure ("", affected)
  | _ =>
    match ← attempt (read fun s => .ok (s.lastExpired userId)) with
    | .ok (some lastExpired) =>
      let upgradeGroup := trimSpace lastExpired.upgradeGroup
      let prevGroup := trimSpace lastExpired.prevUserGroup
      if upgradeGroup = "" ∨ prevGroup = "" then pure ("", affected)
      else
        let currentGroup ← getUserGroupByIdTx userId
        if currentGroup ≠ upgradeGroup ∨ currentGroup = prevGroup then pure ("", affected)
        else do
          write (·.setGroup userId prevGroup)
          pure (prevGroup, affected)
    | _ => pure ("", affected)

/-- The rows `ExpireDueSubscriptions` picks. -/
def Store.expireDue (s : Store) (now limit : Int) : List UserSubscription :=
  ((s.subs.filter fun sub => sub.DueAt now).insertionSort endsBefore).take
    (if limit ≤ 0 then 200 else limit.toNat)

/-- The order in which a Go map is ranged over. -/
structure MapOrder where
  order : List Int → List Int
  perm : ∀ keys, (order keys).Perm keys

/-- The loop over the users.  Beside an error the count is of no use to the only caller,
so a user whose transaction fails is not counted here. -/
def expireUsers (now : Int) : List Int → Int → Program Store (Int × Option String)
  | [], expiredCount => .done (expiredCount, none)
  | userId :: rest, expiredCount => do
      match ← Program.store (transaction (expireUserTx userId now)) with
      | .error e => .done (expiredCount, some e)
      | .ok (_, affected) => expireUsers now rest (expiredCount + affected)

def expireDueSubscriptions (ranged : MapOrder) (now limit : Int) : Program Store (Int × Option String) := do
  match ← Program.store (read fun s => .ok (s.expireDue now limit)) with
  | .error e => .done (0, some e)
  | .ok subs =>
    expireUsers now (ranged.order ((subs.map (·.userId)).filter (· > 0)).dedup) 0

/-! ## Orders -/

def errSubscriptionOrderNotFound : String := "subscription order not found"
def errSubscriptionOrderStatusInvalid : String := "subscription order status invalid"
def errPaymentMethodMismatch : String := "payment method mismatch"

def insertTopUp (topUp : TopUp) : Db Unit :=
  insert
    (fun s => (s.findTopUp topUp.tradeNo).map fun _ => "UNIQUE constraint failed: trade_no")
    (fun s => { s with topUps := s.topUps ++ [topUp] })

def insertOrder (order : SubscriptionOrder) : Db Unit :=
  insert
    (fun s => (s.findOrder order.tradeNo).map fun _ => "UNIQUE constraint failed: trade_no")
    (fun s => { s with orders := s.orders ++ [order] })

/-- `clock` is `common.GetTimestamp()`. -/
def upsertSubscriptionTopUpTx (order : SubscriptionOrder) (clock : Int) : Db Unit := do
  match ← attempt (first (·.findTopUp order.tradeNo) errRecordNotFound) with
  | .error e =>
    if e = errRecordNotFound then
      insertTopUp
        { userId := order.userId, amount := 0, money := order.money, tradeNo := order.tradeNo
          paymentMethod := order.paymentMethod, paymentProvider := .unset
          createTime := order.createTime, completeTime := clock, status := .success }
    else throw e
  | .ok topUp =>
    if topUp.paymentMethod ≠ "" ∧ topUp.paymentMethod ≠ order.paymentMethod then
      throw errPaymentMethodMismatch
    else
      write (·.saveTopUp { topUp with
        money := order.money
        paymentMethod := order.paymentMethod
        createTime := if topUp.createTime = 0 then order.createTime else topUp.createTime
        completeTime := clock
        status := .success })

variable (tradeNo : String)

/-- The body of `completeSubscriptionOrder`; `.unset` as expected provider and an empty
method or payload skip their step. -/
def completeOrderTx (providerPayload : String) (expected : PaymentProvider)
    (actualPaymentMethod : String) (now clock : Int) : Db Unit := do
  let order ← failWith errSubscriptionOrderNotFound <|
    first (·.findOrder tradeNo) errRecordNotFound
  if expected ≠ .unset ∧ order.paymentProvider ≠ expected then throw errPaymentMethodMismatch
  else if order.status = .success then pure ()
  else if order.status ≠ .pending then throw errSubscriptionOrderStatusInvalid
  else do
    let plan ← getSubscriptionPlanByIdTx order.planId
    let _ ← createUserSubscriptionFromPlanTx cfg tradeNo order.userId plan "order" now
    upsertSubscriptionTopUpTx order clock
    write (·.saveOrder { order with
      status := .success
      completeTime := clock
      providerPayload := if providerPayload ≠ "" then providerPayload else order.providerPayload
      paymentMethod := if actualPaymentMethod ≠ "" then actualPaymentMethod else order.paymentMethod })

def completeSubscriptionOrder (providerPayload : String)
    (expected : PaymentProvider) (actualPaymentMethod : String) (now clock : Int) : Db Unit :=
  if tradeNo = "" then throw "tradeNo is empty"
  else transaction
    (completeOrderTx cfg tradeNo providerPayload expected actualPaymentMethod now clock)

def expireOrderTx (expected : PaymentProvider) (clock : Int) : Db Unit := do
  let order ← failWith errSubscriptionOrderNotFound <|
    first (·.findOrder tradeNo) errRecordNotFound
  if expected ≠ .unset ∧ order.paymentProvider ≠ expected then throw errPaymentMethodMismatch
  else if order.status ≠ .pending then pure ()
  else write (·.saveOrder { order with status := .expired, completeTime := clock })

def expireSubscriptionOrder (expected : PaymentProvider) (clock : Int) : Db Unit :=
  if tradeNo = "" then throw "tradeNo is empty"
  else transaction (expireOrderTx tradeNo expected clock)

def calcSubscriptionBalanceQuota (priceAmount : Rat) : Except String Int :=
  if priceAmount ≤ 0 then .ok 0
  else if cfg.quotaPerUnit ≤ 0 then .error "额度单位配置错误"
  else .ok ⌈priceAmount * cfg.quotaPerUnit⌉

/-- Take the price from the wallet, if there is one. -/
def chargeBalanceTx (userId requiredQuota : Int) : Db Unit :=
  if requiredQuota > 0 then
    write (·.setUser userId fun u => { u with quota := u.quota - requiredQuota })
  else pure ()

def purchaseTx (userId planId : Int) (tradeNo : String) (now clock : Int) : Db Unit := do
  let plan ← getSubscriptionPlanByIdTx planId
  if !plan.enabled then throw "套餐未启用"
  else if plan.priceAmount < 0 then throw "套餐价格不能为负数"
  else if plan.allowBalancePay = some false then throw "该套餐不允许使用余额兑换"
  else
    match calcSubscriptionBalanceQuota cfg plan.priceAmount with
    | .error e => throw e
    | .ok requiredQuota => do
        let user ← first (·.users userId) errRecordNotFound
        if requiredQuota > 0 ∧ user.quota < requiredQuota then throw "余额不足"
        else do
          chargeBalanceTx userId requiredQuota
          let _ ← createUserSubscriptionFromPlanTx cfg tradeNo userId plan "balance" now
          insertOrder
            { userId, planId := plan.id, money := plan.priceAmount, tradeNo
              paymentMethod := "balance", paymentProvider := .balance, status := .success
              createTime := clock, completeTime := clock
              providerPayload := "charged_quota=" ++ toString requiredQuota }

/-- `tradeNo` is the number the source makes from the user, random letters and the clock. -/
def purchaseSubscriptionWithBalance (userId planId : Int) (tradeNo : String) (now clock : Int) : Db Unit :=
  if userId ≤ 0 ∨ planId ≤ 0 then throw "invalid userId or planId"
  else transaction (purchaseTx cfg userId planId tradeNo now clock)

/-! ## One round of the subscription maintenance task

`service/subscription_reset_task.go`: the two loops of `runSubscriptionQuotaResetOnce`, which
end and reset subscriptions in batches.  The loops need not end, so they take fuel
(`rounds`).  The flag that keeps two rounds apart and the clean-up of old records after the
loops are left out.
-/

def subscriptionResetBatchSize : Int := 300

/-- How a loop ends; `running` when the fuel was not enough. -/
inductive LoopEnd where
  | finished
  | failed (e : String)
  | running
deriving DecidableEq

/-- `for { n, err := batch(); if err != nil { return }; if n == 0 { break }; if n < size { break } }`. -/
def batchLoop (batch : Program Store (Int × Option String)) : Nat → Program Store LoopEnd
  | 0 => .done .running
  | rounds + 1 => do
      match ← batch with
      | (_, some e) => .done (.failed e)
      | (n, none) =>
        if n = 0 then .done .finished
        else if n < subscriptionResetBatchSize then .done .finished
        else batchLoop batch rounds

/-- `GetDBTimestamp` answers `now` all the time. -/
def runSubscriptionQuotaResetOnce (cfg : Config) (ranged : MapOrder) (fuel : Nat) (now : Int)
    (rounds : Nat) : Program Store LoopEnd := do
  match ← batchLoop (expireDueSubscriptions ranged now subscriptionResetBatchSize) rounds with
  | .finished => batchLoop (resetDueSubscriptions cfg fuel now subscriptionResetBatchSize) rounds
  | other => .done other

end NewApi.Model
