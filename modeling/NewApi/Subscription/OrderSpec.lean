/-
# Subscription.OrderSpec — what an order's transactions do, under every failure pattern

`CompleteSubscriptionOrder`, `ExpireSubscriptionOrder` and `PurchaseSubscriptionWithBalance` are one
transaction each, and none recovers from a failed statement.  So each fails and leaves the store
alone, or does what its body does when nothing fails.
-/
import NewApi.Subscription.GroupSpec

namespace NewApi.Subscription
open Theory Theory.Text Model Sql Option

variable (userId : Int)

@[simp] theorem atomic_getGroup : Atomic (getUserGroupByIdTx userId) := by simp [getUserGroupByIdTx]

@[simp] theorem atomic_upgradeGroup (group : String) : Atomic (upgradeUserGroupTx userId group) := by
  simp [upgradeUserGroupTx]

@[simp] theorem atomic_checkLimit (plan : SubscriptionPlan) : Atomic (checkPurchaseLimitTx userId plan) := by
  simp [checkPurchaseLimitTx]

section
variable (cfg : Config) (order : String) (userId : Int) (plan : SubscriptionPlan) (source : String)
  (now : Int)

@[simp] theorem atomic_create : Atomic (createUserSubscriptionFromPlanTx cfg order userId plan source now) := by
  unfold createUserSubscriptionFromPlanTx
  cases calcPlanEndTime cfg now plan with
  | error e => simp
  | ok endTime =>
    rw [atomic_ite, atomic_ite]
    refine ⟨by simp, fun _ => ⟨by simp, fun _ => atomic_bind (by simp) fun _ => ?_⟩⟩
    exact atomic_bind (by simp) fun _ => by simp

variable {cfg order userId plan source now} in
theorem ok_of_create {s : Store} {w : Store → Store} {sub : UserSubscription} {c : Conn Store}
    (ran : createUserSubscriptionFromPlanTx cfg order userId plan source now ⟨s, w, []⟩ = (.ok sub, c)) :
    ∃ w', c = ⟨s, w', []⟩ ∧ Created cfg order userId plan source now (w s) (w' s) := by
  obtain ⟨outcome, w', applied, created⟩ := create_apply cfg order userId plan source now s w
  rw [applied, Prod.mk.injEq] at ran
  exact ⟨w', ran.2.symm, created sub ran.1⟩

end

/-- The lookup may fail with the very text of a missing row; the insert that follows then
succeeds only if the row is missing indeed. -/
@[simp] theorem atomic_upsert (order : SubscriptionOrder) (clock : Int) :
    Atomic (upsertSubscriptionTopUpTx order clock) := by
  constructor
  · refine local_bind (local_attempt (local_first _ _)) fun found => ?_
    cases found with
    | error e => exact local_ite (fun _ => local_insert _ _) fun _ => local_throw _
    | ok topUp => exact local_ite (fun _ => local_throw _) fun _ => local_write _
  intro c a c' ran
  rcases looked : first (·.findTopUp order.tradeNo) errRecordNotFound c with ⟨found, m⟩
  unfold upsertSubscriptionTopUpTx at ran ⊢
  rw [bind_ok (attempt_apply looked)] at ran
  cases found with
  | ok topUp =>
    have clean := (atomic_first _ _).strict _ _ _ looked
    rw [bind_ok (attempt_apply clean)]
    exact (show Atomic _ by simp).strict m a c' ran
  | error e =>
    by_cases missing : e = errRecordNotFound
    · simp only [if_pos missing] at ran
      have kept : m = { c with faults := m.faults } := by
        have same := first_keeps (·.findTopUp order.tradeNo) errRecordNotFound c
        rwa [looked] at same
      have clean := strict_insert _ _ m a c' ran
      rw [kept] at clean
      have inserted := (ok_of_insert clean).1
      rw [map_eq_none_iff] at inserted
      have absent : first (·.findTopUp order.tradeNo) errRecordNotFound { c with faults := [] } =
          (.error errRecordNotFound, ⟨c.db, c.writes, []⟩) := first_missing inserted _
      rw [bind_ok (attempt_apply absent)]
      exact clean
    · simp only [if_neg missing] at ran
      cases ran

theorem ok_of_upsert {order : SubscriptionOrder} {clock : Int} {s : Store} {w : Store → Store}
    {c : Conn Store} (ran : upsertSubscriptionTopUpTx order clock ⟨s, w, []⟩ = (.ok (), c)) :
    ∃ w' topUps, c = ⟨s, w', []⟩ ∧ w' s = { w s with topUps } := by
  obtain ⟨found, m, looked, rest⟩ := ok_of_bind ran
  have unchanged : m = ⟨s, w, []⟩ := by cases looked; rfl
  subst unchanged
  cases found with
  | error e =>
    simp only at rest
    split at rest
    · exact ⟨_, _, (ok_of_insert rest).2, rfl⟩
    · cases rest
  | ok topUp =>
    simp only at rest
    split at rest
    · cases rest
    · exact ⟨_, _, (ok_of_insert rest).2, rfl⟩

def completedOrder (order : SubscriptionOrder) (providerPayload actualPaymentMethod : String)
    (clock : Int) : SubscriptionOrder :=
  { order with
    status := .success
    completeTime := clock
    providerPayload := if providerPayload ≠ "" then providerPayload else order.providerPayload
    paymentMethod := if actualPaymentMethod ≠ "" then actualPaymentMethod else order.paymentMethod }

/-- An order that was completed: its subscription was created, and it is marked. -/
structure Completed (cfg : Config) (tradeNo providerPayload actualPaymentMethod : String)
    (now clock : Int) (s s' : Store) : Prop where
  effect : ∃ order plan v topUps, s.findOrder tradeNo = some order ∧ order.status = .pending ∧
    s.planById order.planId = some plan ∧ Created cfg tradeNo order.userId plan "order" now s v ∧
    s' = ({ v with topUps } : Store).saveOrder
      (completedOrder order providerPayload actualPaymentMethod clock)

section
variable (cfg : Config) (tradeNo providerPayload : String) (expected : PaymentProvider)
  (actualPaymentMethod : String) (now clock : Int)

variable {cfg tradeNo providerPayload expected actualPaymentMethod now clock} in
theorem ok_of_completeOrder {s : Store} {w : Store → Store}
    (ran : completeOrderTx cfg tradeNo providerPayload expected actualPaymentMethod now clock
      ⟨s, fun s => s, []⟩ = (.ok (), ⟨s, w, []⟩)) :
    w s = s ∨ Completed cfg tradeNo providerPayload actualPaymentMethod now clock s (w s) := by
  obtain ⟨order, m, looked, rest⟩ := ok_of_bind ran
  obtain ⟨found, rfl⟩ := ok_of_first (ok_of_failWith looked)
  split at rest
  · cases rest
  split at rest
  · cases rest
    exact .inl rfl
  split at rest
  · cases rest
  rename_i pending
  rw [not_not] at pending
  obtain ⟨plan, m, planned, rest⟩ := ok_of_bind rest
  obtain ⟨planFound, rfl⟩ := ok_of_getPlan planned
  obtain ⟨sub, m, inserted, rest⟩ := ok_of_bind rest
  obtain ⟨w₁, rfl, created⟩ := ok_of_create inserted
  obtain ⟨_, m, recorded, rest⟩ := ok_of_bind rest
  obtain ⟨w₂, topUps, rfl, topUp⟩ := ok_of_upsert recorded
  cases rest
  refine .inr ⟨order, plan, w₁ s, topUps, found, pending, planFound, created, ?_⟩
  rw [← topUp]
  rfl

/-- Completing an order fails and changes nothing, finds nothing to do, or completes it. -/
theorem complete_exec (s : Store) (faults : Faults) :
    ∃ outcome s', (completeSubscriptionOrder cfg tradeNo providerPayload expected actualPaymentMethod
        now clock).exec s faults = (outcome, s') ∧
      (s' = s ∨ Completed cfg tradeNo providerPayload actualPaymentMethod now clock s s') := by
  unfold completeSubscriptionOrder
  split
  · exact ⟨_, s, rfl, .inl rfl⟩
  have atomic : Atomic (completeOrderTx cfg tradeNo providerPayload expected actualPaymentMethod now clock) := by
    refine atomic_bind (by simp) fun order => ?_
    simp only [atomic_ite, atomic_throw, atomic_pure, implies_true, true_and]
    exact fun _ _ _ => atomic_bind (by simp) fun plan => by simp
  rcases exec_transaction_cases atomic s faults with ⟨e, failed⟩ | ⟨_, w, body, done⟩
  · exact ⟨_, s, failed, .inl rfl⟩
  · exact ⟨_, w s, done, ok_of_completeOrder body⟩

end

theorem expireOrder_exec (tradeNo : String) (expected : PaymentProvider) (clock : Int) (s : Store) (faults : Faults) :
    ∃ outcome s', (expireSubscriptionOrder tradeNo expected clock).exec s faults = (outcome, s') ∧
      (s' = s ∨ ∃ order, s.findOrder tradeNo = some order ∧ order.status = .pending ∧
        s' = s.saveOrder { order with status := .expired, completeTime := clock }) := by
  unfold expireSubscriptionOrder
  split
  · exact ⟨_, s, rfl, .inl rfl⟩
  rcases exec_transaction_cases (show Atomic (expireOrderTx tradeNo expected clock) by simp [expireOrderTx]) s faults
    with ⟨e, failed⟩ | ⟨_, w, body, done⟩
  · exact ⟨_, s, failed, .inl rfl⟩
  refine ⟨_, w s, done, ?_⟩
  obtain ⟨order, m, looked, rest⟩ := ok_of_bind body
  obtain ⟨found, rfl⟩ := ok_of_first (ok_of_failWith looked)
  split at rest
  · cases rest
  split at rest
  · cases rest
    exact .inl rfl
  · rename_i pending
    cases rest
    exact .inr ⟨order, found, not_not.mp pending, rfl⟩

/-! ## Buying with the balance -/

def debit (s : Store) (userId price : Int) : Store :=
  if price > 0 then s.setUser userId fun u => { u with quota := u.quota - price } else s

def balanceOrder (userId : Int) (plan : SubscriptionPlan) (tradeNo : String) (price clock : Int) : SubscriptionOrder :=
  { userId, planId := plan.id, money := plan.priceAmount, tradeNo
    paymentMethod := "balance", paymentProvider := .balance, status := .success
    createTime := clock, completeTime := clock
    providerPayload := "charged_quota=" ++ toString price }

/-- A purchase that went through: the wallet paid the price and could, the subscription was
created, and the order of that number is new. -/
structure Purchased (cfg : Config) (userId planId : Int) (tradeNo : String) (now clock : Int)
    (s s' : Store) : Prop where
  effect : ∃ plan price user v, s.planById planId = some plan ∧
    calcSubscriptionBalanceQuota cfg plan.priceAmount = .ok price ∧
    s.users userId = some user ∧ (0 < price → price ≤ user.quota) ∧
    Created cfg tradeNo userId plan "balance" now (debit s userId price) v ∧
    v.findOrder tradeNo = none ∧
    s' = { v with orders := v.orders ++ [balanceOrder userId plan tradeNo price clock] }

@[simp] theorem atomic_chargeBalance (price : Int) : Atomic (chargeBalanceTx userId price) := by
  simp [chargeBalanceTx]

theorem chargeBalance_apply (price : Int) (s : Store) (w : Store → Store) :
    ∃ w', chargeBalanceTx userId price ⟨s, w, []⟩ = (.ok (), ⟨s, w', []⟩) ∧ w' s = debit (w s) userId price := by
  unfold chargeBalanceTx debit
  split
  · exact ⟨_, rfl, rfl⟩
  · exact ⟨w, rfl, rfl⟩

variable (cfg : Config) (userId planId : Int) (tradeNo : String) (now clock : Int)

theorem atomic_purchase : Atomic (purchaseTx cfg userId planId tradeNo now clock) := by
  refine atomic_bind (by simp) fun plan => ?_
  cases calcSubscriptionBalanceQuota cfg plan.priceAmount with
  | error e => split_ifs <;> simp
  | ok price =>
    split_ifs
    · simp
    · simp
    · simp
    · refine atomic_bind (by simp) fun user => ?_
      split_ifs <;> simp [insertOrder]

variable {cfg userId planId tradeNo now clock} in
theorem ok_of_purchase {s : Store} {w : Store → Store}
    (ran : purchaseTx cfg userId planId tradeNo now clock ⟨s, fun s => s, []⟩ = (.ok (), ⟨s, w, []⟩)) :
    Purchased cfg userId planId tradeNo now clock s (w s) := by
  obtain ⟨plan, m, planned, rest⟩ := ok_of_bind ran
  obtain ⟨planFound, rfl⟩ := ok_of_getPlan planned
  split at rest
  · cases rest
  split at rest
  · cases rest
  split at rest
  · cases rest
  cases priced : calcSubscriptionBalanceQuota cfg plan.priceAmount with
  | error e => rw [priced] at rest; cases rest
  | ok price =>
    simp only [priced] at rest
    obtain ⟨user, m, looked, rest⟩ := ok_of_bind rest
    obtain ⟨here, rfl⟩ := ok_of_first looked
    split at rest
    · cases rest
    rename_i affordable
    obtain ⟨w₀, paid, debited⟩ := chargeBalance_apply userId price s fun s => s
    rw [bind_ok paid] at rest
    obtain ⟨sub, m, inserted, rest⟩ := ok_of_bind rest
    obtain ⟨w₁, rfl, created⟩ := ok_of_create inserted
    rw [debited] at created
    obtain ⟨unique, effect⟩ := ok_of_insert rest
    cases effect
    refine ⟨plan, price, user, w₁ s, planFound, priced, here, fun positive => ?_, created,
      map_eq_none_iff.mp unique, rfl⟩
    by_contra short
    exact affordable ⟨positive, by omega⟩

/-- A purchase fails and changes nothing, or goes through as a whole. -/
theorem purchase_exec (s : Store) (faults : Faults) :
    ∃ outcome s', (purchaseSubscriptionWithBalance cfg userId planId tradeNo now clock).exec s faults =
        (outcome, s') ∧ ((∃ e, outcome = .error e ∧ s' = s) ∨
        outcome = .ok () ∧ Purchased cfg userId planId tradeNo now clock s s') := by
  unfold purchaseSubscriptionWithBalance
  split
  · exact ⟨_, s, rfl, .inl ⟨_, rfl, rfl⟩⟩
  rcases exec_transaction_cases (atomic_purchase cfg userId planId tradeNo now clock) s faults
    with ⟨e, failed⟩ | ⟨_, w, body, done⟩
  · exact ⟨_, s, failed, .inl ⟨e, rfl, rfl⟩⟩
  · exact ⟨_, w s, done, .inr ⟨rfl, ok_of_purchase body⟩⟩

end NewApi.Subscription
