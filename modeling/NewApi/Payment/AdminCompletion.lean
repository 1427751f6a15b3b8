/-
# Payment.AdminCompletion — an order completed by hand, and by its provider

`ManualCompleteTopUp` takes `Money` of a Stripe order and `Amount` of any other for a number of
units.  But `Amount` of a Creem order is the quota itself, and the admin's completion multiplies it
by the quota of a unit once more.  `manual_agrees_iff`: when the two credits are the same.
-/
import NewApi.Payment.TopUpSpec
import NewApi.Model.TopUpRequest

namespace NewApi.Payment
open Theory Model Program Int

/-! ## The two completions -/

/-- What a callback carries beside the trade number. -/
structure CallbackInfo where
  process : Nat
  type : String
  customerId : String
  customerEmail : String
  clock : Int

variable (cfg : Config)

/-- The callback of the order's own provider. -/
def providerCallback (info : CallbackInfo) (topUp : TopUp) : Program Store Unit :=
  match topUp.paymentProvider with
  | .epay => do
      let _ ← epayNotify cfg info.process topUp.tradeNo info.type
  | .stripe => do
      let _ ← store (recharge cfg topUp.tradeNo info.customerId info.clock)
  | .creem => do
      let _ ← store (rechargeCreem topUp.tradeNo info.customerEmail info.clock)
  | .waffo => do
      let _ ← store (rechargeWaffo cfg topUp.tradeNo info.clock)
  | .waffoPancake => do
      let _ ← store (rechargeWaffoPancake cfg topUp.tradeNo info.clock)
  | .unset | .balance => .done ()

/-- The settings, with a quota column that rounds down. -/
def roundingDown : Config := { cfg with storeQuota := Rat.floor }

structure Pending (s : Store) (topUp : TopUp) (user : User) : Prop where
  stored : s.findTopUp topUp.tradeNo = some topUp
  pending : topUp.status = .pending
  numbered : topUp.tradeNo ≠ ""
  known : s.users topUp.userId = some user

section
variable {cfg : Config} {s : Store} {topUp : TopUp} {user : User}

section
variable (order : Pending s topUp user)
include order

theorem findTopUp_found (missing : String) :
    findTopUpTx topUp.tradeNo missing ⟨s, id, []⟩ = (.ok topUp, ⟨s, id, []⟩) := by
  unfold findTopUpTx Sql.failWith
  rw [first_found order.stored]

theorem Pending.wallet : walletOf s topUp.userId = some user.quota := by
  rw [walletOf, order.known, Option.map_some]

/-- Saving the order does not touch the wallets. -/
theorem wallet_credit (saved : TopUp) (amount : Int) (by_ : Completion) :
    walletOf ((s.saveTopUp saved).credit topUp amount by_) topUp.userId = some (user.quota + amount) := by
  have same : walletOf (s.saveTopUp saved) topUp.userId = some user.quota := order.wallet
  unfold Store.credit
  rw [show walletOf (((s.saveTopUp saved).addUserQuota topUp.userId amount).log
      (.credited topUp.tradeNo topUp.userId amount by_)) topUp.userId =
    walletOf ((s.saveTopUp saved).addUserQuota topUp.userId amount) topUp.userId from rfl, walletOf_addUserQuota, same]
  simp

end

theorem walletOf_setStripeCustomer (s : Store) (userId id : Int) (customer : String) :
    walletOf (s.setStripeCustomer userId customer) id = walletOf s id :=
  walletOf_setUser s userId id fun _ => rfl

theorem walletOf_setEmail (s : Store) (userId id : Int) (email : String) :
    walletOf (s.setEmail userId email) id = walletOf s id :=
  walletOf_setUser s userId id fun _ => rfl

section
variable (order : Pending s topUp user)

include order

/-- The admin's completion credits a positive quota and refuses any other. -/
theorem manual_wallet (clock : Int) :
    walletOf ((manualCompleteTopUp cfg topUp.tradeNo clock).exec s []).2 topUp.userId =
      some (user.quota + max 0 (manualQuota cfg topUp)) := by
  have body : manualCompleteTx cfg topUp.tradeNo clock ⟨s, id, []⟩ = _ := Sql.bind_ok (findTopUp_found order _)
  have open_ : topUp.status ≠ .success := by rw [order.pending]; decide
  rw [if_neg open_, if_neg (not_not.mpr order.pending)] at body
  unfold manualCompleteTopUp
  rw [if_neg order.numbered]
  by_cases none_ : manualQuota cfg topUp ≤ 0
  · rw [if_pos none_] at body
    rw [Sql.exec_transaction_nil body, max_eq_left none_, add_zero]
    exact order.wallet
  · rw [if_neg none_] at body
    rw [Sql.exec_transaction_nil body, max_eq_right (by omega)]
    exact wallet_credit order _ _ _

theorem recharge_wallet (own : topUp.paymentProvider = .stripe) (customerId : String) (clock : Int) :
    walletOf ((recharge cfg topUp.tradeNo customerId clock).exec s []).2 topUp.userId =
      some (cfg.storeQuota (user.quota + topUp.money * cfg.quotaPerUnit)) := by
  have body : rechargeTx cfg topUp.tradeNo customerId clock ⟨s, id, []⟩ = _ := Sql.bind_ok (findTopUp_found order _)
  rw [if_neg (not_not.mpr own), if_neg (not_not.mpr order.pending)] at body
  unfold recharge
  rw [if_neg order.numbered, Sql.exec_failWith, Sql.exec_transaction_nil body]
  have gained : (s.saveTopUp (topUp.succeed clock)).gain cfg topUp.userId (topUp.money * cfg.quotaPerUnit) =
      cfg.storeQuota (user.quota + topUp.money * cfg.quotaPerUnit) - user.quota := by
    have known : (s.saveTopUp (topUp.succeed clock)).users topUp.userId = some user := order.known
    simp only [Store.gain, known]
  refine (walletOf_setStripeCustomer _ _ _ _).trans ?_
  refine (wallet_credit order _ _ _).trans (congrArg some ?_)
  exact (congrArg (user.quota + ·) gained).trans (by omega)

theorem rechargeCreem_wallet (own : topUp.paymentProvider = .creem) (customerEmail : String) (clock : Int) :
    walletOf ((rechargeCreem topUp.tradeNo customerEmail clock).exec s []).2 topUp.userId =
      some (user.quota + topUp.amount) := by
  have asked : ∃ setsEmail, needsEmailTx topUp.userId customerEmail ⟨s, (·.saveTopUp (topUp.succeed clock)), []⟩ =
        (.ok setsEmail, ⟨s, (·.saveTopUp (topUp.succeed clock)), []⟩) := by
    unfold needsEmailTx
    split
    · exact ⟨_, Sql.bind_ok (first_found order.known _)⟩
    · exact ⟨_, rfl⟩
  obtain ⟨setsEmail, asked⟩ := asked
  have body : rechargeCreemTx topUp.tradeNo customerEmail clock ⟨s, id, []⟩ = _ :=
    Sql.bind_ok (findTopUp_found order _)
  rw [if_neg (not_not.mpr own), if_neg (not_not.mpr order.pending), Sql.bind_ok (Sql.write_nil _ _ _)] at body
  have body := body.trans (Sql.bind_ok asked)
  unfold rechargeCreem
  rw [if_neg order.numbered, Sql.exec_failWith, Sql.exec_transaction_nil body]
  cases setsEmail with
  | false => exact wallet_credit order _ _ _
  | true =>
    refine (walletOf_setEmail ((s.saveTopUp (topUp.succeed clock)).credit topUp _ .rechargeCreem) _ _ _).trans ?_
    exact wallet_credit order _ _ _

theorem rechargeUnits_wallet {provider : PaymentProvider}
    (own : topUp.paymentProvider = provider) (by_ : Completion) (clock : Int) :
    walletOf ((Sql.transaction (rechargeUnitsTx cfg provider by_ topUp.tradeNo clock)).exec s []).2 topUp.userId =
      some (user.quota + max 0 (quotaOfUnits cfg topUp.amount)) := by
  have body : rechargeUnitsTx cfg provider by_ topUp.tradeNo clock ⟨s, id, []⟩ = _ :=
    Sql.bind_ok (findTopUp_found order _)
  have open_ : topUp.status ≠ .success := by rw [order.pending]; decide
  rw [if_neg (not_not.mpr own), if_neg open_, if_neg (not_not.mpr order.pending)] at body
  by_cases none_ : quotaOfUnits cfg topUp.amount ≤ 0
  · rw [if_pos none_] at body
    rw [Sql.exec_transaction_nil body, max_eq_left none_, add_zero]
    exact order.wallet
  · rw [if_neg none_] at body
    rw [Sql.exec_transaction_nil body, max_eq_right (by omega)]
    exact wallet_credit order _ _ _

end

theorem creditEpay_wallet (topUp : TopUp) (s : Store) : walletOf ((creditEpay cfg topUp).exec s []).2 topUp.userId =
      walletOf (s.addUserQuota topUp.userId (max 0 (quotaOfUnits cfg topUp.amount))) topUp.userId := by
  unfold creditEpay increaseUserQuota
  by_cases negative : quotaOfUnits cfg topUp.amount < 0
  · rw [if_pos negative, max_eq_left (by omega), walletOf_addUserQuota]
    simp [Sql.exec, Sql.bind_apply]
  · rw [if_neg negative, max_eq_right (by omega)]
    rfl

/-- The Epay callback credits a quota that is not negative; an error is only logged. -/
theorem epayNotify_wallet (order : Pending s topUp user) (own : topUp.paymentProvider = .epay)
    (process : Nat) (type : String) : walletOf ((epayNotify cfg process topUp.tradeNo type).solo s).2 topUp.userId =
      some (user.quota + max 0 (quotaOfUnits cfg topUp.amount)) := by
  have read : (first (·.findTopUp topUp.tradeNo) errRecordNotFound).exec
      (s.setLock process topUp.tradeNo true) [] = (.ok topUp, s.setLock process topUp.tradeNo true) := by
    unfold Sql.exec
    rw [first_found order.stored]
  have locked : (epayNotify cfg process topUp.tradeNo type).solo s =
      (epayCredit cfg process topUp.tradeNo (topUp.epayPaid type)).solo
        ((s.setLock process topUp.tradeNo true).saveTopUp (topUp.epayPaid type)) := by
    unfold epayNotify epayLocked lockOrder
    simp only [solo_bind, await, store, solo]
    rw [show ((Sql.memory fun x : Store => x.setLock process topUp.tradeNo true).exec s []).2 =
      s.setLock process topUp.tradeNo true from rfl, read]
    simp only [own, ne_eq, not_true_eq_false, if_false, order.pending, if_true]
    rfl
  rw [locked]
  refine (creditEpay_wallet (topUp.epayPaid type) _).trans ?_
  have same : walletOf ((s.setLock process topUp.tradeNo true).saveTopUp (topUp.epayPaid type))
    (topUp.epayPaid type).userId = some user.quota := order.wallet
  rw [walletOf_addUserQuota, same, if_pos rfl]
  rfl

end

/-! ## Orders as they are created -/

def Callable (provider : PaymentProvider) : Prop :=
  provider = .epay ∨ provider = .stripe ∨ provider = .creem ∨ provider = .waffo ∨
    provider = .waffoPancake

theorem append_ne_empty {first : String} (text : first ≠ "") (rest : String) : first ++ rest ≠ "" := by
  intro empty
  exact text (String.append_eq_empty_iff.mp empty).1

section
variable {α β : Type} {a : α} {b : β} {x : Except String α}

@[simp] theorem guard_eq_ok {refused : Prop} [Decidable refused] {e : String} :
    (if refused then throw e else x) = .ok a ↔ ¬refused ∧ x = .ok a := by
  by_cases wrong : refused <;> simp [wrong]

@[simp] theorem bind_eq_ok {f : α → Except String β} : (x >>= f) = .ok b ↔ ∃ a, x = .ok a ∧ f a = .ok b := by
  cases x <;> simp [Bind.bind, Except.bind]

end

section
variable {cfg : Config} {settings : PaymentSettings} {call : PaymentCall} {topUp : TopUp} {amount : Int}
  {method : String}

/-- An accepted Epay request. -/
theorem requestEpay_ok (created : requestEpay cfg settings call amount method = .ok topUp) :
    ∃ group money units number, call.group = some group ∧
      getPayMoney cfg settings amount group = .ok money ∧ ¬money < 1 / 100 ∧
      epayAmount cfg settings amount = .ok units ∧ number ≠ "" ∧
      topUp = newTopUp call units money number method .epay := by
  obtain ⟨-, created⟩ := guard_eq_ok.mp created
  split at created
  · cases created
  rename_i group known
  simp only [guard_eq_ok, bind_eq_ok] at created
  obtain ⟨money, priced, enough, -, -, -, units, converted, ⟨⟩⟩ := created
  refine ⟨group, money, units, _, known, priced, enough, converted, ?_, rfl⟩
  repeat refine append_ne_empty ?_ _
  decide

/-- An order of a provider that nobody has paid yet. -/
def Unpaid (provider : PaymentProvider) (topUp : TopUp) : Prop :=
  topUp.status = .pending ∧ topUp.tradeNo ≠ "" ∧ topUp.paymentProvider = provider

theorem requestStripePay_ok (created : requestStripePay cfg settings call amount method = .ok topUp) :
    Unpaid .stripe topUp := by
  simp only [requestStripePay, guard_eq_ok] at created
  obtain ⟨-, -, -, -, -, created⟩ := created
  split at created
  · cases created
  · obtain ⟨-, ⟨⟩⟩ := guard_eq_ok.mp created
    exact ⟨rfl, append_ne_empty (by decide) _, rfl⟩

theorem requestCreemPay_ok {productId : String}
    (created : requestCreemPay settings call productId method = .ok topUp) : Unpaid .creem topUp := by
  simp only [requestCreemPay, guard_eq_ok] at created
  obtain ⟨-, -, created⟩ := created
  split at created
  · cases created
  split at created
  · cases created
  · obtain ⟨-, ⟨⟩⟩ := guard_eq_ok.mp created
    exact ⟨rfl, append_ne_empty (by decide) _, rfl⟩

theorem requestWaffoPay_ok {req : WaffoPayRequest}
    (created : requestWaffoPay cfg settings call req = .ok topUp) : Unpaid .waffo topUp := by
  simp only [requestWaffoPay, guard_eq_ok] at created
  obtain ⟨-, -, -, -, -, ⟨⟩⟩ := created
  refine ⟨rfl, ?_, rfl⟩
  repeat refine append_ne_empty ?_ _
  decide

theorem requestWaffoPancakePay_ok (created : requestWaffoPancakePay cfg settings call amount = .ok topUp) :
    Unpaid .waffoPancake topUp := by
  simp only [requestWaffoPancakePay, guard_eq_ok] at created
  obtain ⟨-, -, -, created⟩ := created
  split at created
  · cases created
  · simp only [guard_eq_ok, bind_eq_ok] at created
    obtain ⟨money, -, -, units, -, ⟨⟩⟩ := created
    refine ⟨rfl, ?_, rfl⟩
    repeat refine append_ne_empty ?_ _
    decide

/-- What all the orders have in common. -/
theorem order_created {request : PaymentRequest} (created : request.order cfg settings call = .ok topUp) :
    topUp.status = .pending ∧ topUp.tradeNo ≠ "" ∧ Callable topUp.paymentProvider := by
  cases request with
  | epay amount method =>
    obtain ⟨_, _, _, _, _, _, _, _, numbered, rfl⟩ := requestEpay_ok created
    exact ⟨rfl, numbered, .inl rfl⟩
  | stripe amount method =>
    obtain ⟨pending, numbered, own⟩ := requestStripePay_ok created
    exact ⟨pending, numbered, .inr (.inl own)⟩
  | creem productId method =>
    obtain ⟨pending, numbered, own⟩ := requestCreemPay_ok created
    exact ⟨pending, numbered, .inr (.inr (.inl own))⟩
  | waffo req =>
    obtain ⟨pending, numbered, own⟩ := requestWaffoPay_ok created
    exact ⟨pending, numbered, .inr (.inr (.inr (.inl own)))⟩
  | waffoPancake amount =>
    obtain ⟨pending, numbered, own⟩ := requestWaffoPancakePay_ok created
    exact ⟨pending, numbered, .inr (.inr (.inr (.inr own)))⟩

end

/-! ## When the two credits agree -/

/-- Epay and the Waffo orders always agree.  A Stripe order must not be of negative money; the
quota of a Creem order must be what so many units are worth. -/
def CreditsAgree (topUp : TopUp) : Prop :=
  match topUp.paymentProvider with
  | .stripe => 0 ≤ topUp.money
  | .creem =>
    topUp.amount = 0 ∨
      0 < topUp.amount ∧ 1 ≤ cfg.quotaPerUnit ∧ topUp.amount * (cfg.quotaPerUnit - 1) < 1
  | _ => True

theorem stripe_agrees_iff {perUnit : Rat} (positive : 0 < perUnit) (money : Rat) :
    max 0 (Decimal.intPart (money * perUnit)) = (money * perUnit).floor ↔ 0 ≤ money := by
  rw [Decimal.max_intPart, max_eq_right_iff, Rat.le_floor_iff, cast_zero]
  exact mul_nonneg_iff_of_pos_right positive

theorem creem_agrees_iff (perUnit : Rat) (amount : Int) : max 0 (Decimal.intPart (amount * perUnit)) = amount ↔
      amount = 0 ∨ 0 < amount ∧ 1 ≤ perUnit ∧ amount * (perUnit - 1) < 1 := by
  rw [Decimal.max_intPart]
  rcases lt_trichotomy amount 0 with negative | rfl | positive
  · exact iff_of_false (by omega) (by omega)
  · simp [Rat.floor_def]
  have whole : (0 : Rat) < amount := by exact_mod_cast positive
  have high : max 0 (amount * perUnit).floor = amount ↔ (amount * perUnit).floor = amount := by omega
  have low : (amount : Rat) ≤ amount * perUnit ↔ 1 ≤ perUnit := le_mul_iff_one_le_right whole
  rw [high, Decimal.floor_eq_iff, low]
  have apart : (amount : Rat) * perUnit < amount + 1 ↔ amount * (perUnit - 1) < 1 := by
    rw [mul_sub, mul_one, sub_lt_iff_lt_add']
  rw [apart]
  simp [positive, positive.ne']

def callbackQuota (topUp : TopUp) : Int :=
  match topUp.paymentProvider with
  | .stripe => (topUp.money * cfg.quotaPerUnit).floor
  | .creem => topUp.amount
  | _ => max 0 (quotaOfUnits cfg topUp.amount)

theorem callback_wallet {cfg : Config} {s : Store} {topUp : TopUp} {user : User}
    (order : Pending s topUp user) (callable : Callable topUp.paymentProvider) (info : CallbackInfo) :
    walletOf ((providerCallback (roundingDown cfg) info topUp).solo s).2 topUp.userId =
      some (user.quota + callbackQuota cfg topUp) := by
  unfold providerCallback callbackQuota
  rcases callable with own | own | own | own | own
  · rw [own]
    simp only [solo_bind]
    exact epayNotify_wallet order own info.process info.type
  · rw [own]
    refine (recharge_wallet order own info.customerId info.clock).trans (congrArg some ?_)
    have sum := Rat.floor_add_intCast (x := topUp.money * cfg.quotaPerUnit) (y := user.quota)
    rw [add_comm] at sum
    exact sum.trans (add_comm _ _)
  · rw [own]
    exact rechargeCreem_wallet order own info.customerEmail info.clock
  · rw [own]
    refine Eq.trans ?_ (rechargeUnits_wallet order own .rechargeWaffo info.clock)
    simp only [rechargeWaffo, if_neg order.numbered]
    exact congrArg (walletOf · topUp.userId) (congrArg Prod.snd (Sql.exec_failWith _ _ s []))
  · rw [own]
    refine Eq.trans ?_ (rechargeUnits_wallet order own .rechargeWaffoPancake info.clock)
    simp only [rechargeWaffoPancake, if_neg order.numbered]
    exact congrArg (walletOf · topUp.userId) (congrArg Prod.snd (Sql.exec_failWith _ _ s []))

/-- **When completing by hand credits what the callback would.** -/
theorem manual_agrees_iff {cfg : Config} (positive : 0 < cfg.quotaPerUnit) {settings : PaymentSettings}
    {call : PaymentCall} {request : PaymentRequest} {topUp : TopUp}
    (created : request.order cfg settings call = .ok topUp) {s : Store} {user : User}
    (stored : s.findTopUp topUp.tradeNo = some topUp) (known : s.users topUp.userId = some user)
    (clock : Int) (info : CallbackInfo) :
    walletOf ((manualCompleteTopUp cfg topUp.tradeNo clock).exec s []).2 topUp.userId =
        walletOf ((providerCallback (roundingDown cfg) info topUp).solo s).2 topUp.userId ↔ CreditsAgree cfg topUp := by
  obtain ⟨pending, numbered, callable⟩ := order_created created
  have order : Pending s topUp user := ⟨stored, pending, numbered, known⟩
  rw [manual_wallet order, callback_wallet order callable, Option.some.injEq, add_right_inj]
  unfold callbackQuota CreditsAgree manualQuota quotaOfUnits
  rcases callable with own | own | own | own | own
  · simp [own]
  · simpa [own] using stripe_agrees_iff positive topUp.money
  · simpa [own] using creem_agrees_iff cfg.quotaPerUnit topUp.amount
  · simp [own]
  · simp [own]

/-! ## Two orders -/

def shop : PaymentSettings :=
  { quotaDisplayType := .usd, topupGroupRatio := fun _ => some 1, amountDiscount := fun _ => none
    price := 7, minTopUp := 1, payMethods := ["alipay"], stripeMinTopUp := 1
    creemProducts := some [⟨"small", 5, 500000⟩], waffoEnabled := false, waffoUnitPrice := 1
    waffoMinTopUp := 1, waffoPayMethods := [], waffoPancakeEnabled := false
    waffoPancakeUnitPrice := 1, waffoPancakeMinTopUp := 1 }

def customer : User := ⟨7, "default", 0, "", ""⟩

def customerCall : PaymentCall :=
  { id := 7, user := some customer, group := some "default", now := 10, nowMilli := 10000
    random := "r", sha1 := id, hasClient := true, started := true, trustedSuccessURL := true
    trustedCancelURL := true }

def callbackInfo : CallbackInfo := ⟨0, "alipay", "", "", 20⟩

def ordered (topUp : TopUp) : Store :=
  { Store.empty with
    users := fun id => if id = 7 then some customer else none
    topUps := [topUp] }

def epayTopUp : TopUp := newTopUp customerCall 2 14 "USR7NOr10" "alipay" .epay

theorem epay_agrees : (PaymentRequest.epay 2 "alipay").order plainConfig shop customerCall = .ok epayTopUp ∧
      walletOf ((manualCompleteTopUp plainConfig "USR7NOr10" 20).exec (ordered epayTopUp) []).2 7 =
        walletOf ((providerCallback (roundingDown plainConfig) callbackInfo epayTopUp).solo
          (ordered epayTopUp)).2 7 := by
  have created : (PaymentRequest.epay 2 "alipay").order plainConfig shop customerCall =
      .ok epayTopUp := by decide +kernel
  have stored : (ordered epayTopUp).findTopUp epayTopUp.tradeNo = some epayTopUp := by decide
  have known : (ordered epayTopUp).users epayTopUp.userId = some customer := by decide
  refine ⟨created, ?_⟩
  exact (manual_agrees_iff (by decide +kernel) created stored known 20 callbackInfo).mpr trivial

def creemTopUp : TopUp := newTopUp customerCall 500000 5 "ref_creem-api-ref-7-10000-r" "creem" .creem

/-- The callback credits 500000, the admin 500000 times as much. -/
theorem creem_disagrees : (PaymentRequest.creem "small" "creem").order plainConfig shop customerCall = .ok creemTopUp ∧
      walletOf ((providerCallback (roundingDown plainConfig) callbackInfo creemTopUp).solo
        (ordered creemTopUp)).2 7 = some 500000 ∧ walletOf ((manualCompleteTopUp plainConfig creemTopUp.tradeNo 20).exec
        (ordered creemTopUp) []).2 7 = some 250000000000 := by
  refine ⟨by decide +kernel, by decide +kernel, by decide +kernel⟩

end NewApi.Payment
