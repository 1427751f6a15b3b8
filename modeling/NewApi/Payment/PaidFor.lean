/-
# Payment.PaidFor — does the customer get what is paid for?

An Epay order is priced by the units that were asked for, a fraction included, but stores whole
units, which the callback credits: 750000 tokens at 500000 tokens a unit are paid as one unit and a
half and credited as one.  `epay_paidFor_iff`: when money and credit match.
-/
import NewApi.Payment.AdminCompletion

namespace NewApi.Payment
open Theory Model Decimal

/-- What a program adds to the quota of a user. -/
def creditedBy {α : Type} (program : Program Store α) (s : Store) (userId : Int) : Int :=
  (walletOf (program.solo s).2 userId).getD 0 - (walletOf s userId).getD 0

/-- What a unit costs in a request for `amount`: price, ratio and discount. -/
def unitPrice (settings : PaymentSettings) (group : String) (amount : Int) : Rat :=
  settings.price * settings.ratio group * settings.discount amount

/-- What is asked of a request: the quota it is worth is a whole number; with tokens on display,
the tokens are a whole number of units. -/
def PaysForQuota (cfg : Config) (settings : PaymentSettings) (amount : Int) : Prop :=
  if settings.tokens then 0 ≤ amount ∧ ∃ units : Int, (units : Rat) = amount / cfg.quotaPerUnit
  else cfg.quotaPerUnit ≠ 0 ∧ 0 ≤ amount * cfg.quotaPerUnit ∧
    ∃ quota : Int, (quota : Rat) = amount * cfg.quotaPerUnit

variable {perUnit : Rat} {amount : Int}

theorem credit_of_units (asked : amount ≠ 0) : (amount : Rat) = (max 0 (intPart (amount * perUnit)) : Int) / perUnit ↔
      perUnit ≠ 0 ∧ 0 ≤ amount * perUnit ∧ ∃ quota : Int, (quota : Rat) = amount * perUnit := by
  rw [max_intPart]
  by_cases zero : perUnit = 0
  · simp [zero, asked]
  rw [eq_div_iff zero]
  constructor
  · intro paid
    have lower : (0 : Rat) ≤ (max 0 (amount * perUnit).floor : Int) := by exact_mod_cast le_max_left _ _
    exact ⟨zero, paid ▸ lower, _, paid.symm⟩
  · rintro ⟨-, nonneg, quota, whole⟩
    rw [← whole] at nonneg ⊢
    rw [Rat.floor_intCast, max_eq_right (by exact_mod_cast nonneg)]

/-- Whole units of a quota are worth no more than the quota. -/
theorem wholeUnits_le (divides : perUnit ≠ 0) {amount : Rat} (nonneg : 0 ≤ amount) :
    (intPart (amount / perUnit) : Rat) * perUnit ≤ amount := by
  have back : amount / perUnit * perUnit = amount := div_mul_cancel₀ amount divides
  rcases lt_or_gt_of_ne divides with negative | positive
  · have low : amount / perUnit ≤ 0 := div_nonpos_of_nonneg_of_nonpos nonneg negative.le
    have above : amount / perUnit ≤ intPart (amount / perUnit) := by
      have flipped := Rat.floor_le (-(amount / perUnit))
      rw [← intPart_eq_floor (neg_nonneg.mpr low), intPart_neg] at flipped
      push_cast at flipped
      linarith
    calc (intPart (amount / perUnit) : Rat) * perUnit
        ≤ amount / perUnit * perUnit := mul_le_mul_of_nonpos_right above negative.le
      _ = amount := back
  · have high : 0 ≤ amount / perUnit := div_nonneg nonneg positive.le
    calc (intPart (amount / perUnit) : Rat) * perUnit
        ≤ amount / perUnit * perUnit := by
          rw [intPart_eq_floor high]
          exact mul_le_mul_of_nonneg_right (Rat.floor_le _) positive.le
      _ = amount := back

theorem credit_of_tokens (divides : perUnit ≠ 0) (asked : amount ≠ 0) : (amount : Rat) / perUnit =
        (max 0 (intPart (intPart (amount / perUnit) * perUnit)) : Int) / perUnit ↔
      0 ≤ amount ∧ ∃ units : Int, (units : Rat) = amount / perUnit := by
  rw [div_left_inj' divides, Int.cast_inj, max_intPart]
  constructor
  · intro paid
    have positive : 0 < amount := by omega
    have worth : ((intPart (amount / perUnit) : Rat) * perUnit).floor = amount := by omega
    have nonneg : (0 : Rat) ≤ amount := by exact_mod_cast positive.le
    have exact_ : (intPart (amount / perUnit) : Rat) * perUnit = amount :=
      le_antisymm (wholeUnits_le divides nonneg) (floor_eq_iff.mp worth).1
    exact ⟨positive.le, _, (eq_div_iff divides).mpr exact_⟩
  · rintro ⟨nonneg, units, whole⟩
    have worth : (units : Rat) * perUnit = amount := (eq_div_iff divides).mp whole
    rw [← whole, intPart_intCast, worth, Rat.floor_intCast, max_eq_right nonneg]

/-- **When the money of an Epay order is the price of what it is credited.** -/
theorem epay_paidFor_iff {cfg : Config} {settings : PaymentSettings} {call : PaymentCall} {amount : Int}
    {method group : String} {topUp : TopUp} (member : call.group = some group)
    (created : requestEpay cfg settings call amount method = .ok topUp) {s : Store} {user : User}
    (stored : s.findTopUp topUp.tradeNo = some topUp) (known : s.users topUp.userId = some user)
    (process : Nat) (type : String) : topUp.money = unitPrice settings group amount *
        (creditedBy (epayNotify cfg process topUp.tradeNo type) s topUp.userId / cfg.quotaPerUnit) ↔
      PaysForQuota cfg settings amount := by
  obtain ⟨group', money, units, number, member', priced, enough, converted, numbered, rfl⟩ := requestEpay_ok created
  rw [member, Option.some.injEq] at member'
  subst member'
  have order : Pending s (newTopUp call units money number method .epay) user := ⟨stored, rfl, numbered, known⟩
  have credited : creditedBy (epayNotify cfg process number type) s call.id = max 0 (quotaOfUnits cfg units) := by
    have wallet : walletOf ((epayNotify cfg process number type).solo s).2 call.id =
      some (user.quota + max 0 (quotaOfUnits cfg units)) := epayNotify_wallet order rfl process type
    have before : walletOf s call.id = some user.quota := order.wallet
    rw [creditedBy, wallet, before]
    simp
  obtain ⟨wanted, requested, priced⟩ := bind_eq_ok.mp priced
  have total : money = wanted * unitPrice settings group amount := by
    cases priced
    unfold unitPrice
    ring
  have rate : unitPrice settings group amount ≠ 0 := by
    intro free
    rw [free, mul_zero] at total
    linarith
  have asked : amount ≠ 0 := by
    rintro rfl
    have none_ : wanted = 0 := by
      unfold requestedUnits divDecimal at requested
      split at requested
      · split at requested
        · cases requested
        · cases requested
          simp
      · cases requested
        simp
    rw [none_, zero_mul] at total
    linarith
  have scaled : money = unitPrice settings group amount * ((max 0 (quotaOfUnits cfg units) : Int) / cfg.quotaPerUnit) ↔
      wanted = (max 0 (quotaOfUnits cfg units) : Int) / cfg.quotaPerUnit := by
    rw [total, mul_comm wanted]
    exact mul_right_inj' rate
  simp only [newTopUp, credited]
  rw [scaled]
  unfold PaysForQuota quotaOfUnits
  unfold requestedUnits at requested
  unfold epayAmount at converted
  by_cases tokens : settings.tokens
  · rw [if_pos tokens] at requested converted ⊢
    by_cases divides : cfg.quotaPerUnit = 0
    · simp [divDecimal, divides] at requested
    · simp only [divDecimal, if_neg divides] at requested converted
      cases requested
      cases converted
      exact credit_of_tokens divides asked
  · rw [if_neg tokens] at requested converted ⊢
    cases requested
    cases converted
    exact credit_of_units asked

/-- Two units for 14. -/
theorem epay_paidFor_two : epayTopUp.money = unitPrice shop "default" 2 *
      (creditedBy (epayNotify plainConfig 0 "USR7NOr10" "alipay") (ordered epayTopUp) 7 /
        plainConfig.quotaPerUnit) := by
  have created : requestEpay plainConfig shop customerCall 2 "alipay" = .ok epayTopUp := by decide +kernel
  have stored : (ordered epayTopUp).findTopUp epayTopUp.tradeNo = some epayTopUp := by decide
  have known : (ordered epayTopUp).users epayTopUp.userId = some customer := by decide
  refine (epay_paidFor_iff rfl created stored known 0 "alipay").mpr ?_
  exact ⟨by decide +kernel, by decide +kernel, 1000000, by decide +kernel⟩

def tokenShop : PaymentSettings := { shop with quotaDisplayType := .tokens }

def tokenTopUp : TopUp := newTopUp customerCall 1 (21 / 2) "USR7NOr10" "alipay" .epay

/-- One unit and a half is paid, one is credited. -/
theorem tokens_not_paidFor : requestEpay plainConfig tokenShop customerCall 750000 "alipay" = .ok tokenTopUp ∧
      creditedBy (epayNotify plainConfig 0 "USR7NOr10" "alipay") (ordered tokenTopUp) 7 = 500000 ∧
      tokenTopUp.money ≠ unitPrice tokenShop "default" 750000 * (500000 / plainConfig.quotaPerUnit) := by
  refine ⟨by decide +kernel, by decide +kernel, by decide +kernel⟩

end NewApi.Payment
