/-
# Model.TopUpRequest — the handlers that create top-up orders

`controller/topup.go`, `topup_stripe.go`, `topup_creem.go`, `topup_waffo.go` and
`topup_waffo_pancake.go`: the checks of a payment request and the order it inserts.  Prices, ratios
and float64 amounts are exact rationals.  What the provider answers is an input; that an order whose
payment could not be started is marked as failed is not modelled here.
-/
import NewApi.Theory.Decimal
import NewApi.Model.Store

namespace NewApi.Model
open Theory

inductive QuotaDisplayType where
  | usd | cny | tokens | custom
deriving DecidableEq

structure CreemProduct where
  productId : String
  price : Rat
  quota : Int
deriving DecidableEq

/-- The payment settings the handlers read. -/
structure PaymentSettings where
  quotaDisplayType : QuotaDisplayType
  topupGroupRatio : String → Option Rat
  amountDiscount : Int → Option Rat
  price : Rat
  minTopUp : Int
  payMethods : List String
  stripeMinTopUp : Int
  /-- `none` when the setting does not parse -/
  creemProducts : Option (List CreemProduct)
  waffoEnabled : Bool
  waffoUnitPrice : Rat
  waffoMinTopUp : Int
  /-- type and name of each payment method -/
  waffoPayMethods : List (String × String)
  waffoPancakeEnabled : Bool
  waffoPancakeUnitPrice : Rat
  waffoPancakeMinTopUp : Int

/-- Who asks, and what the handler gets from outside while it runs. -/
structure PaymentCall where
  id : Int
  /-- `GetUserById`, `GetUserGroup`; `none` is an error -/
  user : Option User
  group : Option String
  now : Int
  nowMilli : Int
  random : String
  sha1 : String → String
  /-- whether the provider's client could be made, and has started the payment -/
  hasClient : Bool
  started : Bool
  /-- whether the addresses to return to are empty or trusted -/
  trustedSuccessURL : Bool
  trustedCancelURL : Bool

section
variable (cfg : Config) (settings : PaymentSettings)

def PaymentSettings.tokens : Bool := settings.quotaDisplayType = .tokens

/-- `GetTopupGroupRatio`, where a ratio of 0 counts as 1. -/
def PaymentSettings.ratio (group : String) : Rat :=
  let ratio := (settings.topupGroupRatio group).getD 1
  if ratio = 0 then 1 else ratio

variable (amount : Int)

/-- The discount set for the requested amount. -/
def PaymentSettings.discount : Rat :=
  match settings.amountDiscount amount with
  | some discount => if discount > 0 then discount else 1
  | none => 1

/-- `decimal.Div` panics on a zero divisor. -/
def divDecimal (x y : Rat) : Except String Rat := if y = 0 then .error "decimal division by 0" else .ok (x / y)

/-- The requested amount in units; with tokens on display it is in tokens. -/
def requestedUnits : Except String Rat :=
  if settings.tokens then divDecimal amount cfg.quotaPerUnit else .ok amount

def getPayMoney (group : String) : Except String Rat := do
  let units ← requestedUnits cfg settings amount
  .ok (units * settings.price * settings.ratio group * settings.discount amount)

def epayAmount : Except String Int := do
  if settings.tokens then .ok (Decimal.intPart (← divDecimal amount cfg.quotaPerUnit))
  else .ok amount

def getMinTopup : Int :=
  if settings.tokens then Decimal.intPart (settings.minTopUp * cfg.quotaPerUnit) else settings.minTopUp

def getStripeMinTopup : Int :=
  if settings.tokens then settings.stripeMinTopUp * Decimal.intPart cfg.quotaPerUnit
  else settings.stripeMinTopUp

/-- In `float64`, so without a panic. -/
def getWaffoPayMoney (group : String) : Rat :=
  let units : Rat := if settings.tokens then amount / cfg.quotaPerUnit else amount
  units * settings.waffoUnitPrice * settings.ratio group * settings.discount amount

def getWaffoPancakePayMoney (group : String) : Except String Rat := do
  let units ← requestedUnits cfg settings amount
  .ok (units * settings.waffoPancakeUnitPrice * settings.ratio group * settings.discount amount)

def normalizeWaffoPancakeTopUpAmount : Except String Int := do
  if settings.tokens then
    let normalized := Decimal.intPart (← divDecimal amount cfg.quotaPerUnit)
    .ok (if normalized < 1 then 1 else normalized)
  else .ok amount

end

def tooSmall (least : Int) : String := "充值数量不能小于 " ++ toString least

variable (cfg : Config) (settings : PaymentSettings) (call : PaymentCall) (amount : Int)

def newTopUp (money : Rat) (tradeNo paymentMethod : String) (paymentProvider : PaymentProvider) : TopUp :=
  { userId := call.id, amount, money, tradeNo, paymentMethod, paymentProvider
    createTime := call.now, completeTime := 0, status := .pending }

def requestEpay (paymentMethod : String) : Except String TopUp := do
  if amount < getMinTopup cfg settings then throw (tooSmall (getMinTopup cfg settings))
  else match call.group with
  | none => throw "获取用户分组失败"
  | some group => do
      let payMoney ← getPayMoney cfg settings amount group
      if payMoney < 1 / 100 then throw "充值金额过低"
      else if paymentMethod ∉ settings.payMethods then throw "支付方式不存在"
      else if !call.hasClient then throw "当前管理员未配置支付信息"
      else if !call.started then throw "拉起支付失败"
      else do
        let units ← epayAmount cfg settings amount
        let tradeNo := "USR" ++ toString call.id ++ "NO" ++ call.random ++ toString call.now
        .ok (newTopUp call units payMoney tradeNo paymentMethod .epay)

/-- The reference under which Stripe and Creem know the order. -/
def PaymentCall.reference (source : String) : String :=
  "ref_" ++ call.sha1 (source ++ toString call.id ++ "-" ++ toString call.nowMilli ++ "-" ++ call.random)

/-- `RequestPay` of the Stripe adaptor; without a user it panics. -/
def requestStripePay (paymentMethod : String) : Except String TopUp :=
  if paymentMethod ≠ "stripe" then throw "不支持的支付渠道"
  else if amount < getStripeMinTopup cfg settings then
    throw (tooSmall (getStripeMinTopup cfg settings))
  else if amount > 10000 then throw "充值数量不能大于 10000"
  else if !call.trustedSuccessURL then throw "支付成功重定向URL不在可信任域名列表中"
  else if !call.trustedCancelURL then throw "支付取消重定向URL不在可信任域名列表中"
  else match call.user with
  | none => throw "invalid memory address or nil pointer dereference"
  | some user =>
    let chargedMoney := amount * settings.ratio user.group
    if !call.started then throw "拉起支付失败"
    else .ok (newTopUp call amount chargedMoney (call.reference "new-api-ref-") "stripe" .stripe)

/-- `RequestPay` of the Creem adaptor; without a user it panics. -/
def requestCreemPay (productId paymentMethod : String) : Except String TopUp :=
  if paymentMethod ≠ "creem" then throw "不支持的支付渠道"
  else if productId = "" then throw "请选择产品"
  else match settings.creemProducts with
  | none => throw "产品配置错误"
  | some products =>
    match products.find? (·.productId = productId) with
    | none => throw "产品不存在"
    | some product =>
      if call.user.isNone then throw "invalid memory address or nil pointer dereference"
      else .ok (newTopUp call product.quota product.price (call.reference "creem-api-ref-") "creem" .creem)

/-- How a Waffo request names its payment method: by index, by the old fields, or not at all. -/
structure WaffoPayRequest where
  amount : Int
  payMethodIndex : Option Int
  payMethodType : String
  payMethodName : String
deriving DecidableEq

/-- Whether the payment method is one of the server's. -/
def WaffoPayRequest.supported (req : WaffoPayRequest) (methods : List (String × String)) : Bool :=
  match req.payMethodIndex with
  | some idx => 0 ≤ idx ∧ idx < methods.length
  | none => req.payMethodType = "" ∨ (req.payMethodType, req.payMethodName) ∈ methods

/-- The amount of a Waffo order, in units; in `float64`. -/
def waffoAmount (amount : Int) : Int :=
  if settings.tokens then
    let units := Decimal.intPart (amount / cfg.quotaPerUnit)
    if units < 1 then 1 else units
  else amount

def requestWaffoPay (req : WaffoPayRequest) : Except String TopUp :=
  if !settings.waffoEnabled then throw "Waffo 支付未启用"
  else if req.amount < settings.waffoMinTopUp then throw (tooSmall settings.waffoMinTopUp)
  else if call.user.isNone then throw "用户不存在"
  else if !req.supported settings.waffoPayMethods then throw "不支持的支付方式"
  else
    -- The error of GetUserGroup is not looked at.
    let payMoney := getWaffoPayMoney cfg settings req.amount (call.group.getD "")
    if payMoney < 1 / 100 then throw "充值金额过低"
    else
      let merchantOrderId := "WAFFO-" ++ toString call.id ++ "-" ++ toString call.nowMilli ++ "-" ++
        call.random
      .ok (newTopUp call (waffoAmount cfg settings req.amount) payMoney merchantOrderId "waffo" .waffo)

def requestWaffoPancakePay (amount : Int) : Except String TopUp := do
  if !settings.waffoPancakeEnabled then throw "Waffo Pancake 配置不完整"
  else if amount < settings.waffoPancakeMinTopUp then throw (tooSmall settings.waffoPancakeMinTopUp)
  else if call.user.isNone then throw "用户不存在"
  else match call.group with
  | none => throw "获取用户分组失败"
  | some group => do
      let payMoney ← getWaffoPancakePayMoney cfg settings amount group
      if payMoney < 1 / 100 then throw "充值金额过低"
      else do
        let normalized ← normalizeWaffoPancakeTopUpAmount cfg settings amount
        let tradeNo := "WAFFO_PANCAKE-" ++ toString call.id ++ "-" ++ toString call.nowMilli ++ "-" ++
          call.random
        .ok (newTopUp call normalized payMoney tradeNo "waffo_pancake" .waffoPancake)

inductive PaymentRequest where
  | epay (amount : Int) (paymentMethod : String)
  | stripe (amount : Int) (paymentMethod : String)
  | creem (productId paymentMethod : String)
  | waffo (req : WaffoPayRequest)
  | waffoPancake (amount : Int)
deriving DecidableEq

/-- The order the handler of the request inserts. -/
def PaymentRequest.order : PaymentRequest → Except String TopUp
  | .epay amount paymentMethod => requestEpay cfg settings call amount paymentMethod
  | .stripe amount paymentMethod => requestStripePay cfg settings call amount paymentMethod
  | .creem productId paymentMethod => requestCreemPay settings call productId paymentMethod
  | .waffo req => requestWaffoPay cfg settings call req
  | .waffoPancake amount => requestWaffoPancakePay cfg settings call amount

end NewApi.Model
