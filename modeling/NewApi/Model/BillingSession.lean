/-
# Model.BillingSession — one request's pre-consumption, settlement and refund

`service/billing_session.go`, with `PreConsumeTokenQuota` and `PostConsumeQuota` of
`service/quota.go` and `SettleBilling` of `service/billing.go`.

Every method returns the changed session, with the relay information it shares with its request.
Roll-backs are `Program.undo`, the refund goroutine is `Program.go`.  Log lines and notifications
are left out.
-/
import NewApi.Model.FundingSource

namespace NewApi.Model
open Theory Theory.Text Program

/-- The `types.ErrorCode`s billing answers with. -/
inductive ErrorCode where
  | insufficientUserQuota | preConsumeTokenQuotaFailed | updateDataError | queryDataError
deriving DecidableEq

structure ApiError where
  code : ErrorCode
  message : String
  statusCode : Nat
deriving DecidableEq

/-- `types.NewError`: status 500. -/
def newError (message : String) (code : ErrorCode) : ApiError := ⟨code, message, 500⟩

/-- `types.NewErrorWithStatusCode(…, http.StatusForbidden)`. -/
def newForbidden (message : String) (code : ErrorCode) : ApiError := ⟨code, message, 403⟩

/-- `UserSetting.BillingPreference`, normalised. -/
inductive BillingPreference where
  | subscriptionFirst | walletFirst | subscriptionOnly | walletOnly
deriving DecidableEq

def normalizeBillingPreference (pref : String) : BillingPreference :=
  match trimSpace pref with
  | "subscription_first" => .subscriptionFirst
  | "wallet_first" => .walletFirst
  | "subscription_only" => .subscriptionOnly
  | "wallet_only" => .walletOnly
  | _ => .subscriptionFirst

/-- What billing reads and writes of `relaycommon.RelayInfo`. -/
structure RelayInfo where
  userId : Int
  tokenId : Int
  tokenKey : String
  tokenUnlimited : Bool
  isPlayground : Bool
  forcePreConsume : Bool
  requestId : String
  billingPreference : String
  userQuota : Int
  finalPreConsumedQuota : Int
  billingSource : BillingSource
  subscriptionId : Int
  subscriptionPreConsumed : Int
  subscriptionPostDelta : Int
  subscriptionAmountTotal : Int
  subscriptionAmountUsedAfterPreConsume : Int
  subscriptionPlanId : Int
  subscriptionPlanTitle : String
deriving DecidableEq

/-- What a request brings along: `token_quota` of the gin context, the clock of the
process and that of the database. -/
structure RequestContext where
  tokenQuota : Int
  now : Int
  dbNow : Int
deriving DecidableEq

variable (cfg : Config)

def errTokenQuota (remain quota : Int) : String :=
  "token quota is not enough, token remain quota: " ++ cfg.formatQuota remain ++
    ", need quota: " ++ cfg.formatQuota quota

def preConsumeTokenQuota (relayInfo : RelayInfo) (quota : Int) : Program Store (Except String Unit) :=
  if quota < 0 then .done (.error errNegativeQuota)
  else if relayInfo.isPlayground then .done (.ok ())
  else do
    match ← store (getTokenByKey relayInfo.tokenKey false) with
    | .error e => .done (.error e)
    | .ok token =>
      if !relayInfo.tokenUnlimited ∧ token.remainQuota < quota then
        .done (.error (errTokenQuota cfg token.remainQuota quota))
      else store (decreaseTokenQuota cfg relayInfo.tokenId quota)

/-- Charge `delta` to the token, or give `-delta` back; a playground request has none. -/
def adjustTokenQuota (relayInfo : RelayInfo) (delta : Int) : Program Store (Except String Unit) :=
  if relayInfo.isPlayground then .done (.ok ())
  else if delta > 0 then store (decreaseTokenQuota cfg relayInfo.tokenId delta)
  else store (increaseTokenQuota cfg relayInfo.tokenId (-delta))

/-! ## The session -/

structure BillingSession where
  relayInfo : RelayInfo
  funding : FundingSource
  preConsumedQuota : Int
  tokenConsumed : Int
  extraReserved : Int
  trusted : Bool
  fundingSettled : Bool
  settled : Bool
  refunded : Bool
deriving DecidableEq

namespace BillingSession

def fresh (relayInfo : RelayInfo) (funding : FundingSource) : BillingSession :=
  ⟨relayInfo, funding, 0, 0, 0, false, false, false, false⟩

def shouldTrust (cfg : Config) (ctx : RequestContext) (session : BillingSession) : Bool :=
  let info := session.relayInfo
  let trustQuota := getTrustQuota cfg
  if info.forcePreConsume then false
  else if trustQuota ≤ 0 then false
  else if !(info.tokenUnlimited || decide (ctx.tokenQuota > trustQuota)) then false
  else
    match session.funding with
    | .wallet _ => info.userQuota > trustQuota
    | .subscription _ => false

def syncRelayInfo (session : BillingSession) : BillingSession :=
  let info := { session.relayInfo with
    finalPreConsumedQuota := session.preConsumedQuota
    billingSource := session.funding.source }
  match session.funding with
  | .subscription sub =>
    { session with relayInfo := { info with
        subscriptionId := sub.subscriptionId
        subscriptionPreConsumed := sub.preConsumed + session.extraReserved
        subscriptionPostDelta := 0
        subscriptionAmountTotal := sub.amountTotal
        subscriptionAmountUsedAfterPreConsume := sub.amountUsedAfter + session.extraReserved
        subscriptionPlanId := sub.planId
        subscriptionPlanTitle := sub.planTitle } }
  | .wallet _ =>
    { session with relayInfo := { info with subscriptionId := 0, subscriptionPreConsumed := 0 } }

def errSubscription (e : String) : ApiError := newForbidden ("订阅额度不足或未配置订阅: " ++ e) .insufficientUserQuota

/-- What `preConsume` answers when the funding source refuses with `e`. -/
def fundingError (e : String) : ApiError :=
  if contains e "no active subscription" || contains e "subscription quota insufficient" then
    errSubscription e
  else newError e .updateDataError

variable (cfg : Config) (fuel : Nat) (ctx : RequestContext)

/-- Step 1 of `preConsume`. -/
def takeToken (effectiveQuota : Int) (session : BillingSession) : Program Store (Except String BillingSession) :=
  if effectiveQuota > 0 then do
    match ← preConsumeTokenQuota cfg session.relayInfo effectiveQuota with
    | .error e => .done (.error e)
    | .ok () => .done (.ok { session with tokenConsumed := effectiveQuota })
  else .done (.ok session)

/-- The roll-back of step 1. -/
def rollbackToken (session : BillingSession) : Program Store Unit :=
  if session.tokenConsumed > 0 ∧ !session.relayInfo.isPlayground then do
    let _ ← undo (increaseTokenQuota cfg session.relayInfo.tokenId session.tokenConsumed)
    .done ()
  else .done ()

/-- Step 2 of `preConsume`; when the funding source refuses, step 1 is undone. -/
def takeFunding (effectiveQuota : Int) (session : BillingSession) : Program Store (Except ApiError BillingSession) := do
  match ← session.funding.preConsume cfg fuel ctx.dbNow effectiveQuota with
  | .error e => do
      session.rollbackToken cfg
      .done (.error (fundingError e))
  | .ok funding =>
    .done (.ok { session with funding, preConsumedQuota := effectiveQuota }.syncRelayInfo)

/-- `preConsume`: trust check, token, funding source. -/
def preConsume (quota : Int) (session : BillingSession) : Program Store (Except ApiError BillingSession) := do
  let trusted := session.shouldTrust cfg ctx
  let effectiveQuota := if trusted then 0 else quota
  match ← takeToken cfg effectiveQuota { session with trusted } with
  | .error e => .done (.error (newForbidden e .preConsumeTokenQuotaFailed))
  | .ok session => session.takeFunding cfg fuel ctx effectiveQuota

def reserveFunding (delta : Int) (session : BillingSession) : Program Store (Except ApiError FundingSource) :=
  match session.funding with
  | .wallet funding => do
      match ← store (decreaseUserQuota cfg funding.userId delta false) with
      | .error e => .done (.error (newError e .updateDataError))
      | .ok () => .done (.ok (.wallet { funding with consumed := funding.consumed + delta }))
  | .subscription funding => do
      match ← store (postConsumeUserSubscriptionDelta
          (.posted funding.subscriptionId delta) funding.subscriptionId delta) with
      | .error e => .done (.error (errSubscription e))
      | .ok () => .done (.ok (.subscription funding))

def rollbackFundingReserve (delta : Int) (session : BillingSession) : Program Store FundingSource :=
  match session.funding with
  | .wallet funding => do
      match ← undo (increaseUserQuota cfg funding.userId delta false) with
      | .error _ => .done (.wallet funding)
      | .ok () => .done (.wallet { funding with consumed := funding.consumed - delta })
  | .subscription funding => do
      let _ ← undo (postConsumeUserSubscriptionDelta
        (.posted funding.subscriptionId (-delta)) funding.subscriptionId (-delta))
      .done (.subscription funding)

def reserveToken (delta : Int) (session : BillingSession) : Program Store (Except ApiError Unit) :=
  if delta ≤ 0 ∨ session.relayInfo.isPlayground then .done (.ok ())
  else do
    match ← preConsumeTokenQuota cfg session.relayInfo delta with
    | .error e => .done (.error (newForbidden e .preConsumeTokenQuotaFailed))
    | .ok () => .done (.ok ())

def reserve (targetQuota : Int) (session : BillingSession) : Program Store (Except ApiError Unit × BillingSession) :=
  if session.settled ∨ session.refunded ∨ session.trusted ∨
      targetQuota ≤ session.preConsumedQuota then .done (.ok (), session)
  else do
    let delta := targetQuota - session.preConsumedQuota
    match ← session.reserveFunding cfg delta with
    | .error e => .done (.error e, session)
    | .ok funding =>
      let held := { session with funding }
      match ← held.reserveToken cfg delta with
      | .error e => do
          let funding ← held.rollbackFundingReserve cfg delta
          .done (.error e, { held with funding })
      | .ok () =>
        .done (.ok (), { held with
          preConsumedQuota := held.preConsumedQuota + delta
          tokenConsumed := held.tokenConsumed + delta
          extraReserved := held.extraReserved + delta }.syncRelayInfo)

/-! ### Settle and Refund -/

/-- Step 1 of `Settle`, skipped when an earlier call has done it. -/
def settleFunding (delta : Int) (session : BillingSession) : Program Store (Except String Unit) :=
  if session.fundingSettled then .done (.ok ()) else session.funding.settle cfg delta

/-- Step 3 of `Settle`. -/
def addPostDelta (delta : Int) (session : BillingSession) : BillingSession :=
  match session.funding with
  | .wallet _ => session
  | .subscription _ => { session with relayInfo := { session.relayInfo with
      subscriptionPostDelta := session.relayInfo.subscriptionPostDelta + delta } }

def settle (actualQuota : Int) (session : BillingSession) : Program Store (Except String Unit × BillingSession) :=
  if session.settled then .done (.ok (), session)
  else
    let delta := actualQuota - session.preConsumedQuota
    if delta = 0 then .done (.ok (), { session with settled := true })
    else do
      match ← session.settleFunding cfg delta with
      | .error e => .done (.error e, session)
      | .ok () =>
        let tokenErr ← adjustTokenQuota cfg session.relayInfo delta
        .done (tokenErr, { session.addPostDelta delta with fundingSettled := true, settled := true })

/-- `needsRefundLocked`. -/
def needsRefund (session : BillingSession) : Bool :=
  if session.settled || session.refunded || session.fundingSettled then false
  else if session.tokenConsumed > 0 then true
  else
    match session.funding with
    | .wallet _ => false
    | .subscription sub => sub.preConsumed > 0

/-- The part of the refund goroutine that is a subscription's alone. -/
def refundExtra (session : BillingSession) : Program Store Unit :=
  match session.funding with
  | .wallet _ => .done ()
  | .subscription _ =>
    if session.extraReserved > 0 ∧ session.relayInfo.subscriptionId > 0 then do
      let _ ← store (postConsumeUserSubscriptionDelta
        (.posted session.relayInfo.subscriptionId (-session.extraReserved))
        session.relayInfo.subscriptionId (-session.extraReserved))
      .done ()
    else .done ()

def refundToken (session : BillingSession) : Program Store Unit :=
  if session.tokenConsumed > 0 ∧ !session.relayInfo.isPlayground then do
    let _ ← store
      (increaseTokenQuota cfg session.relayInfo.tokenId session.tokenConsumed)
    .done ()
  else .done ()

/-- The goroutine `Refund` starts; its errors are only logged. -/
def refundTask (session : BillingSession) : Program Store Unit := do
  let _ ← session.funding.refund cfg
  session.refundExtra
  session.refundToken cfg

def refund (session : BillingSession) : Program Store BillingSession :=
  if session.settled || session.refunded || !session.needsRefund then .done session
  else do
    go (session.refundTask cfg)
    .done { session with refunded := true }

end BillingSession

/-! ## The factory -/

def hasActiveUserSubscription (userId now : Int) : Db Bool :=
  if userId ≤ 0 then Sql.throw "invalid userId"
  else Sql.read fun s => .ok (s.subs.any fun sub => sub.userId = userId ∧ sub.ActiveAt now)

section
variable (cfg : Config) (fuel : Nat) (ctx : RequestContext) (relayInfo : RelayInfo)
  (preConsumedQuota : Int)

/-- `tryWallet`.  The source notes the user's quota in the relay information also when the
attempt fails afterwards; only the wallet's own trust check reads it. -/
def tryWallet : Program Store (Except ApiError BillingSession) := do
  match ← store (getUserQuota relayInfo.userId false) with
  | .error e => .done (.error (newError e .queryDataError))
  | .ok userQuota =>
    if userQuota ≤ 0 then
      .done (.error (newForbidden ("用户额度不足, 剩余额度: " ++ cfg.formatQuota userQuota) .insufficientUserQuota))
    else if userQuota - preConsumedQuota < 0 then
      .done (.error (newForbidden ("预扣费额度失败, 用户剩余额度: " ++ cfg.formatQuota userQuota ++
        ", 需要预扣费额度: " ++ cfg.formatQuota preConsumedQuota) .insufficientUserQuota))
    else
      (BillingSession.fresh { relayInfo with userQuota } (.wallet ⟨relayInfo.userId, 0⟩)).preConsume
        cfg fuel ctx preConsumedQuota

/-- `subConsume`: a subscription pre-consumes at least one. -/
def subConsume : Int := if preConsumedQuota ≤ 0 then 1 else preConsumedQuota

def trySubscription : Program Store (Except ApiError BillingSession) :=
  (BillingSession.fresh relayInfo (.subscription
    ⟨relayInfo.requestId, relayInfo.userId, subConsume preConsumedQuota, 0, 0, 0, 0, 0, ""⟩)).preConsume
    cfg fuel ctx (subConsume preConsumedQuota)

/-- `attempt`, and `fallback` when it fails for lack of quota. -/
def orElseInsufficient (attempt fallback : Program Store (Except ApiError BillingSession)) :
    Program Store (Except ApiError BillingSession) := do
  match ← attempt with
  | .ok session => .done (.ok session)
  | .error e => if e.code = .insufficientUserQuota then fallback else .done (.error e)

/-- `NewBillingSession`.  It is irreducible for the elaborator's sake: nothing is gained by
running a whole factory to see whether a statement about it is an implication. -/
@[irreducible] def newBillingSession : Program Store (Except ApiError BillingSession) :=
  let wallet := tryWallet cfg fuel ctx relayInfo preConsumedQuota
  let subscription := trySubscription cfg fuel ctx relayInfo preConsumedQuota
  match normalizeBillingPreference relayInfo.billingPreference with
  | .subscriptionOnly => subscription
  | .walletOnly => wallet
  | .walletFirst => orElseInsufficient wallet subscription
  | .subscriptionFirst => do
      match ← store (hasActiveUserSubscription relayInfo.userId ctx.now) with
      | .error e => .done (.error (newError e .queryDataError))
      | .ok hasSub =>
        if !hasSub then wallet
        else orElseInsufficient subscription wallet

end

def postConsumeFunding (relayInfo : RelayInfo) (quota : Int) : Program Store (Except String RelayInfo) :=
  if relayInfo.billingSource = .subscription then
    if relayInfo.subscriptionId = 0 then .done (.error "subscription id is missing")
    else if quota = 0 then .done (.ok relayInfo)
    else do
      match ← store (postConsumeUserSubscriptionDelta
          (.posted relayInfo.subscriptionId quota) relayInfo.subscriptionId quota) with
      | .error e => .done (.error e)
      | .ok () => .done (.ok { relayInfo with
          subscriptionPostDelta := relayInfo.subscriptionPostDelta + quota })
  else do
    let charged ← if quota > 0 then store (decreaseUserQuota cfg relayInfo.userId quota false)
      else store (increaseUserQuota cfg relayInfo.userId (-quota) false)
    .done (charged.map fun _ => relayInfo)

def postConsumeQuota (relayInfo : RelayInfo) (quota : Int) :
    Program Store (Except String Unit × RelayInfo) := do
  match ← postConsumeFunding cfg relayInfo quota with
  | .error e => .done (.error e, relayInfo)
  | .ok relayInfo => do
      let adjusted ← adjustTokenQuota cfg relayInfo quota
      .done (adjusted, relayInfo)

/-- The relay information of a request together with `relayInfo.Billing`: a request for a
free model has no session. -/
inductive Billed where
  | free (relayInfo : RelayInfo)
  | opened (session : BillingSession)
deriving DecidableEq

namespace Billed

def relayInfo : Billed → RelayInfo
  | .free relayInfo => relayInfo
  | .opened session => session.relayInfo

/-- The shared relay information has changed. -/
def withInfo (relayInfo : RelayInfo) : Billed → Billed
  | .free _ => .free relayInfo
  | .opened session => .opened { session with relayInfo }

end Billed

def settleBilling (actualQuota : Int) : Billed → Program Store (Except String Unit × Billed)
  | .opened session => do
      let (settled, session) ← session.settle cfg actualQuota
      .done (settled, .opened session)
  | .free relayInfo =>
    let quotaDelta := actualQuota - relayInfo.finalPreConsumedQuota
    if quotaDelta ≠ 0 then do
      let (charged, relayInfo) ← postConsumeQuota cfg relayInfo quotaDelta
      .done (charged, .free relayInfo)
    else .done (.ok (), .free relayInfo)

end NewApi.Model
