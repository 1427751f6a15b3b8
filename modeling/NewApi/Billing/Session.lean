/-
# Billing.Session — a billing session meets its contract: opening

`taken info account f t` is the ledger of a session that has taken `f` from its funding account and
`t` from its token.  `Position` ties the open session to its ledger: the amounts the session object
keeps are all the one amount that was taken.  The exception is `slack`: a wallet session that is not
trusted notes a negative pre-consumption without taking it.
-/
import NewApi.Billing.Ledger

namespace NewApi.Billing
open Theory Model Subscription BillingSession Int

/-! ## The ledger of a session -/

def taken (info : RelayInfo) (account : Account) (f t : Int) : Account → Int := fun a =>
  (if a = account then debit account f else 0) +
    if info.isPlayground then 0
    else (if a = .tokenRemain info.tokenId then -t else 0) +
      if a = .tokenUsed info.tokenId then t else 0

section
variable {info : RelayInfo} {account : Account} {f t : Int} {g : Ledger}

@[simp] theorem taken_zero (info : RelayInfo) (account : Account) : taken info account 0 0 = fun _ => 0 := by
  funext a
  simp [taken]

theorem taken_take (books : g.booked = taken info account f t) (amount : Int) :
    (g.take account amount).booked = taken info account (f + amount) t := by
  funext a
  simp only [Ledger.take, books, taken, debit_add]
  split <;> omega

theorem taken_takeToken (real : info.isPlayground = false) (books : g.booked = taken info account f t) (amount : Int) :
    (g.takeToken info.tokenId amount).booked = taken info account f (t + amount) := by
  funext a
  simp only [Ledger.takeToken, Ledger.take, books, taken, debit_tokenRemain, debit_tokenUsed, real]
  by_cases remain : a = .tokenRemain info.tokenId
  · subst remain
    simp only [reduceCtorEq, if_true, if_false]
    omega
  · by_cases used : a = .tokenUsed info.tokenId
    · subst used
      simp only [reduceCtorEq, if_true, if_false]
      omega
    · simp only [remain, used, if_false, add_zero]

theorem taken_playground (played : info.isPlayground = true) (f t t' : Int) :
    taken info account f t = taken info account f t' := by
  funext a
  simp [taken, played]

theorem taken_unfunded (account' : Account) (t : Int) : taken info account 0 t = taken info account' 0 t := by
  funext a
  simp [taken]

variable (info account) in
theorem eq_empty (unrecorded : g.record = none) (books : g.booked = taken info account 0 0) : g = .empty := by
  rw [taken_zero] at books
  cases g
  cases unrecorded
  cases books
  rfl

theorem taken_subscription {subId : Int} (f t : Int) :
    taken info (.subscription subId) f t (.subscription subId) = f := by
  simp [taken, debit]

end

structure SameRequest (info info' : RelayInfo) : Prop where
  userId : info'.userId = info.userId
  tokenId : info'.tokenId = info.tokenId
  isPlayground : info'.isPlayground = info.isPlayground

section
variable {cfg : Config} {info info' : RelayInfo} {account : Account} {f t : Int} {g : Ledger}

section
variable (same : SameRequest info info') (books : g.booked = taken info account f t)
include same books

theorem adjustTokenQuota_books (delta : Int) :
    (adjustTokenQuota cfg info' delta).Meets (bookSetting info) g fun outcome g' =>
      outcome = .ok () ∧ g'.record = g.record ∧ g'.booked = taken info account f (t + delta) := by
  unfold adjustTokenQuota
  rw [same.isPlayground, same.tokenId]
  split
  · rename_i played
    exact ⟨rfl, rfl, books.trans (taken_playground played f t _)⟩
  rename_i real
  rw [Bool.not_eq_true] at real
  split
  · refine (does_decreaseTokenQuota (by omega) real).store.mono ?_
    rintro _ _ ⟨rfl, rfl⟩
    exact ⟨rfl, rfl, taken_takeToken real books delta⟩
  · refine (does_increaseTokenQuota (by omega) real).store.mono ?_
    rintro _ _ ⟨rfl, rfl⟩
    rw [neg_neg]
    exact ⟨rfl, rfl, taken_takeToken real books delta⟩

theorem preConsumeTokenQuota_books (quota : Int) :
    (preConsumeTokenQuota cfg info' quota).Meets (bookSetting info) g fun outcome g' =>
      (∃ e, outcome = .error e ∧ g' = g) ∨ (outcome = .ok () ∧ g'.record = g.record ∧
          g'.booked = taken info account f (t + quota)) := by
  unfold preConsumeTokenQuota
  rw [same.isPlayground, same.tokenId]
  split
  · exact .inl ⟨_, rfl, rfl⟩
  split
  · rename_i played
    exact .inr ⟨rfl, rfl, books.trans (taken_playground played f t _)⟩
  rename_i real
  rw [Bool.not_eq_true] at real
  refine .bind (does_local (local_getTokenByKey _ _)).store ?_
  rintro token _ rfl
  cases token with
  | error e => exact .inl ⟨e, rfl, rfl⟩
  | ok token =>
    dsimp only
    split
    · exact .inl ⟨_, rfl, rfl⟩
    · refine (does_decreaseTokenQuota (by omega) real).store.mono ?_
      rintro _ _ ⟨rfl, rfl⟩
      exact .inr ⟨rfl, rfl, taken_takeToken real books quota⟩

end

variable {session : BillingSession}

/-- The roll-back of a token charge leaves an empty ledger. -/
theorem rollbackToken_books (same : SameRequest info session.relayInfo)
    (unrecorded : g.record = none) (nonneg : 0 ≤ session.tokenConsumed)
    (books : g.booked = taken info account 0 session.tokenConsumed) :
    (session.rollbackToken cfg).Meets (bookSetting info) g fun _ g' => g' = .empty := by
  unfold rollbackToken
  rw [same.isPlayground, same.tokenId]
  split
  · rename_i charged
    have real : info.isPlayground = false := by simpa using charged.2
    refine .bind (does_increaseTokenQuota nonneg real).undo ?_
    rintro _ _ ⟨rfl, rfl⟩
    refine eq_empty info account unrecorded ((taken_takeToken real books _).trans ?_)
    rw [Int.add_right_neg]
  · rename_i uncharged
    refine eq_empty info account unrecorded (books.trans ?_)
    cases played : info.isPlayground with
    | true => exact taken_playground played 0 _ 0
    | false =>
      have zero : session.tokenConsumed = 0 := by
        simp only [played, Bool.not_false, and_true] at uncharged
        omega
      rw [zero]

variable (account) in
theorem takeToken_books (same : SameRequest info session.relayInfo)
    (nothing : session.tokenConsumed = 0) (effectiveQuota : Int) :
    (session.takeToken cfg effectiveQuota).Meets (bookSetting info) .empty fun outcome g' =>
      (∃ e, outcome = .error e ∧ g' = .empty) ∨ ∃ session', outcome = .ok session' ∧
          session' = { session with tokenConsumed := max 0 effectiveQuota } ∧
          g'.record = none ∧ g'.booked = taken info account 0 (max 0 effectiveQuota) := by
  have start : Ledger.empty.booked = taken info account 0 0 := (taken_zero info account).symm
  unfold takeToken
  split
  · rename_i positive
    refine .bind (preConsumeTokenQuota_books same start effectiveQuota) ?_
    rintro outcome g' (⟨e, rfl, rfl⟩ | ⟨rfl, unrecorded, books⟩)
    · exact .inl ⟨e, rfl, rfl⟩
    · refine .inr ⟨_, rfl, ?_, unrecorded, books.trans ?_⟩
      · rw [max_eq_right (by omega)]
      · rw [max_eq_right (by omega), zero_add]
  · refine .inr ⟨_, rfl, ?_, rfl, start.trans ?_⟩
    · rw [max_eq_left (by omega), ← nothing]
    · rw [max_eq_left (by omega)]

end

def fundingAccount : FundingSource → Account
  | .wallet funding => .wallet funding.userId
  | .subscription funding => .subscription funding.subscriptionId

/-- The pre-consumption is one the session takes as it notes it. -/
def Fit (quota : Int) (session : BillingSession) : Prop :=
  0 ≤ quota ∨ session.trusted = true ∨ session.funding.source = .subscription

/-- The funding source of an open session that has taken `amount` from it. -/
inductive Funded (info : RelayInfo) (session : BillingSession) (amount : Int)
    (record : Option SubscriptionPreConsumeRecord) : Prop where
  | wallet (is : session.funding = .wallet ⟨info.userId, amount⟩)
  | subscription (funding : SubscriptionFunding) (is : session.funding = .subscription funding)
      (request : funding.requestId = info.requestId)
      (named : Text.trimSpace info.requestId ≠ "")
      (positive : 0 < funding.preConsumed) (extra : 0 ≤ session.extraReserved)
      (row : 0 < funding.subscriptionId)
      (linked : session.relayInfo.subscriptionId = funding.subscriptionId)
      (whole : amount = funding.preConsumed + session.extraReserved)
      (recorded : record = some ⟨info.requestId, info.userId, funding.subscriptionId, funding.preConsumed, .consumed⟩)

/-- An open session that has taken `amount`. -/
structure Position (info : RelayInfo) (quota amount slack : Int) (session : BillingSession)
    (g : Ledger) : Prop where
  request : SameRequest info session.relayInfo
  unsettled : session.settled = false
  unrefunded : session.refunded = false
  uncommitted : session.fundingSettled = false
  source : session.relayInfo.billingSource = session.funding.source
  funded : Funded info session amount g.record
  nonneg : 0 ≤ amount
  token : session.tokenConsumed = amount
  pre : session.preConsumedQuota = amount + slack
  fit : Fit quota session → slack = 0
  books : g.booked = taken info (fundingAccount session.funding) amount amount

section
variable (session : BillingSession)

@[simp] theorem sync_funding : session.syncRelayInfo.funding = session.funding := by
  unfold syncRelayInfo
  split <;> rfl

theorem sync_eq : session.syncRelayInfo = { session with relayInfo := session.syncRelayInfo.relayInfo } := by
  unfold syncRelayInfo
  split <;> rfl

theorem sync_request {info : RelayInfo} (same : SameRequest info session.relayInfo) :
    SameRequest info session.syncRelayInfo.relayInfo := by
  unfold syncRelayInfo
  split <;> exact ⟨same.userId, same.tokenId, same.isPlayground⟩

theorem sync_source : session.syncRelayInfo.relayInfo.billingSource = session.funding.source := by
  unfold syncRelayInfo
  split <;> rfl

theorem sync_linked {funding : SubscriptionFunding} (is : session.funding = .subscription funding) :
    session.syncRelayInfo.relayInfo.subscriptionId = funding.subscriptionId := by
  unfold syncRelayInfo
  rw [is]

end

/-! ## Opening -/

variable {cfg : Config} {fuel : Nat} {ctx : RequestContext} {info info' : RelayInfo}
  {g : Ledger} {quota : Int}

def Opens (info : RelayInfo) (quota : Int) (outcome : Except ApiError BillingSession) (g : Ledger) : Prop :=
  (∃ e, outcome = .error e ∧ g = .empty) ∨
    ∃ session amount slack, outcome = .ok session ∧ Position info quota amount slack session g

variable {t : Int} {funding : SubscriptionFunding}

theorem walletPreConsume_books (now effectiveQuota : Int) (books : g.booked = taken info (.wallet info.userId) 0 t) :
    (FundingSource.preConsume cfg fuel now effectiveQuota (.wallet ⟨info.userId, 0⟩)).Meets
      (bookSetting info) g fun outcome g' =>
        outcome = .ok (.wallet ⟨info.userId, max 0 effectiveQuota⟩) ∧ g'.record = g.record ∧
          g'.booked = taken info (.wallet info.userId) (max 0 effectiveQuota) t := by
  simp only [FundingSource.preConsume]
  split
  · rw [max_eq_left (by omega)]
    exact ⟨rfl, rfl, books⟩
  · rw [max_eq_right (by omega)]
    refine .bind (does_decreaseUserQuota (by omega)).store ?_
    rintro _ _ ⟨rfl, rfl⟩
    refine ⟨rfl, rfl, (taken_take books effectiveQuota).trans ?_⟩
    rw [zero_add]

/-- A session between the two steps of its pre-consumption. -/
structure Unfunded (info : RelayInfo) (quota effectiveQuota : Int) (session : BillingSession) :
    Prop where
  request : SameRequest info session.relayInfo
  unsettled : session.settled = false
  unrefunded : session.refunded = false
  uncommitted : session.fundingSettled = false
  extra : session.extraReserved = 0
  token : session.tokenConsumed = max 0 effectiveQuota
  fit : 0 ≤ quota ∨ session.trusted = true → 0 ≤ effectiveQuota

variable {session : BillingSession}

theorem unfunded_fresh {funding : FundingSource} {trusted : Bool} (same : SameRequest info info')
    (is : session = { { fresh info' funding with trusted } with
      tokenConsumed := max 0 (if trusted then 0 else quota) }) :
    Unfunded info quota (if trusted then 0 else quota) session := by
  subst is
  refine ⟨same, rfl, rfl, rfl, rfl, rfl, ?_⟩
  cases trusted with
  | true => intro _; simp
  | false => simp

theorem takeFunding_wallet {effectiveQuota : Int}
    (unfunded : Unfunded info quota effectiveQuota session) (is : session.funding = .wallet ⟨info.userId, 0⟩)
    (books : g.booked = taken info (.wallet info.userId) 0 (max 0 effectiveQuota)) :
    (session.takeFunding cfg fuel ctx effectiveQuota).Meets (bookSetting info) g (Opens info quota) := by
  unfold takeFunding
  rw [is]
  refine .bind (walletPreConsume_books ctx.dbNow effectiveQuota books) ?_
  rintro outcome g' ⟨rfl, -, books⟩
  refine .inr ⟨_, max 0 effectiveQuota, effectiveQuota - max 0 effectiveQuota, rfl, ?_⟩
  rw [sync_eq]
  exact {
    request := sync_request _ unfunded.request
    unsettled := unfunded.unsettled
    unrefunded := unfunded.unrefunded
    uncommitted := unfunded.uncommitted
    source := sync_source _
    funded := .wallet rfl
    nonneg := by omega
    token := unfunded.token
    pre := by dsimp only; omega
    fit := by
      rintro (nonneg | trusted | source)
      · have := unfunded.fit (.inl nonneg)
        omega
      · have := unfunded.fit (.inr trusted)
        omega
      · cases source
    books := books }

theorem subscriptionPreConsume_books {account : Account}
    (request : funding.requestId = info.requestId) (user : funding.userId = info.userId)
    (unrecorded : g.record = none) (books : g.booked = taken info account 0 t) (now effectiveQuota : Int) :
    (FundingSource.preConsume cfg fuel now effectiveQuota (.subscription funding)).Meets
      (bookSetting info) g fun outcome g' => (∃ e, outcome = .error e ∧ g' = g) ∨
        ∃ funding', outcome = .ok (.subscription funding') ∧
          funding'.requestId = info.requestId ∧ funding'.preConsumed = funding.amount ∧
          0 < funding.amount ∧ 0 < funding'.subscriptionId ∧ Text.trimSpace info.requestId ≠ "" ∧
          g'.record = some ⟨info.requestId, info.userId, funding'.subscriptionId, funding.amount, .consumed⟩ ∧
          g'.booked = taken info (.subscription funding'.subscriptionId) funding.amount t := by
  simp only [FundingSource.preConsume]
  rw [request, user]
  refine .bind (does_preConsume unrecorded).store ?_
  rintro outcome g' (⟨e, rfl, rfl⟩ | ⟨result, rfl, positive, named, row, exact_, rfl⟩)
  · exact .inl ⟨e, rfl, rfl⟩
  have charged : ((g.take (.subscription result.userSubscriptionId) funding.amount).booked =
      taken info (.subscription result.userSubscriptionId) funding.amount t) := by
    rw [taken_take (books.trans (taken_unfunded _ t)), zero_add]
  refine .bind (does_local (local_getSubscriptionPlanInfo _)).store ?_
  rintro plan _ rfl
  cases plan with
  | error e | ok plan => exact .inr ⟨_, rfl, rfl, exact_, positive, row, named, rfl, charged⟩

theorem takeFunding_subscription (unfunded : Unfunded info quota funding.amount session)
    (is : session.funding = .subscription funding)
    (request : funding.requestId = info.requestId) (user : funding.userId = info.userId)
    (positive : 0 < funding.amount) (unrecorded : g.record = none)
    (books : g.booked = taken info (.subscription 0) 0 (max 0 funding.amount)) :
    (session.takeFunding cfg fuel ctx funding.amount).Meets (bookSetting info) g (Opens info quota) := by
  have token := unfunded.token
  rw [max_eq_right (by omega)] at token books
  unfold takeFunding
  rw [is]
  refine .bind (subscriptionPreConsume_books request user unrecorded books ctx.dbNow funding.amount) ?_
  rintro outcome g' (⟨e, rfl, rfl⟩ | ⟨funding', rfl, request', exact_, -, row, named, recorded, books⟩)
  · refine .bind (rollbackToken_books unfunded.request unrecorded (by omega) (by rw [token]; exact books)) ?_
    rintro _ _ rfl
    exact .inl ⟨_, rfl, rfl⟩
  · refine .inr ⟨_, funding.amount, 0, rfl, ?_⟩
    have linked := sync_linked { session with
      funding := .subscription funding', preConsumedQuota := funding.amount } rfl
    rw [sync_eq]
    exact {
      request := sync_request _ unfunded.request
      unsettled := unfunded.unsettled
      unrefunded := unfunded.unrefunded
      uncommitted := unfunded.uncommitted
      source := sync_source _
      funded := .subscription funding' rfl request' named (by omega)
        (by dsimp only; rw [unfunded.extra]) row linked
        (by dsimp only; rw [unfunded.extra, exact_, add_zero]) (by rw [exact_]; exact recorded)
      nonneg := by omega
      token := token
      pre := (add_zero _).symm
      fit := fun _ => rfl
      books := books }

theorem tryWallet_opens : (tryWallet cfg fuel ctx info quota).Meets (bookSetting info) .empty (Opens info quota) := by
  refine .bind (does_local (local_getUserQuota _ _)).store ?_
  rintro userQuota _ rfl
  cases userQuota with
  | error e => exact .inl ⟨_, rfl, rfl⟩
  | ok userQuota =>
    dsimp only
    split
    · exact .inl ⟨_, rfl, rfl⟩
    split
    · exact .inl ⟨_, rfl, rfl⟩
    have same : SameRequest info { info with userQuota } := ⟨rfl, rfl, rfl⟩
    refine .bind (takeToken_books (.wallet info.userId) same rfl _) ?_
    rintro outcome g (⟨e, rfl, rfl⟩ | ⟨session, rfl, is, -, books⟩)
    · exact .inl ⟨_, rfl, rfl⟩
    · exact takeFunding_wallet (unfunded_fresh same is) (by rw [is]; rfl) books

theorem subConsume_pos (quota : Int) : 0 < subConsume quota := by
  unfold subConsume
  split <;> omega

theorem trySubscription_opens :
    (trySubscription cfg fuel ctx info quota).Meets (bookSetting info) .empty (Opens info quota) := by
  have positive := subConsume_pos quota
  have same : SameRequest info info := ⟨rfl, rfl, rfl⟩
  let funding : SubscriptionFunding := ⟨info.requestId, info.userId, subConsume quota, 0, 0, 0, 0, 0, ""⟩
  have doubted : (fresh info (.subscription funding)).shouldTrust cfg ctx = false := by
    unfold shouldTrust fresh
    dsimp only
    split <;> (try rfl)
    split <;> (try rfl)
    split <;> rfl
  unfold trySubscription preConsume
  rw [doubted]
  refine .bind (takeToken_books (.subscription 0) same rfl _) ?_
  rintro outcome g (⟨e, rfl, rfl⟩ | ⟨session, rfl, is, unrecorded, books⟩)
  · exact .inl ⟨_, rfl, rfl⟩
  · have unfunded : Unfunded info quota funding.amount session := by
      subst is
      exact ⟨same, rfl, rfl, rfl, rfl, rfl, fun _ => by show 0 ≤ subConsume quota; omega⟩
    exact takeFunding_subscription unfunded (by rw [is]; rfl) rfl rfl positive unrecorded books

/-- **Opening.**  The factory refuses and has taken nothing, or its session is in a position. -/
theorem newBillingSession_opens : (newBillingSession cfg fuel ctx info quota).Meets (bookSetting info) .empty
      (Opens info quota) := by
  refine newBillingSession_rule (J := (· = Ledger.empty)) ?_ ?_ ?_ ?_ rfl
  · rintro _ rfl
    exact tryWallet_opens
  · rintro _ rfl
    exact trySubscription_opens
  · rintro _ rfl
    exact (does_local (local_hasActiveUserSubscription _ _)).store
  · simp [Opens]

end NewApi.Billing
