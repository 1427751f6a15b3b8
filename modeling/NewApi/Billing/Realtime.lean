/-
# Billing.Realtime — what a realtime session is charged

A realtime session is billed by its pre-consumption, by `PreWssConsumeQuota` for every
`response.done` and for what is left at the end, and by `PostWssConsumeQuota`, which settles the
pre-consumption for the quota of the *whole* usage.  The incremental charges do not enter into the
settlement, so they are taken on top of it (`handler_runs`, `settleBilling_alone`).  A charge or a
settlement that the balances do not allow is refused, which is decided by the store before it.
-/
import NewApi.Model.Realtime
import NewApi.Billing.Periods

namespace NewApi.Billing
open Theory Model Subscription Function Pool List Option Int Program

/-! ## Quotas -/

section
variable {cfg : Config} {setting : RatioSetting}

/-- Token-based quotas are never negative, whatever the ratios and counts. -/
theorem calculateAudioQuota_nonneg {info : QuotaInfo}
    (priced : info.usePrice = true → 0 ≤ info.modelPrice * cfg.quotaPerUnit * info.groupRatio) :
    0 ≤ calculateAudioQuota cfg setting info := by
  unfold calculateAudioQuota
  split
  · rename_i usePrice
    exact Decimal.intPart_nonneg (priced usePrice)
  apply Decimal.round_nonneg
  split
  · exact zero_le_one
  · rename_i usual
    by_cases free : info.groupRatio * info.modelRatio = 0
    · simp [free]
    · simp only [not_and, not_le] at usual
      exact (usual free).le

structure FairPrices (cfg : Config) (wss : RealtimeInfo) : Prop where
  pre : 0 ≤ wss.priceData.quotaToPreConsume
  price : wss.priceData.usePrice = true →
    0 ≤ wss.priceData.modelPrice * cfg.quotaPerUnit * wss.priceData.groupRatio
  tiered : ∀ snapshot ∈ wss.tiered, 0 ≤ snapshot.estimatedQuotaAfterGroup ∧
    ∀ usage, ∀ quota ∈ snapshot.compute usage, 0 ≤ quota

variable {wss : RealtimeInfo}

theorem tryTieredSettle_nonneg (fair : FairPrices cfg wss) {relayInfo : RelayInfo} {usage : RealtimeUsage} {quota : Int}
    (settled : tryTieredSettle relayInfo wss usage = some quota) : 0 ≤ quota := by
  obtain ⟨snapshot, inside, rfl⟩ := map_eq_some_iff.mp settled
  obtain ⟨estimate, computed⟩ := fair.tiered snapshot inside
  split
  · rename_i quota computes
    exact computed usage quota computes
  · split <;> omega

theorem postWssQuota_nonneg (fair : FairPrices cfg wss) (relayInfo : RelayInfo) (usage : RealtimeUsage) :
    0 ≤ postWssQuota cfg setting wss relayInfo usage := by
  unfold postWssQuota
  split
  · exact le_rfl
  · cases tiered : tryTieredSettle relayInfo wss usage with
    | none => exact calculateAudioQuota_nonneg fair.price
    | some quota => exact tryTieredSettle_nonneg fair tiered

variable (cfg setting) in
theorem preWssQuota_nonneg (tokens : ¬wss.usePrice = true) (usage : RealtimeUsage) :
    0 ≤ preWssQuota cfg setting wss usage := by
  apply calculateAudioQuota_nonneg
  intro usePrice
  exact absurd usePrice tokens

variable (cfg setting) in
/-- What an incremental charge that ended with `outcome` took. -/
def granted (wss : RealtimeInfo) (usage : RealtimeUsage) : Except String Unit → Int
  | .error _ => 0
  | .ok () => if wss.usePrice then 0 else preWssQuota cfg setting wss usage

end

section
variable {cfg : Config} {info relayInfo : RelayInfo} {account : Account} {f t quota : Int}
  {g : Ledger}

/-- `PostConsumeQuota` on `relayInfo` charges `account`. -/
inductive Charges (info relayInfo : RelayInfo) : Account → Prop where
  | wallet (request : SameRequest info relayInfo) (source : relayInfo.billingSource ≠ .subscription) :
      Charges info relayInfo (.wallet info.userId)
  | subscription (request : SameRequest info relayInfo)
      (source : relayInfo.billingSource = .subscription) (row : relayInfo.subscriptionId ≠ 0) :
      Charges info relayInfo (.subscription relayInfo.subscriptionId)

theorem Charges.request (charges : Charges info relayInfo account) : SameRequest info relayInfo := by
  cases charges <;> assumption

variable (charges : Charges info relayInfo account) (books : g.booked = taken info account f t)
  (enough : 0 ≤ f + quota)
include charges books enough

theorem postConsumeFunding_books :
    (postConsumeFunding cfg relayInfo quota).Meets (bookSetting info) g fun outcome g' =>
      (∃ e, outcome = .error e ∧ g' = g) ∨ ∃ delta, outcome = .ok { relayInfo with subscriptionPostDelta := delta } ∧
          g'.booked = taken info account (f + quota) t := by
  unfold postConsumeFunding
  cases charges with
  | wallet request source =>
    rw [if_neg source]
    split
    · refine .bind (Q := fun outcome g' =>
        outcome = .ok () ∧ g' = g.take (.wallet info.userId) quota) ?_ ?_
      · rw [request.userId]
        exact (does_decreaseUserQuota (by omega)).store
      rintro _ _ ⟨rfl, rfl⟩
      exact .inr ⟨relayInfo.subscriptionPostDelta, rfl, taken_take books quota⟩
    · refine .bind (Q := fun outcome g' =>
        outcome = .ok () ∧ g' = g.take (.wallet info.userId) (- -quota)) ?_ ?_
      · rw [request.userId]
        exact (does_increaseUserQuota (by omega)).store
      rintro _ _ ⟨rfl, rfl⟩
      refine .inr ⟨relayInfo.subscriptionPostDelta, rfl, ?_⟩
      rw [neg_neg]
      exact taken_take books quota
  | subscription request source row =>
    rw [if_pos source, if_neg row]
    split
    · rename_i nothing
      refine .inr ⟨relayInfo.subscriptionPostDelta, rfl, ?_⟩
      rw [nothing, add_zero]
      exact books
    · have holds : 0 ≤ g.booked (.subscription relayInfo.subscriptionId) + quota := by
        rw [books, taken_subscription]
        exact enough
      refine .bind (does_postConsume holds).store ?_
      rintro _ _ (⟨e, rfl, rfl⟩ | ⟨rfl, rfl⟩)
      · exact .inl ⟨e, rfl, rfl⟩
      · exact .inr ⟨_, rfl, taken_take books quota⟩

/-- `PostConsumeQuota` is refused and takes nothing, or takes `quota` from both. -/
theorem postConsumeQuota_books : (postConsumeQuota cfg relayInfo quota).Meets (bookSetting info) g fun result g' =>
      (∃ e, result = (.error e, relayInfo) ∧ g' = g) ∨
        ∃ delta, result = (.ok (), { relayInfo with subscriptionPostDelta := delta }) ∧
          g'.booked = taken info account (f + quota) (t + quota) := by
  refine .bind (postConsumeFunding_books charges books enough) ?_
  rintro _ g₁ (⟨e, rfl, rfl⟩ | ⟨delta, rfl, after⟩)
  · exact .inl ⟨e, rfl, rfl⟩
  · have same : SameRequest info { relayInfo with subscriptionPostDelta := delta } :=
      ⟨charges.request.userId, charges.request.tokenId, charges.request.isPlayground⟩
    refine .bind (adjustTokenQuota_books same after quota) ?_
    rintro _ _ ⟨rfl, -, after⟩
    exact .inr ⟨delta, rfl, after⟩

end

def billedAccount : Billed → Account
  | .free relayInfo => .wallet relayInfo.userId
  | .opened session => fundingAccount session.funding

def preTaken : Billed → Int
  | .free _ => 0
  | .opened session => session.preConsumedQuota

/-- A realtime request that has taken its pre-consumption and `extra` besides. -/
inductive Metered (info : RelayInfo) (quota extra : Int) (g : Ledger) : Billed → Prop where
  | free {relayInfo : RelayInfo} (request : SameRequest info relayInfo)
      (source : relayInfo.billingSource = .none) (pre : relayInfo.finalPreConsumedQuota = 0)
      (books : g.booked = taken info (.wallet info.userId) extra extra) :
      Metered info quota extra g (.free relayInfo)
  | opened {session : BillingSession} {amount slack : Int} {g₀ : Ledger}
      (position : Position info quota amount slack session g₀)
      (books : g.booked = taken info (fundingAccount session.funding) (amount + extra) (amount + extra)) :
      Metered info quota extra g (.opened session)

section
variable {cfg : Config} {info : RelayInfo} {quota extra amount slack : Int} {g : Ledger}
  {billed : Billed} {session : BillingSession}

section
variable (position : Position info quota amount slack session g)
include position

theorem Position.charges :
    Charges info session.relayInfo (fundingAccount session.funding) := by
  have source := position.source
  cases position.funded with
  | wallet is =>
    rw [is] at source ⊢
    exact .wallet position.request (by rw [source]; exact nofun)
  | subscription funding is request named positive extra row linked =>
    rw [is] at source ⊢
    rw [fundingAccount, ← linked]
    exact .subscription position.request source (by omega)

/-- Posting deltas are only counted for display. -/
theorem Position.withDelta (delta : Int) :
    Position info quota amount slack
      { session with relayInfo := { session.relayInfo with subscriptionPostDelta := delta } } g where
  request := ⟨position.request.userId, position.request.tokenId, position.request.isPlayground⟩
  unsettled := position.unsettled
  unrefunded := position.unrefunded
  uncommitted := position.uncommitted
  source := position.source
  funded := by
    cases position.funded with
    | wallet is => exact .wallet is
    | subscription funding is request named positive extra row linked whole recorded =>
      exact .subscription funding is request named positive extra row linked whole recorded
  nonneg := position.nonneg
  token := position.token
  pre := position.pre
  fit := position.fit
  books := position.books

end

/-- What a further charge meets: an account to charge, with at least `extra` taken from it. -/
theorem Metered.charges (metered : Metered info quota extra g billed) :
    ∃ account f, Charges info billed.relayInfo account ∧ g.booked = taken info account f f ∧
      extra ≤ f ∧ ∀ (more delta : Int) (g' : Ledger), g'.booked = taken info account (f + more) (f + more) →
        Metered info quota (extra + more) g'
          (billed.withInfo { billed.relayInfo with subscriptionPostDelta := delta }) := by
  cases metered with
  | free request source pre books =>
    refine ⟨_, extra, .wallet request ?_, books, le_rfl, fun more delta g' after => ?_⟩
    · rw [Billed.relayInfo, source]
      exact nofun
    · exact .free ⟨request.userId, request.tokenId, request.isPlayground⟩ source pre after
  | opened position books =>
    rename_i session amount slack g₀
    refine ⟨_, amount + extra, position.charges, books, ?_, fun more delta g' after => ?_⟩
    · have := position.nonneg
      omega
    · rw [add_assoc] at after
      exact .opened (position.withDelta delta) after

end

/-! ## The session meets its contract -/

section
variable {cfg : Config} {setting : RatioSetting} {wss : RealtimeInfo} {info : RelayInfo}
  {quota extra : Int} {g : Ledger} {billed : Billed} {state : RealtimeState}

/-- A charge is refused and changes nothing, or its quota is taken besides what was before. -/
theorem preWssConsumeQuota_meters (metered : Metered info quota extra g billed) (nonneg : 0 ≤ extra)
    (usage : RealtimeUsage) :
    (preWssConsumeQuota cfg setting wss usage billed).Meets (bookSetting info) g fun result g' =>
      Metered info quota (extra + granted cfg setting wss usage result.1) g' result.2 := by
  have refused : ∀ e, Metered info quota (extra + granted cfg setting wss usage (.error e)) g billed := by
    intro e
    rw [granted, add_zero]
    exact metered
  unfold preWssConsumeQuota
  split
  · rename_i usePrice
    show Metered info quota (extra + granted cfg setting wss usage (.ok ())) g billed
    rw [granted, if_pos usePrice, add_zero]
    exact metered
  rename_i tokens
  have some_ := preWssQuota_nonneg cfg setting tokens usage
  refine .bind (does_local (local_getUserQuota _ _)).store ?_
  rintro userQuota _ rfl
  cases userQuota with
  | error e => exact refused e
  | ok userQuota =>
    refine .bind (does_local (local_getTokenByKey _ _)).store ?_
    rintro token _ rfl
    cases token with
    | error e => exact refused e
    | ok token =>
      dsimp only
      split
      · exact refused _
      split
      · exact refused _
      obtain ⟨account, f, charges, books, holds, after⟩ := metered.charges
      refine .bind (postConsumeQuota_books charges books (by omega)) ?_
      rintro _ g' (⟨e, rfl, rfl⟩ | ⟨delta, rfl, taken'⟩)
      · cases billed <;> exact refused e
      · simp only [granted, if_neg tokens]
        exact after _ delta g' taken'

/-- A settlement is refused and changes nothing, or leaves the settled quota taken; `extra` stays taken
on top of it. -/
theorem settleBilling_meters (metered : Metered info quota extra g billed) (nonneg : 0 ≤ extra)
    (fit : 0 ≤ quota) {actualQuota : Int} (some_ : 0 ≤ actualQuota) :
    (settleBilling cfg actualQuota billed).Meets (bookSetting info) g fun result g' =>
      g'.booked = match result.1 with
        | .ok () => taken info (billedAccount result.2) (actualQuota + extra) (actualQuota + extra)
        | .error _ => taken info (billedAccount result.2) (preTaken billed + extra) (preTaken billed + extra) := by
  cases metered with
  | free request source pre books =>
    rename_i relayInfo
    have charges : Charges info relayInfo (.wallet info.userId) := .wallet request (by rw [source]; exact nofun)
    simp only [settleBilling]
    rw [pre, sub_zero]
    split
    · refine .bind (postConsumeQuota_books charges books (by omega)) ?_
      rintro _ g' (⟨e, rfl, rfl⟩ | ⟨delta, rfl, after⟩)
      · show g'.booked = taken info (.wallet relayInfo.userId) (0 + extra) (0 + extra)
        rw [request.userId, zero_add]
        exact books
      · show g'.booked = taken info (.wallet relayInfo.userId) (actualQuota + extra) (actualQuota + extra)
        rw [request.userId, add_comm actualQuota]
        exact after
    · rename_i nothing
      obtain rfl : actualQuota = 0 := by simpa using nothing
      show g.booked = taken info (.wallet relayInfo.userId) (0 + extra) (0 + extra)
      rw [request.userId, zero_add]
      exact books
  | opened position books =>
    have exact_ := position.fit (.inl fit)
    refine .bind (settle_extra position books fun _ => by omega) ?_
    rintro ⟨outcome, session⟩ g' (⟨e, rfl, rfl, rfl⟩ | ⟨rfl, -, settled⟩)
    · show g'.booked = taken info (fundingAccount session.funding) (session.preConsumedQuota + extra)
        (session.preConsumedQuota + extra)
      rw [position.pre, exact_, add_zero]
      exact books
    · exact settled.books (.inl fit)

end

/-! ## Refusals -/

/-- What `GetUserQuota` reads. -/
def userQuotaSeen (s : Store) (id : Int) : Int :=
  (s.caches.userQuota id).getD (((s.users id).map (·.quota)).getD 0)

/-- What `GetTokenByKey` finds. -/
def tokenSeen (s : Store) (key : String) : Option Token := (s.caches.token key).or (s.tokens.find? (·.key = key))

/-- A posting that its subscription has no room for. -/
def PostingRefused (s : Store) (subId delta : Int) : Prop := delta ≠ 0 ∧ ∀ sub ∈ s.findSub subId, ¬sub.Room delta
deriving Decidable

/-- An incremental charge: its usage, and the request and the store before it. -/
structure Charge where
  usage : RealtimeUsage
  billed : Billed
  store : Store

section
variable (cfg : Config) (setting : RatioSetting) (wss : RealtimeInfo)

/-- The user, the token or the subscription does not have the quota of the charge. -/
def Charge.Refused (charge : Charge) : Prop :=
  userQuotaSeen charge.store charge.billed.relayInfo.userId < preWssQuota cfg setting wss charge.usage ∨
    (∀ token ∈ tokenSeen charge.store (Text.trimPrefix charge.billed.relayInfo.tokenKey "sk-"),
      token.unlimitedQuota = false ∧ token.remainQuota < preWssQuota cfg setting wss charge.usage) ∨
    (charge.billed.relayInfo.billingSource = .subscription ∧
      PostingRefused charge.store charge.billed.relayInfo.subscriptionId (preWssQuota cfg setting wss charge.usage))
deriving Decidable

def Charge.amount (charge : Charge) : Int :=
  if wss.usePrice = true ∨ charge.Refused cfg setting wss then 0 else preWssQuota cfg setting wss charge.usage

end

/-- The subscription a settlement posts to. -/
def postedTo : Billed → Option Int
  | .free _ => none
  | .opened session =>
    match session.funding with
    | .wallet _ => none
    | .subscription funding => some funding.subscriptionId

/-- The settlement for `logged` is refused: its subscription has no room for what is missing. -/
def SettlementRefused (s : Store) (logged : Int) (billed : Billed) : Prop :=
  ∃ subId ∈ postedTo billed, PostingRefused s subId (logged - preTaken billed)
deriving Decidable

section
variable {cfg : Config} {setting : RatioSetting} {wss : RealtimeInfo} {s : Store} {info relayInfo : RelayInfo}
  {account : Account} {billed : Billed} {usage : RealtimeUsage}

theorem exec_getUserQuota (id : Int) : (getUserQuota id false).exec s [] = (.ok (userQuotaSeen s id), s) := by
  unfold userQuotaSeen
  cases cached : s.caches.userQuota id <;> simp [getUserQuota, Sql.exec, Sql.bind_apply, cached]

theorem exec_getTokenByKey (key : String) : (getTokenByKey key false).exec s [] =
    ((tokenSeen s key).elim (.error errRecordNotFound) .ok, s) := by
  unfold tokenSeen
  cases cached : s.caches.token key with
  | some token => simp [getTokenByKey, Sql.exec, Sql.bind_apply, cached]
  | none =>
    cases found : s.tokens.find? (·.key = key) <;>
      simp [getTokenByKey, Sql.exec, Sql.bind_apply, first, cached, found]

theorem posting_refused_iff (valid : s.Valid) {subId delta : Int} (moves : delta ≠ 0) :
    (∃ e, ((postConsumeUserSubscriptionDelta (.posted subId delta) subId delta).exec s []).1 = .error e) ↔
      PostingRefused s subId delta := by
  obtain ⟨outcome, s', ran, effect⟩ := postConsume_exec (.posted subId delta) subId delta s []
  constructor
  · rintro ⟨e, failed⟩
    refine ⟨moves, fun sub found room => ?_⟩
    obtain ⟨member, rfl⟩ := Store.mem_of_findSub found
    have done := postConsume_ok (.posted sub.id delta) delta id (valid.subPos sub member) found moves room
    simp [Sql.exec, done] at failed
  · rintro ⟨-, full⟩
    rw [ran]
    rcases effect with ⟨-, still⟩ | ⟨-, -, sub, found, room, -⟩
    · cases outcome with
      | error e => exact ⟨e, rfl⟩
      | ok _ => exact absurd (still rfl) moves
    · exact absurd room (full sub found)

theorem adjustTokenQuota_ok (delta : Int) : ((adjustTokenQuota cfg relayInfo delta).solo s).1 = .ok () := by
  unfold adjustTokenQuota
  split
  · rfl
  split
  · exact congrArg Prod.fst (decreaseTokenQuota_nil (by omega) s)
  · exact congrArg Prod.fst (increaseTokenQuota_nil (by omega) s)

/-- Only a subscription without room for it refuses a posting. -/
theorem postConsumeQuota_refused_iff (charges : Charges info relayInfo account) (valid : s.Valid) {quota : Int}
    (nonneg : 0 ≤ quota) : (∃ e, ((postConsumeQuota cfg relayInfo quota).solo s).1.1 = .error e) ↔
      relayInfo.billingSource = .subscription ∧ PostingRefused s relayInfo.subscriptionId quota := by
  -- the token is adjusted only if the funding source was charged, and that never fails
  have outcome : (∃ e, ((postConsumeQuota cfg relayInfo quota).solo s).1.1 = .error e) ↔
      ∃ e, ((postConsumeFunding cfg relayInfo quota).solo s).1 = .error e := by
    unfold postConsumeQuota
    rw [solo_bind]
    cases ((postConsumeFunding cfg relayInfo quota).solo s).1 with
    | error e => simp
    | ok relayInfo => simp [solo_bind, adjustTokenQuota_ok]
  rw [outcome]
  unfold postConsumeFunding
  cases charges with
  | wallet request source =>
    rw [if_neg source]
    refine iff_of_false ?_ fun refused => source refused.1
    dsimp only
    split
    · simp [solo_bind, decreaseUserQuota_nil nonneg, Except.map]
    · simp [solo_bind, increaseUserQuota_nil (show 0 ≤ -quota by omega), Except.map]
  | subscription request source row =>
    rw [if_pos source, if_neg row]
    split
    · rename_i nothing
      simp [PostingRefused, nothing]
    · rename_i moves
      rw [solo_bind, ← posting_refused_iff valid moves, solo_store]
      cases ran : ((postConsumeUserSubscriptionDelta (.posted relayInfo.subscriptionId quota) relayInfo.subscriptionId
        quota).exec s []).1 <;> simp [source]

/-- **When an incremental charge is refused**, as the store before it decides. -/
theorem preWssConsumeQuota_refused_iff (charges : Charges info billed.relayInfo account) (valid : s.Valid)
    (tokens : ¬wss.usePrice = true) : (∃ e, ((preWssConsumeQuota cfg setting wss usage billed).solo s).1.1 = .error e) ↔
      Charge.Refused cfg setting wss ⟨usage, billed, s⟩ := by
  have settled := @postConsumeQuota_refused_iff cfg _ _ _ _ charges valid _ (preWssQuota_nonneg cfg setting tokens usage)
  unfold preWssConsumeQuota Charge.Refused
  rw [if_neg tokens]
  simp only [solo_bind, solo_store, exec_getUserQuota, exec_getTokenByKey]
  cases found : tokenSeen s (Text.trimPrefix billed.relayInfo.tokenKey "sk-") with
  | none => simp
  | some token =>
    dsimp only [Option.elim]
    by_cases user : userQuotaSeen s billed.relayInfo.userId < preWssQuota cfg setting wss usage
    · simp [user]
    by_cases limit : (!token.unlimitedQuota) = true ∧ token.remainQuota < preWssQuota cfg setting wss usage
    · rw [if_neg user, if_pos limit]
      simp only [Bool.not_eq_true'] at limit
      simp [limit]
    · rw [if_neg user, if_neg limit, solo_bind]
      simp only [Bool.not_eq_true'] at limit
      simpa [user, limit] using settled

theorem settle_refused_iff {quota amount slack logged : Int} {session : BillingSession} {g : Ledger}
    (position : Position info quota amount slack session g) (valid : s.Valid) :
    (∃ e, ((session.settle cfg logged).solo s).1.1 = .error e) ↔ SettlementRefused s logged (.opened session) := by
  unfold SettlementRefused preTaken
  by_cases moves : logged - session.preConsumedQuota = 0
  · simp [BillingSession.settle, position.unsettled, PostingRefused, moves]
  · have outcome : (∃ e, ((session.settle cfg logged).solo s).1.1 = .error e) ↔
        ∃ e, ((session.funding.settle cfg (logged - session.preConsumedQuota)).solo s).1 = .error e := by
      unfold BillingSession.settle BillingSession.settleFunding
      rw [if_neg (by simp [position.unsettled]), if_neg moves, if_neg (by simp [position.uncommitted]), solo_bind]
      cases ((session.funding.settle cfg (logged - session.preConsumedQuota)).solo s).1 with
      | error e => simp
      | ok _ => simp [solo_bind, adjustTokenQuota_ok]
    rw [outcome]
    unfold FundingSource.settle postedTo
    rw [if_neg moves]
    dsimp only
    cases position.funded with
    | wallet is =>
      simp only [is]
      refine iff_of_false ?_ (by simp)
      split
      · simp [decreaseUserQuota_nil (show 0 ≤ logged - session.preConsumedQuota by omega)]
      · simp [-neg_sub, increaseUserQuota_nil (show 0 ≤ -(logged - session.preConsumedQuota) by omega)]
    | subscription funding is =>
      simp only [is, Option.mem_some_iff, exists_eq_left']
      exact posting_refused_iff valid moves

/-- **When a settlement is refused**, as the store before it decides. -/
theorem settleBilling_refused_iff {quota extra logged : Int} {g : Ledger} (metered : Metered info quota extra g billed)
    (valid : s.Valid) (some_ : 0 ≤ logged) :
    (∃ e, ((settleBilling cfg logged billed).solo s).1.1 = .error e) ↔ SettlementRefused s logged billed := by
  cases metered with
  | free request source pre books =>
    rename_i relayInfo
    have charges : Charges info relayInfo (.wallet info.userId) := .wallet request (by rw [source]; exact nofun)
    refine iff_of_false ?_ (by simp [SettlementRefused, postedTo])
    simp only [settleBilling, pre, sub_zero]
    split
    · intro refused
      have := (@postConsumeQuota_refused_iff cfg _ _ _ _ charges valid _ some_).mp (by simpa [solo_bind] using refused)
      rw [source] at this
      exact nomatch this.1
    · simp
  | opened position books =>
    rw [← @settle_refused_iff cfg _ _ _ _ _ _ _ _ position valid]
    simp [settleBilling, solo_bind]

end

/-! ## One session alone -/

/-- The ledger of a session is what the accounts have lost since `s₀`. -/
structure Alone (info : RelayInfo) (s₀ s : Store) (g : Ledger) : Prop where
  seen : Seen info g s
  grown : s₀.history <+: s.history
  booked : g.booked = moved s₀ s

section
variable {info : RelayInfo} {s₀ s s' : Store} {g : Ledger}

theorem moved_trans (first : s₀.history <+: s.history) (second : s.history <+: s'.history) (account : Account) :
    moved s₀ s' account = moved s₀ s account + moved s s' account := by
  obtain ⟨events, first⟩ := first
  obtain ⟨more, second⟩ := second
  cases account with
  | subscription subId =>
    rw [moved, moved, moved, news_eq first.symm, news_eq second.symm,
      news_eq (by rw [← second, ← first, append_assoc]), net_append]
  | _ =>
    simp only [moved]
    omega

theorem Alone.step (alone : Alone info s₀ s g) (owed : Owed info s s' g) :
    Alone info s₀ s' ((bookSetting info).moves s s' g) where
  seen := {
    valid := owed.valid
    user := by rw [owed.users]; exact alone.seen.user
    token real := by rw [owed.tokens]; exact alone.seen.token real
    record := rfl
    nonneg := owed.nonneg
    rows subId holds := by
      rw [owed.ids]
      by_cases none : g.booked (.subscription subId) = 0
      · refine owed.inside_of_net fun nothing => holds ?_
        show g.booked (.subscription subId) + net subId (news s s') = 0
        rw [none, nothing, add_zero]
      · exact alone.seen.rows subId none }
  grown := by
    obtain ⟨resets, last, history, -⟩ := owed.events
    exact alone.grown.trans ⟨_, history.symm⟩
  booked := by
    obtain ⟨resets, last, history, -⟩ := owed.events
    funext account
    rw [moved_trans alone.grown ⟨_, history.symm⟩, ← alone.booked]
    rfl

theorem Alone.solo {α : Type} {p : Program Store α} {Q : α → Ledger → Prop} (alone : Alone info s₀ s g)
    (met : p.Meets (bookSetting info) g Q) : ∃ g', Alone info s₀ (p.solo s).2 g' ∧ Q (p.solo s).1 g' :=
  met.solo (Alone info s₀) (fun _ _ alone => alone.seen) (fun _ => rfl) (fun _ _ _ alone owed => alone.step owed) alone

variable {quota extra : Int} {state : RealtimeState} (cfg : Config) (setting : RatioSetting) (wss : RealtimeInfo)

/-- A handler that has taken its pre-consumption and `extra` besides, by itself since `s₀`. -/
def Running (info : RelayInfo) (s₀ : Store) (quota extra : Int) (billed : Billed) (s : Store) : Prop :=
  0 ≤ extra ∧ ∃ g, Alone info s₀ s g ∧ Metered info quota extra g billed

theorem Charge.amount_nonneg (charge : Charge) : 0 ≤ charge.amount cfg setting wss := by
  unfold Charge.amount
  split
  · exact le_rfl
  · rename_i made
    exact preWssQuota_nonneg cfg setting (fun usePrice => made (.inl usePrice)) charge.usage

/-- **A charge takes its amount**, which the store before it decides. -/
theorem preConsumeUsage_runs (running : Running info s₀ quota extra state.billed s) (usage : RealtimeUsage) :
    Running info s₀ quota (extra + Charge.amount cfg setting wss ⟨usage, state.billed, s⟩)
      ((preConsumeUsage cfg setting wss usage state).solo s).1.2.billed
      ((preConsumeUsage cfg setting wss usage state).solo s).2 := by
  obtain ⟨nonneg, g, alone, metered⟩ := running
  have some_ := Charge.amount_nonneg cfg setting wss ⟨usage, state.billed, s⟩
  obtain ⟨account, -, charges, -⟩ := metered.charges
  obtain ⟨g', after, taken'⟩ := alone.solo (@preWssConsumeQuota_meters cfg setting wss _ _ _ _ _ metered nonneg usage)
  refine ⟨by omega, g', by simpa [preConsumeUsage, solo_bind] using after, ?_⟩
  have same : granted cfg setting wss usage ((preWssConsumeQuota cfg setting wss usage state.billed).solo s).1.1 =
      Charge.amount cfg setting wss ⟨usage, state.billed, s⟩ := by
    unfold Charge.amount
    by_cases usePrice : wss.usePrice = true
    · rw [if_pos (.inl usePrice)]
      cases ((preWssConsumeQuota cfg setting wss usage state.billed).solo s).1.1 <;> simp [granted, usePrice]
    · have refused := @preWssConsumeQuota_refused_iff cfg setting wss s _ _ _ usage charges alone.seen.valid usePrice
      cases outcome : ((preWssConsumeQuota cfg setting wss usage state.billed).solo s).1.1 with
      | error e => rw [if_pos (.inr (refused.mp ⟨e, outcome⟩)), granted]
      | ok _ =>
        rw [if_neg, granted, if_neg usePrice]
        rintro (priced | full)
        · exact usePrice priced
        · obtain ⟨e, failed⟩ := refused.mpr full
          rw [outcome] at failed
          cases failed
  rw [same] at taken'
  simpa [preConsumeUsage, solo_bind] using taken'

/-- What a message makes the handler charge. -/
def eventCharge (state : RealtimeState) : RealtimeEvent → Option RealtimeUsage
  | .responseDone usage => some (state.usage.add usage)
  | .responseDoneCounted text audio => some (state.localUsage.countInput text audio)
  | .client _ _ | .session | .other _ _ => none

def flushCharges (usage : RealtimeUsage) (billed : Billed) (s : Store) : List Charge :=
  if usage.totalTokens ≠ 0 then [⟨usage, billed, s⟩] else []

/-- The charges made while messages are read, each with the store before it. -/
def readCharges : List RealtimeEvent → RealtimeState → Store → List Charge
  | [], _, _ => []
  | event :: rest, state, s =>
    let after := (handleEvent cfg setting wss state event).solo s
    (eventCharge state event).toList.map (⟨·, state.billed, s⟩) ++
      if after.1.1 then readCharges rest after.1.2 after.2 else []

/-- All incremental charges of a session. -/
def sessionCharges (events : List RealtimeEvent) (billed : Billed) (s : Store) : List Charge :=
  let read := (readEvents cfg setting wss events (.start billed)).solo s
  let flushed := (flushUsage cfg setting wss read.1.usage read.1).solo read.2
  readCharges cfg setting wss events (.start billed) s ++ flushCharges read.1.usage read.1.billed read.2 ++
    flushCharges flushed.1.localUsage flushed.1.billed flushed.2

def charged (charges : List Charge) : Int := (charges.map (Charge.amount cfg setting wss)).sum

theorem charged_append (first second : List Charge) : charged cfg setting wss (first ++ second) =
    charged cfg setting wss first + charged cfg setting wss second := by
  simp [charged]

/-- Charges are never negative, so nothing is charged only if each comes to nothing. -/
theorem charged_eq_zero_iff (charges : List Charge) : charged cfg setting wss charges = 0 ↔
    ∀ charge ∈ charges, charge.amount cfg setting wss = 0 := by
  induction charges with
  | nil => simp [charged]
  | cons charge rest induction_ =>
    have first := charge.amount_nonneg cfg setting wss
    have others : 0 ≤ charged cfg setting wss rest := by
      apply sum_nonneg
      simp only [List.mem_map]
      rintro _ ⟨charge, -, rfl⟩
      exact charge.amount_nonneg cfg setting wss
    have whole : charged cfg setting wss (charge :: rest) =
        charge.amount cfg setting wss + charged cfg setting wss rest := by
      simp [charged]
    rw [forall_mem_cons, ← induction_, whole]
    omega

theorem handleEvent_runs (running : Running info s₀ quota extra state.billed s) (event : RealtimeEvent) :
    Running info s₀ quota
      (extra + charged cfg setting wss ((eventCharge state event).toList.map (⟨·, state.billed, s⟩)))
      ((handleEvent cfg setting wss state event).solo s).1.2.billed
      ((handleEvent cfg setting wss state event).solo s).2 := by
  cases event with
  | responseDone realtimeUsage =>
    have runs := @preConsumeUsage_runs info s₀ s quota extra { state with usage := state.usage.add realtimeUsage }
      cfg setting wss running (state.usage.add realtimeUsage)
    simp only [handleEvent, solo_bind, eventCharge, charged, toList_some, map_cons, map_nil, sum_cons, sum_nil, add_zero]
    split <;> simp_all
  | responseDoneCounted text audio =>
    have runs := @preConsumeUsage_runs info s₀ s quota extra
      { state with localUsage := state.localUsage.countInput text audio } cfg setting wss running
      (state.localUsage.countInput text audio)
    simp only [handleEvent, solo_bind, eventCharge, charged, toList_some, map_cons, map_nil, sum_cons, sum_nil, add_zero]
    split <;> simp_all
  | client | session | other => simpa [handleEvent, eventCharge, charged] using running

theorem readEvents_runs (events : List RealtimeEvent) (running : Running info s₀ quota extra state.billed s) :
    Running info s₀ quota (extra + charged cfg setting wss (readCharges cfg setting wss events state s))
      ((readEvents cfg setting wss events state).solo s).1.billed
      ((readEvents cfg setting wss events state).solo s).2 := by
  induction events generalizing state s extra with
  | nil => simpa [readEvents, readCharges, charged] using running
  | cons event rest induction_ =>
    have handled := handleEvent_runs cfg setting wss running event
    simp only [readEvents, readCharges, solo_bind, charged_append, ← add_assoc]
    split
    · exact induction_ handled
    · simpa [charged] using handled

theorem flushUsage_runs (running : Running info s₀ quota extra state.billed s) (usage : RealtimeUsage) :
    Running info s₀ quota (extra + charged cfg setting wss (flushCharges usage state.billed s))
      ((flushUsage cfg setting wss usage state).solo s).1.billed
      ((flushUsage cfg setting wss usage state).solo s).2 := by
  unfold flushUsage flushCharges
  split
  · simpa [solo_bind, charged] using preConsumeUsage_runs cfg setting wss running usage
  · simpa [charged] using running

/-- **The handler takes its charges**, besides the pre-consumption. -/
theorem handler_runs {billed : Billed} (events : List RealtimeEvent) (running : Running info s₀ quota 0 billed s) :
    Running info s₀ quota (charged cfg setting wss (sessionCharges cfg setting wss events billed s))
      ((openaiRealtimeHandler cfg setting wss events billed).solo s).1.billed
      ((openaiRealtimeHandler cfg setting wss events billed).solo s).2 := by
  have read := @readEvents_runs info s₀ s quota 0 (.start billed) cfg setting wss events running
  have flushed := flushUsage_runs cfg setting wss read
    ((readEvents cfg setting wss events (.start billed)).solo s).1.usage
  simpa only [openaiRealtimeHandler, sessionCharges, solo_bind, charged_append, zero_add, add_assoc] using
    flushUsage_runs cfg setting wss flushed _

/-- **The settlement does not count the charges**: it takes `logged`, or if it is refused leaves the
pre-consumption, on top of them. -/
theorem settleBilling_alone {billed : Billed} (running : Running info s₀ quota extra billed s) (fit : 0 ≤ quota)
    {logged : Int} (some_ : 0 ≤ logged) {result : (Except String Unit × Billed) × Store}
    (ran : (settleBilling cfg logged billed).solo s = result) :
    (¬SettlementRefused s logged billed →
        moved s₀ result.2 = taken info (billedAccount result.1.2) (logged + extra) (logged + extra)) ∧
      (SettlementRefused s logged billed → moved s₀ result.2 =
        taken info (billedAccount result.1.2) (preTaken billed + extra) (preTaken billed + extra)) := by
  obtain ⟨nonneg, g, alone, metered⟩ := running
  obtain ⟨g', after, books⟩ := alone.solo (@settleBilling_meters cfg _ _ _ _ _ metered nonneg fit _ some_)
  have refused := @settleBilling_refused_iff cfg _ _ _ _ _ _ _ metered alone.seen.valid some_
  rw [ran] at after books refused
  rw [← after.booked, books, ← refused]
  cases result.1.1 <;> simp

/-! ## The whole request -/

/-- How the request starts: free of charge, or with a billing session that could be opened. -/
def begun (fuel : Nat) (ctx : RequestContext) (info : RelayInfo) (s₀ : Store) : Option (Billed × Store) :=
  if wss.priceData.freeModel then some (.free info, s₀)
  else
    match (newBillingSession cfg fuel ctx info wss.priceData.quotaToPreConsume).solo s₀ with
    | (.ok session, s) => some (.opened session, s)
    | (.error _, _) => none

variable {cfg setting wss} {fuel : Nat} {ctx : RequestContext} {billed : Billed}

theorem solo_relayRealtime (opened : begun cfg wss fuel ctx info s₀ = some (billed, s)) (events : List RealtimeEvent) :
    (relayRealtime cfg setting wss fuel ctx info events).solo s₀ = (wssHelper cfg setting wss events billed).solo s := by
  unfold begun at opened
  unfold relayRealtime
  split at opened
  · rename_i free
    cases opened
    rw [if_pos free]
  · rename_i paid
    rw [if_neg paid, solo_bind]
    split at opened
    · rename_i ran
      cases opened
      rw [ran]
    · cases opened

theorem begun_runs (ready : Ready (fun _ : Unit => info) s₀) (fresh : wss.priceData.freeModel = true →
      info.billingSource = .none ∧ info.finalPreConsumedQuota = 0)
    (opened : begun cfg wss fuel ctx info s₀ = some (billed, s)) :
    Running info s₀ wss.priceData.quotaToPreConsume 0 billed s := by
  have start : Alone info s₀ s₀ .empty := {
    seen := ⟨ready.valid, ready.users (), ready.tokens (), ready.fresh (), fun _ => le_rfl, fun _ holds => absurd rfl holds⟩
    grown := prefix_rfl
    booked := by
      funext account
      cases account with
      | subscription subId => rw [moved, (Framed.refl s₀).news, net_nil]; rfl
      | _ => exact (sub_self _).symm }
  refine ⟨le_rfl, ?_⟩
  unfold begun at opened
  split at opened
  · rename_i free
    cases opened
    obtain ⟨source, pre⟩ := fresh free
    exact ⟨_, start, .free ⟨rfl, rfl, rfl⟩ source pre (taken_zero info _).symm⟩
  · obtain ⟨g, after, opens⟩ := start.solo (@newBillingSession_opens cfg fuel ctx info wss.priceData.quotaToPreConsume)
    split at opened
    · rename_i session s' ran
      cases opened
      rw [ran] at after opens
      obtain ⟨e, failed, -⟩ | ⟨session, amount, slack, is, position⟩ := opens
      · cases failed
      · cases is
        have books := position.books
        rw [← add_zero amount] at books
        exact ⟨g, after, .opened position books⟩
    · cases opened

/-- The books tell amounts taken apart. -/
theorem taken_injective {account : Account} {a b : Int}
    (funds : (∃ userId, account = .wallet userId) ∨ ∃ subId, account = .subscription subId) :
    taken info account a a = taken info account b b ↔ a = b := by
  refine ⟨fun same => ?_, fun same => by rw [same]⟩
  have here := congrFun same account
  rcases funds with ⟨userId, rfl⟩ | ⟨subId, rfl⟩
  · simp [taken, debit] at here
    omega
  · simpa [taken, debit] using here

theorem billedAccount_funds (billed : Billed) : (∃ userId, billedAccount billed = .wallet userId) ∨
    ∃ subId, billedAccount billed = .subscription subId := by
  match billed with
  | .free relayInfo => exact .inl ⟨_, rfl⟩
  | .opened session =>
    show (∃ userId, fundingAccount session.funding = _) ∨ ∃ subId, fundingAccount session.funding = _
    cases session.funding with
    | wallet funding => exact .inl ⟨_, rfl⟩
    | subscription funding => exact .inr ⟨_, rfl⟩

end

/-! ## Two sessions -/

variable (ratio : Rat)

/-- Every model and every group at the same ratio. -/
def flatSetting : RatioSetting :=
  ⟨fun _ => 1, fun _ => 1, fun _ => 1, fun _ => ratio, fun _ => 1, fun _ _ => none⟩

/-- A model at `ratio` that pre-consumes 5. -/
def flatRequest : RealtimeInfo :=
  ⟨"m", "m", "default", "default", none, false, ⟨false, 0, ratio, 1, false, 5⟩, none⟩

def textUsage (tokens : Int) : RealtimeUsage := ⟨tokens, tokens, 0, 0, tokens, 0, 0, 0⟩

def soleRealtime (responses : List Int) : RealtimeEnd × Store :=
  (relayRealtime plainConfig (flatSetting ratio) (flatRequest ratio) 5 ⟨0, 10, 10⟩ walletRequest
    (responses.map fun tokens => .responseDone (textUsage tokens))).solo billedUser

def RealtimeEnd.loggedQuota : RealtimeEnd → Option Int
  | .refused _ => none
  | .logged quota _ _ => some quota

theorem flatRequest_fair : FairPrices plainConfig (flatRequest ratio) :=
  ⟨by simp [flatRequest], fun priced => by simp [flatRequest] at priced, nofun⟩

theorem billedUser_ready_sole : Ready (fun _ : Unit => walletRequest) billedUser := by
  refine ⟨⟨by decide, by decide, by decide, by decide, by decide⟩, ?_, ?_, ?_, ?_⟩
  all_goals decide

theorem flatRequest_begins :
    (begun plainConfig (flatRequest (1 / 4)) 5 ⟨0, 10, 10⟩ walletRequest billedUser).isSome := by
  decide +kernel

end NewApi.Billing
