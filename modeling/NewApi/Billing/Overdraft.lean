/-
# Billing.Overdraft — pre-consumption against a balance that was checked before

A request checks a balance with one statement and takes from it with another; `Purse` is what it has
seen of its two balances, and taken from them.  Two requests that have both checked before either has
taken are granted more than there is (`preConsumption_overdrawn`), but not in a run in which a
request takes only from a balance that has not fallen since (`preConsumption_covered`).
-/
import NewApi.Theory.Shares
import NewApi.Billing.Session

namespace NewApi.Billing
open Theory Model Sql Function BillingSession Pool Int Store

def rowQuota (s : Store) (userId : Int) : Int := ((s.users userId).map (·.quota)).getD 0

def rowRemain (s : Store) (tokenId : Int) : Int := ((s.tokens.find? (·.id = tokenId)).map (·.remainQuota)).getD 0

/-- User and token of a request have rows, and nothing is cached. -/
structure Served (info : RelayInfo) (s : Store) : Prop where
  user : (s.users info.userId).isSome
  token : ∃ row, s.tokens.find? (·.id = info.tokenId) = some row ∧
    s.tokens.find? (·.key = info.tokenKey) = some row
  freshUser : s.caches.userQuota info.userId = none
  freshToken : s.caches.token info.tokenKey = none

section
variable {info : RelayInfo} {s : Store}

theorem rowQuota_addUserQuota {id : Int} (present : (s.users id).isSome) (value userId : Int) :
    rowQuota (s.addUserQuota id value) userId = rowQuota s userId + if userId = id then value else 0 := by
  obtain ⟨user, row⟩ := Option.isSome_iff_exists.mp present
  by_cases same : userId = id
  · subst same
    simp [rowQuota, addUserQuota, setUser, row]
  · simp [rowQuota, addUserQuota, setUser, same]

theorem rowRemain_addTokenQuota {id : Int} {row : Token}
    (present : s.tokens.find? (·.id = id) = some row) (value tokenId : Int) :
    rowRemain (s.addTokenQuota id value) tokenId = rowRemain s tokenId + if tokenId = id then value else 0 := by
  unfold rowRemain addTokenQuota
  rw [find_setToken s id (fun t => { t with
    remainQuota := t.remainQuota + value, usedQuota := t.usedQuota - value }) fun _ => rfl]
  by_cases same : tokenId = id
  · subst same
    simp [present]
  · simp [same]

theorem Served.addUserQuota (served : Served info s) (id value : Int) : Served info (s.addUserQuota id value) where
  user := by
    have here := served.user
    by_cases same : info.userId = id
    · subst same
      simpa [Store.addUserQuota, Store.setUser] using here
    · simpa [Store.addUserQuota, Store.setUser, same] using here
  token := served.token
  freshUser := served.freshUser
  freshToken := served.freshToken

theorem Served.addTokenQuota (served : Served info s) (id value : Int) : Served info (s.addTokenQuota id value) where
  user := served.user
  token := by
    obtain ⟨row, byId, byKey⟩ := served.token
    let change : Token → Token := fun t =>
      if t.id = id then { t with remainQuota := t.remainQuota + value, usedQuota := t.usedQuota - value }
      else t
    have kept : ∀ t, (change t).id = t.id ∧ (change t).key = t.key := by
      intro t
      simp only [change]
      split <;> exact ⟨rfl, rfl⟩
    refine ⟨change row, ?_, ?_⟩
    · show (s.tokens.map change).find? _ = _
      simp only [List.find?_map, comp_def, kept, byId, Option.map_some]
    · show (s.tokens.map change).find? _ = _
      simp only [List.find?_map, comp_def, kept, byKey, Option.map_some]
  freshUser := served.freshUser
  freshToken := served.freshToken

end

/-! ## The setting -/

/-- What a request has seen of its balances, at most, and taken from them. -/
structure Purse where
  walletSeen : Int
  tokenSeen : Int
  walletTaken : Int
  tokenTaken : Int

def Purse.empty : Purse := ⟨0, 0, 0, 0⟩

/-- Everything billing knows of wallets and tokens. -/
def accounts (s : Store) : (Int → Option User) × List Token × Caches := (s.users, s.tokens, s.caches)

/-- A call of a request: it takes no more than the request has seen, and gives back no more
than it has taken. -/
structure Bounded (info : RelayInfo) (s s' : Store) (purse : Purse) : Prop where
  served : ∀ other, Served other s → Served other s'
  wallet : rowQuota s info.userId - rowQuota s' info.userId ≤ max 0 purse.walletSeen
  walletBack : 0 ≤ purse.walletTaken + (rowQuota s info.userId - rowQuota s' info.userId)
  token : rowRemain s info.tokenId - rowRemain s' info.tokenId ≤ max 0 purse.tokenSeen
  tokenBack : 0 ≤ purse.tokenTaken + (rowRemain s info.tokenId - rowRemain s' info.tokenId)

def purseSetting (info : RelayInfo) : Setting Store Purse where
  meets _ _ := True
  sees purse s := Served info s ∧ 0 ≤ purse.walletTaken ∧ 0 ≤ purse.tokenTaken
  moves s s' purse :=
    ⟨max purse.walletSeen (rowQuota s info.userId), max purse.tokenSeen (rowRemain s info.tokenId),
      purse.walletTaken + (rowQuota s info.userId - rowQuota s' info.userId),
      purse.tokenTaken + (rowRemain s info.tokenId - rowRemain s' info.tokenId)⟩
  keeps := Bounded info

structure Spent (purse purse' : Purse) (wallet token : Int) : Prop where
  walletSeen : purse.walletSeen ≤ purse'.walletSeen
  tokenSeen : purse.tokenSeen ≤ purse'.tokenSeen
  wallet : purse'.walletTaken = purse.walletTaken + wallet
  token : purse'.tokenTaken = purse.tokenTaken + token

/-- A call that fails and takes nothing, or answers `a` and takes `wallet` and `token`. -/
def Takes {ε α : Type} (purse : Purse) (a : α) (wallet token : Int) (outcome : Except ε α)
    (purse' : Purse) : Prop :=
  (∃ e, outcome = .error e ∧ Spent purse purse' 0 0) ∨ (outcome = .ok a ∧ Spent purse purse' wallet token)

/-- A funding source that fails and takes nothing, or takes what the wallet owes of `amount`. -/
def Funds {ε : Type} (purse : Purse) (amount : Int) (outcome : Except ε FundingSource) (purse' : Purse) : Prop :=
  (∃ e, outcome = .error e ∧ Spent purse purse' 0 0) ∨
    ∃ funding w, outcome = .ok funding ∧ 0 ≤ w ∧ Spent purse purse' w 0 ∧
      (funding.source = .wallet → amount ≤ w)

/-- Nothing given back that was not taken. -/
def Purse.Sound (purse : Purse) : Prop := 0 ≤ purse.walletTaken ∧ 0 ≤ purse.tokenTaken

section
variable {cfg : Config} {fuel : Nat} {ctx : RequestContext} {info info' : RelayInfo} {s s' : Store}
  {purse : Purse} {α : Type} {quota amount : Int}

theorem Spent.sound {purse' : Purse} {wallet token : Int} (spent : Spent purse purse' wallet token)
    (sound : purse.Sound) (walletNonneg : 0 ≤ wallet) (tokenNonneg : 0 ≤ token) : purse'.Sound := by
  have := spent.wallet
  have := spent.token
  have := sound.1
  have := sound.2
  exact ⟨by omega, by omega⟩

theorem Spent.trans {purse' purse'' : Purse} {w t w' t' : Int} (first : Spent purse purse' w t)
    (second : Spent purse' purse'' w' t') : Spent purse purse'' (w + w') (t + t') where
  walletSeen := first.walletSeen.trans second.walletSeen
  tokenSeen := first.tokenSeen.trans second.tokenSeen
  wallet := by rw [second.wallet, first.wallet]; omega
  token := by rw [second.token, first.token]; omega

/-! ### Calls that leave wallets and tokens alone -/

theorem accounts_eq (same : accounts s' = accounts s) :
    s'.users = s.users ∧ s'.tokens = s.tokens ∧ s'.caches = s.caches := by
  simpa [accounts] using same

theorem bounded_idle (seen : (purseSetting info).sees purse s) (same : accounts s' = accounts s) :
    Bounded info s s' purse := by
  obtain ⟨users, tokens, caches⟩ := accounts_eq same
  have quota : rowQuota s' info.userId = rowQuota s info.userId := by simp [rowQuota, users]
  have remain : rowRemain s' info.tokenId = rowRemain s info.tokenId := by simp [rowRemain, tokens]
  obtain ⟨-, walletNonneg, tokenNonneg⟩ := seen
  refine ⟨fun other served => ?_, by omega, by omega, by omega, by omega⟩
  exact ⟨by rw [users]; exact served.user, by rw [tokens]; exact served.token,
    by rw [caches]; exact served.freshUser, by rw [caches]; exact served.freshToken⟩

theorem spent_idle (same : accounts s' = accounts s) : Spent purse ((purseSetting info).moves s s' purse) 0 0 := by
  obtain ⟨users, tokens, -⟩ := accounts_eq same
  have quota : rowQuota s' info.userId = rowQuota s info.userId := by simp [rowQuota, users]
  have remain : rowRemain s' info.tokenId = rowRemain s info.tokenId := by simp [rowRemain, tokens]
  refine ⟨?_, ?_, ?_, ?_⟩
  all_goals simp only [purseSetting]; omega

theorem leaves_meets {act : Db α} (leaves : Leaves accounts act) :
    (Program.store act).Meets (purseSetting info) purse fun _ purse' => Spent purse purse' 0 0 := by
  refine .store fun s faults seen _ => ?_
  have same := leaves.exec s faults
  exact ⟨bounded_idle seen same, spent_idle same⟩

/-- A read of the user's quota: the request has now seen what it answers. -/
theorem getUserQuota_meets : (Program.store (getUserQuota info.userId false)).Meets (purseSetting info) purse
      fun outcome purse' => Spent purse purse' 0 0 ∧
        ∀ userQuota, outcome = .ok userQuota → userQuota ≤ purse'.walletSeen := by
  refine .store fun s faults seen _ => ?_
  have row : (getUserQuota info.userId false).exec s faults =
      (read fun s => .ok (rowQuota s info.userId)).exec s faults := by
    simp [getUserQuota, exec, bind_apply, seen.1.freshUser, rowQuota]
  rw [row]
  rcases exec_read (fun s => .ok (rowQuota s info.userId)) s faults with ⟨e, failed⟩ | ran
  · rw [failed]
    exact ⟨bounded_idle seen rfl, spent_idle rfl, by simp⟩
  · rw [ran]
    refine ⟨bounded_idle seen rfl, spent_idle rfl, fun userQuota found => ?_⟩
    cases found
    exact le_max_right _ _

/-- A read of the token: the request has now seen its remaining quota. -/
theorem getTokenByKey_meets : (Program.store (getTokenByKey info.tokenKey false)).Meets (purseSetting info) purse
      fun outcome purse' => Spent purse purse' 0 0 ∧
        ∀ token, outcome = .ok token → token.remainQuota ≤ purse'.tokenSeen := by
  refine .store fun s faults seen _ => ?_
  obtain ⟨token, byId, byKey⟩ := seen.1.token
  have row : (getTokenByKey info.tokenKey false).exec s faults =
      (first (fun s => s.tokens.find? (·.key = info.tokenKey)) errRecordNotFound).exec s faults := by
    simp [getTokenByKey, exec, bind_apply, seen.1.freshToken]
  rw [row, first]
  rcases exec_read _ s faults with ⟨e, failed⟩ | ran
  · rw [failed]
    exact ⟨bounded_idle seen rfl, spent_idle rfl, by simp⟩
  rw [ran, byKey]
  refine ⟨bounded_idle seen rfl, spent_idle rfl, fun found_ found => ?_⟩
  cases found
  have remain : rowRemain s info.tokenId = token.remainQuota := by simp [rowRemain, byId]
  rw [← remain]
  exact le_max_right _ _

/-- A statement that fails or moves the wallet by `value`. -/
theorem addUserQuota_meets {value : Int} (seen : -value ≤ max 0 purse.walletSeen)
    (enough : 0 ≤ purse.walletTaken - value) :
    (Program.store (autocommit (·.addUserQuota info.userId value))).Meets (purseSetting info) purse
      (Takes purse () (-value) 0) := by
  refine .store fun s faults sees _ => ?_
  rcases exec_autocommit (·.addUserQuota info.userId value) s faults with ⟨e, failed⟩ | ran
  · rw [failed]
    exact ⟨bounded_idle sees rfl, .inl ⟨e, rfl, spent_idle rfl⟩⟩
  rw [ran]
  obtain ⟨served, -, nonneg⟩ := sees
  have quota := rowQuota_addUserQuota served.user value info.userId
  have remain : rowRemain (s.addUserQuota info.userId value) info.tokenId = rowRemain s info.tokenId := rfl
  rw [if_pos rfl] at quota
  refine ⟨⟨fun other here => here.addUserQuota _ _, ?_, ?_, ?_, ?_⟩, .inr ⟨rfl, ?_, ?_, ?_, ?_⟩⟩
  all_goals first | omega | (simp only [purseSetting]; omega)

/-- A statement that fails or moves the token by `value`. -/
theorem addTokenQuota_meets (mode : CallMode Store) {value : Int}
    (seen : -value ≤ max 0 purse.tokenSeen) (enough : 0 ≤ purse.tokenTaken - value) :
    (Program.call mode (autocommit (·.addTokenQuota info.tokenId value)) Program.done).Meets
      (purseSetting info) purse (Takes purse () 0 (-value)) := by
  intro s faults sees _
  rcases exec_autocommit (·.addTokenQuota info.tokenId value) s faults with ⟨e, failed⟩ | ran
  · rw [failed]
    exact ⟨bounded_idle sees rfl, .inl ⟨e, rfl, spent_idle rfl⟩⟩
  rw [ran]
  obtain ⟨served, nonneg, -⟩ := sees
  obtain ⟨row, byId, -⟩ := served.token
  have remain := rowRemain_addTokenQuota byId value info.tokenId
  have quota : rowQuota (s.addTokenQuota info.tokenId value) info.userId = rowQuota s info.userId := rfl
  rw [if_pos rfl] at remain
  refine ⟨⟨fun other here => here.addTokenQuota _ _, ?_, ?_, ?_, ?_⟩, .inr ⟨rfl, ?_, ?_, ?_, ?_⟩⟩
  all_goals first | omega | (simp only [purseSetting]; omega)

section
variable (direct : cfg.batchUpdateEnabled = false) (real : info.isPlayground = false)
  (limited : info.tokenUnlimited = false)
include direct real limited

/-- The relay information of the same request and token. -/
structure SameToken (info info' : RelayInfo) : Prop where
  userId : info'.userId = info.userId
  tokenId : info'.tokenId = info.tokenId
  tokenKey : info'.tokenKey = info.tokenKey
  isPlayground : info'.isPlayground = info.isPlayground
  tokenUnlimited : info'.tokenUnlimited = info.tokenUnlimited

theorem preConsumeTokenQuota_meets (same : SameToken info info') (sound : purse.Sound) (quota : Int) :
    (preConsumeTokenQuota cfg info' quota).Meets (purseSetting info) purse (Takes purse () 0 quota) := by
  have refl : Spent purse purse 0 0 := ⟨le_rfl, le_rfl, by omega, by omega⟩
  unfold preConsumeTokenQuota
  rw [same.isPlayground, same.tokenId, same.tokenKey, same.tokenUnlimited, real, limited]
  split
  · exact .inl ⟨_, rfl, refl⟩
  rename_i nonneg
  rw [if_neg (by decide)]
  refine .bind getTokenByKey_meets ?_
  rintro outcome purse₁ ⟨spent, seen⟩
  cases outcome with
  | error e => exact .inl ⟨e, rfl, spent⟩
  | ok token =>
    have covers := seen token rfl
    dsimp only
    split
    · exact .inl ⟨_, rfl, spent⟩
    rename_i enough
    have enough : quota ≤ token.remainQuota := by simpa using enough
    have took := spent.token
    have nonneg' := sound.2
    rw [decreaseTokenQuota, if_neg nonneg, changeTokenQuota, direct]
    refine (addTokenQuota_meets .plain (by omega) (by omega)).mono ?_
    rintro outcome purse₂ (⟨e, rfl, idle⟩ | ⟨rfl, moved⟩)
    · exact .inl ⟨e, rfl, spent.trans idle⟩
    · refine .inr ⟨rfl, ?_⟩
      have both := spent.trans moved
      rwa [neg_neg, zero_add, zero_add] at both

/-- Step 1 of a pre-consumption. -/
theorem takeToken_meets {session : BillingSession} (same : SameToken info session.relayInfo)
    (sound : purse.Sound) (effectiveQuota : Int) (nothing : session.tokenConsumed = 0) :
    (session.takeToken cfg effectiveQuota).Meets (purseSetting info) purse
      (Takes purse { session with tokenConsumed := max 0 effectiveQuota } 0 (max 0 effectiveQuota)) := by
  unfold takeToken
  split
  · rw [max_eq_right (by omega)]
    refine .bind (preConsumeTokenQuota_meets direct real limited same sound _) ?_
    rintro outcome purse' (⟨e, rfl, spent⟩ | ⟨rfl, spent⟩)
    · exact .inl ⟨e, rfl, spent⟩
    · exact .inr ⟨rfl, spent⟩
  · rw [max_eq_left (by omega), ← nothing]
    exact .inr ⟨rfl, le_rfl, le_rfl, by omega, by omega⟩

omit limited in
/-- The roll-back of step 1 gives back what step 1 has taken. -/
theorem rollbackToken_meets {session : BillingSession} (same : SameToken info session.relayInfo)
    (sound : purse.Sound) (held : session.tokenConsumed ≤ purse.tokenTaken) :
    (session.rollbackToken cfg).Meets (purseSetting info) purse fun _ purse' => purse'.Sound := by
  unfold rollbackToken
  rw [same.isPlayground, same.tokenId, real]
  split
  · rw [increaseTokenQuota, if_neg (by omega), changeTokenQuota, direct]
    refine .bind (addTokenQuota_meets .rollback (by omega) (by omega)) ?_
    rintro outcome purse' (⟨e, rfl, idle⟩ | ⟨rfl, moved⟩)
    · exact idle.sound sound le_rfl le_rfl
    · have wallet := moved.wallet
      have token := moved.token
      exact ⟨by have := sound.1; omega, by omega⟩
  · exact sound

end

def Granted (outcome : Except ApiError BillingSession) (purse : Purse) : Prop :=
  purse.Sound ∧ ∀ session, outcome = .ok session →
    (session.funding.source = .wallet → session.preConsumedQuota ≤ purse.walletTaken) ∧
      session.preConsumedQuota ≤ purse.tokenTaken

theorem granted_error {e : ApiError} (sound : purse.Sound) : Granted (.error e) purse :=
  ⟨sound, fun _ ended => by simp at ended⟩

section
variable (direct : cfg.batchUpdateEnabled = false) (real : info.isPlayground = false)
  (limited : info.tokenUnlimited = false)
include direct real limited

omit limited in
/-- Step 2: the funding source provides the amount, or step 1 is undone. -/
theorem takeFunding_meets {session : BillingSession} {effectiveQuota : Int} (sound : purse.Sound)
    (same : SameToken info session.relayInfo) (held : session.tokenConsumed ≤ purse.tokenTaken)
    (token : effectiveQuota ≤ purse.tokenTaken)
    (funded : (session.funding.preConsume cfg fuel ctx.dbNow effectiveQuota).Meets (purseSetting info)
      purse (Funds purse effectiveQuota)) :
    (session.takeFunding cfg fuel ctx effectiveQuota).Meets (purseSetting info) purse Granted := by
  refine .bind funded ?_
  rintro outcome purse' (⟨e, rfl, idle⟩ | ⟨funding, w, rfl, nonneg, spent, wallet⟩)
  · have took := idle.token
    refine .bind (rollbackToken_meets direct real same (idle.sound sound le_rfl le_rfl) (by omega)) ?_
    intro _ purse'' sound'
    exact granted_error sound'
  · refine ⟨spent.sound sound nonneg le_rfl, ?_⟩
    rintro _ ⟨⟩
    rw [sync_eq]
    have took := spent.token
    have paid := spent.wallet
    have before := sound.1
    refine ⟨fun source => ?_, ?_⟩
    · have := wallet source
      show effectiveQuota ≤ _
      omega
    · show effectiveQuota ≤ _
      omega

omit real limited in
theorem walletPreConsume_meets {effectiveQuota : Int} (sound : purse.Sound)
    (seen : effectiveQuota ≤ max 0 purse.walletSeen) (now : Int) :
    (FundingSource.preConsume cfg fuel now effectiveQuota (.wallet ⟨info.userId, 0⟩)).Meets
      (purseSetting info) purse (Funds purse effectiveQuota) := by
  have before := sound.1
  simp only [FundingSource.preConsume]
  split
  · rename_i none_
    exact .inr ⟨_, 0, rfl, le_rfl, ⟨le_rfl, le_rfl, by omega, by omega⟩, fun _ => none_⟩
  rename_i positive
  rw [decreaseUserQuota, if_neg (by omega), changeUserQuota, direct]
  refine .bind (addUserQuota_meets (by omega) (by omega)) ?_
  rintro outcome purse' (⟨e, rfl, idle⟩ | ⟨rfl, moved⟩)
  · exact .inl ⟨e, rfl, idle⟩
  · rw [neg_neg] at moved
    exact .inr ⟨_, effectiveQuota, rfl, by omega, moved, fun _ => le_rfl⟩

end

/-! ### Subscriptions leave the accounts alone -/

theorem leaves_first {β : Type} (row : Store → Option β) (missing : String) :
    Leaves accounts (first row missing) := leaves_read _

theorem leaves_getPlan (id : Int) : Leaves accounts (getSubscriptionPlanByIdTx id) := by
  refine leaves_ite (fun _ => leaves_throw _) fun _ => ?_
  refine leaves_bind (leaves_peek _) fun cached => ?_
  cases cached with
  | some plan => exact leaves_pure _
  | none => exact leaves_bind (leaves_first _ _) fun _ => leaves_pure _

theorem leaves_maybeReset (sub : UserSubscription) (plan : SubscriptionPlan) (now : Int) :
    Leaves accounts (maybeResetUserSubscriptionWithPlanTx cfg fuel sub plan now) := by
  unfold maybeResetUserSubscriptionWithPlanTx
  split
  · exact leaves_pure _
  · exact leaves_bind (leaves_write fun _ => rfl) fun _ => leaves_pure _
  · exact leaves_bind (leaves_write fun _ => rfl) fun _ => leaves_pure _
  · exact leaves_throw _

variable (requestId : String)

theorem leaves_chargeCandidate (userId amount : Int) (sub : UserSubscription) :
    Leaves accounts (chargeCandidate requestId userId amount sub) := by
  refine leaves_bind (leaves_attempt (leaves_insert _ fun _ => rfl)) fun created => ?_
  cases created with
  | ok _ => exact leaves_bind (leaves_write fun _ => rfl) fun _ => leaves_pure _
  | error e =>
    refine leaves_bind (leaves_attempt (leaves_first _ _)) fun found => ?_
    cases found with
    | error _ => exact leaves_throw _
    | ok dup => exact leaves_ite (fun _ => leaves_throw _) fun _ => leaves_pure _

theorem leaves_chargeFirst (userId amount now : Int) (candidates : List UserSubscription) :
    Leaves accounts (chargeFirst cfg fuel requestId userId amount now candidates) := by
  induction candidates with
  | nil => exact leaves_throw _
  | cons candidate rest ih =>
    refine leaves_bind (leaves_getPlan _) fun plan => ?_
    refine leaves_bind (leaves_maybeReset _ _ _) fun sub => ?_
    exact leaves_ite (fun _ => ih) fun _ => leaves_chargeCandidate _ _ _ _

theorem leaves_preConsume (userId amount now : Int) :
    Leaves accounts (preConsumeUserSubscription cfg fuel requestId userId amount now) := by
  refine leaves_ite (fun _ => leaves_throw _) fun _ => ?_
  refine leaves_ite (fun _ => leaves_throw _) fun _ => ?_
  refine leaves_ite (fun _ => leaves_throw _) fun _ => leaves_transaction ?_
  refine leaves_bind (leaves_read _) fun existing => ?_
  cases existing with
  | some record =>
    refine leaves_ite (fun _ => leaves_throw _) fun _ => ?_
    exact leaves_bind (leaves_first _ _) fun _ => leaves_pure _
  | none =>
    refine leaves_bind (leaves_failWith _ (leaves_read _)) fun subs => ?_
    exact leaves_ite (fun _ => leaves_throw _) fun _ => leaves_chargeFirst _ _ _ _ _

theorem leaves_getSubscriptionPlanInfo (id : Int) : Leaves accounts (getSubscriptionPlanInfo id) := by
  refine leaves_ite (fun _ => leaves_throw _) fun _ => ?_
  refine leaves_bind (leaves_first _ _) fun sub => ?_
  exact leaves_bind (leaves_getPlan _) fun _ => leaves_pure _

theorem subscriptionPreConsume_meets (funding : SubscriptionFunding) (now amount : Int) :
    (FundingSource.preConsume cfg fuel now amount (.subscription funding)).Meets (purseSetting info)
      purse (Funds purse amount) := by
  refine .bind (leaves_meets (leaves_preConsume _ _ _ _)) ?_
  intro outcome purse₁ first_
  cases outcome with
  | error e => exact .inl ⟨e, rfl, first_⟩
  | ok result =>
    refine .bind (leaves_meets (leaves_getSubscriptionPlanInfo _)) ?_
    intro plan purse₂ second
    cases plan with
    | error e => exact .inr ⟨_, 0, rfl, le_rfl, first_.trans second, fun wallet => by cases wallet⟩
    | ok plan => exact .inr ⟨_, 0, rfl, le_rfl, first_.trans second, fun wallet => by cases wallet⟩

variable (direct : cfg.batchUpdateEnabled = false) (real : info.isPlayground = false)
  (limited : info.tokenUnlimited = false)
include direct real limited

theorem tryWallet_meets (sound : purse.Sound) :
    (tryWallet cfg fuel ctx info quota).Meets (purseSetting info) purse Granted := by
  refine .bind getUserQuota_meets ?_
  rintro outcome purse₁ ⟨spent, seen⟩
  have sound₁ := spent.sound sound le_rfl le_rfl
  cases outcome with
  | error e => exact granted_error sound₁
  | ok userQuota =>
    have covers := seen userQuota rfl
    dsimp only
    split
    · exact granted_error sound₁
    split
    · exact granted_error sound₁
    have same : SameToken info { info with userQuota } := ⟨rfl, rfl, rfl, rfl, rfl⟩
    unfold preConsume
    generalize shouldTrust cfg ctx _ = trusted
    -- a trusted session takes nothing, the others what was checked
    refine .bind (takeToken_meets direct real limited same sound₁ _ rfl) ?_
    rintro outcome purse₂ (⟨e, rfl, idle⟩ | ⟨rfl, took⟩)
    · exact granted_error (idle.sound sound₁ le_rfl le_rfl)
    have sound₂ := took.sound sound₁ le_rfl (le_max_left _ _)
    have token := took.token
    have wallet := took.walletSeen
    have nonneg := sound₁.2
    refine takeFunding_meets direct real sound₂ same ?_ ?_ (walletPreConsume_meets direct sound₂ ?_ _)
    · show max 0 _ ≤ _
      omega
    · omega
    · omega

theorem trySubscription_meets (sound : purse.Sound) :
    (trySubscription cfg fuel ctx info quota).Meets (purseSetting info) purse Granted := by
  have same : SameToken info info := ⟨rfl, rfl, rfl, rfl, rfl⟩
  refine .bind (takeToken_meets direct real limited same sound _ rfl) ?_
  rintro outcome purse₁ (⟨e, rfl, idle⟩ | ⟨rfl, took⟩)
  · exact granted_error (idle.sound sound le_rfl le_rfl)
  have sound₁ := took.sound sound le_rfl (le_max_left _ _)
  have token := took.token
  have nonneg := sound.2
  refine takeFunding_meets direct real sound₁ same ?_ ?_ (subscriptionPreConsume_meets _ _ _)
  · show max 0 _ ≤ _
    omega
  · omega

/-- **A granted session is covered by what its request has taken**, whichever way it is
funded. -/
theorem newBillingSession_meets :
    (newBillingSession cfg fuel ctx info quota).Meets (purseSetting info) .empty Granted := by
  refine newBillingSession_rule (fun _ => tryWallet_meets direct real limited)
    (fun _ => trySubscription_meets direct real limited) ?_ ?_ ⟨le_rfl, le_rfl⟩
  · intro purse sound
    have look : Leaves accounts (hasActiveUserSubscription info.userId ctx.now) :=
      leaves_ite (fun _ => leaves_throw _) fun _ => leaves_read _
    exact (leaves_meets look).mono fun _ _ spent => spent.sound sound le_rfl le_rfl
  · exact fun e purse => ⟨And.left, granted_error⟩

end

/-! ## Requests side by side -/

section
variable {ι : Type} [DecidableEq ι]

/-- Any interleaving of the requests' calls, each of which may fail. -/
def purseRules (info : ι → RelayInfo) (admits : ι → Store → Store → (ι → Purse) → Prop) :
    Rules Store ι (ι → Purse) where
  env _ _ := False
  guard i _ s s' purses := admits i s s' purses
  own i _ s s' purses := update purses i ((purseSetting (info i)).moves s s' (purses i))
  outside _ _ purses := purses

/-- A call that takes from a balance finds it at least as high as the request's earlier calls
did. -/
def Undiminished (info : ι → RelayInfo) (i : ι) (s s' : Store) (purses : ι → Purse) : Prop :=
  (rowQuota s' (info i).userId < rowQuota s (info i).userId → (purses i).walletSeen ≤ rowQuota s (info i).userId) ∧
  (rowRemain s' (info i).tokenId < rowRemain s (info i).tokenId → (purses i).tokenSeen ≤ rowRemain s (info i).tokenId)
deriving Decidable

/-- Requests of one user with one limited token. -/
structure OneAccount (info : ι → RelayInfo) (userId tokenId : Int) : Prop where
  userId : ∀ i, (info i).userId = userId
  tokenId : ∀ i, (info i).tokenId = tokenId
  isPlayground : ∀ i, (info i).isPlayground = false
  tokenUnlimited : ∀ i, (info i).tokenUnlimited = false

/-- The session handler `i` has been granted. -/
def grantedSession (c : Pool Store (Except ApiError BillingSession) ι) (i : ι) : Option BillingSession :=
  match c.main i with
  | .done (.ok session) => some session
  | _ => none

def walletGranted (c : Pool Store (Except ApiError BillingSession) ι) (i : ι) : Int :=
  (grantedSession c i).elim 0 fun session =>
    if session.funding.source = .wallet then session.preConsumedQuota else 0

def tokenGranted (c : Pool Store (Except ApiError BillingSession) ι) (i : ι) : Int :=
  (grantedSession c i).elim 0 (·.preConsumedQuota)

/-- What was there at first covers what has been taken, and the rest is not negative. -/
structure Covering (info : ι → RelayInfo) (userId tokenId : Int) (s₀ s : Store) (purses : ι → Purse) :
    Prop where
  served : ∀ i, Served (info i) s
  walletNonneg : 0 ≤ rowQuota s userId
  tokenNonneg : 0 ≤ rowRemain s tokenId
  wallet : Covered (fun i => (purses i).walletTaken) (rowQuota s₀ userId - rowQuota s userId)
  token : Covered (fun i => (purses i).tokenTaken) (rowRemain s₀ tokenId - rowRemain s tokenId)

variable {info : ι → RelayInfo} {userId tokenId : Int} {s₀ s s' : Store} {purses : ι → Purse}

theorem Covering.step (one : OneAccount info userId tokenId)
    (covering : Covering info userId tokenId s₀ s purses) {i : ι}
    (undiminished : Undiminished info i s s' purses) (bounded : Bounded (info i) s s' (purses i)) :
    Covering info userId tokenId s₀ s' (update purses i ((purseSetting (info i)).moves s s' (purses i))) := by
  obtain ⟨walletGuard, tokenGuard⟩ := undiminished
  obtain ⟨serves, walletSeen, walletBack, tokenSeen, tokenBack⟩ := bounded
  have walletNonneg := covering.walletNonneg
  have tokenNonneg := covering.tokenNonneg
  rw [one.userId] at walletGuard walletSeen walletBack
  rw [one.tokenId] at tokenGuard tokenSeen tokenBack
  have wallets : (fun j => (update purses i ((purseSetting (info i)).moves s s' (purses i)) j).walletTaken) =
      update (fun j => (purses j).walletTaken) i
        ((purses i).walletTaken + (rowQuota s userId - rowQuota s' userId)) := by
    rw [← one.userId i]
    exact funext (apply_update (fun _ => Purse.walletTaken) purses i _)
  have tokens : (fun j => (update purses i ((purseSetting (info i)).moves s s' (purses i)) j).tokenTaken) =
      update (fun j => (purses j).tokenTaken) i
        ((purses i).tokenTaken + (rowRemain s tokenId - rowRemain s' tokenId)) := by
    rw [← one.tokenId i]
    exact funext (apply_update (fun _ => Purse.tokenTaken) purses i _)
  refine ⟨fun j => serves _ (covering.served j), by omega, by omega, ?_, ?_⟩
  · rw [wallets]
    have moved := covering.wallet.move walletBack
    rwa [sub_add_sub_cancel] at moved
  · rw [tokens]
    have moved := covering.token.move tokenBack
    rwa [sub_add_sub_cancel] at moved

variable {cfg : Config} {fuel : Nat} {ctx : ι → RequestContext} {quota : ι → Int}
  {c : Pool Store (Except ApiError BillingSession) ι}

theorem covering_of_run (direct : cfg.batchUpdateEnabled = false)
    (one : OneAccount info userId tokenId) (served : ∀ i, Served (info i) s₀)
    (walletNonneg : 0 ≤ rowQuota s₀ userId) (tokenNonneg : 0 ≤ rowRemain s₀ tokenId)
    (run : Run (purseRules info (Undiminished info))
      (initial s₀ fun i => newBillingSession cfg fuel (ctx i) (info i) (quota i)) (fun _ => .empty) c purses) :
    Covering info userId tokenId s₀ c.store purses ∧
      ∀ i, c.kids i = [] ∧ (c.main i).Meets (purseSetting (info i)) (purses i) Granted := by
  refine Run.meets (fun i => purseSetting (info i)) (fun _ => Granted)
    (fun i purses => purses i) (fun s purses => Covering info userId tokenId s₀ s purses) ?_ ?_
    ⟨?_, fun _ _ _ _ _ _ _ => trivial, ?_, ?_, ?_, ?_⟩ run
  · exact ⟨served, walletNonneg, tokenNonneg, .zero (by omega), .zero (by omega)⟩
  · intro i
    exact newBillingSession_meets direct (one.isPlayground i) (one.tokenUnlimited i)
  · intro i s purses covering
    exact ⟨covering.served i, covering.wallet.nonneg i, covering.token.nonneg i⟩
  · intro i faults s s' purses
    exact update_self i _ _
  · intro i j faults s s' purses other
    exact update_of_ne other _ _
  · intro i faults s s' purses covering undiminished bounded
    exact covering.step one undiminished bounded
  · intro s s' purses covering changed
    exact changed.elim

omit [DecidableEq ι] in
theorem granted_le {i : ι} {purse : Purse}
    (met : (c.main i).Meets (purseSetting (info i)) purse Granted) (sound : purse.Sound) :
    walletGranted c i ≤ purse.walletTaken ∧ tokenGranted c i ≤ purse.tokenTaken := by
  unfold walletGranted tokenGranted grantedSession
  split
  · rename_i session ended
    rw [ended] at met
    obtain ⟨wallet, token⟩ := met.2 session rfl
    refine ⟨?_, token⟩
    simp only [Option.elim_some]
    split
    · rename_i source
      exact wallet source
    · exact sound.1
  · exact sound

/-- **No overdraft** in a run in which a request takes only from a balance that has not
dropped since the request looked at it. -/
theorem preConsumption_covered (direct : cfg.batchUpdateEnabled = false)
    (one : OneAccount info userId tokenId) (served : ∀ i, Served (info i) s₀)
    (walletNonneg : 0 ≤ rowQuota s₀ userId) (tokenNonneg : 0 ≤ rowRemain s₀ tokenId)
    (run : Run (purseRules info (Undiminished info))
      (initial s₀ fun i => newBillingSession cfg fuel (ctx i) (info i) (quota i)) (fun _ => .empty) c purses) :
    0 ≤ rowQuota c.store userId ∧ 0 ≤ rowRemain c.store tokenId ∧
      ∀ group : Finset ι, ∑ i ∈ group, walletGranted c i ≤ rowQuota s₀ userId ∧
        ∑ i ∈ group, tokenGranted c i ≤ rowRemain s₀ tokenId := by
  obtain ⟨covering, fits⟩ := covering_of_run direct one served walletNonneg tokenNonneg run
  have bound : ∀ i, walletGranted c i ≤ (purses i).walletTaken ∧ tokenGranted c i ≤ (purses i).tokenTaken := fun i =>
    granted_le (fits i).2 ⟨covering.wallet.nonneg i, covering.token.nonneg i⟩
  refine ⟨covering.walletNonneg, covering.tokenNonneg, fun group => ⟨?_, ?_⟩⟩
  · calc ∑ i ∈ group, walletGranted c i
        ≤ ∑ i ∈ group, (purses i).walletTaken := Finset.sum_le_sum fun i _ => (bound i).1
      _ ≤ rowQuota s₀ userId - rowQuota c.store userId := covering.wallet.sum_le group
      _ ≤ rowQuota s₀ userId := by have := covering.walletNonneg; omega
  · calc ∑ i ∈ group, tokenGranted c i
        ≤ ∑ i ∈ group, (purses i).tokenTaken := Finset.sum_le_sum fun i _ => (bound i).2
      _ ≤ rowRemain s₀ tokenId - rowRemain c.store tokenId := covering.token.sum_le group
      _ ≤ rowRemain s₀ tokenId := by have := covering.tokenNonneg; omega

end

/-! ## Two requests -/

def modestAccount : Store := { empty with
  users := fun id => if id = 1 then some ⟨1, "default", 10, "", ""⟩ else none
  tokens := [⟨1, "k", 10, 0, false⟩] }

/-- Two requests that pre-consume `amount` each. -/
def twoRequests (amount : Int) : Pool Store (Except ApiError BillingSession) (Fin 2) :=
  initial modestAccount fun _ =>
    newBillingSession plainConfig 5 ⟨0, 0, 0⟩ { plainRequest with billingPreference := "wallet_only" }
      amount

def walletOnly (_ : Fin 2) : RelayInfo := { plainRequest with billingPreference := "wallet_only" }

theorem modestAccount_served (i : Fin 2) : Served (walletOnly i) modestAccount :=
  ⟨by simp [modestAccount, walletOnly, plainRequest],
    ⟨⟨1, "k", 10, 0, false⟩, rfl, rfl⟩, rfl, rfl⟩

/-- One after the other: 4 and 4 of 10. -/
theorem preConsumption_covered_inTurn :
    ∃ c purses, Run (purseRules walletOnly (Undiminished walletOnly)) (twoRequests 4) (fun _ => .empty) c purses ∧
      walletGranted c 0 = 4 ∧ walletGranted c 1 = 4 ∧ ∑ i ∈ {0, 1}, walletGranted c i ≤ rowQuota modestAccount 1 := by
  refine exists_play (fun c _ => walletGranted c 0 = 4 ∧ walletGranted c 1 = 4)
    (fun i s s' purses => decide (Undiminished walletOnly i s s' purses))
    (fun i s s' purses admitted => by simpa [purseRules] using admitted)
    [.main 0, .main 0, .main 0, .main 0, .main 1, .main 1, .main 1, .main 1] (by decide +kernel) ?_
  intro c purses run granted
  exact ⟨granted.1, granted.2, ((preConsumption_covered rfl ⟨fun _ => rfl, fun _ => rfl, fun _ => rfl, fun _ => rfl⟩
      modestAccount_served (by decide) (by decide) run).2.2 {0, 1}).1⟩

/-- Both check before either takes: 8 and 8 of 10 are granted, and both balances end at -6. -/
theorem preConsumption_overdrawn : ∃ c purses, Run (purseRules walletOnly fun _ _ _ _ => True) (twoRequests 8)
        (fun _ => .empty) c purses ∧ walletGranted c 0 = 8 ∧ walletGranted c 1 = 8 ∧ rowQuota modestAccount 1 = 10 ∧
      rowQuota c.store 1 = -6 ∧ rowRemain c.store 1 = -6 := by
  exact exists_free_play (fun _ _ _ _ => trivial)
    [.main 0, .main 1, .main 0, .main 1, .main 0, .main 1, .main 0, .main 1] (by decide +kernel)

end NewApi.Billing
