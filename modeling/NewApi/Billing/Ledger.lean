/-
# Billing.Ledger — what one billing session has taken, and what it owes the others

Every session keeps a private ledger: the change its own calls have made to each wallet, token and
subscription, and the idempotency record of its request.  For a subscription that is the amount
posted, what the session *meant* to move: the used amount itself is cut off at zero.

In `bookSetting` a session sees a valid table, its own rows and its record.  It owes the others that
it leaves their records alone and never posts back more than it holds (`Owed`).
-/
import NewApi.Subscription.QuotaSteps
import NewApi.Billing.Accounts

namespace NewApi.Billing
open Theory Model Subscription Function List Store Int

/-- The places quota is taken from. -/
inductive Account where
  | wallet (userId : Int)
  | tokenRemain (tokenId : Int)
  | tokenUsed (tokenId : Int)
  | subscription (subscriptionId : Int)
deriving DecidableEq

/-- What stands in an account, pending deltas included. -/
def balance (s : Store) : Account → Int
  | .wallet userId => ((s.users userId).map (·.quota)).getD 0 + s.batchUserQuota userId
  | .tokenRemain tokenId =>
    ((s.tokens.find? (·.id = tokenId)).map (·.remainQuota)).getD 0 + s.batchTokenQuota tokenId
  | .tokenUsed tokenId =>
    ((s.tokens.find? (·.id = tokenId)).map (·.usedQuota)).getD 0 - s.batchTokenQuota tokenId
  | .subscription subscriptionId => s.used subscriptionId

/-- The change of an account when `amount` is taken from it: a wallet and the rest of a
token go down, used amounts go up. -/
def debit : Account → Int → Int
  | .wallet _, amount => -amount
  | .tokenRemain _, amount => -amount
  | .tokenUsed _, amount => amount
  | .subscription _, amount => amount

@[simp] theorem debit_zero (account : Account) : debit account 0 = 0 := by cases account <;> rfl

theorem debit_tokenRemain (tokenId amount : Int) : debit (.tokenRemain tokenId) amount = -amount := rfl

theorem debit_tokenUsed (tokenId amount : Int) : debit (.tokenUsed tokenId) amount = amount := rfl

theorem debit_add (account : Account) (a b : Int) : debit account (a + b) = debit account a + debit account b := by
  cases account <;> simp only [debit] <;> omega

/-! ## Postings -/

variable (subId : Int)

def posting : Event → Int
  | .charged _ id amount => if id = subId then amount else 0
  | .refunded _ id amount => if id = subId then -amount else 0
  | .posted id delta => if id = subId then delta else 0
  | _ => 0

def net (events : List Event) : Int := (events.map (posting subId)).sum

def news (s s' : Store) : List Event := s'.history.drop s.history.length

theorem news_eq {s s' : Store} {events : List Event} (history : s'.history = s.history ++ events) :
    news s s' = events := by
  simp [news, history]

@[simp] theorem net_nil : net subId [] = 0 := rfl

theorem net_append (events more : List Event) : net subId (events ++ more) = net subId events + net subId more := by
  simp [net]

theorem net_resets (ids : List Int) : net subId (ids.map .reset) = 0 := by
  induction ids with
  | nil => rfl
  | cons id ids ih => simpa [net, posting] using ih

/-- The event posts `delta` to `id`, and nothing elsewhere. -/
structure Posts (event : Event) (id delta : Int) : Prop where
  posting_eq : ∀ subId, posting subId event = if subId = id then delta else 0
  effect_eq : ∀ subId used, 0 ≤ used →
    effect subId used event = if subId = id then max 0 (used + delta) else used

theorem posts_charged (requestId : String) (id : Int) {amount : Int} (positive : 0 < amount) :
    Posts (.charged requestId id amount) id amount where
  posting_eq subId := by simp only [posting, eq_comm]
  effect_eq subId used nonneg := by
    simp only [effect, eq_comm]
    split
    · omega
    · rfl

theorem posts_refunded (requestId : String) (id amount : Int) : Posts (.refunded requestId id amount) id (-amount) where
  posting_eq subId := by simp only [posting, eq_comm]
  effect_eq subId used _ := by simp only [effect, eq_comm]

theorem posts_posted (id delta : Int) : Posts (.posted id delta) id delta where
  posting_eq subId := by simp only [posting, eq_comm]
  effect_eq subId used _ := by simp only [effect, eq_comm]

theorem Posts.net_eq {event : Event} {id delta : Int} (posts : Posts event id delta) (ids : List Int)
    (subId : Int) : net subId (ids.map .reset ++ [event]) = if subId = id then delta else 0 := by
  rw [net_append, net_resets, ← posts.posting_eq subId]
  simp [net]

/-! ## The private ledger -/

structure Ledger where
  booked : Account → Int
  record : Option SubscriptionPreConsumeRecord

namespace Ledger

def empty : Ledger := ⟨fun _ => 0, none⟩

/-- `amount` more is taken from `account`. -/
def take (g : Ledger) (account : Account) (amount : Int) : Ledger :=
  { g with booked := fun a => g.booked a + if a = account then debit account amount else 0 }

/-- `amount` more is taken from a token: it has that much less left and more used. -/
def takeToken (g : Ledger) (tokenId amount : Int) : Ledger :=
  (g.take (.tokenRemain tokenId) amount).take (.tokenUsed tokenId) amount

@[simp] theorem take_zero (g : Ledger) (account : Account) : g.take account 0 = g := by
  unfold take
  simp

end Ledger

def moved (s s' : Store) : Account → Int
  | .subscription subId => net subId (news s s')
  | account => balance s' account - balance s account

/-- What a session of `info` knows of the store when it makes a call. -/
structure Seen (info : RelayInfo) (g : Ledger) (s : Store) : Prop where
  valid : s.Valid
  user : (s.users info.userId).isSome
  token : info.isPlayground = false → info.tokenId ∈ s.tokens.map (·.id)
  record : s.findRecord info.requestId = g.record
  nonneg : ∀ subId, 0 ≤ g.booked (.subscription subId)
  rows : ∀ subId, g.booked (.subscription subId) ≠ 0 → subId ∈ s.subs.map (·.id)

/-- What a call of a session of `info` owes the others. -/
structure Owed (info : RelayInfo) (s s' : Store) (g : Ledger) : Prop where
  valid : s'.Valid
  users : ∀ userId, (s'.users userId).isSome = (s.users userId).isSome
  tokens : s'.tokens.map (·.id) = s.tokens.map (·.id)
  ids : s'.subs.map (·.id) = s.subs.map (·.id)
  records : ∀ requestId, requestId ≠ info.requestId →
    s'.findRecord requestId = s.findRecord requestId
  /-- some resets, then at most one posting -/
  events : ∃ (resets : List Int) (last : Option Event),
    s'.history = s.history ++ (resets.map .reset ++ last.toList) ∧
    ∀ event ∈ last, ∃ id delta, Posts event id delta ∧ id ∈ s.subs.map (·.id)
  used : ∀ subId, s'.used subId = (news s s').foldl (effect subId) (s.used subId)
  nonneg : ∀ subId, 0 ≤ g.booked (.subscription subId) + net subId (news s s')

/-- Sessions side by side, every store call succeeding. -/
def bookSetting (info : RelayInfo) : Setting Store Ledger where
  meets _ faults := faults = []
  sees := Seen info
  moves s s' g := ⟨fun account => g.booked account + moved s s' account, s'.findRecord info.requestId⟩
  keeps := Owed info

/-! ## Single calls -/

section
variable {info : RelayInfo} {g : Ledger} {α : Type}

/-- A store call, seen from the session that makes it. -/
def Does (info : RelayInfo) (g : Ledger) (act : Db α) (Q : Except String α → Ledger → Prop) : Prop :=
  ∀ s, Seen info g s → Owed info s (act.exec s []).2 g ∧
    Q (act.exec s []).1 ((bookSetting info).moves s (act.exec s []).2 g)

variable {act : Db α} {subId now : Int} {Q : Except String α → Ledger → Prop} {fuel : Nat}

theorem Does.store (does : Does info g act Q) : (Program.store act).Meets (bookSetting info) g Q := by
  rintro s _ seen rfl
  exact does s seen

theorem Does.undo (does : Does info g act Q) : (Program.undo act).Meets (bookSetting info) g Q := by
  rintro s _ seen rfl
  exact does s seen

/-- The quota table and the rows of `s` are those of `s'`. -/
structure Framed (s s' : Store) : Prop where
  subs : s'.subs = s.subs
  records : s'.records = s.records
  history : s'.history = s.history
  users : ∀ userId, (s'.users userId).isSome = (s.users userId).isSome
  tokens : s'.tokens.map (·.id) = s.tokens.map (·.id)

theorem Framed.refl (s : Store) : Framed s s := ⟨rfl, rfl, rfl, fun _ => rfl, rfl⟩

section
variable {s s' : Store} (frame : Framed s s')
include frame

theorem Framed.news : news s s' = [] := news_eq (by rw [frame.history, append_nil])

theorem Framed.findRecord (requestId : String) : s'.findRecord requestId = s.findRecord requestId := by
  unfold Store.findRecord
  rw [frame.records]

theorem Framed.used (subId : Int) : s'.used subId = s.used subId := by
  unfold Store.used Store.findSub
  rw [frame.subs]

theorem Framed.valid (valid : s.Valid) : s'.Valid where
  subIds := by rw [frame.subs]; exact valid.subIds
  subPos := by rw [frame.subs]; exact valid.subPos
  bounds := by rw [frame.subs]; exact valid.bounds
  requestIds := by rw [frame.records]; exact valid.requestIds
  recordPos := by rw [frame.records]; exact valid.recordPos

theorem Framed.owed (seen : Seen info g s) : Owed info s s' g where
  valid := frame.valid seen.valid
  users := frame.users
  tokens := frame.tokens
  ids := by rw [frame.subs]
  records requestId _ := frame.findRecord requestId
  events := ⟨[], none, by simp [frame.history], nofun⟩
  used subId := by rw [frame.news, frame.used]; rfl
  nonneg subId := by rw [frame.news, net_nil, add_zero]; exact seen.nonneg subId

/-- The ledger after a step that leaves the quota table alone. -/
theorem Framed.moves_eq (seen : Seen info g s) (change : Account → Int)
    (changed : ∀ account, balance s' account = balance s account + change account)
    (apart : ∀ subId, change (.subscription subId) = 0) :
    (bookSetting info).moves s s' g = { g with booked := fun a => g.booked a + change a } := by
  have book : ∀ account, moved s s' account = change account := by
    intro account
    cases account with
    | subscription subId => rw [moved, frame.news, apart, net_nil]
    | _ =>
      show balance s' _ - balance s _ = _
      rw [changed]
      omega
  show Ledger.mk (fun a => g.booked a + moved s s' a) (s'.findRecord info.requestId) = _
  simp only [book, frame.findRecord, seen.record]

end

theorem does_local (inner : Sql.Local act) : Does info g act fun _ g' => g' = g := by
  intro s seen
  rw [exec_local inner s []]
  refine ⟨(Framed.refl s).owed seen, ?_⟩
  rw [(Framed.refl s).moves_eq seen (fun _ => 0) (by simp) (by simp)]
  simp

/-! ### Wallets and tokens -/

variable {cfg : Config}

theorem framed_moveUser (cfg : Config) (id value : Int) (s : Store) : Framed s (moveUser cfg id value s) := by
  unfold moveUser
  split
  · exact ⟨rfl, rfl, rfl, fun _ => rfl, rfl⟩
  · refine ⟨rfl, rfl, rfl, fun userId => ?_, rfl⟩
    simp only [addUserQuota, setUser, update_apply]
    split
    · rename_i same
      rw [same, Option.isSome_map]
    · rfl

theorem framed_moveToken (cfg : Config) (id value : Int) (s : Store) : Framed s (moveToken cfg id value s) := by
  unfold moveToken
  split
  · exact ⟨rfl, rfl, rfl, fun _ => rfl, rfl⟩
  · refine ⟨rfl, rfl, rfl, fun _ => rfl, ?_⟩
    simp only [addTokenQuota, setToken, map_map]
    refine map_congr_left fun t _ => ?_
    simp only [comp_apply]
    split <;> rfl

theorem balance_moveUser {id : Int} {s : Store} (present : (s.users id).isSome) (value : Int)
    (account : Account) : balance (moveUser cfg id value s) account =
      balance s account + if account = .wallet id then value else 0 := by
  obtain ⟨user, row⟩ := Option.isSome_iff_exists.mp present
  unfold moveUser
  cases account with
  | wallet userId =>
    by_cases same : userId = id
    · subst same
      split <;> simp [balance, addUserRecord, addUserQuota, setUser, row] <;> omega
    · split <;> simp [balance, addUserRecord, addUserQuota, setUser, same]
  | _ => split <;> simp <;> rfl

@[simp] theorem batchTokenQuota_setToken (s : Store) (id : Int) (change : Token → Token) :
    (s.setToken id change).batchTokenQuota = s.batchTokenQuota := rfl

/-- The row a change of tokens by id leaves under an id. -/
theorem find_setToken (s : Store) (id : Int) (change : Token → Token)
    (keyed : ∀ t, (change t).id = t.id) (tokenId : Int) : (s.setToken id change).tokens.find? (·.id = tokenId) =
      (s.tokens.find? (·.id = tokenId)).map fun t => if tokenId = id then change t else t := by
  have key : ∀ t : Token, (if t.id = id then change t else t).id = t.id := by
    intro t
    split
    · exact keyed t
    · rfl
  simp only [setToken, find?_map, comp_def, key]
  cases found : s.tokens.find? (·.id = tokenId) with
  | none => rfl
  | some t =>
    obtain rfl : t.id = tokenId := by simpa using find?_some found
    rfl

theorem balance_moveToken {id : Int} {s : Store} (present : id ∈ s.tokens.map (·.id)) (value : Int)
    (account : Account) : balance (moveToken cfg id value s) account = balance s account +
      ((if account = .tokenRemain id then value else 0) +
        if account = .tokenUsed id then -value else 0) := by
  obtain ⟨row, inside, named⟩ := mem_map.mp present
  have found : (s.tokens.find? (·.id = id)).isSome := find?_isSome.mpr ⟨row, inside, by simpa using named⟩
  obtain ⟨token, found⟩ := Option.isSome_iff_exists.mp found
  have looked := find_setToken s id (fun t =>
    { t with remainQuota := t.remainQuota + value, usedQuota := t.usedQuota - value }) fun _ => rfl
  unfold moveToken
  cases account with
  | tokenRemain tokenId | tokenUsed tokenId =>
    by_cases same : tokenId = id
    · subst same
      split <;> simp [balance, addTokenRecord, addTokenQuota, looked, found] <;> omega
    · split <;> simp [balance, addTokenRecord, addTokenQuota, looked, same]
  | _ => split <;> simp [balance, addTokenRecord, addTokenQuota, setToken] <;> rfl

variable {amount : Int}

theorem does_moveUser {act : Db Unit} (ran : ∀ s, act.exec s [] = (.ok (), moveUser cfg info.userId (-amount) s)) :
    Does info g act fun outcome g' => outcome = .ok () ∧ g' = g.take (.wallet info.userId) amount := by
  intro s seen
  rw [ran s]
  have frame := framed_moveUser cfg info.userId (-amount) s
  refine ⟨frame.owed seen, rfl, ?_⟩
  exact frame.moves_eq seen _ (balance_moveUser seen.user (-amount)) fun _ => if_neg nofun

theorem does_moveToken {act : Db Unit} (real : info.isPlayground = false)
    (ran : ∀ s, act.exec s [] = (.ok (), moveToken cfg info.tokenId (-amount) s)) :
    Does info g act fun outcome g' => outcome = .ok () ∧ g' = g.takeToken info.tokenId amount := by
  intro s seen
  rw [ran s]
  have frame := framed_moveToken cfg info.tokenId (-amount) s
  refine ⟨frame.owed seen, rfl, ?_⟩
  rw [frame.moves_eq seen _ (balance_moveToken (seen.token real) (-amount)) (by simp)]
  simp only [Ledger.takeToken, Ledger.take, debit, neg_neg, add_assoc]

section
variable {amount : Int} (nonneg : 0 ≤ amount)
include nonneg

theorem does_decreaseUserQuota : Does info g (decreaseUserQuota cfg info.userId amount false)
    fun outcome g' => outcome = .ok () ∧ g' = g.take (.wallet info.userId) amount :=
  does_moveUser fun s => decreaseUserQuota_nil nonneg s

theorem does_increaseUserQuota : Does info g (increaseUserQuota cfg info.userId amount false)
    fun outcome g' => outcome = .ok () ∧ g' = g.take (.wallet info.userId) (-amount) :=
  does_moveUser fun s => by rw [neg_neg]; exact increaseUserQuota_nil nonneg s

theorem does_decreaseTokenQuota (real : info.isPlayground = false) :
    Does info g (decreaseTokenQuota cfg info.tokenId amount)
      fun outcome g' => outcome = .ok () ∧ g' = g.takeToken info.tokenId amount :=
  does_moveToken real fun s => decreaseTokenQuota_nil nonneg s

theorem does_increaseTokenQuota (real : info.isPlayground = false) :
    Does info g (increaseTokenQuota cfg info.tokenId amount)
      fun outcome g' => outcome = .ok () ∧ g' = g.takeToken info.tokenId (-amount) :=
  does_moveToken real fun s => by rw [neg_neg]; exact increaseTokenQuota_nil nonneg s

end

/-! ### Subscriptions -/

section
variable {s s' : Store} (resets : List Int)

variable {event : Event} {id delta : Int}

theorem owed_of_tabled (seen : Seen info g s)
    (tabled : Tabled s s' (resets.map .reset ++ [event])) (posts : Posts event id delta)
    (inside : id ∈ s.subs.map (·.id)) (enough : 0 ≤ g.booked (.subscription id) + delta)
    (records : ∀ requestId, requestId ≠ info.requestId →
      s'.findRecord requestId = s.findRecord requestId) : Owed info s s' g where
  valid := tabled.valid
  users userId := by rw [tabled.accounts.users]
  tokens := by rw [tabled.accounts.tokens]
  ids := tabled.ids
  records := records
  events := ⟨resets, some event, tabled.history, by
    rintro _ ⟨⟩
    exact ⟨id, delta, posts, inside⟩⟩
  used subId := by rw [news_eq tabled.history]; exact tabled.used subId
  nonneg subId := by
    rw [news_eq tabled.history, posts.net_eq]
    split
    · rename_i this
      rw [this]
      exact enough
    · rw [add_zero]
      exact seen.nonneg subId

theorem moves_of_tabled (tabled : Tabled s s' (resets.map .reset ++ [event]))
    (posts : Posts event id delta) {record : Option SubscriptionPreConsumeRecord}
    (mine : s'.findRecord info.requestId = record) : (bookSetting info).moves s s' g =
      ⟨(g.take (.subscription id) delta).booked, record⟩ := by
  have book : ∀ account, moved s s' account =
      if account = .subscription id then debit (.subscription id) delta else 0 := by
    intro account
    cases account with
    | subscription subId =>
      rw [moved, news_eq tabled.history, posts.net_eq]
      simp only [Account.subscription.injEq]
      rfl
    | _ =>
      have kept := tabled.accounts
      simp [moved, balance, kept.users, kept.tokens, kept.pendingUsers, kept.pendingTokens]
  show Ledger.mk (fun a => g.booked a + moved s s' a) (s'.findRecord info.requestId) = _
  simp only [book, mine]
  rfl

theorem mem_ids_of_findSub {sub : UserSubscription}
    (found : s.findSub subId = some sub) : subId ∈ s.subs.map (·.id) := by
  obtain ⟨member, rfl⟩ := mem_of_findSub found
  exact mem_map_of_mem member

theorem findSub_of_mem_ids (inside : subId ∈ s.subs.map (·.id)) : ∃ sub, s.findSub subId = some sub := by
  obtain ⟨row, member, named⟩ := mem_map.mp inside
  exact Option.isSome_iff_exists.mp (find?_isSome.mpr ⟨row, member, by simpa using named⟩)

end

/-- A posting that leaves the session at least nothing: it is refused, or booked. -/
theorem does_postConsume {delta : Int} (enough : 0 ≤ g.booked (.subscription subId) + delta) :
    Does info g (postConsumeUserSubscriptionDelta (.posted subId delta) subId delta)
      fun outcome g' => (∃ e, outcome = .error e ∧ g' = g) ∨
        (outcome = .ok () ∧ g' = g.take (.subscription subId) delta) := by
  intro s seen
  obtain ⟨outcome, s', ran, effect⟩ := postConsume_exec (.posted subId delta) subId delta s []
  rw [ran]
  rcases effect with ⟨rfl, still⟩ | ⟨rfl, -, sub, found, room, rfl⟩
  · refine ⟨(Framed.refl s').owed seen, ?_⟩
    have same : (bookSetting info).moves s' s' g = g := by
      rw [(Framed.refl s').moves_eq seen (fun _ => 0) (by simp) (by simp)]
      simp
    rw [same]
    cases outcome with
    | error e => exact .inl ⟨e, rfl, rfl⟩
    | ok _ => exact .inr ⟨rfl, by rw [still rfl, Ledger.take_zero]⟩
  · have tabled := tabled_posted seen.valid found room
    have posts := posts_posted subId delta
    exact ⟨owed_of_tabled [] seen tabled posts (mem_ids_of_findSub found) enough fun _ _ => rfl,
      .inr ⟨rfl, moves_of_tabled [] tabled posts seen.record⟩⟩

/-- Giving back part of what the session holds goes through. -/
theorem does_postBack (positive : 0 < amount) (holds : amount ≤ g.booked (.subscription subId)) :
    Does info g (postConsumeUserSubscriptionDelta (.posted subId (-amount)) subId (-amount))
      fun outcome g' => outcome = .ok () ∧ g' = g.take (.subscription subId) (-amount) := by
  intro s seen
  have enough : 0 ≤ g.booked (.subscription subId) + -amount := by omega
  obtain ⟨owed, booked⟩ := does_postConsume enough s seen
  refine ⟨owed, ?_⟩
  obtain ⟨sub, found⟩ := findSub_of_mem_ids (seen.rows subId (by omega))
  obtain ⟨member, named⟩ := mem_of_findSub found
  have fits := seen.valid.bounds sub member
  have ran := postConsume_ok (.posted subId (-amount)) (-amount) id
    (named ▸ seen.valid.subPos sub member) found (by omega)
    fun limited => by have := fits.2 limited; have := fits.1; omega
  rcases booked with ⟨e, failed, -⟩ | done
  · simp [Sql.exec, ran] at failed
  · exact done

theorem named_of_preConsume {requestId : String} {userId : Int} {s : Store} {result : SubscriptionPreConsumeResult}
    (ran : ((preConsumeUserSubscription cfg fuel requestId userId amount now).exec s []).1 =
      .ok result) : Text.trimSpace requestId ≠ "" := by
  intro blank
  rw [preConsumeUserSubscription, if_pos blank] at ran
  split at ran
  · cases ran
  · cases ran

/-- A pre-consumption under a fresh request id: it is refused, or books the charge and
leaves the record. -/
theorem does_preConsume (fresh : g.record = none) : Does info g
      (preConsumeUserSubscription cfg fuel info.requestId info.userId amount now)
      fun outcome g' => (∃ e, outcome = .error e ∧ g' = g) ∨
        ∃ result, outcome = .ok result ∧ 0 < amount ∧ Text.trimSpace info.requestId ≠ "" ∧
          0 < result.userSubscriptionId ∧ result.preConsumed = amount ∧
          g' = ⟨(g.take (.subscription result.userSubscriptionId) amount).booked,
            some ⟨info.requestId, info.userId, result.userSubscriptionId, amount, .consumed⟩⟩ := by
  intro s seen
  have unseen : s.findRecord info.requestId = none := seen.record.trans fresh
  obtain ⟨outcome, s', ran, -, charges⟩ := preConsume_exec cfg fuel info.requestId info.userId
    amount now s seen.valid.subIds
  cases outcome with
  | error e =>
    obtain rfl := preConsume_error ran
    rw [ran]
    refine ⟨(Framed.refl s').owed seen, .inl ⟨e, rfl, ?_⟩⟩
    rw [(Framed.refl s').moves_eq seen (fun _ => 0) (by simp) (by simp)]
    simp
  | ok result =>
    have named := named_of_preConsume (by rw [ran])
    obtain ⟨positive, charged⟩ := charges unseen result rfl
    obtain ⟨ids, tabled, records, pos, row, amount_eq⟩ := charged.tabled seen.valid positive
    have posts := posts_charged info.requestId result.userSubscriptionId positive
    have inside : result.userSubscriptionId ∈ s.subs.map (·.id) := by
      obtain ⟨sub, found⟩ := Option.isSome_iff_exists.mp row
      rw [← tabled.ids]
      exact mem_ids_of_findSub found
    rw [ran]
    refine ⟨owed_of_tabled ids seen tabled posts inside ?_ ?_, .inr ⟨result, rfl, positive, named, pos, amount_eq, ?_⟩⟩
    · have := seen.nonneg result.userSubscriptionId
      omega
    · intro requestId other
      rw [records, if_neg other]
    · exact moves_of_tabled ids tabled posts (by rw [records, if_pos rfl])

/-- The refund of the session's own charge. -/
theorem does_refund (named : Text.trimSpace info.requestId ≠ "")
    (charged : g.record = some ⟨info.requestId, info.userId, subId, amount, .consumed⟩)
    (holds : amount ≤ g.booked (.subscription subId)) : Does info g (refundSubscriptionPreConsume info.requestId)
      fun outcome g' => outcome = .ok () ∧ g' = ⟨(g.take (.subscription subId) (-amount)).booked,
          some ⟨info.requestId, info.userId, subId, amount, .refunded⟩⟩ := by
  intro s seen
  have found := seen.record.trans charged
  have inside := (mem_of_findRecord found).1
  have positive := seen.valid.recordPos _ inside
  dsimp only at positive
  obtain ⟨sub, row⟩ := findSub_of_mem_ids (seen.rows subId (by omega))
  obtain ⟨tabled, records⟩ := tabled_giveBack seen.valid inside row
  have posts := posts_refunded info.requestId subId amount
  rw [refund_ok seen.valid named found rfl row]
  refine ⟨owed_of_tabled [] seen tabled posts (mem_ids_of_findSub row) (by omega) ?_, rfl, ?_⟩
  · intro requestId other
    rw [records]
    cases old : s.findRecord requestId with
    | none => rfl
    | some record =>
      have keyed := (mem_of_findRecord old).2
      simp [keyed, other]
  · exact moves_of_tabled [] tabled posts (by rw [records, found]; simp)

end

/-! ## Many sessions -/

variable {ι : Type} [DecidableEq ι] {info : ι → RelayInfo} {mine : ι → Ledger} {s s' : Store}

/-- What the sessions keep true together. -/
structure Shared (info : ι → RelayInfo) (s : Store) (mine : ι → Ledger) : Prop where
  valid : s.Valid
  users : ∀ i, (s.users (info i).userId).isSome
  tokens : ∀ i, (info i).isPlayground = false → (info i).tokenId ∈ s.tokens.map (·.id)
  records : ∀ i, s.findRecord (info i).requestId = (mine i).record
  nonneg : ∀ i subId, 0 ≤ (mine i).booked (.subscription subId)
  rows : ∀ i subId, (mine i).booked (.subscription subId) ≠ 0 → subId ∈ s.subs.map (·.id)

omit [DecidableEq ι] in
theorem Shared.seen (shared : Shared info s mine) (i : ι) : Seen (info i) (mine i) s :=
  ⟨shared.valid, shared.users i, shared.tokens i, shared.records i, shared.nonneg i, shared.rows i⟩

omit [DecidableEq ι] in
theorem Shared.framed (shared : Shared info s mine) (frame : Framed s s') : Shared info s' mine where
  valid := frame.valid shared.valid
  users i := by rw [frame.users]; exact shared.users i
  tokens i real := by rw [frame.tokens]; exact shared.tokens i real
  records i := by rw [frame.findRecord]; exact shared.records i
  nonneg := shared.nonneg
  rows i subId holds := by rw [frame.subs]; exact shared.rows i subId holds

/-- Only subscriptions that exist are posted to. -/
theorem Owed.inside_of_net {info : RelayInfo} {g : Ledger} (owed : Owed info s s' g) {subId : Int}
    (moves : net subId (news s s') ≠ 0) : subId ∈ s.subs.map (·.id) := by
  obtain ⟨resets, last, history, posts⟩ := owed.events
  rw [news_eq history] at moves
  cases last with
  | none => simp [net_resets] at moves
  | some event =>
    obtain ⟨id, delta, posts, inside⟩ := posts event rfl
    rw [Option.toList_some, posts.net_eq] at moves
    split at moves
    · rename_i named
      rw [named]
      exact inside
    · exact absurd rfl moves

def stepLedgers (info : ι → RelayInfo) (i : ι) (s s' : Store) (mine : ι → Ledger) : ι → Ledger :=
  update mine i ((bookSetting (info i)).moves s s' (mine i))

/-- What the sessions hold of a subscription after a step of session `i`. -/
theorem stepLedgers_booked (info : ι → RelayInfo) (i : ι) (s s' : Store) (mine : ι → Ledger)
    (subId : Int) : (fun j => (stepLedgers info i s s' mine j).booked (.subscription subId)) =
      update (fun j => (mine j).booked (.subscription subId)) i
        ((mine i).booked (.subscription subId) + net subId (news s s')) := by
  funext j
  by_cases same : j = i
  · subst same
    simp [stepLedgers, bookSetting, moved]
  · simp [stepLedgers, same]

theorem stepLedgers_idle (shared : Shared info s mine) (i : ι) : stepLedgers info i s s mine = mine := by
  have same : (bookSetting (info i)).moves s s (mine i) = mine i := by
    rw [(Framed.refl s).moves_eq (shared.seen i) (fun _ => 0) (by simp) (by simp)]
    simp
  rw [stepLedgers, same, update_eq_self]

/-- What a session owes for its step keeps the shared books. -/
theorem Shared.step (distinct : Injective fun i => (info i).requestId)
    (shared : Shared info s mine) {i : ι} (owed : Owed (info i) s s' (mine i)) :
    Shared info s' (stepLedgers info i s s' mine) where
  valid := owed.valid
  users j := by rw [owed.users]; exact shared.users j
  tokens j real := by rw [owed.tokens]; exact shared.tokens j real
  records j := by
    unfold stepLedgers
    by_cases same : j = i
    · subst same
      rw [update_self]
      rfl
    · rw [update_of_ne same, owed.records _ fun named => same (distinct named)]
      exact shared.records j
  nonneg j subId := by
    have shares := congrFun (stepLedgers_booked info i s s' mine subId) j
    rw [shares]
    by_cases same : j = i
    · subst same
      rw [update_self]
      exact owed.nonneg subId
    · rw [update_of_ne same]
      exact shared.nonneg j subId
  rows j subId holds := by
    have shares := congrFun (stepLedgers_booked info i s s' mine subId) j
    rw [shares] at holds
    rw [owed.ids]
    by_cases zero : (mine j).booked (.subscription subId) = 0
    · by_cases same : j = i
      · subst same
        rw [update_self, zero, zero_add] at holds
        exact owed.inside_of_net holds
      · rw [update_of_ne same] at holds
        exact absurd zero holds
    · exact shared.rows j subId zero

/-- **Requests side by side.**  `J` is what the rules of a run keep true besides `Shared`; it
holds in every state, and every request stands where its contract says. -/
theorem books_of_run {R G : Type} {Q : ι → R → Ledger → Prop} {rules : Pool.Rules Store ι G}
    {program : ι → Program Store R} {g₀ g : G} {c : Pool Store R ι}
    (contract : ∀ i, (program i).Ends (bookSetting (info i)) .empty (Q i))
    (mine : G → ι → Ledger) (J : Store → G → Prop) (shared : ∀ s g, J s g → Shared info s (mine g)) (init : J s g₀)
    (start : mine g₀ = fun _ => .empty) (succeeds : ∀ i faults s s' g, rules.guard i faults s s' g → faults = [])
    (books : ∀ i faults s s' g, mine (rules.own i faults s s' g) = stepLedgers info i s s' (mine g))
    (kept : ∀ i faults s s' g, J s g → rules.guard i faults s s' g →
      Owed (info i) s s' (mine g i) → J s' (rules.own i faults s s' g))
    (idle : ∀ i faults s g, J s g → rules.own i faults s s g = g) (outside : ∀ s s' g, J s g → rules.env s s' →
      J s' (rules.outside s s' g) ∧ mine (rules.outside s s' g) = mine g)
    (run : Pool.Run rules (Pool.initial s program) g₀ c g) :
    J c.store g ∧ ∀ i, Pool.Fits (bookSetting (info i)) (Q i) c i (mine g i) := by
  refine Pool.Run.contract (fun i => bookSetting (info i)) Q (fun i g => mine g i) J init ?_
    ⟨fun i s g holds => (shared s g holds).seen i,
      fun i faults s s' g admitted _ => succeeds i faults s s' g admitted, ?_, ?_, kept, ?_⟩ idle run
  · intro i
    rw [start]
    exact .inl ⟨rfl, contract i⟩
  · intro i faults s s' g
    rw [books]
    exact update_self i _ _
  · intro i j faults s s' g other
    rw [books]
    exact update_of_ne other _ _
  · intro s s' g holds changed
    obtain ⟨after, same⟩ := outside s s' g holds changed
    exact ⟨after, fun i => by rw [same]⟩

end NewApi.Billing
