/-
# Subscription.OrderRuns — subscription orders along every interleaving

Completions, expiries and balance purchases run side by side, and every statement may fail.  Only
`Fulfilled` creates a subscription: a pending or new order becomes `success` and its row is appended,
recorded under its number.  `OrdersOk` ties orders, rows and history together.
-/
import NewApi.Theory.Pool
import NewApi.Theory.Settlement
import NewApi.Model.Wallet
import NewApi.Subscription.OrderSpec

namespace NewApi.Subscription
open Theory Theory.Text Theory.Settlement Model Store Pool List Rows

def subscriptionOf : Event → Option Int
  | .subscribed _ id => some id
  | _ => none

def created (history : List Event) : List Int := history.filterMap subscriptionOf

/-- The subscriptions created for order `tradeNo`. -/
def createdFor (tradeNo : String) (history : List Event) : List Int :=
  history.filterMap fun
    | .subscribed t id => if t = tradeNo then some id else none
    | _ => none

theorem createdFor_concat (tradeNo t : String) (id : Int) (history : List Event) :
    createdFor tradeNo (history ++ [.subscribed t id]) =
      createdFor tradeNo history ++ if t = tradeNo then [id] else [] := by
  by_cases same : t = tradeNo <;> simp [createdFor, same]

theorem created_concat (t : String) (id : Int) (history : List Event) :
    created (history ++ [.subscribed t id]) = created history ++ [id] := by
  simp [created, subscriptionOf]

/-! ## What a creation leaves alone -/

variable (s : Store)

theorem walletOf_enter (userId : Int) (target : String) (id : Int) :
    walletOf (enter s userId target) id = walletOf s id := by
  unfold enter
  split
  · rfl
  · by_cases same : id = userId
    · subst same
      cases here : s.users id <;> simp [walletOf, setGroup, setUser, here]
    · simp [walletOf, setGroup, setUser, same]

/-- What a creation adds, and what it leaves alone. -/
structure Appended (tradeNo : String) (userId planId : Int) (sub : UserSubscription) (s v : Store) :
    Prop where
  owner : sub.userId = userId
  plan : sub.planId = planId
  subs : v.subs = s.subs ++ [sub]
  history : v.history = s.history ++ [.subscribed tradeNo sub.id]
  orders : v.orders = s.orders
  plans : v.plans = s.plans
  caches : v.caches = s.caches
  wallets : ∀ id, walletOf v id = walletOf s id

variable {cfg : Config} {tradeNo : String} {userId now clock : Int} {order : SubscriptionOrder}
  {plan : SubscriptionPlan} {sub : UserSubscription} {s'' : Store}

theorem Created.appended {source : String} {s v : Store} (made : Created cfg tradeNo userId plan source now s v) :
    ∃ sub, Appended tradeNo userId plan.id sub s v := by
  obtain ⟨-, -, endTime, -, rfl⟩ := made
  refine ⟨newRow cfg s userId plan source now endTime, rfl, rfl, subs_withNewRow .., ?_, ?_, ?_, ?_, ?_⟩
  rotate_left 4
  · intro id
    rw [← walletOf_enter s userId (trimSpace plan.upgradeGroup) id]
    simp only [walletOf, users_withNewRow]
  all_goals
    simp only [withNewRow, log, createSub, enter]
    split <;> rfl

theorem debit_frame (userId price : Int) :
    (debit s userId price).orders = s.orders ∧ (debit s userId price).subs = s.subs ∧
      (debit s userId price).history = s.history ∧ (debit s userId price).plans = s.plans ∧
      (debit s userId price).caches = s.caches := by
  unfold debit
  split <;> exact ⟨rfl, rfl, rfl, rfl, rfl⟩

theorem planById_congr {s s' : Store} (plans : s'.plans = s.plans) (caches : s'.caches = s.caches)
    (id : Int) : s'.planById id = s.planById id := by
  simp only [planById, plans, caches]

theorem countSubs_append {s s' : Store} (subs : s'.subs = s.subs ++ [sub]) (userId planId : Int) :
    s'.countSubs userId planId =
      s.countSubs userId planId + if sub.userId = userId ∧ sub.planId = planId then 1 else 0 := by
  simp [countSubs, subs]

/-! ## Fulfilling an order -/

/-- A user who owes nothing still owes nothing. -/
def StaysSolvent (s' : Store) : Prop :=
  ∀ id quota, walletOf s id = some quota → 0 ≤ quota →
    ∃ quota', walletOf s' id = some quota' ∧ 0 ≤ quota'

theorem StaysSolvent.of_eq {s s' : Store} (same : ∀ id, walletOf s' id = walletOf s id) : StaysSolvent s s' :=
  fun id quota before solvent => ⟨quota, (same id).trans before, solvent⟩

theorem StaysSolvent.trans {s s' : Store} (first : StaysSolvent s s')
    (second : StaysSolvent s' s'') : StaysSolvent s s'' := by
  intro id quota before solvent
  obtain ⟨quota', between, solvent'⟩ := first id quota before solvent
  exact second id quota' between solvent'

/-- The one way a subscription comes into being: `order` was pending or unknown, and is
`success` from now on; `sub` is new and recorded under it. -/
structure Fulfilled (tradeNo : String) (order : SubscriptionOrder) (sub : UserSubscription)
    (s s' : Store) : Prop where
  pending : ∀ old, s.findOrder tradeNo = some old → old.status = .pending
  success : order.status = .success
  orders : ∀ t, s'.findOrder t = if t = tradeNo then some order else s.findOrder t
  owner : sub.userId = order.userId
  plan : sub.planId = order.planId
  subs : s'.subs = s.subs ++ [sub]
  history : s'.history = s.history ++ [.subscribed tradeNo sub.id]
  plans : ∀ id, s'.planById id = s.planById id
  room : ∀ plan, s.planById sub.planId = some plan → MayPurchase s sub.userId plan
  solvent : StaysSolvent s s'

/-- Plans are stored under their own id. -/
def PlansKeyed (s : Store) : Prop := ∀ id plan, s.planById id = some plan → plan.id = id

theorem mayPurchase_congr {s s' : Store} (subs : s'.subs = s.subs)
    (room : MayPurchase s' userId plan) : MayPurchase s userId plan := by
  unfold MayPurchase countSubs at room ⊢
  rwa [subs] at room

theorem findOrder_congr {s s' : Store} (orders : s'.orders = s.orders) (t : String) :
    s'.findOrder t = s.findOrder t := by
  simp only [findOrder, orders]

theorem Completed.fulfilled {payload method : String}
    {s s' : Store} (keyed : PlansKeyed s) (done : Completed cfg tradeNo payload method now clock s s') :
    ∃ order sub, Fulfilled tradeNo order sub s s' := by
  obtain ⟨old, plan, v, topUps, found, pending, planFound, made, rfl⟩ := done
  obtain ⟨sub, appended⟩ := made.appended
  have number : (completedOrder old payload method clock).tradeNo = tradeNo := (mem_of_find found).2
  have planId : plan.id = old.planId := keyed _ _ planFound
  have same : ∀ t, ({ v with topUps } : Store).findOrder t = s.findOrder t := findOrder_congr appended.orders
  refine ⟨completedOrder old payload method clock, sub, ?_, rfl, ?_, appended.owner,
    appended.plan.trans planId, appended.subs, appended.history,
    planById_congr appended.plans appended.caches, ?_, .of_eq appended.wallets⟩
  · intro other found'
    rw [found] at found'
    cases found'
    exact pending
  · intro t
    rw [findOrder_saveOrder number ((same tradeNo).trans found), same]
  · intro plan' found'
    rw [appended.plan, planId, planFound] at found'
    cases found'
    rw [appended.owner]
    exact made.room

/-- The wallet that pays stays above zero: it held at least the price. -/
theorem staysSolvent_debit {s : Store} {price : Int} {user : User}
    (here : s.users userId = some user) (affordable : 0 < price → price ≤ user.quota) :
    StaysSolvent s (debit s userId price) := by
  intro id quota before solvent
  unfold debit
  split
  · rename_i positive
    by_cases same : id = userId
    · subst same
      refine ⟨user.quota - price, ?_, by have := affordable positive; omega⟩
      simp [walletOf, setUser, here]
    · refine ⟨quota, ?_, solvent⟩
      rw [← before]
      simp [walletOf, setUser, same]
  · exact ⟨quota, before, solvent⟩

theorem Purchased.fulfilled {planId : Int} {s s' : Store} (keyed : PlansKeyed s)
    (done : Purchased cfg userId planId tradeNo now clock s s') : ∃ order sub, Fulfilled tradeNo order sub s s' := by
  obtain ⟨plan, price, user, v, planFound, -, here, affordable, made, unique, rfl⟩ := done
  obtain ⟨sub, appended⟩ := made.appended
  obtain ⟨orders, subs, history, plans, caches⟩ := debit_frame s userId price
  have number : (balanceOrder userId plan tradeNo price clock).tradeNo = tradeNo := rfl
  have planId : plan.id = planId := keyed _ _ planFound
  have same : ∀ t, v.findOrder t = s.findOrder t := findOrder_congr (appended.orders.trans orders)
  refine ⟨balanceOrder userId plan tradeNo price clock, sub, ?_, rfl, ?_, appended.owner,
    appended.plan, appended.subs.trans (by rw [subs]), appended.history.trans (by rw [history]),
    planById_congr (appended.plans.trans plans) (appended.caches.trans caches), ?_, ?_⟩
  · intro other found
    rw [← same, unique] at found
    cases found
  · intro t
    rw [findOrder_append number unique, same]
  · intro plan' found'
    rw [appended.plan, planId, planFound] at found'
    cases found'
    rw [appended.owner]
    exact mayPurchase_congr subs made.room
  · exact (staysSolvent_debit here affordable).trans (.of_eq appended.wallets)

/-! ## The orders as matters to be settled -/

def orderKind (order : SubscriptionOrder) : Phase :=
  match order.status with
  | .pending => .open_
  | .success => .done
  | .failed | .expired => .closed

theorem orderKind_done : orderKind order = .done ↔ order.status = .success := by
  unfold orderKind
  cases order.status <;> simp

theorem orderKind_open : orderKind order = .open_ ↔ order.status = .pending := by
  unfold orderKind
  cases order.status <;> simp

/-- Entries are the subscriptions created for an order. -/
def orderBook (s : Store) : Book String SubscriptionOrder Int where
  row := s.findOrder
  entries t := createdFor t s.history

def Serves (subs : List UserSubscription) (order : SubscriptionOrder) (id : Int) : Prop :=
  ∃ sub ∈ subs, sub.id = id ∧ sub.userId = order.userId ∧ sub.planId = order.planId

theorem Serves.append {subs : List UserSubscription} {id : Int}
    (serves : Serves subs order id) (more : List UserSubscription) : Serves (subs ++ more) order id := by
  obtain ⟨sub, inside, rest⟩ := serves
  exact ⟨sub, mem_append_left _ inside, rest⟩

theorem Fulfilled.move {s s' : Store} (done : Fulfilled tradeNo order sub s s') :
    Move orderKind (Serves s'.subs) (orderBook s) (orderBook s') := by
  refine .settle tradeNo order sub.id (fun old found => orderKind_open.mpr (done.pending old found))
    (orderKind_done.mpr done.success) ?_ done.orders fun t => ?_
  · rw [done.subs]
    exact ⟨sub, mem_append_right _ (mem_singleton_self _), rfl, done.owner, done.plan⟩
  · show createdFor t s'.history = if t = tradeNo then createdFor t s.history ++ [sub.id] else _
    rw [done.history, createdFor_concat]
    by_cases same : t = tradeNo
    · simp [same]
    · simp [same, Ne.symm same, orderBook]

/-- `base` are the subscriptions from before the run. -/
structure OrdersOk (base : List Int) (s : Store) : Prop where
  keyed : PlansKeyed s
  rows : s.subs.map (·.id) = base ++ created s.history
  sound : Sound orderKind (Serves s.subs) (orderBook s)
  limits : ∀ userId id plan, s.planById id = some plan → 0 < plan.maxPurchasePerUser →
    (s.countSubs userId id : Int) ≤ plan.maxPurchasePerUser

section
variable {base : List Int} {s s' : Store}

theorem OrdersOk.fulfil (ok : OrdersOk base s)
    {sub : UserSubscription} (done : Fulfilled tradeNo order sub s s') : OrdersOk base s' where
  keyed id plan found := ok.keyed id plan (by rwa [done.plans] at found)
  rows := by
    rw [done.subs, done.history, created_concat, map_append, ok.rows, append_assoc]
    rfl
  sound := by
    refine done.move.sound (ok.sound.mono fun order id serves => ?_)
    rw [done.subs]
    exact serves.append _
  limits userId id plan found limited := by
    rw [done.plans] at found
    rw [countSubs_append done.subs]
    split
    · rename_i same
      obtain ⟨rfl, rfl⟩ := same
      have room := done.room plan found limited
      rw [ok.keyed _ _ found] at room
      omega
    · exact ok.limits userId id plan found limited

/-- Nothing was created, and orders moved on without being settled. -/
theorem OrdersOk.relabel (ok : OrdersOk base s) (subs : s'.subs = s.subs)
    (history : s'.history = s.history) (plans : ∀ id, s'.planById id = s.planById id)
    (move : Move orderKind (Serves s.subs) (orderBook s) (orderBook s')) : OrdersOk base s' where
  keyed id plan found := ok.keyed id plan (by rwa [plans] at found)
  rows := by rw [subs, history]; exact ok.rows
  sound := by rw [subs]; exact move.sound ok.sound
  limits userId id plan found limited := by
    rw [plans] at found
    have count : s'.countSubs userId id = s.countSubs userId id := by simp only [countSubs, subs]
    rw [count]
    exact ok.limits userId id plan found limited

end

/-! ## Runs -/

/-- Orders that are no longer pending stay as they are, and no wallet falls below zero. -/
structure Since (s s' : Store) : Prop where
  frozen : Frozen orderKind (orderBook s) (orderBook s')
  solvent : StaysSolvent s s'

theorem Since.refl : Since s s := ⟨.refl _, .of_eq fun _ => rfl⟩

theorem Since.trans {s s' : Store} (first : Since s s') (second : Since s' s'') : Since s s'' :=
  ⟨first.frozen.trans second.frozen, first.solvent.trans second.solvent⟩

inductive OrderCall where
  | complete (tradeNo providerPayload : String) (expected : PaymentProvider) (method : String)
  | expire (tradeNo : String) (expected : PaymentProvider)
  | purchase (userId planId : Int) (tradeNo : String)

/-- `now` is the database's clock, `clock` the server's. -/
def OrderCall.program (cfg : Config) (now clock : Int) : OrderCall → Program Store Unit
  | .complete tradeNo payload expected method => do
      let _ ← Program.store
        (completeSubscriptionOrder cfg tradeNo payload expected method now clock)
  | .expire tradeNo expected => do
      let _ ← Program.store (expireSubscriptionOrder tradeNo expected clock)
  | .purchase userId planId tradeNo => do
      let _ ← Program.store (purchaseSubscriptionWithBalance cfg userId planId tradeNo now clock)

variable (base : List Int)

/-- A call keeps the invariant and what is settled, whatever fails in it. -/
def KeepsOrders {β : Type} (act : Db β) : Prop :=
  ∀ s faults, OrdersOk base s → OrdersOk base (act.exec s faults).2 ∧ Since s (act.exec s faults).2

theorem OrdersOk.fulfilled {base : List Int} {s s' : Store} (ok : OrdersOk base s)
    (done : ∃ order sub, Fulfilled tradeNo order sub s s') : OrdersOk base s' ∧ Since s s' := by
  obtain ⟨order, sub, done⟩ := done
  exact ⟨ok.fulfil done, done.move.frozen, done.solvent⟩

theorem keepsOrders_expire (tradeNo : String) (expected : PaymentProvider)
    (clock : Int) : KeepsOrders base (expireSubscriptionOrder tradeNo expected clock) := by
  intro s faults ok
  obtain ⟨outcome, s', ran, effect⟩ := expireOrder_exec tradeNo expected clock s faults
  rw [ran]
  rcases effect with rfl | ⟨order, found, pending, rfl⟩
  · exact ⟨ok, .refl _⟩
  have number : ({ order with status := .expired, completeTime := clock } : SubscriptionOrder).tradeNo =
      tradeNo := (mem_of_find found).2
  have move : Move orderKind (Serves s.subs) (orderBook s)
      (orderBook (s.saveOrder { order with status := .expired, completeTime := clock })) := by
    refine .relabel (fun _ => rfl) fun t => ?_
    show findOrder _ t = _ ∨ _ ∧ ∃ r, findOrder _ t = some r ∧ _
    rw [findOrder_saveOrder number found]
    by_cases same : t = tradeNo
    · subst same
      refine .inr ⟨fun old found' => ?_, _, if_pos rfl, by simp [orderKind]⟩
      cases found.symm.trans found'
      exact orderKind_open.mpr pending
    · exact .inl (if_neg same)
  exact ⟨ok.relabel rfl rfl (fun _ => rfl) move, move.frozen, .of_eq fun _ => rfl⟩

theorem OrderCall.all_keepsOrders (cfg : Config) (now clock : Int)
    (call : OrderCall) : (call.program cfg now clock).All fun act => KeepsOrders base act := by
  cases call with
  | complete tradeNo payload expected method =>
    refine ⟨fun s faults ok => ?_, fun _ => trivial⟩
    obtain ⟨outcome, s', ran, effect⟩ := complete_exec cfg tradeNo payload expected method now clock s faults
    rw [ran]
    rcases effect with rfl | done
    · exact ⟨ok, .refl _⟩
    · exact ok.fulfilled (done.fulfilled ok.keyed)
  | expire tradeNo expected => exact ⟨keepsOrders_expire base tradeNo expected clock, fun _ => trivial⟩
  | purchase userId planId tradeNo =>
    refine ⟨fun s faults ok => ?_, fun _ => trivial⟩
    obtain ⟨outcome, s', ran, effect⟩ := purchase_exec cfg userId planId tradeNo now clock s faults
    rw [ran]
    rcases effect with ⟨-, -, rfl⟩ | ⟨-, done⟩
    · exact ⟨ok, .refl _⟩
    · exact ok.fulfilled (done.fulfilled ok.keyed)

/-- Any statement may fail.  Meanwhile others may open new pending orders and use wallets;
plans are not edited. -/
def orderRules (ι : Type) : Rules Store ι Unit where
  env s s' := s'.subs = s.subs ∧ s'.history = s.history ∧ (∀ id, s'.planById id = s.planById id) ∧
    (∀ t, s'.findOrder t = s.findOrder t ∨
      s.findOrder t = none ∧ ∃ order, s'.findOrder t = some order ∧ order.status = .pending) ∧
    StaysSolvent s s'
  guard _ _ _ _ _ := True
  own _ _ _ _ _ := ()
  outside _ _ _ := ()

/-- A store to start from: nothing recorded yet, no order done, limits respected. -/
structure OrdersOpened (s : Store) : Prop where
  keyed : PlansKeyed s
  history : s.history = []
  open_ : ∀ order ∈ s.orders, order.status ≠ .success
  limits : ∀ userId id plan, s.planById id = some plan → 0 < plan.maxPurchasePerUser →
    (s.countSubs userId id : Int) ≤ plan.maxPurchasePerUser

theorem OrdersOpened.ok {s : Store} (opened : OrdersOpened s) : OrdersOk (s.subs.map (·.id)) s where
  keyed := opened.keyed
  rows := by rw [opened.history]; simp [created]
  sound := by
    constructor
    · intro t order found done
      exact absurd (orderKind_done.mp done) (opened.open_ order (mem_of_find found).1)
    · intro t _
      show createdFor t s.history = []
      rw [opened.history]
      rfl
  limits := opened.limits

theorem orderRules_env {ι : Type} {base : List Int} {s s' : Store} (ok : OrdersOk base s)
    (changed : (orderRules ι).env s s') : OrdersOk base s' ∧ Since s s' := by
  obtain ⟨subs, history, plans, orders, solvent⟩ := changed
  have move : Move orderKind (Serves s.subs) (orderBook s) (orderBook s') := by
    refine .relabel (fun t => ?_) fun t => ?_
    · show createdFor t s'.history = createdFor t s.history
      rw [history]
    · rcases orders t with same | ⟨missing, order, found, pending⟩
      · exact .inl same
      · refine .inr ⟨fun old found' => ?_, order, found, ?_⟩
        · cases missing.symm.trans found'
        · rw [orderKind_open.mpr pending]
          decide
  exact ⟨ok.relabel subs history plans move, move.frozen, solvent⟩

/-- What is promised of the orders in state `s`, reached from `s₁`, reached from `s₀`. -/
structure OrdersSound (cfg : Config) (s₀ s₁ s : Store) : Prop where
  /-- an order causes at most one subscription -/
  once : ∀ t, (createdFor t s.history).length ≤ 1
  /-- `success` means that its subscription was created, for its user and plan -/
  success_iff : ∀ t order, s.findOrder t = some order → (order.status = .success ↔
    ∃ sub ∈ s.subs, sub.id ∈ createdFor t s.history ∧ sub.userId = order.userId ∧ sub.planId = order.planId)
  /-- every subscription since the start is recorded -/
  rows : s.subs.map (·.id) = s₀.subs.map (·.id) ++ created s.history
  /-- an expired order stays expired and never causes one -/
  expired : ∀ t order, s₁.findOrder t = some order → order.status = .expired →
    s.findOrder t = some order ∧ createdFor t s.history = []
  /-- the purchase limits -/
  limits : ∀ userId id plan, s.planById id = some plan → 0 < plan.maxPurchasePerUser →
    (s.countSubs userId id : Int) ≤ plan.maxPurchasePerUser
  /-- no wallet is driven below zero -/
  solvent : StaysSolvent s₁ s
  /-- a balance purchase goes through as a whole or changes nothing -/
  purchase : ∀ userId planId tradeNo now clock faults, ∃ outcome s',
    (purchaseSubscriptionWithBalance cfg userId planId tradeNo now clock).exec s faults = (outcome, s') ∧
      ((∃ e, outcome = .error e ∧ s' = s) ∨
        outcome = .ok () ∧ Purchased cfg userId planId tradeNo now clock s s' ∧ StaysSolvent s s')

section
variable {ι : Type} [DecidableEq ι] {base : List Int} {c₁ c₂ : Pool Store Unit ι}

/-- From any state that satisfies the invariant on: the invariant, and what is settled. -/
theorem ordersOk_of_run (calls : c₁.All fun _ _ act => KeepsOrders base act)
    (ok : OrdersOk base c₁.store) (run : Run (orderRules ι) c₁ () c₂ ()) :
    OrdersOk base c₂.store ∧ Since c₁.store c₂.store := by
  refine Run.store_invariant (fun s => OrdersOk base s ∧ Since c₁.store s) (fun _ => True)
    ⟨ok, .refl _⟩ ?_ (fun _ _ _ _ _ _ => trivial) ?_ run
  · refine calls.mono fun i _ act keeps s faults _ holds => ?_
    obtain ⟨ok, since⟩ := holds
    obtain ⟨ok', step⟩ := keeps s faults ok
    exact ⟨ok', since.trans step⟩
  · intro s s' holds changed
    obtain ⟨ok, since⟩ := holds
    obtain ⟨ok', step⟩ := orderRules_env ok changed
    exact ⟨ok', since.trans step⟩

theorem OrdersOk.promises {s₀ s₁ s : Store} (cfg : Config) (ok : OrdersOk (s₀.subs.map (·.id)) s)
    (since : Since s₁ s) : OrdersSound cfg s₀ s₁ s where
  once t := ok.sound.length_le_one t
  success_iff t order found := by
    constructor
    · intro done
      obtain ⟨id, once, sub, inside, same, owner⟩ := ok.sound.done t order found (orderKind_done.mpr done)
      have recorded : createdFor t s.history = [id] := once
      exact ⟨sub, inside, by rw [recorded, same]; simp, owner⟩
    · rintro ⟨sub, -, recorded, -⟩
      exact orderKind_done.mp (ok.sound.fits_of_mem found recorded).1
  rows := ok.rows
  expired t order found expired := by
    have finished : orderKind order = .closed := by simp [orderKind, expired]
    obtain ⟨still, -⟩ := since.frozen t order found (by rw [finished]; decide)
    refine ⟨still, ok.sound.rest t fun order' found' => ?_⟩
    cases still.symm.trans found'
    rw [finished]
    decide
  limits := ok.limits
  solvent := since.solvent
  purchase userId planId tradeNo now clock faults := by
    obtain ⟨outcome, s', ran, effect⟩ := purchase_exec cfg userId planId tradeNo now clock s faults
    refine ⟨outcome, s', ran, effect.imp_right fun ⟨done, bought⟩ => ⟨done, bought, ?_⟩⟩
    obtain ⟨order, sub, fulfilled⟩ := bought.fulfilled ok.keyed
    exact fulfilled.solvent

/-- **Subscription orders.**  In every state of every interleaving, under every pattern of
failures. -/
theorem order_run {cfg : Config} {now clock : ι → Int} {calls : ι → OrderCall} {s : Store} (opened : OrdersOpened s)
    (before : Run (orderRules ι) (initial s fun i => (calls i).program cfg (now i) (clock i)) () c₁ ())
    (after : Run (orderRules ι) c₁ () c₂ ()) : OrdersSound cfg s c₁.store c₂.store := by
  have all : (initial s fun i => (calls i).program cfg (now i) (clock i)).All
      fun _ _ act => KeepsOrders (s.subs.map (·.id)) act :=
    ⟨fun i => (calls i).all_keepsOrders _ cfg (now i) (clock i), fun i k member => by cases member⟩
  obtain ⟨ok₁, -⟩ := ordersOk_of_run all opened.ok before
  obtain ⟨ok₂, since⟩ := ordersOk_of_run (before.all all) ok₁ after
  exact ok₂.promises cfg since

end

/-- Two pending orders of a user who can pay for one more subscription; the plan may be
bought twice. -/
def twoOrders : Store :=
  { empty with
    users := fun id => if id = 7 then some ⟨7, "default", 600000, "", ""⟩ else none
    plans := fun id => if id = 1 then
        some ⟨1, "pro", 1, .custom, 0, 100, true, none, 2, "", 100, "never", 0⟩
      else none
    orders := [⟨7, 1, 1, "A", "alipay", .epay, .pending, 0, 0, ""⟩,
      ⟨7, 1, 1, "B", "alipay", .epay, .pending, 0, 0, ""⟩] }

theorem twoOrders_opened : OrdersOpened twoOrders := by
  have plans : ∀ id plan, twoOrders.planById id = some plan → id = 1 ∧ plan.id = 1 := by
    intro id plan found
    by_cases one : id = 1
    · subst one
      cases found
      exact ⟨rfl, rfl⟩
    · simp [planById, twoOrders, empty, emptyCaches, one] at found
  refine ⟨fun id plan found => ?_, rfl, by decide, fun userId id plan found limited => ?_⟩
  · obtain ⟨rfl, same⟩ := plans id plan found
    exact same
  · simp only [countSubs, twoOrders, empty, countP_nil]
    omega

/-- Order `A` is completed twice, `B` expires and is completed, and one subscription is
bought with the balance. -/
def orderCalls : Fin 5 → OrderCall
  | 0 => .expire "B" .epay
  | 1 => .complete "A" "paid" .epay ""
  | 2 => .complete "A" "paid" .epay ""
  | 3 => .complete "B" "paid" .epay ""
  | 4 => .purchase 7 1 "C"

theorem order_run_twoOrders : ∃ c₁ c₂ : Pool Store Unit (Fin 5),
      (c₁.store.findOrder "B").map (·.status) = some .expired ∧
      c₂.store.history = [.subscribed "A" 1, .subscribed "C" 2] ∧ walletOf c₂.store 7 = some 100000 ∧
      OrdersSound plainConfig twoOrders c₁.store c₂.store := by
  have expired : Run (orderRules (Fin 5))
      (initial twoOrders fun i => (orderCalls i).program plainConfig 10 10) () _ () :=
    .step .start 0 [] (.main rfl) trivial
  have completed := Run.step expired.restart 1 [] (.main rfl) trivial
  have again := Run.step completed 2 [] (.main rfl) trivial
  have late := Run.step again 3 [] (.main rfl) trivial
  have bought := Run.step late 4 [] (.main rfl) trivial
  exact ⟨_, _, by decide +kernel, by decide +kernel, by decide +kernel,
    order_run twoOrders_opened expired bought⟩

end NewApi.Subscription
