/-
# Billing.ErrorAtomicity — a refused pre-consumption has taken nothing

`preConsume` charges the token first and the funding source second, `Reserve` the other way round;
each undoes its first charge by hand when the second fails.  Every store call may fail here, and
only the undoing calls are taken to succeed.
-/
import NewApi.Billing.Accounts

namespace NewApi.Billing
open Theory Model Subscription BillingSession Program

variable {cfg : Config} {fuel : Nat} {ctx : RequestContext} {s : Store}

def Untaken {ε α : Type} (s : Store) (outcome : Except ε α) (s' : Store) : Prop := ∀ e, outcome = .error e → s' = s

variable {ε α : Type} {delta : Int}

theorem untaken_error (e : ε) (s : Store) : Untaken s (.error e : Except ε α) s := fun _ _ => rfl

theorem untaken_ok (a : α) (s s' : Store) : Untaken s (.ok a : Except ε α) s' := nofun

theorem error_ne_ok {e : ε} {a : α} : (.error e : Except ε α) ≠ .ok a := nofun

theorem alone_read {act : Db α} (inner : Sql.Local act) : (store act).Meets (.alone _) s fun _ s' => s' = s :=
  alone_store fun faults => exec_local inner s faults

theorem alone_moves {act : Db Unit} {s' : Store} (moves : Moves act s s') :
    (store act).Meets (.alone _) s fun outcome s'' =>
      (∃ e, outcome = .error e ∧ s'' = s) ∨ (outcome = .ok () ∧ s'' = s') := by
  refine alone_store fun faults => ?_
  rcases moves faults with ⟨e, ran⟩ | ran
  · exact .inl ⟨e, by rw [ran], by rw [ran]⟩
  · exact .inr ⟨by rw [ran], by rw [ran]⟩

/-- What a token pre-consumption of `quota` leaves behind. -/
def tokenTaken (cfg : Config) (relayInfo : RelayInfo) (quota : Int) (s : Store) : Store :=
  if relayInfo.isPlayground then s else moveToken cfg relayInfo.tokenId (-quota) s

theorem preConsumeTokenQuota_alone (relayInfo : RelayInfo) (quota : Int) :
    (preConsumeTokenQuota cfg relayInfo quota).Meets (.alone _) s fun outcome s' =>
      (∃ e, outcome = .error e ∧ s' = s) ∨ (outcome = .ok () ∧ s' = tokenTaken cfg relayInfo quota s) := by
  unfold preConsumeTokenQuota tokenTaken
  split
  · exact .inl ⟨_, rfl, rfl⟩
  split
  · exact .inr ⟨rfl, rfl⟩
  refine .bind (alone_read (local_getTokenByKey _ _)) ?_
  rintro token _ rfl
  cases token with
  | error e => exact .inl ⟨e, rfl, rfl⟩
  | ok token =>
    dsimp only
    split
    · exact .inl ⟨_, rfl, rfl⟩
    · exact alone_moves (moves_decreaseTokenQuota _ _ _)

/-- Step 1 of the pre-consumption, and what its roll-back has to undo. -/
theorem takeToken_alone (effectiveQuota : Int) (session : BillingSession) (nothing : session.tokenConsumed = 0) :
    (session.takeToken cfg effectiveQuota).Meets (.alone _) s fun outcome s' =>
      Untaken s outcome s' ∧ ∀ session', outcome = .ok session' →
        (session'.rollbackToken cfg).Meets (.alone _) s' fun _ s'' => s'' = s := by
  unfold takeToken
  split
  · rename_i positive
    refine .bind (preConsumeTokenQuota_alone _ _) ?_
    rintro outcome s' (⟨e, rfl, rfl⟩ | ⟨rfl, rfl⟩)
    · exact ⟨untaken_error _ _, fun _ same => absurd same error_ne_ok⟩
    refine ⟨untaken_ok _ _ _, fun session' same => ?_⟩
    obtain rfl := Except.ok.inj same
    unfold rollbackToken tokenTaken
    dsimp only
    cases session.relayInfo.isPlayground with
    | true =>
      rw [if_neg (by simp)]
      rfl
    | false =>
      rw [if_pos ⟨positive, rfl⟩]
      refine .bind (alone_undo ?_) fun _ _ after => after
      rw [increaseTokenQuota_nil (by omega)]
      exact moveToken_cancel _ _ s
  · refine ⟨untaken_ok _ _ _, fun session' same => ?_⟩
    obtain rfl := Except.ok.inj same
    unfold rollbackToken
    rw [if_neg (by omega)]
    rfl

theorem fundingPreConsume_alone (now amount : Int) (funding : FundingSource) :
    (funding.preConsume cfg fuel now amount).Meets (.alone _) s (Untaken s) := by
  cases funding with
  | wallet funding =>
    simp only [FundingSource.preConsume]
    split
    · exact untaken_ok _ _ _
    · refine .bind (alone_moves (moves_decreaseUserQuota _ _ _)) ?_
      rintro outcome s' (⟨e, rfl, rfl⟩ | ⟨rfl, rfl⟩)
      · exact untaken_error _ _
      · exact untaken_ok _ _ _
  | subscription funding =>
    refine .bind (alone_store (Q := Untaken s) fun faults e failed => ?_) ?_
    · exact preConsume_error (Prod.ext failed rfl)
    · rintro outcome s' untaken
      cases outcome with
      | error e => exact fun _ _ => untaken e rfl
      | ok res =>
        refine .bind (alone_read (local_getSubscriptionPlanInfo _)) ?_
        rintro info _ -
        cases info <;> exact untaken_ok _ _ _

/-! ## NewBillingSession -/

variable {s₁ : Store} {session : BillingSession}

theorem takeFunding_untaken (effectiveQuota : Int)
    (undone : (session.rollbackToken cfg).Meets (.alone _) s₁ fun _ s' => s' = s) :
    (session.takeFunding cfg fuel ctx effectiveQuota).Meets (.alone _) s₁ (Untaken s) := by
  refine .bind (fundingPreConsume_alone _ _ _) ?_
  rintro outcome s₂ same
  cases outcome with
  | ok funding => exact untaken_ok _ _ _
  | error e =>
    obtain rfl := same e rfl
    refine .bind undone ?_
    rintro _ s₃ restored _ _
    exact restored

theorem preConsume_untaken (quota : Int) (session : BillingSession) (nothing : session.tokenConsumed = 0) :
    (session.preConsume cfg fuel ctx quota).Meets (.alone _) s (Untaken s) := by
  refine .bind (takeToken_alone _ _ nothing) ?_
  rintro outcome s₁ ⟨untaken, undone⟩
  cases outcome with
  | error e => exact fun _ _ => untaken e rfl
  | ok session' => exact takeFunding_untaken _ (undone session' rfl)

variable (relayInfo : RelayInfo) (quota : Int)

theorem tryWallet_untaken : (tryWallet cfg fuel ctx relayInfo quota).Meets (.alone _) s (Untaken s) := by
  refine .bind (alone_read (local_getUserQuota _ _)) ?_
  rintro userQuota _ rfl
  cases userQuota with
  | error e => exact untaken_error _ _
  | ok userQuota =>
    dsimp only
    split
    · exact untaken_error _ _
    split
    · exact untaken_error _ _
    · exact preConsume_untaken _ _ rfl

theorem trySubscription_untaken : (trySubscription cfg fuel ctx relayInfo quota).Meets (.alone _) s (Untaken s) :=
  preConsume_untaken _ _ rfl

theorem newBillingSession_untaken :
    (newBillingSession cfg fuel ctx relayInfo quota).Meets (.alone _) s (Untaken s) := by
  refine newBillingSession_rule (J := (· = s)) ?_ ?_ ?_ ?_ rfl
  · rintro _ rfl
    exact tryWallet_untaken relayInfo quota
  · rintro _ rfl
    exact trySubscription_untaken relayInfo quota
  · rintro _ rfl
    exact alone_read (local_hasActiveUserSubscription _ _)
  · exact fun e s' => ⟨fun untaken => untaken e rfl, fun same _ _ => same⟩

/-! ## Reserve -/

/-- Wallets, tokens and used amounts are the same in both stores. -/
structure QuotasKept (s s' : Store) : Prop where
  users : s'.users = s.users
  pendingUsers : s'.batchUserQuota = s.batchUserQuota
  tokens : s'.tokens = s.tokens
  pendingTokens : s'.batchTokenQuota = s.batchTokenQuota
  used : ∀ id, s'.used id = s.used id

theorem QuotasKept.refl (s : Store) : QuotasKept s s := ⟨rfl, rfl, rfl, rfl, fun _ => rfl⟩

/-- Charging a subscription and posting the opposite leaves it as it was. -/
theorem quotasKept_adjust {id : Int} {sub : UserSubscription} (nonneg : 0 ≤ sub.amountUsed)
    (positive : 0 < delta) (found : s.findSub id = some sub) (cause undo : Event) :
    ∃ sub', (adjust s cause sub delta).findSub id = some sub' ∧
      sub'.amountTotal = sub.amountTotal ∧ sub'.amountUsed + -delta = sub.amountUsed ∧
      QuotasKept s (adjust (adjust s cause sub delta) undo sub' (-delta)) := by
  obtain ⟨-, rfl⟩ := Store.mem_of_findSub found
  have charged : (adjust s cause sub delta).findSub sub.id =
      some { sub with amountUsed := max 0 (sub.amountUsed + delta) } := by
    simp [adjust, found]
  refine ⟨_, charged, rfl, by dsimp only; omega, rfl, rfl, rfl, rfl, fun id => ?_⟩
  rw [used_adjust charged, used_adjust found]
  dsimp only
  split
  · rename_i this
    rw [this, Store.used_of_findSub found]
    omega
  · rfl

inductive Held (cfg : Config) (delta : Int) (s : Store) : FundingSource → FundingSource → Store → Prop
  | wallet (funding : WalletFunding) :
      Held cfg delta s (.wallet funding)
        (.wallet { funding with consumed := funding.consumed + delta })
        (moveUser cfg funding.userId (-delta) s)
  | subscription (funding : SubscriptionFunding) (sub : UserSubscription)
      (named : 0 < funding.subscriptionId) (found : s.findSub funding.subscriptionId = some sub)
      (room : sub.Room delta) :
      Held cfg delta s (.subscription funding) (.subscription funding)
        (adjust s (.posted funding.subscriptionId delta) sub delta)

theorem reserveFunding_alone (positive : 0 < delta) (session : BillingSession) :
    (session.reserveFunding cfg delta).Meets (.alone _) s fun outcome s' =>
      Untaken s outcome s' ∧ ∀ funding, outcome = .ok funding → Held cfg delta s session.funding funding s' := by
  unfold reserveFunding
  cases session.funding with
  | wallet funding =>
    refine .bind (alone_moves (moves_decreaseUserQuota _ _ _)) ?_
    rintro outcome s' (⟨e, rfl, rfl⟩ | ⟨rfl, rfl⟩)
    · exact ⟨untaken_error _ _, fun _ same => absurd same error_ne_ok⟩
    · refine ⟨untaken_ok _ _ _, fun funding' same => ?_⟩
      obtain rfl := Except.ok.inj same
      exact .wallet funding
  | subscription funding =>
    refine .bind (alone_store (Q := fun outcome s' =>
      Untaken s outcome s' ∧ (outcome = .ok () →
        Held cfg delta s (.subscription funding) (.subscription funding) s')) fun faults => ?_) ?_
    · obtain ⟨outcome, s', ran, effect⟩ := postConsume_exec
        (.posted funding.subscriptionId delta) funding.subscriptionId delta s faults
      rw [ran]
      rcases effect with ⟨rfl, still⟩ | ⟨rfl, named, sub, found, room, rfl⟩
      · exact ⟨fun _ _ => rfl, fun ok => by have := still ok; omega⟩
      · exact ⟨untaken_ok _ _ _, fun _ => .subscription funding sub named found room⟩
    · rintro outcome s' ⟨untaken, held⟩
      cases outcome with
      | error e => exact ⟨fun _ _ => untaken e rfl, fun _ same => absurd same error_ne_ok⟩
      | ok _ =>
        refine ⟨untaken_ok _ _ _, fun funding' same => ?_⟩
        obtain rfl := Except.ok.inj same
        exact held rfl

theorem rollbackFundingReserve_alone (positive : 0 < delta)
    (bounded : ∀ sub ∈ s.subs, 0 ≤ sub.amountUsed) {before : FundingSource}
    (held : Held cfg delta s before session.funding s₁) :
    (session.rollbackFundingReserve cfg delta).Meets (.alone _) s₁ fun funding s' =>
      funding = before ∧ QuotasKept s s' := by
  unfold rollbackFundingReserve
  generalize session.funding = after at held
  cases held with
  | wallet funding =>
    refine .bind (alone_undo (Q := fun outcome s' =>
      outcome = .ok () ∧ s' = s) ?_) ?_
    · rw [increaseUserQuota_nil (by omega)]
      exact ⟨rfl, moveUser_cancel _ _ s⟩
    · rintro _ _ ⟨rfl, rfl⟩
      refine ⟨?_, .refl _⟩
      rw [Int.add_sub_cancel]
  | subscription funding sub named found room =>
    have nonneg := bounded sub (Store.mem_of_findSub found).1
    obtain ⟨sub', found', total, back, kept⟩ := quotasKept_adjust nonneg positive found
      (.posted funding.subscriptionId delta) (.posted funding.subscriptionId (-delta))
    refine .bind (alone_undo ?_) fun _ _ kept => ⟨rfl, kept⟩
    have ran := postConsume_ok (.posted funding.subscriptionId (-delta)) (-delta) id named found' (by omega) (by omega)
    simp only [Sql.exec, ran]
    exact kept

theorem reserveToken_untaken (delta : Int) (session : BillingSession) :
    (session.reserveToken cfg delta).Meets (.alone _) s (Untaken s) := by
  unfold reserveToken
  split
  · exact untaken_ok _ _ _
  · refine .bind (preConsumeTokenQuota_alone _ _) ?_
    rintro outcome s' (⟨e, rfl, rfl⟩ | ⟨rfl, rfl⟩)
    · exact untaken_error _ _
    · exact untaken_ok _ _ _

theorem reserve_untaken (bounded : ∀ sub ∈ s.subs, 0 ≤ sub.amountUsed) (targetQuota : Int)
    (session : BillingSession) : (session.reserve cfg targetQuota).Meets (.alone _) s fun result s' =>
      ∀ e, result.1 = .error e → result.2 = session ∧ QuotasKept s s' := by
  unfold reserve
  split
  · exact fun e failed => absurd failed.symm error_ne_ok
  rename_i open_
  have positive : 0 < targetQuota - session.preConsumedQuota := by omega
  refine .bind (reserveFunding_alone positive session) ?_
  rintro outcome s₁ ⟨untaken, held⟩
  cases outcome with
  | error e =>
    obtain rfl := untaken e rfl
    exact fun _ _ => ⟨rfl, .refl _⟩
  | ok funding =>
    refine .bind (reserveToken_untaken _ _) ?_
    rintro outcome s₂ same
    cases outcome with
    | ok _ => exact fun e failed => absurd failed.symm error_ne_ok
    | error e =>
      obtain rfl := same e rfl
      refine .bind (rollbackFundingReserve_alone positive bounded (held funding rfl)) ?_
      rintro _ s₃ ⟨rfl, kept⟩ _ _
      exact ⟨rfl, kept⟩

/-- User 1 with 30 in the wallet, 15 on the token and 40 of 100 used on a subscription. -/
def modestUser : Store := { Store.empty with
  users := fun id => if id = 1 then some ⟨1, "default", 30, "", ""⟩ else none
  tokens := [⟨1, "k", 15, 0, false⟩]
  subs := [⟨1, 1, 1, 100, 40, 0, 1000, .active, "order", 0, 0, "", ""⟩] }

/-- A session that holds 10 of the subscription. -/
def modestSession : BillingSession :=
  { fresh plainRequest (.subscription ⟨"r", 1, 10, 1, 10, 100, 40, 1, ""⟩) with
    preConsumedQuota := 10, tokenConsumed := 10 }

end NewApi.Billing
