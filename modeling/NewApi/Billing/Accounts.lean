/-
# Billing.Accounts — what moving quota does to wallets and tokens

A change of a wallet or a token fails and leaves the store alone, or moves the amount, in the row
or, in batch mode, in the pending delta.  The balance of an account is its row together with the
delta, so it does not depend on when the batch updater runs.
-/
import NewApi.Theory.Contract
import NewApi.Subscription.QuotaSpec
import NewApi.Model.BillingSession

namespace NewApi.Billing
open Theory Model Sql

variable {cfg : Config} {s : Store}

theorem exec_local {α : Type} {act : Db α} (inner : Local act) (s : Store) (faults : Faults) :
    (act.exec s faults).2 = s := inner ⟨s, id, faults⟩

variable (id : Int)

theorem local_getUserQuota (fromDB : Bool) : Local (getUserQuota id fromDB) := by
  refine local_ite (fun _ => local_read _) fun _ => ?_
  refine local_bind (local_peek _) fun cached => ?_
  cases cached with
  | some quota => exact local_pure _
  | none => exact local_read _

theorem local_getTokenByKey (key : String) (fromDB : Bool) : Local (getTokenByKey key fromDB) := by
  refine local_ite (fun _ => local_first _ _) fun _ => ?_
  refine local_bind (local_peek _) fun cached => ?_
  cases cached with
  | some token => exact local_pure _
  | none => exact local_first _ _

theorem local_hasActiveUserSubscription (userId now : Int) : Local (hasActiveUserSubscription userId now) :=
  local_ite (fun _ => local_throw _) fun _ => local_read _

theorem local_getSubscriptionPlanInfo : Local (getSubscriptionPlanInfo id) := by
  refine local_ite (fun _ => local_throw _) fun _ => ?_
  refine local_bind (local_first _ _) fun sub => ?_
  exact local_bind (local_getPlan _) fun _ => local_pure _

/-! ## Moves -/

/-- What a change of a user's quota by `value` leaves behind. -/
def moveUser (cfg : Config) (id value : Int) (s : Store) : Store :=
  if cfg.batchUpdateEnabled then s.addUserRecord id value else s.addUserQuota id value

/-- What a change of a token's quota by `value` leaves behind. -/
def moveToken (cfg : Config) (id value : Int) (s : Store) : Store :=
  if cfg.batchUpdateEnabled then s.addTokenRecord id value else s.addTokenQuota id value

/-- `act` fails and leaves `s` alone, or leads to `s'`. -/
def Moves (act : Db Unit) (s s' : Store) : Prop :=
  ∀ faults, (∃ e, act.exec s faults = (.error e, s)) ∨ act.exec s faults = (.ok (), s')

theorem moves_throw (e : String) (s s' : Store) : Moves (throw e) s s' :=
  fun _ => .inl ⟨e, rfl⟩

theorem moves_autocommit (change : Store → Store) (s : Store) : Moves (autocommit change) s (change s) := by
  rintro (_ | ⟨_ | e, rest⟩)
  · exact .inr rfl
  · exact .inr rfl
  · exact .inl ⟨e, rfl⟩

theorem moves_memory (change : Store → Store) (s : Store) : Moves (memory change) s (change s) := fun _ => .inr rfl

variable (value : Int)

theorem moves_changeUserQuota (s : Store) :
    Moves (changeUserQuota cfg id value false) s (moveUser cfg id value s) := by
  unfold changeUserQuota moveUser
  cases cfg.batchUpdateEnabled
  · exact moves_autocommit (·.addUserQuota id value) s
  · exact moves_memory (·.addUserRecord id value) s

theorem moves_changeTokenQuota (s : Store) : Moves (changeTokenQuota cfg id value) s (moveToken cfg id value s) := by
  unfold changeTokenQuota moveToken
  cases cfg.batchUpdateEnabled
  · exact moves_autocommit (·.addTokenQuota id value) s
  · exact moves_memory (·.addTokenRecord id value) s

variable (quota : Int)

theorem moves_decreaseUserQuota (s : Store) :
    Moves (decreaseUserQuota cfg id quota false) s (moveUser cfg id (-quota) s) := by
  unfold decreaseUserQuota
  split
  · exact moves_throw _ s _
  · exact moves_changeUserQuota id (-quota) s

theorem moves_increaseUserQuota (s : Store) :
    Moves (increaseUserQuota cfg id quota false) s (moveUser cfg id quota s) := by
  unfold increaseUserQuota
  split
  · exact moves_throw _ s _
  · exact moves_changeUserQuota id quota s

theorem moves_decreaseTokenQuota (s : Store) :
    Moves (decreaseTokenQuota cfg id quota) s (moveToken cfg id (-quota) s) := by
  unfold decreaseTokenQuota
  split
  · exact moves_throw _ s _
  · exact moves_changeTokenQuota id (-quota) s

theorem moves_increaseTokenQuota (s : Store) : Moves (increaseTokenQuota cfg id quota) s (moveToken cfg id quota s) := by
  unfold increaseTokenQuota
  split
  · exact moves_throw _ s _
  · exact moves_changeTokenQuota id quota s

/-! ### Moves that meet no failure -/

theorem changeUserQuota_nil (s : Store) :
    (changeUserQuota cfg id value false).exec s [] = (.ok (), moveUser cfg id value s) := by
  unfold changeUserQuota moveUser
  cases cfg.batchUpdateEnabled <;> rfl

theorem changeTokenQuota_nil (s : Store) :
    (changeTokenQuota cfg id value).exec s [] = (.ok (), moveToken cfg id value s) := by
  unfold changeTokenQuota moveToken
  cases cfg.batchUpdateEnabled <;> rfl

section
variable {id quota : Int} (amount : 0 ≤ quota) (s : Store)
include amount

theorem decreaseUserQuota_nil :
    (decreaseUserQuota cfg id quota false).exec s [] = (.ok (), moveUser cfg id (-quota) s) := by
  unfold decreaseUserQuota
  rw [if_neg (by omega)]
  exact changeUserQuota_nil id (-quota) s

theorem increaseUserQuota_nil :
    (increaseUserQuota cfg id quota false).exec s [] = (.ok (), moveUser cfg id quota s) := by
  unfold increaseUserQuota
  rw [if_neg (by omega)]
  exact changeUserQuota_nil id quota s

theorem decreaseTokenQuota_nil :
    (decreaseTokenQuota cfg id quota).exec s [] = (.ok (), moveToken cfg id (-quota) s) := by
  unfold decreaseTokenQuota
  rw [if_neg (by omega)]
  exact changeTokenQuota_nil id (-quota) s

theorem increaseTokenQuota_nil : (increaseTokenQuota cfg id quota).exec s [] = (.ok (), moveToken cfg id quota s) := by
  unfold increaseTokenQuota
  rw [if_neg (by omega)]
  exact changeTokenQuota_nil id quota s

end

variable {f : Token → Token}

theorem setToken_setToken {id : Int} {g : Token → Token} (keyed : ∀ t, (g t).id = t.id) :
    (s.setToken id g).setToken id f = s.setToken id (f ∘ g) := by
  have rows : ∀ t : Token, (if (if t.id = id then g t else t).id = id then
      f (if t.id = id then g t else t) else if t.id = id then g t else t) =
      if t.id = id then (f ∘ g) t else t := by
    intro t
    by_cases this : t.id = id <;> simp [this, keyed]
  simp only [Store.setToken, List.map_map, Function.comp_def, rows]

theorem setToken_eq_self {id : Int} (same : ∀ t, f t = t) : s.setToken id f = s := by
  simp [Store.setToken, same]

theorem moveUser_cancel (s : Store) : moveUser cfg id quota (moveUser cfg id (-quota) s) = s := by
  unfold moveUser
  split
  · simp [Store.addUserRecord]
  · simp [Store.addUserQuota, Store.setUser, Function.comp_def]

theorem moveToken_cancel (s : Store) : moveToken cfg id quota (moveToken cfg id (-quota) s) = s := by
  unfold moveToken
  split
  · simp [Store.addTokenRecord]
  · refine (setToken_setToken fun _ => ?_).trans (setToken_eq_self fun t => ?_)
    · rfl
    · simp

/-- The factory is as good as its two attempts: each may start wherever the other has refused. -/
theorem newBillingSession_rule {P : Type} {K : Setting Store P} {g : P} {J : P → Prop} {fuel : Nat} {quota : Int}
    {ctx : RequestContext} {info : RelayInfo} {Q : Except ApiError BillingSession → P → Prop}
    (wallet : ∀ g, J g → (tryWallet cfg fuel ctx info quota).Meets K g Q)
    (subscription : ∀ g, J g → (trySubscription cfg fuel ctx info quota).Meets K g Q)
    (look : ∀ g, J g → (Program.store (hasActiveUserSubscription info.userId ctx.now)).Meets K g fun _ => J)
    (refused : ∀ e g, Q (.error e) g ↔ J g) (start : J g) :
    (newBillingSession cfg fuel ctx info quota).Meets K g Q := by
  have either {attempt fallback : Program Store (Except ApiError BillingSession)} {g : P}
      (first : attempt.Meets K g Q) (second : ∀ g, J g → fallback.Meets K g Q) :
      (orElseInsufficient attempt fallback).Meets K g Q := by
    refine .bind first ?_
    intro outcome g' after
    cases outcome with
    | ok session => exact after
    | error e =>
      dsimp only
      split
      · exact second g' ((refused e g').mp after)
      · exact after
  unfold newBillingSession
  cases normalizeBillingPreference info.billingPreference with
  | subscriptionOnly => exact subscription g start
  | walletOnly => exact wallet g start
  | walletFirst => exact either (wallet g start) subscription
  | subscriptionFirst =>
    refine .bind (look g start) ?_
    intro hasSub g' after
    cases hasSub with
    | error e => exact (refused _ g').mpr after
    | ok hasSub =>
      cases hasSub
      · exact wallet g' after
      · exact either (subscription g' after) wallet

def plainRequest : RelayInfo where
  userId := 1
  tokenId := 1
  tokenKey := "k"
  tokenUnlimited := false
  isPlayground := false
  forcePreConsume := false
  requestId := "r"
  billingPreference := "wallet_first"
  userQuota := 0
  finalPreConsumedQuota := 0
  billingSource := .none
  subscriptionId := 0
  subscriptionPreConsumed := 0
  subscriptionPostDelta := 0
  subscriptionAmountTotal := 0
  subscriptionAmountUsedAfterPreConsume := 0
  subscriptionPlanId := 0
  subscriptionPlanTitle := ""

end NewApi.Billing
