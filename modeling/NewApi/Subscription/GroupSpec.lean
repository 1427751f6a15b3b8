/-
# Subscription.GroupSpec — what creating and ending a subscription does

Without store failures.  Creating moves the user into the plan's group (`enter`) and appends a row
that remembers the group before; ending changes rows and moves the user to the group that `fallback`
or `expiryFallback` computes from them (`regroup`).
-/
import NewApi.Model.Subscription
import NewApi.Subscription.Table

namespace NewApi.Subscription
open Theory Theory.Text Model Sql Store

/-! ## The group of a user -/

variable (s : Store)

def groupOf (userId : Int) : String := ((s.users userId).map (·.group)).getD ""

variable {userId : Int}

theorem getGroup_apply (positive : 0 < userId) (s : Store) (w : Store → Store) :
    getUserGroupByIdTx userId ⟨s, w, []⟩ = (.ok (groupOf (w s) userId), ⟨s, w, []⟩) := by
  unfold getUserGroupByIdTx
  rw [if_neg (by omega)]
  rfl

theorem getGroup_invalid (invalid : userId ≤ 0) (c : Conn Store) :
    getUserGroupByIdTx userId c = (.error "invalid userId", c) := by
  unfold getUserGroupByIdTx
  rw [if_pos invalid]
  rfl

theorem groupOf_setGroup {s : Store} {user : User} (here : s.users userId = some user)
    (group : String) : groupOf (s.setGroup userId group) userId = group := by
  simp [groupOf, setGroup, setUser, here]

theorem groupOf_setGroup_of_ne {other : Int} (different : other ≠ userId)
    (group : String) : groupOf (s.setGroup userId group) other = groupOf s other := by
  simp [groupOf, setGroup, setUser, different]

/-- Move a user to `target`; the empty group stands for staying. -/
def regroup (userId : Int) (target : String) : Store :=
  if target = "" then s else s.setGroup userId target

theorem regroup_empty (userId : Int) : regroup s userId "" = s := if_pos rfl

@[simp] theorem subs_regroup (userId : Int) (target : String) : (regroup s userId target).subs = s.subs := by
  unfold regroup
  split <;> rfl

@[simp] theorem nextSubId_regroup (userId : Int) (target : String) :
    (regroup s userId target).nextSubId = s.nextSubId := by
  unfold regroup
  split <;> rfl

/-- The group `downgradeUserGroupForSubscriptionTx` moves the user to. -/
def fallback (s : Store) (sub : UserSubscription) (now : Int) : String :=
  if trimSpace sub.upgradeGroup = "" then ""
  else if groupOf s sub.userId ≠ trimSpace sub.upgradeGroup then ""
  else if (s.activeUpgrade sub.userId now (·.id ≠ sub.id)).isSome then ""
  else if trimSpace sub.prevUserGroup = groupOf s sub.userId then ""
  else trimSpace sub.prevUserGroup

/-- A downgrade that succeeds moves the user to `fallback`. -/
theorem downgrade_apply (sub : UserSubscription) (now : Int) (s : Store) (w : Store → Store) :
    ∃ outcome w', downgradeUserGroupForSubscriptionTx sub now ⟨s, w, []⟩ = (outcome, ⟨s, w', []⟩) ∧
      ∀ target, outcome = .ok target → w' s = regroup (w s) sub.userId (fallback (w s) sub now) := by
  unfold downgradeUserGroupForSubscriptionTx fallback
  by_cases plain : trimSpace sub.upgradeGroup = ""
  · simp only [if_pos plain]
    exact ⟨_, w, rfl, fun _ _ => (regroup_empty _ _).symm⟩
  simp only [if_neg plain]
  by_cases invalid : sub.userId ≤ 0
  · rw [bind_error (getGroup_invalid invalid _)]
    exact ⟨_, w, rfl, by rintro _ ⟨⟩⟩
  rw [bind_ok (getGroup_apply (by omega) s w)]
  by_cases moved : groupOf (w s) sub.userId ≠ trimSpace sub.upgradeGroup
  · simp only [if_pos moved]
    exact ⟨_, w, rfl, fun _ _ => (regroup_empty _ _).symm⟩
  simp only [if_neg moved]
  rw [bind_ok (attempt_apply (read_nil _ s w))]
  cases other : (w s).activeUpgrade sub.userId now (·.id ≠ sub.id) with
  | some active => exact ⟨_, w, rfl, fun _ _ => (regroup_empty _ _).symm⟩
  | none =>
    simp only [Option.isSome_none, Bool.false_eq_true, if_false]
    by_cases nowhere : trimSpace sub.prevUserGroup = ""
    · rw [if_pos (.inl nowhere)]
      refine ⟨_, w, rfl, fun _ _ => ?_⟩
      rw [nowhere, ite_self, regroup_empty]
    by_cases same : trimSpace sub.prevUserGroup = groupOf (w s) sub.userId
    · rw [if_pos (.inr same), if_pos same]
      exact ⟨_, w, rfl, fun _ _ => (regroup_empty _ _).symm⟩
    · rw [if_neg (by simp [nowhere, same]), if_neg same]
      refine ⟨_, _, rfl, fun _ _ => ?_⟩
      rw [regroup, if_neg nowhere]
      rfl

theorem invalidate_exec (id now : Int) (s : Store) :
    ∃ outcome s', (adminInvalidateUserSubscription id now).exec s [] = (outcome, s') ∧
      (s' = s ∨ ∃ sub, s.findSub id = some sub ∧ s' = regroup (s.saveSub (sub.cancel now)) sub.userId
          (fallback (s.saveSub (sub.cancel now)) (sub.cancel now) now)) := by
  unfold adminInvalidateUserSubscription
  split
  · exact ⟨_, s, rfl, .inl rfl⟩
  cases row : s.findSub id with
  | none =>
    have body : adminInvalidateTx id now ⟨s, fun s => s, []⟩ = _ := bind_error (first_missing row _)
    exact ⟨_, s, exec_transaction_nil body, .inl rfl⟩
  | some sub =>
    have body : adminInvalidateTx id now ⟨s, fun s => s, []⟩ = _ := bind_ok (first_found row _)
    rw [bind_ok (write_nil _ _ _)] at body
    obtain ⟨outcome, w, ran, moved⟩ := downgrade_apply (sub.cancel now) now s
      ((fun v => v.saveSub (sub.cancel now)) ∘ fun s => s)
    cases outcome with
    | error e =>
      rw [bind_error ran] at body
      exact ⟨_, s, exec_transaction_nil body, .inl rfl⟩
    | ok target =>
      rw [bind_ok ran] at body
      exact ⟨_, _, exec_transaction_nil body, .inr ⟨sub, rfl, moved target rfl⟩⟩

theorem delete_exec (id now : Int) (s : Store) :
    ∃ outcome s', (adminDeleteUserSubscription id now).exec s [] = (outcome, s') ∧
      (s' = s ∨ ∃ sub, s.findSub id = some sub ∧ s' = (regroup s sub.userId (fallback s sub now)).deleteSub id) := by
  unfold adminDeleteUserSubscription
  split
  · exact ⟨_, s, rfl, .inl rfl⟩
  cases row : s.findSub id with
  | none =>
    have body : adminDeleteTx id now ⟨s, fun s => s, []⟩ = _ := bind_error (first_missing row _)
    exact ⟨_, s, exec_transaction_nil body, .inl rfl⟩
  | some sub =>
    have body : adminDeleteTx id now ⟨s, fun s => s, []⟩ = _ := bind_ok (first_found row _)
    obtain ⟨outcome, w, ran, moved⟩ := downgrade_apply sub now s fun s => s
    cases outcome with
    | error e =>
      rw [bind_error ran] at body
      exact ⟨_, s, exec_transaction_nil body, .inl rfl⟩
    | ok target =>
      rw [bind_ok ran, bind_ok (write_nil _ _ _)] at body
      refine ⟨_, _, exec_transaction_nil body, .inr ⟨sub, rfl, ?_⟩⟩
      show (w s).deleteSub id = _
      rw [moved target rfl]

/-- The group `ExpireDueSubscriptions` moves the user to, once the due rows are marked. -/
def expiryFallback (s : Store) (userId now : Int) : String :=
  if (s.activeUpgrade userId now fun _ => true).isSome then ""
  else
    match s.lastExpired userId with
    | none => ""
    | some last =>
      if trimSpace last.upgradeGroup = "" then ""
      else if groupOf s userId ≠ trimSpace last.upgradeGroup then ""
      else if groupOf s userId = trimSpace last.prevUserGroup then ""
      else trimSpace last.prevUserGroup

/-- What the transaction of one user writes. -/
theorem expireUser_apply (userId now : Int) (s : Store) :
    ∃ outcome w, expireUserTx userId now ⟨s, fun s => s, []⟩ = (outcome, ⟨s, w, []⟩) ∧
      ((userId ≤ 0 ∧ ∃ e, outcome = .error e) ∨
        ∃ group, outcome = .ok (group, s.subs.countP fun sub => sub.userId = userId ∧ sub.DueAt now) ∧
          w s = regroup (s.expireUser userId now) userId (expiryFallback (s.expireUser userId now) userId now)) := by
  simp only [expireUserTx, expiryFallback, bind_apply, peek_apply, write_nil, attempt, read_nil, Function.comp_apply]
  cases active : (s.expireUser userId now).activeUpgrade userId now fun _ => true with
  | some _ => exact ⟨_, _, rfl, .inr ⟨_, rfl, (regroup_empty _ _).symm⟩⟩
  | none =>
    simp only [Option.isSome_none, Bool.false_eq_true]
    rw [bind_ok (attempt_apply (read_nil _ _ _))]
    simp only [Function.comp_apply]
    cases expired : (s.expireUser userId now).lastExpired userId with
    | none => exact ⟨_, _, rfl, .inr ⟨_, rfl, (regroup_empty _ _).symm⟩⟩
    | some last =>
      by_cases plain : trimSpace last.upgradeGroup = ""
      · simp only [plain]
        exact ⟨_, _, rfl, .inr ⟨_, rfl, (regroup_empty _ _).symm⟩⟩
      by_cases nowhere : trimSpace last.prevUserGroup = ""
      · simp only [nowhere, or_true, ite_self]
        exact ⟨_, _, rfl, .inr ⟨_, rfl, (regroup_empty _ _).symm⟩⟩
      simp only [plain, nowhere, or_self, if_false]
      by_cases invalid : userId ≤ 0
      · rw [bind_error (getGroup_invalid invalid _)]
        exact ⟨_, _, rfl, .inl ⟨invalid, _, rfl⟩⟩
      rw [bind_ok (getGroup_apply (by omega) _ _)]
      simp only [Function.comp_apply]
      by_cases moved : groupOf (s.expireUser userId now) userId ≠ trimSpace last.upgradeGroup
      · rw [if_pos (.inl moved), if_pos moved]
        exact ⟨_, _, rfl, .inr ⟨_, rfl, (regroup_empty _ _).symm⟩⟩
      by_cases same : groupOf (s.expireUser userId now) userId = trimSpace last.prevUserGroup
      · rw [if_pos (.inr same), if_neg moved, if_pos same]
        exact ⟨_, _, rfl, .inr ⟨_, rfl, (regroup_empty _ _).symm⟩⟩
      · rw [if_neg (by simp only [moved, same, or_self, not_false_eq_true]), if_neg moved,
          if_neg same]
        refine ⟨_, _, rfl, .inr ⟨_, rfl, ?_⟩⟩
        rw [regroup, if_neg nowhere]
        rfl

theorem expireUser_exec (userId now : Int) (s : Store) :
    ∃ outcome s', (transaction (expireUserTx userId now)).exec s [] = (outcome, s') ∧
      (s' = s ∨ s' = regroup (s.expireUser userId now) userId
        (expiryFallback (s.expireUser userId now) userId now)) := by
  obtain ⟨_, w, body, ⟨-, e, rfl⟩ | ⟨group, rfl, moved⟩⟩ := expireUser_apply userId now s
  · exact ⟨_, _, exec_transaction_nil body, .inl rfl⟩
  · exact ⟨_, _, exec_transaction_nil body, .inr moved⟩

/-! ## Creating a subscription -/

/-- Move a user into the group of a plan; a plan without group leaves the user alone. -/
def enter (s : Store) (userId : Int) (target : String) : Store :=
  if target = "" ∨ groupOf s userId = target then s else s.setGroup userId target

def groupLeft (s : Store) (userId : Int) (target : String) : String :=
  if target = "" ∨ groupOf s userId = target then "" else groupOf s userId

@[simp] theorem subs_enter (userId : Int) (target : String) : (enter s userId target).subs = s.subs := by
  unfold enter
  split <;> rfl

@[simp] theorem nextSubId_enter (userId : Int) (target : String) :
    (enter s userId target).nextSubId = s.nextSubId := by
  unfold enter
  split <;> rfl

theorem upgrade_apply (positive : 0 < userId) (target : String) (s : Store) (w : Store → Store) :
    ∃ w', upgradeUserGroupTx userId target ⟨s, w, []⟩ =
        (.ok (groupLeft (w s) userId target), ⟨s, w', []⟩) ∧ w' s = enter (w s) userId target := by
  unfold upgradeUserGroupTx groupLeft enter
  by_cases plain : target = ""
  · simp only [plain]
    exact ⟨w, rfl, rfl⟩
  simp only [plain, if_false]
  rw [bind_ok (getGroup_apply positive s w)]
  by_cases same : groupOf (w s) userId = target
  · simp only [same]
    exact ⟨w, rfl, rfl⟩
  · simp only [same]
    exact ⟨_, rfl, rfl⟩

/-- Whether the plan's purchase limit lets `userId` buy once more. -/
def MayPurchase (s : Store) (userId : Int) (plan : SubscriptionPlan) : Prop :=
  0 < plan.maxPurchasePerUser → (s.countSubs userId plan.id : Int) < plan.maxPurchasePerUser

theorem checkLimit_apply (userId : Int) (plan : SubscriptionPlan) (s : Store) (w : Store → Store) :
    ∃ outcome, checkPurchaseLimitTx userId plan ⟨s, w, []⟩ = (outcome, ⟨s, w, []⟩) ∧
      (outcome = .ok () → MayPurchase (w s) userId plan) := by
  unfold checkPurchaseLimitTx MayPurchase
  by_cases limited : plan.maxPurchasePerUser > 0
  · simp only [if_pos limited, bind_apply, read_nil]
    by_cases reached : ((w s).countSubs userId plan.id : Int) ≥ plan.maxPurchasePerUser
    · rw [if_pos reached]
      exact ⟨_, rfl, by rintro ⟨⟩⟩
    · rw [if_neg reached]
      exact ⟨_, rfl, fun _ _ => by omega⟩
  · rw [if_neg limited]
    exact ⟨_, rfl, fun _ positive => absurd positive limited⟩

variable (cfg : Config)

def newRow (s : Store) (userId : Int) (plan : SubscriptionPlan) (source : String)
    (now endTime : Int) : UserSubscription where
  id := s.nextSubId
  userId := userId
  planId := plan.id
  amountTotal := plan.totalAmount
  amountUsed := 0
  startTime := now
  endTime := endTime
  status := .active
  source := source
  lastResetTime := if calcNextResetTime cfg now plan endTime > 0 then now else 0
  nextResetTime := calcNextResetTime cfg now plan endTime
  upgradeGroup := trimSpace plan.upgradeGroup
  prevUserGroup := groupLeft s userId (trimSpace plan.upgradeGroup)

theorem prevUserGroup_newRow (s : Store) (userId : Int) (plan : SubscriptionPlan)
    (source : String) (now endTime : Int) : (newRow cfg s userId plan source now endTime).prevUserGroup =
      groupLeft s userId (trimSpace plan.upgradeGroup) := by
  simp only [newRow]

def withNewRow (order : String) (userId : Int) (plan : SubscriptionPlan)
    (source : String) (now endTime : Int) (s : Store) : Store :=
  ((enter s userId (trimSpace plan.upgradeGroup)).createSub
    (newRow cfg s userId plan source now endTime)).log (.subscribed order s.nextSubId)

section
variable (cfg : Config) (order : String) (userId : Int) (plan : SubscriptionPlan) (source : String)
  (now endTime : Int) (s : Store)

@[simp] theorem subs_withNewRow : (withNewRow cfg order userId plan source now endTime s).subs =
      s.subs ++ [newRow cfg s userId plan source now endTime] := by
  simp only [withNewRow, log, createSub, subs_enter, nextSubId_enter, newRow]

@[simp] theorem nextSubId_withNewRow :
    (withNewRow cfg order userId plan source now endTime s).nextSubId = s.nextSubId + 1 := by
  simp only [withNewRow, log, createSub, nextSubId_enter]

@[simp] theorem users_withNewRow : (withNewRow cfg order userId plan source now endTime s).users =
      (enter s userId (trimSpace plan.upgradeGroup)).users := by
  simp only [withNewRow, log, createSub]

theorem groupOf_withNewRow (other : Int) : groupOf (withNewRow cfg order userId plan source now endTime s) other =
      groupOf (enter s userId (trimSpace plan.upgradeGroup)) other := by
  simp only [groupOf, users_withNewRow]

end

structure Created (cfg : Config) (order : String) (userId : Int) (plan : SubscriptionPlan)
    (source : String) (now : Int) (s s' : Store) : Prop where
  positive : 0 < userId
  room : MayPurchase s userId plan
  effect : ∃ endTime, calcPlanEndTime cfg now plan = .ok endTime ∧
    s' = withNewRow cfg order userId plan source now endTime s

theorem create_apply (order : String) (userId : Int) (plan : SubscriptionPlan)
    (source : String) (now : Int) (s : Store) (w : Store → Store) :
    ∃ outcome w', createUserSubscriptionFromPlanTx cfg order userId plan source now ⟨s, w, []⟩ =
        (outcome, ⟨s, w', []⟩) ∧ ∀ sub, outcome = .ok sub → Created cfg order userId plan source now (w s) (w' s) := by
  unfold createUserSubscriptionFromPlanTx
  split
  · exact ⟨_, w, rfl, by rintro _ ⟨⟩⟩
  split
  · exact ⟨_, w, rfl, by rintro _ ⟨⟩⟩
  obtain ⟨allowed, ran, room⟩ := checkLimit_apply userId plan s w
  cases allowed with
  | error e =>
    rw [bind_error ran]
    exact ⟨_, w, rfl, by rintro _ ⟨⟩⟩
  | ok _ =>
    rw [bind_ok ran]
    cases ends : calcPlanEndTime cfg now plan with
    | error e => exact ⟨_, w, rfl, by rintro _ ⟨⟩⟩
    | ok endTime =>
      have positive : 0 < userId := by omega
      obtain ⟨w', moved, entered⟩ := upgrade_apply positive (trimSpace plan.upgradeGroup) s w
      simp only
      rw [bind_ok moved, bind_ok (peek_apply _ _), bind_ok (write_nil _ _ _)]
      refine ⟨_, _, rfl, fun sub _ => ⟨positive, room rfl, endTime, ends, ?_⟩⟩
      simp only [Function.comp_apply, Conn.view, entered, nextSubId_enter, withNewRow, newRow]

end NewApi.Subscription
