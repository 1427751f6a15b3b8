/-
# Subscription.QuotaSteps — one operation on the quota table, as events

`Tabled s s' events`: a step from `s` to `s'` changed used amounts exactly as `events` say, recorded
them, and touched nothing of the wallets and tokens.  Steps compose (`Tabled.trans`), so what a
transaction does is the list of what its statements do.
-/
import NewApi.Subscription.QuotaRuns

namespace NewApi.Subscription
open Theory Model Store List

/-- Wallets, tokens and the pending deltas of both. -/
structure AccountsKept (s s' : Store) : Prop where
  users : s'.users = s.users
  tokens : s'.tokens = s.tokens
  pendingUsers : s'.batchUserQuota = s.batchUserQuota
  pendingTokens : s'.batchTokenQuota = s.batchTokenQuota

theorem AccountsKept.trans {s m s' : Store} (first : AccountsKept s m) (second : AccountsKept m s') :
    AccountsKept s s' :=
  ⟨second.users.trans first.users, second.tokens.trans first.tokens,
    second.pendingUsers.trans first.pendingUsers, second.pendingTokens.trans first.pendingTokens⟩

structure Tabled (s s' : Store) (events : List Event) : Prop where
  valid : s'.Valid
  ids : s'.subs.map (·.id) = s.subs.map (·.id)
  accounts : AccountsKept s s'
  history : s'.history = s.history ++ events
  used : ∀ subId, s'.used subId = events.foldl (effect subId) (s.used subId)

section
variable {s m s' : Store} {events more : List Event}

theorem Tabled.refl (valid : s.Valid) : Tabled s s [] := ⟨valid, rfl, ⟨rfl, rfl, rfl, rfl⟩, by simp, fun _ => rfl⟩

theorem Tabled.trans (first : Tabled s m events) (second : Tabled m s' more) : Tabled s s' (events ++ more) where
  valid := second.valid
  ids := second.ids.trans first.ids
  accounts := first.accounts.trans second.accounts
  history := by rw [second.history, first.history, append_assoc]
  used subId := by rw [second.used, first.used, foldl_append]

variable {row sub : UserSubscription}

variable (valid : s.Valid) (member : row ∈ s.subs) (quota : row.Requota sub)
include valid member quota

theorem tabled_saveSub (same : sub.amountUsed = row.amountUsed) : Tabled s (s.saveSub sub) [] where
  valid := by
    refine valid.saveSub member quota.id_eq ?_
    have fits := valid.bounds row member
    unfold UserSubscription.InBounds at fits ⊢
    rwa [quota.total_eq, same]
  ids := map_id_saveSub sub
  accounts := ⟨rfl, rfl, rfl, rfl⟩
  history := (append_nil _).symm
  used subId := by
    have found := findSub_of_mem valid.subIds member
    rw [used_saveSub (by rw [quota.id_eq]; exact found)]
    split
    · rename_i this
      rw [this, quota.id_eq, foldl_nil, used_of_findSub found, same]
    · rfl

theorem tabled_saveSub_log (fits : sub.InBounds) (event : Event) (said : ∀ subId, effect subId (s.used subId) event =
      if subId = sub.id then sub.amountUsed else s.used subId) : Tabled s ((s.saveSub sub).log event) [event] where
  valid := (valid.saveSub member quota.id_eq fits).log event
  ids := map_id_saveSub sub
  accounts := ⟨rfl, rfl, rfl, rfl⟩
  history := rfl
  used subId := by
    have found := findSub_of_mem valid.subIds member
    rw [used_log, used_saveSub (by rw [quota.id_eq]; exact found), foldl_cons,
      foldl_nil, said]

end

variable {cfg : Config} {fuel : Nat} {now : Int} {s s' : Store}

theorem Prepares.tabled {ids : List Int} (prepared : Prepares cfg fuel now s s' ids)
    (valid : s.Valid) : Tabled s s' (ids.map .reset) := by
  induction prepared with
  | done s => exact .refl valid
  | schedule member decided _ ih =>
    obtain ⟨quota, same⟩ := resetOutcome_schedule decided
    have saved := tabled_saveSub valid member quota same
    exact saved.trans (ih saved.valid)
  | @reset _ _ _ _ sub' _ member decided _ ih =>
    obtain ⟨quota, zero⟩ := resetOutcome_reset decided
    have saved := tabled_saveSub_log valid member quota
      (by unfold UserSubscription.InBounds; rw [zero]; omega) (.reset sub'.id)
      (fun subId => by simp only [effect, zero, eq_comm])
    exact saved.trans (ih saved.valid)

/-- A charge: the resets that were due, then the charge itself. -/
theorem Charged.tabled {requestId : String} {userId amount : Int}
    {result : SubscriptionPreConsumeResult} (valid : s.Valid) (positive : 0 < amount)
    (charged : Charged cfg fuel requestId userId amount now s s' result) : ∃ ids : List Int, Tabled s s'
        (ids.map .reset ++ [.charged requestId result.userSubscriptionId amount]) ∧
      (∀ r, s'.findRecord r = if r = requestId then
        some ⟨requestId, userId, result.userSubscriptionId, amount, .consumed⟩
        else s.findRecord r) ∧ 0 < result.userSubscriptionId ∧ (s'.findSub result.userSubscriptionId).isSome ∧
      result.preConsumed = amount := by
  obtain ⟨fresh, middle, ids, sub, prepared, member, room, rfl, named, exact_⟩ := charged
  have prepared' := prepared.tabled valid
  have unseen : middle.findRecord requestId = none := by
    rw [findRecord, prepared.records_eq]
    exact fresh
  let record : SubscriptionPreConsumeRecord := ⟨requestId, userId, sub.id, amount, .consumed⟩
  let noted : Store := { middle with records := middle.records ++ [record] }
  have appended : Tabled middle noted [] :=
    ⟨prepared'.valid.appendRecord unseen positive, rfl, ⟨rfl, rfl, rfl, rfl⟩, (append_nil _).symm, fun _ => rfl⟩
  have found := findSub_of_mem prepared'.valid.subIds member
  have fits := prepared'.valid.bounds sub member
  have saved := tabled_saveSub_log appended.valid member (sub.requota_amountUsed (sub.amountUsed + amount))
    ⟨by show 0 ≤ sub.amountUsed + amount; have := fits.1; omega, room⟩
    (.charged requestId sub.id amount) fun subId => by
      have here : used noted sub.id = sub.amountUsed := used_of_findSub found
      simp only [effect]
      by_cases same : sub.id = subId
      · subst same
        simp [here]
      · simp [same, Ne.symm same]
  refine ⟨ids, ?_, ?_, ?_, ?_, exact_⟩
  · rw [named]
    exact prepared'.trans (appended.trans saved)
  · intro r
    rw [named]
    have looked : (charge middle record sub).findRecord r = _ := findRecord_append unseen r
    rw [looked, findRecord, prepared.records_eq]
    rfl
  · rw [named]
    exact prepared'.valid.subPos sub member
  · rw [named]
    show ((noted.saveSub _).findSub sub.id).isSome
    rw [findSub_saveSub]
    simp [show noted.findSub sub.id = some sub from found]

variable {sub : UserSubscription}

theorem tabled_adjust (valid : s.Valid) (cause : Event) (delta : Int) (found : s.findSub sub.id = some sub)
    (room : sub.Room delta) (said : ∀ subId used, effect subId used cause =
      if subId = sub.id then max 0 (used + delta) else used) : Tabled s (adjust s cause sub delta) [cause] := by
  have member := (mem_of_findSub found).1
  refine tabled_saveSub_log valid member (sub.requota_amountUsed _)
    ⟨by show 0 ≤ max 0 _; omega, room⟩ cause fun subId => ?_
  rw [said]
  split
  · rename_i same
    rw [same, used_of_findSub found]
  · rfl

theorem tabled_posted (valid : s.Valid) {subId delta : Int} (found : s.findSub subId = some sub)
    (room : sub.Room delta) : Tabled s (adjust s (.posted subId delta) sub delta) [.posted subId delta] := by
  obtain ⟨-, rfl⟩ := mem_of_findSub found
  exact tabled_adjust valid _ delta found room fun subId used => by simp only [effect, eq_comm]

/-- The refund of an outstanding record. -/
theorem tabled_giveBack (valid : s.Valid) {record : SubscriptionPreConsumeRecord} (inside : record ∈ s.records)
    (row : s.findSub record.userSubscriptionId = some sub) : Tabled s (giveBack s record sub)
        [.refunded record.requestId record.userSubscriptionId record.preConsumed] ∧
      ∀ r, (giveBack s record sub).findRecord r = (s.findRecord r).map fun old =>
        if old.requestId = record.requestId then { record with status := .refunded } else old := by
  obtain ⟨member, named⟩ := mem_of_findSub row
  have positive := valid.recordPos record inside
  have fits := valid.bounds sub member
  rw [← named] at row
  have adjusted := tabled_adjust valid (.refunded record.requestId record.userSubscriptionId record.preConsumed)
    (-record.preConsumed) row
    (fun limited => by have := fits.2 limited; have := fits.1; omega)
    fun subId used => by simp only [effect, named, eq_comm]
  have accounts := adjusted.accounts
  exact ⟨⟨adjusted.valid.saveRecord positive, adjusted.ids,
    ⟨accounts.users, accounts.tokens, accounts.pendingUsers, accounts.pendingTokens⟩,
    adjusted.history, adjusted.used⟩, fun r => findRecord_saveRecord _ r⟩

end NewApi.Subscription
