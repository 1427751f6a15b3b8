/-
# Subscription.QuotaSpec — what each quota operation does to the store

One statement per operation; the invariants never unfold the operations again.  `Prepares s s' ids`:
the resets and schedule updates on the way each save one row as `resetOutcome` decided it, and `ids`
lists the rows that were reset.  `local_preConsumeTx` and its siblings: the bodies stay inside their
transaction, under every failure pattern.
-/
import NewApi.Subscription.Table

namespace NewApi.Subscription
open Theory Theory.Text Model List Sql Store

section
variable {cfg : Config} {fuel : Nat} {now : Int} {sub' : UserSubscription} {plan : SubscriptionPlan}

theorem resetOutcome_reset {sub : UserSubscription} (due : resetOutcome cfg fuel sub plan now = .reset sub') :
    sub.Requota sub' ∧ sub'.amountUsed = 0 := by
  unfold resetOutcome at due
  split at due
  · cases due
  split at due
  · cases due
  · dsimp only at due
    split at due
    · cases due
    · split at due <;> cases due
    · cases due; exact ⟨rfl, rfl⟩

theorem resetOutcome_schedule {sub : UserSubscription}
    (scheduled : resetOutcome cfg fuel sub plan now = .schedule sub') :
    sub.Requota sub' ∧ sub'.amountUsed = sub.amountUsed := by
  unfold resetOutcome at scheduled
  split at scheduled
  · cases scheduled
  split at scheduled
  · cases scheduled
  · dsimp only at scheduled
    split at scheduled
    · cases scheduled
    · split at scheduled
      · cases scheduled; exact ⟨rfl, rfl⟩
      · cases scheduled
    · cases scheduled

variable (cfg fuel now) in
/-- Rows saved one after the other as `resetOutcome` decides them; `ids` are the rows
that were reset. -/
inductive Prepares : Store → Store → List Int → Prop where
  | done (s : Store) : Prepares s s []
  | schedule {s s' : Store} {ids : List Int} {sub sub' : UserSubscription} {plan : SubscriptionPlan}
      (member : sub ∈ s.subs)
      (decided : resetOutcome cfg fuel sub plan now = .schedule sub')
      (rest : Prepares (s.saveSub sub') s' ids) : Prepares s s' ids
  | reset {s s' : Store} {ids : List Int} {sub sub' : UserSubscription} {plan : SubscriptionPlan}
      (member : sub ∈ s.subs)
      (decided : resetOutcome cfg fuel sub plan now = .reset sub')
      (rest : Prepares ((s.saveSub sub').log (.reset sub'.id)) s' ids) :
      Prepares s s' (sub'.id :: ids)

variable (cfg fuel now) in
/-- What `maybeResetUserSubscriptionWithPlanTx` leaves: the row as it then is, among rows
of which only this one changed. -/
theorem maybeReset_apply (sub : UserSubscription) (plan : SubscriptionPlan) (s : Store)
    (w : Store → Store) (member : sub ∈ (w s).subs) :
    ∃ outcome w', maybeResetUserSubscriptionWithPlanTx cfg fuel sub plan now ⟨s, w, []⟩ = (outcome, ⟨s, w', []⟩) ∧
      ∀ sub', outcome = .ok sub' → sub.Requota sub' ∧ sub' ∈ (w' s).subs ∧
        (∀ row ∈ (w s).subs, row.id ≠ sub.id → row ∈ (w' s).subs) ∧
        ∃ ids, ∀ s'' rest, Prepares cfg fuel now (w' s) s'' rest → Prepares cfg fuel now (w s) s'' (ids ++ rest) := by
  unfold maybeResetUserSubscriptionWithPlanTx
  cases decided : resetOutcome cfg fuel sub plan now with
  | keep =>
    refine ⟨_, w, rfl, ?_⟩
    rintro sub' ⟨rfl⟩
    exact ⟨rfl, member, fun row inside _ => inside, [], fun _ _ rest => rest⟩
  | endless => exact ⟨_, w, rfl, by rintro sub' ⟨⟩⟩
  | schedule scheduled =>
    obtain ⟨quota, -⟩ := resetOutcome_schedule decided
    refine ⟨_, (fun v => v.saveSub scheduled) ∘ w, rfl, ?_⟩
    rintro sub' ⟨rfl⟩
    refine ⟨quota, mem_saveSub_self member quota.id_eq.symm, fun row inside other => ?_, [],
      fun _ _ rest => .schedule member decided rest⟩
    exact mem_saveSub_of_ne inside (by rwa [quota.id_eq])
  | reset cleared =>
    obtain ⟨quota, -⟩ := resetOutcome_reset decided
    refine ⟨_, (fun v => (v.saveSub cleared).log (.reset cleared.id)) ∘ w, rfl, ?_⟩
    intro sub' ended
    cases ended
    refine ⟨quota, mem_saveSub_self member quota.id_eq.symm, fun row inside other => ?_, [cleared.id],
      fun _ _ rest => .reset member decided rest⟩
    exact mem_saveSub_of_ne inside (by rwa [quota.id_eq])

theorem local_maybeReset (sub : UserSubscription) (plan : SubscriptionPlan) :
    Sql.Local (maybeResetUserSubscriptionWithPlanTx cfg fuel sub plan now) := by
  unfold maybeResetUserSubscriptionWithPlanTx
  cases resetOutcome cfg fuel sub plan now with
  | keep => exact local_pure _
  | schedule _ | reset _ => exact local_bind (local_write _) fun _ => local_pure _
  | endless => exact local_throw _

end

/-! ## Charging -/

/-- The store after `sub` was charged under `record`. -/
def charge (s : Store) (record : SubscriptionPreConsumeRecord) (sub : UserSubscription) : Store :=
  (({ s with records := s.records ++ [record] } : Store).saveSub
    { sub with amountUsed := sub.amountUsed + record.preConsumed }).log
    (.charged record.requestId sub.id record.preConsumed)

section
variable {cfg : Config} {fuel : Nat} {requestId : String} {userId amount now : Int}

theorem chargeCandidate_apply (sub : UserSubscription) (s : Store) (w : Store → Store)
    (fresh : (w s).findRecord requestId = none) : chargeCandidate requestId userId amount sub ⟨s, w, []⟩ =
      (.ok ⟨sub.id, amount, sub.amountTotal, sub.amountUsed, sub.amountUsed + amount⟩,
        ⟨s, (charge · ⟨requestId, userId, sub.id, amount, .consumed⟩ sub) ∘ w, []⟩) := by
  simp only [chargeCandidate, insertRecord, Sql.insert, Sql.attempt, bind_apply, statement_nil, Conn.view, fresh]
  rfl

variable (cfg fuel requestId userId amount now) in
/-- A charge of `amount`: some rows were prepared, one of them had room and was charged. -/
structure Charged (s s' : Store) (result : SubscriptionPreConsumeResult) : Prop where
  fresh : s.findRecord requestId = none
  charged : ∃ middle ids sub, Prepares cfg fuel now s middle ids ∧ sub ∈ middle.subs ∧
    (0 < sub.amountTotal → sub.amountUsed + amount ≤ sub.amountTotal) ∧
    s' = charge middle ⟨requestId, userId, sub.id, amount, .consumed⟩ sub ∧
    result.userSubscriptionId = sub.id ∧ result.preConsumed = amount

variable {s s' : Store}

theorem Prepares.records_eq {ids : List Int} (prepared : Prepares cfg fuel now s s' ids) : s'.records = s.records := by
  induction prepared with
  | done => rfl
  | schedule _ _ _ ih | reset _ _ _ ih => rw [ih]; rfl

variable (cfg fuel requestId userId amount now) in
/-- The candidate loop.  `candidates` are rows of the transaction's view, each listed
once, so saving one of them leaves the others as they were read. -/
theorem chargeFirst_apply (candidates : List UserSubscription) (s : Store) (w : Store → Store)
    (inside : ∀ row ∈ candidates, row ∈ (w s).subs) (once : (candidates.map (·.id)).Nodup)
    (fresh : (w s).findRecord requestId = none) :
    ∃ outcome w', chargeFirst cfg fuel requestId userId amount now candidates ⟨s, w, []⟩ = (outcome, ⟨s, w', []⟩) ∧
      ∀ result, outcome = .ok result → Charged cfg fuel requestId userId amount now (w s) (w' s) result := by
  induction candidates generalizing w with
  | nil => exact ⟨.error _, w, rfl, by rintro result ⟨⟩⟩
  | cons candidate rest ih =>
    have member : candidate ∈ (w s).subs := inside candidate (by simp)
    simp only [map_cons, nodup_cons] at once
    simp only [chargeFirst]
    obtain ⟨planOutcome, planRan, -⟩ := getPlan_apply candidate.planId s w
    cases planOutcome with
    | error e =>
      rw [bind_error planRan]
      exact ⟨.error e, w, rfl, by rintro result ⟨⟩⟩
    | ok plan =>
      rw [bind_ok planRan]
      obtain ⟨resetOutcome, w₁, resetRan, prepared⟩ := maybeReset_apply cfg fuel now candidate plan s w member
      cases resetOutcome with
      | error e =>
        rw [bind_error resetRan]
        exact ⟨.error e, w₁, rfl, by rintro result ⟨⟩⟩
      | ok sub =>
        rw [bind_ok resetRan]
        obtain ⟨quota, here, others, ids, extend⟩ := prepared sub rfl
        have fresh₁ : (w₁ s).findRecord requestId = none := by
          have same := (extend _ [] (.done _)).records_eq
          unfold Store.findRecord at fresh ⊢
          rw [same]
          exact fresh
        split
        · have distinct : ∀ row ∈ rest, row.id ≠ candidate.id := by
            rintro row later same
            exact once.1 (mem_map.mpr ⟨row, later, same⟩)
          obtain ⟨outcome, w', ran, spec⟩ := ih w₁
            (fun row later => others row (inside row (by simp [later])) (distinct row later))
            once.2 fresh₁
          refine ⟨outcome, w', ran, fun result ended => ⟨fresh, ?_⟩⟩
          obtain ⟨-, middle, ids', sub', steps, charged⟩ := spec result ended
          exact ⟨middle, ids ++ ids', sub', extend _ _ steps, charged⟩
        · rename_i room
          rw [chargeCandidate_apply sub s w₁ fresh₁]
          refine ⟨_, _, rfl, ?_⟩
          rintro result ⟨rfl⟩
          refine ⟨fresh, w₁ s, ids ++ [], sub, extend _ _ (.done _), here, ?_, rfl, rfl, rfl⟩
          intro limited
          omega

theorem map_id_candidates (s : Store) (ids : (s.subs.map (·.id)).Nodup) :
    ((s.candidates userId now).map (·.id)).Nodup := by
  have sorted := perm_insertionSort endsBefore (s.subs.filter fun sub => sub.userId = userId ∧ sub.ActiveAt now)
  refine (sorted.map _).nodup_iff.mpr ?_
  exact ids.sublist (filter_sublist.map _)

theorem mem_candidates {row : UserSubscription} (member : row ∈ s.candidates userId now) : row ∈ s.subs :=
  mem_of_mem_filter ((mem_insertionSort endsBefore).mp member)

variable (cfg fuel requestId userId amount now) in
/-- A pre-consumption that meets no failure changes nothing, or charges. -/
theorem preConsume_exec (s : Store) (ids : (s.subs.map (·.id)).Nodup) : ∃ outcome s',
      (preConsumeUserSubscription cfg fuel requestId userId amount now).exec s [] = (outcome, s') ∧
      (s' = s ∨ (0 < amount ∧ ∃ result, outcome = .ok result ∧
        Charged cfg fuel requestId userId amount now s s' result)) ∧
      (s.findRecord requestId = none → ∀ result, outcome = .ok result →
        0 < amount ∧ Charged cfg fuel requestId userId amount now s s' result) := by
  unfold preConsumeUserSubscription
  split
  · exact ⟨_, s, rfl, .inl rfl, by rintro _ _ ⟨⟩⟩
  split
  · exact ⟨_, s, rfl, .inl rfl, by rintro _ _ ⟨⟩⟩
  split
  · exact ⟨_, s, rfl, .inl rfl, by rintro _ _ ⟨⟩⟩
  rename_i positive
  have positive : 0 < amount := by omega
  suffices body : ∃ outcome w, preConsumeTx cfg fuel requestId userId amount now ⟨s, id, []⟩ =
      (outcome, ⟨s, w, []⟩) ∧ ∀ result, outcome = .ok result →
        ((s.findRecord requestId ≠ none ∧ w s = s) ∨ Charged cfg fuel requestId userId amount now s (w s) result) by
    obtain ⟨outcome, w, ran, spec⟩ := body
    refine ⟨_, _, exec_transaction_nil ran, ?_, ?_⟩
    · cases outcome with
      | error e => exact .inl rfl
      | ok result =>
        rcases spec result rfl with ⟨-, same⟩ | charged
        · exact .inl same
        · exact .inr ⟨positive, result, rfl, charged⟩
    · rintro fresh result rfl
      rcases spec result rfl with ⟨found, -⟩ | charged
      · exact absurd fresh found
      · exact ⟨positive, charged⟩
  simp only [preConsumeTx, bind_apply, read_nil]
  cases existing : s.findRecord requestId with
  | some record =>
    simp only [id, existing]
    split
    · exact ⟨.error _, id, rfl, by rintro _ ⟨⟩⟩
    · cases row : s.findSub record.userSubscriptionId with
      | none => exact ⟨.error _, id, bind_error (first_missing row _), by rintro _ ⟨⟩⟩
      | some sub =>
        exact ⟨.ok _, id, bind_ok (first_found row _), fun _ _ => .inl ⟨by simp, rfl⟩⟩
  | none =>
    simp only [id, existing]
    simp only [Sql.failWith, read_nil, bind_apply]
    split
    · exact ⟨.error _, id, rfl, by rintro _ ⟨⟩⟩
    · obtain ⟨outcome, w, ran, spec⟩ := chargeFirst_apply cfg fuel requestId userId amount
        now (s.candidates userId now) s id
        (fun row => mem_candidates) (map_id_candidates s ids) existing
      exact ⟨outcome, w, ran, fun result ended => .inr (spec result ended)⟩

theorem local_chargeCandidate (sub : UserSubscription) : Sql.Local (chargeCandidate requestId userId amount sub) := by
  refine local_bind (local_attempt (local_insert _ _)) fun created => ?_
  cases created with
  | error e =>
    refine local_bind (local_attempt (local_first _ _)) fun dup => ?_
    cases dup with
    | error _ => exact local_throw _
    | ok dup => exact local_ite (fun _ => local_throw _) fun _ => local_pure _
  | ok _ => exact local_bind (local_write _) fun _ => local_pure _

theorem local_chargeFirst (candidates : List UserSubscription) :
    Sql.Local (chargeFirst cfg fuel requestId userId amount now candidates) := by
  induction candidates with
  | nil => exact local_throw _
  | cons candidate rest ih =>
    refine local_bind (local_getPlan _) fun plan => ?_
    refine local_bind (local_maybeReset _ _) fun sub => ?_
    exact local_ite (fun _ => ih) fun _ => local_chargeCandidate _

theorem local_preConsumeTx : Sql.Local (preConsumeTx cfg fuel requestId userId amount now) := by
  refine local_bind (local_read _) fun existing => ?_
  cases existing with
  | some record =>
    refine local_ite (fun _ => local_throw _) fun _ => ?_
    exact local_bind (local_first _ _) fun _ => local_pure _
  | none =>
    refine local_bind (local_failWith _ (local_read _)) fun candidates => ?_
    exact local_ite (fun _ => local_throw _) fun _ => local_chargeFirst _

/-- Whatever fails in it, a pre-consumption that reports an error has changed nothing. -/
theorem preConsume_error {faults : Faults} {e : String}
    (ran : (preConsumeUserSubscription cfg fuel requestId userId amount now).exec s faults =
      (.error e, s')) : s' = s := by
  unfold preConsumeUserSubscription at ran
  split at ran
  · cases ran; rfl
  split at ran
  · cases ran; rfl
  split at ran
  · cases ran; rfl
  · exact exec_transaction_error local_preConsumeTx ran

end

/-! ## Settling and refunding -/

/-- The store after the used amount of `sub` moved by `delta`, not below zero. -/
def adjust (s : Store) (cause : Event) (sub : UserSubscription) (delta : Int) : Store :=
  (s.saveSub { sub with amountUsed := max 0 (sub.amountUsed + delta) }).log cause

variable {s : Store} {sub : UserSubscription}

theorem used_adjust (found : s.findSub sub.id = some sub) (cause : Event) (delta subId : Int) :
    (adjust s cause sub delta).used subId =
      if subId = sub.id then max 0 (sub.amountUsed + delta) else s.used subId := by
  have saved : s.findSub ({ sub with amountUsed := max 0 (sub.amountUsed + delta) } :
      UserSubscription).id = some sub := found
  exact used_saveSub saved subId

theorem clamp_eq (n : Int) : (if n < 0 then 0 else n) = max 0 n := by
  split <;> omega

variable (cause : Event)

theorem atomic_postConsumeTx (id delta : Int) : Sql.Atomic (postConsumeTx cause id delta) := by
  simp [postConsumeTx]

variable {subId : Int}

theorem postConsumeTx_apply (delta : Int)
    {w : Store → Store} (found : (w s).findSub subId = some sub) : postConsumeTx cause subId delta ⟨s, w, []⟩ =
      if sub.amountTotal > 0 ∧ max 0 (sub.amountUsed + delta) > sub.amountTotal then
        (.error ("subscription used exceeds total, used=" ++
          toString (max 0 (sub.amountUsed + delta)) ++ " total=" ++ toString sub.amountTotal), ⟨s, w, []⟩)
      else (.ok (), ⟨s, (adjust · cause sub delta) ∘ w, []⟩) := by
  unfold postConsumeTx
  rw [bind_ok (first_found found _)]
  simp only [clamp_eq]
  split
  · rfl
  · rfl

/-- A settlement changes nothing, or moves one row that has room.  Called inside a
transaction it commits all the same, and leaves the open writes alone. -/
theorem postConsume_apply (subId delta : Int) (s : Store) (outer : Store → Store) :
    ∃ outcome s', postConsumeUserSubscriptionDelta cause subId delta ⟨s, outer, []⟩ = (outcome, ⟨s', outer, []⟩) ∧
      ((s' = s ∧ (outcome = .ok () → delta = 0)) ∨
        (outcome = .ok () ∧ 0 < subId ∧ ∃ sub, s.findSub subId = some sub ∧ sub.Room delta ∧
          s' = adjust s cause sub delta)) := by
  unfold postConsumeUserSubscriptionDelta
  split
  · exact ⟨_, s, rfl, .inl ⟨rfl, by rintro ⟨⟩⟩⟩
  split
  · exact ⟨_, s, rfl, .inl ⟨rfl, fun _ => ‹_›⟩⟩
  cases row : s.findSub subId with
  | none =>
    have body : postConsumeTx cause subId delta ⟨s, id, []⟩ = _ := bind_error (first_missing row _)
    exact ⟨_, s, transaction_nil_error body, .inl ⟨rfl, by rintro ⟨⟩⟩⟩
  | some sub =>
    have body := postConsumeTx_apply cause delta (w := id) row
    split at body
    · exact ⟨_, s, transaction_nil_error body, .inl ⟨rfl, by rintro ⟨⟩⟩⟩
    · exact ⟨_, _, transaction_nil_ok body, .inr ⟨rfl, by omega, sub, rfl, fun limited => by omega, rfl⟩⟩

theorem postConsume_exec (subId delta : Int) (s : Store) (faults : Faults) :
    ∃ outcome s', (postConsumeUserSubscriptionDelta cause subId delta).exec s faults = (outcome, s') ∧
      ((s' = s ∧ (outcome = .ok () → delta = 0)) ∨
        (outcome = .ok () ∧ 0 < subId ∧ ∃ sub, s.findSub subId = some sub ∧ sub.Room delta ∧
          s' = adjust s cause sub delta)) := by
  obtain ⟨outcome, s', ran, effect⟩ := postConsume_apply cause subId delta s id
  have atomic : (∃ e, (postConsumeUserSubscriptionDelta cause subId delta).exec s faults = (.error e, s)) ∨
      (postConsumeUserSubscriptionDelta cause subId delta).exec s faults = (outcome, s') := by
    rw [show (outcome, s') = (postConsumeUserSubscriptionDelta cause subId delta).exec s [] by rw [exec, ran]]
    unfold postConsumeUserSubscriptionDelta
    split
    · exact .inr rfl
    split
    · exact .inr rfl
    · exact exec_transaction (atomic_postConsumeTx cause subId delta) s faults
  rcases atomic with ⟨e, failed⟩ | same
  · exact ⟨_, s, failed, .inl ⟨rfl, by rintro ⟨⟩⟩⟩
  · exact ⟨_, _, same, effect⟩

/-- A settlement that frees quota, or that has room, goes through. -/
theorem postConsume_ok (delta : Int) (outer : Store → Store)
    (named : 0 < subId) (found : s.findSub subId = some sub) (moves : delta ≠ 0) (room : sub.Room delta) :
    postConsumeUserSubscriptionDelta cause subId delta ⟨s, outer, []⟩ =
      (.ok (), ⟨adjust s cause sub delta, outer, []⟩) := by
  unfold postConsumeUserSubscriptionDelta
  rw [if_neg (by omega), if_neg moves]
  have body := postConsumeTx_apply cause delta (w := id) found
  rw [if_neg (by omega)] at body
  exact transaction_nil_ok body

/-- The store after the charge under `record` was given back to `sub`. -/
def giveBack (s : Store) (record : SubscriptionPreConsumeRecord) (sub : UserSubscription) : Store :=
  (adjust s (.refunded record.requestId record.userSubscriptionId record.preConsumed) sub
    (-record.preConsumed)).saveRecord { record with status := .refunded }

/-- A refund of `requestId` that gave something back. -/
structure Refunded (requestId : String) (s s' : Store) : Prop where
  refunded : ∃ record sub, s.findRecord requestId = some record ∧ record.status = .consumed ∧
    s.findSub record.userSubscriptionId = some sub ∧ s' = giveBack s record sub

theorem refund_exec (requestId : String) (s : Store) (valid : s.Valid) :
    ∃ outcome s', (refundSubscriptionPreConsume requestId).exec s [] = (outcome, s') ∧
      (s' = s ∨ (outcome = .ok () ∧ Refunded requestId s s')) := by
  unfold refundSubscriptionPreConsume
  split
  · exact ⟨_, s, rfl, .inl rfl⟩
  cases found : s.findRecord requestId with
  | none =>
    have body : refundTx requestId ⟨s, id, []⟩ = _ := bind_error (first_missing found _)
    exact ⟨_, s, exec_transaction_nil body, .inl rfl⟩
  | some record =>
    have body : refundTx requestId ⟨s, id, []⟩ = _ := bind_ok (first_found found _)
    obtain ⟨member, named⟩ := mem_of_findRecord found
    have positive := valid.recordPos record member
    split at body
    · exact ⟨_, s, exec_transaction_nil body, .inl rfl⟩
    rename_i unpaid
    rw [if_neg (by omega)] at body
    obtain ⟨outcome, s', ran, effect⟩ := postConsume_apply
      (.refunded requestId record.userSubscriptionId record.preConsumed)
      record.userSubscriptionId (-record.preConsumed) s id
    cases outcome with
    | error e =>
      rw [bind_error ran] at body
      rcases effect with ⟨rfl, -⟩ | ⟨⟨⟩, -⟩
      exact ⟨_, _, exec_transaction_nil body, .inl rfl⟩
    | ok _ =>
      rw [bind_ok ran, write_nil] at body
      refine ⟨_, _, exec_transaction_nil body, .inr ⟨rfl, record, ?_⟩⟩
      rcases effect with ⟨-, still⟩ | ⟨-, -, sub, row, -, rfl⟩
      · have := still rfl
        omega
      have consumed : record.status = .consumed := by
        cases status : record.status with
        | consumed => rfl
        | refunded => exact absurd status unpaid
      subst named
      exact ⟨sub, found, consumed, row, rfl⟩

/-- The refund of a charge whose row is there goes through. -/
theorem refund_ok {requestId : String} (valid : s.Valid) {record : SubscriptionPreConsumeRecord}
    (named : trimSpace requestId ≠ "") (found : s.findRecord requestId = some record)
    (consumed : record.status = .consumed) (row : s.findSub record.userSubscriptionId = some sub) :
    (refundSubscriptionPreConsume requestId).exec s [] = (.ok (), giveBack s record sub) := by
  obtain ⟨member, rfl⟩ := mem_of_findRecord found
  obtain ⟨inside, same⟩ := mem_of_findSub row
  have positive := valid.recordPos record member
  have bounds := valid.bounds sub inside
  have ran := postConsume_ok (.refunded record.requestId record.userSubscriptionId record.preConsumed)
    (-record.preConsumed) id (by rw [← same]; exact valid.subPos sub inside) row (by omega)
    (fun limited => by have := bounds.1; have := bounds.2 limited; omega)
  have body : refundTx record.requestId ⟨s, id, []⟩ = _ := bind_ok (first_found found _)
  rw [if_neg (by simp [consumed]), if_neg (by omega), bind_ok ran, write_nil] at body
  unfold refundSubscriptionPreConsume
  rw [if_neg named, exec_transaction_nil body]
  rfl

/-- The transaction for one picked row prepares that row, or changes nothing. -/
theorem resetOne_exec (cfg : Config) (fuel : Nat) (subId : Int) (plan : SubscriptionPlan) (now : Int) (s : Store) :
    ∃ outcome s', (Sql.transaction (resetOneTx cfg fuel subId plan now)).exec s [] = (outcome, s') ∧
      ∃ ids, Prepares cfg fuel now s s' ids := by
  cases row : s.subs.find? fun sub =>
      sub.id = subId ∧ 0 < sub.nextResetTime ∧ sub.nextResetTime ≤ now with
  | none =>
    have body : resetOneTx cfg fuel subId plan now ⟨s, id, []⟩ = _ := bind_ok (attempt_apply (first_missing row _))
    exact ⟨_, s, exec_transaction_nil body, [], .done s⟩
  | some locked =>
    have body : resetOneTx cfg fuel subId plan now ⟨s, id, []⟩ = _ := bind_ok (attempt_apply (first_found row _))
    obtain ⟨outcome, w, ran, prepared⟩ := maybeReset_apply cfg fuel now locked plan s id (mem_of_find?_eq_some row)
    dsimp only at body
    cases outcome with
    | error e =>
      rw [bind_error ran] at body
      exact ⟨_, s, exec_transaction_nil body, [], .done s⟩
    | ok sub =>
      rw [bind_ok ran] at body
      obtain ⟨-, -, -, ids, extend⟩ := prepared sub rfl
      exact ⟨_, _, exec_transaction_nil body, _, extend _ [] (.done _)⟩

end NewApi.Subscription
