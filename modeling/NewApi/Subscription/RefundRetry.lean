/-
# Subscription.RefundRetry — retried refunds under store failures

One attempt of `RefundSubscriptionPreConsume` reads the record; reads the row, saves it and commits,
all in a transaction of its own; saves the record and commits.  When it fails behind the inner
commit, the quota has been given back and the record still says `consumed`, so the next attempt gives
it back again.  `committedRefunds` counts the attempts that get past their inner commit.
-/
import NewApi.Model.FundingSource
import NewApi.Subscription.QuotaRuns

namespace NewApi.Subscription
open Theory Theory.Text Model Sql Store Int

/-! ## One attempt -/

section
variable {s : Store} {record : SubscriptionPreConsumeRecord} {sub : UserSubscription}

/-- The inner transaction gives the record's amount back to the row. -/
def givenBack (s : Store) (record : SubscriptionPreConsumeRecord) (sub : UserSubscription) : Store :=
  adjust s (.refunded record.requestId record.userSubscriptionId record.preConsumed) sub
    (-record.preConsumed)

/-- A charge that is still to be refunded, with the row it was made to. -/
structure Outstanding (s : Store) (record : SubscriptionPreConsumeRecord) (sub : UserSubscription) :
    Prop where
  found : s.findRecord record.requestId = some record
  named : trimSpace record.requestId ≠ ""
  consumed : record.status = .consumed
  positive : 0 < record.preConsumed
  row : s.findSub record.userSubscriptionId = some sub
  identified : 0 < sub.id
  bounds : sub.InBounds

/-- The settlement of an attempt. -/
def innerRefund (record : SubscriptionPreConsumeRecord) : Db Unit :=
  postConsumeUserSubscriptionDelta
    (.refunded record.requestId record.userSubscriptionId record.preConsumed)
    record.userSubscriptionId (-record.preConsumed)

namespace Outstanding

variable {faults rest left : Faults} (open_ : Outstanding s record sub)

include open_

/-- The inner transaction: four statements into the attempt it has committed. -/
theorem inner : ∃ body, innerRefund record = transaction body ∧ Takes 2 body s id () (givenBack · record sub) := by
  have positive := open_.positive
  have identified : ¬record.userSubscriptionId ≤ 0 := by
    rw [← (mem_of_findSub open_.row).2]
    have := open_.identified
    omega
  unfold innerRefund postConsumeUserSubscriptionDelta
  rw [if_neg identified, if_neg (by omega)]
  refine ⟨_, rfl, ?_⟩
  show Takes (1 + 1) _ _ _ _ _
  refine takes_bind (takes_first (·.findSub record.userSubscriptionId) open_.row _) ?_
  have room : ¬(sub.amountTotal > 0 ∧ max 0 (sub.amountUsed + -record.preConsumed) > sub.amountTotal) := by
    rintro ⟨limited, beyond⟩
    have := open_.bounds.2 limited
    omega
  simp only [clamp_eq, if_neg room]
  exact takes_write _ s id

/-- The body of the outer transaction, after the record was read. -/
theorem refundTx_eq (played : spend 1 faults = (true, rest)) : refundTx record.requestId ⟨s, id, faults⟩ =
      (do
        innerRefund record
        write (·.saveRecord { record with status := .refunded }) : Db Unit) ⟨s, id, rest⟩ := by
  have positive := open_.positive
  have read : first (·.findRecord record.requestId) errRecordNotFound ⟨s, id, faults⟩ = _ :=
    (takes_first (·.findRecord record.requestId) open_.found errRecordNotFound).runs
      faults rest played
  unfold refundTx
  rw [bind_ok read, if_neg (by simp [open_.consumed]), if_neg (by omega)]
  rfl

/-- An attempt that fails before its inner commit changes nothing. -/
theorem attempt_early (played : spend 4 faults = (false, rest)) :
    ∃ e, refundSubscriptionPreConsume record.requestId ⟨s, id, faults⟩ = (.error e, ⟨s, id, rest⟩) := by
  unfold refundSubscriptionPreConsume
  rw [if_neg open_.named]
  obtain ⟨left, start, played⟩ | ⟨-, start⟩ := spend_add_cases (n := 1) (m := 3) played
  · obtain ⟨inner, is, takes⟩ := open_.inner
    obtain ⟨e, ran⟩ := takes.transaction_fails id played
    have body := open_.refundTx_eq start
    rw [is, bind_error ran] at body
    refine ⟨e, ?_⟩
    simp only [transaction, body]
  · obtain ⟨e, w, ran⟩ := (takes_first (·.findRecord record.requestId) (w := id) open_.found
      errRecordNotFound).fails faults rest start
    have body : refundTx record.requestId ⟨s, id, faults⟩ = _ := bind_error ran
    refine ⟨e, ?_⟩
    simp only [transaction, body]

variable (committed : spend 4 faults = (true, left))
include committed

/-- Behind the inner commit an attempt is left with a save and a commit. -/
theorem attempt_eq : refundSubscriptionPreConsume record.requestId ⟨s, id, faults⟩ =
      transaction (write (·.saveRecord { record with status := .refunded }))
        ⟨givenBack s record sub, id, left⟩ := by
  unfold refundSubscriptionPreConsume
  rw [if_neg open_.named]
  obtain ⟨rest, start, committed⟩ | ⟨⟨⟩, -⟩ := spend_add_cases (n := 1) (m := 3) committed
  obtain ⟨inner, is, takes⟩ := open_.inner
  have body := open_.refundTx_eq start
  rw [is, bind_ok (takes.transaction_runs id committed)] at body
  simp only [transaction, body]

/-- An attempt that fails behind its inner commit has given the amount back and left the
record as it was. -/
theorem attempt_late (failed : spend 2 left = (false, rest)) :
    ∃ e, refundSubscriptionPreConsume record.requestId ⟨s, id, faults⟩ =
      (.error e, ⟨givenBack s record sub, id, rest⟩) := by
  rw [open_.attempt_eq committed]
  exact (takes_write _ _ id).transaction_fails id failed

theorem attempt_runs (ended : spend 2 left = (true, rest)) :
    refundSubscriptionPreConsume record.requestId ⟨s, id, faults⟩ =
      (.ok (), ⟨giveBack s record sub, id, rest⟩) := by
  rw [open_.attempt_eq committed]
  exact (takes_write _ _ id).transaction_runs id ended

end Outstanding
end

/-! ## All attempts -/

/-- How many of the next `attempts` attempts get past their inner commit. -/
def committedRefunds : Nat → Faults → Nat
  | 0, _ => 0
  | attempts + 1, faults =>
    match spend 4 faults with
    | (false, rest) => committedRefunds attempts rest
    | (true, left) =>
      match spend 2 left with
      | (true, _) => 1
      | (false, rest) => committedRefunds attempts rest + 1

section
variable {s : Store} {record : SubscriptionPreConsumeRecord} {sub : UserSubscription}

theorem Outstanding.used_givenBack (open_ : Outstanding s record sub) :
    (givenBack s record sub).used record.userSubscriptionId =
      max 0 (s.used record.userSubscriptionId - record.preConsumed) := by
  have same := (mem_of_findSub open_.row).2
  have found : s.findSub sub.id = some sub := by rw [same]; exact open_.row
  rw [used_of_findSub open_.row]
  exact (used_adjust found _ _ _).trans (if_pos same.symm)

/-- After an attempt that failed late the same charge is outstanding. -/
theorem Outstanding.givenBack (open_ : Outstanding s record sub) : Outstanding (givenBack s record sub) record
      { sub with amountUsed := max 0 (sub.amountUsed + -record.preConsumed) } where
  found := open_.found
  named := open_.named
  consumed := open_.consumed
  positive := open_.positive
  row := by
    show (s.saveSub _).findSub _ = _
    rw [findSub_saveSub, open_.row]
    simp
  identified := open_.identified
  bounds := by
    have positive := open_.positive
    have used := open_.bounds.1
    constructor
    · show 0 ≤ max 0 _
      omega
    · intro limited
      have := open_.bounds.2 limited
      show max 0 _ ≤ sub.amountTotal
      omega

theorem refunds_givenBack (s : Store) (record : SubscriptionPreConsumeRecord) (sub : UserSubscription) :
    refunds record.requestId (Subscription.givenBack s record sub).history =
      refunds record.requestId s.history ++ [(record.userSubscriptionId, record.preConsumed)] := by
  show refunds record.requestId (s.history ++ [_]) = _
  rw [refunds_concat]
  simp [refunds]

/-- **What the attempts do**, under every failure plan: each one that gets past its inner
commit gives the amount back once more. -/
theorem Outstanding.refundAttempts_run (open_ : Outstanding s record sub) (attempts : Nat)
    (lastErr : String) (faults : Faults) :
    let after := ((refundAttempts (refundSubscriptionPreConsume record.requestId) attempts
      lastErr).run s faults).2.1
    after.used record.userSubscriptionId = max 0 (s.used record.userSubscriptionId -
        committedRefunds attempts faults * record.preConsumed) ∧
      (refunds record.requestId after.history).length =
        (refunds record.requestId s.history).length + committedRefunds attempts faults := by
  induction attempts generalizing s sub lastErr faults with
  | zero =>
    have used : 0 ≤ s.used record.userSubscriptionId := by
      rw [used_of_findSub open_.row]
      exact open_.bounds.1
    refine ⟨?_, rfl⟩
    show s.used record.userSubscriptionId = max 0 (_ - ((0 : Nat) : Int) * _)
    omega
  | succ attempts ih =>
    simp only [refundAttempts, committedRefunds]
    rcases inner : spend 4 faults with ⟨passed, left⟩
    cases passed with
    | false =>
      obtain ⟨e, ran⟩ := open_.attempt_early inner
      simp only [Program.run_store_bind ran]
      exact ih open_ e left
    | true =>
      rcases outer : spend 2 left with ⟨ended, rest⟩
      have given := open_.used_givenBack
      cases ended with
      | true =>
        have ran := open_.attempt_runs inner outer
        simp only [Program.run_store_bind ran, outer]
        refine ⟨?_, ?_⟩
        · show (Subscription.givenBack s record sub).used record.userSubscriptionId = _
          rw [given]
          omega
        · show (refunds record.requestId (Subscription.givenBack s record sub).history).length = _
          rw [refunds_givenBack]
          simp
      | false =>
        obtain ⟨e, ran⟩ := open_.attempt_late inner outer
        simp only [Program.run_store_bind ran, outer]
        obtain ⟨used, counted⟩ := ih open_.givenBack e rest
        refine ⟨?_, ?_⟩
        · rw [used, given]
          push_cast
          have more : 0 ≤ (committedRefunds attempts rest : Int) * record.preConsumed :=
            Int.mul_nonneg (by omega) (Int.le_of_lt open_.positive)
          rw [add_mul, one_mul]
          omega
        · rw [counted, refunds_givenBack]
          simp
          omega

/-- The store after `refundWithRetry(RefundSubscriptionPreConsume)`. -/
def afterRefund (s : Store) (requestId : String) (faults : Faults) : Store :=
  ((refundWithRetry (refundSubscriptionPreConsume requestId)).run s faults).2.1

/-- **When a retried refund takes the amount off at most once.**  Exactly when at most one
attempt gets past its inner commit, or there was no more than that amount to take off.
The amount was given back as often as attempts got past their inner commit. -/
theorem refund_retry_once_iff (open_ : Outstanding s record sub) (faults : Faults) :
    (s.used record.userSubscriptionId -
        (afterRefund s record.requestId faults).used record.userSubscriptionId ≤ record.preConsumed ↔
      committedRefunds 3 faults ≤ 1 ∨ s.used record.userSubscriptionId ≤ record.preConsumed) ∧
    (refunds record.requestId (afterRefund s record.requestId faults).history).length =
      (refunds record.requestId s.history).length + committedRefunds 3 faults := by
  obtain ⟨used, counted⟩ := open_.refundAttempts_run 3 "" faults
  unfold afterRefund refundWithRetry
  refine ⟨?_, counted⟩
  have positive := open_.positive
  rw [used]
  by_cases once : committedRefunds 3 faults ≤ 1
  · have bound : (committedRefunds 3 faults : Int) * record.preConsumed ≤ 1 * record.preConsumed :=
      Int.mul_le_mul_of_nonneg_right (by omega) (by omega)
    omega
  · have bound : 2 * record.preConsumed ≤ (committedRefunds 3 faults : Int) * record.preConsumed :=
      Int.mul_le_mul_of_nonneg_right (by omega) (by omega)
    omega

end

/-- Subscription 1 has 80 of 100 used, 40 of them pre-consumed for request `r`. -/
def chargedTwice : Store :=
  { oneSubscription with
    subs := [⟨1, 7, 1, 100, 80, 0, 1000, .active, "order", 0, 0, "", ""⟩]
    records := [⟨"r", 7, 1, 40, .consumed⟩, ⟨"q", 7, 1, 40, .consumed⟩] }

theorem chargedTwice_outstanding : Outstanding chargedTwice ⟨"r", 7, 1, 40, .consumed⟩
      ⟨1, 7, 1, 100, 80, 0, 1000, .active, "order", 0, 0, "", ""⟩ := by
  constructor <;> decide

/-- A first attempt whose record is not saved, then one that goes through. -/
def recordNotSaved : Faults := [none, none, none, none, some "save failed"]

/-- A failure while the record is saved, and the quota of another request is given away. -/
theorem refund_retry_twice : chargedTwice.used 1 = 80 ∧ (afterRefund chargedTwice "r" recordNotSaved).used 1 = 0 ∧
      ¬chargedTwice.used 1 - (afterRefund chargedTwice "r" recordNotSaved).used 1 ≤ 40 := by
  decide

/-- A failure before the inner commit does no harm. -/
theorem refund_retry_once_row_not_saved :
    (chargedTwice.used 1 - (afterRefund chargedTwice "r" [none, none, some "save failed"]).used 1 ≤ 40 ↔
      committedRefunds 3 [none, none, some "save failed"] ≤ 1 ∨ chargedTwice.used 1 ≤ 40) ∧
    (refunds "r" (afterRefund chargedTwice "r" [none, none, some "save failed"]).history).length =
      (refunds "r" chargedTwice.history).length +
        committedRefunds 3 [none, none, some "save failed"] :=
  refund_retry_once_iff chargedTwice_outstanding _

end NewApi.Subscription
