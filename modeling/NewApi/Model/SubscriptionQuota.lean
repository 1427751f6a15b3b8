/-
# Model.SubscriptionQuota — charging, refunding and resetting subscription quota

`model/subscription.go`.  `RefundSubscriptionPreConsume` calls `PostConsumeUserSubscriptionDelta`
inside its own transaction, but on the global connection: the inner transaction commits by itself,
and `Sql.transaction` keeps the outer writes apart.
-/
import Mathlib.Data.List.Sort
import NewApi.Model.Plan

namespace NewApi.Model
open Theory Theory.Text Sql

/-- What `maybeResetUserSubscriptionWithPlanTx` decides before it saves anything. -/
inductive ResetOutcome where
  | keep
  | schedule (sub : UserSubscription)
  | reset (sub : UserSubscription)
  | endless

variable (cfg : Config) (fuel : Nat)

def resetOutcome (sub : UserSubscription) (plan : SubscriptionPlan) (now : Int) : ResetOutcome :=
  if sub.nextResetTime > 0 ∧ sub.nextResetTime > now then .keep
  else if normalizeResetPeriod plan.quotaResetPeriod = .never then .keep
  else
    let base := if sub.lastResetTime ≤ 0 then sub.startTime else sub.lastResetTime
    let next := calcNextResetTime cfg base plan sub.endTime
    match catchUp cfg plan sub.endTime now fuel base next false with
    | none => .endless
    | some (base, next, false) =>
      if sub.nextResetTime = 0 ∧ next > 0 then
        .schedule { sub with nextResetTime := next, lastResetTime := base }
      else .keep
    | some (base, next, true) =>
      .reset { sub with amountUsed := 0, lastResetTime := base, nextResetTime := next }

/-- The source changes `*sub` in place; here the changed row is the result.  A loop
that never ends holds its transaction open for ever, so it commits nothing. -/
def maybeResetUserSubscriptionWithPlanTx (sub : UserSubscription)
    (plan : SubscriptionPlan) (now : Int) : Db UserSubscription :=
  match resetOutcome cfg fuel sub plan now with
  | .keep => pure sub
  | .schedule sub => do
      write (·.saveSub sub)
      pure sub
  | .reset sub => do
      write fun s => (s.saveSub sub).log (.reset sub.id)
      pure sub
  | .endless => throw "the reset loop does not end"

structure SubscriptionPreConsumeResult where
  userSubscriptionId : Int
  preConsumed : Int
  amountTotal : Int
  amountUsedBefore : Int
  amountUsedAfter : Int
deriving DecidableEq

/-- `Order("end_time asc, id asc")`. -/
def endsBefore (a b : UserSubscription) : Prop := a.endTime < b.endTime ∨ (a.endTime = b.endTime ∧ a.id ≤ b.id)
deriving Decidable

/-- A subscription that is in force at `now`. -/
def UserSubscription.ActiveAt (sub : UserSubscription) (now : Int) : Prop :=
  sub.status = .active ∧ sub.endTime > now
deriving Decidable

/-- The rows `PreConsumeUserSubscription` may charge, in the order it tries them. -/
def Store.candidates (s : Store) (userId now : Int) : List UserSubscription :=
  (s.subs.filter fun sub => sub.userId = userId ∧ sub.ActiveAt now).insertionSort endsBefore

def insertRecord (record : SubscriptionPreConsumeRecord) : Db Unit :=
  insert
    (fun s => (s.findRecord record.requestId).map fun _ => "UNIQUE constraint failed: request_id")
    (fun s => { s with records := s.records ++ [record] })

section
variable (cfg : Config) (fuel : Nat) (requestId : String) (userId amount now : Int)

/-- Create the idempotency record and charge `sub`. -/
def chargeCandidate (sub : UserSubscription) : Db SubscriptionPreConsumeResult := do
  let created ← attempt <| insertRecord
    { requestId, userId, userSubscriptionId := sub.id, preConsumed := amount, status := .consumed }
  match created with
  | .error e =>
    match ← attempt (first (·.findRecord requestId) errRecordNotFound) with
    | .error _ => throw e
    | .ok dup =>
      if dup.status = .refunded then throw "subscription pre-consume already refunded"
      else
        pure ⟨sub.id, dup.preConsumed, sub.amountTotal, sub.amountUsed, sub.amountUsed⟩
  | .ok () =>
    let charged := { sub with amountUsed := sub.amountUsed + amount }
    write fun s => (s.saveSub charged).log (.charged requestId sub.id amount)
    pure ⟨sub.id, amount, sub.amountTotal, sub.amountUsed, charged.amountUsed⟩

/-- The loop over the candidates: reset what is due, skip what is too small. -/
def chargeFirst : List UserSubscription → Db SubscriptionPreConsumeResult
  | [] => throw ("subscription quota insufficient, need=" ++ toString amount)
  | candidate :: rest => do
      let plan ← getSubscriptionPlanByIdTx candidate.planId
      let sub ← maybeResetUserSubscriptionWithPlanTx cfg fuel candidate plan now
      if sub.amountTotal > 0 ∧ sub.amountTotal - sub.amountUsed < amount then chargeFirst rest
      else chargeCandidate requestId userId amount sub

def preConsumeTx : Db SubscriptionPreConsumeResult := do
  match ← read fun s => .ok (s.findRecord requestId) with
  | some existing =>
    if existing.status = .refunded then throw "subscription pre-consume already refunded"
    else do
      let sub ← first (·.findSub existing.userSubscriptionId) errRecordNotFound
      pure ⟨sub.id, existing.preConsumed, sub.amountTotal, sub.amountUsed, sub.amountUsed⟩
  | none => do
      let subs ← failWith "no active subscription" <|
        read fun s => .ok (s.candidates userId now)
      if subs = [] then throw "no active subscription"
      else chargeFirst cfg fuel requestId userId amount now subs

def preConsumeUserSubscription : Db SubscriptionPreConsumeResult :=
  if userId ≤ 0 then throw "invalid userId"
  else if trimSpace requestId = "" then throw "requestId is empty"
  else if amount ≤ 0 then throw "amount must be > 0"
  else transaction (preConsumeTx cfg fuel requestId userId amount now)

end

/-- The body of the transaction of `postConsumeUserSubscriptionDelta`. -/
def postConsumeTx (cause : Event) (userSubscriptionId delta : Int) : Db Unit := do
  let sub ← first (·.findSub userSubscriptionId) errRecordNotFound
  let newUsed := if sub.amountUsed + delta < 0 then 0 else sub.amountUsed + delta
  if sub.amountTotal > 0 ∧ newUsed > sub.amountTotal then
    throw ("subscription used exceeds total, used=" ++ toString newUsed ++ " total=" ++ toString sub.amountTotal)
  else write fun s => (s.saveSub { sub with amountUsed := newUsed }).log cause

/-- `cause` is not an argument of the source: it is how the history variable records the
change. -/
def postConsumeUserSubscriptionDelta (cause : Event) (userSubscriptionId delta : Int) : Db Unit :=
  if userSubscriptionId ≤ 0 then throw "invalid userSubscriptionId"
  else if delta = 0 then pure ()
  else transaction (postConsumeTx cause userSubscriptionId delta)

/-- The body of the transaction of `refundSubscriptionPreConsume`. -/
def refundTx (requestId : String) : Db Unit := do
  let record ← first (·.findRecord requestId) errRecordNotFound
  let refunded := { record with status := .refunded }
  if record.status = .refunded then pure ()
  else if record.preConsumed ≤ 0 then write (·.saveRecord refunded)
  else do
    postConsumeUserSubscriptionDelta
      (.refunded requestId record.userSubscriptionId record.preConsumed)
      record.userSubscriptionId (-record.preConsumed)
    write (·.saveRecord refunded)

def refundSubscriptionPreConsume (requestId : String) : Db Unit :=
  if trimSpace requestId = "" then throw "requestId is empty"
  else transaction (refundTx requestId)

/-- `Order("next_reset_time asc")`; the database may order equal times either way. -/
def resetsBefore (a b : UserSubscription) : Prop := a.nextResetTime ≤ b.nextResetTime
deriving Decidable

/-- The rows `ResetDueSubscriptions` picks. -/
def Store.resetDue (s : Store) (now : Int) (limit : Int) : List UserSubscription :=
  ((s.subs.filter fun sub => 0 < sub.nextResetTime ∧ sub.nextResetTime ≤ now ∧
    sub.status = .active).insertionSort resetsBefore).take
      (if limit ≤ 0 then 200 else limit.toNat)

/-- The transaction for one picked row: `true` when it counts as reset. -/
def resetOneTx (id : Int) (plan : SubscriptionPlan) (now : Int) : Db Bool := do
  let locked ← attempt <| first
    (fun s => s.subs.find? fun sub => sub.id = id ∧ 0 < sub.nextResetTime ∧ sub.nextResetTime ≤ now)
    errRecordNotFound
  match locked with
  | .error _ => pure false
  | .ok locked => do
      let _ ← maybeResetUserSubscriptionWithPlanTx cfg fuel locked plan now
      pure true

/-- The loop over the picked rows.  Beside an error the count is of no use to the only
caller, so a row whose commit fails is not counted here. -/
def resetAll (cfg : Config) (fuel : Nat) (now : Int) : List UserSubscription → Int → Program Store (Int × Option String)
  | [], resetCount => .done (resetCount, none)
  | sub :: rest, resetCount => do
      match ← Program.store (getSubscriptionPlanByIdTx sub.planId) with
      | .error _ => resetAll cfg fuel now rest resetCount
      | .ok plan =>
        match ← Program.store (transaction (resetOneTx cfg fuel sub.id plan now)) with
        | .error e => .done (resetCount, some e)
        | .ok counted => resetAll cfg fuel now rest (if counted then resetCount + 1 else resetCount)

def resetDueSubscriptions (now limit : Int) : Program Store (Int × Option String) := do
  match ← Program.store (read fun s => .ok (s.resetDue now limit)) with
  | .error e => .done (0, some e)
  | .ok subs => resetAll cfg fuel now subs 0

end NewApi.Model
