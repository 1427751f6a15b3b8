/-
# Subscription.QuotaRuns — the quota table along every interleaving of its operations

Charges, refunds, settlements and the reset task run side by side, each of their transactions atomic.
`Booked`: the used amount of every row is the history replayed (`replay`), the charges of a request
are its record, if it has one, and its refunds are that record once it is marked refunded.
-/
import NewApi.Theory.Pool
import NewApi.Subscription.QuotaSpec

namespace NewApi.Subscription
open Theory Model Store List

/-! ## The history as a book of account -/

def effect (subId used : Int) : Event → Int
  | .charged _ id amount => if id = subId then used + amount else used
  | .refunded _ id amount => if id = subId then max 0 (used + -amount) else used
  | .posted id delta => if id = subId then max 0 (used + delta) else used
  | .reset id => if id = subId then 0 else used
  | _ => used

/-- The used amount that the history accounts for, from zero. -/
def replay (subId : Int) (history : List Event) : Int := history.foldl (effect subId) 0

/-- Subscription and amount of every charge made for `requestId`. -/
def charges (requestId : String) (history : List Event) : List (Int × Int) :=
  history.filterMap fun
    | .charged r id amount => if r = requestId then some (id, amount) else none
    | _ => none

/-- Subscription and amount of every refund made for `requestId`. -/
def refunds (requestId : String) (history : List Event) : List (Int × Int) :=
  history.filterMap fun
    | .refunded r id amount => if r = requestId then some (id, amount) else none
    | _ => none

theorem replay_concat (subId : Int) (history : List Event) (event : Event) :
    replay subId (history ++ [event]) = effect subId (replay subId history) event := by
  simp [replay]

theorem charges_concat (requestId : String) (history : List Event) (event : Event) :
    charges requestId (history ++ [event]) = charges requestId history ++ charges requestId [event] :=
  filterMap_append

theorem refunds_concat (requestId : String) (history : List Event) (event : Event) :
    refunds requestId (history ++ [event]) = refunds requestId history ++ refunds requestId [event] :=
  filterMap_append

def entry (record : SubscriptionPreConsumeRecord) : Int × Int := (record.userSubscriptionId, record.preConsumed)

/-- The rows are what the history accounts for. -/
structure RowsBooked (s : Store) : Prop where
  valid : s.Valid
  limited : ∀ sub ∈ s.subs, 0 < sub.amountTotal
  used : ∀ subId, s.used subId = replay subId s.history

/-- The records are what the history accounts for. -/
structure RecordsBooked (s : Store) : Prop where
  charges : ∀ requestId, charges requestId s.history = ((s.findRecord requestId).map entry).toList
  refunds : ∀ requestId, refunds requestId s.history =
    (((s.findRecord requestId).filter (·.status = .refunded)).map entry).toList

structure Booked (s : Store) : Prop where
  rows : RowsBooked s
  records : RecordsBooked s

section
variable {s : Store} {row sub : UserSubscription}

variable (booked : RowsBooked s) (member : row ∈ s.subs)
include booked member

/-- Saving a row with another used amount, together with the event that says so. -/
theorem RowsBooked.saveSub_log (quota : row.Requota sub) (fits : 0 ≤ sub.amountUsed ∧ sub.amountUsed ≤ sub.amountTotal)
    {event : Event} (said : ∀ subId, effect subId (s.used subId) event =
      if subId = sub.id then sub.amountUsed else s.used subId) : RowsBooked ((s.saveSub sub).log event) where
  valid := (booked.valid.saveSub member quota.id_eq ⟨fits.1, fun _ => fits.2⟩).log event
  limited r touched := by
    rcases mem_saveSub touched with rfl | ⟨old, -⟩
    · rw [quota.total_eq]; exact booked.limited row member
    · exact booked.limited r old
  used subId := by
    have found : s.findSub sub.id = some row := by rw [quota.id_eq]; exact findSub_of_mem booked.valid.subIds member
    show (s.saveSub sub).used subId = replay subId (s.history ++ [event])
    rw [replay_concat, used_saveSub found, ← booked.used, said]

/-- Saving a row with the used amount it has. -/
theorem RowsBooked.saveSub (quota : row.Requota sub) (same : sub.amountUsed = row.amountUsed) : RowsBooked (s.saveSub sub) where
  valid := by
    have bounds := booked.valid.bounds row member
    refine booked.valid.saveSub member quota.id_eq ⟨by rw [same]; exact bounds.1, ?_⟩
    rw [quota.total_eq, same]
    exact bounds.2
  limited r touched := by
    rcases mem_saveSub touched with rfl | ⟨old, -⟩
    · rw [quota.total_eq]; exact booked.limited row member
    · exact booked.limited r old
  used subId := by
    have here : s.findSub row.id = some row := findSub_of_mem booked.valid.subIds member
    have found : s.findSub sub.id = some row := by rw [quota.id_eq]; exact here
    show (s.saveSub sub).used subId = replay subId s.history
    rw [used_saveSub found, ← booked.used]
    split
    · rename_i this
      rw [this, quota.id_eq, used_of_findSub here, same]
    · rfl

theorem RowsBooked.fits : 0 ≤ row.amountUsed ∧ row.amountUsed ≤ row.amountTotal :=
  have bounds := booked.valid.bounds row member
  ⟨bounds.1, bounds.2 (booked.limited row member)⟩

theorem RowsBooked.used_eq : s.used row.id = row.amountUsed :=
  used_of_findSub (findSub_of_mem booked.valid.subIds member)

end

/-! ## Every operation keeps the books -/

section
variable {cfg : Config} {fuel : Nat} {now : Int} {s s' : Store}

section
variable (booked : RecordsBooked s) (records : s'.records = s.records)
include booked records

theorem RecordsBooked.of_eq
    (history : s'.history = s.history) : RecordsBooked s' := by
  constructor
  · intro requestId
    rw [history, booked.charges, findRecord, findRecord, records]
  · intro requestId
    rw [history, booked.refunds, findRecord, findRecord, records]

/-- An event that is neither a charge nor a refund leaves the records' book as it is. -/
theorem RecordsBooked.log
    {event : Event} (history : s'.history = s.history ++ [event])
    (charge : ∀ requestId, Subscription.charges requestId [event] = [])
    (refund : ∀ requestId, Subscription.refunds requestId [event] = []) : RecordsBooked s' := by
  constructor
  · intro requestId
    rw [history, charges_concat, charge, append_nil, findRecord, records]
    exact booked.charges requestId
  · intro requestId
    rw [history, refunds_concat, refund, append_nil, findRecord, records]
    exact booked.refunds requestId

end

theorem Booked.prepares {ids : List Int} (booked : Booked s)
    (prepared : Prepares cfg fuel now s s' ids) : Booked s' := by
  induction prepared with
  | done => exact booked
  | schedule member decided _ ih =>
    obtain ⟨quota, same⟩ := resetOutcome_schedule decided
    exact ih ⟨booked.rows.saveSub member quota same, booked.records.of_eq rfl rfl⟩
  | reset member decided _ ih =>
    obtain ⟨quota, zero⟩ := resetOutcome_reset decided
    refine ih ⟨booked.rows.saveSub_log member quota ?_ ?_, ?_⟩
    · have total := booked.rows.limited _ member
      rw [quota.total_eq, zero]
      omega
    · intro subId
      simp only [effect, zero, eq_comm]
    · exact booked.records.log rfl rfl (fun _ => rfl) fun _ => rfl

variable {record : SubscriptionPreConsumeRecord} {sub : UserSubscription}

theorem RowsBooked.appendRecord (booked : RowsBooked s)
    (fresh : s.findRecord record.requestId = none) (positive : 0 < record.preConsumed) :
    RowsBooked { s with records := s.records ++ [record] } :=
  ⟨booked.valid.appendRecord fresh positive, booked.limited, booked.used⟩

theorem RowsBooked.saveRecord (booked : RowsBooked s)
    (positive : 0 < record.preConsumed) : RowsBooked (s.saveRecord record) :=
  ⟨booked.valid.saveRecord positive, booked.limited, booked.used⟩

/-- A charge under a fresh consumed record for that row. -/
theorem Booked.charge (booked : Booked s) (fresh : s.findRecord record.requestId = none)
    (positive : 0 < record.preConsumed) (consumed : record.status = .consumed)
    (named : record.userSubscriptionId = sub.id) (member : sub ∈ s.subs)
    (room : sub.amountUsed + record.preConsumed ≤ sub.amountTotal) : Booked (Subscription.charge s record sub) := by
  have appended := booked.rows.appendRecord fresh positive
  have bounds := booked.rows.fits member
  refine ⟨appended.saveSub_log member (sub.requota_amountUsed _) ⟨?_, room⟩ ?_, ?_⟩
  · show 0 ≤ sub.amountUsed + record.preConsumed
    omega
  · intro subId
    simp only [effect]
    by_cases same : sub.id = subId
    · subst same
      simp [appended.used_eq member]
    · simp [same, Ne.symm same]
  · have looked (requestId : String) : (s.records ++ [record]).find? (·.requestId = requestId) =
        if requestId = record.requestId then some record else s.findRecord requestId :=
      findRecord_append fresh requestId
    constructor
    · intro requestId
      show charges requestId (s.history ++ [_]) =
        (((s.records ++ [record]).find? (·.requestId = requestId)).map entry).toList
      rw [charges_concat, booked.records.charges, looked]
      by_cases same : requestId = record.requestId
      · subst same
        simp [fresh, charges, entry, named]
      · simp [charges, same, Ne.symm same]
    · intro requestId
      show refunds requestId (s.history ++ [_]) =
        ((((s.records ++ [record]).find? (·.requestId = requestId)).filter (·.status = .refunded)).map entry).toList
      rw [refunds_concat, booked.records.refunds, looked]
      by_cases same : requestId = record.requestId
      · subst same
        simp [fresh, refunds, consumed]
      · simp [refunds, same]

variable {requestId : String} {delta : Int}

theorem Booked.charged {userId amount : Int} {result : SubscriptionPreConsumeResult}
    (booked : Booked s) (positive : 0 < amount)
    (charged : Charged cfg fuel requestId userId amount now s s' result) : Booked s' := by
  obtain ⟨fresh, middle, ids, sub, prepared, member, room, rfl, -, -⟩ := charged
  have middleBooked := booked.prepares prepared
  refine middleBooked.charge ?_ positive rfl rfl member (room (middleBooked.rows.limited sub member))
  rw [findRecord, prepared.records_eq]
  exact fresh

theorem RowsBooked.adjust (booked : RowsBooked s) {cause : Event} (found : s.findSub sub.id = some sub)
    (room : sub.Room delta) (said : ∀ subId used, effect subId used cause =
      if subId = sub.id then max 0 (used + delta) else used) : RowsBooked (Subscription.adjust s cause sub delta) := by
  have member := (mem_of_findSub found).1
  refine booked.saveSub_log member (sub.requota_amountUsed _)
    ⟨by show 0 ≤ max 0 _; omega, room (booked.limited sub member)⟩ fun subId => ?_
  rw [said]
  split
  · rename_i same
    rw [same, booked.used_eq member]
  · rfl

theorem Booked.posted (booked : Booked s) (found : s.findSub sub.id = some sub) (room : sub.Room delta) :
    Booked (adjust s (.posted sub.id delta) sub delta) := by
  refine ⟨booked.rows.adjust found room fun subId used => ?_, ?_⟩
  · simp only [effect, eq_comm]
  · exact booked.records.log rfl rfl (fun _ => rfl) fun _ => rfl

/-- A refund takes back what its own charge has booked. -/
theorem Booked.refunded (booked : Booked s) (refunded : Refunded requestId s s') : Booked s' := by
  obtain ⟨record, sub, found, consumed, row, rfl⟩ := refunded
  obtain ⟨member, rfl⟩ := mem_of_findRecord found
  obtain ⟨inside, named⟩ := mem_of_findSub row
  have positive := booked.rows.valid.recordPos record member
  have bounds := booked.rows.fits inside
  rw [← named] at row
  refine ⟨(booked.rows.adjust row ?_ ?_).saveRecord positive, ?_⟩
  · intro _
    omega
  · intro subId used
    simp only [effect, named, eq_comm]
  have looked (requestId : String) :
      (giveBack s record sub).findRecord requestId = (s.findRecord requestId).map fun r =>
        if r.requestId = record.requestId then { record with status := .refunded } else r :=
    findRecord_saveRecord _ requestId
  constructor
  · intro requestId
    show charges requestId (s.history ++ [_]) = _
    rw [charges_concat, booked.records.charges, looked]
    cases other : s.findRecord requestId with
    | none => rfl
    | some r =>
      by_cases same : r.requestId = record.requestId
      · have : r = record := by
          rw [(mem_of_findRecord other).2] at same
          rw [same, found] at other
          exact (Option.some.inj other).symm
        subst this
        simp [charges, entry]
      · simp [charges, same]
  · intro requestId
    show refunds requestId (s.history ++ [_]) = _
    rw [refunds_concat, booked.records.refunds, looked]
    by_cases same : record.requestId = requestId
    · subst same
      simp [found, refunds, consumed, entry, Option.filter_some]
    cases other : s.findRecord requestId with
    | none => simp [refunds, same]
    | some r =>
      have : r.requestId ≠ record.requestId := by
        rw [(mem_of_findRecord other).2]
        exact Ne.symm same
      simp [refunds, same, this]

end

/-! ## Runs -/

inductive QuotaCall where
  | preConsume (requestId : String) (userId amount : Int)
  | refund (requestId : String)
  | postConsume (userSubscriptionId delta : Int)
  | resetDue (limit : Int)

/-- The handler of a request that arrives at `now`. -/
def QuotaCall.program (cfg : Config) (fuel : Nat) (now : Int) : QuotaCall → Program Store Unit
  | .preConsume requestId userId amount => do
      let _ ← Program.store (preConsumeUserSubscription cfg fuel requestId userId amount now)
  | .refund requestId => do
      let _ ← Program.store (refundSubscriptionPreConsume requestId)
  | .postConsume id delta => do
      let _ ← Program.store (postConsumeUserSubscriptionDelta (.posted id delta) id delta)
  | .resetDue limit => do
      let _ ← resetDueSubscriptions cfg fuel now limit

/-- The calls of the reset task are reads and the transactions of single rows. -/
theorem all_resetDue {P : {β : Type} → Db β → Prop} (cfg : Config) (fuel : Nat) (now limit : Int)
    (reads : ∀ {β : Type} (act : Db β), (∀ s faults, (act.exec s faults).2 = s) → P act)
    (resets : ∀ id plan, P (Sql.transaction (resetOneTx cfg fuel id plan now))) :
    (resetDueSubscriptions cfg fuel now limit).All P := by
  have local_reads : ∀ {β : Type} (act : Db β), Sql.Local act → P act :=
    fun act inner => reads act fun s faults => inner ⟨s, id, faults⟩
  refine Program.all_call (local_reads _ (Sql.local_read _)) fun picked => ?_
  cases picked with
  | error e => trivial
  | ok subs =>
    generalize (0 : Int) = count
    induction subs generalizing count with
    | nil => trivial
    | cons sub rest ih =>
      refine Program.all_call (local_reads _ (local_getPlan _)) fun planned => ?_
      cases planned with
      | error _ => exact ih count
      | ok plan =>
        refine Program.all_call (resets _ _) fun counted => ?_
        cases counted with
        | error e => trivial
        | ok counted => exact ih _

/-- The calls of a request keep the books. -/
theorem QuotaCall.all_booked (cfg : Config) (fuel : Nat) (now : Int) (call : QuotaCall) :
    (call.program cfg fuel now).All fun act =>
      ∀ s faults, faults = [] → Booked s → Booked (act.exec s faults).2 := by
  cases call with
  | preConsume requestId userId amount =>
    refine ⟨?_, fun _ => trivial⟩
    rintro s _ rfl booked
    obtain ⟨outcome, s', ran, effect, -⟩ :=
      preConsume_exec cfg fuel requestId userId amount now s booked.rows.valid.subIds
    rw [ran]
    rcases effect with rfl | ⟨positive, result, -, charged⟩
    · exact booked
    · exact booked.charged positive charged
  | refund requestId =>
    refine ⟨?_, fun _ => trivial⟩
    rintro s _ rfl booked
    obtain ⟨outcome, s', ran, effect⟩ := refund_exec requestId s booked.rows.valid
    rw [ran]
    rcases effect with rfl | ⟨-, refunded⟩
    · exact booked
    · exact booked.refunded refunded
  | postConsume id delta =>
    refine ⟨?_, fun _ => trivial⟩
    rintro s _ rfl booked
    obtain ⟨outcome, s', ran, effect⟩ := postConsume_exec (.posted id delta) id delta s []
    rw [ran]
    rcases effect with ⟨rfl, -⟩ | ⟨-, -, sub, found, room, rfl⟩
    · exact booked
    · obtain ⟨-, rfl⟩ := mem_of_findSub found
      exact booked.posted found room
  | resetDue limit =>
    refine .bind (all_resetDue cfg fuel now limit ?_ ?_) fun _ => trivial
    · intro β act kept s faults _ booked
      rw [kept]
      exact booked
    · rintro id plan s _ rfl booked
      obtain ⟨outcome, s', ran, ids, prepared⟩ := resetOne_exec cfg fuel id plan now s
      rw [ran]
      exact booked.prepares prepared

/-- No call fails; whatever is not a subscription row, a record or the history may change
at any moment. -/
def quotaRules (ι : Type) : Pool.Rules Store ι Unit where
  env s s' := s'.subs = s.subs ∧ s'.records = s.records ∧ s'.history = s.history
  guard _ faults _ _ _ := faults = []
  own _ _ _ _ _ := ()
  outside _ _ _ := ()

/-- A quota table before its first use. -/
structure Opened (s : Store) : Prop where
  subIds : (s.subs.map (·.id)).Nodup
  subPos : ∀ sub ∈ s.subs, 0 < sub.id
  unused : ∀ sub ∈ s.subs, sub.amountUsed = 0
  limited : ∀ sub ∈ s.subs, 0 < sub.amountTotal
  records : s.records = []
  history : s.history = []

theorem Opened.booked {s : Store} (opened : Opened s) : Booked s where
  rows := {
    valid := {
      subIds := opened.subIds
      subPos := opened.subPos
      bounds := fun sub member => by
        constructor <;> rw [opened.unused sub member]
        intro _
        omega
      requestIds := by rw [opened.records]; exact nodup_nil
      recordPos := by rw [opened.records]; rintro _ ⟨⟩ }
    limited := opened.limited
    used := fun subId => by
      rw [opened.history, used]
      cases found : s.findSub subId with
      | none => rfl
      | some sub => exact opened.unused sub (mem_of_findSub found).1 }
  records := by constructor <;> intro requestId <;> simp [opened.history, findRecord, opened.records] <;> rfl

theorem Booked.of_eq {s s' : Store} (booked : Booked s) (subs : s'.subs = s.subs)
    (records : s'.records = s.records) (history : s'.history = s.history) : Booked s' where
  rows := {
    valid := ⟨by rw [subs]; exact booked.rows.valid.subIds, by rw [subs]; exact booked.rows.valid.subPos,
      by rw [subs]; exact booked.rows.valid.bounds,
      by rw [records]; exact booked.rows.valid.requestIds,
      by rw [records]; exact booked.rows.valid.recordPos⟩
    limited := by rw [subs]; exact booked.rows.limited
    used := fun subId => by
      rw [history, used, findSub, subs]
      exact booked.rows.used subId }
  records := booked.records.of_eq records history

section
variable {ι : Type} [DecidableEq ι] {cfg : Config} {fuel : Nat} {now : ι → Int}
  {calls : ι → QuotaCall} {s : Store} {c : Pool Store Unit ι}

variable (opened : Opened s)
  (run : Pool.Run (quotaRules ι) (Pool.initial s fun i => (calls i).program cfg fuel (now i)) () c ())
include opened run

theorem booked_of_run : Booked c.store := by
  refine Pool.Run.store_invariant Booked (· = []) opened.booked ?_ ?_ ?_ run
  · exact ⟨fun i => (calls i).all_booked cfg fuel (now i), fun i k member => by cases member⟩
  · intro i faults _ _ _ admitted
    exact admitted
  · rintro s s' booked ⟨subs, records, history⟩
    exact booked.of_eq subs records history

/-- **Quota is neither overdrawn nor lost, and a request is charged and refunded at most
once.**  In every state of every interleaving: used amounts lie between zero and the
total and are what the history accounts for; a request has at most one charge, and its
refunds are none, or that charge once. -/
theorem quota_run : (∀ sub ∈ c.store.subs, 0 ≤ sub.amountUsed ∧ sub.amountUsed ≤ sub.amountTotal) ∧
    (∀ subId, c.store.used subId = replay subId c.store.history) ∧
    (∀ requestId, (charges requestId c.store.history).length ≤ 1) ∧
    ∀ requestId, refunds requestId c.store.history = [] ∨
      refunds requestId c.store.history = charges requestId c.store.history := by
  have booked := booked_of_run opened run
  refine ⟨fun sub member => booked.rows.fits member, booked.rows.used, fun requestId => ?_, fun requestId => ?_⟩
  · rw [booked.records.charges]
    cases c.store.findRecord requestId <;> simp
  rw [booked.records.charges, booked.records.refunds]
  cases c.store.findRecord requestId with
  | none => exact .inl rfl
  | some record =>
    by_cases refunded : record.status = .refunded
    · exact .inr (by simp [refunded])
    · exact .inl (by simp [refunded])

end

def oneSubscription : Store :=
  { empty with
    plans := fun id => if id = 1 then
        some ⟨1, "pro", 5, .month, 1, 0, true, none, 0, "", 100, "never", 0⟩
      else none
    subs := [⟨1, 7, 1, 100, 0, 0, 1000, .active, "order", 0, 0, "", ""⟩] }

theorem oneSubscription_opened : Opened oneSubscription := by
  constructor <;> decide

/-- A charge and two refunds of it: the second refund gives nothing back. -/
theorem quota_run_refunded_twice : ∃ c : Pool Store Unit (Fin 3),
      c.store.history = [.charged "r" 1 40, .refunded "r" 1 40] ∧
      (∀ sub ∈ c.store.subs, 0 ≤ sub.amountUsed ∧ sub.amountUsed ≤ sub.amountTotal) ∧
      (∀ subId, c.store.used subId = replay subId c.store.history) ∧
      (∀ requestId, (charges requestId c.store.history).length ≤ 1) ∧
      ∀ requestId, refunds requestId c.store.history = [] ∨
        refunds requestId c.store.history = charges requestId c.store.history := by
  let calls : Fin 3 → QuotaCall := fun
    | 0 => .preConsume "r" 7 40
    | _ => .refund "r"
  let start := Pool.initial oneSubscription fun i => (calls i).program plainConfig 5 10
  have charged : Pool.Run (quotaRules (Fin 3)) start () _ () := .step .start 0 [] (.main rfl) rfl
  have refunded := Pool.Run.step charged 1 [] (.main rfl) rfl
  have again := Pool.Run.step refunded 2 [] (.main rfl) rfl
  exact ⟨_, rfl, quota_run oneSubscription_opened again⟩

end NewApi.Subscription
