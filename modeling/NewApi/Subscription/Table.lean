/-
# Subscription.Table — subscription rows, idempotency records and orders as tables

What saving a row does to the lookups, and `Store.Valid`: the keys are unique, every used amount lies
between zero and the total (where the plan has one), and every record stands for a positive amount.
-/
import NewApi.Theory.Rows
import NewApi.Model.SubscriptionQuota
import NewApi.Model.Lookup

namespace NewApi.Model
open Theory Rows List

/-- `r'` is row `r` with other quota columns. -/
def UserSubscription.Requota (r r' : UserSubscription) : Prop :=
  r' = { r with
    amountUsed := r'.amountUsed, lastResetTime := r'.lastResetTime
    nextResetTime := r'.nextResetTime }

theorem UserSubscription.requota_amountUsed (r : UserSubscription) (amountUsed : Int) :
    r.Requota { r with amountUsed } := rfl

variable {r r' : UserSubscription}

theorem UserSubscription.Requota.id_eq (same : r.Requota r') : r'.id = r.id := by rw [same]

theorem UserSubscription.Requota.total_eq (same : r.Requota r') : r'.amountTotal = r.amountTotal := by rw [same]

/-- Where an amount is limited, the used amount stays within it after a change by `delta`. -/
abbrev UserSubscription.Room (sub : UserSubscription) (delta : Int) : Prop :=
  0 < sub.amountTotal → max 0 (sub.amountUsed + delta) ≤ sub.amountTotal

/-- A used amount the row's plan allows. -/
def UserSubscription.InBounds (sub : UserSubscription) : Prop :=
  0 ≤ sub.amountUsed ∧ (0 < sub.amountTotal → sub.amountUsed ≤ sub.amountTotal)
deriving Decidable

namespace Store

/-- Rows and records as the schema and the code keep them. -/
structure Valid (s : Store) : Prop where
  subIds : (s.subs.map (·.id)).Nodup
  subPos : ∀ sub ∈ s.subs, 0 < sub.id
  bounds : ∀ sub ∈ s.subs, sub.InBounds
  requestIds : (s.records.map (·.requestId)).Nodup
  recordPos : ∀ record ∈ s.records, 0 < record.preConsumed

/-- `amount_used` of subscription `id`; zero where there is no such row. -/
def used (s : Store) (id : Int) : Int := ((s.findSub id).map (·.amountUsed)).getD 0

variable {s : Store}

/-! ## Subscription rows -/

variable {sub row : UserSubscription} {record : SubscriptionPreConsumeRecord} {id : Int} {order : SubscriptionOrder}
  {tradeNo : String}

theorem mem_of_findSub (found : s.findSub id = some sub) : sub ∈ s.subs ∧ sub.id = id := mem_of_find found

theorem findSub_of_mem (ids : (s.subs.map (·.id)).Nodup)
    (member : sub ∈ s.subs) : s.findSub sub.id = some sub := find_of_mem ids member

@[simp] theorem findSub_saveSub (sub : UserSubscription) (id : Int) : (s.saveSub sub).findSub id =
      (s.findSub id).map fun r => if r.id = sub.id then sub else r := find_put sub id s.subs

@[simp] theorem map_id_saveSub (sub : UserSubscription) :
    (s.saveSub sub).subs.map (·.id) = s.subs.map (·.id) := map_key_put sub s.subs

@[simp] theorem findSub_log (event : Event) (id : Int) : (s.log event).findSub id = s.findSub id := rfl

@[simp] theorem used_log (event : Event) (id : Int) : (s.log event).used id = s.used id := rfl

theorem mem_saveSub (member : row ∈ (s.saveSub sub).subs) :
    row = sub ∨ (row ∈ s.subs ∧ row.id ≠ sub.id) := mem_put member

theorem mem_saveSub_of_ne (member : row ∈ s.subs)
    (other : row.id ≠ sub.id) : row ∈ (s.saveSub sub).subs := mem_put_of_ne member other

theorem mem_saveSub_self (member : row ∈ s.subs)
    (same : row.id = sub.id) : sub ∈ (s.saveSub sub).subs := mem_put_self member same

/-- The used amounts after saving over an existing row. -/
theorem used_saveSub (found : s.findSub sub.id = some row) (id : Int) :
    (s.saveSub sub).used id = if id = sub.id then sub.amountUsed else s.used id := by
  have looked : (s.saveSub sub).findSub id = if id = sub.id then some sub else s.findSub id :=
    find_put_of_found found id
  unfold used
  rw [looked]
  split <;> rfl

theorem used_of_findSub (found : s.findSub id = some sub) : s.used id = sub.amountUsed := by
  unfold used
  rw [found]
  rfl

theorem Valid.used_nonneg (valid : s.Valid) (id : Int) : 0 ≤ s.used id := by
  unfold used
  cases found : s.findSub id with
  | none => simp
  | some sub => exact (valid.bounds sub (mem_of_findSub found).1).1

theorem Valid.saveSub (valid : s.Valid) (member : row ∈ s.subs) (same : sub.id = row.id) (fits : sub.InBounds) :
    (s.saveSub sub).Valid where
  subIds := by rw [map_id_saveSub]; exact valid.subIds
  subPos r touched := by
    rcases mem_saveSub touched with rfl | ⟨old, -⟩
    · rw [same]; exact valid.subPos row member
    · exact valid.subPos r old
  bounds r touched := by
    rcases mem_saveSub touched with rfl | ⟨old, -⟩
    · exact fits
    · exact valid.bounds r old
  requestIds := valid.requestIds
  recordPos := valid.recordPos

theorem Valid.log (valid : s.Valid) (event : Event) : (s.log event).Valid := ⟨valid.subIds,
  valid.subPos, valid.bounds, valid.requestIds, valid.recordPos⟩

theorem mem_of_findRecord {requestId : String} (found : s.findRecord requestId = some record) :
    record ∈ s.records ∧ record.requestId = requestId := mem_of_find found

theorem findRecord_saveRecord (record : SubscriptionPreConsumeRecord) (requestId : String) :
    (s.saveRecord record).findRecord requestId =
      (s.findRecord requestId).map fun r => if r.requestId = record.requestId then record else r :=
  find_put record requestId s.records

theorem findRecord_append (fresh : s.findRecord record.requestId = none) (requestId : String) :
    ({ s with records := s.records ++ [record] } : Store).findRecord requestId =
      if requestId = record.requestId then some record else s.findRecord requestId :=
  find_append fresh requestId

theorem Valid.saveRecord (valid : s.Valid) (positive : 0 < record.preConsumed) : (s.saveRecord record).Valid where
  subIds := valid.subIds
  subPos := valid.subPos
  bounds := valid.bounds
  requestIds := by
    rw [show (s.saveRecord record).records.map (·.requestId) = s.records.map (·.requestId) from
      map_key_put record s.records]
    exact valid.requestIds
  recordPos r member := by
    obtain ⟨old, inside, rfl⟩ := mem_map.mp member
    split
    · exact positive
    · exact valid.recordPos old inside

theorem Valid.appendRecord (valid : s.Valid)
    (fresh : s.findRecord record.requestId = none) (positive : 0 < record.preConsumed) :
    ({ s with records := s.records ++ [record] } : Store).Valid where
  subIds := valid.subIds
  subPos := valid.subPos
  bounds := valid.bounds
  requestIds := nodup_append valid.requestIds fresh
  recordPos r member := by
    rcases mem_append.mp member with old | new
    · exact valid.recordPos r old
    · rw [mem_singleton.mp new]; exact positive

theorem findOrder_saveOrder {old : SubscriptionOrder}
    (number : order.tradeNo = tradeNo) (found : s.findOrder tradeNo = some old) (t : String) :
    (s.saveOrder order).findOrder t = if t = tradeNo then some order else s.findOrder t := by
  subst number
  exact find_put_of_found found t

theorem findOrder_append (number : order.tradeNo = tradeNo) (fresh : s.findOrder tradeNo = none) (t : String) :
    ({ s with orders := s.orders ++ [order] } : Store).findOrder t =
      if t = tradeNo then some order else s.findOrder t := by
  subst number
  exact find_append fresh t

end Store
end NewApi.Model
