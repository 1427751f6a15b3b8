/-
# Quota.Checkins — one row and one award for each user and day

`CheckinStep` is what a call of `UserCheckin` does to the tables, in both ways to check in.  A call
knows the row it has made and not yet awarded; `CheckinsKept`: the quota of every user lacks exactly
the awards of these rows.
-/
import NewApi.Model.Checkin
import NewApi.Theory.Contract
import NewApi.Theory.Rows
import Mathlib.Algebra.BigOperators.Group.List.Basic

namespace NewApi.Quota
open Model Theory Function CheckinStore Sql List Rows

def awardedTo (userId : Int) (rows : List Checkin) : Int :=
  ((rows.filter (·.userId = userId)).map (·.quotaAwarded)).sum

/-! ## What a call does -/

/-- What a call of `UserCheckin` does to the store; `unpaid` is the row it has made and not
awarded. -/
inductive CheckinStep (unpaid : Option Checkin) (s : CheckinStore) : CheckinStore → Prop where
  | quiet : CheckinStep unpaid s s
  | create (row : Checkin) (idle : unpaid = none) (id : row.id = s.nextId)
      (free : s.taken row.userId row.checkinDate = false) :
      CheckinStep unpaid s ((s.addRow row).log (.created row))
  | award (row : Checkin) (idle : unpaid = none) (id : row.id = s.nextId)
      (free : s.taken row.userId row.checkinDate = false) :
      CheckinStep unpaid s (((s.addRow row).log (.awarded row)).addQuota row.userId row.quotaAwarded)
  | credit (row : Checkin) (owed : unpaid = some row) :
      CheckinStep unpaid s ((s.addQuota row.userId row.quotaAwarded).log (.credited row.userId row.quotaAwarded))
  | delete (row : Checkin) (owed : unpaid = some row) :
      CheckinStep unpaid s ((s.deleteRow row.id).log (.deleted row.id))

/-- The row that a call leaves unpaid. -/
def unpaidAfter (unpaid : Option Checkin) (s s' : CheckinStore) : Option Checkin :=
  match s'.history.drop s.history.length with
  | [.created row] => some row
  | [.credited _ _] => none
  | [.deleted _] => none
  | _ => unpaid

/-- A call beside others; its compensating delete succeeds. -/
def checkinSetting : Setting CheckinStore (Option Checkin) where
  meets compensating faults := compensating = true → faults = []
  sees _ _ := True
  moves s s' unpaid := unpaidAfter unpaid s s'
  keeps s s' unpaid := CheckinStep unpaid s s'

/-- The setting of a sheltered call: any failure, none of them in the delete. -/
def spareSetting : Setting CheckinStore (Option Checkin) :=
  { checkinSetting with meets := fun _ faults => checkinSetting.meets false faults }

section
variable {unpaid : Option Checkin} {s : CheckinStore} {row : Checkin}

@[simp] theorem unpaidAfter_self : unpaidAfter unpaid s s = unpaid := by simp [unpaidAfter]

@[simp] theorem unpaidAfter_created : unpaidAfter unpaid s ((s.addRow row).log (.created row)) = some row := by
  simp [unpaidAfter, log, addRow]

variable {userId amount : Int}

@[simp] theorem unpaidAfter_awarded :
    unpaidAfter unpaid s (((s.addRow row).log (.awarded row)).addQuota userId amount) = unpaid := by
  simp [unpaidAfter, log, addRow, addQuota]

@[simp] theorem unpaidAfter_credited :
    unpaidAfter unpaid s ((s.addQuota userId amount).log (.credited userId amount)) = none := by
  simp [unpaidAfter, log, addQuota]

@[simp] theorem unpaidAfter_deleted {id : Int} : unpaidAfter unpaid s ((s.deleteRow id).log (.deleted id)) = none := by
  simp [unpaidAfter, log, deleteRow]

/-- The insert, alone in its transaction or before the award. -/
theorem insertRow_ok {checkin : Checkin} {event : Checkin → CheckinEvent} {c : Conn CheckinStore}
    (ran : checkin.insertRow event ⟨s, id, []⟩ = (.ok row, c)) :
    row = { checkin with id := s.nextId } ∧ s.taken checkin.userId checkin.checkinDate = false ∧
      c = ⟨s, fun s => (s.addRow row).log (event row), []⟩ := by
  obtain ⟨nextId, m, peeked, ran⟩ := ok_of_bind ran
  cases peeked
  obtain ⟨_, m, inserted, ran⟩ := ok_of_bind ran
  obtain ⟨accepted, rfl⟩ := ok_of_insert inserted
  cases ran
  refine ⟨rfl, ?_, rfl⟩
  cases taken : s.taken checkin.userId checkin.checkinDate with
  | false => rfl
  | true => simp [taken] at accepted

variable (checkin : Checkin)

@[simp] theorem insertRow_atomic (event : Checkin → CheckinEvent) : Atomic (checkin.insertRow event) := by
  simp [Checkin.insertRow]

theorem create_exec (s : CheckinStore) (faults : Faults) :
    (∃ e, checkin.create.exec s faults = (.error e, s)) ∨ ∃ row, row = { checkin with id := s.nextId } ∧
        s.taken checkin.userId checkin.checkinDate = false ∧
        checkin.create.exec s faults = (.ok row, (s.addRow row).log (.created row)) := by
  unfold Checkin.create
  rw [exec_failWith]
  rcases exec_transaction_cases (insertRow_atomic checkin .created) s faults
    with ⟨e, failed⟩ | ⟨row, w, ran, committed⟩
  · rw [failed]
    exact .inl ⟨_, rfl⟩
  · obtain ⟨made, free, written⟩ := insertRow_ok ran
    cases written
    rw [committed]
    exact .inr ⟨row, made, free, rfl⟩

theorem createAndAward_exec (userId quotaAwarded : Int) (s : CheckinStore) (faults : Faults) :
    (∃ e, (checkin.createAndAward userId quotaAwarded).exec s faults = (.error e, s)) ∨
      ∃ row, row = { checkin with id := s.nextId } ∧
        s.taken checkin.userId checkin.checkinDate = false ∧
        (checkin.createAndAward userId quotaAwarded).exec s faults =
          (.ok row, ((s.addRow row).log (.awarded row)).addQuota userId quotaAwarded) := by
  refine (exec_transaction_cases ?_ s faults).imp_right ?_
  · exact atomic_bind (by simp) fun _ => by simp
  rintro ⟨row, w, ran, committed⟩
  obtain ⟨made, m, inserted, ran⟩ := ok_of_bind ran
  obtain ⟨same, free, rfl⟩ := insertRow_ok (ok_of_failWith inserted)
  obtain ⟨_, m, credited, ran⟩ := ok_of_bind ran
  cases ok_of_failWith credited
  cases ran
  exact ⟨row, same, free, committed⟩

variable (cfg : Config)

theorem creditCheckin_exec (userId amount : Int) (s : CheckinStore) (faults : Faults) :
    (∃ e, (creditCheckin cfg userId amount).exec s faults = (.error e, s)) ∨
      (creditCheckin cfg userId amount).exec s faults =
        (.ok (), (s.addQuota userId amount).log (.credited userId amount)) := by
  have inner : (∃ e, (increaseUserQuota cfg userId amount true).exec s.accounts faults = (.error e, s.accounts)) ∨
      (increaseUserQuota cfg userId amount true).exec s.accounts faults =
        (.ok (), s.accounts.addUserQuota userId amount) := by
    unfold increaseUserQuota
    split
    · exact .inl ⟨_, rfl⟩
    · exact exec_autocommit (·.addUserQuota userId amount) s.accounts faults
  unfold creditCheckin exec
  rcases whole : increaseUserQuota cfg userId amount true ⟨s.accounts, id, faults⟩ with ⟨outcome, c⟩
  simp only [exec, whole, Prod.mk.injEq] at inner
  rcases inner with ⟨e, rfl, same⟩ | ⟨rfl, same⟩
  · refine .inl ⟨e, ?_⟩
    simp [bind_apply, zoom, whole, same]
  · refine .inr ?_
    simp [bind_apply, zoom, whole, same, addQuota]

theorem checkinNow_meets : checkinNow.Meets checkinSetting unpaid fun _ unpaid' => unpaid' = unpaid := by
  rintro s faults - -
  exact ⟨.quiet, unpaidAfter_self⟩

theorem hasCheckedInToday_meets (dateOf : Int → String) (userId : Int) :
    (hasCheckedInToday dateOf userId).Meets checkinSetting unpaid fun _ unpaid' => unpaid' = unpaid := by
  refine .bind checkinNow_meets ?_
  rintro now _ rfl s faults - -
  rw [exec_read_snd]
  exact ⟨.quiet, unpaidAfter_self⟩

theorem userCheckinWithTransaction_meets :
    (userCheckinWithTransaction checkin checkin.userId checkin.quotaAwarded).Meets checkinSetting none
      fun _ unpaid => unpaid = none := by
  rintro s faults - -
  rcases createAndAward_exec checkin checkin.userId checkin.quotaAwarded s faults with
    ⟨e, failed⟩ | ⟨row, made, free, ran⟩
  · rw [failed]
    exact ⟨.quiet, unpaidAfter_self⟩
  · rw [ran]
    subst made
    exact ⟨.award _ rfl rfl free, unpaidAfter_awarded⟩

theorem userCheckinWithoutTransaction_meets (checkin : Checkin) :
    (userCheckinWithoutTransaction cfg checkin checkin.userId checkin.quotaAwarded).Meets checkinSetting
      none fun _ unpaid => unpaid = none := by
  rintro s faults - -
  rcases create_exec checkin s faults with ⟨e, failed⟩ | ⟨row, made, free, ran⟩
  · rw [failed]
    exact ⟨.quiet, unpaidAfter_self⟩
  rw [ran]
  subst made
  refine ⟨.create _ rfl rfl free, ?_⟩
  show Program.Meets checkinSetting (Program.store (creditCheckin cfg _ _) >>= _) (unpaidAfter none s _) _
  rw [unpaidAfter_created]
  rintro s' faults - -
  rcases creditCheckin_exec cfg checkin.userId checkin.quotaAwarded s' faults with ⟨e, failed⟩ | ran
  · -- the credit failed: the row is deleted
    rw [failed]
    refine ⟨.quiet, ?_⟩
    show Program.Meets checkinSetting (Program.undo _ >>= _) (unpaidAfter _ s' s') _
    rw [unpaidAfter_self]
    rintro s'' faults - spared
    rw [spared rfl]
    exact ⟨.delete { checkin with id := s.nextId } rfl, unpaidAfter_deleted⟩
  · rw [ran]
    exact ⟨.credit { checkin with id := s.nextId } rfl, unpaidAfter_credited⟩

/-- **Whatever the others do, a call makes, awards and deletes its own row only, and leaves
none unpaid.** -/
theorem userCheckin_meets (dateOf : Int → String) (setting : CheckinSetting)
    (usingSQLite : Bool) (seed : Nat) (userId : Int) :
    (userCheckin cfg dateOf setting usingSQLite seed userId).Meets checkinSetting none
      fun _ unpaid => unpaid = none := by
  unfold userCheckin
  split
  · rfl
  refine .bind (hasCheckedInToday_meets dateOf userId) ?_
  rintro outcome _ rfl
  match outcome with
  | .error e | .ok true => rfl
  | .ok false =>
    refine .bind checkinNow_meets ?_
    rintro today _ rfl
    refine .bind checkinNow_meets ?_
    rintro createdAt _ rfl
    split
    · exact userCheckinWithoutTransaction_meets cfg ⟨0, userId, dateOf today, setting.award seed, createdAt⟩
    · exact userCheckinWithTransaction_meets ⟨0, userId, dateOf today, setting.award seed, createdAt⟩

end

/-! ## Calls side by side -/

section
variable {ι : Type} [DecidableEq ι] {s₀ s : CheckinStore} {unpaid : ι → Option Checkin} {i : ι}
  {row : Checkin}

variable (userId : Int)

/-- What one row adds for a user. -/
def awardOf (row : Checkin) : Int := if userId = row.userId then row.quotaAwarded else 0

@[simp] theorem awardedTo_nil : awardedTo userId [] = 0 := rfl

@[simp] theorem awardedTo_cons (row : Checkin) (rows : List Checkin) :
    awardedTo userId (row :: rows) = awardOf userId row + awardedTo userId rows := by
  by_cases same : row.userId = userId
  · simp [awardedTo, awardOf, same]
  · simp [awardedTo, awardOf, same, Ne.symm same]

@[simp] theorem awardedTo_append (rows : List Checkin) (row : Checkin) :
    awardedTo userId (rows ++ [row]) = awardedTo userId rows + awardOf userId row := by
  induction rows with
  | nil => simp
  | cons first rest ih => simp [ih, Int.add_assoc]

variable {rows : List Checkin}

theorem awardedTo_remove (ids : (rows.map Checkin.id).Nodup) (member : row ∈ rows) :
    awardedTo userId rows = awardedTo userId (rows.filter (·.id ≠ row.id)) + awardOf userId row := by
  induction rows with
  | nil => cases member
  | cons first rest ih =>
    simp only [map_cons, nodup_cons, mem_map, not_exists, not_and] at ids
    rcases mem_cons.mp member with rfl | later
    · have others : rest.filter (·.id ≠ row.id) = rest :=
        filter_eq_self.mpr fun other inside => by simpa using ids.1 other inside
      rw [filter_cons_of_neg (by simp), others, awardedTo_cons, Int.add_comm]
    · have other : first.id ≠ row.id := fun same => ids.1 row later same.symm
      rw [filter_cons_of_pos (by simpa using other), awardedTo_cons, awardedTo_cons,
        ih ids.2 later]
      omega

/-- The table of check-ins, as the database keeps it. -/
structure CheckinTable (s : CheckinStore) : Prop where
  ids : (s.checkins.map Checkin.id).Nodup
  below : ∀ row ∈ s.checkins, row.id < s.nextId
  unique : (s.checkins.map fun row => (row.userId, row.checkinDate)).Nodup

theorem CheckinTable.addRow (table : CheckinTable s) (id : row.id = s.nextId)
    (free : s.taken row.userId row.checkinDate = false) : CheckinTable (s.addRow row) := by
  constructor
  case ids =>
    refine nodup_append table.ids (find_eq_none.mpr fun old member same => ?_)
    have before := table.below old member
    omega
  case below =>
    intro other member
    show other.id < s.nextId + 1
    rcases mem_append.mp member with old | new
    · have before := table.below other old
      omega
    · rw [mem_singleton.mp new]
      omega
  case unique =>
    refine nodup_append table.unique (find_eq_none.mpr fun old member same => ?_)
    have clash : s.taken row.userId row.checkinDate = true := any_eq_true.mpr ⟨old, member, by simpa using same⟩
    rw [free] at clash
    cases clash

theorem CheckinTable.deleteRow (table : CheckinTable s) (id : Int) : CheckinTable (s.deleteRow id) := by
  have fewer : (s.deleteRow id).checkins.Sublist s.checkins := filter_sublist
  exact ⟨table.ids.sublist (fewer.map _), fun row member => table.below row (fewer.subset member),
    table.unique.sublist (fewer.map _)⟩

/-- `debts` are the rows that the calls have made and not yet awarded. -/
structure Debts (rows : List Checkin) (unpaid : ι → Option Checkin) (debts : List Checkin) : Prop where
  ids : (debts.map Checkin.id).Nodup
  mem : ∀ row, row ∈ debts ↔ ∃ i, unpaid i = some row
  made : ∀ row ∈ debts, row ∈ rows
  alone : ∀ i j row, unpaid i = some row → unpaid j = some row → i = j

/-- What the calls keep true: the quota of every user is the one of before with the awards of
all rows but the unpaid ones. -/
structure CheckinsKept (s₀ s : CheckinStore) (unpaid : ι → Option Checkin) : Prop where
  table : CheckinTable s
  quotas : ∃ debts, Debts s.checkins unpaid debts ∧
    ∀ userId quota, walletOf s₀.accounts userId = some quota → walletOf s.accounts userId =
      some (quota + (awardedTo userId s.checkins - awardedTo userId s₀.checkins) - awardedTo userId debts)

variable {debts : List Checkin}

/-- A call makes a row. -/
theorem Debts.add (owed : Debts rows unpaid debts) (idle : unpaid i = none) (new : ∀ old ∈ rows, old.id ≠ row.id) :
    Debts (rows ++ [row]) (update unpaid i (some row)) (debts ++ [row]) := by
  have fresh : ∀ old ∈ debts, old.id ≠ row.id := fun old member => new old (owed.made old member)
  constructor
  case ids => exact nodup_append owed.ids (find_eq_none.mpr fresh)
  case mem =>
    intro other
    rw [mem_append, mem_singleton, owed.mem]
    constructor
    · rintro (⟨j, here⟩ | rfl)
      · refine ⟨j, ?_⟩
        rw [update_of_ne, here]
        rintro rfl
        rw [idle] at here
        cases here
      · exact ⟨i, update_self ..⟩
    · rintro ⟨j, here⟩
      by_cases self : j = i
      · subst self
        rw [update_self] at here
        exact .inr (Option.some.inj here).symm
      · rw [update_of_ne self] at here
        exact .inl ⟨j, here⟩
  case made =>
    intro other member
    rcases mem_append.mp member with old | this
    · exact mem_append_left _ (owed.made other old)
    · exact mem_append_right _ this
  case alone =>
    intro j k other first second
    have apart : ∀ j, j ≠ i → unpaid j ≠ some row := by
      intro j _ here
      exact fresh row ((owed.mem row).mpr ⟨j, here⟩) rfl
    by_cases left : j = i <;> by_cases right : k = i
    · rw [left, right]
    · subst left
      rw [update_self] at first
      rw [update_of_ne right, ← first] at second
      exact absurd second (apart k right)
    · subst right
      rw [update_self] at second
      rw [update_of_ne left, ← second] at first
      exact absurd first (apart j left)
    · rw [update_of_ne left] at first
      rw [update_of_ne right] at second
      exact owed.alone j k other first second

/-- A call awards its row, or deletes it. -/
theorem Debts.remove {rows' : List Checkin} (owed : Debts rows unpaid debts)
    (ids : (rows.map Checkin.id).Nodup) (pending : unpaid i = some row)
    (kept : ∀ other ∈ rows, other.id ≠ row.id → other ∈ rows') :
    Debts rows' (update unpaid i none) (debts.filter (·.id ≠ row.id)) := by
  have mine : row ∈ rows := owed.made row ((owed.mem row).mpr ⟨i, pending⟩)
  constructor
  case ids => exact owed.ids.sublist (filter_sublist.map _)
  case mem =>
    intro other
    rw [mem_filter, owed.mem, decide_eq_true_iff]
    constructor
    · rintro ⟨⟨j, here⟩, apart⟩
      refine ⟨j, ?_⟩
      rw [update_of_ne, here]
      rintro rfl
      rw [pending] at here
      cases here
      exact apart rfl
    · rintro ⟨j, here⟩
      by_cases self : j = i
      · subst self
        simp at here
      · rw [update_of_ne self] at here
        refine ⟨⟨j, here⟩, fun same => self ?_⟩
        have theirs : other ∈ rows := owed.made other ((owed.mem other).mpr ⟨j, here⟩)
        obtain rfl := inj_on_of_nodup_map ids theirs mine same
        exact owed.alone j i other here pending
  case made =>
    intro other member
    obtain ⟨inside, apart⟩ := mem_filter.mp member
    exact kept other (owed.made other inside) (by simpa using apart)
  case alone =>
    intro j k other first second
    by_cases left : j = i
    · subst left
      simp at first
    by_cases right : k = i
    · subst right
      simp at second
    · rw [update_of_ne left] at first
      rw [update_of_ne right] at second
      exact owed.alone j k other first second

/-- **A call keeps the quotas and the rows in step.** -/
theorem CheckinsKept.step {s' : CheckinStore} (kept : CheckinsKept s₀ s unpaid)
    (stepped : CheckinStep (unpaid i) s s') : CheckinsKept s₀ s' (update unpaid i (unpaidAfter (unpaid i) s s')) := by
  obtain ⟨table, debts, owed, quotas⟩ := kept
  cases stepped with
  | quiet =>
    rw [unpaidAfter_self, update_eq_self]
    exact ⟨table, debts, owed, quotas⟩
  | create row idle id free =>
    rw [unpaidAfter_created]
    have after := table.addRow id free
    refine ⟨⟨after.ids, after.below, after.unique⟩, debts ++ [row], owed.add idle ?_, ?_⟩
    · intro old member
      have before := table.below old member
      omega
    · intro userId quota had
      show walletOf s.accounts userId = some (quota + (awardedTo userId (s.checkins ++ [row]) - _) - _)
      rw [quotas userId quota had, awardedTo_append, awardedTo_append]
      congr 1
      omega
  | award row idle id free =>
    rw [unpaidAfter_awarded, update_eq_self]
    have after := table.addRow id free
    refine ⟨⟨after.ids, after.below, after.unique⟩, debts, ?_, ?_⟩
    · exact { owed with made := fun other member => mem_append_left _ (owed.made other member) }
    intro userId quota had
    show walletOf (s.accounts.addUserQuota row.userId row.quotaAwarded) userId =
      some (quota + (awardedTo userId (s.checkins ++ [row]) - _) - _)
    rw [walletOf_addUserQuota, quotas userId quota had, awardedTo_append, Option.map_some]
    congr 1
    unfold awardOf
    omega
  | credit row pending =>
    rw [unpaidAfter_credited]
    have mine : row ∈ debts := (owed.mem row).mpr ⟨i, pending⟩
    refine ⟨⟨table.ids, table.below, table.unique⟩, _, owed.remove table.ids pending fun other member _ => member, ?_⟩
    intro userId quota had
    show walletOf (s.accounts.addUserQuota row.userId row.quotaAwarded) userId =
      some (quota + (awardedTo userId s.checkins - _) - _)
    rw [walletOf_addUserQuota, quotas userId quota had, awardedTo_remove userId owed.ids mine, Option.map_some]
    congr 1
    unfold awardOf
    omega
  | delete row pending =>
    rw [unpaidAfter_deleted]
    have mine : row ∈ debts := (owed.mem row).mpr ⟨i, pending⟩
    have after := table.deleteRow row.id
    refine ⟨⟨after.ids, after.below, after.unique⟩, _, owed.remove table.ids pending ?_, ?_⟩
    · intro other member apart
      exact mem_filter.mpr ⟨member, by simpa using apart⟩
    intro userId quota had
    show walletOf s.accounts userId = some (quota + (awardedTo userId (s.checkins.filter (·.id ≠ row.id)) - _) - _)
    rw [quotas userId quota had, awardedTo_remove userId owed.ids mine,
      awardedTo_remove userId table.ids (owed.made row mine)]
    congr 1
    omega

/-- Calls side by side: any of their statements may fail, and the clock moves on. -/
def checkinRules : Pool.Rules CheckinStore ι Unit where
  env s s' := ∃ clock, s.clock ≤ clock ∧ s' = { s with clock }
  guard _ _ _ _ _ := True
  own _ _ _ _ _ := ()
  outside _ _ _ := ()

theorem CheckinTable.once (table : CheckinTable s) (userId : Int) (date : String) :
    s.checkins.countP (fun row => row.userId = userId ∧ row.checkinDate = date) ≤ 1 := by
  have once := nodup_iff_count_le_one.mp table.unique (userId, date)
  rw [List.count, countP_map] at once
  refine le_trans (le_of_eq (countP_congr fun row _ => ?_)) once
  simp [Prod.ext_iff]

/-- **A day is checked in at most once, and the awards are those of the rows**: for every
table, any number of calls of any users, either way to check in, every interleaving and any
failing statements, the compensating deletes apart. -/
theorem checkins_kept (cfg : Config) (dateOf : Int → String) (setting : CheckinSetting)
    (usingSQLite : Bool) (seed : ι → Nat) (user : ι → Int) (table : CheckinTable s₀)
    {c : Pool CheckinStore (Except String Checkin) ι} (run : Pool.Run checkinRules (Pool.initial s₀ fun i =>
      (userCheckin cfg dateOf setting usingSQLite (seed i) (user i)).sheltered) () c ()) :
    (∀ userId date, c.store.checkins.countP (fun row => row.userId = userId ∧ row.checkinDate = date) ≤ 1) ∧
    ((∀ i, ∃ result, c.Finished i result) → ∀ userId quota, walletOf s₀.accounts userId = some quota →
      walletOf c.store.accounts userId =
        some (quota + (awardedTo userId c.store.checkins - awardedTo userId s₀.checkins))) := by
  have before : CheckinsKept s₀ s₀ fun _ : ι => none := by
    refine ⟨table, [], ⟨nodup_nil, ?_, ?_, ?_⟩, ?_⟩
    · simp
    · simp
    · simp
    · intro userId quota had
      simp [had]
  obtain ⟨unpaid, ⟨tableAfter, debts, owed, quotas⟩, ends⟩ : ∃ unpaid, CheckinsKept s₀ c.store unpaid ∧
      ∀ i, c.kids i = [] ∧ (c.main i).Meets spareSetting (unpaid i) fun _ unpaid => unpaid = none := by
    refine Pool.Run.meets_beside (fun _ => spareSetting) (fun _ _ unpaid => unpaid = none)
      (J := fun s _ unpaid => CheckinsKept s₀ s unpaid) before ?_ ?_ ?_ ?_ ?_ run
    · exact fun i => (userCheckin_meets cfg dateOf setting usingSQLite (seed i) (user i)).sheltered fun _ => rfl
    · exact fun _ _ _ _ _ => trivial
    · intro _ _ _ _ _ _ _ plain
      cases plain
    · exact fun _ _ _ _ _ _ kept _ stepped => kept.step stepped
    · rintro s _ _ unpaid kept ⟨clock, -, rfl⟩
      exact ⟨⟨kept.table.ids, kept.table.below, kept.table.unique⟩, kept.quotas⟩
  refine ⟨tableAfter.once, fun ended userId quota had => ?_⟩
  have settled : debts = [] := by
    refine eq_nil_iff_forall_not_mem.mpr fun row member => ?_
    obtain ⟨i, pending⟩ := (owed.mem row).mp member
    obtain ⟨result, finished⟩ := ended i
    have none_left := (ends i).2
    rw [finished.1] at none_left
    rw [show unpaid i = none from none_left] at pending
    cases pending
  rw [quotas userId quota had, settled, awardedTo_nil, Int.sub_zero]

end

def checkinStore : CheckinStore where
  accounts := { Store.empty with users := fun id => if id = 1 then some ⟨1, "default", 0, "", ""⟩ else none }
  checkins := []
  nextId := 1
  clock := 0
  history := []

/-- One user, two calls, without a transaction. -/
def twoCheckins : Pool CheckinStore (Except String Checkin) Bool :=
  Pool.initial checkinStore fun _ =>
    (userCheckin plainConfig (fun _ => "2025-01-01") ⟨true, 1000, 1000⟩ true 0 1).sheltered

/-- Both calls find the day free; the index refuses the second row. -/
theorem checkins_kept_two : ∃ c, Pool.Run checkinRules twoCheckins () c () ∧ c.store.checkins.length = 1 ∧
      walletOf c.store.accounts 1 = some (0 + (awardedTo 1 c.store.checkins - awardedTo 1 [])) := by
  have table : CheckinTable checkinStore := ⟨nodup_nil, by simp [checkinStore], nodup_nil⟩
  refine Pool.exists_unit_play (fun c => (∀ i, (c.result i).isSome = true) ∧ c.store.checkins.length = 1)
    (fun _ _ _ _ => true) (fun _ _ _ _ _ => trivial)
    [.main false, .main true, .main false, .main true, .main false, .main true, .main false,
      .main true, .main false, .main true, .main false] (by decide +kernel) ?_
  intro c run ended
  have finished (i : Bool) : ∃ result, c.Finished i result :=
    ⟨_, Pool.finished_of_result (Option.some_get (ended.1 i)).symm⟩
  exact ⟨ended.2, (checkins_kept plainConfig _ _ true (fun _ => 0) (fun _ => 1) table run).2 finished 1 0 rfl⟩

end NewApi.Quota
