/-
# Subscription.ResetTask — does the maintenance task end?

`runSubscriptionQuotaResetOnce` ends subscriptions in batches and then resets them in batches, going
on as long as a batch was full.  A row that was ended is no longer due.  But `ResetDueSubscriptions`
counts every row it has looked at, also one it left as it was because its plan was edited to reset
later or never: a full batch of such rows comes again and again.  So every batch must have a row whose
plan has a reset date behind it (`BatchAdvances`).
-/
import Mathlib.Data.Finset.Card
import NewApi.Theory.Batches
import NewApi.Subscription.PlanTimes
import NewApi.Subscription.GroupRuns

namespace NewApi.Subscription
open Theory Theory.Schedule Theory.Text Model Program Batches Sql List Store Nat

/-! ## Ending subscriptions -/

/-- What the task leaves alone: the plans and the ids of the rows. -/
structure Maintained (s s' : Store) : Prop where
  plans : s'.plans = s.plans
  caches : s'.caches = s.caches
  ids : s'.subs.map (·.id) = s.subs.map (·.id)

theorem Maintained.refl (s : Store) : Maintained s s := ⟨rfl, rfl, rfl⟩

theorem Maintained.trans {s s' s'' : Store} (first : Maintained s s') (second : Maintained s' s'') : Maintained s s'' :=
  ⟨second.plans.trans first.plans, second.caches.trans first.caches, second.ids.trans first.ids⟩

theorem Maintained.planById {s s' : Store} (same : Maintained s s') (id : Int) : s'.planById id = s.planById id := by
  simp only [Store.planById, same.plans, same.caches]

/-- The number of rows that are due to end. -/
def expiring (s : Store) (now : Int) : Nat := s.subs.countP fun sub => sub.DueAt now

theorem countP_expire (rows : List UserSubscription) (userId now : Int) :
    (rows.map (·.expire userId now)).countP (fun sub => sub.DueAt now) +
      rows.countP (fun sub => sub.userId = userId ∧ sub.DueAt now) = rows.countP fun sub => sub.DueAt now := by
  induction rows with
  | nil => rfl
  | cons sub rows ih =>
    simp only [map_cons, countP_cons]
    by_cases due : sub.DueAt now
    · by_cases own : sub.userId = userId
      · have ended : ¬(sub.expire userId now).DueAt now := by
          rw [UserSubscription.expire, if_pos ⟨own, due⟩]
          rintro ⟨active, -⟩
          cases active
        simp only [ended, own, due, and_self, decide_false, Bool.false_eq_true, if_false]
        omega
      · have kept : sub.expire userId now = sub := if_neg fun both => own both.1
        simp only [kept, own, false_and, decide_false, Bool.false_eq_true, if_false]
        omega
    · have kept : sub.expire userId now = sub := if_neg fun both => due both.2
      simp only [kept, due, and_false, decide_false, Bool.false_eq_true, if_false]
      omega

theorem map_id_expire (rows : List UserSubscription) (userId now : Int) :
    (rows.map (·.expire userId now)).map (·.id) = rows.map (·.id) := by
  rw [map_map]
  refine map_congr_left fun sub _ => ?_
  simp only [Function.comp, UserSubscription.expire]
  split <;> rfl

variable {userId id : Int}

/-- The transaction of a user with a positive id succeeds and ends its due rows. -/
theorem expireUser_ok (positive : 0 < userId) (now : Int) (s : Store) :
    ∃ group s', (transaction (expireUserTx userId now)).exec s [] =
        (.ok (group, s.subs.countP fun sub => sub.userId = userId ∧ sub.DueAt now), s') ∧
      Maintained s s' ∧ s'.subs = (s.expireUser userId now).subs := by
  obtain ⟨_, w, body, ⟨none_, -⟩ | ⟨group, rfl, moved⟩⟩ := expireUser_apply userId now s
  · omega
  refine ⟨group, w s, exec_transaction_nil body, ?_⟩
  rw [moved, regroup]
  split
  all_goals exact ⟨⟨rfl, rfl, map_id_expire _ _ _⟩, rfl⟩

/-- The loop over the users ends what it counts. -/
theorem expireUsers_solo (now : Int) (users : List Int) (positive : ∀ id ∈ users, 0 < id)
    (count : Int) (s : Store) : ∃ n s', (expireUsers now users count).solo s = ((n, none), s') ∧ Maintained s s' ∧
      (expiring s' now : Int) + n = expiring s now + count := by
  induction users generalizing count s with
  | nil => exact ⟨count, s, rfl, .refl s, rfl⟩
  | cons userId users ih =>
    obtain ⟨group, s₁, ran, same, rows⟩ := expireUser_ok (positive userId (by simp)) now s
    obtain ⟨n, s', rest, same', counted⟩ := ih (fun id member => positive id (by simp [member]))
      (count + (s.subs.countP fun sub => sub.userId = userId ∧ sub.DueAt now : Nat)) s₁
    refine ⟨n, s', ?_, same.trans same', ?_⟩
    · simp only [expireUsers, solo_bind, store, solo, ran]
      exact rest
    have ended := countP_expire s.subs userId now
    have left : expiring s₁ now = (s.subs.map (·.expire userId now)).countP fun sub => sub.DueAt now := by
      rw [expiring, rows]
      rfl
    rw [counted, left]
    unfold expiring
    omega

/-- A batch of `ExpireDueSubscriptions` ends as many rows as it reports. -/
theorem expireDue_solo (ranged : MapOrder) (now limit : Int) (s : Store) :
    ∃ n s', (expireDueSubscriptions ranged now limit).solo s = ((n, none), s') ∧ Maintained s s' ∧
      (expiring s' now : Int) + n = expiring s now := by
  have positive : ∀ id ∈ ranged.order (((s.expireDue now limit).map (·.userId)).filter (· > 0)).dedup, 0 < id := by
    intro id member
    have inside := (ranged.perm _).mem_iff.mp member
    simp only [mem_dedup, mem_filter, decide_eq_true_eq] at inside
    exact inside.2
  obtain ⟨n, s', ran, same, counted⟩ := expireUsers_solo now _ positive 0 s
  refine ⟨n, s', ?_, same, by omega⟩
  exact ran

/-! ## Resetting one row -/

section
variable {cfg : Config} {plan : SubscriptionPlan} {sub : UserSubscription} {now : Int} {fuel : Nat}

/-- A due row stays as it is, unless a date of its plan is behind it. -/
theorem resetOutcome_keep (due : 0 < sub.nextResetTime ∧ sub.nextResetTime ≤ now)
    (none_ : ¬Due now (nextDate cfg plan sub sub.resetBase)) : resetOutcome cfg fuel sub plan now = .keep := by
  have behind : ¬(sub.nextResetTime > 0 ∧ sub.nextResetTime > now) := by omega
  by_cases never : plan.period = .never
  · unfold SubscriptionPlan.period at never
    simp [resetOutcome, never]
  · rw [resetOutcome_eq fuel behind never, chase_stop none_, decided, if_neg (by omega)]

/-- With a date behind it the row is reset, and not due any more; unless the loop does not
end. -/
theorem resetOutcome_passed (fuel : Nat) (due : 0 < sub.nextResetTime ∧ sub.nextResetTime ≤ now)
    (some_ : Due now (nextDate cfg plan sub sub.resetBase)) : resetOutcome cfg fuel sub plan now = .endless ∨
      ∃ row, resetOutcome cfg fuel sub plan now = .reset row ∧ row.id = sub.id ∧
        ¬(0 < row.nextResetTime ∧ row.nextResetTime ≤ now) := by
  have behind : ¬(sub.nextResetTime > 0 ∧ sub.nextResetTime > now) := by omega
  have periodic : plan.period ≠ .never := by
    intro never
    have positive := some_.1
    unfold SubscriptionPlan.period at never
    have zero : nextDate cfg plan sub sub.resetBase = 0 := by
      simp [cut, resetAfter, calcNextResetTime, never, nextResetTime]
    omega
  rw [resetOutcome_eq fuel behind periodic]
  cases ended : chase (nextDate cfg plan sub) now fuel sub.resetBase
      (nextDate cfg plan sub sub.resetBase) false with
  | none => exact .inl rfl
  | some last =>
    obtain ⟨-, stopped⟩ | ⟨t, rfl, -, stopped⟩ := ends_cases (ends_of_chase ended)
    · exact absurd some_ stopped
    · exact .inr ⟨_, rfl, rfl, stopped⟩

/-- More fuel changes nothing. -/
theorem resetOutcome_mono {fuel' : Nat} (ends : resetOutcome cfg fuel sub plan now ≠ .endless)
    (more : fuel ≤ fuel') : resetOutcome cfg fuel' sub plan now = resetOutcome cfg fuel sub plan now := by
  by_cases ahead : sub.nextResetTime > 0 ∧ sub.nextResetTime > now
  · simp [resetOutcome, ahead]
  by_cases never : plan.period = .never
  · unfold SubscriptionPlan.period at never
    simp [resetOutcome, never]
  rw [resetOutcome_eq fuel ahead never] at ends ⊢
  rw [resetOutcome_eq fuel' ahead never]
  cases ended : chase (nextDate cfg plan sub) now fuel sub.resetBase
      (nextDate cfg plan sub sub.resetBase) false with
  | none => simp [ended, decided] at ends
  | some last => rw [chase_mono ended more]

/-- The call returns exactly if some fuel is enough. -/
theorem exists_resets_iff_fuel :
    (∃ row, Resets cfg plan sub now row) ↔ ∃ fuel, resetOutcome cfg fuel sub plan now ≠ .endless := by
  constructor
  · rintro ⟨row, enough, resets⟩
    refine ⟨enough, fun endless => ?_⟩
    have returned := resets enough (le_refl _) .empty id
    simp [maybeResetUserSubscriptionWithPlanTx, endless] at returned
  · rintro ⟨fuel, ends⟩
    have row : ∃ row, ∀ (s : Store) (w : Store → Store),
        (maybeResetUserSubscriptionWithPlanTx cfg fuel sub plan now ⟨s, w, []⟩).1 = .ok row := by
      unfold maybeResetUserSubscriptionWithPlanTx
      cases outcome : resetOutcome cfg fuel sub plan now with
      | keep => exact ⟨_, fun _ _ => rfl⟩
      | schedule row | reset row => exact ⟨row, fun _ _ => rfl⟩
      | endless => exact absurd outcome ends
    obtain ⟨row, returned⟩ := row
    refine ⟨row, fuel, fun fuel' more s w => ?_⟩
    rw [← returned s w]
    unfold maybeResetUserSubscriptionWithPlanTx
    rw [resetOutcome_mono ends more]

/-- What the transaction of a picked row answers and leaves. -/
def afterReset (s : Store) : ResetOutcome → Except String Bool × Store
  | .keep => (.ok true, s)
  | .schedule row => (.ok true, s.saveSub row)
  | .reset row => (.ok true, (s.saveSub row).log (.reset row.id))
  | .endless => (.error "the reset loop does not end", s)

variable {s : Store}

variable (ids : (s.subs.map (·.id)).Nodup) (member : sub ∈ s.subs)
  (due : 0 < sub.nextResetTime ∧ sub.nextResetTime ≤ now)
include ids member due

theorem find_locked :
    (s.subs.find? fun row => row.id = sub.id ∧ 0 < row.nextResetTime ∧ row.nextResetTime ≤ now) = some sub := by
  cases found : s.subs.find? fun row =>
      row.id = sub.id ∧ 0 < row.nextResetTime ∧ row.nextResetTime ≤ now with
  | none =>
    have skipped := find?_eq_none.mp found sub member
    simp [due] at skipped
  | some row =>
    have selected := find?_some found
    simp only [decide_eq_true_eq] at selected
    rw [inj_on_of_nodup_map ids (mem_of_find?_eq_some found) member selected.1]

theorem resetOne_locked : (transaction (resetOneTx cfg fuel sub.id plan now)).exec s [] =
      afterReset s (resetOutcome cfg fuel sub plan now) := by
  have body : resetOneTx cfg fuel sub.id plan now ⟨s, id, []⟩ =
      (do let _ ← maybeResetUserSubscriptionWithPlanTx cfg fuel sub plan now
          pure true : Db Bool) ⟨s, id, []⟩ := by
    unfold resetOneTx
    rw [bind_ok (attempt_apply (first_found (find_locked ids member due) _))]
  unfold maybeResetUserSubscriptionWithPlanTx at body
  cases outcome : resetOutcome cfg fuel sub plan now with
  | keep | schedule row | reset row | endless =>
    rw [outcome] at body
    exact exec_transaction_nil body

end

/-! ## Resetting a batch -/

/-- A row that `ResetDueSubscriptions` looks for. -/
def ResetDue (now : Int) (sub : UserSubscription) : Prop :=
  0 < sub.nextResetTime ∧ sub.nextResetTime ≤ now ∧ sub.status = .active
deriving Decidable

/-- The ids of the rows that are due to be reset. -/
def dueIds (s : Store) (now : Int) : Finset Int := ((s.subs.filter fun sub => ResetDue now sub).map (·.id)).toFinset

theorem mem_dueIds {s : Store} {now : Int} : id ∈ dueIds s now ↔ ∃ sub ∈ s.subs, ResetDue now sub ∧ sub.id = id := by
  simp [dueIds, and_assoc]

/-- The row has a plan, with a reset date behind the row. -/
def Moves (cfg : Config) (s : Store) (now : Int) (sub : UserSubscription) : Prop :=
  ∃ plan, s.planById sub.planId = some plan ∧
    Due now (calcNextResetTime cfg sub.resetBase plan sub.endTime)

structure Swept (cfg : Config) (now : Int) (s : Store) (picks : List UserSubscription)
    (s' : Store) : Prop where
  maintained : Maintained s s'
  others : ∀ row ∈ s.subs, (∀ sub ∈ picks, sub.id ≠ row.id) → row ∈ s'.subs
  due : ∀ id, id ∈ dueIds s' now ↔
    id ∈ dueIds s now ∧ ∀ sub ∈ picks, sub.id = id → ¬Moves cfg s now sub
  still : (∀ sub ∈ picks, ¬Moves cfg s now sub) → s' = s

section
variable {cfg : Config} {now : Int} {s s' s'' : Store}

theorem Maintained.moves (same : Maintained s s') (sub : UserSubscription) :
    Moves cfg s' now sub ↔ Moves cfg s now sub := by
  unfold Moves
  rw [same.planById]

variable {picks : List UserSubscription} {sub : UserSubscription} {fuel : Nat}
  {plan : SubscriptionPlan} {n : Int}

theorem swept_same (none_ : ∀ sub ∈ picks, ¬Moves cfg s now sub) : Swept cfg now s picks s where
  maintained := .refl s
  others _ member _ := member
  due id := by refine ⟨fun member => ⟨member, fun sub picked _ => none_ sub picked⟩, And.left⟩
  still _ := rfl

theorem Swept.cons (one : Swept cfg now s [sub] s') (rest : Swept cfg now s' picks s'') :
    Swept cfg now s (sub :: picks) s'' where
  maintained := one.maintained.trans rest.maintained
  others row member apart := by
    have kept := one.others row member fun r picked => apart r (by simp at picked; simp [picked])
    exact rest.others row kept fun r picked => apart r (by simp [picked])
  due id := by simp [rest.due, one.due, one.maintained.moves, and_assoc]
  still none_ := by
    simp only [forall_mem_cons] at none_
    have first := one.still (by simpa using none_.1)
    subst first
    exact rest.still none_.2

/-- A row that is saved as not due any more. -/
theorem swept_reset {row : UserSubscription} (moves : Moves cfg s now sub) (same : row.id = sub.id)
    (past : ¬(0 < row.nextResetTime ∧ row.nextResetTime ≤ now)) :
    Swept cfg now s [sub] ((s.saveSub row).log (.reset row.id)) where
  maintained := ⟨rfl, rfl, map_id_saveSub row⟩
  others r old apart := by
    refine mem_saveSub_of_ne old fun clash => ?_
    exact apart sub (by simp) (by rw [clash, same])
  due id := by
    rw [mem_dueIds, mem_dueIds]
    constructor
    · rintro ⟨r, inside, due, rfl⟩
      rcases mem_saveSub inside with rfl | ⟨old, other⟩
      · exact absurd ⟨due.1, due.2.1⟩ past
      · refine ⟨⟨r, old, due, rfl⟩, fun picked only clash => ?_⟩
        rw [mem_singleton] at only
        subst only
        exact absurd (clash.symm.trans same.symm) other
    · rintro ⟨⟨r, old, due, rfl⟩, apart⟩
      refine ⟨r, mem_saveSub_of_ne old fun clash => ?_, due, rfl⟩
      exact apart sub (by simp) (by rw [clash, same]) moves
  still none_ := absurd moves (none_ sub (by simp))

/-- The transaction of a picked row, when its loop ends. -/
theorem resetOne_swept (due : ResetDue now sub) (planned : s.planById sub.planId = some plan)
    (ends : resetOutcome cfg fuel sub plan now ≠ .endless) :
    ∃ s', afterReset s (resetOutcome cfg fuel sub plan now) = (.ok true, s') ∧ Swept cfg now s [sub] s' := by
  by_cases passed : Due now (nextDate cfg plan sub sub.resetBase)
  · have moves : Moves cfg s now sub := ⟨plan, planned, by rwa [calcNextResetTime_eq_cut]⟩
    obtain endless | ⟨row, outcome, same, past⟩ := resetOutcome_passed fuel ⟨due.1, due.2.1⟩ passed
    · exact absurd endless ends
    · rw [outcome]
      exact ⟨_, rfl, swept_reset moves same past⟩
  · have stays : ¬Moves cfg s now sub := by
      rintro ⟨other, found, behind⟩
      rw [planned, Option.some.injEq] at found
      subst found
      rw [calcNextResetTime_eq_cut] at behind
      exact passed behind
    rw [resetOutcome_keep ⟨due.1, due.2.1⟩ passed]
    exact ⟨s, rfl, swept_same (by simpa using stays)⟩

/-- The number of rows that have a plan: those `ResetDueSubscriptions` counts. -/
def planned (s : Store) (picks : List UserSubscription) : Nat :=
  picks.countP fun sub => (s.planById sub.planId).isSome

theorem resetAll_planless (picks : List UserSubscription) (count : Int) (planless : s.planById sub.planId = none) :
    (resetAll cfg fuel now (sub :: picks) count).solo s = (resetAll cfg fuel now picks count).solo s := by
  obtain ⟨outcome, looked, found⟩ := getPlan_apply sub.planId s id
  have ran : (getSubscriptionPlanByIdTx sub.planId).exec s [] = (outcome, s) := by simp only [exec, looked]
  simp only [resetAll, solo_bind, store, solo, ran]
  cases outcome with
  | error e => rfl
  | ok plan =>
    have wrong := (found plan).mp rfl
    simp [planless] at wrong

theorem resetAll_planned {outcome : Except String Bool} (picks : List UserSubscription) (count : Int)
    (planned : s.planById sub.planId = some plan)
    (ran : (transaction (resetOneTx cfg fuel sub.id plan now)).exec s [] = (outcome, s')) :
    (resetAll cfg fuel now (sub :: picks) count).solo s = outcome.casesOn (fun e => ((count, some e), s'))
        fun counted => (resetAll cfg fuel now picks (if counted then count + 1 else count)).solo s' := by
  obtain ⟨looked_up, looked, found⟩ := getPlan_apply sub.planId s id
  have there := (found plan).mpr planned
  subst there
  have read : (getSubscriptionPlanByIdTx sub.planId).exec s [] = (.ok plan, s) := by simp only [exec, looked]
  simp only [resetAll, solo_bind, store, solo, read, ran]
  cases outcome <;> rfl

/-- Different rows of the table that are due. -/
structure Picked (now : Int) (s : Store) (picks : List UserSubscription) : Prop where
  ids : (s.subs.map (·.id)).Nodup
  apart : (picks.map (·.id)).Nodup
  inside : ∀ sub ∈ picks, sub ∈ s.subs ∧ ResetDue now sub

/-- The loops of all picked rows end within the fuel. -/
def PicksEnd (cfg : Config) (fuel : Nat) (now : Int) (s : Store) (picks : List UserSubscription) : Prop :=
  ∀ sub ∈ picks, ∀ plan, s.planById sub.planId = some plan →
    resetOutcome cfg fuel sub plan now ≠ .endless

theorem Picked.tail (picked : Picked now s (sub :: picks)) (one : Swept cfg now s [sub] s') : Picked now s' picks where
  ids := one.maintained.ids ▸ picked.ids
  apart := (nodup_cons.mp picked.apart).2
  inside row later := by
    have old := picked.inside row (by simp [later])
    refine ⟨one.others row old.1 ?_, old.2⟩
    rw [forall_mem_singleton]
    exact fun clash => (nodup_cons.mp picked.apart).1 (mem_map.mpr ⟨row, later, clash.symm⟩)

theorem PicksEnd.tail (end_ : PicksEnd cfg fuel now s (sub :: picks)) (one : Swept cfg now s [sub] s') :
    PicksEnd cfg fuel now s' picks := by
  intro row later plan planned
  exact end_ row (by simp [later]) plan (by rwa [← one.maintained.planById])

theorem Picked.exec (picked : Picked now s (sub :: picks)) :
    (transaction (resetOneTx cfg fuel sub.id plan now)).exec s [] =
      afterReset s (resetOutcome cfg fuel sub plan now) := by
  have head := picked.inside sub (by simp)
  exact resetOne_locked picked.ids head.1 ⟨head.2.1, head.2.2.1⟩

variable {enough : Nat}

/-- The loop over the picked rows, with fuel for each of them. -/
theorem resetAll_solo (picks : List UserSubscription) (count : Int) (s : Store)
    (picked : Picked now s picks) (end_ : PicksEnd cfg enough now s picks) : ∃ s', (∀ fuel, enough ≤ fuel →
        (resetAll cfg fuel now picks count).solo s = ((count + planned s picks, none), s')) ∧
      Swept cfg now s picks s' := by
  induction picks generalizing count s with
  | nil => exact ⟨s, fun fuel _ => by simp [resetAll, planned], swept_same (by simp)⟩
  | cons sub picks ih =>
    cases found : s.planById sub.planId with
    | none =>
      have one : Swept cfg now s [sub] s := swept_same (by simp [Moves, found])
      obtain ⟨s', ran, swept⟩ := ih count s (picked.tail one) (end_.tail one)
      refine ⟨s', fun fuel lasts => ?_, one.cons swept⟩
      rw [resetAll_planless picks count found, ran fuel lasts]
      simp [planned, found]
    | some plan =>
      have head := end_ sub (by simp) plan found
      obtain ⟨s₁, answered, one⟩ := resetOne_swept (picked.inside sub (by simp)).2 found head
      obtain ⟨s', ran, swept⟩ := ih (count + 1) s₁ (picked.tail one) (end_.tail one)
      refine ⟨s', fun fuel lasts => ?_, one.cons swept⟩
      have exec : (transaction (resetOneTx cfg fuel sub.id plan now)).exec s [] = (.ok true, s₁) := by
        rw [picked.exec, resetOutcome_mono head lasts, answered]
      have same : planned s₁ picks = planned s picks := by simp only [planned, one.maintained.planById]
      rw [resetAll_planned picks count found exec]
      simp only [if_true, ran fuel lasts, same]
      simp only [planned, countP_cons, found, Option.isSome_some]
      push_cast
      rw [Int.add_assoc, Int.add_comm 1]

/-- A row whose loop does not end keeps the batch from returning without an error. -/
theorem resetAll_ends (picks : List UserSubscription) (count : Int) (s : Store) (picked : Picked now s picks)
    (ran : (resetAll cfg fuel now picks count).solo s = ((n, none), s')) : PicksEnd cfg fuel now s picks := by
  induction picks generalizing count s with
  | nil =>
    intro sub picked
    cases picked
  | cons sub picks ih =>
    refine forall_mem_cons.mpr ?_
    cases found : s.planById sub.planId with
    | none =>
      have one : Swept cfg now s [sub] s := swept_same (by simp [Moves, found])
      rw [resetAll_planless picks count found] at ran
      refine ⟨fun plan planned => ?_, ih count s (picked.tail one) ran⟩
      cases planned
    | some plan =>
      have exec : (transaction (resetOneTx cfg fuel sub.id plan now)).exec s [] =
        afterReset s (resetOutcome cfg fuel sub plan now) := picked.exec
      have head : resetOutcome cfg fuel sub plan now ≠ .endless := by
        intro endless
        rw [endless] at exec
        rw [resetAll_planned picks count found exec] at ran
        cases ran
      obtain ⟨s₁, answered, one⟩ := resetOne_swept (picked.inside sub (by simp)).2 found head
      rw [answered] at exec
      rw [resetAll_planned picks count found exec] at ran
      have rest := ih _ s₁ (picked.tail one) ran
      refine ⟨fun other same => ?_, fun row later other planned => ?_⟩
      · rw [Option.some.injEq] at same
        exact same ▸ head
      · exact rest row later other (by rwa [one.maintained.planById])

/-! ## The batches of the task -/

theorem picked_resetDue (ids : (s.subs.map (·.id)).Nodup) (now limit : Int) : Picked now s (s.resetDue now limit) where
  ids := ids
  apart := by
    have sorted := perm_insertionSort resetsBefore (s.subs.filter fun sub =>
      0 < sub.nextResetTime ∧ sub.nextResetTime ≤ now ∧ sub.status = .active)
    have all := (sorted.map (·.id)).nodup_iff.mpr (ids.sublist (filter_sublist.map _))
    exact all.sublist ((take_sublist _ _).map _)
  inside sub picked := by
    have member := mem_of_mem_take picked
    rw [mem_insertionSort, mem_filter, decide_eq_true_eq] at member
    exact member

/-- A batch returns `n` without an error, whatever fuel it has from some amount on. -/
def Returns (batch : Nat → Program Store (Int × Option String)) (s : Store) (n : Int) (s' : Store) : Prop :=
  ∃ enough, ∀ fuel, enough ≤ fuel → (batch fuel).solo s = ((n, none), s')

def ExpireBatch (ranged : MapOrder) (now : Int) : Store → Int → Store → Prop :=
  Returns fun _ => expireDueSubscriptions ranged now subscriptionResetBatchSize

def ResetBatch (cfg : Config) (now : Int) : Store → Int → Store → Prop :=
  Returns fun fuel => resetDueSubscriptions cfg fuel now subscriptionResetBatchSize

theorem returns_functional (batch : Nat → Program Store (Int × Option String)) : Functional (Returns batch) := by
  rintro s n n' s' s'' ⟨a, one⟩ ⟨b, two⟩
  have same := (one (max a b) (le_max_left _ _)).symm.trans (two (max a b) (le_max_right _ _))
  simpa using same

theorem expireBatch_functional (ranged : MapOrder) (now : Int) :
    Functional (ExpireBatch ranged now) := returns_functional _

theorem resetBatch_functional (cfg : Config) (now : Int) : Functional (ResetBatch cfg now) := returns_functional _

/-- The rows that the next batch looks at. -/
abbrev nextBatch (s : Store) (now : Int) : List UserSubscription := s.resetDue now subscriptionResetBatchSize

/-- A batch of rows whose loops end. -/
theorem resetBatch_of_picksEnd (ids : (s.subs.map (·.id)).Nodup)
    (end_ : PicksEnd cfg enough now s (nextBatch s now)) : ∃ s', (∀ fuel, enough ≤ fuel →
        (resetDueSubscriptions cfg fuel now subscriptionResetBatchSize).solo s =
          (((planned s (nextBatch s now) : Int), none), s')) ∧
      Swept cfg now s (nextBatch s now) s' := by
  obtain ⟨s', ran, swept⟩ := resetAll_solo _ 0 s (picked_resetDue ids now _) end_
  refine ⟨s', fun fuel lasts => ?_, swept⟩
  have batch := ran fuel lasts
  rw [Int.zero_add] at batch
  exact batch

theorem resetBatch_of_solo (ids : (s.subs.map (·.id)).Nodup)
    (ran : (resetDueSubscriptions cfg fuel now subscriptionResetBatchSize).solo s = ((n, none), s')) :
    ResetBatch cfg now s n s' ∧ n = planned s (nextBatch s now) ∧
      Swept cfg now s (nextBatch s now) s' := by
  have end_ : PicksEnd cfg fuel now s (nextBatch s now) :=
    resetAll_ends _ 0 s (picked_resetDue ids now _) ran
  obtain ⟨last, batch, swept⟩ := resetBatch_of_picksEnd ids end_
  have same := ran.symm.trans (batch fuel (le_refl _))
  obtain ⟨rfl, rfl⟩ := same
  exact ⟨⟨fuel, batch⟩, rfl, swept⟩

theorem ResetBatch.swept (batch : ResetBatch cfg now s n s') (ids : (s.subs.map (·.id)).Nodup) :
    n = planned s (nextBatch s now) ∧
      Swept cfg now s (nextBatch s now) s' := by
  obtain ⟨enough, batch⟩ := batch
  exact (resetBatch_of_solo ids (batch enough (le_refl _))).2

/-- One fuel for all rows. -/
theorem exists_picksEnd (picks : List UserSubscription)
    (each : ∀ sub ∈ picks, ∀ plan, s.planById sub.planId = some plan →
      ∃ fuel, resetOutcome cfg fuel sub plan now ≠ .endless) : ∃ fuel, PicksEnd cfg fuel now s picks := by
  induction picks with
  | nil => exact ⟨0, by simp [PicksEnd]⟩
  | cons sub picks ih =>
    obtain ⟨head, rest⟩ := forall_mem_cons.mp each
    obtain ⟨b, end_⟩ := ih rest
    have first : ∃ a, ∀ plan, s.planById sub.planId = some plan → resetOutcome cfg a sub plan now ≠ .endless := by
      cases found : s.planById sub.planId with
      | none => exact ⟨0, fun plan planned => by cases planned⟩
      | some plan =>
        obtain ⟨a, ends⟩ := head plan found
        exact ⟨a, fun other same => by rw [Option.some.injEq] at same; exact same ▸ ends⟩
    obtain ⟨a, first⟩ := first
    refine ⟨max a b, forall_mem_cons.mpr ⟨fun plan planned => ?_, fun row later plan planned => ?_⟩⟩
    · rw [resetOutcome_mono (first plan planned) (le_max_left _ _)]
      exact first plan planned
    · rw [resetOutcome_mono (end_ row later plan planned) (le_max_right _ _)]
      exact end_ row later plan planned

/-- What is asked of the store before a batch: the dates of every picked row that has a plan
move on and, if all rows of a full batch have plans, one of them has a date behind it. -/
def BatchAdvances (cfg : Config) (now : Int) (s : Store) : Prop :=
  (∀ sub ∈ s.resetDue now subscriptionResetBatchSize, ∀ plan,
      s.planById sub.planId = some plan → DatesMove cfg plan sub now) ∧
    (subscriptionResetBatchSize ≤ planned s (s.resetDue now subscriptionResetBatchSize) →
      ∃ sub ∈ s.resetDue now subscriptionResetBatchSize, Moves cfg s now sub)

theorem exists_resetBatch_iff (ids : (s.subs.map (·.id)).Nodup)
    (zone : ∀ id plan, s.planById id = some plan → OrderlyZone cfg plan) : (∃ n s', ResetBatch cfg now s n s') ↔
      ∀ sub ∈ nextBatch s now, ∀ plan,
        s.planById sub.planId = some plan → DatesMove cfg plan sub now := by
  constructor
  · rintro ⟨n, s', enough, batch⟩ sub picked plan planned
    have end_ : PicksEnd cfg enough now s (nextBatch s now) :=
      resetAll_ends _ 0 s (picked_resetDue ids now _) (batch enough (le_refl _))
    rw [← exists_resets_iff_datesMove (zone _ plan planned), exists_resets_iff_fuel]
    exact ⟨enough, end_ sub picked plan planned⟩
  · intro move
    have each : ∀ sub ∈ nextBatch s now, ∀ plan,
        s.planById sub.planId = some plan → ∃ fuel, resetOutcome cfg fuel sub plan now ≠ .endless := by
      intro sub picked plan planned
      rw [← exists_resets_iff_fuel, exists_resets_iff_datesMove (zone _ plan planned)]
      exact move sub picked plan planned
    obtain ⟨enough, end_⟩ := exists_picksEnd _ each
    obtain ⟨s', batch, -⟩ := resetBatch_of_picksEnd ids end_
    exact ⟨_, s', enough, batch⟩

/-- The due rows become fewer exactly if a picked row moves. -/
theorem Swept.due_ssubset (swept : Swept cfg now s picks s') (picked : Picked now s picks) :
    dueIds s' now ⊂ dueIds s now ↔ ∃ sub ∈ picks, Moves cfg s now sub := by
  constructor
  · intro fewer
    by_contra none_
    push Not at none_
    rw [swept.still none_] at fewer
    exact fewer.2 fewer.1
  · rintro ⟨sub, pick, moves⟩
    refine ⟨fun id member => ((swept.due id).mp member).1, fun all => ?_⟩
    have there : sub.id ∈ dueIds s now :=
      mem_dueIds.mpr ⟨sub, (picked.inside sub pick).1, (picked.inside sub pick).2, rfl⟩
    exact ((swept.due sub.id).mp (all there)).2 sub pick rfl moves

/-- A batch returns, and makes the due rows fewer when it is full, exactly if the store before it
lets it. -/
theorem batch_sound_iff (ids : (s.subs.map (·.id)).Nodup)
    (zone : ∀ id plan, s.planById id = some plan → OrderlyZone cfg plan) : (∃ n s', ResetBatch cfg now s n s' ∧
      (subscriptionResetBatchSize ≤ n → dueIds s' now ⊂ dueIds s now)) ↔ BatchAdvances cfg now s := by
  unfold BatchAdvances
  rw [← exists_resetBatch_iff ids zone]
  constructor
  · rintro ⟨n, s', batch, fewer⟩
    obtain ⟨rfl, swept⟩ := batch.swept ids
    exact ⟨⟨_, s', batch⟩, fun full => (swept.due_ssubset (picked_resetDue ids now _)).mp (fewer full)⟩
  · rintro ⟨⟨n, s', batch⟩, advances⟩
    obtain ⟨rfl, swept⟩ := batch.swept ids
    exact ⟨_, s', batch, fun full =>
      (swept.due_ssubset (picked_resetDue ids now _)).mpr (advances full)⟩

end

section
variable {s s' : Store} {n : Int} {rounds : Nat} {batch : Program Store (Int × Option String)}

theorem batchLoop_short (ran : batch.solo s = ((n, none), s')) (short : n < subscriptionResetBatchSize) :
    (batchLoop batch (rounds + 1)).solo s = (.finished, s') := by
  simp only [batchLoop, solo_bind, ran]
  by_cases zero : n = 0
  · rw [if_pos zero]
    rfl
  · rw [if_neg zero, if_pos short]
    rfl

theorem batchLoop_full (ran : batch.solo s = ((n, none), s')) (full : subscriptionResetBatchSize ≤ n) :
    (batchLoop batch (rounds + 1)).solo s = (batchLoop batch rounds).solo s' := by
  have positive : (0 : Int) < subscriptionResetBatchSize := by decide
  simp only [batchLoop, solo_bind, ran]
  rw [if_neg (by omega), if_neg (by omega)]

/-- The loop returns when the job ends. -/
theorem batchLoop_of_ends {batch : Nat → Program Store (Int × Option String)}
    (ends : Ends (Returns batch) subscriptionResetBatchSize s s') :
    ∃ enough, ∀ fuel, enough ≤ fuel → ∀ rounds, enough ≤ rounds →
      (batchLoop (batch fuel) rounds).solo s = (.finished, s') := by
  induction ends with
  | last ran short =>
    obtain ⟨enough, ran⟩ := ran
    refine ⟨enough + 1, fun fuel lasts rounds more => ?_⟩
    obtain ⟨rounds, rfl⟩ := Nat.exists_eq_add_of_lt (show 0 < rounds by omega)
    rw [Nat.zero_add]
    exact batchLoop_short (ran fuel (by omega)) short
  | again ran full _ ih =>
    obtain ⟨a, ran⟩ := ran
    obtain ⟨b, rest⟩ := ih
    refine ⟨a + b + 1, fun fuel lasts rounds more => ?_⟩
    obtain ⟨rounds, rfl⟩ := Nat.exists_eq_add_of_lt (show 0 < rounds by omega)
    rw [Nat.zero_add, batchLoop_full (ran fuel (by omega)) full]
    exact rest fuel (by omega) rounds (by omega)

/-- The job ends when the loop returns. -/
theorem ends_of_batchLoop {Batch : Store → Int → Store → Prop} (Inv : Store → Prop)
    (each : ∀ s n s', Inv s → batch.solo s = ((n, none), s') → Batch s n s' ∧ Inv s') (inv : Inv s)
    (ran : (batchLoop batch rounds).solo s = (.finished, s')) : Ends Batch subscriptionResetBatchSize s s' := by
  induction rounds generalizing s with
  | zero => cases ran
  | succ rounds ih =>
    rcases returned : batch.solo s with ⟨⟨n, failed⟩, s₁⟩
    cases failed with
    | some e =>
      simp only [batchLoop, solo_bind, returned] at ran
      cases ran
    | none =>
      obtain ⟨step, inv₁⟩ := each s n s₁ inv returned
      by_cases full : subscriptionResetBatchSize ≤ n
      · rw [batchLoop_full returned full] at ran
        exact .again step full (ih inv₁ ran)
      · rw [batchLoop_short returned (by omega)] at ran
        cases ran
        exact .last step (by omega)

end

/-! ## The task -/

section
variable {cfg : Config} {ranged : MapOrder} {now : Int} {s s' s'' : Store} {n : Int}

theorem exists_expireBatch (ranged : MapOrder) (now : Int) (s : Store) :
    ∃ n s', ExpireBatch ranged now s n s' ∧ Maintained s s' ∧ (expiring s' now : Int) + n = expiring s now := by
  obtain ⟨n, s', ran, same, ended⟩ := expireDue_solo ranged now subscriptionResetBatchSize s
  exact ⟨n, s', ⟨0, fun _ _ => ran⟩, same, ended⟩

theorem ExpireBatch.ended (batch : ExpireBatch ranged now s n s') :
    Maintained s s' ∧ (expiring s' now : Int) + n = expiring s now := by
  obtain ⟨m, s₁, ran, same, ended⟩ := exists_expireBatch ranged now s
  obtain ⟨rfl, rfl⟩ := expireBatch_functional ranged now _ _ _ _ _ batch ran
  exact ⟨same, ended⟩

theorem ExpireBatch.expiring_lt (batch : ExpireBatch ranged now s n s')
    (full : subscriptionResetBatchSize ≤ n) : expiring s' now < expiring s now := by
  have counted := batch.ended.2
  unfold subscriptionResetBatchSize at full
  omega

theorem maintained_of_expired (ends : Ends (ExpireBatch ranged now) subscriptionResetBatchSize s s') :
    Maintained s s' := by
  obtain ⟨before, n, reached, batch, -⟩ := ends.reached
  have same : Maintained s before := reached.invariant (.refl s) fun _ _ _ same batch => same.trans batch.ended.1
  exact same.trans batch.ended.1

/-- Ending subscriptions comes to an end. -/
theorem exists_expired (ranged : MapOrder) (now : Int) (s : Store) :
    ∃ s', Ends (ExpireBatch ranged now) subscriptionResetBatchSize s s' ∧ Maintained s s' := by
  obtain ⟨s', ends⟩ : ∃ s', Ends (ExpireBatch ranged now) subscriptionResetBatchSize s s' := by
    refine exists_ends (expiring · now) fun before _ => ?_
    obtain ⟨n, after, batch, -⟩ := exists_expireBatch ranged now before
    exact ⟨n, after, batch, batch.expiring_lt⟩
  exact ⟨s', ends, maintained_of_expired ends⟩

theorem maintained_of_reached (ids : (s.subs.map (·.id)).Nodup)
    (reached : Reached (ResetBatch cfg now) subscriptionResetBatchSize s s') : Maintained s s' := by
  refine reached.invariant (.refl s) fun before n after same batch => ?_
  exact same.trans (batch.swept (by rwa [same.ids])).2.maintained

/-- The task ends exactly if its second loop does, started where the first one ended. -/
theorem task_ends_iff (ids : (s.subs.map (·.id)).Nodup) {s₁ : Store}
    (expired : Ends (ExpireBatch ranged now) subscriptionResetBatchSize s s₁) (same : Maintained s s₁) :
    (∃ fuel rounds s', (runSubscriptionQuotaResetOnce cfg ranged fuel now rounds).solo s = (.finished, s')) ↔
      ∃ s', Ends (ResetBatch cfg now) subscriptionResetBatchSize s₁ s' := by
  constructor
  · rintro ⟨fuel, rounds, s', ran⟩
    simp only [runSubscriptionQuotaResetOnce, solo_bind] at ran
    rcases first : (batchLoop (expireDueSubscriptions ranged now subscriptionResetBatchSize) rounds).solo s
      with ⟨outcome, s₂⟩
    rw [first] at ran
    cases outcome with
    | failed e | running => cases ran
    | finished =>
      have ends : Ends (ExpireBatch ranged now) subscriptionResetBatchSize s s₂ :=
        ends_of_batchLoop (fun _ => True)
          (fun s n s' _ ran => ⟨⟨0, fun _ _ => ran⟩, trivial⟩) trivial first
      obtain rfl := expired.unique (expireBatch_functional ranged now) ends
      have nodup : (s₁.subs.map (·.id)).Nodup := by rwa [same.ids]
      refine ⟨s', ends_of_batchLoop (fun s => (s.subs.map (·.id)).Nodup) ?_ nodup ran⟩
      intro before n after inv returned
      obtain ⟨batch, -, swept⟩ := resetBatch_of_solo inv returned
      exact ⟨batch, by rwa [swept.maintained.ids]⟩
  · rintro ⟨s', ends⟩
    obtain ⟨a, first⟩ := batchLoop_of_ends expired
    obtain ⟨b, second⟩ := batchLoop_of_ends ends
    refine ⟨b, max a b, s', ?_⟩
    simp only [runSubscriptionQuotaResetOnce, solo_bind, first a (le_refl _) (max a b) (le_max_left _ _)]
    exact second b (le_refl _) (max a b) (le_max_right _ _)

/-- **When the maintenance task ends.**  Ending subscriptions always comes to an end, in a store
`s₁`, and each full batch of it leaves fewer rows to end.  From there the task ends if and only
if every store before a batch of resets lets it advance; and that is when the batch returns and,
if it is full, leaves fewer rows due. -/
theorem resetTask_ends_iff (cfg : Config) (ranged : MapOrder) (now : Int) (s : Store)
    (ids : (s.subs.map (·.id)).Nodup) (zone : ∀ id plan, s.planById id = some plan → OrderlyZone cfg plan) :
    ∃ s₁, Ends (ExpireBatch ranged now) subscriptionResetBatchSize s s₁ ∧
      (∀ before n after, ExpireBatch ranged now before n after → subscriptionResetBatchSize ≤ n →
        expiring after now < expiring before now) ∧
      ((∃ fuel rounds s', (runSubscriptionQuotaResetOnce cfg ranged fuel now rounds).solo s = (.finished, s')) ↔
        ∀ s', Reached (ResetBatch cfg now) subscriptionResetBatchSize s₁ s' → BatchAdvances cfg now s') ∧
      ∀ s', Reached (ResetBatch cfg now) subscriptionResetBatchSize s₁ s' → ((∃ n s'', ResetBatch cfg now s' n s'' ∧
          (subscriptionResetBatchSize ≤ n → dueIds s'' now ⊂ dueIds s' now)) ↔ BatchAdvances cfg now s') := by
  obtain ⟨s₁, expired, same⟩ := exists_expired ranged now s
  have ids₁ : (s₁.subs.map (·.id)).Nodup := by rwa [same.ids]
  have kept : ∀ s', Reached (ResetBatch cfg now) subscriptionResetBatchSize s₁ s' → (s'.subs.map (·.id)).Nodup ∧
        ∀ id plan, s'.planById id = some plan → OrderlyZone cfg plan := by
    intro s' reached
    have all := same.trans (maintained_of_reached ids₁ reached)
    exact ⟨by rwa [all.ids], fun id plan planned => zone id plan (by rwa [← all.planById])⟩
  have sound s' (reached : Reached _ _ s₁ s') : (∃ n s'', ResetBatch cfg now s' n s'' ∧ _) ↔ _ :=
    batch_sound_iff (kept s' reached).1 (kept s' reached).2
  refine ⟨s₁, expired, fun _ _ _ => ExpireBatch.expiring_lt, ?_, sound⟩
  rw [task_ends_iff ids expired same]
  -- A full batch changes nothing or leaves fewer rows due, so the number of due rows is a rank.
  have fewer : ∀ s' n s'', Reached (ResetBatch cfg now) subscriptionResetBatchSize s₁ s' →
      ResetBatch cfg now s' n s'' → s'' = s' ∨ dueIds s'' now ⊂ dueIds s' now := by
    intro s' n s'' reached batch
    have swept := (batch.swept (kept s' reached).1).2
    by_cases moves : ∃ sub ∈ s'.resetDue now subscriptionResetBatchSize, Moves cfg s' now sub
    · exact .inr ((swept.due_ssubset (picked_resetDue (kept s' reached).1 now _)).mpr moves)
    · push Not at moves
      exact .inl (swept.still moves)
  rw [exists_ends_iff (resetBatch_functional cfg now) (fun s => (dueIds s now).card)
    fun s' n s'' reached batch _ => (fewer s' n s'' reached batch).imp_right Finset.card_lt_card]
  refine forall₂_congr fun s' reached => ?_
  rw [← sound s' reached]
  refine exists₂_congr fun n s'' => and_congr_right fun batch => imp_congr_right fun full => ?_
  refine ⟨fun lower => (fewer s' n s'' reached batch).resolve_left fun stays => ?_, Finset.card_lt_card⟩
  rw [stays] at lower
  exact lt_irrefl _ lower

end

/-- One row of a daily plan, due since the second midnight after its start. -/
def dueRow (id : Int) : UserSubscription := { usedSubscription 100000 2000000 with id, nextResetTime := 172800 }

def dueStore : Store :=
  { empty with
    plans := fun id => if id = 1 then some dailyPlan else none
    subs := [dueRow 1] }

theorem dueStore_planById {plan : SubscriptionPlan}
    (planned : dueStore.planById id = some plan) : plan = dailyPlan := by
  unfold planById at planned
  split at planned
  · cases planned
  by_cases one : id = 1
  · simp only [dueStore, empty, emptyCaches, Option.none_or, one, if_true,
      Option.map_some, Option.some.injEq] at planned
    rw [← planned]
    rfl
  · simp [dueStore, empty, emptyCaches, one] at planned

/-- A store with one row of a daily plan. -/
theorem dueStore_ends : ∃ fuel rounds s', (runSubscriptionQuotaResetOnce plainConfig inOrder fuel 400000 rounds).solo
      dueStore = (.finished, s') := by
  have daily : dailyPlan.period = .daily := by decide
  obtain ⟨s₁, expired, -, ends_iff, -⟩ := resetTask_ends_iff plainConfig inOrder 400000 dueStore
    (by decide) (fun id plan planned => by
      rw [dueStore_planById planned]
      exact orderlyZone_daily_utc daily)
  refine ends_iff.mpr fun s' reached => ?_
  have same := maintained_of_expired expired
  have all := same.trans (maintained_of_reached (by rw [same.ids]; decide) reached)
  refine ⟨fun sub _ plan planned => .inr ?_, fun full => ?_⟩
  · rw [all.planById] at planned
    rw [dueStore_planById planned, daily]
    rintro ⟨-, t, fixed, -⟩
    rw [resetAfter_daily_utc daily] at fixed
    omega
  · have count : planned s' (s'.resetDue 400000 subscriptionResetBatchSize) ≤ 1 := by
      calc planned s' (s'.resetDue 400000 subscriptionResetBatchSize)
          ≤ (s'.resetDue 400000 subscriptionResetBatchSize).length := countP_le_length
        _ ≤ s'.subs.length := by
          unfold resetDue
          rw [length_take, length_insertionSort]
          exact (min_le_right _ _).trans (length_filter_le _ _)
        _ = 1 := by
          have ids := congrArg List.length all.ids
          simpa [dueStore] using ids
    unfold subscriptionResetBatchSize at full count
    omega

def neverPlan : SubscriptionPlan := { dailyPlan with quotaResetPeriod := "never" }

def stuckStore : Store :=
  { empty with
    plans := fun id => if id = 1 then some neverPlan else none
    subs := (List.range 300).map fun (n : Nat) => dueRow (n + 1) }

theorem stuckStore_nodup : (stuckStore.subs.map (·.id)).Nodup := by
  simp only [stuckStore, map_map]
  refine List.Nodup.map (fun a b same => ?_) nodup_range
  simp only [Function.comp, dueRow] at same
  omega

theorem stuckStore_row {sub : UserSubscription} (member : sub ∈ stuckStore.subs) : ∃ id, sub = dueRow id := by
  obtain ⟨n, -, rfl⟩ := mem_map.mp member
  exact ⟨_, rfl⟩

theorem dueRow_due (id : Int) : ResetDue 400000 (dueRow id) :=
  (by decide : (0 : Int) < 172800 ∧ (172800 : Int) ≤ 400000 ∧ SubscriptionStatus.active = .active)

theorem neverPlan_none (sub : UserSubscription) (now : Int) :
    ¬Due now (calcNextResetTime plainConfig sub.resetBase neverPlan sub.endTime) := by
  rintro ⟨positive, -⟩
  have zero : calcNextResetTime plainConfig sub.resetBase neverPlan sub.endTime = 0 := rfl
  omega

theorem stuckStore_planById : stuckStore.planById 1 = some neverPlan := by decide

theorem stuckStore_planned : planned stuckStore (stuckStore.resetDue 400000 subscriptionResetBatchSize) = 300 := by
  have all : (stuckStore.resetDue 400000 subscriptionResetBatchSize).length = 300 := by
    unfold resetDue
    rw [length_take, length_insertionSort, filter_eq_self.mpr]
    · rw [stuckStore, length_map, length_range]
      rfl
    · intro sub member
      obtain ⟨id, rfl⟩ := stuckStore_row member
      exact decide_eq_true (dueRow_due id)
  rw [← all]
  refine countP_eq_length.mpr fun sub picked => ?_
  obtain ⟨id, rfl⟩ := stuckStore_row ((picked_resetDue stuckStore_nodup 400000 _).inside sub picked).1
  rfl

/-- The batch of the three hundred rows is full and changes nothing, so it comes again for ever. -/
theorem resetTask_stuck : Accepted neverPlan ∧ (stuckStore.subs.map (·.id)).Nodup ∧
      ResetBatch plainConfig 400000 stuckStore 300 stuckStore ∧
      ¬∃ fuel rounds s', (runSubscriptionQuotaResetOnce plainConfig inOrder fuel 400000 rounds).solo
        stuckStore = (.finished, s') := by
  have stays : ∀ sub ∈ stuckStore.resetDue 400000 subscriptionResetBatchSize,
      ¬Moves plainConfig stuckStore 400000 sub := by
    rintro sub picked ⟨plan, planned, due⟩
    obtain ⟨id, rfl⟩ := stuckStore_row ((picked_resetDue stuckStore_nodup 400000 _).inside sub picked).1
    have never : plan = neverPlan := Option.some.inj (planned.symm.trans stuckStore_planById)
    rw [never] at due
    exact neverPlan_none _ _ due
  have ends : PicksEnd plainConfig 0 400000 stuckStore (stuckStore.resetDue 400000 subscriptionResetBatchSize) := by
    intro sub picked plan planned
    obtain ⟨id, rfl⟩ := stuckStore_row ((picked_resetDue stuckStore_nodup 400000 _).inside sub picked).1
    have never : plan = neverPlan := Option.some.inj (planned.symm.trans stuckStore_planById)
    rw [never, resetOutcome_keep ⟨(dueRow_due id).1, (dueRow_due id).2.1⟩
      (calcNextResetTime_eq_cut _ _ _ _ ▸ neverPlan_none _ _)]
    exact ResetOutcome.noConfusion
  obtain ⟨s', ran, swept⟩ := resetBatch_of_picksEnd stuckStore_nodup ends
  rw [swept.still stays, stuckStore_planned] at ran
  have batch : ResetBatch plainConfig 400000 stuckStore 300 stuckStore := ⟨0, ran⟩
  have nothing : ExpireBatch inOrder 400000 stuckStore 0 stuckStore := by
    refine ⟨0, fun _ _ => ?_⟩
    rfl
  have expired : Ends (ExpireBatch inOrder 400000) subscriptionResetBatchSize stuckStore
      stuckStore := .last nothing (by decide)
  refine ⟨.inr ⟨fun _ => true, 1, neverPlan, neverPlan, by decide⟩, stuckStore_nodup, batch, ?_⟩
  rw [task_ends_iff stuckStore_nodup expired (.refl _)]
  exact not_ends_of_still (resetBatch_functional _ _) batch (by decide)

end NewApi.Subscription
