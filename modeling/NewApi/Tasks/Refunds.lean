/-
# Tasks.Refunds — what a refund gives back

`refundTaskQuota` gives the quota of a task back to its funding source and then to its token.  Each of
the two fails and changes nothing, or is recorded and paid (`taskAdjustFunding_exec`, `tokenAdjust_exec`).
Billing never touches a row (`Later`).
-/
import NewApi.Tasks.Calls

namespace NewApi.Tasks
open Theory Model Billing

/-! ## What a recorded change does to the accounts -/

/-- The funding source of `t` was charged `delta`: that much left the wallet, or is more used on the
subscription.  A negative `delta` gives back, to a subscription not below zero. -/
def Charged (cfg : TaskConfig) (t : Task) (delta : Int) (a a' : Store) : Prop :=
  if taskIsSubscription t then
    ∃ sub, a.findSub t.privateData.subscriptionId = some sub ∧ sub.Room delta ∧
      a' = Subscription.adjust a (.posted t.privateData.subscriptionId delta) sub delta
  else a' = moveUser cfg.accounts t.userId (-delta) a

section
variable {t : Task} {cfg : TaskConfig} {delta : Int}

theorem fundingChange_exec (moves : delta ≠ 0) (a : Store) (faults : Faults) :
    (∃ e, (fundingChange cfg t delta).exec a faults = (.error e, a)) ∨
      ∃ a', (fundingChange cfg t delta).exec a faults = (.ok (), a') ∧ Charged cfg t delta a a' := by
  unfold fundingChange Charged
  by_cases subscribed : taskIsSubscription t = true
  · simp only [if_pos subscribed]
    obtain ⟨outcome, a', ran, effect⟩ := Subscription.postConsume_exec
      (.posted t.privateData.subscriptionId delta) t.privateData.subscriptionId delta a faults
    rw [ran]
    rcases effect with ⟨rfl, still⟩ | ⟨rfl, -, charged⟩
    · cases outcome with
      | error e => exact .inl ⟨e, rfl⟩
      | ok _ => exact absurd (still rfl) moves
    · exact .inr ⟨a', rfl, charged⟩
  · simp only [if_neg subscribed]
    split
    · exact (moves_decreaseUserQuota t.userId delta a faults).imp id fun ran => ⟨_, ran, rfl⟩
    · exact (moves_increaseUserQuota t.userId (-delta) a faults).imp id fun ran => ⟨_, ran, rfl⟩

theorem tokenChange_moves (delta : Int) (a : Store) :
    Moves (tokenChange cfg t delta) a (moveToken cfg.accounts t.privateData.tokenId (-delta) a) := by
  unfold tokenChange
  split
  · exact moves_decreaseTokenQuota _ delta a
  · exact moves_increaseTokenQuota _ (-delta) a

theorem recorded_exec {x : Db Unit} {s : TaskStore} {faults : Faults} {P : Store → Prop} (event : TaskEvent)
    (each : (∃ e, x.exec (Site.accounts s) faults = (.error e, s.accounts)) ∨
      ∃ a', x.exec (Site.accounts s) faults = (.ok (), a') ∧ P a') :
    (∃ e, (recorded x (·.log event)).exec s faults = (.error e, s)) ∨ ∃ a', P a' ∧
      (recorded x (·.log event)).exec s faults = (.ok (), { s with accounts := a' }.log event) := by
  rcases each with ⟨e, ran⟩ | ⟨a', ran, after⟩
  all_goals
    rcases exec_recorded x (·.log event) s faults with ⟨e', outcome, done⟩ | ⟨outcome, done⟩
    all_goals rw [ran] at outcome done
  · exact .inl ⟨e', done⟩
  · cases outcome
  · cases outcome
  · exact .inr ⟨a', after, done⟩

/-- **What is recorded has been paid.**  A refund or settlement fails and changes nothing, or it is recorded
and the funding source was charged. -/
theorem taskAdjustFunding_exec (moves : delta ≠ 0) (why : TaskBilling) (s : TaskStore) (faults : Faults) :
    (∃ e, (taskAdjustFunding cfg t why delta).exec s faults = (.error e, s)) ∨ ∃ a', Charged cfg t delta s.accounts a' ∧
      (taskAdjustFunding cfg t why delta).exec s faults =
        (.ok (), { s with accounts := a' }.log (.adjusted t.id why delta)) :=
  recorded_exec _ (fundingChange_exec moves s.accounts faults)

/-- The same of the token. -/
theorem tokenAdjust_exec (why : TaskBilling) (delta : Int) (s : TaskStore) (faults : Faults) :
    (∃ e, (recorded (tokenChange cfg t delta) (·.log (.token t.id why delta))).exec s faults = (.error e, s)) ∨
      ∃ a', a' = moveToken cfg.accounts t.privateData.tokenId (-delta) s.accounts ∧
        (recorded (tokenChange cfg t delta) (·.log (.token t.id why delta))).exec s faults =
          (.ok (), { s with accounts := a' }.log (.token t.id why delta)) :=
  recorded_exec _ ((tokenChange_moves delta s.accounts faults).imp id fun ran => ⟨_, ran, rfl⟩)

end

/-! ## Billing and the rest of the store -/

/-- What billing may do: the rows stay as they are. -/
abbrev Later (s s' : TaskStore) : Prop := s'.tasks = s.tasks

variable {s s' : TaskStore} {t : Task} {cfg : TaskConfig}

theorem Later.refl (s : TaskStore) : Later s s := rfl

variable {m : TaskStore}

theorem Later.quiet (later : Later s m) (quiet : Quiet m s') : Later s s' := quiet.tasks.trans later

theorem Later.logged {event : TaskEvent} (later : Later s m) (logged : Logged event m s') : Later s s' :=
  logged.tasks.trans later

@[simp] theorem unfailing_moves (g : TaskStore) : (Setting.unfailing TaskStore).moves s s' g = s' := rfl

theorem laterBookkeeping (s : TaskStore) : Bookkeeping (.unfailing _) (Later s) where
  quiet := by
    rintro _ m m' later rfl quiet
    exact ⟨trivial, later.quiet quiet⟩
  side := by
    rintro _ m m' id event later rfl - logged
    exact ⟨trivial, later.logged logged⟩

/-- A refund touches no row. -/
theorem refundTaskQuota_later : (refundTaskQuota cfg t).Meets (.unfailing _) s fun _ => Later s := by
  by_cases charged : t.quota = 0
  · rw [refundTaskQuota, if_pos charged]
    exact .refl s
  refine (refundTaskQuota_meets (F := Later s) (laterBookkeeping s) ?_ ?_ charged).mono
    fun _ _ either => either.elim id id
  · rintro m m' rfl logged
    exact ⟨trivial, (Later.refl m).logged logged⟩
  · rintro m m' rfl quiet
    exact (laterBookkeeping m).quiet (.refl m) rfl quiet

variable {adaptor : TaskAdaptor} {taskResult : TaskInfo}

theorem settle_later : (settleTaskBillingOnComplete cfg adaptor t taskResult).Meets (.unfailing _) s
      fun t' s' => Later s s' ∧ Requoted t t' := by
  apply settleTaskBillingOnComplete_meets (laterBookkeeping s)
  rintro m m' rfl logged
  exact ⟨trivial, (Later.refl m).logged logged⟩

theorem billVideoTask_later : (billVideoTask cfg adaptor t taskResult).Meets (.unfailing _) s
      fun t' s' => Later s s' ∧ Requoted t t' := by
  unfold billVideoTask
  split
  · exact settle_later
  split
  · exact .bind refundTaskQuota_later fun _ _ later => ⟨later, .refl t⟩
  · exact ⟨.refl s, .refl t⟩

/-- The compare-and-swap by status, when no call fails. -/
theorem updateWithStatus_unfailing (t : Task) (fromStatus : TaskStatus) :
    (Program.store (t.updateWithStatus fromStatus)).Meets (.unfailing _) s
      fun outcome s' => (outcome ≠ .ok true ∧ s' = s ∧ ∀ row, s.task t.id = some row → row.status ≠ fromStatus) ∨
        (outcome = .ok true ∧ s' = s.putTask t) := by
  refine Program.unfailing_store ?_
  show (Except.ok (t.swap fromStatus s).1 ≠ _ ∧ (t.swap fromStatus s).2 = s ∧ _) ∨
    Except.ok (t.swap fromStatus s).1 = _ ∧ (t.swap fromStatus s).2 = s.putTask t
  unfold Task.swap
  split
  · rename_i row found
    split
    · exact .inr ⟨rfl, rfl⟩
    · rename_i other
      refine .inl ⟨by simp, rfl, fun row' here => ?_⟩
      rw [found, Option.some.injEq] at here
      rw [← here]
      exact other
  · rename_i missing
    refine .inl ⟨by simp, rfl, fun row here => ?_⟩
    rw [missing] at here
    cases here

/-- One task of a sweep: its row has another status by now, or is written, and what follows
is billing. -/
theorem sweepTask_unfailing (now : Int) (t : Task) : (sweepTask cfg now t).Meets (.unfailing _) s fun _ s' =>
      (s' = s ∧ ∀ row, s.task t.id = some row → row.status ≠ t.status) ∨ Later (s.putTask (t.timedOut cfg now)) s' := by
  refine .bind (updateWithStatus_unfailing _ _) ?_
  rintro outcome m (⟨lost, rfl, other⟩ | ⟨rfl, rfl⟩)
  · cases outcome with
    | error e => exact .inl ⟨rfl, other⟩
    | ok won =>
      dsimp only
      rw [if_neg]
      · exact .inl ⟨rfl, other⟩
      · rintro ⟨rfl, -⟩
        exact lost rfl
  · dsimp only
    split
    · exact refundTaskQuota_later.mono fun _ s' after => .inr after
    · exact .inr (.refl _)

end NewApi.Tasks
