/-
# Tasks.Calls — what the calls of the task pollers do

A call leaves rows and record alone (`Quiet`), records one event and leaves the rows alone (`Logged`),
or writes rows; billing makes calls of the first two kinds only, in every setting that does not mind
what happens to accounts and tokens (`Bookkeeping`).
-/
import NewApi.Billing.Ledger
import NewApi.Tasks.Loops

namespace NewApi.Tasks
open Theory Model Sql List TaskStore

/-! ## Kinds of calls -/

variable {s s' : TaskStore} {t : Task}

/-- Neither a row nor the record is touched. -/
structure Quiet (s s' : TaskStore) : Prop where
  tasks : s'.tasks = s.tasks
  history : s'.history = s.history

/-- `event` is recorded and no row is touched. -/
structure Logged (event : TaskEvent) (s s' : TaskStore) : Prop where
  tasks : s'.tasks = s.tasks
  history : s'.history = s.history ++ [event]

theorem Quiet.refl (s : TaskStore) : Quiet s s := ⟨rfl, rfl⟩

theorem Logged.task {event : TaskEvent} (logged : Logged event s s') (id : Int) : s'.task id = s.task id := by
  simp [TaskStore.task, logged.tasks]

/-! ## The record -/

def newEvents (s s' : TaskStore) : List TaskEvent := s'.history.drop s.history.length

variable {events : List TaskEvent} {limit : Nat}

theorem newEvents_eq (grown : s'.history = s.history ++ events) : newEvents s s' = events := by
  simp [newEvents, grown]

def refundOf : TaskEvent → Option Int
  | .adjusted id .refund _ => some id
  | _ => none

def newRefunds (s s' : TaskStore) : List Int := (newEvents s s').filterMap refundOf

/-! ## Single calls -/

section
variable {α : Type} {s : TaskStore} {faults : Faults}

theorem quiet_onAccounts (x : Db α) : Quiet s ((onAccounts x).exec s faults).2 := ⟨rfl, rfl⟩

theorem quiet_read (query : TaskStore → Except String α) : Quiet s ((read query).exec s faults).2 := by
  rw [exec_read_snd]
  exact .refl s

theorem quiet_cacheGetChannel (enabled : Bool) (channelId : Int) :
    Quiet s ((cacheGetChannel enabled channelId).exec s faults).2 := by
  rw [exec_cacheGetChannel]
  exact .refl s

end

/-- `UpdateWithStatus` writes the row of a task that still has the status asked for. -/
theorem swap_cases (t : Task) (fromStatus : TaskStatus) (s : TaskStore) : t.swap fromStatus s = (false, s) ∨
      ∃ row, s.task t.id = some row ∧ row.status = fromStatus ∧ t.swap fromStatus s = (true, s.putTask t) := by
  unfold Task.swap
  split
  · rename_i row found
    split
    · rename_i same
      exact .inr ⟨row, found, same, rfl⟩
    · exact .inl rfl
  · exact .inl rfl

theorem exec_updateWithStatus (t : Task) (fromStatus : TaskStatus) (s : TaskStore) (faults : Faults) :
    (∃ outcome, outcome ≠ .ok true ∧ (t.updateWithStatus fromStatus).exec s faults = (outcome, s)) ∨
      ∃ row, s.task t.id = some row ∧ row.status = fromStatus ∧
        (t.updateWithStatus fromStatus).exec s faults = (.ok true, s.putTask t) := by
  rcases exec_affect (t.swap fromStatus) s faults with ⟨e, failed⟩ | ran
  · exact .inl ⟨.error e, by simp, failed⟩
  · rcases swap_cases t fromStatus s with lost | ⟨row, found, same, won⟩
    · rw [lost] at ran
      exact .inl ⟨.ok false, by simp, ran⟩
    · rw [won] at ran
      exact .inr ⟨row, found, same, ran⟩

/-- `Update` fails or writes the row, and the record says which. -/
theorem exec_update (t : Task) (s : TaskStore) (faults : Faults) :
    (∃ e, t.update.exec s faults = (.error e, s.log (.unsaved t.id))) ∨
      t.update.exec s faults = (.ok (), (s.saveTask t).log (.saved t.id)) := by
  have saving := exec_autocommit (·.saveTask t) s faults
  unfold exec at saving ⊢
  unfold Task.update
  rcases ran : autocommit (·.saveTask t) ⟨s, id, faults⟩ with ⟨outcome, c⟩
  rw [ran] at saving
  rw [bind_ok (attempt_apply ran)]
  rcases saving with ⟨e, failed⟩ | done
  · simp only [Prod.mk.injEq] at failed
    obtain ⟨rfl, same⟩ := failed
    refine .inl ⟨e, ?_⟩
    rw [← same]
    rfl
  · simp only [Prod.mk.injEq] at done
    obtain ⟨rfl, same⟩ := done
    refine .inr ?_
    rw [← same]
    rfl

/-! ## Billing -/

section
variable {P α : Type} {K : Setting TaskStore P} {I I' : P → Prop} {g : P} {cfg : TaskConfig} {task : Task}

/-- What happens beside a settlement or a refund of the task `id`. -/
inductive SideEvent (id : Int) : TaskEvent → Prop where
  | token (why : TaskBilling) (delta : Int) : SideEvent id (.token id why delta)
  | settled (delta : Int) : SideEvent id (.adjusted id .settle delta)

/-- While `I` holds of its private variable, the handler may change accounts and tokens, and
`I` still holds then. -/
structure Bookkeeping (K : Setting TaskStore P) (I : P → Prop) : Prop where
  quiet : ∀ {g s s'}, I g → K.sees g s → Quiet s s' → K.keeps s s' g ∧ I (K.moves s s' g)
  side : ∀ {g s s' id event}, I g → K.sees g s → SideEvent id event → Logged event s s' →
    K.keeps s s' g ∧ I (K.moves s s' g)

section
variable (book : Bookkeeping K I)

include book

theorem Bookkeeping.meets_quiet {act : TaskDb α} (quiet : ∀ s faults, Quiet s (act.exec s faults).2) (holds : I g) :
    (Program.store act).Meets K g fun _ => I :=
  .store fun s faults seen _ => book.quiet holds seen (quiet s faults)

/-- A query for rows; an error counts as none. -/
theorem Bookkeeping.meets_select {pick : TaskStore → List Task}
    {Q : List Task → Prop} (nothing : Q []) (picks : ∀ s, K.sees g s → Q (pick s)) (holds : I g) :
    (Program.store (read fun s => .ok (pick s))).Meets K g
      fun outcome g' => I g' ∧ Q (outcome.toOption.getD []) := by
  refine .store fun s faults seen _ => ?_
  obtain ⟨kept, still⟩ := book.quiet holds seen (quiet_read (fun s => .ok (pick s)))
  refine ⟨kept, still, ?_⟩
  rcases exec_read (fun s => .ok (pick s)) s faults with ⟨e, failed⟩ | ran
  · rw [failed]
    exact nothing
  · rw [ran]
    exact picks s seen

theorem Bookkeeping.meets_recorded {x : Db Unit} {event : TaskEvent} {id : Int}
    (side : SideEvent id event) (holds : I g) :
    (Program.store (recorded x (log · event))).Meets K g fun _ => I := by
  refine .store fun s faults seen _ => ?_
  rcases exec_recorded x (log · event) s faults with ⟨e, -, ran⟩ | ⟨-, ran⟩
  · rw [ran]
    exact book.quiet holds seen ⟨rfl, rfl⟩
  · rw [ran]
    exact book.side holds seen side ⟨rfl, rfl⟩

theorem resolveTokenKey_meets (tokenId : Int) (holds : I g) : (resolveTokenKey tokenId).Meets K g fun _ => I := by
  refine .bind (book.meets_quiet (fun _ _ => quiet_onAccounts _) holds) ?_
  intro outcome g' after
  cases outcome <;> exact after

theorem taskAdjustTokenQuota_meets (why : TaskBilling) (delta : Int)
    (holds : I g) : (taskAdjustTokenQuota cfg task why delta).Meets K g fun _ => I := by
  unfold taskAdjustTokenQuota
  split
  · exact holds
  refine .bind (resolveTokenKey_meets book _ holds) ?_
  intro tokenKey g' after
  split
  · exact after
  · exact .bind (book.meets_recorded (.token why delta) after) fun _ _ ended => ended

end

/-- A refund of a task that has a quota: it is made, and then `I'` holds, or the accounts
refuse it, and then `F` does. -/
theorem refundTaskQuota_meets {F : P → Prop} (after : Bookkeeping K I')
    (refunds : ∀ {s s'}, K.sees g s → Logged (.adjusted task.id .refund (-task.quota)) s s' →
      K.keeps s s' g ∧ I' (K.moves s s' g))
    (refused : ∀ {s s'}, K.sees g s → Quiet s s' → K.keeps s s' g ∧ F (K.moves s s' g)) (charged : task.quota ≠ 0) : (refundTaskQuota cfg task).Meets K g fun _ g' => F g' ∨ I' g' := by
  rw [refundTaskQuota, if_neg charged]
  refine .bind (Q := fun outcome g' =>
    (∃ e, outcome = .error e ∧ F g') ∨ (outcome = .ok () ∧ I' g')) ?_ ?_
  · refine .store fun s faults seen _ => ?_
    rcases exec_recorded (fundingChange cfg task (-task.quota)) (log · (.adjusted task.id .refund (-task.quota)))
      s faults with ⟨e, -, ran⟩ | ⟨-, ran⟩
    · rw [taskAdjustFunding, ran]
      exact And.imp id (fun still => .inl ⟨e, rfl, still⟩) (refused seen ⟨rfl, rfl⟩)
    · rw [taskAdjustFunding, ran]
      exact And.imp id (fun made => .inr ⟨rfl, made⟩) (refunds seen ⟨rfl, rfl⟩)
  · rintro _ g' (⟨e, rfl, still⟩ | ⟨rfl, made⟩)
    · exact .inl still
    · exact (taskAdjustTokenQuota_meets after .refund _ made).mono fun _ _ ended => .inr ended

/-- A settlement leaves the task in memory as it is, or gives it another positive quota. -/
def Requoted (task task' : Task) : Prop := ∃ quota, task' = { task with quota } ∧ (quota = task.quota ∨ 0 < quota)

theorem Requoted.refl (task : Task) : Requoted task task := ⟨task.quota, rfl, .inl rfl⟩

section
variable (book : Bookkeeping K I)
include book

theorem recalculateTaskQuota_meets (actualQuota : Int) (holds : I g) :
    (recalculateTaskQuota cfg task actualQuota).Meets K g
      fun task' g' => I g' ∧ Requoted task task' := by
  unfold recalculateTaskQuota
  split
  · exact ⟨holds, .refl task⟩
  dsimp only
  split
  · exact ⟨holds, .refl task⟩
  refine .bind (book.meets_recorded (.settled _) holds) ?_
  intro outcome g' after
  cases outcome with
  | error e => exact ⟨after, .refl task⟩
  | ok _ =>
    refine .bind (taskAdjustTokenQuota_meets book .settle _ after) ?_
    intro _ g'' ended
    exact ⟨ended, actualQuota, rfl, .inr (by omega)⟩

theorem taskGroup_meets (task : Task) (holds : I g) :
    (taskGroup task).Meets K g fun _ => I := by
  unfold taskGroup
  split
  · exact holds
  refine .bind (book.meets_quiet (fun _ _ => quiet_onAccounts _) holds) ?_
  intro outcome g' after
  cases outcome <;> exact after

theorem recalculateTaskQuotaByTokens_meets (totalTokens : Int) (holds : I g) :
    (recalculateTaskQuotaByTokens cfg task totalTokens).Meets K g
      fun task' g' => I g' ∧ Requoted task task' := by
  unfold recalculateTaskQuotaByTokens
  split
  · exact ⟨holds, .refl task⟩
  dsimp only
  split
  · exact ⟨holds, .refl task⟩
  refine .bind (taskGroup_meets book task holds) ?_
  intro group g' after
  split
  · exact ⟨after, .refl task⟩
  · exact recalculateTaskQuota_meets book _ after

end

/-- A settlement: its entry makes `I'` true, and nothing after it matters. -/
theorem settleTaskBillingOnComplete_meets (after : Bookkeeping K I') {adaptor : TaskAdaptor} {taskResult : TaskInfo}
    (settles : ∀ {s s'}, K.sees g s → Logged (.settling task.id) s s' → K.keeps s s' g ∧ I' (K.moves s s' g)) :
    (settleTaskBillingOnComplete cfg adaptor task taskResult).Meets K g
      fun task' g' => I' g' ∧ Requoted task task' := by
  refine .bind (Q := fun _ => I') ?_ ?_
  · refine .store fun s faults seen _ => ?_
    exact settles seen ⟨rfl, rfl⟩
  · intro _ g' entered
    dsimp only
    split
    · exact ⟨entered, .refl task⟩
    split
    · exact recalculateTaskQuota_meets after _ entered
    split
    · exact recalculateTaskQuotaByTokens_meets after _ entered
    · exact ⟨entered, .refl task⟩

end

theorem mem_of_timedOut {cutoffUnix : Int}
    (member : t ∈ s.timedOut cutoffUnix limit) : t ∈ s.tasks ∧ t.unfinished = true := by
  have sorted := mem_of_mem_take member
  rw [mem_insertionSort, mem_filter, Bool.and_eq_true] at sorted
  exact ⟨sorted.1, sorted.2.1⟩

theorem mem_of_unFinish (member : t ∈ s.unFinish limit) : t ∈ s.tasks ∧ t.unfinished = true := by
  have sorted := mem_of_mem_take member
  rw [mem_insertionSort, mem_filter] at sorted
  exact sorted

theorem mem_of_taskMap {tasks : List Task} {taskId : String}
    (found : taskMap tasks taskId = some t) : t ∈ tasks := by
  have inside : ∀ (l : List Task) (taskM : TaskMap),
      (∀ u t, taskM u = some t → t ∈ tasks) → (∀ t ∈ l, t ∈ tasks) →
      ∀ u t, l.foldl TaskMap.insert taskM u = some t → t ∈ tasks := by
    intro l
    induction l with
    | nil =>
      intro taskM known _
      exact known
    | cons t rest ih =>
      intro taskM known members
      apply ih
      · intro u t' here
        by_cases same : u = t.getUpstreamTaskID
        · subst same
          simp only [TaskMap.insert, Function.update_self, Option.some.injEq] at here
          subst here
          exact members t (by simp)
        · exact known u t' (by simpa [TaskMap.insert, same] using here)
      · intro t' later
        exact members t' (by simp [later])
  apply inside (named tasks) (fun _ => none) (by simp) ?_ taskId t found
  intro t member
  exact (mem_filter.mp member).1

end NewApi.Tasks
