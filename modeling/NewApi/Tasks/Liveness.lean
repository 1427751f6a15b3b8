/-
# Tasks.Liveness — when every task ends

A task ends by the answers of its upstream or, at the latest, by the timeout sweep.  Both select rows
by status and progress, and answers set the two independently: a row that is IN_PROGRESS at 100% is
never looked at again (`task_stuck`).  `task_ends` says when every task has ended after some round.

The sweep is the first thing a round does, so what the polls of the same round would make of the row
does not matter: a row that the sweep has failed is not selected (`Tracked`, with `gone`).
-/
import NewApi.Tasks.Refunds
import NewApi.Tasks.SunoRefunds

namespace NewApi.Model
open Theory List SunoDataResponse

/-- A fail reason comes with a final status, and the submit time is at most `B`. -/
def SunoDataResponse.Consistent (item : SunoDataResponse) (B : Int) : Prop :=
  (item.failReason ≠ "" → item.status.terminal = true) ∧ item.submitTime ≤ B

/-- Only a task that has ended is complete. -/
def TaskInfo.Consistent (taskResult : TaskInfo) : Prop :=
  taskResult.progress = progressComplete → taskResult.status.terminal = true

def VideoAnswer.Consistent : VideoAnswer → Prop
  | .failed => True
  | .parsed taskResult _ _ _ => taskResult.Consistent

/-- The answers of a round; no Suno task is listed twice. -/
structure PollingRound.Consistent (round : PollingRound) (B : Int) : Prop where
  items : ∀ channelId, ∀ item ∈ (round.suno channelId).listed, item.Consistent B
  once : ∀ channelId, ((round.suno channelId).listed.map taskID).Nodup
  apart : ∀ channelId channelId', channelId ≠ channelId' →
    ((round.suno channelId).listed.map taskID).Disjoint
      ((round.suno channelId').listed.map taskID)
  video : ∀ platform channelId position, (round.video platform channelId position).Consistent

end NewApi.Model

namespace NewApi.Tasks
open Theory Model List Program Task Rows

/-! ## The sweep of a round -/

/-- The store a round polls: the one after its sweep. -/
def afterSweep (cfg : TaskConfig) (clock : SweepClock) (s : TaskStore) : TaskStore :=
  ((sweepTimedOutTasks cfg clock).solo s).2

theorem solo_taskPollingRound (cfg : TaskConfig) (round : PollingRound) (s₀ : TaskStore) :
    ((taskPollingRound cfg round).solo s₀).2 =
      ((pollPlatforms cfg round ((afterSweep cfg round.clock s₀).unFinish cfg.taskQueryLimit)
        (round.platforms.list (((afterSweep cfg round.clock s₀).unFinish cfg.taskQueryLimit).map
          platform).dedup)).solo (afterSweep cfg round.clock s₀)).2 := by
  rw [taskPollingRound, Program.solo_bind]
  rfl

theorem exec_bulk (ids : List Int) (params : Task → Task) (s : TaskStore) : (taskBulkUpdateByID ids params).exec s [] =
      (.ok (), { s with tasks := s.tasks.map fun t => if t.id ∈ ids then params t else t }) := by
  unfold taskBulkUpdateByID
  split
  · rename_i nobody
    subst nobody
    simp [Sql.exec]
  · rfl

theorem id_of_videoUpdate {t updated : Task} {cfg : TaskConfig} {taskResult : TaskInfo} {now : Int}
    (switched : t.videoUpdate cfg taskResult now = some updated) : updated.id = t.id := by
  simp only [Task.videoUpdate, Option.map_eq_some_iff] at switched
  obtain ⟨progress, -, rfl⟩ := switched
  rfl

/-! ## One task -/

/-- The task has ended, or will be selected, and was submitted by `B`. -/
def Live (B : Int) (row : Task) : Prop := row.status.terminal = true ∨ row.unfinished = true ∧ row.submitTime ≤ B

/-- The rows of the task `id` are live; once it is `gone`, they have ended. -/
structure Tracked (id B : Int) (gone : Prop) (s : TaskStore) : Prop where
  keys : (s.tasks.map Task.id).Nodup
  present : id ∈ s.tasks.map Task.id
  rows : ∀ row ∈ s.tasks, row.id = id → Live B row ∧ (gone → row.status.terminal = true)

section
variable {id B : Int} {gone : Prop} {s s' : TaskStore} {t : Task} {cfg : TaskConfig}

theorem live_of_terminal (ended : t.status.terminal = true) :
    Live B t ∧ (gone → t.status.terminal = true) := ⟨.inl ended, fun _ => ended⟩

theorem Tracked.later (tracked : Tracked id B gone s) (later : Later s s') : Tracked id B gone s' := by
  obtain ⟨keys, present, rows⟩ := tracked
  rw [← later] at keys present rows
  exact ⟨keys, present, rows⟩

section
variable (tracked : Tracked id B gone s) (fits : t.id = id → Live B t ∧ (gone → t.status.terminal = true))
include tracked fits

theorem Tracked.putTask : Tracked id B gone (s.putTask t) where
  keys := (congrArg List.Nodup (map_key_put t s.tasks)).mpr tracked.keys
  present := (congrArg (id ∈ ·) (map_key_put t s.tasks)).mpr tracked.present
  rows row member same := by
    rcases mem_put member with rfl | ⟨inside, -⟩
    · exact fits same
    · exact tracked.rows row inside same

theorem Tracked.saveTask : Tracked id B gone (s.saveTask t) := by
  unfold TaskStore.saveTask
  split
  · exact tracked.putTask fits
  rename_i missing
  refine ⟨nodup_append tracked.keys (Option.not_isSome_iff_eq_none.mp missing), ?_, ?_⟩
  · rw [map_append, mem_append]
    exact .inl tracked.present
  · intro row member same
    rcases mem_append.mp member with inside | last
    · exact tracked.rows row inside same
    · rw [mem_singleton] at last
      subst last
      exact fits same

end

theorem bulk_tracked (tracked : Tracked id B gone s) (ids : List Int) (reason : Option String) :
    (store (taskBulkUpdateByID ids (Task.bulkFailed reason))).Meets (.unfailing _) s
      fun _ => Tracked id B gone := by
  refine unfailing_store ?_
  rw [exec_bulk]
  have keyed : (s.tasks.map fun t => if t.id ∈ ids then t.bulkFailed reason else t).map Task.id =
      s.tasks.map Task.id := by
    rw [map_map]
    refine map_congr_left fun t _ => ?_
    simp only [Function.comp]
    split <;> rfl
  refine ⟨(congrArg List.Nodup keyed).mpr tracked.keys, (congrArg (id ∈ ·) keyed).mpr tracked.present, ?_⟩
  intro row member same
  obtain ⟨t, inside, rfl⟩ := mem_map.mp member
  by_cases named : t.id ∈ ids
  · rw [if_pos named]
    exact live_of_terminal rfl
  · rw [if_neg named] at same ⊢
    exact tracked.rows t inside same

/-- A sweep that still has the row of the task before it, unless the task has ended. -/
def Pending (id : Int) (tasks : List Task) (s : TaskStore) : Prop :=
  ∀ row ∈ s.tasks, row.id = id → row.status.terminal = true ∨ row ∈ tasks

/-- A sweep that has the row of the task before it ends the task. -/
theorem sweepTasks_tracked (now : Int) {tasks : List Task} (tracked : Tracked id B False s) :
    (sweepTasks cfg now tasks).Meets (.unfailing _) s fun _ s' =>
      Tracked id B False s' ∧ (Pending id tasks s → Pending id [] s') := by
  induction tasks generalizing s with
  | nil => exact ⟨tracked, fun pending => pending⟩
  | cons t rest ih =>
    refine .bind (Q := fun _ s' => Tracked id B False s' ∧ (Pending id (t :: rest) s → Pending id rest s')) ?_ ?_
    · refine (sweepTask_unfailing now t).mono ?_
      rintro _ s' (⟨rfl, other⟩ | later)
      · refine ⟨tracked, fun pending row member same => ?_⟩
        refine (pending row member same).imp_right fun among => ?_
        -- the row of the task itself would have been written
        rcases mem_cons.mp among with rfl | inside
        · exact absurd rfl (other row (find_of_mem tracked.keys member))
        · exact inside
      · refine ⟨(tracked.putTask fun _ => live_of_terminal rfl).later later, ?_⟩
        intro pending row member same
        rw [later] at member
        rcases mem_put member with rfl | ⟨inside, other⟩
        · exact .inl rfl
        · refine (pending row inside same).imp_right fun among => ?_
          rcases mem_cons.mp among with rfl | after
          · exact absurd rfl other
          · exact after
    · rintro _ s' ⟨tracked', step⟩
      refine (ih tracked').mono ?_
      rintro _ s'' ⟨after, ends⟩
      exact ⟨after, fun pending => ends (step pending)⟩

def overdue (cfg : TaskConfig) (clock : SweepClock) (s : TaskStore) : List Task :=
  s.tasks.filter fun t =>
    t.unfinished && decide (t.submitTime < clock.started - cfg.taskTimeoutMinutes * 60)

variable {clock : SweepClock} {item : SunoDataResponse} {channels : List Int}

theorem mem_timedOut (few : (overdue cfg clock s).length ≤ 100) (member : t ∈ overdue cfg clock s) :
    t ∈ s.timedOut (clock.started - cfg.taskTimeoutMinutes * 60) 100 := by
  have all : s.timedOut (clock.started - cfg.taskTimeoutMinutes * 60) 100 =
      (overdue cfg clock s).insertionSort submitsBefore := by
    apply take_of_length_le
    rw [length_insertionSort]
    exact few
  rw [all, mem_insertionSort]
  exact member

/-- **The sweep ends what has timed out.** -/
theorem afterSweep_tracked (timeout : 0 < cfg.taskTimeoutMinutes)
    (few : (overdue cfg clock s).length ≤ 100) (tracked : Tracked id B False s) :
    Tracked id B False (afterSweep cfg clock s) ∧ (B < clock.started - cfg.taskTimeoutMinutes * 60 →
        ∀ row ∈ (afterSweep cfg clock s).tasks, row.id = id → row.status.terminal = true) := by
  have swept : (sweepTimedOutTasks cfg clock).Meets (.unfailing _) s fun _ s' =>
      Tracked id B False s' ∧
        (Pending id (s.timedOut (clock.started - cfg.taskTimeoutMinutes * 60) 100) s → Pending id [] s') := by
    rw [sweepTimedOutTasks, if_neg (by omega)]
    refine .bind (Q := fun outcome s' => s' = s ∧
      outcome = .ok (s.timedOut (clock.started - cfg.taskTimeoutMinutes * 60) 100)) ?_ ?_
    · exact unfailing_store ⟨rfl, rfl⟩
    · rintro _ _ ⟨rfl, rfl⟩
      exact sweepTasks_tracked clock.now tracked
  obtain ⟨after, ends⟩ := swept.solo_unfailing
  refine ⟨after, fun late row member same => ?_⟩
  have pending : Pending id (s.timedOut (clock.started - cfg.taskTimeoutMinutes * 60) 100) s := by
    intro row member same
    refine (tracked.rows row member same).1.imp_right fun going => mem_timedOut few ?_
    simp only [overdue, mem_filter, Bool.and_eq_true, decide_eq_true_eq]
    exact ⟨member, going.1, by omega⟩
  exact (ends pending row member same).resolve_right (not_mem_nil)

/-! ## Suno -/

def Fresh (B : Int) (gone : Prop) (t : Task) : Prop := ¬ gone ∧ t.unfinished = true ∧ t.submitTime ≤ B

theorem live_sunoUpdate (fresh : Fresh B gone t) (plain : item.Consistent B) : Live B (t.sunoUpdate item) := by
  by_cases ended : (t.sunoUpdate item).status.terminal = true
  · exact .inl ended
  obtain ⟨-, going, submitted⟩ := fresh
  obtain ⟨final, bounded⟩ := plain
  have kept : ¬ (item.fails t = true ∨ item.status = .success) := by
    rintro (fails | success)
    · simp only [SunoDataResponse.fails, Bool.or_eq_true, decide_eq_true_eq] at fails
      rcases fails with reason | failed
      · -- a final status is not the empty one
        have terminal := final reason
        apply ended
        simp only [sunoUpdate]
        rw [if_pos]
        · exact terminal
        · rintro empty
          rw [empty] at terminal
          cases terminal
      · apply ended
        simp only [sunoUpdate, failed, TaskStatus.terminal_failure]
    · apply ended
      simp [sunoUpdate, success, TaskStatus.empty]
  refine .inr ⟨?_, ?_⟩
  · simp only [unfinished, Bool.and_eq_true] at going ⊢
    refine ⟨?_, by simpa using ended⟩
    simp only [sunoUpdate, if_neg kept]
    exact going.1
  · simp only [sunoUpdate]
    split
    · exact bounded
    · exact submitted

theorem updateSunoTask_tracked (tracked : Tracked id B gone s)
    (fresh : t.id = id → Fresh B gone t) (plain : item.Consistent B) :
    (updateSunoTask cfg t item).Meets (.unfailing _) s fun _ => Tracked id B gone := by
  have fits : (t.sunoUpdate item).id = id →
      Live B (t.sunoUpdate item) ∧ (gone → (t.sunoUpdate item).status.terminal = true) := fun same =>
    ⟨live_sunoUpdate (fresh same) plain, fun this => absurd this (fresh same).1⟩
  unfold updateSunoTask
  split
  · refine .bind (Q := fun _ => Tracked id B gone) ?_ ?_
    · split
      · exact refundTaskQuota_later.mono fun _ _ after => tracked.later after
      · exact tracked
    · intro _ m after
      refine .bind (unfailing_store ?_) fun _ _ ended => ended
      rcases exec_update (t.sunoUpdate item) m [] with ⟨e, ran⟩ | ran
      · rw [ran]
        exact after.later ((Later.refl m).logged ⟨rfl, rfl⟩)
      · rw [ran]
        exact (after.saveTask fits).later ((Later.refl _).logged ⟨rfl, rfl⟩)
  · exact tracked

/-- The copies that the items are for are as they were selected. -/
def FreshFor (id B : Int) (gone : Prop) (taskM : TaskMap) (items : List SunoDataResponse) : Prop :=
  ∀ item ∈ items, ∀ t, taskM item.taskID = some t → t.id = id → Fresh B gone t

variable {taskM : TaskMap}

theorem lookup_tracked (R : TaskMap → Prop) (channelId : Int) (taskIds : List String) :
    KeptByLookup (.unfailing _) cfg (fun taskM s => Tracked id B gone s ∧ R taskM) channelId taskIds := by
  rintro taskM s ⟨tracked, rest⟩
  have after : Tracked id B gone ((cacheGetChannel cfg.memoryCacheEnabled channelId).exec s []).2 :=
    tracked.later ((Later.refl s).quiet (quiet_cacheGetChannel _ channelId))
  refine unfailing_store ⟨⟨after, rest⟩, fun _ reason => ?_⟩
  exact .bind (bulk_tracked after _ _) fun _ _ ended => ⟨ended, rest⟩

variable {taskIds : List String} {taskResult : TaskInfo} {adaptor : TaskAdaptor}
  {platform : TaskPlatform} {round : PollingRound}

theorem updateSunoChannels_tracked {taskIds : Int → List String}
    (consistent : round.Consistent B) (distinct : channels.Nodup) (tracked : Tracked id B gone s)
    (fresh : ∀ channelId ∈ channels, FreshFor id B gone taskM (round.suno channelId).listed) :
    (updateSunoChannels cfg round.suno taskIds taskM channels).Meets (.unfailing _) s
      fun _ => Tracked id B gone := by
  -- no item is listed twice, so the copies that the later ones are for stay as they were
  refine (updateSunoChannels_loop (N := fun items taskM s => Tracked id B gone s ∧ FreshFor id B gone taskM items ∧
    (items.map SunoDataResponse.taskID).Nodup ∧ ∀ item ∈ items, item.Consistent B) ?_ ?_ ?_
    ⟨tracked, ?_, ?_, ?_⟩).mono fun _ _ ⟨_, after⟩ => after.1
  · rintro items rest taskM s ⟨tracked, fresh, once, plain⟩
    rw [map_append] at once
    exact ⟨tracked, fun item later => fresh item (by simp [later]), once.of_append_right,
      fun item later => plain item (by simp [later])⟩
  · rintro item rest taskM t s found ⟨tracked, fresh, once, plain⟩
    rw [map_cons, nodup_cons] at once
    refine (updateSunoTask_tracked tracked (fresh item (by simp) t found) (plain item (by simp))).mono ?_
    refine fun t' s' after => ⟨after, fun item' later => ?_, once.2, fun item' later => plain item' (by simp [later])⟩
    have other : item'.taskID ≠ item.taskID := fun same =>
      once.1 (by rw [← same]; exact mem_map_of_mem later)
    rw [Function.update_of_ne other]
    exact fresh item' (by simp [later])
  · exact fun channelId items => lookup_tracked _ channelId _
  · intro item member
    obtain ⟨channelId, among, listed⟩ := mem_flatMap.mp member
    exact fresh channelId among item listed
  · rw [map_flatMap, nodup_flatMap]
    exact ⟨fun channelId _ => consistent.once channelId, distinct.imp fun apart => consistent.apart _ _ apart⟩
  · intro item member
    obtain ⟨channelId, -, listed⟩ := mem_flatMap.mp member
    exact consistent.items channelId item listed

/-! ## Video -/

/-- A copy of the task, however often it was updated. -/
def Stale (B : Int) (gone : Prop) (t : Task) : Prop := ¬ gone ∧ t.submitTime ≤ B

theorem consistent_effectiveResult {taskResult' : TaskInfo} {error : VideoErrorBody}
    (plain : taskResult.Consistent) (effective : effectiveResult taskResult error = some taskResult') :
    taskResult'.Consistent := by
  unfold effectiveResult at effective
  split at effective
  · split at effective
    · cases effective
      exact plain
    · split at effective
      · cases effective
      · cases effective
        exact fun _ => rfl
    · cases effective
      exact fun _ => rfl
  · cases effective
    exact plain

theorem live_videoUpdate {updated : Task} {now : Int} (submitted : t.submitTime ≤ B) (plain : taskResult.Consistent)
    (switched : t.videoUpdate cfg taskResult now = some updated) : Live B updated ∧ updated.submitTime ≤ B := by
  simp only [videoUpdate, Option.map_eq_some_iff] at switched
  obtain ⟨progress, known, rfl⟩ := switched
  refine ⟨?_, submitted⟩
  by_cases ended : taskResult.status.terminal = true
  · exact .inl ended
  refine .inr ⟨?_, submitted⟩
  simp only [unfinished, Bool.and_eq_true, decide_eq_true_eq]
  refine ⟨?_, by simpa using ended⟩
  split
  · exact fun complete => ended (plain complete)
  · -- the progress a status stands for is below 100%
    cases status : taskResult.status <;> rw [status] at known ended <;>
      simp only [statusProgress, Option.some.injEq, reduceCtorEq] at known <;>
      first | (subst known; decide) | exact absurd rfl ended

theorem writeVideoTask_tracked {snap : TaskSnapshot}
    (tracked : Tracked id B gone s) (fits : t.id = id → Live B t ∧ Stale B gone t) :
    (writeVideoTask cfg adaptor snap t taskResult).Meets (.unfailing _) s
      fun t' s' => Tracked id B gone s' ∧ Requoted t t' := by
  have billing : ∀ {m : TaskStore}, Tracked id B gone m →
      (billVideoTask cfg adaptor t taskResult).Meets (.unfailing _) m
        fun t' s' => Tracked id B gone s' ∧ Requoted t t' := fun after =>
    billVideoTask_later.mono fun _ _ ended => ⟨after.later ended.1, ended.2⟩
  have swapping : (store (t.updateWithStatus snap.status)).Meets (.unfailing _) s
      fun _ => Tracked id B gone := by
    refine (updateWithStatus_unfailing t snap.status).mono ?_
    rintro _ m (⟨-, rfl, -⟩ | ⟨-, rfl⟩)
    · exact tracked
    · exact tracked.putTask fun same => ⟨(fits same).1, fun this => absurd this (fits same).2.1⟩
  unfold writeVideoTask
  split
  · refine .bind swapping ?_
    intro outcome m after
    split
    · exact billing after
    · exact ⟨after, .refl t⟩
    · exact ⟨after, .refl t⟩
  split
  · refine .bind swapping ?_
    intro _ m after
    exact billing after
  · exact billing tracked

/-- The copies of the task in memory. -/
def StaleIn (id B : Int) (gone : Prop) (taskM : TaskMap) : Prop :=
  ∀ upstreamID t, taskM upstreamID = some t → t.id = id → Stale B gone t

theorem StaleIn.update (stale : StaleIn id B gone taskM) {upstreamID : String} {t' : Task}
    (fits : t'.id = id → Stale B gone t') : StaleIn id B gone (Function.update taskM upstreamID (some t')) := by
  intro other t found same
  by_cases this : other = upstreamID
  · subst this
    rw [Function.update_self, Option.some.injEq] at found
    subst found
    exact fits same
  · rw [Function.update_of_ne this] at found
    exact stale other t found same

theorem updateVideoSingleTask_tracked {answer : VideoAnswer} {taskId : String}
    (plain : answer.Consistent) (tracked : Tracked id B gone s) (stale : StaleIn id B gone taskM) :
    (updateVideoSingleTask cfg adaptor answer taskId taskM).Meets (.unfailing _) s
      fun taskM' s' => Tracked id B gone s' ∧ StaleIn id B gone taskM' := by
  unfold updateVideoSingleTask
  split
  · rename_i task taskResult body error now found
    have mine := stale taskId task found
    dsimp only
    split
    · exact ⟨tracked, stale.update mine⟩
    rename_i effective chosen
    split
    · exact ⟨tracked, stale.update mine⟩
    rename_i updated switched
    have id_eq : updated.id = { task with data := body }.id := id_of_videoUpdate switched
    have fits : updated.id = id → Live B updated ∧ Stale B gone updated := by
      intro same
      obtain ⟨open_, submitted⟩ := mine (id_eq.symm.trans same)
      obtain ⟨live, still⟩ := live_videoUpdate (t := { task with data := body }) submitted
        (consistent_effectiveResult plain chosen) switched
      exact ⟨live, open_, still⟩
    refine .bind (writeVideoTask_tracked tracked fits) ?_
    rintro _ s' ⟨after, quota, rfl, -⟩
    exact ⟨after, stale.update fun same => (fits same).2⟩
  · exact ⟨tracked, stale⟩

theorem updateVideoChannels_tracked {answers : Int → Nat → VideoAnswer} {taskIds : Int → List String}
    (plain : ∀ channelId position, (answers channelId position).Consistent)
    (tracked : Tracked id B gone s) (stale : StaleIn id B gone taskM) :
    (updateVideoChannels cfg platform answers taskIds taskM channels).Meets (.unfailing _) s
      fun _ => Tracked id B gone := by
  refine (updateVideoChannels_loop (N := fun _ taskM s => Tracked id B gone s ∧ StaleIn id B gone taskM)
    (fun _ _ _ _ holds => holds) ?_ (fun channelId _ _ => lookup_tracked _ channelId _)
    ⟨tracked, stale⟩).mono fun _ _ ⟨_, after⟩ => after.1
  rintro adaptor channelId position taskId _ taskM s ⟨tracked, stale⟩
  exact updateVideoSingleTask_tracked (plain channelId position) tracked stale

variable {polled : List Task}

section
variable (consistent : round.Consistent B) (fresh : ∀ t ∈ polled, t.id = id → Fresh B gone t)
  (tracked : Tracked id B gone s)
include consistent fresh tracked

theorem pollPlatform_tracked :
    (pollPlatform cfg round platform (platformTasks polled platform)).Meets (.unfailing _) s
      fun _ => Tracked id B gone := by
  have copies : ∀ upstreamID t, taskMap (platformTasks polled platform) upstreamID = some t →
      t.id = id → Fresh B gone t := fun _ t found same =>
    fresh t (mem_of_mem_filter (mem_of_taskMap found)) same
  refine .bind (bulk_tracked tracked _ _) ?_
  intro _ m after
  cases platform with
  | midjourney => exact after
  | suno =>
    apply updateSunoChannels_tracked consistent ?_ after
    · intro channelId _ item _ t found
      exact copies _ t found
    · exact ((round.channels .suno).perm _).nodup_iff.mpr (nodup_dedup _)
  | video name =>
    refine .bind (updateVideoChannels_tracked (consistent.video (.video name)) after ?_) fun _ _ ended => ended
    intro upstreamID t found same
    obtain ⟨open_, -, submitted⟩ := copies upstreamID t found same
    exact ⟨open_, submitted⟩

theorem pollPlatforms_tracked {platforms : List TaskPlatform} :
    (pollPlatforms cfg round polled platforms).Meets (.unfailing _) s
      fun _ => Tracked id B gone :=
  pollPlatforms_loop (fun _ _ tracked => pollPlatform_tracked consistent fresh tracked) tracked

end

/-- **One round**: the task stays live, and has ended if it has timed out. -/
theorem round_tracked (timeout : 0 < cfg.taskTimeoutMinutes) (consistent : round.Consistent B)
    (few : (overdue cfg round.clock s).length ≤ 100) (tracked : Tracked id B False s) :
    Tracked id B (B < round.clock.started - cfg.taskTimeoutMinutes * 60) ((taskPollingRound cfg round).solo s).2 := by
  obtain ⟨swept, ends⟩ := afterSweep_tracked timeout few tracked
  rw [solo_taskPollingRound]
  apply Program.Meets.solo_unfailing (Q := fun _ => Tracked id B _)
  apply pollPlatforms_tracked consistent
  · intro t selected same
    obtain ⟨inside, going⟩ := mem_of_unFinish selected
    have open_ := not_terminal_of_unfinished going
    refine ⟨fun late => ?_, going, ?_⟩
    · rw [ends late t inside same] at open_
      cases open_
    · rcases (swept.rows t inside same).1 with ended | alive
      · rw [ended] at open_
        cases open_
      · exact alive.2
  · exact ⟨swept.keys, swept.present, fun row member same =>
      ⟨(swept.rows row member same).1, fun late => ends late row member same⟩⟩

end

/-- Rounds one after another, with whatever else happens between them: the store before each
round, and the rows that are live after one are live before the next. -/
structure PollingRun (cfg : TaskConfig) (B : Int) (rounds : Nat → PollingRound) (store : Nat → TaskStore) :
    Prop where
  keys : ∀ n, ((store n).tasks.map Task.id).Nodup
  between : ∀ n id row, ((taskPollingRound cfg (rounds n)).solo (store n)).2.task id = some row →
    Live B row → ∃ row', (store (n + 1)).task id = some row' ∧ Live B row'

section
variable {cfg : TaskConfig} {B id : Int} {rounds : Nat → PollingRound} {store : Nat → TaskStore} {s : TaskStore}
  {row : Task}

theorem Tracked.task {gone : Prop} (tracked : Tracked id B gone s) :
    ∃ row, s.task id = some row ∧ Live B row ∧ (gone → row.status.terminal = true) := by
  obtain ⟨row, member, same⟩ := mem_map.mp tracked.present
  have found := find_of_mem tracked.keys member
  rw [same] at found
  exact ⟨row, found, tracked.rows row member same⟩

theorem tracked_of_task (keys : (s.tasks.map Task.id).Nodup)
    (found : s.task id = some row) (live : Live B row) : Tracked id B False s := by
  obtain ⟨member, same⟩ := mem_of_find found
  refine ⟨keys, by rw [← same]; exact mem_map_of_mem member, fun row' inside here => ⟨?_, False.elim⟩⟩
  rw [inj_on_of_nodup_map keys inside member (here.trans same.symm)]
  exact live

variable (run : PollingRun cfg B rounds store) (timeout : 0 < cfg.taskTimeoutMinutes)
  (consistent : ∀ n, (rounds n).Consistent B)
include run timeout consistent

theorem PollingRun.tracked (few : ∀ n, (overdue cfg (rounds n).clock (store n)).length ≤ 100)
    (found : (store 0).task id = some row) (live : Live B row) (n : Nat) : Tracked id B False (store n) := by
  induction n with
  | zero => exact tracked_of_task (run.keys 0) found live
  | succ n ih =>
    obtain ⟨row', here, live', -⟩ := (round_tracked timeout (consistent n) (few n) ih).task
    obtain ⟨row'', there, live''⟩ := run.between n id row' here live'
    exact tracked_of_task (run.keys (n + 1)) there live''

/-- **Every task ends**: after some round it is SUCCESS or FAILURE. -/
theorem task_ends (time : ∀ T, ∃ n, T < (rounds n).clock.started)
    (few : ∀ n, (overdue cfg (rounds n).clock (store n)).length ≤ 100) {row : Task}
    (found : (store 0).task id = some row) (live : Live B row) :
    ∃ n row', ((taskPollingRound cfg (rounds n)).solo (store n)).2.task id = some row' ∧
      (row'.status = .success ∨ row'.status = .failure) := by
  obtain ⟨n, late⟩ := time (B + cfg.taskTimeoutMinutes * 60)
  have tracked := run.tracked timeout consistent few found live n
  obtain ⟨row', here, -, ends⟩ := (round_tracked timeout (consistent n) (few n) tracked).task
  exact ⟨n, row', here, (TaskStatus.terminal_iff.mp (ends (by omega))).symm⟩

end

/-! ## Two runs -/

/-- A round finds nothing to do where no row is unfinished. -/
theorem round_idle {s : TaskStore} (finished : ∀ t ∈ s.tasks, t.unfinished = false) (cfg : TaskConfig)
    (round : PollingRound) : ((taskPollingRound cfg round).solo s).2 = s := by
  have nothing : s.tasks.filter unfinished = [] := by
    rw [filter_eq_nil_iff]
    intro t member
    simp [finished t member]
  have timed : ∀ cutoff, s.timedOut cutoff 100 = [] := by
    intro cutoff
    have none_ : (s.tasks.filter fun t => t.unfinished && decide (t.submitTime < cutoff)) = [] := by
      rw [filter_eq_nil_iff]
      intro t member
      simp [finished t member]
    simp [TaskStore.timedOut, none_]
  have swept : afterSweep cfg round.clock s = s := by
    unfold afterSweep sweepTimedOutTasks
    split
    · rfl
    · show ((sweepTasks cfg round.clock.now (s.timedOut _ 100)).solo s).2 = s
      rw [timed]
      rfl
  have selected : s.unFinish cfg.taskQueryLimit = [] := by simp [TaskStore.unFinish, nothing]
  rw [solo_taskPollingRound, swept, selected]
  have order : round.platforms.list ([] : List TaskPlatform) = [] := perm_nil.mp (round.platforms.perm [])
  simp only [map_nil, dedup_nil, order]
  rfl

def hourly (suno : Int → SunoAnswer) (video : TaskPlatform → Int → Nat → VideoAnswer) (n : Nat) : PollingRound where
  clock := ⟨1800000060 + 3600 * n, 1800000060 + 3600 * n⟩
  suno := suno
  video := video
  platforms := .inserted
  channels _ := .inserted

theorem hourly_unbounded (suno : Int → SunoAnswer) (video : TaskPlatform → Int → Nat → VideoAnswer) (T : Int) :
    ∃ n, T < (hourly suno video n).clock.started := by
  refine ⟨T.toNat, ?_⟩
  simp only [hourly]
  omega

def clipTask : Task :=
  ⟨2, "", .video "50", 1, "default", 1, 50, .inProgress, "", 1800000000, 0, 0, "30%", "",
    ⟨"video", "", "wallet", 0, 7, none⟩, []⟩

/-- The song of `songStore` beside a video on the same channel, both under way. -/
def busyStore : TaskStore := { songStore with
  tasks := [songTask, clipTask] }

/-- The stores of a run in which nothing is left to do after two rounds. -/
def settlesAfterTwo (rounds : Nat → PollingRound) : Nat → TaskStore
  | 0 => busyStore
  | 1 => ((taskPollingRound sunoConfig (rounds 0)).solo busyStore).2
  | _ + 2 => ((taskPollingRound sunoConfig (rounds 1)).solo
      ((taskPollingRound sunoConfig (rounds 0)).solo busyStore).2).2

section
variable {rounds : Nat → PollingRound}

theorem settlesAfterTwo_add_two (n : Nat) : settlesAfterTwo rounds (n + 2) = settlesAfterTwo rounds 2 := rfl

/-- Each store is what the round before it has left. -/
theorem settlesAfterTwo_succ (finished : ∀ t ∈ (settlesAfterTwo rounds 2).tasks, t.unfinished = false)
    (n : Nat) : settlesAfterTwo rounds (n + 1) =
      ((taskPollingRound sunoConfig (rounds n)).solo (settlesAfterTwo rounds n)).2 := by
  rcases n with _ | _ | n
  · rfl
  · rfl
  · rw [settlesAfterTwo_add_two n, round_idle finished]
    rfl

theorem run_settlesAfterTwo {B : Int} (keys₁ : ((settlesAfterTwo rounds 1).tasks.map Task.id).Nodup)
    (keys₂ : ((settlesAfterTwo rounds 2).tasks.map Task.id).Nodup)
    (finished : ∀ t ∈ (settlesAfterTwo rounds 2).tasks, t.unfinished = false) :
    PollingRun sunoConfig B rounds (settlesAfterTwo rounds) := by
  constructor
  · intro n
    rcases n with _ | _ | n
    · rw [settlesAfterTwo]
      decide
    · exact keys₁
    · rw [settlesAfterTwo_add_two n]
      exact keys₂
  · intro n id row found live
    rw [← settlesAfterTwo_succ finished] at found
    exact ⟨row, found, live⟩

theorem few_settlesAfterTwo (few₁ : (settlesAfterTwo rounds 1).tasks.length ≤ 100)
    (few₂ : (settlesAfterTwo rounds 2).tasks.length ≤ 100) (n : Nat) :
    (overdue sunoConfig (rounds n).clock (settlesAfterTwo rounds n)).length ≤ 100 := by
  refine (length_filter_le _ _).trans ?_
  rcases n with _ | _ | n
  · rw [settlesAfterTwo]
    decide
  · exact few₁
  · rw [settlesAfterTwo_add_two n]
    exact few₂

end

/-- The upstream of the video says 50% all the time, the one of the song nothing at all. -/
def slowRounds : Nat → PollingRound := hourly (fun _ => .failed)
  fun _ _ _ => .parsed ⟨.inProgress, "", "", "50%", 0⟩ [] .unrecognized 1800000060

/-- An hour later both have timed out. -/
theorem task_ends_timedOut :
    (∃ n row, ((taskPollingRound sunoConfig (slowRounds n)).solo (settlesAfterTwo slowRounds n)).2.task 2 =
      some row ∧ (row.status = .success ∨ row.status = .failure)) ∧
    ((settlesAfterTwo slowRounds 1).tasks.map fun t => (t.status, t.progress)) =
      [(.inProgress, "0%"), (.inProgress, "50%")] ∧
    ((settlesAfterTwo slowRounds 2).tasks.map fun t => (t.status, t.progress)) =
      [(.failure, "100%"), (.failure, "100%")] := by
  refine ⟨?_, by decide +kernel, by decide +kernel⟩
  have run : PollingRun sunoConfig 1800000000 slowRounds (settlesAfterTwo slowRounds) :=
    run_settlesAfterTwo (by decide +kernel) (by decide +kernel) (by decide +kernel)
  have found : (settlesAfterTwo slowRounds 0).task 2 = some clipTask := by decide +kernel
  refine task_ends run (by decide) (fun n => ?_) (hourly_unbounded _ _)
    (few_settlesAfterTwo (by decide +kernel) (by decide +kernel)) found (.inr ⟨by decide, by decide⟩)
  exact ⟨by simp [slowRounds, hourly, SunoAnswer.listed], by simp [slowRounds, hourly, SunoAnswer.listed],
    by simp [slowRounds, hourly, SunoAnswer.listed], fun _ _ _ complete => absurd complete (by decide)⟩

/-- The upstream of the video says 100% and in progress; the one of the song gives a reason why
it has failed, and in progress too. -/
def halfDoneRounds : Nat → PollingRound :=
  hourly (fun _ => .items [⟨"song", .inProgress, "out of credits", 1800000000, 0, 0, []⟩])
    fun _ _ _ => .parsed ⟨.inProgress, "", "", "100%", 0⟩ [] .unrecognized 1800000060

/-- **Neither ends**: the rounds go on, an hour apart, and nobody looks at them again. -/
theorem task_stuck : ∃ rounds store, PollingRun sunoConfig 1800000000 rounds store ∧ 0 < sunoConfig.taskTimeoutMinutes ∧
      (∀ T, ∃ n, T < (rounds n).clock.started) ∧ (∀ n, (overdue sunoConfig (rounds n).clock (store n)).length ≤ 100) ∧
      (∀ row ∈ (store 0).tasks, Live 1800000000 row) ∧
      ∀ n, (((taskPollingRound sunoConfig (rounds n)).solo (store n)).2.tasks.map
        fun t => (t.id, t.status, t.progress)) = [(1, .inProgress, "100%"), (2, .inProgress, "100%")] := by
  have finished : ∀ t ∈ (settlesAfterTwo halfDoneRounds 2).tasks, t.unfinished = false := by decide +kernel
  refine ⟨halfDoneRounds, settlesAfterTwo halfDoneRounds,
    run_settlesAfterTwo (by decide +kernel) (by decide +kernel) finished, by decide,
    hourly_unbounded _ _, few_settlesAfterTwo (by decide +kernel) (by decide +kernel), ?_, fun n => ?_⟩
  · have going : ∀ row ∈ (settlesAfterTwo halfDoneRounds 0).tasks,
        row.unfinished = true ∧ row.submitTime ≤ 1800000000 := by decide +kernel
    exact fun row member => .inr (going row member)
  · rw [← settlesAfterTwo_succ finished]
    rcases n with _ | n
    · decide +kernel
    · rw [settlesAfterTwo_add_two n]
      decide +kernel

end NewApi.Tasks
