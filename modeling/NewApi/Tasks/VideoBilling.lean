/-
# Tasks.VideoBilling — a video task is billed at most once

Any number of nodes sweep and poll the same table, each on copies it has read earlier.  Only one of
them moves a row from an unfinished status to SUCCESS or FAILURE, by the compare-and-swap, and only
that one goes on to bill the task: it holds a permit (`Permits`) from the step that moved the row
(`transition`) to the step that bills it.  `Billed`: only the mover may hold a permit, a task that was
billed has no permit left, and the row of a task that was moved has ended.
-/
import NewApi.Tasks.Calls

namespace NewApi.Model.Task

/-- The row without the columns that video polling changes. -/
def fixed (t : Task) : Task :=
  { t with
    status := .notStart
    failReason := ""
    startTime := 0
    finishTime := 0
    progress := ""
    privateData := { t.privateData with resultURL := "" }
    data := [] }

@[simp] theorem getUpstreamTaskID_fixed (t : Task) : t.fixed.getUpstreamTaskID = t.getUpstreamTaskID := rfl

end NewApi.Model.Task

namespace NewApi.Tasks
open Theory Model Function Pool List

/-- Which of the selected tasks a node asks for, and in what order: the maps of the loop are
ranged over in any order, and a channel may drop out. -/
structure Visit where
  list : List String → List String
  subperm : ∀ ids, (list ids).Subperm ids

inductive VideoHandler where
  | sweep (clock : SweepClock)
  | poll (platform : TaskPlatform) (adaptor : TaskAdaptor) (visit : Visit)
      (answers : Nat → VideoAnswer)

def VideoHandler.program (cfg : TaskConfig) : VideoHandler → Program TaskStore Unit
  | .sweep clock => sweepTimedOutTasks cfg clock
  | .poll platform adaptor visit answers => do
      let allTasks := (← Program.store (getAllUnFinishSyncTasks cfg.taskQueryLimit)).toOption.getD []
      let tasks := platformTasks allTasks platform
      let _ ← updateVideoEach cfg adaptor answers (taskMap tasks)
        (visit.list ((named tasks).map Task.getUpstreamTaskID))
      .done ()

/-! ## Transitions and bills -/

def billingOf : TaskStatus → Option TaskBilling
  | .success => some .settle
  | .failure => some .refund
  | _ => none

theorem billingOf_eq_none {status : TaskStatus} (going : status.terminal = false) : billingOf status = none := by
  cases status <;> simp_all [billingOf]

/-- How a step moved the row of a task from an unfinished status to a final one. -/
def transition (s s' : TaskStore) (id : Int) : Option TaskBilling :=
  match s.task id, s'.task id with
  | some old, some new => if old.status.terminal then none else billingOf new.status
  | _, _ => none

variable {s s' : TaskStore}

theorem transition_of_same {id : Int} (same : s'.task id = s.task id) : transition s s' id = none := by
  unfold transition
  rw [same]
  cases s.task id with
  | none => rfl
  | some row =>
    cases ended : row.status.terminal with
    | true => simp [ended]
    | false => simp [billingOf_eq_none ended]

/-- A step that moved a row found it unfinished and left it ended. -/
theorem ended_of_transition {id : Int} {kind : TaskBilling}
    (moved : transition s s' id = some kind) : (∃ row, s.task id = some row ∧ row.status.terminal = false) ∧
      ∃ row, s'.task id = some row ∧ row.status.terminal = true := by
  unfold transition at moved
  split at moved
  · rename_i old new before after
    split at moved
    · cases moved
    · rename_i going
      refine ⟨⟨old, before, by simpa using going⟩, new, after, ?_⟩
      by_contra still
      rw [billingOf_eq_none (by simpa using still)] at moved
      cases moved
  · cases moved

/-- The event that bills a task: the entry of a settlement, or a refund. -/
def bill : TaskEvent → Option (Int × TaskBilling)
  | .settling id => some (id, .settle)
  | .adjusted id .refund _ => some (id, .refund)
  | _ => none

theorem bill_of_side {id : Int} {event : TaskEvent} (side : SideEvent id event) : bill event = none := by
  cases side <;> rfl

def newBills (s s' : TaskStore) : List (Int × TaskBilling) := (s'.history.drop s.history.length).filterMap bill

theorem newBills_eq {events : List TaskEvent}
    (grown : s'.history = s.history ++ events) : newBills s s' = events.filterMap bill := by
  simp [newBills, grown]

/-! ## What a handler knows -/

/-- What everyone knows of the table: ids are unique, only the tasks `open_` can be selected,
and the other columns of a row are those of `base`. -/
structure Known (open_ : Int → Prop) (base : Int → Task) (s : TaskStore) : Prop where
  keys : (s.tasks.map Task.id).Nodup
  unfinished : ∀ row ∈ s.tasks, row.unfinished = true → open_ row.id
  fixed : ∀ row ∈ s.tasks, row.fixed = base row.id

/-- A copy of an unfinished row, however old. -/
structure Copy (open_ : Int → Prop) (base : Int → Task) (t : Task) : Prop where
  going : t.status.terminal = false
  opened : open_ t.id
  fixed : t.fixed = base t.id

/-- The tasks a handler has moved and not billed yet. -/
abbrev Permits := Int → Option TaskBilling

def Permits.after (permits : Permits) (s s' : TaskStore) : Permits := fun id =>
  if id ∈ (newBills s s').map Prod.fst then none else (transition s s' id).or (permits id)

/-- A step keeps what is known, leaves final statuses alone, and bills at most one task, one
it has a permit for. -/
structure VideoStep (open_ : Int → Prop) (base : Int → Task) (s s' : TaskStore) (permits : Permits) :
    Prop where
  known : Known open_ base s'
  ended : ∀ id row, s.task id = some row → row.status.terminal = true →
    ∃ row', s'.task id = some row' ∧ row'.status = row.status
  bills : ∃ events, s'.history = s.history ++ events ∧ (events.filterMap bill = [] ∨
    ∃ id kind, permits id = some kind ∧ events.filterMap bill = [(id, kind)])

variable {open_ : Int → Prop} {base : Int → Task} {permits : Permits}

/-- A step bills only what it has a permit for. -/
theorem VideoStep.permit_of_newBills (stepped : VideoStep open_ base s s' permits) {id : Int} {kind : TaskBilling}
    (fresh : (id, kind) ∈ newBills s s') : permits id = some kind := by
  obtain ⟨events, grown, silent | ⟨id', kind', permit, one⟩⟩ := stepped.bills
  · rw [newBills_eq grown, silent] at fresh
    cases fresh
  · rw [newBills_eq grown, one, mem_singleton] at fresh
    cases fresh
    exact permit

def videoSetting (open_ : Int → Prop) (base : Int → Task) : Setting TaskStore Permits where
  meets _ _ := True
  sees _ s := Known open_ base s
  moves s s' permits := permits.after s s'
  keeps s s' permits := VideoStep open_ base s s' permits

section
variable {open_ : Int → Prop} {base : Int → Task} {s s' : TaskStore} {permits : Permits} {cfg : TaskConfig}

theorem Known.congr (known : Known open_ base s) (same : s'.tasks = s.tasks) : Known open_ base s' := by
  obtain ⟨keys, unfinished, fixed⟩ := known
  rw [← same] at keys unfinished fixed
  exact ⟨keys, unfinished, fixed⟩

variable {t task : Task} {adaptor : TaskAdaptor} {taskResult : TaskInfo} {tasks : List Task}

theorem Known.putTask (known : Known open_ base s) (opened : t.unfinished = true → open_ t.id)
    (fixed : t.fixed = base t.id) : Known open_ base (s.putTask t) := by
  constructor
  · exact (congrArg List.Nodup (Rows.map_key_put t s.tasks)).mpr known.keys
  · intro row member going
    rcases Rows.mem_put member with rfl | ⟨inside, -⟩
    · exact opened going
    · exact known.unfinished row inside going
  · intro row member
    rcases Rows.mem_put member with rfl | ⟨inside, -⟩
    · exact fixed
    · exact known.fixed row inside

/-- A step that touches no row. -/
theorem videoStep_of_tasks {events : List TaskEvent} (known : Known open_ base s)
    (same : s'.tasks = s.tasks) (grown : s'.history = s.history ++ events) (bills : events.filterMap bill = [] ∨
      ∃ id kind, permits id = some kind ∧ events.filterMap bill = [(id, kind)]) :
    VideoStep open_ base s s' permits := by
  refine ⟨known.congr same, ?_, events, grown, bills⟩
  intro id row found _
  refine ⟨row, ?_, rfl⟩
  rw [← found]
  simp [TaskStore.task, same]

theorem after_of_tasks {events : List TaskEvent} (same : s'.tasks = s.tasks)
    (grown : s'.history = s.history ++ events) (silent : events.filterMap bill = []) :
    permits.after s s' = permits := by
  funext id
  have still : s'.task id = s.task id := by simp [TaskStore.task, same]
  simp [Permits.after, newBills_eq grown, silent, transition_of_same still]

theorem videoBookkeeping (I : Permits → Prop) : Bookkeeping (videoSetting open_ base) I where
  quiet := by
    intro permits s s' holds known quiet
    have grown : s'.history = s.history ++ [] := by simpa using quiet.history
    refine ⟨videoStep_of_tasks known quiet.tasks grown (.inl rfl), ?_⟩
    simp only [videoSetting, after_of_tasks quiet.tasks grown rfl]
    exact holds
  side := by
    intro permits s s' id event holds known side logged
    have silent : [event].filterMap bill = [] := by simp [bill_of_side side]
    refine ⟨videoStep_of_tasks known logged.tasks logged.history (.inl silent), ?_⟩
    simp only [videoSetting, after_of_tasks logged.tasks logged.history silent]
    exact holds

theorem videoStep_of_bill {id : Int} {kind : TaskBilling} {event : TaskEvent}
    (known : Known open_ base s) (permitted : permits id = some kind)
    (bills : bill event = some (id, kind)) (logged : Logged event s s') : VideoStep open_ base s s' permits :=
  videoStep_of_tasks known logged.tasks logged.history (.inr ⟨id, kind, permitted, by simp [bills]⟩)

/-- A permitted refund. -/
theorem refund_meets (permitted : permits t.id = some .refund) (charged : t.quota ≠ 0) :
    (refundTaskQuota cfg t).Meets (videoSetting open_ base) permits fun _ _ => True := by
  refine (refundTaskQuota_meets (F := fun _ => True) (videoBookkeeping fun _ => True) ?_ ?_ charged).mono
    fun _ _ _ => trivial
  · intro s s' known logged
    exact ⟨videoStep_of_bill known permitted rfl logged, trivial⟩
  · intro s s' known quiet
    exact (videoBookkeeping fun _ => True).quiet trivial known quiet

theorem settle_meets (permitted : permits t.id = some .settle) :
    (settleTaskBillingOnComplete cfg adaptor t taskResult).Meets (videoSetting open_ base) permits
      fun _ _ => True := by
  refine (settleTaskBillingOnComplete_meets (videoBookkeeping fun _ => True) ?_).mono fun _ _ _ => trivial
  intro s s' known logged
  exact ⟨videoStep_of_bill known permitted rfl logged, trivial⟩

theorem videoStep_of_putTask {row : Task} (known : Known open_ base s)
    (opened : t.unfinished = true → open_ t.id) (fixed : t.fixed = base t.id) (found : s.task t.id = some row)
    (kept : row.status.terminal = true → t.status = row.status) : VideoStep open_ base s (s.putTask t) permits := by
  have lookups := TaskStore.task_putTask found
  refine ⟨known.putTask opened fixed, ?_, [], by simp, .inl rfl⟩
  intro id row' here ended
  by_cases self : id = t.id
  · rw [self, found, Option.some.injEq] at here
    subst here
    exact ⟨t, by rw [lookups, if_pos self], kept ended⟩
  · refine ⟨row', ?_, rfl⟩
    rw [lookups, if_neg self]
    exact here

/-- What a write does to the permits: it can only be one for the task. -/
theorem after_putTask {row : Task} (found : s.task t.id = some row) (id : Int) : permits.after s (s.putTask t) id =
      if id = t.id ∧ row.status.terminal = false then (billingOf t.status).or (permits id)
      else permits id := by
  have lookups := TaskStore.task_putTask found
  have grown : (s.putTask t).history = s.history ++ [] := by simp
  by_cases self : id = t.id
  · have moves : transition s (s.putTask t) id = if row.status.terminal then none else billingOf t.status := by
      unfold transition
      rw [self, found, lookups, if_pos rfl]
    rw [Permits.after, newBills_eq grown, moves]
    cases row.status.terminal <;> simp [self]
  · have same : (s.putTask t).task id = s.task id := by rw [lookups, if_neg self]
    simp [Permits.after, newBills_eq grown, transition_of_same same, self]

/-- The compare-and-swap of a copy: whoever wins it with a final status has the permit. -/
theorem updateWithStatus_meets {fromStatus : TaskStatus} (opened : open_ t.id)
    (fixed : t.fixed = base t.id) (going : fromStatus.terminal = false) :
    (Program.store (t.updateWithStatus fromStatus)).Meets (videoSetting open_ base) permits fun outcome permits' =>
      outcome = .ok true → ∀ kind, billingOf t.status = some kind → permits' t.id = some kind := by
  refine .store fun s faults known _ => ?_
  rcases exec_updateWithStatus t fromStatus s faults with ⟨outcome, lost, ran⟩ | ⟨row, found, same, ran⟩
  · rw [ran]
    obtain ⟨kept, -⟩ := (videoBookkeeping fun _ => True).quiet trivial known (.refl s)
    exact ⟨kept, fun won => absurd won lost⟩
  · rw [ran]
    have open_row : row.status.terminal = false := by rw [same]; exact going
    refine ⟨videoStep_of_putTask known (fun _ => opened) fixed found (by simp [open_row]), fun _ kind final => ?_⟩
    simp [videoSetting, after_putTask found, open_row, final]

/-- The sweep refunds what it has timed out itself. -/
theorem sweepTask_meets (now : Int) (copy : Copy open_ base t) :
    (sweepTask cfg now t).Meets (videoSetting open_ base) permits fun _ _ => True := by
  have fixed : (t.timedOut cfg now).fixed = base (t.timedOut cfg now).id := copy.fixed
  refine .bind (updateWithStatus_meets copy.opened fixed copy.going) ?_
  intro outcome permits' won
  cases outcome with
  | error e => trivial
  | ok success =>
    dsimp only
    split
    · rename_i due
      obtain ⟨rfl, -, charged⟩ := due
      exact refund_meets (won rfl .refund rfl) charged
    · trivial

theorem Known.copy (known : Known open_ base s) (member : t ∈ s.tasks)
    (going : t.unfinished = true) : Copy open_ base t :=
  ⟨Task.not_terminal_of_unfinished going, known.unfinished t member going, known.fixed t member⟩

theorem sweepTimedOutTasks_meets (clock : SweepClock) :
    (sweepTimedOutTasks cfg clock).Meets (videoSetting open_ base) permits fun _ _ => True := by
  refine sweepTimedOutTasks_loop _ trivial (fun _ => ?_) fun t copy _ _ => sweepTask_meets clock.now copy
  refine (videoBookkeeping fun _ => True).meets_select
    (Q := fun tasks => ∀ t ∈ tasks, Copy open_ base t) (by simp) ?_ trivial
  intro s known t member
  obtain ⟨inside, going⟩ := mem_of_timedOut member
  exact known.copy inside going

/-! ## Polling -/

/-- What the switch over the status writes. -/
theorem videoUpdate_some {updated : Task} {now : Int} (switched : task.videoUpdate cfg taskResult now = some updated) :
    updated.id = task.id ∧ updated.status = taskResult.status ∧ updated.fixed = task.fixed := by
  simp only [Task.videoUpdate, Option.map_eq_some_iff] at switched
  obtain ⟨progress, -, rfl⟩ := switched
  refine ⟨rfl, rfl, ?_⟩
  simp only [Task.fixed]
  split <;> rfl

/-- The bill that goes with the status of a result is a permitted one. -/
theorem billVideoTask_meets
    (permitted : ∀ kind, billingOf taskResult.status = some kind → permits task.id = some kind) :
    (billVideoTask cfg adaptor task taskResult).Meets (videoSetting open_ base) permits fun _ _ => True := by
  unfold billVideoTask
  split
  · rename_i success
    exact settle_meets (permitted .settle (by rw [success]; rfl))
  split
  · rename_i due
    obtain ⟨failed, charged⟩ := due
    exact .bind (refund_meets (permitted .refund (by rw [failed]; rfl)) charged) fun _ _ _ => trivial
  · trivial

/-- Only the write that moves the row to a final status is followed by a bill. -/
theorem writeVideoTask_meets {copy : Task} (known : Copy open_ base copy) (same : task.id = copy.id)
    (status : task.status = taskResult.status) (fixed : task.fixed = copy.fixed) :
    (writeVideoTask cfg adaptor copy.snapshot task taskResult).Meets (videoSetting open_ base) permits
      fun _ _ => True := by
  have opened : open_ task.id := by
    rw [same]
    exact known.opened
  have based : task.fixed = base task.id := by
    rw [fixed, same]
    exact known.fixed
  have swapping : (Program.store (task.updateWithStatus copy.status)).Meets (videoSetting open_ base)
      permits _ := updateWithStatus_meets opened based known.going
  unfold writeVideoTask
  split
  · refine .bind swapping ?_
    intro outcome permits' won
    split
    · refine billVideoTask_meets fun kind final => won rfl kind ?_
      rw [status]
      exact final
    · trivial
    · trivial
  · -- a final status would differ from the one of the copy
    rename_i ongoing
    have going : taskResult.status.terminal = false := by
      by_contra ended
      refine ongoing ⟨by rw [status]; simpa using ended, ?_⟩
      intro unchanged
      have copied : copy.status.terminal = true := by
        have : copy.status = task.status := unchanged
        rw [this, status]
        simpa using ended
      rw [known.going] at copied
      cases copied
    have nothing (permits' : Permits) : (billVideoTask cfg adaptor task taskResult).Meets (videoSetting open_ base)
        permits' fun _ _ => True := billVideoTask_meets (by simp [billingOf_eq_none going])
    split
    · exact .bind swapping fun _ permits' _ => nothing permits'
    · exact nothing permits

/-- Polling one task leaves the other copies in memory as they are. -/
theorem updateVideoSingleTask_meets {answer : VideoAnswer} {taskId : String}
    {taskM : TaskMap} (copies : ∀ t, taskM taskId = some t → Copy open_ base t) :
    (updateVideoSingleTask cfg adaptor answer taskId taskM).Meets (videoSetting open_ base) permits
      fun taskM' _ => ∀ other, other ≠ taskId → taskM' other = taskM other := by
  unfold updateVideoSingleTask
  split
  · rename_i task taskResult body error now found
    have known := copies task found
    dsimp only
    split
    · exact fun other different => by simp [different]
    · split
      · exact fun other different => by simp [different]
      · rename_i updated switched
        obtain ⟨id, status, fixed⟩ := videoUpdate_some switched
        refine .bind (writeVideoTask_meets known id status fixed) ?_
        exact fun written permits' _ other different => by simp [different]
  · exact fun _ _ => rfl

/-- The tasks still to ask for are there once each, as copies of unfinished rows. -/
def Ahead (open_ : Int → Prop) (base : Int → Task) (taskIds : List String) (taskM : TaskMap) (_ : Permits) : Prop :=
  taskIds.Nodup ∧ ∀ taskId ∈ taskIds, ∀ t, taskM taskId = some t → Copy open_ base t

theorem updateVideoSingleTask_ahead {answer : VideoAnswer} {taskId : String} {rest : List String} {taskM : TaskMap}
    (ahead : Ahead open_ base (taskId :: rest) taskM permits) :
    (updateVideoSingleTask cfg adaptor answer taskId taskM).Meets (videoSetting open_ base) permits
      (Ahead open_ base rest) := by
  obtain ⟨once, copies⟩ := ahead
  obtain ⟨fresh, later⟩ := nodup_cons.mp once
  refine (updateVideoSingleTask_meets (copies taskId (by simp))).mono ?_
  intro taskM' permits' untouched
  refine ⟨later, fun taskId' member t found => ?_⟩
  have different : taskId' ≠ taskId := by
    rintro rfl
    exact fresh member
  rw [untouched taskId' different] at found
  exact copies taskId' (by simp [member]) t found

/-- The upstream ids of the tasks `open_` tell them apart. -/
def Distinct (open_ : Int → Prop) (base : Int → Task) : Prop :=
  ∀ a b, open_ a → open_ b → (base a).getUpstreamTaskID = (base b).getUpstreamTaskID → a = b

/-- The upstream ids of selected tasks are distinct. -/
theorem upstream_nodup (distinct : Distinct open_ base)
    (keys : (tasks.map Task.id).Nodup) (copies : ∀ t ∈ tasks, Copy open_ base t) :
    (tasks.map Task.getUpstreamTaskID).Nodup := by
  induction tasks with
  | nil => exact nodup_nil
  | cons t rest ih =>
    simp only [map_cons, nodup_cons, mem_map, not_exists, not_and] at keys ⊢
    refine ⟨?_, ih keys.2 fun t' later => copies t' (by simp [later])⟩
    intro t' later same
    have mine := copies t (by simp)
    have other := copies t' (by simp [later])
    apply keys.1 t' later
    apply distinct _ _ other.opened mine.opened
    rw [← other.fixed, ← mine.fixed]
    simpa using same

theorem nodup_unFinish (known : Known open_ base s) (limit : Nat) : ((s.unFinish limit).map Task.id).Nodup := by
  have sorted : ((s.tasks.filter Task.unfinished).map Task.id).Nodup :=
    (filter_sublist.map Task.id).nodup known.keys
  have permuted := ((perm_insertionSort idsBefore (s.tasks.filter Task.unfinished)).map Task.id)
  exact ((take_sublist limit _).map Task.id).nodup (permuted.nodup_iff.mpr sorted)

theorem named_nodup (distinct : Distinct open_ base)
    (keys : (tasks.map Task.id).Nodup) (copies : ∀ t ∈ tasks, Copy open_ base t) (platform : TaskPlatform) :
    ((named (platformTasks tasks platform)).map Task.getUpstreamTaskID).Nodup := by
  apply upstream_nodup distinct
  · exact ((filter_sublist.trans filter_sublist).map Task.id).nodup keys
  · intro t member
    exact copies t (mem_of_mem_filter (mem_of_mem_filter member))

end

/-- **Every node keeps to its permits.** -/
theorem VideoHandler.program_meets
    (distinct : Distinct open_ base) (cfg : TaskConfig) (handler : VideoHandler) (permits : Permits) :
    (handler.program cfg).Meets (videoSetting open_ base) permits fun _ _ => True := by
  cases handler with
  | sweep clock => exact sweepTimedOutTasks_meets clock
  | poll platform adaptor visit answers =>
    refine .bind ((videoBookkeeping fun _ => True).meets_select
      (Q := fun tasks => (tasks.map Task.id).Nodup ∧ ∀ t ∈ tasks, Copy open_ base t) (by simp) ?_ trivial) ?_
    · intro s known
      refine ⟨nodup_unFinish known _, fun t member => ?_⟩
      obtain ⟨inside, going⟩ := mem_of_unFinish member
      exact known.copy inside going
    · rintro outcome permits' ⟨-, keys, copies⟩
      refine .bind (updateVideoEach_loop (fun _ _ _ _ _ => updateVideoSingleTask_ahead)
        (⟨?_, ?_⟩ : Ahead open_ base (_ ++ []) _ permits')) fun _ _ _ => trivial
      · -- the ids that are visited are among those of the selected tasks
        rw [append_nil]
        obtain ⟨visited, perm, sub⟩ := visit.subperm _
        exact perm.nodup_iff.mp (sub.nodup (named_nodup distinct keys copies platform))
      · intro taskId _ t found
        exact copies t (mem_of_mem_filter (mem_of_taskMap found))

/-! ## All of them -/

section
variable {ι : Type} [DecidableEq ι]

/-- The history of a run: the permits of every node, who moved the row of a task to a final
status and which one, and the bills with the nodes that made them. -/
structure Trace (ι : Type) where
  permits : ι → Permits
  mover : Int → Option (ι × TaskBilling)
  billed : List (ι × Int × TaskBilling)

namespace Trace

def start : Trace ι := ⟨fun _ _ => none, fun _ => none, []⟩

def step (trace : Trace ι) (i : ι) (s s' : TaskStore) : Trace ι where
  permits := update trace.permits i ((trace.permits i).after s s')
  mover id := ((transition s s' id).map (i, ·)).or (trace.mover id)
  billed := trace.billed ++ (newBills s s').map (i, ·)

end Trace

/-- Any interleaving, in which any call may fail. -/
def traceRules : Rules TaskStore ι (Trace ι) where
  env _ _ := False
  guard _ _ _ _ _ := True
  own i _ s s' trace := trace.step i s s'
  outside _ _ trace := trace

structure Billed (open_ : Int → Prop) (base : Int → Task) (s : TaskStore) (trace : Trace ι) : Prop where
  known : Known open_ base s
  permitted : ∀ i id kind, trace.permits i id = some kind →
    trace.mover id = some (i, kind) ∧ ∀ entry ∈ trace.billed, entry.2.1 ≠ id
  byMover : ∀ entry ∈ trace.billed, trace.mover entry.2.1 = some (entry.1, entry.2.2)
  once : (trace.billed.map (·.2.1)).Nodup
  moved : ∀ id m, trace.mover id = some m → ∃ row, s.task id = some row ∧ row.status.terminal = true

namespace Billed

variable {open_ : Int → Prop} {base : Int → Task} {s s' : TaskStore} {trace : Trace ι} {i : ι} {id : Int}

variable (billed : Billed open_ base s trace)
include billed

omit [DecidableEq ι] in
/-- A task whose row is moved was not moved before. -/
theorem mover_eq_none {kind : TaskBilling} (moves : transition s s' id = some kind) : trace.mover id = none := by
  obtain ⟨⟨row, found, going⟩, -⟩ := ended_of_transition moves
  by_contra before
  obtain ⟨m, mover⟩ := Option.ne_none_iff_exists'.mp before
  obtain ⟨row', found', ended⟩ := billed.moved id m mover
  rw [found, Option.some.injEq] at found'
  rw [← found', going] at ended
  cases ended

/-- The mover of a task stays the mover. -/
theorem mover_step {m : ι × TaskBilling}
    (mover : trace.mover id = some m) : (trace.step i s s').mover id = some m := by
  cases moves : transition s s' id with
  | none => simp [Trace.step, moves, mover]
  | some kind =>
    rw [billed.mover_eq_none moves] at mover
    cases mover

section
variable (stepped : VideoStep open_ base s s' (trace.permits i))
include stepped

/-- A permit stays with the mover of the task, and only until the task is billed. -/
theorem permitted_step {j : ι} {kind : TaskBilling}
    (permit : (trace.step i s s').permits j id = some kind) : (trace.step i s s').mover id = some (j, kind) ∧
      ∀ entry ∈ (trace.step i s s').billed, entry.2.1 ≠ id := by
  have old : ∀ entry ∈ (trace.step i s s').billed, (∀ e ∈ trace.billed, e.2.1 ≠ id) →
      (∀ kind', (id, kind') ∉ newBills s s') → entry.2.1 ≠ id := by
    intro entry member before fresh
    simp only [Trace.step, mem_append, mem_map] at member
    rcases member with earlier | ⟨⟨id', kind'⟩, new, rfl⟩
    · exact before entry earlier
    · rintro rfl
      exact fresh kind' new
  by_cases self : j = i
  · subst self
    simp only [Trace.step, update_self, Permits.after] at permit
    split at permit
    · cases permit
    rename_i unbilled
    have fresh : ∀ kind', (id, kind') ∉ newBills s s' := fun kind' new =>
      unbilled (mem_map.mpr ⟨_, new, rfl⟩)
    cases moves : transition s s' id with
    | some kind' =>
      -- moved by this very step
      simp only [moves, Option.some_or, Option.some.injEq] at permit
      subst permit
      refine ⟨by simp [Trace.step, moves], fun entry member => old entry member ?_ fresh⟩
      rintro e earlier rfl
      have mover := billed.byMover e earlier
      rw [billed.mover_eq_none moves] at mover
      cases mover
    | none =>
      simp only [moves] at permit
      obtain ⟨mover, before⟩ := billed.permitted j id kind permit
      exact ⟨billed.mover_step mover, fun entry member => old entry member before fresh⟩
  · simp only [Trace.step, update_of_ne self] at permit
    obtain ⟨mover, before⟩ := billed.permitted j id kind permit
    refine ⟨billed.mover_step mover, fun entry member => old entry member before ?_⟩
    intro kind' new
    -- the node that bills it would be its mover too
    have mine := (billed.permitted i id kind' (stepped.permit_of_newBills new)).1
    rw [mover, Option.some.injEq, Prod.mk.injEq] at mine
    exact self mine.1

/-- **One step of one node.** -/
theorem step : Billed open_ base s' (trace.step i s s') where
  known := stepped.known
  permitted j id kind permit := billed.permitted_step stepped permit
  byMover entry member := by
    simp only [Trace.step, mem_append, mem_map] at member
    rcases member with earlier | ⟨⟨id, kind⟩, new, rfl⟩
    · exact billed.mover_step (billed.byMover entry earlier)
    · have permit := stepped.permit_of_newBills new
      exact billed.mover_step (billed.permitted i id kind permit).1
  once := by
    obtain ⟨events, grown, silent | ⟨id, kind, permit, one⟩⟩ := stepped.bills
    · have none_ : newBills s s' = [] := by rw [newBills_eq grown, silent]
      simpa [Trace.step, none_] using billed.once
    have new : newBills s s' = [(id, kind)] := by rw [newBills_eq grown, one]
    have before := (billed.permitted i id kind permit).2
    simp only [Trace.step, new, map_append, map_cons, map_nil, nodup_append,
      nodup_cons, not_mem_nil, not_false_eq_true, nodup_nil, true_and, mem_singleton]
    refine ⟨billed.once, ?_⟩
    rintro _ member _ rfl rfl
    obtain ⟨entry, earlier, same⟩ := mem_map.mp member
    exact before entry earlier same
  moved id m mover := by
    cases moves : transition s s' id with
    | some kind => exact (ended_of_transition moves).2
    | none =>
      simp only [Trace.step, moves] at mover
      obtain ⟨row, found, ended⟩ := billed.moved id m mover
      obtain ⟨row', found', status⟩ := stepped.ended id row found ended
      exact ⟨row', found', by rw [status]; exact ended⟩

end

end Billed

theorem billed_recorded {open_ : Int → Prop} {base : Int → Task} {s s' : TaskStore} {trace : Trace ι}
    {i : ι} (same : trace.billed.map Prod.snd = s.history.filterMap bill)
    (stepped : VideoStep open_ base s s' (trace.permits i)) :
    (trace.step i s s').billed.map Prod.snd = s'.history.filterMap bill := by
  obtain ⟨events, grown, -⟩ := stepped.bills
  simp [Trace.step, newBills_eq grown, grown, same]

variable {cfg : TaskConfig} {handler : ι → VideoHandler} {s₀ : TaskStore}
  {c : Pool TaskStore Unit ι} {trace : Trace ι}

/-- The tasks that are unfinished at the start. -/
def OpenAt (s₀ : TaskStore) (id : Int) : Prop := ∃ row ∈ s₀.tasks, row.id = id ∧ row.unfinished = true

def baseOf (s₀ : TaskStore) (id : Int) : Task :=
  ((s₀.task id).getD ⟨0, "", .suno, 0, "", 0, 0, .notStart, "", 0, 0, 0, "", "", ⟨"", "", "", 0, 0, none⟩, []⟩).fixed

theorem known_start (keys : (s₀.tasks.map Task.id).Nodup) : Known (OpenAt s₀) (baseOf s₀) s₀ where
  keys := keys
  unfinished row member going := ⟨row, member, rfl, going⟩
  fixed row member := by
    have found : s₀.task row.id = some row := Rows.find_of_mem keys member
    simp [baseOf, found]

def DistinctUpstream (s₀ : TaskStore) : Prop :=
  ∀ a ∈ s₀.tasks, ∀ b ∈ s₀.tasks, a.unfinished = true → b.unfinished = true →
    a.getUpstreamTaskID = b.getUpstreamTaskID → a.id = b.id

section
variable (keys : (s₀.tasks.map Task.id).Nodup) (distinct : DistinctUpstream s₀)
include keys distinct

theorem distinct_start : Distinct (OpenAt s₀) (baseOf s₀) := by
  rintro _ _ ⟨a, here, rfl, going⟩ ⟨b, there, rfl, going'⟩ same
  have known := known_start keys
  rw [← known.fixed a here, ← known.fixed b there] at same
  exact distinct a here b there going going' (by simpa using same)

omit keys distinct in
/-- What everyone keeps true, with what every step keeps of it. -/
theorem shared_billed {open_ : Int → Prop} {base : Int → Task} {P : TaskStore → Trace ι → Prop}
    (kept : ∀ {i s s' trace}, P s trace → VideoStep open_ base s s' (trace.permits i) → P s' (trace.step i s s')) :
    Shared traceRules (fun _ => videoSetting open_ base) (fun i trace => trace.permits i)
      fun s trace => Billed open_ base s trace ∧ P s trace where
  sees _ _ _ holds := holds.1.known
  may _ _ _ _ _ _ _ := trivial
  moved i faults s s' trace := by simp [traceRules, Trace.step, videoSetting]
  others i j faults s s' trace other := by simp [traceRules, Trace.step, other]
  kept _ _ _ _ _ holds _ stepped := ⟨holds.1.step stepped, kept holds.2 stepped⟩
  outside _ _ _ _ changed := changed.elim

/-- What holds in every state, and what every node has still to do. -/
theorem billed_of_run (blank : s₀.history = [])
    (run : Run traceRules (initial s₀ fun i => (handler i).program cfg) .start c trace) :
    (Billed (OpenAt s₀) (baseOf s₀) c.store trace ∧ trace.billed.map Prod.snd = c.store.history.filterMap bill) ∧
      ∀ i, c.kids i = [] ∧ (c.main i).Meets (videoSetting (OpenAt s₀) (baseOf s₀)) (trace.permits i)
        fun _ _ => True := by
  refine Run.meets (fun _ => videoSetting (OpenAt s₀) (baseOf s₀)) (fun _ _ _ => True) (fun i trace => trace.permits i)
    (fun s trace => Billed (OpenAt s₀) (baseOf s₀) s trace ∧ trace.billed.map Prod.snd = s.history.filterMap bill)
    ⟨?_, by simp [Trace.start, blank]⟩
    (fun i => (handler i).program_meets (distinct_start keys distinct) cfg _) (shared_billed billed_recorded) run
  exact ⟨known_start keys, by simp [Trace.start], by simp [Trace.start], by simp [Trace.start], by simp [Trace.start]⟩

end

/-- A final status stays what it is. -/
theorem ended_of_run {c' : Pool TaskStore Unit ι} {trace' : Trace ι} {open_ : Int → Prop}
    {base : Int → Task} (billed : Billed open_ base c.store trace) (fits : ∀ i, c.kids i = [] ∧
      (c.main i).Meets (videoSetting open_ base) (trace.permits i) fun _ _ => True)
    (later : Run traceRules c trace c' trace') {id : Int} {row : Task}
    (found : c.store.task id = some row) (ended : row.status.terminal = true) :
    ∃ row', c'.store.task id = some row' ∧ row'.status = row.status := by
  refine (later.meets_from (fun _ => videoSetting open_ base) (fun _ _ _ => True) (fun i trace => trace.permits i)
    (fun s trace => Billed open_ base s trace ∧ ∃ row', s.task id = some row' ∧ row'.status = row.status)
    ⟨billed, row, found, rfl⟩ fits (shared_billed ?_)).1.2
  rintro i s s' trace ⟨row', found', status⟩ stepped
  obtain ⟨row'', found'', status'⟩ := stepped.ended id row' found' (by rw [status]; exact ended)
  exact ⟨row'', found'', status'.trans status⟩

/-- **A video task is billed at most once**, by the node whose update moved its row from an
unfinished status to SUCCESS (a settlement) or FAILURE (a refund), and a final status is
never changed again. -/
theorem videoTasks_billed_once (keys : (s₀.tasks.map Task.id).Nodup)
    (distinct : DistinctUpstream s₀) (blank : s₀.history = [])
    (run : Run traceRules (initial s₀ fun i => (handler i).program cfg) .start c trace) :
    (∀ id, ((c.store.history.filterMap bill).map Prod.fst).count id ≤ 1) ∧
    trace.billed.map Prod.snd = c.store.history.filterMap bill ∧
    (∀ entry ∈ trace.billed, trace.mover entry.2.1 = some (entry.1, entry.2.2)) ∧
    ∀ c' trace', Run traceRules c trace c' trace' → ∀ id row, c.store.task id = some row → row.status.terminal = true →
        ∃ row', c'.store.task id = some row' ∧ row'.status = row.status := by
  obtain ⟨⟨billed, same⟩, fits⟩ := billed_of_run keys distinct blank run
  refine ⟨fun id => ?_, same, billed.byMover, ?_⟩
  · rw [← same, map_map]
    exact nodup_iff_count_le_one.mp billed.once id
  · intro c' trace' later id row found ended
    exact ended_of_run billed fits later found ended

end

/-- A store with these tasks, whose users have no quota left. -/
def storeWith (tasks : List Task) : TaskStore where
  accounts := { Store.empty with users := fun id => some ⟨id, "default", 0, "", ""⟩ }
  tasks
  channels _ := none
  channelsIDM _ := none
  history := []

/-- Half an hour, and no platform has an adaptor of its own. -/
def runningTask : Task :=
  ⟨1, "task_1", .video "50", 1, "default", 1, 50, .inProgress, "", 1800000000, 1800000000, 0, "30%",
    "kling-v1", ⟨"upstream", "", "wallet", 0, 0, none⟩, []⟩

/-- The upstream reports a failure to one node while another finds the task timed out. -/
def pollAndSweep (i : Fin 2) : VideoHandler :=
  if i.val = 0 then .poll (.video "50") ⟨fun _ _ => 0⟩ ⟨id, fun _ => .refl _⟩
    fun _ => .parsed ⟨.failure, "moderated", "", "", 0⟩ [] .unrecognized 1800003600
  else .sweep ⟨1800003600, 1800003600⟩

/-- Both have read the task before either writes it; the sweep is first. -/
theorem videoTasks_billed_once_race : ∃ c trace, Run traceRules
        (initial (storeWith [runningTask]) fun i => (pollAndSweep i).program taskConfig) Trace.start c trace ∧
      (∀ i, (c.result i).isSome = true) ∧
      c.store.history.filterMap bill = [(1, .refund)] ∧ trace.mover 1 = some (1, .refund) ∧
      ∀ entry ∈ trace.billed, trace.mover entry.2.1 = some (entry.1, entry.2.2) := by
  refine exists_play (fun c trace => (∀ i, (c.result i).isSome = true) ∧
      c.store.history.filterMap bill = [(1, .refund)] ∧ trace.mover 1 = some (1, .refund))
    (fun _ _ _ _ => true) (fun _ _ _ _ _ => trivial)
    [.main 0, .main 1, .main 1, .main 0, .main 1] (by decide +kernel) ?_
  rintro c trace run ⟨over_, bills, mover⟩
  have once := videoTasks_billed_once (by decide)
    (fun a here b there _ _ _ => by
      simp only [storeWith, mem_singleton] at here there
      rw [here, there]) rfl run
  exact ⟨over_, bills, mover, once.2.2.1⟩

end NewApi.Tasks
