/-
# Tasks.SunoRefunds — when a Suno task is refunded at most once

`updateSunoTasks` decides on a copy it has read earlier, refunds first and then saves the whole row,
whatever the table holds by then.  So two nodes that have read the same unfinished task refund it
twice (`sunoTask_refunded_twice`); so does one node whose save fails, and a response that lists a task
twice.

A node that polls owes a save for the task it has refunded (`Duty.held`); a node that sweeps owes a
refund for the rows it has failed (`Duty.due`).
-/
import NewApi.Tasks.Calls

namespace NewApi.Tasks
open Theory Model Function TaskStore Option Rows

inductive SunoHandler where
  | sweep (clock : SweepClock)
  | poll (order : RangeOrder) (answers : Int → SunoAnswer)

namespace SunoHandler

def program (cfg : TaskConfig) : SunoHandler → Program TaskStore (Except String Unit)
  | .sweep clock => do
      sweepTimedOutTasks cfg clock
      .done (.ok ())
  | .poll order answers => do
      let allTasks := (← Program.store (getAllUnFinishSyncTasks cfg.taskQueryLimit)).toOption.getD []
      let tasks := platformTasks allTasks .suno
      updateSunoChannels cfg answers (channelTasks tasks) (taskMap tasks)
        (order.list (channelIds tasks))

def polls : SunoHandler → Bool
  | .sweep _ => false
  | .poll _ _ => true

end SunoHandler

/-! ## What a step did -/

def refunds (s : TaskStore) (id : Int) : Nat := (s.history.filterMap refundOf).count id

variable {s s' : TaskStore}

theorem refunds_grown {events : List TaskEvent} (grown : s'.history = s.history ++ events) (id : Int) :
    refunds s' id = refunds s id + (newRefunds s s').count id := by
  simp [refunds, newRefunds, newEvents_eq grown, grown]

def written (s s' : TaskStore) : List Int :=
  ((s.tasks ++ s'.tasks).map Task.id).filter fun id => s'.task id ≠ s.task id

theorem mem_written {id : Int} : id ∈ written s s' ↔ s'.task id ≠ s.task id := by
  simp only [written, List.mem_filter, decide_eq_true_eq, and_iff_right_iff_imp]
  intro changed
  by_contra outside
  simp only [List.map_append, List.mem_append, List.mem_map, not_or, not_exists, not_and] at outside
  apply changed
  have before : s.task id = none := find_eq_none.mpr outside.1
  have after : s'.task id = none := find_eq_none.mpr outside.2
  rw [before, after]

theorem written_of_tasks (same : s'.tasks = s.tasks) : written s s' = [] := by
  rw [List.eq_nil_iff_forall_not_mem]
  intro id member
  exact mem_written.mp member (by simp [task, same])

/-- The row of the task is one that would be selected. -/
def unfinishedAt (s : TaskStore) (id : Int) : Bool := (s.task id).any Task.unfinished

theorem unfinishedAt_of_not_written {id : Int} (unwritten : id ∉ written s s') :
    unfinishedAt s' id = unfinishedAt s id := by
  rw [mem_written, not_not] at unwritten
  rw [unfinishedAt, unwritten, unfinishedAt]

/-! ## What a node owes -/

structure Duty where
  /-- the task it has refunded and not saved yet -/
  held : Option Int
  /-- a save after a refund has failed -/
  broken : Bool
  /-- the tasks it has failed by a sweep and not refunded yet -/
  due : Int → Bool

open Duty

namespace Duty

def none_ : Duty := ⟨none, false, fun _ => false⟩

def after (polls : Bool) (duty : Duty) (s s' : TaskStore) : Duty where
  held :=
    match newRefunds s s' with
    | id :: _ => if polls then some id else duty.held
    | [] => if duty.held.any fun id => .saved id ∈ newEvents s s' then none else duty.held
  broken := duty.broken || duty.held.any fun id => .unsaved id ∈ newEvents s s'
  due id := !decide (id ∈ newRefunds s s') && (duty.due id || (!polls && decide (id ∈ written s s')))

end Duty

/-- A step refunds at most one task, and writes no row then: a poll has no save to make up
for, a sweep has failed the task before.  A sweep and the save after a refund leave the row
finished. -/
structure SunoStep (polls : Bool) (s s' : TaskStore) (duty : Duty) : Prop where
  grown : ∃ events, s'.history = s.history ++ events
  refund : newRefunds s s' = [] ∨ ∃ id, newRefunds s s' = [id] ∧ written s s' = [] ∧
    if polls then duty.held = none else duty.due id = true
  swept : polls = false → ∀ id ∈ written s s', unfinishedAt s' id = false
  saved : ∀ id, duty.held = some id → .saved id ∈ newEvents s s' → unfinishedAt s' id = false

def sunoSetting (polls : Bool) : Setting TaskStore Duty where
  meets _ _ := True
  sees _ _ := True
  moves s s' duty := duty.after polls s s'
  keeps s s' duty := duty.broken = false → SunoStep polls s s' duty

section
variable {polls : Bool} {s s' : TaskStore} {duty : Duty} {cfg : TaskConfig}

/-- An event that neither refunds nor saves. -/
def Silent (event : TaskEvent) : Prop := refundOf event = none ∧ ∀ id, event ≠ .saved id ∧ event ≠ .unsaved id

variable {id : Int} {events : List TaskEvent} {t task : Task} {item : SunoDataResponse}

theorem silent_of_side {event : TaskEvent} (side : SideEvent id event) : Silent event := by
  cases side <;> exact ⟨rfl, fun _ => ⟨by simp, by simp⟩⟩

section
variable (grown : s'.history = s.history ++ events) (silent : ∀ event ∈ events, Silent event)
include grown silent

/-- A step that records nothing of note. -/
theorem sunoStep_of_silent (swept : polls = false → ∀ id ∈ written s s', unfinishedAt s' id = false) :
    SunoStep polls s s' duty := by
  refine ⟨⟨events, grown⟩, .inl ?_, swept, ?_⟩
  · rw [newRefunds, newEvents_eq grown, List.filterMap_eq_nil_iff]
    exact fun event member => (silent event member).1
  · intro id _ member
    rw [newEvents_eq grown] at member
    exact absurd rfl ((silent _ member).2 id).1

theorem after_of_silent (untouched : written s s' = []) : duty.after polls s s' = duty := by
  have none_ : newRefunds s s' = [] := by
    rw [newRefunds, newEvents_eq grown, List.filterMap_eq_nil_iff]
    exact fun event member => (silent event member).1
  have unsaved : ∀ id, .saved id ∉ newEvents s s' ∧ .unsaved id ∉ newEvents s s' := by
    intro id
    rw [newEvents_eq grown]
    exact ⟨fun member => ((silent _ member).2 id).1 rfl, fun member => ((silent _ member).2 id).2 rfl⟩
  rcases duty with ⟨held, broken, due⟩
  simp [after, none_, untouched, unsaved]

end

theorem sunoBookkeeping (I : Duty → Prop) : Bookkeeping (sunoSetting polls) I where
  quiet := by
    intro duty s s' holds _ quiet
    have grown : s'.history = s.history ++ [] := by simpa using quiet.history
    have untouched := written_of_tasks quiet.tasks
    refine ⟨fun _ => sunoStep_of_silent grown (by simp) (by simp [untouched]), ?_⟩
    simp only [sunoSetting, after_of_silent grown (by simp) untouched]
    exact holds
  side := by
    intro duty s s' id event holds _ side logged
    have untouched := written_of_tasks logged.tasks
    have silent : ∀ e ∈ [event], Silent e := by simpa using silent_of_side side
    refine ⟨fun _ => sunoStep_of_silent logged.history silent (by simp [untouched]), ?_⟩
    simp only [sunoSetting, after_of_silent logged.history silent untouched]
    exact holds

/-- A refund: the node that polls has then a save to make, the one that sweeps is done. -/
theorem refund_step {delta : Int} (logged : Logged (.adjusted id .refund delta) s s')
    (mine : if polls then duty.held = none else duty.due id = true) : SunoStep polls s s' duty := by
  have events : newEvents s s' = [.adjusted id .refund delta] := newEvents_eq logged.history
  have one : newRefunds s s' = [id] := by simp [newRefunds, events, refundOf]
  have untouched := written_of_tasks logged.tasks
  refine ⟨⟨_, logged.history⟩, .inr ⟨id, one, untouched, mine⟩, by simp [untouched], ?_⟩
  intro id' _ member
  simp [events] at member

theorem timedOut_finished (t : Task) (now : Int) : (t.timedOut cfg now).unfinished = false := by
  simp [Task.unfinished, Task.timedOut]

/-- The sweep refunds only the row that its own update has failed. -/
theorem sweepTask_sunoMeets (now : Int) (going : t.unfinished = true) :
    (sweepTask cfg now t).Meets (sunoSetting false) duty fun _ _ => True := by
  refine .bind (Q := fun outcome duty' => outcome = .ok true → duty'.due t.id = true) ?_ ?_
  · refine .store fun s faults _ _ => ?_
    rcases exec_updateWithStatus (t.timedOut cfg now) t.status s faults with
      ⟨outcome, lost, ran⟩ | ⟨row, found, same, ran⟩
    · rw [ran]
      exact ⟨((sunoBookkeeping (· = duty)).quiet rfl trivial (.refl s)).1, fun won => absurd won lost⟩
    rw [ran]
    have lookups : ∀ id, (s.putTask (t.timedOut cfg now)).task id =
        if id = t.id then some (t.timedOut cfg now) else s.task id := task_putTask found
    have grown : (s.putTask (t.timedOut cfg now)).history = s.history ++ [] := by simp
    constructor
    · intro _
      refine sunoStep_of_silent grown (by simp) fun _ id member => ?_
      -- the only row that is written is that of the task
      by_cases self : id = t.id
      · rw [unfinishedAt, lookups, if_pos self]
        exact timedOut_finished t now
      · refine absurd ?_ (mem_written.mp member)
        rw [lookups, if_neg self]
    · intro _
      have moved : t.id ∈ written s (s.putTask (t.timedOut cfg now)) := by
        rw [mem_written, lookups, if_pos rfl]
        intro unchanged
        have still : row.status = .failure := by
          have here : s.task t.id = some row := found
          rw [here, Option.some.injEq] at unchanged
          rw [← unchanged]
          rfl
        have open_ := Task.not_terminal_of_unfinished going
        rw [← same, still] at open_
        cases open_
      simp [sunoSetting, after, newRefunds, newEvents_eq grown, moved]
  · intro outcome duty' won
    cases outcome with
    | error e => trivial
    | ok success =>
      dsimp only
      split
      · rename_i due
        obtain ⟨rfl, -, charged⟩ := due
        have mine := won rfl
        refine (refundTaskQuota_meets (sunoBookkeeping fun _ => True) ?_ ?_ charged).mono
          (Q := fun _ _ => True ∨ True) fun _ _ _ => trivial
        · intro s s' _ logged
          exact ⟨fun _ => refund_step logged (by simpa using mine), trivial⟩
        · intro s s' _ quiet
          exact ⟨((sunoBookkeeping (· = duty')).quiet rfl trivial quiet).1, trivial⟩
      · trivial

theorem sweepTimedOutTasks_sunoMeets (clock : SweepClock) :
    (sweepTimedOutTasks cfg clock).Meets (sunoSetting false) duty fun _ _ => True :=
  sweepTimedOutTasks_loop _ trivial
    (fun _ => (sunoBookkeeping fun _ => True).meets_select
      (Q := fun tasks => ∀ t ∈ tasks, t.unfinished = true) (by simp)
      (fun _ _ _ member => (mem_of_timedOut member).2) trivial)
    fun _ going _ _ => sweepTask_sunoMeets clock.now going

/-! ## Polling -/

/-- No save is owed, or one has failed. -/
def Duty.Clear (duty : Duty) : Prop := duty.broken = true ∨ duty.held = none

theorem sunoUpdate_finished (fails : item.fails task = true) : (task.sunoUpdate item).unfinished = false := by
  simp [Task.unfinished, Task.sunoUpdate, fails]

theorem task_saveTask (s : TaskStore) (t : Task) (id : Int) :
    (s.saveTask t).task id = if id = t.id then some t else s.task id := by
  unfold saveTask
  split
  · rename_i exists_
    obtain ⟨row, found⟩ := isSome_iff_exists.mp exists_
    exact task_putTask found id
  · rename_i missing
    exact find_append (not_isSome_iff_eq_none.mp missing) id

/-- The save of a row: what is owed for it is done, or will never be. -/
theorem update_sunoMeets (owed : duty.broken = true ∨ duty.held = none ∨ duty.held = some t.id ∧ t.unfinished = false) :
    (Program.store t.update).Meets (sunoSetting true) duty fun _ => Clear := by
  refine .store fun s faults _ _ => ?_
  rcases exec_update t s faults with ⟨e, ran⟩ | ran
  · rw [ran]
    have events : newEvents s (s.log (.unsaved t.id)) = [.unsaved t.id] := newEvents_eq rfl
    have none_ : newRefunds s (s.log (.unsaved t.id)) = [] := by simp [newRefunds, events, refundOf]
    refine ⟨fun _ => ⟨⟨_, rfl⟩, .inl none_, by simp, by simp [events]⟩, ?_⟩
    rcases owed with broken | nothing | ⟨held, -⟩
    · exact .inl (by simp [sunoSetting, after, broken])
    · exact .inr (by simp [sunoSetting, after, none_, nothing])
    · exact .inl (by simp [sunoSetting, after, events, held])
  · rw [ran]
    have events : newEvents s ((s.saveTask t).log (.saved t.id)) = [.saved t.id] := by
      apply newEvents_eq
      unfold saveTask
      split <;> rfl
    have none_ : newRefunds s ((s.saveTask t).log (.saved t.id)) = [] := by simp [newRefunds, events, refundOf]
    constructor
    · intro intact
      refine ⟨⟨[.saved t.id], ?_⟩, .inl none_, by simp, ?_⟩
      · unfold saveTask
        split <;> rfl
      intro id holds _
      rcases owed with broken | nothing | ⟨held, closed⟩
      · rw [intact] at broken
        cases broken
      · rw [nothing] at holds
        cases holds
      · rw [held, Option.some.injEq] at holds
        subst holds
        have here : ((s.saveTask t).log (.saved t.id)).task t.id = some t :=
          (task_saveTask s t t.id).trans (if_pos rfl)
        rw [unfinishedAt, here]
        exact closed
    · rcases owed with broken | nothing | ⟨held, -⟩
      · exact .inl (by simp [sunoSetting, after, broken])
      · exact .inr (by simp [sunoSetting, after, none_, nothing])
      · exact .inr (by simp [sunoSetting, after, none_, events, held])

theorem updateSunoTask_meets (clear : duty.Clear) :
    (updateSunoTask cfg task item).Meets (sunoSetting true) duty fun _ => Clear := by
  unfold updateSunoTask
  split
  · refine .bind (Q := fun _ duty' => duty'.broken = true ∨ duty'.held = none ∨
      duty'.held = some task.id ∧ item.fails task = true) ?_ ?_
    · split
      · rename_i fails
        by_cases charged : (task.sunoUpdate item).quota = 0
        · rw [refundTaskQuota, if_pos charged]
          exact clear.imp_right .inl
        refine (refundTaskQuota_meets (F := Clear)
          (sunoBookkeeping fun duty' => duty'.broken = true ∨ duty'.held = some task.id) ?_ ?_ charged).mono ?_
        · intro s s' _ logged
          refine ⟨fun intact => refund_step logged ?_, ?_⟩
          · exact clear.resolve_left (by simp [intact])
          · have one : newRefunds s s' = [task.id] := by
              rw [newRefunds, newEvents_eq logged.history]
              rfl
            exact .inr (by simp [sunoSetting, after, one])
        · intro s s' _ quiet
          exact (sunoBookkeeping Clear).quiet clear trivial quiet
        · rintro _ duty' (still | broken | held)
          · exact still.imp_right .inl
          · exact .inl broken
          · exact .inr (.inr ⟨held, fails⟩)
      · exact clear.imp_right .inl
    · intro _ duty' owed
      refine .bind (update_sunoMeets ?_) fun _ _ after => after
      refine owed.imp_right (.imp_right ?_)
      rintro ⟨held, fails⟩
      exact ⟨held, sunoUpdate_finished fails⟩
  · exact clear

variable {taskM : TaskMap}

/-- A bulk update records nothing. -/
theorem bulk_sunoMeets (ids : List Int) (params : Task → Task) (clear : duty.Clear) :
    (Program.store (taskBulkUpdateByID ids params)).Meets (sunoSetting true) duty
      fun _ => Clear := by
  refine .store fun s faults _ _ => ?_
  have same : ((taskBulkUpdateByID ids params).exec s faults).2.history = s.history ++ [] := by
    unfold taskBulkUpdateByID
    split
    · simp [Sql.exec]
    · rcases Sql.exec_autocommit (fun s : TaskStore =>
        { s with tasks := s.tasks.map fun t => if t.id ∈ ids then params t else t }) s faults with
        ⟨e, failed⟩ | ran
      · rw [failed]
        simp
      · rw [ran]
        simp
  refine ⟨fun _ => sunoStep_of_silent same (by simp) (by simp), ?_⟩
  have none_ : newRefunds s ((taskBulkUpdateByID ids params).exec s faults).2 = [] := by
    simp [newRefunds, newEvents_eq same]
  refine clear.imp (fun broken => ?_) fun nothing => ?_
  · simp [sunoSetting, after, broken]
  · simp [sunoSetting, after, none_, nothing]

theorem updateSunoChannels_meets {answers : Int → SunoAnswer} {taskIds : Int → List String}
    {channels : List Int} (clear : duty.Clear) :
    (updateSunoChannels cfg answers taskIds taskM channels).Meets (sunoSetting true) duty
      fun _ _ => True := by
  refine (updateSunoChannels_loop (N := fun _ _ => Clear) (fun _ _ _ _ clear => clear) ?_ ?_ clear).mono
    fun _ _ _ => trivial
  · intro item _ _ t duty _ clear
    exact updateSunoTask_meets clear
  · intro channelId _ _ duty clear
    refine ((sunoBookkeeping Clear).meets_quiet (fun _ _ => quiet_cacheGetChannel _ channelId) clear).mono ?_
    intro outcome duty' after
    exact ⟨after, fun _ _ => .bind (bulk_sunoMeets _ _ after) fun _ _ ended => ended⟩

theorem SunoHandler.program_meets (handler : SunoHandler) (clear : duty.Clear) :
    (handler.program cfg).Meets (sunoSetting handler.polls) duty fun _ _ => True := by
  cases handler with
  | sweep clock => exact .bind (sweepTimedOutTasks_sunoMeets clock) fun _ _ _ => trivial
  | poll order answers =>
    refine .bind ((sunoBookkeeping Clear).meets_quiet (fun _ _ => quiet_read _) clear) ?_
    intro outcome duty' after
    exact updateSunoChannels_meets after

end

/-! ## All of them -/

section
variable {ι : Type} [DecidableEq ι]

/-- The condition on a step of node `i`, in the state before it. -/
def Exclusive (polls : Bool) (i : ι) (s s' : TaskStore) (duties : ι → Duty) : Prop :=
  (∀ id ∈ written s s', unfinishedAt s id = true) ∧
  (polls = true → ∀ id ∈ newRefunds s s', unfinishedAt s id = true) ∧
  (∀ id ∈ written s s' ++ newRefunds s s', ∀ j, j ≠ i → (duties j).held ≠ some id) ∧
  ∀ id ∈ (duties i).held, .unsaved id ∉ newEvents s s'

instance [Fintype ι] (polls : Bool) (i : ι) (s s' : TaskStore) (duties : ι → Duty) :
    Decidable (Exclusive polls i s s' duties) := inferInstanceAs (Decidable (_ ∧ _ ∧ _ ∧ _))

/-- Any interleaving of the nodes' calls, each of which may fail, with what every node owes. -/
def sunoRules (handler : ι → SunoHandler) (admits : Bool → ι → TaskStore → TaskStore → (ι → Duty) → Prop) :
    Pool.Rules TaskStore ι (ι → Duty) where
  env _ _ := False
  guard i _ s s' duties := admits (handler i).polls i s s' duties
  own i _ s s' duties := update duties i ((duties i).after (handler i).polls s s')
  outside _ _ duties := duties

/-- A task that was refunded is finished in the table or about to be saved; a task whose
refund is still due was not refunded. -/
structure Refunded (handler : ι → SunoHandler) (s : TaskStore) (duties : ι → Duty) : Prop where
  once : ∀ id, refunds s id ≤ 1
  closed : ∀ id, 0 < refunds s id → unfinishedAt s id = false ∨ ∃ j, (duties j).held = some id
  intact : ∀ i, (duties i).broken = false
  sweeps : ∀ i, (handler i).polls = false → (duties i).held = none
  due : ∀ i id, (duties i).due id = true → refunds s id = 0 ∧ unfinishedAt s id = false ∧
    ∀ j, (duties j).due id = true → j = i

namespace Refunded

variable {handler : ι → SunoHandler} {s s' : TaskStore} {duties : ι → Duty} {i : ι} {id : Int}

omit [DecidableEq ι] in
/-- A task nobody else is at, unfinished in the table: only the node itself can have
refunded it. -/
theorem unrefunded (holds : Refunded handler s duties) (open_ : unfinishedAt s id = true)
    (alone : ∀ j, j ≠ i → (duties j).held ≠ some id) (mine : (duties i).held ≠ some id) : refunds s id = 0 := by
  by_contra some_
  rcases holds.closed id (by omega) with closed | ⟨j, held⟩
  · rw [open_] at closed
    cases closed
  · by_cases self : j = i
    · subst self
      exact mine held
    · exact alone j self held

theorem held_after {polls : Bool} {duty : Duty} (held : duty.held = some id)
    (none_ : newRefunds s s' = []) (unsaved : .saved id ∉ newEvents s s') : (duty.after polls s s').held = some id := by
  simp [after, none_, held, unsaved]

variable (holds : Refunded handler s duties) (admitted : Exclusive (handler i).polls i s s' duties)
  (stepped : SunoStep (handler i).polls s s' (duties i))

include holds admitted stepped

omit [DecidableEq ι] in
/-- A refund is a first one. -/
theorem first_refund (new : id ∈ newRefunds s s') : refunds s id = 0 ∧ newRefunds s s' = [id] := by
  rcases stepped.refund with none_ | ⟨id', one, -, owed⟩
  · rw [none_] at new
    cases new
  rw [one, List.mem_singleton] at new
  subst new
  refine ⟨?_, one⟩
  obtain ⟨-, refundable, alone, -⟩ := admitted
  cases polls : (handler i).polls with
  | true =>
    rw [polls] at owed refundable
    have open_ := refundable rfl id (by simp [one])
    exact holds.unrefunded open_ (alone id (by simp [one])) (by simp [show (duties i).held = none from owed])
  | false =>
    rw [polls] at owed
    exact (holds.due i id owed).1

omit [DecidableEq ι] in
theorem once_step (id : Int) : refunds s' id ≤ 1 := by
  obtain ⟨events, grown⟩ := stepped.grown
  rw [refunds_grown grown]
  have before := holds.once id
  by_cases new : id ∈ newRefunds s s'
  · obtain ⟨zero, one⟩ := holds.first_refund admitted stepped new
    simp [zero, one]
  · rw [List.count_eq_zero_of_not_mem new]
    exact before

/-- A refunded task has ended, or whoever refunded it still has its save to make. -/
theorem closed_step (some_ : 0 < refunds s' id) : unfinishedAt s' id = false ∨
      ∃ j, (update duties i ((duties i).after (handler i).polls s s') j).held = some id := by
  obtain ⟨events, grown⟩ := stepped.grown
  rw [refunds_grown grown] at some_
  by_cases new : id ∈ newRefunds s s'
  · -- a poll has its save to make, a sweep had finished the row before
    obtain ⟨-, one⟩ := holds.first_refund admitted stepped new
    rcases stepped.refund with none_ | ⟨id', one', untouched, owed⟩
    · rw [none_] at one
      cases one
    obtain rfl : id' = id := by simpa using one'.symm.trans one
    cases polls : (handler i).polls with
    | true => exact .inr ⟨i, by simp [after, one]⟩
    | false =>
      rw [polls] at owed
      have unwritten : id' ∉ written s s' := by simp [untouched]
      left
      rw [unfinishedAt_of_not_written unwritten]
      exact (holds.due i id' owed).2.1
  · rw [List.count_eq_zero_of_not_mem new, Nat.add_zero] at some_
    rcases holds.closed id some_ with closed | ⟨j, held⟩
    · -- a finished row is not written
      left
      have unwritten : id ∉ written s s' := by
        intro member
        rw [admitted.1 id member] at closed
        cases closed
      rw [unfinishedAt_of_not_written unwritten]
      exact closed
    · by_cases self : j = i
      · subst self
        have none_ : newRefunds s s' = [] := by
          rcases stepped.refund with none_ | ⟨id', -, -, owed⟩
          · exact none_
          cases polls : (handler j).polls with
          | true =>
            rw [polls] at owed
            rw [show (duties j).held = none from owed] at held
            cases held
          | false =>
            rw [holds.sweeps j polls] at held
            cases held
        by_cases saved : .saved id ∈ newEvents s s'
        · exact .inl (stepped.saved id held saved)
        · exact .inr ⟨j, by rw [update_self]; exact held_after held none_ saved⟩
      · exact .inr ⟨j, by rw [update_of_ne self]; exact held⟩

/-- A refund that is due is due to one sweep, of a row that has ended and was not refunded. -/
theorem due_step {j : ι} (due : (update duties i ((duties i).after (handler i).polls s s') j).due id = true) :
    refunds s' id = 0 ∧ unfinishedAt s' id = false ∧
      ∀ k, (update duties i ((duties i).after (handler i).polls s s') k).due id = true → k = j := by
  obtain ⟨events, grown⟩ := stepped.grown
  -- whoever owes the refund owed it before, or has just failed the row
  have origin : ∀ k, (update duties i ((duties i).after (handler i).polls s s') k).due id = true →
      (duties k).due id = true ∨ k = i ∧ (handler i).polls = false ∧ id ∈ written s s' := by
    intro k owed
    by_cases self : k = i
    · subst self
      simp only [update_self, after, Bool.and_eq_true, Bool.or_eq_true, Bool.not_eq_true', decide_eq_true_eq] at owed
      exact owed.2.imp_right fun fresh => ⟨rfl, fresh⟩
    · rw [update_of_ne self] at owed
      exact .inl owed
  have unwritten : ∀ k, (duties k).due id = true → id ∉ written s s' := by
    intro k owed member
    have closed := (holds.due k id owed).2.1
    rw [admitted.1 id member] at closed
    cases closed
  -- none of them is refunded by this step
  have quiet : id ∉ newRefunds s s' := by
    intro new
    rcases stepped.refund with none_ | ⟨id', one, untouched, owed⟩
    · rw [none_] at new
      cases new
    rw [one, List.mem_singleton] at new
    subst new
    rcases origin j due with old | ⟨-, -, member⟩
    · cases polls : (handler i).polls with
      | true =>
        have open_ := admitted.2.1 polls id (by simp [one])
        rw [(holds.due j id old).2.1] at open_
        cases open_
      | false =>
        rw [polls] at owed
        have self := (holds.due j id old).2.2 i owed
        subst self
        simp [after, one] at due
    · rw [untouched] at member
      cases member
  have count : refunds s' id = refunds s id := by
    rw [refunds_grown grown, List.count_eq_zero_of_not_mem quiet, Nat.add_zero]
  rcases origin j due with old | ⟨rfl, polls, member⟩
  · obtain ⟨zero, closed, unique⟩ := holds.due j id old
    refine ⟨by rw [count, zero], ?_, fun k owed => ?_⟩
    · rw [unfinishedAt_of_not_written (unwritten j old)]
      exact closed
    · rcases origin k owed with old' | ⟨-, -, member⟩
      · exact unique k old'
      · exact absurd member (unwritten j old)
  · have mine : (duties j).held ≠ some id := by simp [holds.sweeps j polls]
    have zero := holds.unrefunded (admitted.1 id member) (admitted.2.2.1 id (by simp [member])) mine
    refine ⟨by rw [count, zero], stepped.swept polls id member, fun k owed => ?_⟩
    rcases origin k owed with old | ⟨same, -⟩
    · exact absurd member (unwritten k old)
    · exact same

/-- **One step of one node.** -/
theorem step : Refunded handler s' (update duties i ((duties i).after (handler i).polls s s')) where
  once := holds.once_step admitted stepped
  closed _ some_ := holds.closed_step admitted stepped some_
  intact j := by
    by_cases self : j = i
    · subst self
      have held : (duties j).held.any (fun id => decide (TaskEvent.unsaved id ∈ newEvents s s')) = false := by
        cases owed : (duties j).held with
        | none => rfl
        | some id => simpa using admitted.2.2.2 id (by simp [owed])
      simp [after, holds.intact j, held]
    · rw [update_of_ne self]
      exact holds.intact j
  sweeps j polls := by
    by_cases self : j = i
    · subst self
      rw [update_self]
      have nothing := holds.sweeps j polls
      cases new : newRefunds s s' <;> simp [after, polls, nothing, new]
    · rw [update_of_ne self]
      exact holds.sweeps j polls
  due _ _ owed := holds.due_step admitted stepped owed

end Refunded

variable {cfg : TaskConfig} {handler : ι → SunoHandler} {s₀ : TaskStore}
  {c : Pool TaskStore (Except String Unit) ι} {duties : ι → Duty}

/-- **A Suno task is refunded at most once** in every run whose steps keep apart: a row is
written and a task refunded by a poll only while the row is unfinished, nobody touches a
task between another node's refund and save, and that save does not fail. -/
theorem sunoTasks_refunded_once (blank : s₀.history = []) (run : Pool.Run (sunoRules handler Exclusive)
      (Pool.initial s₀ fun i => (handler i).program cfg) (fun _ => .none_) c duties) (id : Int) :
    refunds c.store id ≤ 1 := by
  refine (Pool.Run.meets (fun i => sunoSetting (handler i).polls) (fun _ _ _ => True)
    (fun i duties => duties i) (Refunded handler) ?_ (fun i => (handler i).program_meets (.inr rfl))
    ⟨fun _ _ _ _ => trivial, fun _ _ _ _ _ _ _ => trivial, ?_, ?_, ?_, ?_⟩ run).1.once id
  · constructor <;> simp [refunds, blank, none_]
  · intro i faults s s' duties
    exact update_self i _ _
  · intro i j faults s s' duties other
    exact update_of_ne other _ _
  · intro i faults s s' duties holds admitted kept
    exact holds.step admitted (kept (holds.intact i))
  · intro s s' duties holds changed
    exact changed.elim

end

/-! ## Two runs -/

def songTask : Task :=
  ⟨1, "task_1", .suno, 1, "default", 1, 50, .inProgress, "", 1800000000, 0, 0, "0%", "suno_music",
    ⟨"song", "", "wallet", 0, 0, none⟩, []⟩

def songStore : TaskStore where
  accounts := { Store.empty with users := fun id => some ⟨id, "default", 0, "", ""⟩ }
  tasks := [songTask]
  channels id := if id = 1 then some ⟨1, some "", .enabled, none⟩ else none
  channelsIDM _ := none
  history := []

def sunoConfig : TaskConfig := { taskConfig with getTaskAdaptor := fun _ => some ⟨fun _ _ => 0⟩ }

/-- Two nodes that hear of the failure of the song. -/
def pollTwice (_ : Fin 2) : SunoHandler :=
  .poll .inserted fun _ => .items [⟨"song", .failure, "moderated", 1800000000, 0, 0, []⟩]

/-- The second node reads the table after the first has saved the row. -/
theorem sunoTasks_refunded_once_inTurn : ∃ c duties, Pool.Run (sunoRules pollTwice Exclusive)
        (Pool.initial songStore fun i => (pollTwice i).program sunoConfig) (fun _ => .none_) c duties ∧
      (∀ i, c.succeeded i = true) ∧ refunds c.store 1 = 1 ∧ refunds c.store 1 ≤ 1 ∧
      walletOf c.store.accounts 1 = some 50 := by
  refine Pool.exists_play
    (fun c _ => (∀ i, c.succeeded i = true) ∧ refunds c.store 1 = 1 ∧ walletOf c.store.accounts 1 = some 50)
    (fun i s s' duties => decide (Exclusive (pollTwice i).polls i s s' duties))
    (fun i s s' duties admitted => by simpa [sunoRules] using admitted)
    [.main 0, .main 0, .main 0, .main 0, .main 1] (by decide +kernel) ?_
  rintro c duties run ⟨over_, once, wallet⟩
  exact ⟨over_, once, sunoTasks_refunded_once rfl run 1, wallet⟩

/-- Both nodes have read the table before either saves the row: user 1 gets 100 back for
the 50 that were charged. -/
theorem sunoTask_refunded_twice : ∃ c duties, Pool.Run (sunoRules pollTwice fun _ _ _ _ _ => True)
        (Pool.initial songStore fun i => (pollTwice i).program sunoConfig) (fun _ => .none_) c duties ∧
      (∀ i, c.succeeded i = true) ∧ songTask.quota = 50 ∧ refunds c.store 1 = 2 ∧
      walletOf c.store.accounts 1 = some 100 := by
  exact Pool.exists_free_play (fun _ _ _ _ => trivial)
    [.main 0, .main 1, .main 0, .main 1, .main 0, .main 1, .main 0, .main 1] (by decide +kernel)

end NewApi.Tasks
