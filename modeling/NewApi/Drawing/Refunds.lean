/-
# Drawing.Refunds — a Midjourney task is refunded at most once

A node refunds a task after an update that hit the row and asked for the status the node has read.
That keeps two nodes apart only if the update changes the status: an answer that fails a task may
leave it as it was, and a callback may lift FAILURE again (`drawing_refunded_twice`).

`Due` is the task whose quota a node is about to give back.  `Settled`, the condition on a step: what
fails a task turns another status into FAILURE, and FAILURE stays.
-/
import NewApi.Model.Midjourney
import NewApi.Theory.Contract

namespace NewApi.Drawing
open Theory Model Function Pool Sql

/-! ## Handlers -/

inductive DrawingHandler where
  | poll (rounds : List MjRound)
  | notify (body : Option MidjourneyDto)

def DrawingHandler.program (cfg : MjConfig) : DrawingHandler → Program MjStore Unit
  | .poll rounds => do
      let _ ← updateMidjourneyTaskBulk cfg rounds
      .done ()
  | .notify body => do
      let _ ← relayMidjourneyNotify cfg body
      .done ()

def refundOf : MjEvent → Option Int
  | .refunded id _ _ => some id
  | .updated _ _ _ _ _ => none

/-- How often the quota of a task was given back. -/
def refunds (s : MjStore) (id : Int) : Nat := (s.history.filterMap refundOf).count id

def newEvents (s s' : MjStore) : List MjEvent := s'.history.drop s.history.length

variable {id : Int}

theorem refunds_of_updated {s s' : MjStore} {before after : MjStatus} {returnsQuota won : Bool}
    (grown : s'.history = s.history ++ [.updated id before after returnsQuota won]) (other : Int) :
    refunds s' other = refunds s other := by
  have silent : [MjEvent.updated id before after returnsQuota won].filterMap refundOf = [] := rfl
  simp [refunds, grown, silent]

theorem refunds_of_refunded {s s' : MjStore} {userId quota : Int}
    (grown : s'.history = s.history ++ [.refunded id userId quota]) (other : Int) :
    refunds s' other = refunds s other + if other = id then 1 else 0 := by
  have one : [MjEvent.refunded id userId quota].filterMap refundOf = [id] := rfl
  have counted : refunds s' other = refunds s other + [id].count other := by simp [refunds, grown, one]
  rw [counted, List.count_singleton]
  by_cases same : id = other
  · simp [same]
  · simp [same, Ne.symm same]

theorem newEvents_eq {s s' : MjStore} {events : List MjEvent} (grown : s'.history = s.history ++ events) :
    newEvents s s' = events := by
  simp [newEvents, grown]

def Failed (s : MjStore) (id : Int) : Prop := ∃ row, s.midjourney id = some row ∧ row.status = .failure

instance (s : MjStore) (id : Int) : Decidable (Failed s id) :=
  decidable_of_iff (∃ row ∈ s.midjourney id, row.status = .failure) Iff.rfl

/-! ## What a call does -/

/-- The task whose quota a node is about to give back. -/
abbrev Due := Option Int

/-- The task an update was for, when it hit and the quota is to be given back. -/
def dueOf : MjEvent → Due
  | .updated id _ _ true true => some id
  | _ => none

/-- A call of a node that is about to give back the quota of `due`. -/
inductive DrawingStep (s s' : MjStore) (due : Due) : Prop where
  /-- it says nothing of refunds, whatever it does to the rows -/
  | quiet (same : s'.history = s.history)
  | lost (id : Int) (before after : MjStatus) (returnsQuota : Bool)
      (grown : s'.history = s.history ++ [.updated id before after returnsQuota false])
      (rows : s'.midjourneys = s.midjourneys)
  | won (id : Int) (old new : Midjourney) (returnsQuota : Bool)
      (found : s.midjourney id = some old) (written : s'.midjourney id = some new)
      (grown : s'.history = s.history ++ [.updated id old.status new.status returnsQuota true])
  | refund (id userId quota : Int) (mine : due = some id)
      (grown : s'.history = s.history ++ [.refunded id userId quota])
      (rows : s'.midjourneys = s.midjourneys)

def drawingSetting : Setting MjStore Due where
  meets _ _ := True
  sees _ _ := True
  moves s s' _ := (newEvents s s').findSome? dueOf
  keeps s s' due := DrawingStep s s' due

section
variable {cfg : MjConfig} {due : Due} {s : MjStore}

theorem meets_quiet {α : Type} {act : MjDb α} (quiet : ∀ s faults, (act.exec s faults).2.history = s.history) :
    (Program.store act).Meets drawingSetting due fun _ _ => True :=
  .store fun s faults _ _ => ⟨.quiet (quiet s faults), trivial⟩

theorem autocommit_quiet {change : MjStore → MjStore} (keeps : ∀ s, (change s).history = s.history)
    (s : MjStore) (faults : Faults) : ((autocommit change).exec s faults).2.history = s.history := by
  rcases exec_autocommit change s faults with ⟨e, failed⟩ | ran
  · rw [failed]
  · rw [ran]
    exact keeps s

variable (task : Midjourney)

theorem swap_cases (fromStatus : MjStatus) (s : MjStore) :
    task.swap fromStatus s = (false, s) ∨ ∃ row, s.midjourney task.id = some row ∧
      row.status = fromStatus ∧ task.swap fromStatus s = (true, s.put task) := by
  unfold Midjourney.swap
  split
  · rename_i row found
    split
    · rename_i status
      exact .inr ⟨row, found, status, rfl⟩
    · exact .inl rfl
  · exact .inl rfl

/-- The update of the poller fails, or is recorded, and then it hit or not. -/
theorem exec_pollUpdate (dto : MidjourneyDto) (s : MjStore) (faults : Faults) :
    (∃ e, (task.pollUpdate cfg dto).exec s faults = (.error e, s)) ∨
    (task.pollUpdate cfg dto).exec s faults = (.ok false,
      s.log (.updated task.id task.status dto.status (task.shouldReturnQuota dto) false)) ∨
    ∃ row, s.midjourney task.id = some row ∧ row.status = task.status ∧
      (task.pollUpdate cfg dto).exec s faults = (.ok true, (s.put (task.polled cfg dto)).log
        (.updated task.id task.status dto.status (task.shouldReturnQuota dto) true)) := by
  have composed : (task.pollUpdate cfg dto).exec s faults =
      match ((task.polled cfg dto).updateWithStatus task.status).exec s faults with
      | (.ok won, s') => (.ok won, s'.log (.updated task.id task.status dto.status (task.shouldReturnQuota dto) won))
      | (.error e, s') => (.error e, s') := by
    simp only [Midjourney.pollUpdate, exec, bind_apply]
    rcases (task.polled cfg dto).updateWithStatus task.status ⟨s, id, faults⟩ with ⟨outcome | _, after⟩ <;> rfl
  rw [composed]
  rcases exec_affect ((task.polled cfg dto).swap task.status) s faults with ⟨e, failed⟩ | ran
  · exact .inl ⟨e, by rw [Midjourney.updateWithStatus, failed]⟩
  · right
    rw [Midjourney.updateWithStatus, ran]
    rcases swap_cases (task.polled cfg dto) task.status s with missed | ⟨row, found, status, hit⟩
    · rw [missed]
      exact .inl rfl
    · rw [hit]
      exact .inr ⟨row, found, status, rfl⟩

/-- Whoever wins the update of a task that fails owes the refund, and no one else does. -/
theorem pollUpdate_meets (dto : MidjourneyDto) :
    (Program.store (task.pollUpdate cfg dto)).Meets drawingSetting due fun outcome due' =>
      outcome = .ok true → task.shouldReturnQuota dto = true → due' = some task.id := by
  refine .store fun s faults _ _ => ?_
  rcases exec_pollUpdate task dto s faults with ⟨e, failed⟩ | lost | ⟨row, found, status, won⟩
  · rw [failed]
    exact ⟨.quiet rfl, nofun⟩
  · rw [lost]
    exact ⟨.lost task.id task.status dto.status _ rfl rfl, nofun⟩
  rw [won]
  constructor
  · have written : (s.put (task.polled cfg dto)).midjourney task.id = some (task.polled cfg dto) :=
      (s.midjourney_put (task.polled cfg dto) found task.id).trans (if_pos rfl)
    refine .won task.id row (task.polled cfg dto) (task.shouldReturnQuota dto) found written ?_
    rw [status]
    rfl
  · intro _ returns
    simp only [drawingSetting, returns]
    have grown : ((s.put (task.polled cfg dto)).log (.updated task.id task.status dto.status true true)).history =
          s.history ++ [.updated task.id task.status dto.status true true] := rfl
    rw [newEvents_eq grown]
    rfl

theorem exec_returnQuota (s : MjStore) (faults : Faults) : ((task.returnQuota cfg).exec s faults).2 =
    match (increaseUserQuota cfg.accounts task.userId task.quota false).exec s.accounts faults with
    | (.ok _, accounts) => { s with accounts }.log (.refunded task.id task.userId task.quota)
    | (.error _, accounts) => { s with accounts } := by
  simp only [Midjourney.returnQuota, recorded, onAccounts, exec, bind_apply, zoom, Site.accounts, Site.withAccounts]
  rcases increaseUserQuota cfg.accounts task.userId task.quota false ⟨s.accounts, id, faults⟩ with
    ⟨outcome | _, after⟩ <;> rfl

/-- The quota is given back to the task whose turn it is. -/
theorem returnQuota_meets (mine : due = some task.id) :
    (Program.store (task.returnQuota cfg)).Meets drawingSetting due fun _ _ => True := by
  refine .store fun s faults _ _ => ⟨?_, trivial⟩
  rw [exec_returnQuota]
  split
  · exact .refund task.id task.userId task.quota mine rfl rfl
  · exact .quiet rfl

/-! ## Handlers step by step -/

theorem updateMjTask_meets (item : MjItem) :
    (updateMjTask cfg task item).Meets drawingSetting due fun _ _ => True := by
  unfold updateMjTask
  split
  · refine .bind (pollUpdate_meets task (item.judged task)) ?_
    intro outcome due' owed
    cases outcome with
    | error e => trivial
    | ok won =>
      dsimp only
      split
      · rename_i hit
        obtain ⟨rfl, returns⟩ := hit
        exact .bind (returnQuota_meets task (owed rfl returns)) fun _ _ _ => trivial
      · trivial
  · trivial

theorem updateMjItems_meets (items : List MjItem) (taskM : MjTaskMap) :
    (updateMjItems cfg taskM items).Meets drawingSetting due fun _ _ => True := by
  induction items generalizing taskM due with
  | nil => trivial
  | cons item rest ih =>
    unfold updateMjItems
    split
    · trivial
    · exact .bind (updateMjTask_meets _ item) fun _ _ _ => ih _

theorem updateMjChannel_meets (answer : MjAnswer) (channelId : Int) (taskIds : List String) (taskM : MjTaskMap) :
    (updateMjChannel cfg answer channelId taskIds taskM).Meets drawingSetting due fun _ _ => True := by
  unfold updateMjChannel
  split
  · trivial
  refine .bind (meets_quiet fun s faults => ?_) ?_
  · rw [exec_cacheGetChannel]
  intro outcome due' _
  cases outcome with
  | error e =>
    exact .bind (meets_quiet (autocommit_quiet fun _ => rfl)) fun _ _ _ => trivial
  | ok channel =>
    dsimp only
    split
    · trivial
    · trivial
    · exact updateMjItems_meets _ _

theorem updateMjChannels_meets (answers : Int → MjAnswer) (taskIds : Int → List String)
    (channels : List Int) (taskM : MjTaskMap) :
    (updateMjChannels cfg answers taskIds taskM channels).Meets drawingSetting due fun _ _ => True := by
  induction channels generalizing taskM due with
  | nil => trivial
  | cons channelId rest ih =>
    refine .bind (updateMjChannel_meets _ channelId _ taskM) ?_
    intro outcome _ _
    cases outcome with
    | error e => trivial
    | ok taskM' => exact ih taskM'

theorem updateMidjourneyTaskRound_meets (round : MjRound) :
    (updateMidjourneyTaskRound cfg round).Meets drawingSetting due fun _ _ => True := by
  refine .bind (meets_quiet fun s faults => ?_) fun outcome _ _ => ?_
  · exact congrArg MjStore.history (exec_read_snd _ s faults)
  refine .bind (Q := fun _ _ => True) ?_ fun _ _ _ => updateMjChannels_meets _ _ _ _
  unfold fixNullTasks
  split
  · trivial
  · exact .bind (meets_quiet (autocommit_quiet fun _ => rfl)) fun _ _ _ => trivial

theorem updateMidjourneyTaskBulk_meets (rounds : List MjRound) :
    (updateMidjourneyTaskBulk cfg rounds).Meets drawingSetting due fun _ _ => True := by
  induction rounds generalizing due with
  | nil => trivial
  | cons round rest ih =>
    refine .bind (updateMidjourneyTaskRound_meets round) ?_
    intro outcome _ _
    cases outcome with
    | error e => trivial
    | ok _ => exact ih

theorem relayMidjourneyNotify_meets (body : Option MidjourneyDto) :
    (relayMidjourneyNotify cfg body).Meets drawingSetting due fun _ _ => True := by
  unfold relayMidjourneyNotify
  split
  · trivial
  refine .bind (meets_quiet fun s faults => ?_) ?_
  · exact congrArg MjStore.history (exec_read_snd _ s faults)
  intro outcome _ _
  split
  · refine .bind (meets_quiet (autocommit_quiet fun s => s.save_history _)) ?_
    intro outcome _ _
    cases outcome <;> trivial
  · trivial

theorem DrawingHandler.program_meets (handler : DrawingHandler) :
    (handler.program cfg).Meets drawingSetting due fun _ _ => True := by
  cases handler with
  | poll rounds =>
    exact .bind (updateMidjourneyTaskBulk_meets rounds) fun _ _ _ => trivial
  | notify body => exact .bind (relayMidjourneyNotify_meets body) fun _ _ _ => trivial

end

/-! ## All of them -/

/-- An update after which quota is given back is one from another status to FAILURE. -/
def FailsAnew : MjEvent → Prop
  | .updated _ before after true _ => before ≠ .failure ∧ after = .failure
  | _ => True

instance : DecidablePred FailsAnew
  | .updated _ before after true _ => inferInstanceAs (Decidable (before ≠ .failure ∧ after = .failure))
  | .updated _ _ _ false _ => inferInstanceAs (Decidable True)
  | .refunded _ _ _ => inferInstanceAs (Decidable True)

/-- What fails a task turns another status into FAILURE, and FAILURE stays. -/
structure Settled (s s' : MjStore) : Prop where
  fails : ∀ event ∈ newEvents s s', FailsAnew event
  stays : ∀ row ∈ s.midjourneys, Failed s row.id → Failed s' row.id

instance (s s' : MjStore) : Decidable (Settled s s') :=
  decidable_of_iff ((∀ event ∈ newEvents s s', FailsAnew event) ∧
    ∀ row ∈ s.midjourneys, Failed s row.id → Failed s' row.id)
    ⟨fun both => ⟨both.1, both.2⟩, fun settled => ⟨settled.fails, settled.stays⟩⟩

section
variable {ι : Type} [DecidableEq ι]

/-- Any interleaving of steps that meet `admitted`, in which any call may fail. -/
def drawingRules (admitted : MjStore → MjStore → Prop) : Rules MjStore ι (ι → Due) where
  env _ _ := False
  guard _ _ s s' _ := admitted s s'
  own i _ s s' due := update due i ((newEvents s s').findSome? dueOf)
  outside _ _ due := due

structure Kept (s : MjStore) (due : ι → Due) : Prop where
  single : ∀ i j id, due i = some id → due j = some id → i = j
  fresh : ∀ i id, due i = some id → refunds s id = 0
  once : ∀ id, refunds s id ≤ 1
  final : ∀ id, (∃ i, due i = some id) ∨ 0 < refunds s id → Failed s id

theorem Settled.failed {s s' : MjStore} (settled : Settled s s') {id : Int} (failed : Failed s id) : Failed s' id := by
  obtain ⟨row, found, status⟩ := failed
  obtain ⟨member, rfl⟩ := Rows.mem_of_find found
  exact settled.stays row member ⟨row, found, status⟩

namespace Kept

variable {s s' : MjStore} {due : ι → Due} {i : ι}

/-- A step that neither refunds nor leads to a refund. -/
theorem idle (kept : Kept s due) (stays : ∀ id, Failed s id → Failed s' id)
    (same : ∀ id, refunds s' id = refunds s id) : Kept s' (update due i none) where
  single j k id first second := by
    have held : ∀ l, update due i none l = some id → due l = some id := by
      intro l here
      by_cases self : l = i
      · rw [self, update_self] at here
        cases here
      · rwa [update_of_ne self] at here
    exact kept.single j k id (held j first) (held k second)
  fresh j id here := by
    by_cases self : j = i
    · rw [self, update_self] at here
      cases here
    · rw [update_of_ne self] at here
      rw [same]
      exact kept.fresh j id here
  once id := by
    rw [same]
    exact kept.once id
  final id why := by
    apply stays
    apply kept.final
    rcases why with ⟨j, here⟩ | refunded
    · by_cases self : j = i
      · rw [self, update_self] at here
        cases here
      · rw [update_of_ne self] at here
        exact .inl ⟨j, here⟩
    · rw [same] at refunded
      exact .inr refunded

variable {id : Int}

section
variable (kept : Kept s due) (stays : ∀ id, Failed s id → Failed s' id)
include kept stays

/-- The update that fails a task that had not failed. -/
theorem wins (same : ∀ id, refunds s' id = refunds s id) (before : ¬ Failed s id) (after : Failed s' id) :
    Kept s' (update due i (some id)) := by
  have nobody : ∀ j, due j ≠ some id := fun j here => before (kept.final id (.inl ⟨j, here⟩))
  have unrefunded : refunds s id = 0 := by
    by_contra refunded
    exact before (kept.final id (.inr (Nat.pos_of_ne_zero refunded)))
  have idle : Kept s' (update due i none) := kept.idle stays same
  constructor
  · intro j k other first second
    by_cases selfJ : j = i <;> by_cases selfK : k = i
    · rw [selfJ, selfK]
    · rw [selfJ, update_self, Option.some.injEq] at first
      rw [update_of_ne selfK, ← first] at second
      exact absurd second (nobody k)
    · rw [selfK, update_self, Option.some.injEq] at second
      rw [update_of_ne selfJ, ← second] at first
      exact absurd first (nobody j)
    · rw [update_of_ne selfJ] at first
      rw [update_of_ne selfK] at second
      exact kept.single j k other first second
  · intro j other here
    rw [same]
    by_cases self : j = i
    · rw [self, update_self, Option.some.injEq] at here
      rw [← here]
      exact unrefunded
    · rw [update_of_ne self] at here
      exact kept.fresh j other here
  · exact idle.once
  · intro other why
    rcases why with ⟨j, here⟩ | refunded
    · by_cases self : j = i
      · rw [self, update_self, Option.some.injEq] at here
        rw [← here]
        exact after
      · rw [update_of_ne self] at here
        exact stays other (kept.final other (.inl ⟨j, here⟩))
    · exact idle.final other (.inr refunded)

/-- The refund of the task whose turn it is. -/
theorem gives
    (mine : due i = some id) (more : ∀ other, refunds s' other = refunds s other + if other = id then 1 else 0) :
    Kept s' (update due i none) := by
  have unrefunded := kept.fresh i id mine
  have held : ∀ l other, update due i none l = some other → l ≠ i ∧ due l = some other := by
    intro l other here
    by_cases self : l = i
    · rw [self, update_self] at here
      cases here
    · rw [update_of_ne self] at here
      exact ⟨self, here⟩
  constructor
  · intro j k other first second
    exact kept.single j k other (held j other first).2 (held k other second).2
  · intro j other here
    obtain ⟨self, owed⟩ := held j other here
    -- only one node is about to refund a task
    have different : other ≠ id := by
      rintro rfl
      exact self (kept.single j i _ owed mine)
    rw [more, if_neg different, kept.fresh j other owed]
  · intro other
    rw [more]
    split
    · rename_i same
      rw [same, unrefunded]
    · exact kept.once other
  · intro other why
    apply stays
    apply kept.final
    rcases why with ⟨j, here⟩ | refunded
    · exact .inl ⟨j, (held j other here).2⟩
    · by_cases same : other = id
      · rw [same]
        exact .inl ⟨i, mine⟩
      · rw [more, if_neg same] at refunded
        exact .inr refunded

end

/-- **One step of one handler.** -/
theorem step (kept : Kept s due) (settled : Settled s s') (stepped : DrawingStep s s' (due i)) :
    Kept s' (update due i ((newEvents s s').findSome? dueOf)) := by
  have stays : ∀ id, Failed s id → Failed s' id := fun id failed => settled.failed failed
  cases stepped with
  | quiet same =>
    have grown : s'.history = s.history ++ [] := by simpa using same
    rw [newEvents_eq grown]
    exact kept.idle stays fun id => by simp [refunds, same]
  | lost id before after returnsQuota grown rows =>
    rw [newEvents_eq grown]
    have nothing : [MjEvent.updated id before after returnsQuota false].findSome? dueOf = none := by
      cases returnsQuota <;> rfl
    rw [nothing]
    exact kept.idle stays (refunds_of_updated grown)
  | won id old new returnsQuota found written grown =>
    have same := refunds_of_updated grown
    rw [newEvents_eq grown]
    cases returnsQuota with
    | false => exact kept.idle stays same
    | true =>
      have anew := settled.fails
      rw [newEvents_eq grown, List.forall_mem_singleton] at anew
      obtain ⟨before, after⟩ := anew
      refine kept.wins stays same ?_ ⟨new, written, after⟩
      rintro ⟨row, found', failed⟩
      rw [found, Option.some.injEq] at found'
      rw [found'] at before
      exact before failed
  | refund id userId quota mine grown rows =>
    rw [newEvents_eq grown]
    exact kept.gives stays mine (refunds_of_refunded grown)

end Kept

variable {cfg : MjConfig} {handler : ι → DrawingHandler} {s₀ : MjStore} {c : Pool MjStore Unit ι}
  {due : ι → Due}

/-- **The quota of a Midjourney task is given back at most once**, by any number of nodes and
callbacks, while answers that fail a task turn another status into FAILURE and nothing is
written over FAILURE but FAILURE. -/
theorem drawings_refunded_once (blank : s₀.history = [])
    (run : Run (drawingRules Settled) (initial s₀ fun i => (handler i).program cfg)
      (fun _ => none) c due) (id : Int) : refunds c.store id ≤ 1 := by
  have start : Kept s₀ fun _ : ι => (none : Due) := by constructor <;> simp [refunds, blank]
  refine (Run.meets (fun _ => drawingSetting) (fun _ _ _ => True) (fun i due => due i) Kept
    start (fun i => (handler i).program_meets)
    ⟨fun _ _ _ _ => trivial, fun _ _ _ _ _ _ _ => trivial, ?_, ?_, ?_, ?_⟩ run).1.once id
  · intro i faults s s' due
    simp [drawingRules, drawingSetting]
  · intro i j faults s s' due other
    simp [drawingRules, other]
  · intro i faults s s' due kept settled stepped
    exact kept.step settled stepped
  · intro s s' due _ changed
    exact changed.elim

end

/-! ## Two nodes, or a node and a callback -/

def drawing : Midjourney :=
  ⟨1, 1, 1, .imagine, "1320098173412546", "a cat", "", "", "", 1800000000000, 0, 0, "", "", "",
    .other "IN_PROGRESS", "30%", "", 1, 50, "", ""⟩

def drawingStore : MjStore where
  accounts := { Store.empty with users := fun id => some ⟨id, "default", 0, "", ""⟩ }
  midjourneys := [drawing]
  nextId := 2
  channels id := if id = 1 then some ⟨1, some "", .enabled, none⟩ else none
  channelsIDM _ := none
  history := []

def drawingConfig : MjConfig := ⟨plainConfig, false, false, false, fun _ => "[]"⟩

def drawingDto (status : MjStatus) (progress failReason : String) : MidjourneyDto :=
  ⟨"1320098173412546", "", "", 1800000000000, 0, 0, "", "", none, status, progress, failReason, none, none⟩

def hearing (dto : MidjourneyDto) : MjRound := ⟨fun _ => .items [⟨dto, 1800000060000⟩], .inserted⟩

def bothHear (dto : MidjourneyDto) (_ : Fin 2) : DrawingHandler := .poll [hearing dto]

/-- Both have read the row before either writes it. -/
theorem drawings_refunded_once_race : ∃ c due, Run (drawingRules Settled) (initial drawingStore fun i =>
        (bothHear (drawingDto .failure "100%" "moderated") i).program drawingConfig) (fun _ => none) c due ∧
      (∀ i, (c.result i).isSome = true) ∧ walletOf c.store.accounts 1 = some 50 ∧ refunds c.store 1 ≤ 1 := by
  refine exists_play (fun c _ => (∀ i, (c.result i).isSome = true) ∧ walletOf c.store.accounts 1 = some 50)
    (fun _ s s' _ => decide (Settled s s')) (fun _ s s' _ admitted => by simpa [drawingRules] using admitted)
    [.main 0, .main 1, .main 0, .main 1, .main 0, .main 1, .main 0] (by decide +kernel) ?_
  intro c due run checked
  exact ⟨checked.1, checked.2, drawings_refunded_once rfl run 1⟩

/-- A node polls twice, and a callback comes late. -/
def pollAndNotify (i : Fin 2) : DrawingHandler :=
  if i.val = 0 then .poll [hearing (drawingDto .failure "100%" "moderated"),
    hearing (drawingDto .failure "100%" "moderated")]
  else .notify (some (drawingDto (.other "IN_PROGRESS") "50%" ""))

/-- **Quota is given back twice** when two nodes hear a reason without FAILURE, and when a
callback opens a task that has failed: user 1 has 100 for the 50 that were charged. -/
theorem drawing_refunded_twice : (∃ c due, Run (drawingRules fun _ _ => True) (initial drawingStore fun i =>
        (bothHear (drawingDto (.other "IN_PROGRESS") "50%" "moderated") i).program drawingConfig)
        (fun _ => none) c due ∧ (∀ i, (c.result i).isSome = true) ∧ refunds c.store 1 = 2 ∧
      walletOf c.store.accounts 1 = some 100) ∧ ∃ c due, Run (drawingRules fun _ _ => True)
        (initial drawingStore fun i => (pollAndNotify i).program drawingConfig) (fun _ => none) c due ∧
      (∀ i, (c.result i).isSome = true) ∧ refunds c.store 1 = 2 ∧ walletOf c.store.accounts 1 = some 100 := by
  constructor
  · exact exists_free_play (fun _ _ _ _ => trivial)
      [.main 0, .main 1, .main 0, .main 1, .main 0, .main 1, .main 0, .main 1] (by decide +kernel)
  · exact exists_free_play (fun _ _ _ _ => trivial)
      [.main 0, .main 0, .main 0, .main 0, .main 1, .main 1, .main 0, .main 0, .main 0, .main 0]
      (by decide +kernel)

end NewApi.Drawing
