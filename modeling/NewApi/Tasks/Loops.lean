/-
# Tasks.Loops — invariants of the loops of a polling round

The loops of `TaskPollingLoop` over the timed-out tasks, the platforms, the channels and the tasks of
a channel: what one turn keeps, the loop keeps, in any setting.  An invariant over the channels speaks
of `taskM` too, since a turn leaves its changes in it.
-/
import NewApi.Theory.Contract
import NewApi.Model.TaskPolling

namespace NewApi.Model

def SunoAnswer.listed : SunoAnswer → List SunoDataResponse
  | .items data => data
  | _ => []

end NewApi.Model

namespace NewApi.Tasks
open Theory Model

variable {P : Type} {K : Setting TaskStore P} {cfg : TaskConfig} {g : P} {I : P → Prop}

theorem sweepTasks_loop {now : Int} {tasks : List Task}
    (each : ∀ t ∈ tasks, ∀ g, I g → (sweepTask cfg now t).Meets K g fun _ => I) (holds : I g) :
    (sweepTasks cfg now tasks).Meets K g fun _ => I := by
  induction tasks generalizing g with
  | nil => exact holds
  | cons t rest ih =>
    refine .bind (each t (by simp) g holds) ?_
    intro _ g' after
    exact ih (fun t' later => each t' (by simp [later])) after

/-- The tasks are selected once; `selected` is what is known of them. -/
theorem sweepTimedOutTasks_loop {clock : SweepClock} (selected : Task → Prop) (holds : I g)
    (select : ∀ cutoff, (Program.store (getTimedOutUnfinishedTasks cutoff 100)).Meets K g
      fun outcome g' => I g' ∧ ∀ t ∈ outcome.toOption.getD [], selected t)
    (each : ∀ t, selected t → ∀ g, I g → (sweepTask cfg clock.now t).Meets K g fun _ => I) :
    (sweepTimedOutTasks cfg clock).Meets K g fun _ => I := by
  unfold sweepTimedOutTasks
  split
  · exact holds
  refine .bind (select _) ?_
  rintro outcome g' ⟨after, known⟩
  exact sweepTasks_loop (fun t member => each t (known t member)) after

theorem pollPlatforms_loop {round : PollingRound} {polled : List Task} {platforms : List TaskPlatform}
    (each : ∀ platform g, I g → (pollPlatform cfg round platform (platformTasks polled platform)).Meets K g fun _ => I)
    (holds : I g) : (pollPlatforms cfg round polled platforms).Meets K g fun _ => I := by
  induction platforms generalizing g with
  | nil => exact holds
  | cons platform rest ih =>
    refine .bind (each platform g holds) ?_
    intro outcome g' after
    cases outcome with
    | error e => exact after
    | ok _ => exact ih after

/-! ## Channels -/

variable {M : TaskMap → P → Prop} {taskM : TaskMap} {taskIds : Int → List String} {channels : List Int}

/-- Looking a channel up keeps `M`, and so does failing its tasks where it is missing. -/
def KeptByLookup (K : Setting TaskStore P) (cfg : TaskConfig) (M : TaskMap → P → Prop)
    (channelId : Int) (taskIds : List String) : Prop :=
  ∀ taskM g, M taskM g → (Program.store (cacheGetChannel cfg.memoryCacheEnabled channelId)).Meets K g fun outcome g' =>
    M taskM g' ∧ (outcome.toOption = none → ∀ reason, (failChannel reason taskIds taskM).Meets K g' fun _ => M taskM)

/-- `M` of the map that is left; a panic leaves none. -/
def LeftBy (M : TaskMap → P → Prop) : Except String TaskMap → P → Prop
  | .ok taskM, g => M taskM g
  | .error _, g => ∃ taskM, M taskM g

section
variable {N : List SunoDataResponse → TaskMap → P → Prop} {rest : List SunoDataResponse}
  (skip : ∀ items rest taskM g, N (items ++ rest) taskM g → N rest taskM g)
  (each : ∀ item rest taskM t g, taskM item.taskID = some t → N (item :: rest) taskM g →
    (updateSunoTask cfg t item).Meets K g fun t' => N rest (Function.update taskM item.taskID (some t')))
include skip each

/-- `N` speaks of the items that are still to come, which the loop may leave out. -/
theorem updateSunoItems_loop {items : List SunoDataResponse} (holds : N (items ++ rest) taskM g) :
    (updateSunoItems cfg taskM items).Meets K g (LeftBy (N rest)) := by
  induction items generalizing taskM g with
  | nil => exact holds
  | cons item later ih =>
    unfold updateSunoItems
    split
    · exact ⟨taskM, skip _ _ _ _ holds⟩
    · rename_i t found
      exact .bind (each item _ taskM t g found holds) fun _ _ after => ih after

theorem updateSunoChannels_loop {answers : Int → SunoAnswer}
    (lookup : ∀ channelId rest, KeptByLookup K cfg (N rest) channelId (taskIds channelId))
    (holds : N (channels.flatMap fun channelId => (answers channelId).listed) taskM g) :
    (updateSunoChannels cfg answers taskIds taskM channels).Meets K g fun _ g' => ∃ taskM', N [] taskM' g' := by
  induction channels generalizing taskM g with
  | nil => exact ⟨taskM, holds⟩
  | cons channelId later ih =>
    rw [List.flatMap_cons] at holds
    refine .bind (Q := LeftBy (N (later.flatMap fun channelId => (answers channelId).listed))) ?_ ?_
    · unfold updateSunoTasks
      split
      · exact skip _ _ _ _ holds
      refine .bind (lookup channelId _ taskM g holds) ?_
      rintro outcome g' ⟨after, failing⟩
      cases outcome with
      | error e => exact .bind (failing rfl _) fun _ _ ended => skip _ _ _ _ ended
      | ok ch =>
        dsimp only
        split
        · exact skip _ _ _ _ after
        · exact ⟨taskM, skip _ _ _ _ after⟩
        · rename_i items answer
          rw [answer] at after
          exact updateSunoItems_loop skip each after
        · exact skip _ _ _ _ after
    · intro outcome g' after
      cases outcome with
      | error e =>
        obtain ⟨taskM', left⟩ := after
        exact ⟨taskM', skip _ [] _ _ (by rwa [List.append_nil])⟩
      | ok taskM' => exact ih after

end

variable {N : List String → TaskMap → P → Prop} {rest : List String}

theorem updateVideoEach_loop {adaptor : TaskAdaptor} {answers : Nat → VideoAnswer} {taskIds : List String}
    (each : ∀ position taskId rest taskM g, N (taskId :: rest) taskM g →
      (updateVideoSingleTask cfg adaptor (answers position) taskId taskM).Meets K g (N rest))
    (holds : N (taskIds ++ rest) taskM g) : (updateVideoEach cfg adaptor answers taskM taskIds).Meets K g (N rest) := by
  induction taskIds generalizing answers taskM g with
  | nil => exact holds
  | cons taskId later ih =>
    refine .bind (each 0 taskId _ taskM g holds) ?_
    intro taskM' g' after
    exact ih (fun position => each (position + 1)) after

theorem updateVideoChannels_loop {platform : TaskPlatform} {answers : Int → Nat → VideoAnswer}
    (skip : ∀ taskIds rest taskM g, N (taskIds ++ rest) taskM g → N rest taskM g)
    (each : ∀ adaptor channelId position taskId rest taskM g, N (taskId :: rest) taskM g →
      (updateVideoSingleTask cfg adaptor (answers channelId position) taskId taskM).Meets K g (N rest))
    (lookup : ∀ channelId ∈ channels, ∀ rest, KeptByLookup K cfg (N rest) channelId (taskIds channelId))
    (holds : N (channels.flatMap taskIds) taskM g) :
    (updateVideoChannels cfg platform answers taskIds taskM channels).Meets K g
      fun _ g' => ∃ taskM', N [] taskM' g' := by
  induction channels generalizing taskM g with
  | nil => exact ⟨taskM, holds⟩
  | cons channelId later ih =>
    rw [List.flatMap_cons] at holds
    refine .bind (Q := N (later.flatMap taskIds)) ?_
      fun _ _ after => ih (fun other among => lookup other (by simp [among])) after
    unfold updateVideoTasks
    split
    · exact skip _ _ _ _ holds
    refine .bind (lookup channelId (by simp) _ taskM g holds) ?_
    rintro outcome g' ⟨after, failing⟩
    cases outcome with
    | error e => exact .bind (failing rfl _) fun _ _ ended => skip _ _ _ _ ended
    | ok ch =>
      dsimp only
      split
      · exact skip _ _ _ _ after
      · exact updateVideoEach_loop (each _ channelId) after

end NewApi.Tasks
