/-
# Model.TaskPolling — the task polling loop

`service/task_polling.go`.  A round fails the tasks that have timed out, selects the unfinished ones,
and asks their platforms for news: Suno by channel, the others task by task.

What an upstream answers, the clock and the order of Go's maps are inputs of a round.  The selected
tasks are shared by pointer: `TaskMap` is what `taskM` points to.  Errors are only logged; a nil
pointer ends the round (`.error`).
-/
import NewApi.Theory.DeltaMap
import NewApi.Model.Task

namespace NewApi.Model
open Theory Program

/-! ## The timeout sweep -/

/-- The two readings of the clock in a sweep. -/
structure SweepClock where
  started : Int
  now : Int
deriving DecidableEq

def legacyTaskCutoff : Int := 1740182400

def Task.isLegacy (t : Task) : Bool := decide (t.submitTime > 0 ∧ t.submitTime < legacyTaskCutoff)

def legacyReason : String := "任务超时（旧系统遗留任务，不进行退款，请联系管理员）"

section
variable (cfg : TaskConfig)

def timeoutReason : String := "任务超时（" ++ toString cfg.taskTimeoutMinutes ++ "分钟）"

def Task.timedOut (t : Task) (now : Int) : Task :=
  { t with
    status := .failure
    progress := progressComplete
    finishTime := now
    failReason := if t.isLegacy then legacyReason else timeoutReason cfg }

/-- The body of the loop of `sweepTimedOutTasks`. -/
def sweepTask (now : Int) (task : Task) : Program TaskStore Unit := do
  match ← store ((task.timedOut cfg now).updateWithStatus task.status) with
  | .error _ => .done ()
  | .ok won =>
    if won = true ∧ task.isLegacy = false ∧ task.quota ≠ 0 then
      refundTaskQuota cfg (task.timedOut cfg now)
    else .done ()

def sweepTasks (now : Int) : List Task → Program TaskStore Unit
  | [] => .done ()
  | task :: rest => do
      sweepTask cfg now task
      sweepTasks now rest

def sweepTimedOutTasks (clock : SweepClock) : Program TaskStore Unit :=
  if cfg.taskTimeoutMinutes ≤ 0 then .done ()
  else do
    let cutoff := clock.started - cfg.taskTimeoutMinutes * 60
    let tasks := (← store (getTimedOutUnfinishedTasks cutoff 100)).toOption.getD []
    sweepTasks cfg clock.now tasks

/-! ## Selected tasks -/

end

abbrev TaskMap := String → Option Task

variable (tasks : List Task)

/-- The tasks of a platform that can be asked for. -/
def named : List Task := tasks.filter fun t => t.getUpstreamTaskID ≠ ""

def nullTaskIds : List Int := (tasks.filter fun t => t.getUpstreamTaskID = "").map Task.id

/-- `taskM[upstreamID] = task`: a task with the same upstream id is replaced. -/
def TaskMap.insert (taskM : TaskMap) (t : Task) : TaskMap := Function.update taskM t.getUpstreamTaskID (some t)

def taskMap : TaskMap := (named tasks).foldl TaskMap.insert fun _ => none

def channelIds : List Int := ((named tasks).map Task.channelId).dedup

def channelTasks (channelId : Int) : List String :=
  ((named tasks).filter fun t => t.channelId = channelId).map Task.getUpstreamTaskID

/-- The rows of a channel that cannot be loaded are failed. -/
def failChannel (reason : String) (taskIds : List String) (taskM : TaskMap) : Program TaskStore Unit := do
  let failedIDs := taskIds.filterMap fun upstreamID => (taskM upstreamID).map Task.id
  let _ ← store (taskBulkUpdateByID failedIDs (Task.bulkFailed (some reason)))
  .done ()

def errNilPointer : String := "runtime error: invalid memory address or nil pointer dereference"

/-! ## Suno -/

structure SunoDataResponse where
  taskID : String
  status : TaskStatus
  failReason : String
  submitTime : Int
  startTime : Int
  finishTime : Int
  data : RawMessage
deriving DecidableEq

inductive SunoAnswer where
  /-- no response, or one that cannot be read -/
  | failed
  /-- a code other than success -/
  | refused
  | items (data : List SunoDataResponse)

section
variable (cfg : TaskConfig)

/-- `taskNeedsUpdate`: the data are compared as sorted bytes. -/
def taskNeedsUpdate (oldTask : Task) (newTask : SunoDataResponse) : Bool :=
  oldTask.submitTime ≠ newTask.submitTime ||
  oldTask.startTime ≠ newTask.startTime ||
  oldTask.finishTime ≠ newTask.finishTime ||
  oldTask.status ≠ newTask.status ||
  oldTask.failReason ≠ newTask.failReason ||
  (oldTask.status.terminal && oldTask.progress ≠ progressComplete) ||
  (cfg.marshal oldTask.data).insertionSort (· ≤ ·) ≠ (cfg.marshal newTask.data).insertionSort (· ≤ ·)

def SunoDataResponse.fails (item : SunoDataResponse) (task : Task) : Bool :=
  item.failReason ≠ "" || (if item.status ≠ .empty then item.status else task.status) = .failure

def Task.sunoUpdate (task : Task) (item : SunoDataResponse) : Task :=
  { task with
    status := if item.status ≠ .empty then item.status else task.status
    failReason := if item.failReason ≠ "" then item.failReason else task.failReason
    submitTime := if item.submitTime ≠ 0 then item.submitTime else task.submitTime
    startTime := if item.startTime ≠ 0 then item.startTime else task.startTime
    finishTime := if item.finishTime ≠ 0 then item.finishTime else task.finishTime
    progress := if item.fails task ∨ item.status = .success then progressComplete else task.progress
    data := item.data }

/-- One item of the response: the refund comes before the row is saved. -/
def updateSunoTask (task : Task) (item : SunoDataResponse) : Program TaskStore Task :=
  if taskNeedsUpdate cfg task item then do
    (if item.fails task then refundTaskQuota cfg (task.sunoUpdate item) else .done ())
    let _ ← store (task.sunoUpdate item).update
    .done (task.sunoUpdate item)
  else .done task

def updateSunoItems : TaskMap → List SunoDataResponse → Program TaskStore (Except String TaskMap)
  | taskM, [] => .done (.ok taskM)
  | taskM, item :: rest =>
    match taskM item.taskID with
    | none => .done (.error errNilPointer)
    | some task => do
        let task ← updateSunoTask cfg task item
        updateSunoItems (Function.update taskM item.taskID (some task)) rest

def updateSunoTasks (answer : SunoAnswer) (channelId : Int) (taskIds : List String) (taskM : TaskMap) :
    Program TaskStore (Except String TaskMap) :=
  if taskIds = [] then .done (.ok taskM)
  else do
    match ← store (cacheGetChannel cfg.memoryCacheEnabled channelId) with
    | .error _ => do
        failChannel ("获取渠道信息失败，请联系管理员，渠道ID：" ++ toString channelId) taskIds taskM
        .done (.ok taskM)
    | .ok ch =>
      match cfg.getTaskAdaptor .suno, ch.baseURL, answer with
      | none, _, _ => .done (.ok taskM)
      | some _, none, _ => .done (.error errNilPointer)
      | some _, some _, .items data => updateSunoItems cfg taskM data
      | some _, some _, _ => .done (.ok taskM)

def updateSunoChannels (answers : Int → SunoAnswer) (taskIds : Int → List String) :
    TaskMap → List Int → Program TaskStore (Except String Unit)
  | _, [] => .done (.ok ())
  | taskM, channelId :: rest => do
      match ← updateSunoTasks cfg (answers channelId) channelId (taskIds channelId) taskM with
      | .error e => .done (.error e)
      | .ok taskM => updateSunoChannels answers taskIds taskM rest

end

/-! ## Video -/

/-- What the body says when the status is empty. -/
inductive VideoErrorBody where
  | unreadable
  | openAI (code : String)
  | unrecognized
deriving DecidableEq

inductive VideoAnswer where
  /-- no response, or one that cannot be parsed -/
  | failed
  | parsed (taskResult : TaskInfo) (body : RawMessage) (error : VideoErrorBody) (now : Int)

def failTaskInfo (reason : String) : TaskInfo := ⟨.failure, reason, "", "", 0⟩

/-- The result that counts; `none` waits for the next round. -/
def effectiveResult (taskResult : TaskInfo) (error : VideoErrorBody) : Option TaskInfo :=
  if taskResult.status = .empty then
    match error with
    | .unreadable => some taskResult
    | .openAI code =>
      if code = "429" then none else some (failTaskInfo "upstream returned error")
    | .unrecognized => some (failTaskInfo "upstream returned unrecognized message")
  else some taskResult

section
variable (cfg : TaskConfig)

def buildProxyURL (taskID : String) : String := cfg.serverAddress ++ "/v1/videos/" ++ taskID ++ "/content"

def isDataURI (url : String) : Bool := "data:".toList.isPrefixOf url.toList

/-- The progress a status stands for. -/
def statusProgress : TaskStatus → Option String
  | .submitted => some progressSubmitted
  | .queued => some progressQueued
  | .inProgress => some progressInProgress
  | .success => some progressComplete
  | .failure => some progressComplete
  | _ => none

/-- The switch over the status of the result; `none` is an unknown one. -/
def Task.videoUpdate (task : Task) (taskResult : TaskInfo) (now : Int) : Option Task :=
  (statusProgress taskResult.status).map fun progress =>
    let ended := taskResult.status.terminal
    { task with
      status := taskResult.status
      -- a failure counts as complete whatever the result says
      progress := if taskResult.progress ≠ "" ∧ taskResult.status ≠ .failure then taskResult.progress
        else progress
      startTime := if taskResult.status = .inProgress ∧ task.startTime = 0 then now else task.startTime
      finishTime := if ended ∧ task.finishTime = 0 then now else task.finishTime
      failReason := if taskResult.status = .failure then taskResult.reason else task.failReason
      privateData :=
        if taskResult.status = .success then { task.privateData with
          resultURL := if isDataURI taskResult.url ∨ taskResult.url = "" then
              buildProxyURL cfg task.taskID
            else taskResult.url }
        else task.privateData }

variable (adaptor : TaskAdaptor)

/-- `shouldSettle` and `shouldRefund`. -/
def billVideoTask (task : Task) (taskResult : TaskInfo) : Program TaskStore Task :=
  if taskResult.status = .success then settleTaskBillingOnComplete cfg adaptor task taskResult
  else if taskResult.status = .failure ∧ task.quota ≠ 0 then do
    refundTaskQuota cfg task
    .done task
  else .done task

def writeVideoTask (snap : TaskSnapshot) (task : Task) (taskResult : TaskInfo) : Program TaskStore Task :=
  if task.status.terminal = true ∧ snap.status ≠ task.status then do
    match ← store (task.updateWithStatus snap.status) with
    | .ok true => billVideoTask cfg adaptor task taskResult
    | .ok false => .done task
    | .error _ => .done task
  else if snap ≠ task.snapshot then do
    let _ ← store (task.updateWithStatus snap.status)
    billVideoTask cfg adaptor task taskResult
  else billVideoTask cfg adaptor task taskResult

def updateVideoSingleTask (answer : VideoAnswer) (taskId : String)
    (taskM : TaskMap) : Program TaskStore TaskMap :=
  match taskM taskId, answer with
  | some task, .parsed taskResult body error now =>
    let loaded := { task with data := body }
    match effectiveResult taskResult error with
    | none => .done (Function.update taskM taskId (some loaded))
    | some taskResult =>
      match loaded.videoUpdate cfg taskResult now with
      | none =>
        .done (Function.update taskM taskId (some { loaded with status := taskResult.status }))
      | some updated => do
          let written ← writeVideoTask cfg adaptor task.snapshot updated taskResult
          .done (Function.update taskM taskId (some written))
  | _, _ => .done taskM

/-- The loop over the tasks of a channel; `answers` are told apart by position. -/
def updateVideoEach (adaptor : TaskAdaptor) : (Nat → VideoAnswer) → TaskMap → List String → Program TaskStore TaskMap
  | _, taskM, [] => .done taskM
  | answers, taskM, taskId :: rest => do
      let taskM ← updateVideoSingleTask cfg adaptor (answers 0) taskId taskM
      updateVideoEach adaptor (fun position => answers (position + 1)) taskM rest

def updateVideoTasks (platform : TaskPlatform) (answers : Nat → VideoAnswer) (channelId : Int)
    (taskIds : List String) (taskM : TaskMap) : Program TaskStore TaskMap :=
  if taskIds = [] then .done taskM
  else do
    match ← store (cacheGetChannel cfg.memoryCacheEnabled channelId) with
    | .error _ => do
        failChannel ("Failed to get channel info, channel ID: " ++ toString channelId) taskIds taskM
        .done taskM
    | .ok _ =>
      match cfg.getTaskAdaptor platform with
      | none => .done taskM
      | some adaptor => updateVideoEach cfg adaptor answers taskM taskIds

def updateVideoChannels (platform : TaskPlatform) (answers : Int → Nat → VideoAnswer)
    (taskIds : Int → List String) : TaskMap → List Int → Program TaskStore Unit
  | _, [] => .done ()
  | taskM, channelId :: rest => do
      let taskM ← updateVideoTasks cfg platform (answers channelId) channelId (taskIds channelId) taskM
      updateVideoChannels platform answers taskIds taskM rest

end

/-! ## A round of the loop -/

/-- What a round meets: the clock, the answers and the orders of the maps. -/
structure PollingRound where
  clock : SweepClock
  suno : Int → SunoAnswer
  video : TaskPlatform → Int → Nat → VideoAnswer
  platforms : RangeOrder
  channels : TaskPlatform → RangeOrder

section
variable (cfg : TaskConfig) (round : PollingRound)

def dispatchPlatformUpdate (tasks : List Task) : TaskPlatform → Program TaskStore (Except String Unit)
  | .midjourney => .done (.ok ())
  | .suno => updateSunoChannels cfg round.suno (channelTasks tasks) (taskMap tasks)
      ((round.channels .suno).list (channelIds tasks))
  | .video name => do
      updateVideoChannels cfg (.video name) (round.video (.video name)) (channelTasks tasks)
        (taskMap tasks) ((round.channels (.video name)).list (channelIds tasks))
      .done (.ok ())

/-- The body of the loop over the platforms. -/
def pollPlatform (platform : TaskPlatform) (tasks : List Task) : Program TaskStore (Except String Unit) := do
  let _ ← store (taskBulkUpdateByID (nullTaskIds tasks) (Task.bulkFailed none))
  dispatchPlatformUpdate cfg round tasks platform

def platformTasks (allTasks : List Task) (platform : TaskPlatform) : List Task :=
  allTasks.filter fun t => t.platform = platform

def pollPlatforms (allTasks : List Task) : List TaskPlatform → Program TaskStore (Except String Unit)
  | [] => .done (.ok ())
  | platform :: rest => do
      match ← pollPlatform cfg round platform (platformTasks allTasks platform) with
      | .error e => .done (.error e)
      | .ok () => pollPlatforms allTasks rest

def taskPollingRound : Program TaskStore (Except String Unit) := do
  sweepTimedOutTasks cfg round.clock
  let allTasks := (← store (getAllUnFinishSyncTasks cfg.taskQueryLimit)).toOption.getD []
  pollPlatforms cfg round allTasks (round.platforms.list (allTasks.map Task.platform).dedup)

end

end NewApi.Model
