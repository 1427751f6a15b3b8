/-
# Model.Midjourney — Midjourney tasks: their rows, the poller, the callback

`model/midjourney.go`, `UpdateMidjourneyTaskBulk` of `controller/midjourney.go` and
`RelayMidjourneyNotify` of `relay/mjproxy_handler.go`.

The poller asks once for all tasks of a channel and goes through the items of the answer on the
copies it has selected.  A failed task is given back its quota after the update that says so, when
that update hit the row.  The callback overwrites the row and gives nothing back.

Buttons and properties are the texts that are stored.  Log rows and usage statistics are left out.
`history` is a history variable: what the poller meant to write over which status, whether it hit,
and the refunds.
-/
import NewApi.Model.TaskPolling

namespace NewApi.Model
open Theory Program Sql

/-! ## Rows -/

/-- The statuses the code tells apart; the others are whatever the upstream says. -/
inductive MjStatus where
  | success | failure
  | other (text : String)
deriving DecidableEq

/-- `constant.MjAction*`; a request may name any other. -/
inductive MjAction where
  | imagine | describe | blend | upscale | variation | reRoll | inPaint | modal | zoom | customZoom
  | shorten | highVariation | lowVariation | pan | swapFace | upload | video | edits
  | other (text : String)
deriving DecidableEq

structure Midjourney where
  id : Int
  code : Int
  userId : Int
  action : MjAction
  mjId : String
  prompt : String
  promptEn : String
  description : String
  state : String
  submitTime : Int
  startTime : Int
  finishTime : Int
  imageUrl : String
  videoUrl : String
  videoUrls : String
  status : MjStatus
  progress : String
  failReason : String
  channelId : Int
  quota : Int
  buttons : String
  properties : String
deriving DecidableEq

/-- `dto.MidjourneyDto`, as far as poller and callback read it. -/
structure MidjourneyDto where
  mjId : String
  promptEn : String
  state : String
  submitTime : Int
  startTime : Int
  finishTime : Int
  imageUrl : String
  videoUrl : String
  /-- a slice, possibly nil -/
  videoUrls : Option (List String)
  status : MjStatus
  progress : String
  failReason : String
  buttons : Option String
  properties : Option String
deriving DecidableEq

inductive MjEvent where
  /-- an update of the poller: over which status, with which, whether quota is to be given
  back, and whether it hit -/
  | updated (id : Int) (fromStatus toStatus : MjStatus) (returnsQuota won : Bool)
  | refunded (id userId quota : Int)
deriving DecidableEq

structure MjStore where
  accounts : Store
  midjourneys : List Midjourney
  /-- the id of the next row -/
  nextId : Int
  channels : Int → Option Channel
  channelsIDM : Int → Option Channel
  history : List MjEvent

namespace MjStore

instance : Site MjStore := ⟨accounts, fun accounts s => { s with accounts }, channels, channelsIDM⟩

variable (s : MjStore)

def midjourney (id : Int) : Option Midjourney := Rows.find Midjourney.id id s.midjourneys

variable (task : Midjourney)

/-- `UPDATE midjourneys SET … WHERE id = …` of a whole row. -/
def put (s : MjStore) (task : Midjourney) : MjStore :=
  { s with midjourneys := Rows.put Midjourney.id task s.midjourneys }

/-- `Save`: the row with this id, or a new one. -/
def save (s : MjStore) (task : Midjourney) : MjStore :=
  if (s.midjourney task.id).isSome then s.put task
  else { s with midjourneys := s.midjourneys ++ [task] }

def log (event : MjEvent) : MjStore := { s with history := s.history ++ [event] }

@[simp] theorem log_history (event : MjEvent) : (s.log event).history = s.history ++ [event] := rfl

@[simp] theorem save_history : (s.save task).history = s.history := by
  unfold save
  split <;> rfl

theorem midjourney_put {row : Midjourney} (found : s.midjourney task.id = some row) (id : Int) :
    (s.put task).midjourney id = if id = task.id then some task else s.midjourney id :=
  Rows.find_put_of_found found id

end MjStore

abbrev MjDb := Sql MjStore

/-! ## Statements -/

/-- An error is answered by no rows at all, which is left to the caller here. -/
def getAllUnFinishTasks : MjDb (List Midjourney) :=
  read fun s => .ok (s.midjourneys.filter fun task => task.progress ≠ progressComplete)

/-- `GetByOnlyMJId`; no row is `nil`, and so is an error, which is left to the caller. -/
def getByOnlyMJId (mjId : String) : MjDb (Option Midjourney) :=
  read fun s => .ok (s.midjourneys.find? fun task => task.mjId = mjId)

def getByMJId (userId : Int) (mjId : String) : MjDb (Option Midjourney) :=
  read fun s => .ok (s.midjourneys.find? fun task => task.userId = userId ∧ task.mjId = mjId)

namespace Midjourney

variable (task : Midjourney)

def insert : MjDb Unit :=
  autocommit fun s => { s with
    midjourneys := s.midjourneys ++ [{ task with id := s.nextId }]
    nextId := s.nextId + 1 }

def update : MjDb Unit := autocommit (·.save task)

/-- What `UpdateWithStatus` does to the table, and whether it did anything. -/
def swap (fromStatus : MjStatus) (s : MjStore) : Bool × MjStore :=
  match s.midjourney task.id with
  | some row => if row.status = fromStatus then (true, s.put task) else (false, s)
  | none => (false, s)

/-- `UpdateWithStatus`: the row is written if it still has the status `fromStatus`. -/
def updateWithStatus (fromStatus : MjStatus) : MjDb Bool := affect (task.swap fromStatus)

def bulkFailed (failReason : Option String) (task : Midjourney) : Midjourney :=
  { task with
    failReason := failReason.getD task.failReason
    status := .failure
    progress := progressComplete }

end Midjourney

def mjBulkUpdate (mjIds : List String) (params : Midjourney → Midjourney) : MjDb Unit :=
  autocommit fun s =>
    { s with midjourneys := s.midjourneys.map fun task => if task.mjId ∈ mjIds then params task else task }

def mjBulkUpdateByTaskIds (taskIDs : List Int) (params : Midjourney → Midjourney) : MjDb Unit :=
  autocommit fun s =>
    { s with midjourneys := s.midjourneys.map fun task => if task.id ∈ taskIDs then params task else task }

structure MjConfig where
  accounts : Config
  memoryCacheEnabled : Bool
  automaticDisableChannelEnabled : Bool
  mjActionCheckSuccessEnabled : Bool
  /-- `json.Marshal` of a slice of URLs -/
  marshalVideoUrls : Option (List String) → String

/-! ## Items of an answer -/

/-- The text of a slice of URLs; an empty one is stored as the empty text. -/
def storedVideoUrls (cfg : MjConfig) : Option (List String) → String
  | some (url :: rest) => cfg.marshalVideoUrls (some (url :: rest))
  | _ => ""

def checkMjTaskNeedUpdate (cfg : MjConfig) (oldTask : Midjourney) (newTask : MidjourneyDto) : Bool :=
  oldTask.code ≠ 1 ||
  oldTask.progress ≠ newTask.progress ||
  oldTask.promptEn ≠ newTask.promptEn ||
  oldTask.state ≠ newTask.state ||
  oldTask.submitTime ≠ newTask.submitTime ||
  oldTask.startTime ≠ newTask.startTime ||
  oldTask.finishTime ≠ newTask.finishTime ||
  oldTask.imageUrl ≠ newTask.imageUrl ||
  oldTask.status ≠ newTask.status ||
  oldTask.failReason ≠ newTask.failReason ||
  oldTask.finishTime ≠ newTask.finishTime ||
  (oldTask.progress ≠ progressComplete && newTask.failReason ≠ "") ||
  oldTask.videoUrl ≠ newTask.videoUrl ||
  oldTask.videoUrls ≠ storedVideoUrls cfg newTask.videoUrls

/-- An item of an answer, and the time in milliseconds at which the loop gets to it. -/
structure MjItem where
  dto : MidjourneyDto
  now : Int
deriving DecidableEq

/-- After an hour the poller takes a task for failed, whatever the item says. -/
def MjItem.judged (item : MjItem) (task : Midjourney) : MidjourneyDto :=
  if item.now - task.submitTime > 3600000 ∧ task.progress ≠ progressComplete then
    { item.dto with failReason := "上游任务超时（超过1小时）", status := .failure }
  else item.dto

/-- The item is taken for a failure. -/
def MidjourneyDto.fails (dto : MidjourneyDto) : Bool :=
  (dto.progress ≠ progressComplete && dto.failReason ≠ "") ||
    (dto.progress = progressComplete && dto.status = .failure)

namespace Midjourney

variable (cfg : MjConfig) (task : Midjourney)

def polled (dto : MidjourneyDto) : Midjourney :=
  { task with
    code := 1
    progress := if dto.fails then progressComplete else dto.progress
    promptEn := dto.promptEn
    state := dto.state
    submitTime := dto.submitTime
    startTime := dto.startTime
    finishTime := dto.finishTime
    imageUrl := dto.imageUrl
    status := dto.status
    failReason := dto.failReason
    properties := dto.properties.getD task.properties
    buttons := dto.buttons.getD task.buttons
    videoUrl := dto.videoUrl
    videoUrls := storedVideoUrls cfg dto.videoUrls }

@[simp] theorem polled_id (dto : MidjourneyDto) : (task.polled cfg dto).id = task.id := rfl

def shouldReturnQuota (dto : MidjourneyDto) : Bool := dto.fails && task.quota ≠ 0

def pollUpdate (dto : MidjourneyDto) : MjDb Bool := do
  let won ← (task.polled cfg dto).updateWithStatus task.status
  memory (·.log (.updated task.id task.status dto.status (task.shouldReturnQuota dto) won))
  pure won

def returnQuota : MjDb Unit :=
  recorded (increaseUserQuota cfg.accounts task.userId task.quota false)
    (·.log (.refunded task.id task.userId task.quota))

end Midjourney

variable (cfg : MjConfig)

/-- One item: the copy is changed even if the row is not. -/
def updateMjTask (task : Midjourney) (item : MjItem) : Program MjStore Midjourney :=
  if checkMjTaskNeedUpdate cfg task (item.judged task) then do
    match ← store (task.pollUpdate cfg (item.judged task)) with
    | .error _ => .done (task.polled cfg (item.judged task))
    | .ok won =>
      if won = true ∧ task.shouldReturnQuota (item.judged task) = true then do
        let _ ← store (task.returnQuota cfg)
        .done (task.polled cfg (item.judged task))
      else .done (task.polled cfg (item.judged task))
  else .done task

abbrev MjTaskMap := String → Option Midjourney

/-- The loop over an answer: an item for a task that was not selected panics. -/
def updateMjItems : MjTaskMap → List MjItem → Program MjStore (Except String MjTaskMap)
  | taskM, [] => .done (.ok taskM)
  | taskM, item :: rest =>
    match taskM item.dto.mjId with
    | none => .done (.error errNilPointer)
    | some task => do
        let task ← updateMjTask cfg task item
        updateMjItems (Function.update taskM item.dto.mjId (some task)) rest

/-! ## A round of the poller -/

variable (tasks : List Midjourney)

/-- The selected tasks that can be asked for. -/
def mjNamed : List Midjourney := tasks.filter fun task => task.mjId ≠ ""

def mjNullTaskIds : List Int :=
  (tasks.filter fun task => task.mjId = "").map Midjourney.id

/-- `taskM[task.MjId] = task`: a task with the same id upstream is replaced. -/
def MjTaskMap.insert (taskM : MjTaskMap) (task : Midjourney) : MjTaskMap :=
  Function.update taskM task.mjId (some task)

def mjTaskMap : MjTaskMap := (mjNamed tasks).foldl MjTaskMap.insert fun _ => none

def mjChannelIds : List Int := ((mjNamed tasks).map Midjourney.channelId).dedup

def mjChannelTasks (channelId : Int) : List String :=
  ((mjNamed tasks).filter fun task => task.channelId = channelId).map Midjourney.mjId

/-- What a request for the tasks of a channel brings. -/
inductive MjAnswer where
  /-- no response, a status other than 200, or a body that cannot be read -/
  | failed
  | items (responseItems : List MjItem)
deriving DecidableEq

/-- What a round meets: the answers of the channels and the order of the map of channels. -/
structure MjRound where
  answers : Int → MjAnswer
  channels : RangeOrder

def updateMjChannel (answer : MjAnswer) (channelId : Int) (taskIds : List String) (taskM : MjTaskMap) :
    Program MjStore (Except String MjTaskMap) :=
  if taskIds = [] then .done (.ok taskM)
  else do
    match ← store (cacheGetChannel cfg.memoryCacheEnabled channelId) with
    | .error _ => do
        let _ ← store (mjBulkUpdate taskIds (Midjourney.bulkFailed
          (some ("获取渠道信息失败，请联系管理员，渠道ID：" ++ toString channelId))))
        .done (.ok taskM)
    | .ok midjourneyChannel =>
      match midjourneyChannel.baseURL, answer with
      | none, _ => .done (.error errNilPointer)
      | some _, .failed => .done (.ok taskM)
      | some _, .items responseItems => updateMjItems cfg taskM responseItems

def updateMjChannels (answers : Int → MjAnswer) (taskIds : Int → List String) :
    MjTaskMap → List Int → Program MjStore (Except String Unit)
  | _, [] => .done (.ok ())
  | taskM, channelId :: rest => do
      match ← updateMjChannel cfg (answers channelId) channelId (taskIds channelId) taskM with
      | .error e => .done (.error e)
      | .ok taskM => updateMjChannels answers taskIds taskM rest

/-- Tasks without an id upstream are failed. -/
def fixNullTasks (tasks : List Midjourney) : Program MjStore Unit :=
  if mjNullTaskIds tasks = [] then .done ()
  else do
    let _ ← store (mjBulkUpdateByTaskIds (mjNullTaskIds tasks) (Midjourney.bulkFailed none))
    .done ()

/-- One round of `UpdateMidjourneyTaskBulk`; its error is a panic, which ends the loop. -/
def updateMidjourneyTaskRound (round : MjRound) : Program MjStore (Except String Unit) := do
  let tasks := (← store getAllUnFinishTasks).toOption.getD []
  fixNullTasks tasks
  updateMjChannels cfg round.answers (mjChannelTasks tasks) (mjTaskMap tasks)
    (round.channels.list (mjChannelIds tasks))

def updateMidjourneyTaskBulk : List MjRound → Program MjStore (Except String Unit)
  | [] => .done (.ok ())
  | round :: rest => do
      match ← updateMidjourneyTaskRound cfg round with
      | .error e => .done (.error e)
      | .ok () => updateMidjourneyTaskBulk rest

/-- `dto.MidjourneyResponse`; of the properties the two texts that are looked up. -/
structure MidjourneyResponse where
  code : Int
  description : String
  imageUrl : Option String
  status : Option MjStatus
  result : String
deriving DecidableEq

def midjourneyErrorWrapper (code : Int) (desc : String) : MidjourneyResponse := ⟨code, desc, none, none, ""⟩

inductive MjReply where
  /-- it has written the response itself -/
  | sent
  | refused (response : MidjourneyResponse)
  | panicked (error : String)
deriving DecidableEq

def Midjourney.notified (task : Midjourney) (midjRequest : MidjourneyDto) : Midjourney :=
  { task with
    progress := midjRequest.progress
    promptEn := midjRequest.promptEn
    state := midjRequest.state
    submitTime := midjRequest.submitTime
    startTime := midjRequest.startTime
    finishTime := midjRequest.finishTime
    imageUrl := midjRequest.imageUrl
    videoUrl := midjRequest.videoUrl
    videoUrls := cfg.marshalVideoUrls midjRequest.videoUrls
    status := midjRequest.status
    failReason := midjRequest.failReason }

/-- `RelayMidjourneyNotify`; the body may fail to parse. -/
def relayMidjourneyNotify (body : Option MidjourneyDto) : Program MjStore MjReply :=
  match body with
  | none => .done (.refused (midjourneyErrorWrapper 4 "bind_request_body_failed"))
  | some midjRequest => do
      match ← store (getByOnlyMJId midjRequest.mjId) with
      | .ok (some midjourneyTask) => do
          match ← store (midjourneyTask.notified cfg midjRequest).update with
          | .error _ => .done (.refused (midjourneyErrorWrapper 4 "update_midjourney_task_failed"))
          | .ok () => .done .sent
      | _ => .done (.refused (midjourneyErrorWrapper 4 "midjourney_task_not_found"))

end NewApi.Model
