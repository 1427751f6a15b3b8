/-
# Model.MidjourneySubmit — the submission of a Midjourney task

`RelayMidjourneySubmit` of `relay/mjproxy_handler.go` with the helpers of `service/midjourney.go`
that decide which action a request stands for.  The charge is deferred: it comes after the row, and
even after a panic.

The price (`ModelPriceHelperPerCall`) and the upstream's answer are inputs.  Left out: the body that
is sent to the client, log rows and usage statistics, the reason noted with a disabled channel, and
channels with several keys.
-/
import NewApi.Model.Midjourney
import NewApi.Model.BillingSession

namespace NewApi.Model
open Theory Program

/-! ## Requests -/

/-- `RelayModeMidjourney*`, those that end in a submission. -/
inductive MjRelayMode where
  | imagine | describe | blend | change | simpleChange | action | modal | shorten | upload | video | edits
  | unknown
deriving DecidableEq

/-- `dto.MidjourneyRequest`, as far as it is read; the rest is only passed on. -/
structure MidjourneyRequest where
  prompt : String
  customId : String
  action : MjAction
  index : Int
  taskId : String
  content : String
deriving DecidableEq

def mjRequestError (desc : String) : MjReply := .refused (midjourneyErrorWrapper 4 desc)

def errIndexOutOfRange : String := "runtime error: index out of range"

/-- An element of a slice. -/
def sliceAt (parts : List String) (position : Nat) : Except MjReply String :=
  match parts[position]? with
  | some part => .ok part
  | none => .error (.panicked errIndexOutOfRange)

def coverPlusActionToNormalAction (midjRequest : MidjourneyRequest) : Except MjReply MidjourneyRequest := do
  if midjRequest.customId = "" then throw (mjRequestError "custom_id_is_required")
  let splits := Text.split midjRequest.customId "::"
  let kind ← sliceAt splits 1
  let action ← if kind = "JOB" then sliceAt splits 2 else pure kind
  if action = "" then throw (mjRequestError "unknown_action")
  let indexed (action : MjAction) : Except MjReply MidjourneyRequest := do
    match Text.atoi (← sliceAt splits 3) with
    | none => throw (mjRequestError "index_parse_failed")
    | some index => pure { midjRequest with index, action }
  if Text.contains action "upsample" then indexed .upscale
  else if Text.contains action "variation" then
    if action = "variation" then indexed .variation
    else if action = "low_variation" then pure { midjRequest with index := 1, action := .lowVariation }
    else if action = "high_variation" then pure { midjRequest with index := 1, action := .highVariation }
    else pure { midjRequest with index := 1 }
  else if Text.contains action "pan" then pure { midjRequest with action := .pan, index := 1 }
  else if Text.contains action "reroll" then pure { midjRequest with action := .reRoll, index := 1 }
  else if action = "Outpaint" then pure { midjRequest with action := .zoom, index := 1 }
  else if action = "CustomZoom" then pure { midjRequest with action := .customZoom, index := 1 }
  else if action = "Inpaint" then pure { midjRequest with action := .inPaint, index := 1 }
  else throw (mjRequestError ("unknown_action:" ++ midjRequest.customId))

/-- `ConvertSimpleChangeParams`: the task and the action, or nil.  The index is checked and
then not used by the submission. -/
def convertSimpleChangeParams (content : String) : Except MjReply (Option (String × MjAction)) :=
  let indexed (taskId : String) (action : MjAction) (rest : List Char) :
      Except MjReply (Option (String × MjAction)) :=
    match rest with
    | [] => .error (.panicked "runtime error: slice bounds out of range")
    | digit :: _ =>
      match Text.atoi (String.ofList [digit]) with
      | some index => .ok (if index < 1 ∨ index > 4 then none else some (taskId, action))
      | none => .ok none
  match Text.split content " " with
  | [taskId, change] =>
    match change.toList.map Char.toLower with
    | [] => .error (.panicked errIndexOutOfRange)
    | 'u' :: rest => indexed taskId .upscale rest
    | 'v' :: rest => indexed taskId .variation rest
    | ['r'] => .ok (some (taskId, .reRoll))
    | _ => .ok none
  | _ => .ok none

/-- What a request is for: the request with its action, and the id of the task it starts from. -/
def requestedAction (relayMode : MjRelayMode) (midjRequest : MidjourneyRequest) :
    Except MjReply (MidjourneyRequest × Option String) := do
  let covered ← if relayMode = .action then coverPlusActionToNormalAction midjRequest
    else pure (if relayMode = .video then { midjRequest with action := .video } else midjRequest)
  let mode := if relayMode = .action then .change else relayMode
  match mode with
  | .imagine =>
    if covered.prompt = "" then throw (mjRequestError "prompt_is_required")
    else pure ({ covered with action := .imagine }, none)
  | .describe => pure ({ covered with action := .describe }, none)
  | .edits => pure ({ covered with action := .edits }, none)
  | .shorten => pure ({ covered with action := .shorten }, none)
  | .blend => pure ({ covered with action := .blend }, none)
  | .upload => pure ({ covered with action := .upload }, none)
  | _ =>
    if covered.taskId = "" then pure (covered, none)
    else match mode with
      | .change =>
        if covered.action = .other "" then throw (mjRequestError "action_is_required")
        else if covered.index = 0 then throw (mjRequestError "index_is_required")
        else pure (covered, some covered.taskId)
      | .simpleChange =>
        if covered.content = "" then throw (mjRequestError "content_is_required")
        else match ← convertSimpleChangeParams covered.content with
          | none => throw (mjRequestError "content_parse_failed")
          | some (taskId, action) => pure ({ covered with action }, some taskId)
      | .modal => pure ({ covered with action := .modal }, some covered.taskId)
      | .video => pure (covered, some covered.taskId)
      | _ => pure (covered, some "")

/-! ## Submissions -/

inductive MjSubmitAnswer where
  | failed (response : MidjourneyResponse)
  | answered (statusCode : Int) (response : MidjourneyResponse)
deriving DecidableEq

/-- A request with everything it meets. -/
structure MjSubmission where
  relayMode : MjRelayMode
  /-- the body may fail to parse -/
  request : Option MidjourneyRequest
  relayInfo : RelayInfo
  unbilled : relayInfo.billingSource = .none
  /-- the channel that was picked -/
  channelId : Int
  /-- the quota of `ModelPriceHelperPerCall` -/
  price : Except String Int
  answer : MjSubmitAnswer
  /-- milliseconds -/
  now : Int

def MjAction.free (action : MjAction) : Bool := action = .inPaint || action = .customZoom

/-- The codes of a task that was accepted: submitted, already there, queued. -/
def MidjourneyResponse.accepted (response : MidjourneyResponse) : Bool :=
  response.code = 1 || response.code = 21 || response.code = 22

variable (cfg : MjConfig)

/-- The task a request starts from decides the channel and the prompt. -/
def originTask (relayMode : MjRelayMode) (userId channelId : Int) (midjRequest : MidjourneyRequest) :
    Option String → Program MjStore (Except MjReply (MidjourneyRequest × Int))
  | none => .done (.ok (midjRequest, channelId))
  | some mjId => do
      match ← store (getByMJId userId mjId) with
      | .ok (some task) =>
        if cfg.mjActionCheckSuccessEnabled ∧ task.status ≠ .success ∧ relayMode ≠ .modal then
          .done (.error (mjRequestError "task_status_not_success"))
        else do
          match ← store (getChannelById task.channelId) with
          | .error _ => .done (.error (mjRequestError "get_channel_info_failed"))
          | .ok channel =>
            if channel.status ≠ .enabled then .done (.error (mjRequestError "该任务所属渠道已被禁用"))
            else .done (.ok ({ midjRequest with prompt := task.prompt }, task.channelId))
      | _ => .done (.error (mjRequestError "task_not_found"))

def submittedTask (sub : MjSubmission) (midjRequest : MidjourneyRequest) (channelId quota : Int)
    (midjResponse : MidjourneyResponse) : Midjourney :=
  let task : Midjourney := {
    id := 0
    code := midjResponse.code
    userId := sub.relayInfo.userId
    action := midjRequest.action
    mjId := midjResponse.result
    prompt := midjRequest.prompt
    promptEn := ""
    description := midjResponse.description
    state := ""
    submitTime := sub.now
    startTime := 0
    finishTime := 0
    imageUrl := ""
    videoUrl := ""
    videoUrls := ""
    status := .other ""
    progress := "0%"
    failReason := if midjResponse.accepted then "" else midjResponse.description
    channelId
    quota
    buttons := ""
    properties := "" }
  -- a task that exists already may come with its result
  let known : Midjourney × Int :=
    match midjResponse.code, midjResponse.imageUrl, midjResponse.status with
    | 21, some imageUrl, some .success => ({ task with
        imageUrl, status := .success, progress := progressComplete, startTime := sub.now,
        finishTime := sub.now }, 1)
    | 21, some imageUrl, some status => ({ task with imageUrl, status }, 21)
    | code, _, _ => (task, code)
  if known.2 = 1 ∧ midjRequest.action = .upload then
    { known.1 with progress := progressComplete, status := .success }
  else known.1

variable (channelId : Int)

/-- `CacheUpdateChannelStatus`, and whether there is anything to do in the database. -/
def cacheUpdateChannelStatus (status : ChannelStatus) (s : MjStore) : Bool × MjStore :=
  if cfg.memoryCacheEnabled then
    match s.channelsIDM channelId with
    | none => (false, s)
    | some channel =>
      if channel.status = status then (false, s)
      else (true, { s with
        channelsIDM := Function.update s.channelsIDM channelId (some { channel with status := status }) })
  else (true, s)

def updateChannelStatus (status : ChannelStatus) : Program MjStore Unit := do
  match ← store (Sql.exchange (cacheUpdateChannelStatus cfg channelId status)) with
  | .ok true => do
      match ← store (getChannelById channelId) with
      | .error _ => .done ()
      | .ok channel =>
        if channel.status = status then .done ()
        else do
          let _ ← store (Sql.autocommit fun s : MjStore => { s with
            channels := Function.update s.channels channelId (some { channel with status := status }) })
          .done ()
  | _ => .done ()

def chargeMidjourney (sub : MjSubmission) (consumeQuota : Bool) (statusCode quota : Int) : Program MjStore Unit :=
  if consumeQuota = true ∧ statusCode = 200 then do
    let _ ← (postConsumeQuota cfg.accounts sub.relayInfo quota).zoom MjStore.accounts
      fun accounts s => { s with accounts }
    .done ()
  else .done ()

/-- The channel is looked up when there is no account on it (code 3). -/
def unusableChannel (midjResponse : MidjourneyResponse) : Program MjStore (Except String Channel) :=
  if midjResponse.code = 3 then store (getChannelById channelId)
  else .done (.ok ⟨channelId, none, .enabled, none⟩)

/-- From the upstream's answer on. -/
def recordMidjourney (sub : MjSubmission) (midjRequest : MidjourneyRequest) (channelId quota statusCode : Int)
    (midjResponse : MidjourneyResponse) : Program MjStore MjReply := do
  match ← unusableChannel channelId midjResponse with
  | .error _ => do
      -- a nil channel panics, with `consumeQuota` still as the action has it
      chargeMidjourney cfg sub (!midjRequest.action.free) statusCode quota
      .done (.panicked errNilPointer)
  | .ok channel => do
      (if channel.autoBan = some 1 ∧ cfg.automaticDisableChannelEnabled then
        updateChannelStatus cfg channelId .manuallyDisabled else .done ())
      let inserted ← store (submittedTask sub midjRequest channelId quota midjResponse).insert
      chargeMidjourney cfg sub (!midjRequest.action.free && midjResponse.accepted) statusCode quota
      .done (match inserted with
        | .error _ => .refused (midjourneyErrorWrapper 4 "insert_midjourney_task_failed")
        | .ok () => .sent)

def submitMidjourney (sub : MjSubmission) (midjRequest : MidjourneyRequest) (channelId : Int) :
    Program MjStore MjReply :=
  match sub.price with
  | .error e => .done (.refused (midjourneyErrorWrapper 4 e))
  | .ok quota => do
      match ← store (onAccounts (getUserQuota sub.relayInfo.userId false)) with
      | .error e => .done (.refused (midjourneyErrorWrapper 4 e))
      | .ok userQuota =>
        if midjRequest.action.free = false ∧ userQuota - quota < 0 then
          .done (.refused (midjourneyErrorWrapper 4 "quota_not_enough"))
        else match sub.answer with
          | .failed response => .done (.refused response)
          | .answered statusCode midjResponse =>
            recordMidjourney cfg sub midjRequest channelId quota statusCode midjResponse

def relayMidjourneySubmit (sub : MjSubmission) : Program MjStore MjReply :=
  match sub.request with
  | none => .done (mjRequestError "bind_request_body_failed")
  | some midjRequest =>
    match requestedAction sub.relayMode midjRequest with
    | .error reply => .done reply
    | .ok (midjRequest, mjId) => do
        match ← originTask cfg sub.relayMode sub.relayInfo.userId sub.channelId midjRequest mjId with
        | .error reply => .done reply
        | .ok (midjRequest, channelId) => submitMidjourney cfg sub midjRequest channelId

end NewApi.Model
