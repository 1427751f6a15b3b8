/-
# Routing.Relay — the retry loop of a request

`controller/relay.go`, `service/channel_select.go` and the decision functions they call.  After an
error that may be retried the loop selects another channel and sends again.  For the token group
`auto` the selection walks the user's auto groups: the group in use is an index in the request
context, and with cross-group retry a group whose retries are used up is left by setting the loop's
own counter back to zero and suppressing its next increment.

`Upstream` is what happens outside the loop.  Prices, logs and the asynchronous disabling of channels
are left out.
-/
import NewApi.Routing.ChannelCache

namespace NewApi.Routing
open Theory Text

/-! ## Settings and context -/

structure StatusCodeRange where
  first : Int
  last : Int
deriving DecidableEq

/-- The value `AutomaticRetryStatusCodeRanges` starts with. -/
def defaultRetryStatusCodeRanges : List StatusCodeRange :=
  [⟨100, 199⟩, ⟨300, 399⟩, ⟨401, 407⟩, ⟨409, 499⟩, ⟨500, 503⟩, ⟨505, 523⟩, ⟨525, 599⟩]

structure RelaySettings where
  retryTimes : Nat
  autoGroups : List String
  /-- The keys of `UserUsableGroups`. -/
  userUsableGroups : List String
  /-- The keys of `GroupSpecialUsableGroup`, by user group. -/
  groupSpecialUsableGroup : String → Option (List String)
  automaticRetryStatusCodeRanges : List StatusCodeRange

/-- The context keys the loop reads or writes. -/
structure RequestContext where
  userGroup : String
  tokenCrossGroupRetry : Bool
  autoGroupIndex : Option Nat
  autoGroup : Option String
  channelId : Int
  /-- What `ShouldSkipRetryAfterChannelAffinityFailure` reads. -/
  channelAffinitySkipRetry : Bool
  /-- Whether the key `specific_channel_id` is set. -/
  specificChannelId : Bool
deriving DecidableEq

/-- One entry of `GroupSpecialUsableGroup`: `-:` removes a group, `+:` or nothing adds one. -/
def applySpecialGroup (groups : List String) (special : String) : List String :=
  if hasPrefix special "-:" then groups.filter (· ≠ trimPrefix special "-:")
  else if hasPrefix special "+:" then trimPrefix special "+:" :: groups
  else special :: groups

variable (settings : RelaySettings)

def RelaySettings.getUserUsableGroups (userGroup : String) : List String :=
  if userGroup = "" then settings.userUsableGroups
  else
    let groups := ((settings.groupSpecialUsableGroup userGroup).getD []).foldl applySpecialGroup
      settings.userUsableGroups
    if userGroup ∈ groups then groups else userGroup :: groups

def RelaySettings.getUserAutoGroup (userGroup : String) : List String :=
  settings.autoGroups.filter (· ∈ settings.getUserUsableGroups userGroup)

/-! ## Errors -/

/-- What the loop reads of `types.NewAPIError`. -/
structure NewAPIError where
  text : String
  errorCode : String
  statusCode : Int
  skipRetry : Bool
deriving DecidableEq

/-- What `ToOpenAIError` makes of an error: the masked message, and the code as text. -/
structure OpenAIError where
  message : String
  code : String
deriving DecidableEq

/-- The error of an attempt, with its OpenAI form. -/
structure UpstreamError extends NewAPIError where
  toOpenAIError : OpenAIError
deriving DecidableEq

/-- `types.NewError` with `ErrOptionWithSkipRetry`. -/
def newSkipRetryError (text errorCode : String) : NewAPIError :=
  { text, errorCode, statusCode := 500, skipRetry := true }

/-- `types.WithOpenAIError` with `ErrOptionWithSkipRetry`. -/
def withOpenAIError (openAIError : OpenAIError) (statusCode : Int) : NewAPIError :=
  { text := openAIError.message, errorCode := openAIError.code, statusCode, skipRetry := true }

def csamViolationMarker : String := "Failed check: SAFETY_CHECK_TYPE"
def contentViolatesUsageMarker : String := "Content violates usage guidelines"

variable (err : UpstreamError)

def hasCSAMViolationMarker : Bool :=
  contains err.text csamViolationMarker || contains err.text contentViolatesUsageMarker ||
    contains err.toOpenAIError.message csamViolationMarker ||
    contains err.text contentViolatesUsageMarker

def isViolationFeeCode (code : String) : Bool := hasPrefix code "violation_fee."

def wrapAsViolationFeeGrokCSAM : NewAPIError :=
  withOpenAIError { err.toOpenAIError with code := "violation_fee.grok.csam" } err.statusCode

def normalizeViolationFeeError : NewAPIError :=
  if hasCSAMViolationMarker err then wrapAsViolationFeeGrokCSAM err
  else if isViolationFeeCode err.errorCode then withOpenAIError err.toOpenAIError err.statusCode
  else err.toNewAPIError

def isChannelError (err : NewAPIError) : Bool := hasPrefix err.errorCode "channel:"

/-! ## Whether to retry -/

def isAlwaysSkipRetryStatusCode (code : Int) : Bool := code = 504 || code = 524

def isAlwaysSkipRetryCode (errorCode : String) : Bool := errorCode = "bad_response_body"

/-- The scan of `shouldMatchStatusCodeRanges`, which takes the ranges to be sorted. -/
def scanStatusCodeRanges (code : Int) : List StatusCodeRange → Bool
  | [] => false
  | range :: rest =>
    if code < range.first then false
    else if code ≤ range.last then true
    else scanStatusCodeRanges code rest

def shouldMatchStatusCodeRanges (ranges : List StatusCodeRange) (code : Int) : Bool :=
  if code < 100 ∨ code > 599 then false else scanStatusCodeRanges code ranges

def RelaySettings.shouldRetryByStatusCode (code : Int) : Bool :=
  if isAlwaysSkipRetryStatusCode code then false
  else shouldMatchStatusCodeRanges settings.automaticRetryStatusCodeRanges code

def RelaySettings.shouldRetry (context : RequestContext)
    (openaiErr : Option NewAPIError) (retryTimes : Int) : Bool :=
  match openaiErr with
  | none => false
  | some err =>
    if context.channelAffinitySkipRetry then false
    else if isChannelError err then true
    else if err.skipRetry then false
    else if retryTimes ≤ 0 then false
    else if context.specificChannelId then false
    else if 200 ≤ err.statusCode ∧ err.statusCode < 300 then false
    else if err.statusCode < 100 ∨ err.statusCode > 599 then true
    else if isAlwaysSkipRetryCode err.errorCode then false
    else settings.shouldRetryByStatusCode err.statusCode

/-! ## The selection of a channel -/

structure RetryParam where
  tokenGroup : String
  modelName : String
  retry : Nat
  resetNextTry : Bool
deriving DecidableEq

variable (param : RetryParam)

def RetryParam.setRetry (retry : Nat) : RetryParam := { param with retry }

def RetryParam.increaseRetry : RetryParam :=
  if param.resetNextTry then { param with resetNextTry := false }
  else { param with retry := param.retry + 1 }

def RetryParam.resetRetryNextTry : RetryParam := { param with resetNextTry := true }

/-- The variables of the loop: the retry parameter, the request context and whether the
channel metadata of the relay info is set. -/
structure RelayState where
  param : RetryParam
  context : RequestContext
  channelMeta : Bool
deriving DecidableEq

def RelayState.setAutoGroupIndex (s : RelayState) (index : Nat) : RelayState :=
  { s with context := { s.context with autoGroupIndex := some index } }

def RelayState.setAutoGroup (s : RelayState) (group : String) : RelayState :=
  { s with context := { s.context with autoGroup := some group } }

/-- The state in which a group without a channel leaves the search: the next group, from the
start. -/
def RelayState.skipGroup (s : RelayState) (index : Nat) : RelayState :=
  { s.setAutoGroupIndex (index + 1) with param := s.param.setRetry 0 }

/-- The state after the last retry of a group: the next attempt starts in the next group. -/
def RelayState.leaveGroup (s : RelayState) (index : Nat) : RelayState :=
  { s.setAutoGroupIndex (index + 1) with param := (s.param.setRetry 0).resetRetryNextTry }

/-- The index the search starts from; a fixed token group stands at index zero. -/
def RelayState.startGroupIndex (s : RelayState) : Nat :=
  if s.param.tokenGroup = "auto" then s.context.autoGroupIndex.getD 0 else 0

/-- The channel a selection found: the group, its place among the auto groups, the retry
counter it was selected with. -/
structure Pick where
  index : Nat
  group : String
  priorityRetry : Nat
  channel : Channel
deriving DecidableEq

/-- What an attempt meets outside the loop. -/
structure Upstream where
  /-- The random number of an attempt's lookup in the group of an index. -/
  random : Nat → Nat → Nat
  /-- The error of `SetupContextForSelectedChannel`. -/
  setup : Nat → Option NewAPIError
  /-- The error of `GetBodyStorage`: whether the body was too large, and the text. -/
  body : Nat → Option (Bool × String)
  /-- Whether the attempt initialises `info.ChannelMeta`. -/
  initialises : Nat → Bool
  /-- The error the relay handler returns. -/
  answer : Nat → Option UpstreamError

variable (cache : ChannelCache) (settings : RelaySettings)

/-- The loop over the auto groups, from index `i`; `start` is the index it started from. -/
def searchAutoGroups (random : Nat → Nat) (start : Nat) : Nat → List String → RelayState → Option Pick × RelayState
  | _, [], s => (none, s)
  | i, autoGroup :: rest, s =>
    let priorityRetry := if i > start then 0 else s.param.retry
    match cache.getRandomSatisfiedChannel autoGroup s.param.modelName priorityRetry
      (random i) with
    | .ok (some channel) =>
      let s := s.setAutoGroup autoGroup
      if s.context.tokenCrossGroupRetry ∧ priorityRetry ≥ settings.retryTimes then
        (some ⟨i, autoGroup, priorityRetry, channel⟩, s.leaveGroup i)
      else (some ⟨i, autoGroup, priorityRetry, channel⟩, s.setAutoGroupIndex i)
    | _ => searchAutoGroups random start (i + 1) rest (s.skipGroup i)

/-- `CacheGetRandomSatisfiedChannel`: what it found, the group it names, and the state. -/
def cacheGetRandomSatisfiedChannel (random : Nat → Nat) (s : RelayState) :
    Except String (Option Pick) × String × RelayState :=
  if s.param.tokenGroup = "auto" then
    if settings.autoGroups.length = 0 then
      (.error "auto groups is not enabled", s.param.tokenGroup, s)
    else
      let autoGroups := settings.getUserAutoGroup s.context.userGroup
      let start := s.startGroupIndex
      let (found, s') := searchAutoGroups cache settings random start start
        (autoGroups.drop start) s
      (.ok found, (found.map (·.group)).getD s.param.tokenGroup, s')
  else
    match cache.getRandomSatisfiedChannel s.param.tokenGroup s.param.modelName s.param.retry
      (random 0) with
    | .error err => (.error err, s.param.tokenGroup, s)
    | .ok none => (.ok none, s.param.tokenGroup, s)
    | .ok (some channel) =>
      (.ok (some ⟨0, s.param.tokenGroup, s.param.retry, channel⟩), s.param.tokenGroup, s)

/-- One call of `CacheGetRandomSatisfiedChannel`, as the history records it. -/
structure Selection where
  start : Nat
  found : Option Pick
deriving DecidableEq

variable (world : Upstream)

/-- `getChannel`: the id of the channel, the selection it made, if it made one, and the state. -/
def getChannel (attempt : Nat) (s : RelayState) : Except NewAPIError Int × List Selection × RelayState :=
  if s.channelMeta = false then (.ok s.context.channelId, [], s)
  else
    match cacheGetRandomSatisfiedChannel cache settings (world.random attempt) s with
    | (.error err, selectGroup, s') =>
      (.error (newSkipRetryError s!"获取分组 {selectGroup} 下模型 {s.param.modelName} 的可用渠道失败（retry）: {err}"
        "get_channel_failed"), [⟨s.startGroupIndex, none⟩], s')
    | (.ok none, selectGroup, s') =>
      (.error (newSkipRetryError s!"分组 {selectGroup} 下模型 {s.param.modelName} 的可用渠道不存在（retry）"
        "get_channel_failed"), [⟨s.startGroupIndex, none⟩], s')
    | (.ok (some pick), _, s') =>
      match world.setup attempt with
      | some err => (.error err, [⟨s.startGroupIndex, some pick⟩], s')
      | none =>
        (.ok pick.channel.id, [⟨s.startGroupIndex, some pick⟩],
          { s' with context := { s'.context with channelId := pick.channel.id } })

/-! ## The loop -/

/-- What is left of a run: the channels the attempts used, the selections, and the error. -/
structure RelayRun where
  useChannel : List Int
  selections : List Selection
  newAPIError : Option NewAPIError
deriving DecidableEq

/-- One more attempt in front of a run. -/
def RelayRun.after (run : RelayRun) (channel : Int) (selections : List Selection) : RelayRun :=
  { run with
    useChannel := channel :: run.useChannel
    selections := selections ++ run.selections }

def bodyError (failure : Bool × String) : NewAPIError :=
  { text := failure.2
    errorCode := "read_request_body_failed"
    statusCode := if failure.1 then 413 else 400
    skipRetry := true }

/-- The end of an attempt: its error, and whether the loop goes on. -/
def attemptOutcome (attempt : Nat) (s : RelayState) : Option NewAPIError × Bool :=
  match world.body attempt with
  | some failure => (some (bodyError failure), false)
  | none =>
    match world.answer attempt with
    | none => (none, false)
    | some err =>
      (some (normalizeViolationFeeError err), settings.shouldRetry s.context (some (normalizeViolationFeeError err))
          ((settings.retryTimes : Int) - s.param.retry))

/-- The loop of `Relay`; `none` if it is still going after `fuel` rounds. -/
def relayLoop (world : Upstream) : Nat → Nat → Option NewAPIError → RelayState → Option RelayRun
  | 0, _, _, _ => none
  | fuel + 1, attempt, lastError, s =>
    if s.param.retry ≤ settings.retryTimes then
      match getChannel cache settings world attempt s with
      | (.error err, selections, _) => some ⟨[], selections, some err⟩
      | (.ok channel, selections, s) =>
        match attemptOutcome settings world attempt s with
        | (err, false) => some ⟨[channel], selections, err⟩
        | (err, true) =>
          (relayLoop world fuel (attempt + 1) err { s with
              param := s.param.increaseRetry
              channelMeta := s.channelMeta || world.initialises attempt }).map
            (·.after channel selections)
    else some ⟨[], [], lastError⟩

/-- The state `Relay` enters its loop with. -/
def firstRound (tokenGroup modelName : String) (context : RequestContext) : RelayState where
  param := { tokenGroup, modelName, retry := 0, resetNextTry := false }
  context := context
  channelMeta := false

def relay (fuel : Nat) (tokenGroup modelName : String) (context : RequestContext) : Option RelayRun :=
  relayLoop cache settings world fuel 0 none (firstRound tokenGroup modelName context)

end NewApi.Routing
