/-
# Model.Realtime — billing of a realtime (WebSocket) session

`service/quota.go`, `OpenaiRealtimeHandler` and `preConsumeUsage` of
`relay/channel/openai/relay-openai.go`, `TryTieredSettle` of `service/tiered_settle.go` and the way
`controller/relay.go` and `relay/websocket.go` put them together.

What a reader does with a message is one step, and a session is the list of its messages in the order
they were handled.  Token counts of messages without usage are part of the message.
-/
import NewApi.Theory.Decimal
import NewApi.Model.BillingSession

namespace NewApi.Model
open Theory Theory.Text

/-- What billing reads of `dto.RealtimeUsage`. -/
structure RealtimeUsage where
  totalTokens : Int
  inputTokens : Int
  outputTokens : Int
  inputCached : Int
  inputText : Int
  inputAudio : Int
  outputText : Int
  outputAudio : Int
deriving DecidableEq

namespace RealtimeUsage

def zero : RealtimeUsage := ⟨0, 0, 0, 0, 0, 0, 0, 0⟩

def add (a b : RealtimeUsage) : RealtimeUsage :=
  ⟨a.totalTokens + b.totalTokens, a.inputTokens + b.inputTokens, a.outputTokens + b.outputTokens,
    a.inputCached + b.inputCached, a.inputText + b.inputText, a.inputAudio + b.inputAudio,
    a.outputText + b.outputText, a.outputAudio + b.outputAudio⟩

/-- Counted tokens of a message to the model. -/
def countInput (usage : RealtimeUsage) (text audio : Int) : RealtimeUsage :=
  { usage with
    totalTokens := usage.totalTokens + (text + audio)
    inputTokens := usage.inputTokens + (text + audio)
    inputText := usage.inputText + text
    inputAudio := usage.inputAudio + audio }

/-- Counted tokens of a message from the model. -/
def countOutput (usage : RealtimeUsage) (text audio : Int) : RealtimeUsage :=
  { usage with
    totalTokens := usage.totalTokens + (text + audio)
    outputTokens := usage.outputTokens + (text + audio)
    outputText := usage.outputText + text
    outputAudio := usage.outputAudio + audio }

end RealtimeUsage

/-! ## Prices -/

structure RatioSetting where
  completionRatio : String → Rat
  audioRatio : String → Rat
  audioCompletionRatio : String → Rat
  modelRatio : String → Rat
  groupRatio : String → Rat
  groupGroupRatio : String → String → Option Rat

structure QuotaInfo where
  usage : RealtimeUsage
  modelName : String
  usePrice : Bool
  modelPrice : Rat
  modelRatio : Rat
  groupRatio : Rat

def calculateAudioQuota (cfg : Config) (setting : RatioSetting) (info : QuotaInfo) : Int :=
  if info.usePrice then Decimal.intPart (info.modelPrice * cfg.quotaPerUnit * info.groupRatio)
  else
    let completionRatio := setting.completionRatio info.modelName
    let audioRatio := setting.audioRatio info.modelName
    let audioCompletionRatio := setting.audioCompletionRatio info.modelName
    let ratio := info.groupRatio * info.modelRatio
    let tokens : Rat := info.usage.inputText + info.usage.outputText * completionRatio +
      info.usage.inputAudio * audioRatio +
      info.usage.outputAudio * audioRatio * audioCompletionRatio
    let quota := tokens * ratio
    Decimal.round (if ratio ≠ 0 ∧ quota ≤ 0 then 1 else quota)

/-- `types.PriceData`, as far as realtime billing reads it. -/
structure PriceData where
  freeModel : Bool
  modelPrice : Rat
  modelRatio : Rat
  groupRatio : Rat
  usePrice : Bool
  quotaToPreConsume : Int

/-- `TieredBillingSnapshot` of a request in mode `tiered_expr`: its expression on the usage,
which may fail, and the estimate. -/
structure TieredSnapshot where
  compute : RealtimeUsage → Option Int
  estimatedQuotaAfterGroup : Int

/-- What realtime billing reads of the request besides `RelayInfo`. -/
structure RealtimeInfo where
  originModelName : String
  upstreamModelName : String
  usingGroup : String
  userGroup : String
  /-- `ContextKeyAutoGroup` -/
  autoGroup : Option String
  /-- `relayInfo.UsePrice`, not that of the price data -/
  usePrice : Bool
  priceData : PriceData
  tiered : Option TieredSnapshot

def tryTieredSettle (relayInfo : RelayInfo) (info : RealtimeInfo) (usage : RealtimeUsage) : Option Int :=
  info.tiered.map fun snapshot =>
    match snapshot.compute usage with
    | some quota => quota
    | none =>
      if relayInfo.finalPreConsumedQuota ≤ 0 then snapshot.estimatedQuotaAfterGroup
      else relayInfo.finalPreConsumedQuota

variable (cfg : Config) (setting : RatioSetting) (info : RealtimeInfo)

def errUserQuota (userQuota quota : Int) : String :=
  "user quota is not enough, user quota: " ++ cfg.formatQuota userQuota ++ ", need quota: " ++
    cfg.formatQuota quota

/-- The quota `PreWssConsumeQuota` computes: ratios as they are now, groups as the context
and the user's group decide. -/
def preWssQuota (usage : RealtimeUsage) : Int :=
  let usingGroup := info.autoGroup.getD info.usingGroup
  let groupRatio := setting.groupRatio usingGroup
  let actualGroupRatio := (setting.groupGroupRatio info.userGroup usingGroup).getD groupRatio
  calculateAudioQuota cfg setting
    ⟨usage, info.originModelName, info.usePrice, 0, setting.modelRatio info.originModelName, actualGroupRatio⟩

def preWssConsumeQuota (usage : RealtimeUsage) (billed : Billed) : Program Store (Except String Unit × Billed) :=
  if info.usePrice then .done (.ok (), billed)
  else do
    let relayInfo := billed.relayInfo
    match ← Program.store (getUserQuota relayInfo.userId false) with
    | .error e => .done (.error e, billed)
    | .ok userQuota =>
      match ← Program.store (getTokenByKey (trimPrefix relayInfo.tokenKey "sk-") false) with
      | .error e => .done (.error e, billed)
      | .ok token =>
        let quota := preWssQuota cfg setting info usage
        if userQuota < quota then .done (.error (errUserQuota cfg userQuota quota), billed)
        else if !token.unlimitedQuota ∧ token.remainQuota < quota then
          .done (.error (errTokenQuota cfg token.remainQuota quota), billed)
        else do
          let (charged, relayInfo) ← postConsumeQuota cfg relayInfo quota
          .done (charged, billed.withInfo relayInfo)

/-- The quota `PostWssConsumeQuota` computes and writes to the consumption log. -/
def postWssQuota (relayInfo : RelayInfo) (usage : RealtimeUsage) : Int :=
  let quota := calculateAudioQuota cfg setting
    ⟨usage, info.upstreamModelName, info.priceData.usePrice, info.priceData.modelPrice,
      info.priceData.modelRatio, info.priceData.groupRatio⟩
  let quota := (tryTieredSettle relayInfo info usage).getD quota
  if usage.totalTokens = 0 then 0 else quota

/-- `PostWssConsumeQuota`: the logged quota and the outcome of the settlement, which is only
logged too. -/
def postWssConsumeQuota (usage : RealtimeUsage) (billed : Billed) : Program Store (Int × Except String Unit × Billed) := do
  let quota := postWssQuota cfg setting info billed.relayInfo usage
  let (settled, billed) ← settleBilling cfg quota billed
  .done (quota, settled, billed)

/-! ## The handler -/

/-- The counters of `OpenaiRealtimeHandler`. -/
structure RealtimeState where
  usage : RealtimeUsage
  localUsage : RealtimeUsage
  sumUsage : RealtimeUsage
  billed : Billed

def RealtimeState.start (billed : Billed) : RealtimeState := ⟨.zero, .zero, .zero, billed⟩

/-- A message that was read, with its token counts. -/
inductive RealtimeEvent where
  /-- from the client -/
  | client (text audio : Int)
  /-- `response.done` with its usage -/
  | responseDone (usage : RealtimeUsage)
  /-- `response.done` without usage -/
  | responseDoneCounted (text audio : Int)
  /-- `session.created` or `session.updated` -/
  | session
  /-- any other message from the model -/
  | other (text audio : Int)
deriving DecidableEq

def preConsumeUsage (usage : RealtimeUsage) (state : RealtimeState) :
    Program Store (Except String Unit × RealtimeState) := do
  let (outcome, billed) ← preWssConsumeQuota cfg setting info usage state.billed
  .done (outcome, { state with sumUsage := state.sumUsage.add usage, billed })

/-- What a reader does with a message; `false` when it stops reading. -/
def handleEvent (state : RealtimeState) : RealtimeEvent → Program Store (Bool × RealtimeState)
  | .client text audio =>
    .done (true, { state with localUsage := state.localUsage.countInput text audio })
  | .responseDone realtimeUsage => do
      let usage := state.usage.add realtimeUsage
      match ← preConsumeUsage cfg setting info usage { state with usage } with
      | (.error _, state) => .done (false, state)
      | (.ok (), state) => .done (true, { state with usage := .zero, localUsage := .zero })
  | .responseDoneCounted text audio => do
      let localUsage := state.localUsage.countInput text audio
      match ← preConsumeUsage cfg setting info localUsage { state with localUsage } with
      | (.error _, state) => .done (false, state)
      | (.ok (), state) => .done (true, { state with localUsage := .zero })
  | .session => .done (true, state)
  | .other text audio =>
    .done (true, { state with localUsage := state.localUsage.countOutput text audio })

def readEvents : List RealtimeEvent → RealtimeState → Program Store RealtimeState
  | [], state => .done state
  | event :: rest, state => do
      let (goesOn, state) ← handleEvent cfg setting info state event
      if goesOn then readEvents rest state else .done state

/-- What is left uncharged when the connection closes is charged, and errors ignored. -/
def flushUsage (usage : RealtimeUsage) (state : RealtimeState) : Program Store RealtimeState :=
  if usage.totalTokens ≠ 0 then do
    let (_, state) ← preConsumeUsage cfg setting info usage state
    .done state
  else .done state

def openaiRealtimeHandler (events : List RealtimeEvent) (billed : Billed) : Program Store RealtimeState := do
  let state ← readEvents cfg setting info events (.start billed)
  let state ← flushUsage cfg setting info state.usage state
  flushUsage cfg setting info state.localUsage state

/-- How a realtime request ends: refused before it starts, or logged with a quota. -/
inductive RealtimeEnd where
  | refused (e : ApiError)
  | logged (quota : Int) (settled : Except String Unit) (billed : Billed)

/-- `WssHelper`, once the connection stands. -/
def wssHelper (events : List RealtimeEvent) (billed : Billed) : Program Store RealtimeEnd := do
  let state ← openaiRealtimeHandler cfg setting info events billed
  let (quota, settled, billed) ← postWssConsumeQuota cfg setting info state.sumUsage state.billed
  .done (.logged quota settled billed)

def relayRealtime (fuel : Nat) (ctx : RequestContext) (relayInfo : RelayInfo)
    (events : List RealtimeEvent) : Program Store RealtimeEnd :=
  if info.priceData.freeModel then wssHelper cfg setting info events (.free relayInfo)
  else do
    match ← newBillingSession cfg fuel ctx relayInfo info.priceData.quotaToPreConsume with
    | .error e => .done (.refused e)
    | .ok session => wssHelper cfg setting info events (.opened session)

end NewApi.Model
