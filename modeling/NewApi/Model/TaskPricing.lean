/-
# Model.TaskPricing — the price of a submitted task

`ModelPriceHelperPerCall` of `relay/helper/price.go`, and of `relay/relay_task.go` what
`ResolveOriginTask` and `RelayTaskSubmit` do to the price data and `recalcQuotaFromRatios`.
A Go map that a loop reads is given with its entries in the order the loop meets them, so
a statement about every `Ratios` is one about every map and every order.
-/
import Mathlib.Data.List.AList
import NewApi.Model.Task
import NewApi.Theory.DeltaMap

namespace NewApi.Model
open Theory

/-! ## The group of a submitted task

`HandleGroupRatio` of `relay/helper/price.go`, `InitTask` of `model/task.go` and the part of
`RelayTask` of `controller/relay.go` that keeps the group: every attempt prices the task in
the group it uses, and the task stores the group of the last attempt.
-/

structure GroupRatioInfo where
  groupRatio : Rat
  groupSpecialRatio : Rat
  hasSpecialRatio : Bool
deriving DecidableEq

/-- `relaycommon.RelayInfo`, as far as a task takes from it. -/
structure TaskRelayInfo where
  userId : Int
  userGroup : String
  usingGroup : String
  channelId : Int
  originModelName : String
  publicTaskID : String
  billingSource : String
  subscriptionId : Int
  tokenId : Int
deriving DecidableEq

section
variable (ratios : TaskRatios)

/-- `autoGroup` is `auto_group` of the context; the group in use is changed in place. -/
def handleGroupRatio (autoGroup : Option String) (info : TaskRelayInfo) : GroupRatioInfo × TaskRelayInfo :=
  let info := { info with usingGroup := autoGroup.getD info.usingGroup }
  match ratios.groupGroupRatio info.userGroup info.usingGroup with
  | some userGroupRatio => (⟨userGroupRatio, userGroupRatio, true⟩, info)
  | none => (⟨ratios.groupRatio info.usingGroup, -1, false⟩, info)

def failedAttempts (earlier : List (Option String)) (info : TaskRelayInfo) : TaskRelayInfo :=
  earlier.foldl (fun info autoGroup => (handleGroupRatio ratios autoGroup info).2) info

def pricedAttempt (earlier : List (Option String)) (last : Option String) (info : TaskRelayInfo) :
    GroupRatioInfo × TaskRelayInfo :=
  handleGroupRatio ratios last (failedAttempts ratios earlier info)

end

/-- What the accepted attempt brings besides. -/
structure TaskSubmitResult where
  platform : TaskPlatform
  upstreamTaskID : String
  taskData : RawMessage
  quota : Int
  otherRatios : List Rat
  perCallBilling : Bool
  now : Int

/-- `InitTask`, and what `RelayTask` fills in before it inserts the task. -/
def initTask (info : TaskRelayInfo) (result : TaskSubmitResult) : Task :=
  { id := 0
    taskID := info.publicTaskID
    platform := result.platform
    userId := info.userId
    group := info.usingGroup
    channelId := info.channelId
    quota := result.quota
    status := .notStart
    failReason := ""
    submitTime := result.now
    startTime := 0
    finishTime := 0
    progress := "0%"
    originModelName := info.originModelName
    privateData :=
      { upstreamTaskID := result.upstreamTaskID
        resultURL := ""
        billingSource := info.billingSource
        subscriptionId := info.subscriptionId
        tokenId := info.tokenId
        billingContext := some ⟨result.otherRatios, info.originModelName, result.perCallBilling⟩ }
    data := result.taskData }

abbrev Ratios := AList fun _ : String => Rat

def Ratios.values (ratios : Ratios) : List Rat := ratios.entries.map Sigma.snd

def addOtherRatio (otherRatios : Ratios) (key : String) (ratio : Rat) : Ratios :=
  if ratio ≤ 0 then otherRatios else otherRatios.insert key ratio

def addOtherRatios (otherRatios added : Ratios) : Ratios :=
  added.entries.foldl (fun otherRatios entry => addOtherRatio otherRatios entry.1 entry.2) otherRatios

/-- `types.PriceData`, as far as a task has it. -/
structure TaskPriceData where
  freeModel : Bool
  modelPrice : Rat
  modelRatio : Rat
  usePrice : Bool
  quota : Int
  otherRatios : Ratios
  groupRatioInfo : GroupRatioInfo

structure PricedRelayInfo extends TaskRelayInfo where
  priceData : TaskPriceData

structure TaskPriceSettings where
  ratios : TaskRatios
  /-- `GetModelPrice` -/
  modelPrice : String → Option Rat
  /-- `GetDefaultModelPriceMap` -/
  defaultModelPrice : String → Option Rat
  quotaPerUnit : Rat
  enableFreeModelPreConsume : Bool
  taskPricePatches : List String

/-- There is no price for a model without a price or a ratio of its own. -/
def modelPriceHelperPerCall (settings : TaskPriceSettings) (acceptUnsetRatioModel : Bool)
    (autoGroup : Option String) (info : TaskRelayInfo) : Option TaskPriceData × TaskRelayInfo :=
  let (groupRatioInfo, info) := handleGroupRatio settings.ratios autoGroup info
  let priced (modelPrice modelRatio : Rat) (usePrice : Bool) (perUnit : Rat) : TaskPriceData :=
    let quota := Decimal.intPart (perUnit * settings.quotaPerUnit * groupRatioInfo.groupRatio)
    let freeModel := !settings.enableFreeModelPreConsume &&
      (groupRatioInfo.groupRatio = 0 || (if usePrice then modelPrice else modelRatio) = 0)
    ⟨freeModel, modelPrice, modelRatio, usePrice, if freeModel then 0 else quota, ∅, groupRatioInfo⟩
  match (settings.modelPrice info.originModelName).or (settings.defaultModelPrice info.originModelName) with
  | some modelPrice => (some (priced modelPrice 0 true modelPrice), info)
  | none =>
    let (modelRatio, ratioSuccess) := settings.ratios.modelRatio info.originModelName
    if !ratioSuccess && !acceptUnsetRatioModel then (none, info)
    else (some (priced (-1) modelRatio false (modelRatio / 2)), info)

/-- What `strconv.Atoi` returns beside its error: zero, or the limit that was passed. -/
def atoiValue (s : String) : Int :=
  let signed := match s.toList with
    | '-' :: rest => (Text.digits rest).map (- ·)
    | '+' :: rest => Text.digits rest
    | rest => Text.digits rest
  max (-2 ^ 63) (min (2 ^ 63 - 1) (signed.getD 0))

/-- The origin of a remix: its billing context, or what an old task has in its data (empty
where there is no such text). -/
inductive OriginTask
  | billed (otherRatios : Ratios)
  | old (seconds size : String)

/-- The ratios `ResolveOriginTask` adds for a remix. -/
def originRatios (origin : OriginTask) (otherRatios : Ratios) : Ratios :=
  match origin with
  | .billed ratios => addOtherRatios otherRatios ratios
  | .old secondsStr sizeStr =>
    let seconds := if atoiValue secondsStr ≤ 0 then 4 else atoiValue secondsStr
    let size : Rat := if sizeStr = "1792x1024" ∨ sizeStr = "1024x1792" then 1666667 / 1000000 else 1
    (otherRatios.insert "seconds" (seconds : Rat)).insert "size" size

def resolveOriginTask (origin : OriginTask) (info : PricedRelayInfo) : PricedRelayInfo :=
  { info with priceData.otherRatios := originRatios origin info.priceData.otherRatios }

/-- The loop of `RelayTaskSubmit` over the ratios. -/
def applyOtherRatios (order : List Rat) (quota : Int) : Int :=
  order.foldl (fun quota ra => if ra ≠ 1 then Decimal.intPart (quota * ra) else quota) quota

/-- What an attempt brings to the price: its group, the name `CoverTaskActionToModelName`
gives, `EstimateBilling` of its adaptor and the order in which the loop meets the ratios. -/
structure TaskAttempt where
  autoGroup : Option String
  actionModelName : String
  acceptUnsetRatioModel : Bool
  estimatedRatios : Ratios
  order : RangeOrder

/-- `RelayTaskSubmit` up to the pre-consumption, and whether there was a price. -/
def relayTaskSubmit (settings : TaskPriceSettings) (attempt : TaskAttempt) (info : PricedRelayInfo) :
    PricedRelayInfo × Bool :=
  let modelName := if info.originModelName = "" then attempt.actionModelName else info.originModelName
  match modelPriceHelperPerCall settings attempt.acceptUnsetRatioModel attempt.autoGroup
      { info.toTaskRelayInfo with originModelName := modelName } with
  | (none, relayInfo) => ({ info with toTaskRelayInfo := relayInfo }, false)
  | (some priceData, relayInfo) =>
    -- `info.PriceData = priceData`: whatever was there before is gone
    let otherRatios := addOtherRatios priceData.otherRatios attempt.estimatedRatios
    let quota := if settings.taskPricePatches.contains modelName then priceData.quota
      else applyOtherRatios (attempt.order.list otherRatios.values) priceData.quota
    (⟨relayInfo, { priceData with otherRatios, quota }⟩, true)

/-- `applied` and `ratios` are the loops over `OtherRatios` and over the adjusted ratios. -/
def recalcQuotaFromRatios (quota : Int) (applied ratios : List Rat) : Int :=
  let baseQuota := applied.foldl
    (fun baseQuota ra => if ra ≠ 1 ∧ ra > 0 then Decimal.intPart (baseQuota / ra) else baseQuota) quota
  Decimal.intPart (ratios.foldl (fun result ra => if ra ≠ 1 then result * ra else result) baseQuota)

end NewApi.Model
