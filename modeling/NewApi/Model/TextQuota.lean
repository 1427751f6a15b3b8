/-
# Model.TextQuota — what a text request costs

`service/text_quota.go` and `service/tiered_settle.go`, with the conversions of a usage in
`relay/channel/claude/relay-claude.go`.  Decimals and floats are exact rationals; the counts
and prices that only the log shows are left out.
-/
import NewApi.Model.TaskPricing
import NewApi.Stream.Claude

namespace NewApi.Model
open Theory

/-- `dto.Usage`; `cost` is zero where there is none. -/
structure TextUsage extends Stream.Usage where
  totalTokens : Int
  inputTokens : Int
  usageSemantic : String
  usageSource : String
  imageTokens : Int
  audioTokens : Int
  completionImageTokens : Int
  completionAudioTokens : Int
  cost : Rat
deriving DecidableEq

variable (usage : TextUsage)

def cacheCreationTokensForOpenAIUsage : Int :=
  let split := usage.claudeCacheCreation5mTokens + usage.claudeCacheCreation1hTokens
  if split = 0 then usage.cachedCreationTokens
  else if usage.cachedCreationTokens > split then usage.cachedCreationTokens
  else split

def buildOpenAIStyleUsageFromClaudeUsage : TextUsage :=
  let split := Stream.normalizeCacheCreationSplit usage.cachedCreationTokens
    usage.claudeCacheCreation5mTokens usage.claudeCacheCreation1hTokens
  let totalInputTokens := usage.promptTokens + usage.cachedTokens + cacheCreationTokensForOpenAIUsage usage
  { usage with
    claudeCacheCreation5mTokens := split.1
    claudeCacheCreation1hTokens := split.2
    promptTokens := totalInputTokens
    inputTokens := totalInputTokens
    totalTokens := totalInputTokens + usage.completionTokens
    usageSemantic := "openai"
    usageSource := "anthropic" }

/-! ## Ratios and prices -/

/-- `types.PriceData`, as far as text billing reads it. -/
structure TextPriceData where
  modelPrice : Rat
  modelRatio : Rat
  completionRatio : Rat
  cacheRatio : Rat
  cacheCreationRatio : Rat
  cacheCreation5mRatio : Rat
  cacheCreation1hRatio : Rat
  imageRatio : Rat
  groupRatio : Rat
  usePrice : Bool
  otherRatios : Ratios

structure TextPriceSettings where
  quotaPerUnit : Rat
  /-- `GetDefaultModelRatioMap` -/
  defaultModelRatio : String → Option Rat
  toolPriceForModel : String → String → Rat
  toolPrice : String → Rat
  gptImage1PriceOnceCall : String → String → Rat
  geminiInputAudioPricePerMillionTokens : String → Rat

/-- The built-in tools of `ResponsesUsageInfo`, by their calls. -/
structure BuiltInTools where
  webSearchPreview : Option Int
  fileSearch : Option Int

/-- What text billing reads of the request and its context. -/
structure TextRelayInfo where
  originModelName : String
  /-- `GetFinalRequestRelayFormat` is that of Claude -/
  claudeFormat : Bool
  /-- The channel is known and one of OpenRouter -/
  openRouter : Bool
  estimatePromptTokens : Int
  priceData : TextPriceData
  responsesUsageInfo : Option BuiltInTools
  claudeWebSearchRequests : Int
  /-- `image_generation_call`, with its quality and size -/
  imageGenerationCall : Option (String × String)

structure TextQuotaSummary where
  promptTokens : Int
  completionTokens : Int
  totalTokens : Int
  cacheTokens : Int
  cacheCreationTokens : Int
  cacheCreationTokens5m : Int
  cacheCreationTokens1h : Int
  imageTokens : Int
  audioTokens : Int
  isClaudeUsageSemantic : Bool
  toolCallSurchargeQuota : Rat
  quota : Int

def cacheWriteTokensTotal (summary : TextQuotaSummary) : Int :=
  if summary.cacheCreationTokens5m > 0 ∨ summary.cacheCreationTokens1h > 0 then
    let split := summary.cacheCreationTokens5m + summary.cacheCreationTokens1h
    if summary.cacheCreationTokens > split then summary.cacheCreationTokens else split
  else summary.cacheCreationTokens

section
variable (settings : TextPriceSettings) (info : TextRelayInfo) (usage : TextUsage)

def usageSemanticFromUsage : String :=
  if usage.usageSemantic ≠ "" then usage.usageSemantic
  else if info.claudeFormat then "anthropic" else "openai"

def isLegacyClaudeDerivedOpenAIUsage : Bool :=
  !info.claudeFormat && usage.usageSource = "" && usage.usageSemantic = "" &&
    (0 < usage.claudeCacheCreation5mTokens || 0 < usage.claudeCacheCreation1hTokens)

def hasCustomModelRatio : Bool := settings.defaultModelRatio info.originModelName ≠ some info.priceData.modelRatio

def calcOpenRouterCacheCreateTokens : Int :=
  let price := info.priceData
  if price.cacheCreationRatio = 1 then 0
  else
    let quotaPrice := price.modelRatio / settings.quotaPerUnit
    Decimal.round ((usage.cost - usage.promptTokens * quotaPrice +
      usage.cachedTokens * (quotaPrice - quotaPrice * price.cacheRatio) -
      usage.completionTokens * (quotaPrice * price.completionRatio)) /
      (quotaPrice * price.cacheCreationRatio - quotaPrice))

/-- Calls of a tool with a price for a thousand of them. -/
def toolCallsQuota (price : Rat) (callCount : Int) : Rat :=
  if callCount > 0 then price * callCount / 1000 * info.priceData.groupRatio * settings.quotaPerUnit
  else 0

def calculateTextToolCallSurcharge : Rat :=
  let webSearchCallCount := match info.responsesUsageInfo with
    | some tools => tools.webSearchPreview.getD 0
    | none => if info.originModelName.endsWith "search-preview" then 1 else 0
  toolCallsQuota settings info (settings.toolPriceForModel "web_search_preview" info.originModelName)
      webSearchCallCount +
    toolCallsQuota settings info (settings.toolPrice "web_search") info.claudeWebSearchRequests +
    toolCallsQuota settings info (settings.toolPrice "file_search")
      ((info.responsesUsageInfo.bind (·.fileSearch)).getD 0) +
    match info.imageGenerationCall with
    | some (quality, size) => settings.gptImage1PriceOnceCall quality size *
        info.priceData.groupRatio * settings.quotaPerUnit
    | none => 0

/-- The counts of the summary: OpenRouter has the cached tokens in the prompt.  Its cost is
an interface value, which is never equal to the integer zero. -/
def textTokens (usage : TextUsage) : TextQuotaSummary :=
  let isClaudeUsageSemantic := usageSemanticFromUsage info usage = "anthropic"
  let prompt := usage.promptTokens - usage.cachedTokens
  let maybe := calcOpenRouterCacheCreateTokens settings info usage
  let openRouterClaude := info.openRouter ∧ isClaudeUsageSemantic
  let cacheCreationTokens :=
    if openRouterClaude ∧ usage.cachedCreationTokens = 0 ∧ info.priceData.cacheCreationRatio ≠ 1 ∧
        ¬ (info.priceData.usePrice ∨ hasCustomModelRatio settings info) ∧ 0 ≤ maybe ∧ maybe ≤ prompt
      then maybe else usage.cachedCreationTokens
  { promptTokens := if openRouterClaude then prompt - cacheCreationTokens else usage.promptTokens
    completionTokens := usage.completionTokens
    totalTokens := usage.promptTokens + usage.completionTokens
    cacheTokens := usage.cachedTokens
    cacheCreationTokens
    cacheCreationTokens5m := usage.claudeCacheCreation5mTokens
    cacheCreationTokens1h := usage.claudeCacheCreation1hTokens
    imageTokens := usage.imageTokens
    audioTokens := usage.audioTokens
    isClaudeUsageSemantic
    toolCallSurchargeQuota := calculateTextToolCallSurcharge settings info
    quota := 0 }

/-- What of the prompt has no ratio of its own, and what the rest of it counts for.  A part
of zero tokens takes nothing and counts for nothing. -/
def promptQuota (legacyClaudeDerived : Bool) (summary : TextQuotaSummary) : Rat :=
  let price := info.priceData
  let separate := summary.isClaudeUsageSemantic || legacyClaudeDerived
  let remaining := max 0 (summary.cacheCreationTokens - summary.cacheCreationTokens5m -
    summary.cacheCreationTokens1h)
  let audio := if settings.geminiInputAudioPricePerMillionTokens info.originModelName > 0
    then summary.audioTokens else 0
  let baseTokens := summary.promptTokens -
    (if separate then 0 else summary.cacheTokens + summary.cacheCreationTokens) -
    summary.imageTokens - audio
  baseTokens + summary.cacheTokens * price.cacheRatio + summary.imageTokens * price.imageRatio +
    (if separate then
      if summary.cacheCreationTokens ≠ 0 ∨ summary.cacheCreationTokens5m > 0 ∨ summary.cacheCreationTokens1h > 0 then
        remaining * price.cacheCreationRatio + summary.cacheCreationTokens5m * price.cacheCreation5mRatio +
          summary.cacheCreationTokens1h * price.cacheCreation1hRatio
      else 0
    else summary.cacheCreationTokens * price.cacheCreationRatio)

def audioInputQuota (summary : TextQuotaSummary) : Rat :=
  let price := settings.geminiInputAudioPricePerMillionTokens info.originModelName
  if price > 0 then
    price / 1000000 * summary.audioTokens * info.priceData.groupRatio * settings.quotaPerUnit
  else 0

/-- The usage of a response that has none. -/
def estimatedUsage : TextUsage :=
  ⟨⟨info.estimatePromptTokens, 0, 0, 0, 0, 0⟩, info.estimatePromptTokens, 0, "", "", 0, 0, 0, 0, 0⟩

/-- `order` is the loop over `OtherRatios`. -/
def calculateTextQuotaSummary (order : List Rat) (usage : Option TextUsage) : TextQuotaSummary :=
  let usage := usage.getD (estimatedUsage info)
  let price := info.priceData
  let summary := textTokens settings info usage
  let ratio := price.modelRatio * price.groupRatio
  let quota :=
    if !price.usePrice then
      let prompt := promptQuota settings info (isLegacyClaudeDerivedOpenAIUsage info usage) summary
      let quota := order.foldl (· * ·) ((prompt + summary.completionTokens * price.completionRatio) *
        ratio + summary.toolCallSurchargeQuota + audioInputQuota settings info summary)
      Decimal.round (if ratio ≠ 0 ∧ quota ≤ 0 then 1 else quota)
    else
      Decimal.round (order.foldl (· * ·) (price.modelPrice * settings.quotaPerUnit * price.groupRatio +
        summary.toolCallSurchargeQuota))
  { summary with
    quota := if summary.totalTokens = 0 then 0 else if ratio ≠ 0 ∧ quota = 0 then 1 else quota }

end

structure TokenParams where
  p : Int
  c : Int
  len : Int
  cr : Int
  cc : Int
  cc1h : Int
  img : Int
  imgO : Int
  ai : Int
  ao : Int
deriving DecidableEq

def buildTieredTokenParams (usage : TextUsage) (isClaudeUsageSemantic : Bool) (usedVars : List String) : TokenParams :=
  let cr := usage.cachedTokens
  let anthropic := usage.usageSemantic = "anthropic"
  let cc5m := if anthropic then usage.claudeCacheCreation5mTokens else usage.cachedCreationTokens
  let cc1h := if anthropic then usage.claudeCacheCreation1hTokens else 0
  let used (name : String) (tokens : Int) : Int :=
    if !isClaudeUsageSemantic && usedVars.contains name then tokens else 0
  let p := usage.promptTokens - used "cr" cr - used "cc" cc5m - used "cc1h" cc1h -
    used "img" usage.imageTokens - used "ai" usage.audioTokens
  let c := usage.completionTokens - used "img_o" usage.completionImageTokens -
    used "ao" usage.completionAudioTokens
  { p := max p 0
    c := max c 0
    len := if isClaudeUsageSemantic then usage.promptTokens + cr + cc5m + cc1h else usage.promptTokens
    cr
    cc := cc5m
    cc1h
    img := usage.imageTokens
    imgO := usage.completionImageTokens
    ai := usage.audioTokens
    ao := usage.completionAudioTokens }

end NewApi.Model
