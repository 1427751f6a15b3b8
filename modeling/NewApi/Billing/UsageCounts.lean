/-
# Billing.UsageCounts — the counts of a usage in its several forms

A Claude usage keeps the cached tokens beside the prompt, an OpenAI usage has them in it.  On the
way back they stay in, so they are reported twice; and a tiered expression takes the cache writes
from one of two fields where ordinary billing takes the larger of them.
-/
import NewApi.Model.TextQuota

namespace NewApi.Billing.UsageCounts
open Model NewApi.Stream List

/-! ## To OpenAI style and back -/

structure CountsNonneg (usage : TextUsage) : Prop where
  prompt : 0 ≤ usage.promptTokens
  completion : 0 ≤ usage.completionTokens
  cached : 0 ≤ usage.cachedTokens
  cachedCreation : 0 ≤ usage.cachedCreationTokens
  creation5m : 0 ≤ usage.claudeCacheCreation5mTokens
  creation1h : 0 ≤ usage.claudeCacheCreation1hTokens

/-- What a Claude client is told of a Claude usage that went through the OpenAI form. -/
def toldBack (usage : TextUsage) : ClaudeUsage :=
  buildClaudeUsageFromOpenAIUsage (buildOpenAIStyleUsageFromClaudeUsage usage).toUsage

/-- The same counts with the same split, which add up to the OpenAI prompt. -/
structure RoundTrips (usage : TextUsage) : Prop where
  input : (toldBack usage).inputTokens = usage.promptTokens
  output : (toldBack usage).outputTokens = usage.completionTokens
  cacheRead : (toldBack usage).cacheReadInputTokens = usage.cachedTokens
  cacheCreation : (toldBack usage).cacheCreationInputTokens = usage.cachedCreationTokens
  split : (toldBack usage).cacheCreation.getD (0, 0) =
    (usage.claudeCacheCreation5mTokens, usage.claudeCacheCreation1hTokens)
  sum : (toldBack usage).inputTokens + (toldBack usage).cacheReadInputTokens +
    (toldBack usage).cacheCreationInputTokens =
      (buildOpenAIStyleUsageFromClaudeUsage usage).promptTokens

theorem usage_round_trips_iff (usage : TextUsage) (counts : CountsNonneg usage)
    (total : usage.cachedCreationTokens = usage.claudeCacheCreation5mTokens + usage.claudeCacheCreation1hTokens) :
    RoundTrips usage ↔ usage.cachedTokens = 0 ∧ usage.cachedCreationTokens = 0 := by
  have creation : cacheCreationTokensForOpenAIUsage usage = usage.cachedCreationTokens := by
    unfold cacheCreationTokensForOpenAIUsage
    dsimp only
    split_ifs <;> omega
  have split : normalizeCacheCreationSplit usage.cachedCreationTokens
      usage.claudeCacheCreation5mTokens usage.claudeCacheCreation1hTokens =
      (usage.claudeCacheCreation5mTokens, usage.claudeCacheCreation1hTokens) := by
    unfold normalizeCacheCreationSplit
    rw [total]
    congr 1
    omega
  have input : (toldBack usage).inputTokens = usage.promptTokens + usage.cachedTokens + usage.cachedCreationTokens := by
    rw [← creation]
    rfl
  obtain ⟨prompt, completion, cached, cachedCreation, creation5m, creation1h⟩ := counts
  constructor
  · intro same
    have kept := same.input
    omega
  · rintro ⟨noRead, noWrite⟩
    refine ⟨by omega, rfl, rfl, rfl, ?_, ?_⟩
    · unfold toldBack buildClaudeUsageFromOpenAIUsage buildOpenAIStyleUsageFromClaudeUsage
      simp only [split]
      have none : usage.claudeCacheCreation5mTokens = 0 ∧ usage.claudeCacheCreation1hTokens = 0 := by omega
      simp [none]
    · show (toldBack usage).inputTokens + usage.cachedTokens + usage.cachedCreationTokens = (toldBack usage).inputTokens
      omega

/-- A prompt of ten tokens, of which five are read from the cache. -/
def cachedPrompt : TextUsage := ⟨⟨10, 3, 5, 0, 0, 0⟩, 13, 0, "anthropic", "", 0, 0, 0, 0, 0⟩

theorem cachedPrompt_counts : CountsNonneg cachedPrompt := by constructor <;> decide

/-- The client is told of fifteen new tokens and five cached ones. -/
theorem cached_tokens_told_twice :
    (toldBack cachedPrompt).inputTokens = 15 ∧ (toldBack cachedPrompt).cacheReadInputTokens = 5 ∧
      cachedPrompt.promptTokens = 10 := by
  decide

theorem cachedPrompt_not_round_trips : ¬ RoundTrips cachedPrompt := fun same =>
  absurd ((usage_round_trips_iff cachedPrompt cachedPrompt_counts rfl).mp same) (by decide)

/-! ## The counts of a tiered expression -/

section
variable (settings : TextPriceSettings) (info : TextRelayInfo) (usage : TextUsage)

/-- The tokens of the variables the expression uses. -/
def usedTokens (usedVars : List String) (counts : List (String × Int)) : Int :=
  (counts.map fun count => if usedVars.contains count.1 then count.2 else 0).sum

/-- `PostTextConsumeQuota` passes on the semantic that the summary has. -/
def tieredParams (usedVars : List String) : TokenParams :=
  buildTieredTokenParams usage (textTokens settings info usage).isClaudeUsageSemantic usedVars

def promptCounts (params : TokenParams) : List (String × Int) :=
  [("cr", params.cr), ("cc", params.cc), ("cc1h", params.cc1h), ("img", params.img), ("ai", params.ai)]

def completionCounts (params : TokenParams) : List (String × Int) := [("img_o", params.imgO), ("ao", params.ao)]

structure PricedOnce (usedVars : List String) (order : List Rat) : Prop where
  inTotals : (textTokens settings info usage).isClaudeUsageSemantic = false →
    let params := tieredParams settings info usage usedVars
    ((promptCounts params).map (·.2)).sum ≤ usage.promptTokens →
    ((completionCounts params).map (·.2)).sum ≤ usage.completionTokens →
      params.p + usedTokens usedVars (promptCounts params) = usage.promptTokens ∧
        params.c + usedTokens usedVars (completionCounts params) = usage.completionTokens
  beside : (textTokens settings info usage).isClaudeUsageSemantic = true →
    let params := tieredParams settings info usage usedVars
    params.cc + params.cc1h =
        cacheWriteTokensTotal (calculateTextQuotaSummary settings info order (some usage)) ∧
      params.len = params.p + params.cr + params.cc + params.cc1h

/-- The field that the expression reads has all the cache writes. -/
def ReadsAllWrites : Prop :=
  let created := (textTokens settings info usage).cacheCreationTokens
  let split := usage.claudeCacheCreation5mTokens + usage.claudeCacheCreation1hTokens
  (textTokens settings info usage).isClaudeUsageSemantic = true →
    if usage.usageSemantic = "anthropic" then created ≤ split
    else created = usage.cachedCreationTokens ∧ split ≤ usage.cachedCreationTokens

end

def claudeInfo : TextRelayInfo := ⟨"claude", true, false, 0, ⟨-1, 1, 1, 1, 1, 1, 1, 1, 1, false, ∅⟩, none, 0, none⟩

def noPrices : TextPriceSettings := ⟨500000, fun _ => none, fun _ _ => 0, fun _ => 0, fun _ _ => 0, fun _ => 0⟩

/-- A hundred tokens written to the cache, without a split. -/
def unsplitWrites : TextUsage := ⟨⟨10, 3, 0, 100, 0, 0⟩, 13, 0, "anthropic", "", 0, 0, 0, 0, 0⟩

end NewApi.Billing.UsageCounts
