/-
# Billing.TextQuota — sign and growth of what a text request costs

Whatever the sub-counts of a usage are, the quota is rounded from one exact price that
grows with the tokens, and the two clamps together are a maximum with one.
-/
import NewApi.Model.TextQuota
import Mathlib.Algebra.Order.BigOperators.GroupWithZero.List

namespace NewApi.Billing.TextQuota
open Model List
open Theory

variable (settings : TextPriceSettings) (info : TextRelayInfo)

/-- Ratios and prices that are not negative; a model without a price of its own has none. -/
structure NonNegative : Prop where
  modelRatio : 0 ≤ info.priceData.modelRatio
  groupRatio : 0 ≤ info.priceData.groupRatio
  completionRatio : 0 ≤ info.priceData.completionRatio
  otherRatios : ∀ ra ∈ info.priceData.otherRatios.values, 0 ≤ ra
  modelPrice : info.priceData.usePrice → 0 ≤ info.priceData.modelPrice
  quotaPerUnit : 0 ≤ settings.quotaPerUnit
  toolPriceForModel : ∀ tool model, 0 ≤ settings.toolPriceForModel tool model
  toolPrice : ∀ tool, 0 ≤ settings.toolPrice tool
  imagePrice : ∀ quality size, 0 ≤ settings.gptImage1PriceOnceCall quality size

/-- The price before it is rounded. -/
def exactQuota (usage : TextUsage) : Rat :=
  let price := info.priceData
  let summary := textTokens settings info usage
  (if price.usePrice then
    price.modelPrice * settings.quotaPerUnit * price.groupRatio + summary.toolCallSurchargeQuota
  else
    (promptQuota settings info (isLegacyClaudeDerivedOpenAIUsage info usage) summary +
      summary.completionTokens * price.completionRatio) * (price.modelRatio * price.groupRatio) +
      summary.toolCallSurchargeQuota + audioInputQuota settings info summary) *
    price.otherRatios.values.prod

def charged (ratio quota : Rat) : Int := if ratio = 0 then Decimal.round quota else max 1 (Decimal.round quota)

theorem charged_mono (ratio : Rat) {x y : Rat} (le : x ≤ y) : charged ratio x ≤ charged ratio y := by
  have rounded := Decimal.round_mono le
  unfold charged
  split_ifs
  · exact rounded
  · exact max_le_max_left 1 rounded

theorem charged_of_nonneg {ratio quota : Rat} (nonneg : ratio ≠ 0 → 0 ≤ quota) :
    (if ratio ≠ 0 ∧ Decimal.round quota = 0 then 1 else Decimal.round quota) = charged ratio quota := by
  unfold charged
  by_cases zero : ratio = 0
  · simp [zero]
  · have rounded := Decimal.round_nonneg (nonneg zero)
    simp only [zero, ne_eq, not_false_eq_true, true_and, if_false]
    omega

/-- The two clamps are one. -/
theorem charged_of_clamped (ratio quota : Rat) :
    (if ratio ≠ 0 ∧ Decimal.round (if ratio ≠ 0 ∧ quota ≤ 0 then 1 else quota) = 0 then 1
      else Decimal.round (if ratio ≠ 0 ∧ quota ≤ 0 then 1 else quota)) = charged ratio quota := by
  by_cases low : ratio ≠ 0 ∧ quota ≤ 0
  · have one : Decimal.round 1 = 1 := by decide +kernel
    have none : Decimal.round quota ≤ Decimal.round 0 := Decimal.round_mono low.2
    have zero : Decimal.round 0 = 0 := by decide +kernel
    rw [if_pos low, one, if_neg (by omega), charged, if_neg low.1]
    omega
  · rw [if_neg low]
    exact charged_of_nonneg fun nonzero => (not_le.mp fun quotaLow => low ⟨nonzero, quotaLow⟩).le

variable {promptTokens : Int}

theorem promptQuota_mono (legacy : Bool) {summary : TextQuotaSummary}
    (le : summary.promptTokens ≤ promptTokens) (completionTokens totalTokens : Int) :
    promptQuota settings info legacy summary ≤ promptQuota settings info legacy
      { summary with promptTokens, completionTokens, totalTokens } := by
  unfold promptQuota
  dsimp only
  gcongr

variable {settings info}

theorem surcharge_nonneg (priced : NonNegative settings info) : 0 ≤ calculateTextToolCallSurcharge settings info := by
  have group := priced.groupRatio
  have perUnit := priced.quotaPerUnit
  have calls {price : Rat} (nonneg : 0 ≤ price) (callCount : Int) :
      0 ≤ toolCallsQuota settings info price callCount := by
    unfold toolCallsQuota
    split_ifs with some
    · positivity
    · rfl
  refine add_nonneg (add_nonneg (add_nonneg (calls (priced.toolPriceForModel _ _) _)
    (calls (priced.toolPrice _) _)) (calls (priced.toolPrice _) _)) ?_
  split
  · exact mul_nonneg (mul_nonneg (priced.imagePrice _ _) group) perUnit
  · rfl

variable {usage : TextUsage}

section
variable (priced : NonNegative settings info)
include priced

/-- Without a ratio the tokens cost nothing, and nothing else is negative. -/
theorem exactQuota_nonneg (audio : 0 ≤ usage.audioTokens)
    (flat : info.priceData.usePrice ∨ info.priceData.modelRatio * info.priceData.groupRatio = 0) :
    0 ≤ exactQuota settings info usage := by
  have surcharge := surcharge_nonneg priced
  refine mul_nonneg ?_ (prod_nonneg priced.otherRatios)
  split_ifs with usePrice
  · exact add_nonneg (mul_nonneg (mul_nonneg (priced.modelPrice usePrice) priced.quotaPerUnit)
      priced.groupRatio) surcharge
  rw [flat.resolve_left usePrice, mul_zero, zero_add]
  refine add_nonneg surcharge ?_
  unfold audioInputQuota
  dsimp only
  split_ifs with price
  · have group := priced.groupRatio
    have perUnit := priced.quotaPerUnit
    positivity
  · rfl

theorem charged_nonneg (audio : 0 ≤ usage.audioTokens) :
    0 ≤ charged (info.priceData.modelRatio * info.priceData.groupRatio) (exactQuota settings info usage) := by
  unfold charged
  split_ifs with zero
  · exact Decimal.round_nonneg (exactQuota_nonneg priced audio (.inr zero))
  · exact zero_le_one.trans (le_max_left _ _)

theorem quota_eq {usage : Option TextUsage} (counted : TextUsage)
    (counts : usage.getD (estimatedUsage info) = counted) (audio : 0 ≤ counted.audioTokens)
    {order : List Rat} (iterates : order.Perm info.priceData.otherRatios.values) :
    (calculateTextQuotaSummary settings info order usage).quota =
      if counted.promptTokens + counted.completionTokens = 0 then 0
      else charged (info.priceData.modelRatio * info.priceData.groupRatio) (exactQuota settings info counted) := by
  subst counts
  have loop (quota : Rat) : order.foldl (· * ·) quota = quota * info.priceData.otherRatios.values.prod := by
    rw [← iterates.prod_eq, prod_eq_foldl]
    simpa using (foldl_assoc : order.foldl (· * ·) (quota * 1) = quota * order.foldl (· * ·) 1)
  have flat := exactQuota_nonneg priced audio
  unfold calculateTextQuotaSummary
  unfold exactQuota at *
  simp only [loop]
  refine if_congr Iff.rfl rfl ?_
  by_cases usePrice : info.priceData.usePrice
  · simp only [usePrice] at flat ⊢
    exact charged_of_nonneg fun _ => flat (.inl trivial)
  · simp only [usePrice]
    exact charged_of_clamped _ _

end

theorem textTokens_grown (promptTokens completionTokens : Int)
    (direct : ¬ (info.openRouter ∧ usageSemanticFromUsage info usage = "anthropic")) :
    textTokens settings info { usage with promptTokens, completionTokens } = { textTokens settings info usage with
        promptTokens, completionTokens, totalTokens := promptTokens + completionTokens } := by
  have other : usageSemanticFromUsage info { usage with promptTokens, completionTokens } =
      usageSemanticFromUsage info usage := rfl
  unfold textTokens
  simp only [other, direct, false_and, if_false]

/-- Both counts may grow; nothing else of the price depends on them. -/
theorem exactQuota_mono (priced : NonNegative settings info)
    (direct : ¬ (info.openRouter ∧ usageSemanticFromUsage info usage = "anthropic"))
    {completionTokens : Int} (prompt : usage.promptTokens ≤ promptTokens)
    (completion : usage.completionTokens ≤ completionTokens) : exactQuota settings info usage ≤
      exactQuota settings info { usage with promptTokens, completionTokens } := by
  have before : (textTokens settings info usage).promptTokens ≤ promptTokens :=
    le_of_eq_of_le (by simp only [textTokens, direct, if_false]) prompt
  have ratio := mul_nonneg priced.modelRatio priced.groupRatio
  unfold exactQuota
  rw [textTokens_grown promptTokens completionTokens direct]
  refine mul_le_mul_of_nonneg_right ?_ (prod_nonneg priced.otherRatios)
  split_ifs
  · rfl
  have words := promptQuota_mono settings info (isLegacyClaudeDerivedOpenAIUsage info usage)
    before completionTokens (promptTokens + completionTokens)
  have reply := priced.completionRatio
  gcongr
  · exact words
  · exact completion
  · rfl

theorem textQuota_sane (settings : TextPriceSettings) (info : TextRelayInfo)
    (priced : NonNegative settings info) (usage : Option TextUsage) (counted : TextUsage)
    (counts : usage.getD (estimatedUsage info) = counted) (prompt : 0 ≤ counted.promptTokens)
    (completion : 0 ≤ counted.completionTokens) (audio : 0 ≤ counted.audioTokens)
    (order : List Rat) (iterates : order.Perm info.priceData.otherRatios.values) :
    let quota order usage := (calculateTextQuotaSummary settings info order usage).quota
    let none := counted.promptTokens = 0 ∧ counted.completionTokens = 0
    0 ≤ quota order usage ∧ (none → quota order usage = 0) ∧
      (¬ none → info.priceData.modelRatio * info.priceData.groupRatio ≠ 0 → 1 ≤ quota order usage) ∧
      (∀ other, other.Perm info.priceData.otherRatios.values → quota other usage = quota order usage) ∧
      (¬ (info.openRouter ∧ usageSemanticFromUsage info counted = "anthropic") →
        ∀ promptTokens completionTokens, counted.promptTokens ≤ promptTokens →
          counted.completionTokens ≤ completionTokens →
          quota order usage ≤ quota order (some { counted with promptTokens, completionTokens })) := by
  intro quota none
  have value {order : List Rat} (iterates : order.Perm info.priceData.otherRatios.values) :
      quota order usage = _ := quota_eq priced counted counts audio iterates
  have sign := charged_nonneg priced audio
  refine ⟨?_, ?_, ?_, fun other again => (value again).trans (value iterates).symm, ?_⟩
  · rw [value iterates]
    split_ifs
    · rfl
    · exact sign
  · rintro ⟨first, second⟩
    rw [value iterates, first, second]
    rfl
  · intro something nonzero
    rw [value iterates, if_neg (fun sum => something ⟨by omega, by omega⟩), charged, if_neg nonzero]
    exact le_max_left _ _
  · intro direct promptTokens completionTokens more longer
    have grown : quota order (some { counted with promptTokens, completionTokens }) = _ :=
      quota_eq priced { counted with promptTokens, completionTokens } rfl audio iterates
    rw [value iterates, grown]
    dsimp only
    split_ifs with first second
    · rfl
    · exact charged_nonneg priced audio
    · exfalso
      omega
    · exact charged_mono _ (exactQuota_mono priced direct more longer)

/-- Every ratio is one, and a tool costs ten for a thousand calls. -/
def evenSettings : TextPriceSettings := ⟨500000, fun _ => none, fun _ _ => 10, fun _ => 10, fun _ _ => 1, fun _ => 0⟩

def evenInfo : TextRelayInfo := ⟨"gpt-4o", false, false, 7, ⟨-1, 1, 1, 1, 1, 1, 1, 1, 1, false, ∅⟩, none, 0, none⟩

def overReported : TextUsage := ⟨⟨10, 1, 500, 0, 0, 0⟩, 11, 0, "", "", 0, 0, 0, 0, 0⟩

theorem overReported_is_charged : 1 ≤ (calculateTextQuotaSummary evenSettings evenInfo [] (some overReported)).quota :=
  (textQuota_sane evenSettings evenInfo ⟨by decide, by decide, by decide, by decide, by decide, by decide,
      fun _ _ => (by decide : (0 : Rat) ≤ 10), fun _ => (by decide : (0 : Rat) ≤ 10), fun _ _ => zero_le_one⟩
    (some overReported) overReported rfl (by decide) (by decide) (by decide) [] (.refl _)).2.2.1
    (by decide) (by decide +kernel)

end NewApi.Billing.TextQuota
