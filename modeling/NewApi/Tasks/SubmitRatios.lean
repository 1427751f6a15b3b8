/-
# Tasks.SubmitRatios — what becomes of the ratios of a submitted task

The ratios of a remix's origin are applied only where the adaptor estimates them again.  The quota is
cut to a whole number after every ratio, so it is the exact price, cut once, of every base quota in
every order, exactly where the ratios let it: at most one of them is not 1, or all are whole numbers,
or all divide by whole numbers (`CutsOnce`).  Dividing the ratios out again cuts once more.
-/
import NewApi.Model.TaskPricing
import Mathlib.Algebra.Order.BigOperators.GroupWithZero.List

namespace NewApi.Tasks.SubmitRatios
open Model Theory.Decimal List
open Theory

/-! ## The ratios of a remix -/

/-- The ratio `AddOtherRatio` takes from a map. -/
def admitted (ratios : Ratios) (key : String) : Option Rat := (ratios.lookup key).filter (0 < ·)

theorem lookup_addOtherRatio (otherRatios : Ratios) (name key : String) (ratio : Rat) :
    (addOtherRatio otherRatios name ratio).lookup key =
      if key = name ∧ 0 < ratio then some ratio else otherRatios.lookup key := by
  unfold addOtherRatio
  by_cases same : key = name
  · subst same
    rcases lt_or_ge 0 ratio with positive | low
    · simp [not_le.mpr positive]
    · simp [low]
  · split_ifs <;> simp_all

theorem lookup_addOtherRatios (otherRatios added : Ratios) (key : String) :
    (addOtherRatios otherRatios added).lookup key = (admitted added key).or (otherRatios.lookup key) := by
  obtain ⟨entries, distinct⟩ := added
  show (entries.foldl _ otherRatios).lookup key = ((entries.dlookup key).filter (0 < ·)).or (otherRatios.lookup key)
  induction entries generalizing otherRatios with
  | nil => simp
  | cons entry rest ih =>
    obtain ⟨absent, others⟩ := nodupKeys_cons.mp distinct
    obtain ⟨name, ratio⟩ := entry
    rw [foldl_cons, ih _ others, lookup_addOtherRatio]
    by_cases same : key = name
    · subst same
      by_cases positive : 0 < ratio <;>
        simp [Option.filter, dlookup_eq_none.mpr absent, positive]
    · simp [same]

/-- What a remix should be priced with: the origin's ratios, overridden by the estimated ones. -/
def mergedRatio (origin : OriginTask) (estimated : Ratios) (key : String) : Option Rat :=
  (admitted estimated key).or ((originRatios origin ∅).lookup key)

/-- The ratios that the loop over `OtherRatios` applies to the quota. -/
def appliedRatio (settings : TaskPriceSettings) (info : PricedRelayInfo) (key : String) : Option Rat :=
  if settings.taskPricePatches.contains info.originModelName then none
  else info.priceData.otherRatios.lookup key

/-- The adaptor estimates whatever the origin has; with a patched price nothing has ratios. -/
def EstimatesOrigin (settings : TaskPriceSettings) (modelName : String) (origin : OriginTask)
    (estimated : Ratios) : Prop :=
  if settings.taskPricePatches.contains modelName then ∀ key, mergedRatio origin estimated key = none
  else ∀ key ∈ originRatios origin ∅, (admitted estimated key).isSome

variable {settings : TaskPriceSettings} {quota : Int}

theorem modelPriceHelperPerCall_ratios {accept : Bool}
    {autoGroup : Option String} {info relayInfo : TaskRelayInfo} {priceData : TaskPriceData}
    (priced : modelPriceHelperPerCall settings accept autoGroup info = (some priceData, relayInfo)) :
    priceData.otherRatios = ∅ := by
  unfold modelPriceHelperPerCall at priced
  dsimp only at priced
  split at priced
  · simp only [Prod.mk.injEq, Option.some.injEq] at priced
    rw [← priced.1]
  · split at priced
    · simp at priced
    · simp only [Prod.mk.injEq, Option.some.injEq] at priced
      rw [← priced.1]

/-- An attempt that is priced has only the ratios its adaptor estimates. -/
theorem relayTaskSubmit_ratios {attempt : TaskAttempt}
    {info : PricedRelayInfo} (priced : (relayTaskSubmit settings attempt info).2 = true) (key : String) :
    (relayTaskSubmit settings attempt info).1.priceData.otherRatios.lookup key =
      admitted attempt.estimatedRatios key := by
  unfold relayTaskSubmit at *
  dsimp only at *
  split at priced
  · exact absurd priced Bool.false_ne_true
  · rename_i found
    simp [lookup_addOtherRatios, modelPriceHelperPerCall_ratios found]

/-- In every attempt after `ResolveOriginTask`. -/
theorem remix_ratios_merged_iff (settings : TaskPriceSettings) (origin : OriginTask)
    (info : PricedRelayInfo) (earlier : List TaskAttempt) (attempt : TaskAttempt) (after : PricedRelayInfo)
    (priced : relayTaskSubmit settings attempt (earlier.foldl
      (fun info attempt => (relayTaskSubmit settings attempt info).1)
      (resolveOriginTask origin info)) = (after, true)) :
    (∀ key, appliedRatio settings after key = mergedRatio origin attempt.estimatedRatios key) ↔
      EstimatesOrigin settings after.originModelName origin attempt.estimatedRatios := by
  have only := relayTaskSubmit_ratios (congrArg Prod.snd priced)
  rw [priced] at only
  unfold EstimatesOrigin
  split_ifs with patched
  · simp only [appliedRatio, if_pos patched]
    exact forall_congr' fun key => eq_comm
  · simp only [appliedRatio, if_neg patched, only, mergedRatio]
    refine forall_congr' fun key => ?_
    cases estimate : admitted attempt.estimatedRatios key with
    | some ratio => simp
    | none => simp [eq_comm (a := none), AList.lookup_eq_none]

def unitPrice : TaskPriceSettings :=
  ⟨⟨fun _ => (0, false), fun _ => 1, fun _ _ => none⟩, fun _ => some 1, fun _ => none, 500000, false, []⟩

def remixInfo : PricedRelayInfo :=
  ⟨⟨1, "default", "default", 1, "sora-2", "task_1", "wallet", 0, 1⟩, ⟨false, 0, 0, false, 0, ∅, ⟨0, 0, false⟩⟩⟩

def eightSeconds : Ratios := AList.singleton "seconds" 8

def attemptWith (estimated : Ratios) : TaskAttempt :=
  ⟨none, "sora_remix", false, estimated, .inserted⟩

/-- Of an origin of eight seconds nothing is left for an adaptor that estimates nothing. -/
theorem remix_ratios_lost :
    let after := (relayTaskSubmit unitPrice (attemptWith ∅)
      (resolveOriginTask (.billed eightSeconds) remixInfo)).1
    mergedRatio (.billed eightSeconds) ∅ "seconds" = some 8 ∧
      appliedRatio unitPrice after "seconds" = none ∧ after.priceData.quota = 500000 := by
  decide +kernel

theorem remix_needs_estimate : ¬ EstimatesOrigin unitPrice "sora-2" (.billed eightSeconds) ∅ := by
  intro estimates
  have merged := (remix_ratios_merged_iff unitPrice (.billed eightSeconds) remixInfo []
    (attemptWith ∅) _ rfl).mpr estimates "seconds"
  exact absurd merged (by decide +kernel)

/-! ## The quota after the ratios -/

/-- What is cut off after each ratio, at the worth the ratios after it give it. -/
def cutOff : List Rat → Int → Rat
  | [], _ => 0
  | ra :: rest, quota =>
    (quota * ra - intPart (quota * ra)) * rest.prod + cutOff rest (intPart (quota * ra))

theorem applyOtherRatios_cons (ra : Rat) (rest : List Rat) (quota : Int) :
    applyOtherRatios (ra :: rest) quota = applyOtherRatios rest (intPart (quota * ra)) := by
  by_cases one : ra = 1
  · subst one
    rw [mul_one, intPart_intCast]
    simp [applyOtherRatios]
  · simp [applyOtherRatios, one]

theorem applyOtherRatios_add_cutOff (order : List Rat) (quota : Int) :
    applyOtherRatios order quota + cutOff order quota = quota * order.prod := by
  induction order generalizing quota with
  | nil => simp [applyOtherRatios, cutOff]
  | cons ra rest ih =>
    have later := ih (intPart (quota * ra))
    rw [applyOtherRatios_cons, cutOff, prod_cons]
    linear_combination later

/-- Below zero everything is mirrored. -/
theorem mirrored (order : List Rat) (quota : Int) : applyOtherRatios order (-quota) = -applyOtherRatios order quota ∧
      cutOff order (-quota) = -cutOff order quota := by
  have result : applyOtherRatios order (-quota) = -applyOtherRatios order quota := by
    induction order generalizing quota with
    | nil => rfl
    | cons ra rest ih =>
      simp only [applyOtherRatios_cons, Int.cast_neg, neg_mul, intPart_neg, ih]
  have total := applyOtherRatios_add_cutOff order (-quota)
  rw [result] at total
  push_cast at total
  exact ⟨result, by linarith [applyOtherRatios_add_cutOff order quota]⟩

variable {order : List Rat}

theorem cutOff_spec (positive : ∀ ra ∈ order, 0 < ra) (nonneg : 0 ≤ quota) :
    0 ≤ applyOtherRatios order quota ∧ 0 ≤ cutOff order quota ∧
      (cutOff order quota = 0 ↔ ∀ n, ∃ whole : Int, (quota : Rat) * (order.take n).prod = whole) := by
  induction order generalizing quota with
  | nil => simp [applyOtherRatios, cutOff, nonneg]
  | cons ra rest ih =>
    obtain ⟨now, later⟩ := forall_mem_cons.mp positive
    have product : 0 < rest.prod := prod_pos later
    have worth : 0 ≤ (quota : Rat) * ra := mul_nonneg (by exact_mod_cast nonneg) now.le
    have cut : 0 ≤ quota * ra - (intPart (quota * ra) : Rat) := sub_nonneg.mpr (intPart_le worth)
    obtain ⟨low, rests, wholes⟩ := ih later (intPart_nonneg worth)
    have scaled := mul_nonneg cut product.le
    have next (n : Nat) : (quota : Rat) * ((ra :: rest).take (n + 1)).prod = quota * ra * (rest.take n).prod := by
      rw [take_succ_cons, prod_cons, mul_assoc]
    refine ⟨applyOtherRatios_cons ra rest quota ▸ low, add_nonneg scaled rests, ?_⟩
    rw [cutOff, add_eq_zero_iff_of_nonneg scaled rests, mul_eq_zero_iff_right product.ne', sub_eq_zero, wholes]
    constructor
    · rintro ⟨whole, wholes⟩ n
      cases n with
      | zero => exact ⟨quota, by simp⟩
      | succ n => exact next n ▸ whole ▸ wholes n
    · intro wholes
      have whole : (quota : Rat) * ra = intPart (quota * ra) := by
        obtain ⟨first, same⟩ := wholes 1
        rw [next, take_zero, prod_nil, mul_one] at same
        rw [same, intPart_intCast]
      exact ⟨whole, fun n => whole ▸ next n ▸ wholes (n + 1)⟩

/-- With less than one cut off, the exact price decides. -/
theorem applyOtherRatios_eq_intPart (positive : ∀ ra ∈ order, 0 < ra) (small : |cutOff order quota| < 1) :
    applyOtherRatios order quota = intPart (quota * order.prod) := by
  wlog nonneg : 0 ≤ quota generalizing quota
  · simpa [mirrored, intPart_neg] using @this (-quota) (by simpa [mirrored] using small) (by omega)
  have total := applyOtherRatios_add_cutOff order quota
  obtain ⟨low, cut, -⟩ := cutOff_spec positive nonneg
  have least : (0 : Rat) ≤ applyOtherRatios order quota := by exact_mod_cast low
  rw [intPart_eq_floor (by linarith), eq_comm, floor_eq_iff]
  have below := (abs_lt.mp small).2
  constructor <;> linarith

theorem applyOtherRatios_le (positive : ∀ ra ∈ order, 0 < ra) (nonneg : 0 ≤ quota) :
    applyOtherRatios order quota ≤ intPart (quota * order.prod) := by
  obtain ⟨low, cut, -⟩ := cutOff_spec positive nonneg
  rw [← applyOtherRatios_add_cutOff, ← intPart_intCast (applyOtherRatios order quota)]
  exact intPart_mono (by exact_mod_cast low) (by simpa [intPart_intCast] using cut)

/-! ### Where one cut is enough -/

/-- At most one ratio changes the quota, or all multiply it by whole numbers, or all divide it by
whole numbers. -/
def CutsOnce (order : List Rat) : Prop :=
  (order.filter (· ≠ 1)).length ≤ 1 ∨ (∀ ra ∈ order, ra.den = 1) ∨ ∀ ra ∈ order, ra.num = 1

instance (order : List Rat) : Decidable (CutsOnce order) := inferInstanceAs (Decidable (_ ∨ _ ∨ _))

theorem CutsOnce.perm {other : List Rat} (same : other.Perm order) (cuts : CutsOnce order) : CutsOnce other := by
  simpa [CutsOnce, (same.filter _).length_eq, same.mem_iff] using cuts

theorem prod_filter_ne_one (order : List Rat) : (order.filter (· ≠ 1)).prod = order.prod := by
  induction order with
  | nil => rfl
  | cons ra rest ih =>
    rw [filter_cons, prod_cons, ← ih]
    by_cases one : ra = 1 <;> simp [one]

theorem applyOtherRatios_filter (order : List Rat) (quota : Int) :
    applyOtherRatios (order.filter (· ≠ 1)) quota = applyOtherRatios order quota := by
  rw [applyOtherRatios, applyOtherRatios, foldl_filter]
  congr 1
  funext quota ra
  by_cases one : ra = 1 <;> simp [one]

theorem prod_num {order : List Rat} (unit : ∀ ra ∈ order, ra.num = 1) : order.prod.num = 1 := by
  induction order with
  | nil => rfl
  | cons ra rest ih =>
    obtain ⟨now, later⟩ := forall_mem_cons.mp unit
    simp [Rat.mul_num, now, ih later]

theorem applyOtherRatios_of_cutsOnce (cuts : CutsOnce order) (quota : Int) :
    applyOtherRatios order quota = intPart (quota * order.prod) := by
  rcases cuts with few | whole | unit
  · rw [← applyOtherRatios_filter, ← prod_filter_ne_one]
    generalize order.filter (· ≠ 1) = kept at few ⊢
    rcases kept with _ | ⟨ra, _ | ⟨_, _⟩⟩
    · simp [applyOtherRatios, intPart_intCast]
    · rw [applyOtherRatios_cons, prod_singleton]
      rfl
    · simp at few
  · induction order generalizing quota with
    | nil => simp [applyOtherRatios, intPart_intCast]
    | cons ra rest ih =>
      obtain ⟨now, later⟩ := forall_mem_cons.mp whole
      have product : (quota : Rat) * ra = (quota * ra.num : Int) := by
        rw [Int.cast_mul, (Rat.den_eq_one_iff ra).mp now]
      rw [applyOtherRatios_cons, ih _ later, product, intPart_intCast, ← product, prod_cons, mul_assoc]
  · induction order generalizing quota with
    | nil => simp [applyOtherRatios, intPart_intCast]
    | cons ra rest ih =>
      obtain ⟨-, later⟩ := forall_mem_cons.mp unit
      rw [applyOtherRatios_cons, ih _ later, intPart_intPart_mul _ (prod_num later), prod_cons, mul_assoc]

section
variable (positive : ∀ ra ∈ order, 0 < ra) (cutOnce : ∀ other, other.Perm order → ∀ quota : Nat,
  applyOtherRatios other quota = intPart (quota * order.prod))
include positive cutOnce

/-- A ratio may come first or last, so it and the rest are as in `of_cut_both`. -/
theorem ratio_cases {ra : Rat} (mem : ra ∈ order) :
    let rest := (order.erase ra).prod
    ra * rest = order.prod ∧ (ra = 1 ∨ rest = 1 ∨ (ra.den = 1 ∧ rest.den = 1) ∨ (ra.num = 1 ∧ rest.num = 1)) := by
  intro rest
  have split := perm_cons_erase mem
  have product : ra * rest = order.prod := by rw [split.prod_eq, prod_cons]
  have others : ∀ r ∈ order.erase ra, 0 < r := fun r there => positive r (mem_of_mem_erase there)
  have now := positive ra mem
  have rest_pos : 0 < rest := prod_pos others
  refine ⟨product, of_cut_both now rest_pos (fun q => ?_) fun q => ?_⟩
  · have low : 0 ≤ (q : Rat) * ra := by positivity
    refine le_antisymm (intPart_mono ?_ ?_) ?_
    · exact mul_nonneg (by exact_mod_cast intPart_nonneg low) rest_pos.le
    · rw [← mul_assoc]
      exact mul_le_mul_of_nonneg_right (intPart_le low) rest_pos.le
    · calc intPart (q * (ra * rest)) = applyOtherRatios (ra :: order.erase ra) q := by
            rw [product, cutOnce _ split.symm]
        _ = applyOtherRatios (order.erase ra) (intPart (q * ra)) := by
            rw [applyOtherRatios_cons, Int.cast_natCast]
        _ ≤ intPart (intPart (q * ra) * rest) := applyOtherRatios_le others (intPart_nonneg low)
  · have low : 0 ≤ (q : Rat) * rest := by positivity
    refine le_antisymm (intPart_mono ?_ ?_) ?_
    · exact mul_nonneg (by exact_mod_cast intPart_nonneg low) now.le
    · rw [mul_comm ra, ← mul_assoc]
      exact mul_le_mul_of_nonneg_right (intPart_le low) now.le
    · have least : applyOtherRatios (order.erase ra) q ≤ intPart (q * rest) := by
        simpa using applyOtherRatios_le others (Int.natCast_nonneg q)
      calc intPart (q * (ra * rest)) = applyOtherRatios (order.erase ra ++ [ra]) q := by
            rw [product, cutOnce _ ((@perm_append_comm _ (order.erase ra) [ra]).trans split.symm)]
        _ = intPart (applyOtherRatios (order.erase ra) q * ra) := by
            rw [applyOtherRatios, foldl_append]
            exact applyOtherRatios_cons ra [] _
        _ ≤ intPart (intPart (q * rest) * ra) := by
            refine intPart_mono (mul_nonneg ?_ now.le) (mul_le_mul_of_nonneg_right ?_ now.le)
            · exact_mod_cast (cutOff_spec others (Int.natCast_nonneg q)).1
            · exact_mod_cast least

/-- If the product is exact in every order, the ratios cut off at one place only. -/
theorem cutsOnce_of_exact : CutsOnce order := by
  have cases {ra : Rat} (mem : ra ∈ order) := ratio_cases positive cutOnce mem
  by_cases whole : order.prod.den = 1
  · refine .inr (.inl fun ra mem => ?_)
    obtain ⟨product, rfl | alone | ⟨whole, -⟩ | ⟨unit, others⟩⟩ := cases mem
    · rfl
    · rwa [← product, alone, mul_one] at whole
    · exact whole
    · rw [← product, Rat.mul_den, unit, others] at whole
      exact Nat.dvd_one.mp ⟨_, by simpa using whole.symm⟩
  by_cases unit : order.prod.num = 1
  · refine .inr (.inr fun ra mem => ?_)
    obtain ⟨product, rfl | alone | ⟨whole, others⟩ | ⟨unit, -⟩⟩ := cases mem
    · rfl
    · rwa [← product, alone, mul_one] at unit
    · rw [← product, Rat.mul_num, whole, others] at unit
      exact Int.eq_one_of_mul_eq_one_right (Rat.num_pos.mpr (positive ra mem)).le (by simpa using unit)
    · exact unit
  · -- every ratio is 1 or the whole product, so a second one would make the product 1
    refine .inl ?_
    have alike : ∀ ra ∈ order.filter (· ≠ 1), ra = order.prod := by
      intro ra kept
      obtain ⟨mem, other⟩ := mem_filter.mp kept
      obtain ⟨product, one | alone | ⟨ra_whole, rest_whole⟩ | ⟨ra_unit, rest_unit⟩⟩ := cases mem
      · simp [one] at other
      · rw [← product, alone, mul_one]
      · exact absurd (by simp [← product, Rat.mul_den, ra_whole, rest_whole]) whole
      · exact absurd (by simp [← product, Rat.mul_num, ra_unit, rest_unit]) unit
    have power := prod_filter_ne_one order
    rw [eq_replicate_of_mem alike, prod_replicate] at power
    have product_pos : 0 < order.prod := prod_pos positive
    by_contra many
    obtain ⟨n, more⟩ : ∃ n, (order.filter (· ≠ 1)).length = n + 2 := ⟨_, (Nat.sub_add_cancel (by omega)).symm⟩
    rw [more, pow_succ, mul_eq_right₀ product_pos.ne', pow_eq_one_iff_of_nonneg product_pos.le (by omega)] at power
    simp [power] at whole

end

/-- `{2, 1/2}`: of one unit nothing is left when it is halved first. -/
def doubledHalved : Ratios := (AList.singleton "seconds" 2).insert "size" (1 / 2)

/-- Dividing by the ratios is applying their inverses. -/
theorem recalcQuotaFromRatios_eq {applied ratios : List Rat} (positive : ∀ ra ∈ applied, 0 < ra) (quota : Int) :
    recalcQuotaFromRatios quota applied ratios =
      intPart (applyOtherRatios (applied.map (·⁻¹)) quota * ratios.prod) := by
  have multiplied (x : Rat) :
      ratios.foldl (fun result ra => if ra ≠ 1 then result * ra else result) x = x * ratios.prod := by
    induction ratios generalizing x with
    | nil => simp
    | cons ra rest ih =>
      rw [foldl_cons, ih, prod_cons]
      by_cases one : ra = 1 <;> simp [one, mul_assoc]
  have divided : applied.foldl (fun quota ra =>
      if ra ≠ 1 ∧ ra > 0 then intPart (quota / ra) else quota) quota =
      applyOtherRatios (applied.map (·⁻¹)) quota := by
    rw [applyOtherRatios, foldl_map]
    refine foldl_ext _ _ _ fun quota ra member => ?_
    simp [positive ra member, div_eq_mul_inv]
  unfold recalcQuotaFromRatios
  dsimp only
  rw [divided, multiplied]

/-- However many of the ratios are divided out, what is left of the quota is whole. -/
def DividesWhole (order : List Rat) (quota : Int) : Prop :=
  ∀ n, ∃ whole : Int, (quota : Rat) / (order.take n).prod = whole

theorem recalc_back_iff (positive : ∀ ra ∈ order, 0 < ra) (quota : Int) :
    intPart (applyOtherRatios (order.map (·⁻¹)) quota * order.prod) = quota ↔ DividesWhole order quota := by
  wlog nonneg : 0 ≤ quota generalizing quota
  · have same : DividesWhole order (-quota) ↔ DividesWhole order quota :=
      forall_congr' fun n => (Equiv.neg Int).exists_congr fun whole => by simp [neg_div, neg_eq_iff_eq_neg]
    simpa [mirrored, intPart_neg, same] using this (-quota) (by omega)
  have product : 0 < order.prod := prod_pos positive
  have inverses : ∀ ra ∈ order.map (·⁻¹), 0 < ra := by
    simp only [forall_mem_map, inv_pos]
    exact positive
  obtain ⟨low, cut, wholes⟩ := cutOff_spec inverses nonneg
  have total := applyOtherRatios_add_cutOff (order.map (·⁻¹)) quota
  rw [← prod_inv] at total
  have back : applyOtherRatios (order.map (·⁻¹)) quota * order.prod =
      quota - cutOff (order.map (·⁻¹)) quota * order.prod := by
    rw [eq_sub_iff_add_eq, ← add_mul, total, inv_mul_cancel_right₀ product.ne']
  have whole : DividesWhole order quota ↔ cutOff (order.map (·⁻¹)) quota = 0 := by
    rw [wholes]
    refine forall_congr' fun n => ?_
    rw [← map_take, ← prod_inv, div_eq_mul_inv]
  rw [whole]
  constructor
  · intro same
    have least := intPart_le (mul_nonneg (Int.cast_nonneg low) product.le)
    rw [same, back, le_sub_self_iff] at least
    exact le_antisymm (nonpos_of_mul_nonpos_left least product) cut
  · intro none
    rw [back, none, zero_mul, sub_zero, intPart_intCast]

/-- `applied`, `divided` and `multiplied` are the orders of the three loops; the first may be any. -/
theorem unchanged_ratios_keep_quota_iff (base : Int) (ratios : Ratios)
    (positive : ∀ ra ∈ ratios.values, 0 < ra) (applied divided multiplied : List Rat)
    (second : divided.Perm ratios.values) (third : multiplied.Perm ratios.values) :
    recalcQuotaFromRatios (applyOtherRatios applied base) divided multiplied = applyOtherRatios applied base ↔
      DividesWhole divided (applyOtherRatios applied base) := by
  have each : ∀ ra ∈ divided, 0 < ra := fun ra member => positive ra (second.mem_iff.mp member)
  rw [recalcQuotaFromRatios_eq each, (third.trans second.symm).prod_eq]
  exact recalc_back_iff each _

def half : Ratios := AList.singleton "size" (3 / 2)

/-- One unit, raised by one half, is one; divided by as much it is nothing. -/
theorem unchanged_ratios_lose_quota : [3 / 2].Perm half.values ∧ applyOtherRatios [3 / 2] 1 = 1 ∧
      recalcQuotaFromRatios 1 [3 / 2] [3 / 2] = 0 := by
  decide +kernel

theorem half_not_whole : ¬ DividesWhole [3 / 2] (applyOtherRatios [3 / 2] 1) := fun whole =>
  absurd ((unchanged_ratios_keep_quota_iff 1 half (by decide +kernel) [3 / 2] [3 / 2] [3 / 2]
    (.refl _) (.refl _)).mpr whole) (by decide +kernel)

end NewApi.Tasks.SubmitRatios
