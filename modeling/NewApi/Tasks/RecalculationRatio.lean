/-
# Tasks.RecalculationRatio — the group ratio of a task that is billed again

A submission is priced with the special ratio of the user's group for the group in use, or else with
the ratio of the group in use.  The task keeps the group in use only, and
`RecalculateTaskQuotaByTokens` looks for a special ratio of that group for itself.
-/
import NewApi.Model.TaskPricing
import NewApi.Model.Lookup

namespace NewApi.Tasks
open Theory Model

section
variable (ratios : TaskRatios)

/-- The ratio of a user's group for the group in use. -/
def ratioFor (userGroup usingGroup : String) : Rat :=
  (ratios.groupGroupRatio userGroup usingGroup).getD (ratios.groupRatio usingGroup)

theorem handleGroupRatio_ratio (autoGroup : Option String) (info : TaskRelayInfo) :
    (handleGroupRatio ratios autoGroup info).1.groupRatio =
      ratioFor ratios info.userGroup (handleGroupRatio ratios autoGroup info).2.usingGroup := by
  unfold handleGroupRatio ratioFor
  cases special : ratios.groupGroupRatio info.userGroup (autoGroup.getD info.usingGroup) with
  | none | some ratio => simp [special]

theorem handleGroupRatio_userGroup (autoGroup : Option String) (info : TaskRelayInfo) :
    (handleGroupRatio ratios autoGroup info).2.userGroup = info.userGroup := by
  simp only [handleGroupRatio]
  split <;> rfl

theorem failedAttempts_userGroup (earlier : List (Option String)) (info : TaskRelayInfo) :
    (failedAttempts ratios earlier info).userGroup = info.userGroup := by
  induction earlier generalizing info with
  | nil => rfl
  | cons autoGroup earlier ih =>
    have step := ih (handleGroupRatio ratios autoGroup info).2
    rw [handleGroupRatio_userGroup] at step
    exact step

/-- The accepted attempt is priced for the user's group in the group the task stores. -/
theorem pricedAttempt_ratio (earlier : List (Option String)) (last : Option String)
    (info : TaskRelayInfo) (result : TaskSubmitResult) : (pricedAttempt ratios earlier last info).1.groupRatio =
      ratioFor ratios info.userGroup (initTask (pricedAttempt ratios earlier last info).2 result).group := by
  unfold pricedAttempt
  rw [handleGroupRatio_ratio, failedAttempts_userGroup]
  rfl

end

/-! ## The recalculation -/

section
variable (cfg : TaskConfig) (task : Task) (totalTokens : Int) (s : TaskStore)

/-- The group a task is billed in: its own, or else that of its user. -/
def billedGroup : String :=
  if task.group ≠ "" then task.group
  else if task.userId = 0 then ""
  else ((s.accounts.users task.userId).map (·.group)).getD ""

/-- Whether the tokens of a task are billed at all. -/
def BilledByTokens : Prop :=
  0 < totalTokens ∧ (cfg.ratios.modelRatio (taskModelName task)).2 = true ∧
    0 < (cfg.ratios.modelRatio (taskModelName task)).1 ∧ billedGroup task s ≠ ""

instance : Decidable (BilledByTokens cfg task totalTokens s) := inferInstanceAs (Decidable (_ ∧ _ ∧ _ ∧ _))

/-- The group ratio `RecalculateTaskQuotaByTokens` applies, if any. -/
def appliedRatio : Option Rat :=
  if BilledByTokens cfg task totalTokens s then
    some (ratioFor cfg.ratios (billedGroup task s) (billedGroup task s))
  else none

def billTokensAt : Option Rat → Program TaskStore Task
  | none => .done task
  | some groupRatio =>
    let other := (task.privateData.billingContext.map (otherMultiplier ·.otherRatios)).getD 1
    recalculateTaskQuota cfg task (Decimal.intPart
      (totalTokens * (cfg.ratios.modelRatio (taskModelName task)).1 * groupRatio * other))

theorem getUserGroup_exec (id : Int) (accounts : Store) : (getUserGroup id).exec accounts [] =
      (if id = 0 then .error "id 为空！"
        else ((accounts.users id).map (·.group)).elim (.error errRecordNotFound) .ok, accounts) := by
  unfold getUserGroup
  by_cases anonymous : id = 0
  · rw [if_pos anonymous, if_pos anonymous]
    rfl
  · rw [if_neg anonymous, if_neg anonymous]
    unfold Sql.exec
    cases known : (accounts.users id).map (·.group) with
    | none => rw [first_missing known]; rfl
    | some group => rw [first_found known]; rfl

theorem taskGroup_solo : (taskGroup task).solo s = (billedGroup task s, s) := by
  unfold taskGroup billedGroup
  by_cases own : task.group = ""
  · rw [if_neg (not_not.mpr own), if_neg (not_not.mpr own)]
    simp only [Program.solo_bind, Program.store, Program.solo, onAccounts, Sql.exec_zoom, getUserGroup_exec]
    by_cases anonymous : task.userId = 0
    · rw [if_pos anonymous, if_pos anonymous]
      rfl
    · rw [if_neg anonymous, if_neg anonymous]
      cases (s.accounts.users task.userId).map (·.group) <;> rfl
  · rw [if_pos own, if_pos own]
    rfl

/-- `appliedRatio` is the ratio the code bills with. -/
theorem recalculate_solo : (recalculateTaskQuotaByTokens cfg task totalTokens).solo s =
      (billTokensAt cfg task totalTokens (appliedRatio cfg task totalTokens s)).solo s := by
  unfold recalculateTaskQuotaByTokens appliedRatio
  by_cases spent : totalTokens ≤ 0
  · rw [if_pos spent, if_neg fun billed : BilledByTokens cfg task totalTokens s =>
      absurd billed.1 (not_lt.mpr spent)]
    rfl
  rw [if_neg spent]
  by_cases free : !(cfg.ratios.modelRatio (taskModelName task)).2 ∨
      (cfg.ratios.modelRatio (taskModelName task)).1 ≤ 0
  · have unbilled : ¬((cfg.ratios.modelRatio (taskModelName task)).2 = true ∧
        0 < (cfg.ratios.modelRatio (taskModelName task)).1) := by
      rintro ⟨set, positive⟩
      rcases free with unset | low
      · simp [set] at unset
      · exact absurd positive (not_lt.mpr low)
    simp only
    rw [if_pos free, if_neg fun billed : BilledByTokens cfg task totalTokens s =>
      unbilled ⟨billed.2.1, billed.2.2.1⟩]
    rfl
  · simp only
    rw [if_neg free, Program.solo_bind, taskGroup_solo]
    push Not at free
    by_cases nowhere : billedGroup task s = ""
    · rw [if_pos nowhere, if_neg fun billed : BilledByTokens cfg task totalTokens s =>
        billed.2.2.2 nowhere]
      rfl
    · have billed : BilledByTokens cfg task totalTokens s :=
        ⟨not_le.mp spent, by simpa using free.1, free.2, nowhere⟩
      rw [if_neg nowhere, if_pos billed]
      rfl

end

/-! ## When the ratios are the same -/

/-- What is asked of the groups and the settings: the user is in the group in use and the task
billed in it; or no special ratio makes a difference. -/
def RatiosAgree (ratios : TaskRatios) (userGroup usingGroup billed : String) : Prop :=
  (userGroup = billed ∧ usingGroup = billed) ∨
    match ratios.groupGroupRatio userGroup usingGroup, ratios.groupGroupRatio billed billed with
    | none, none => ratios.groupRatio billed = ratios.groupRatio usingGroup
    | some special, none => ratios.groupRatio billed = special
    | none, some own => own = ratios.groupRatio usingGroup
    | some special, some own => own = special

theorem ratioFor_eq_iff (ratios : TaskRatios) (userGroup usingGroup billed : String) :
    ratioFor ratios billed billed = ratioFor ratios userGroup usingGroup ↔
      RatiosAgree ratios userGroup usingGroup billed := by
  unfold RatiosAgree
  by_cases same : userGroup = billed ∧ usingGroup = billed
  · obtain ⟨rfl, rfl⟩ := same
    simp
  · simp only [same]
    unfold ratioFor
    cases ratios.groupGroupRatio userGroup usingGroup with
    | none | some special => cases ratios.groupGroupRatio billed billed <;> simp

/-- **When a task is billed again with the ratio of its submission.**  `appliedRatio` is what the
code bills with, whatever the ratio; and it is the ratio of the submission exactly if nothing is
billed or the settings make no difference. -/
theorem recalculation_ratio_iff (cfg : TaskConfig) (info : TaskRelayInfo)
    (earlier : List (Option String)) (last : Option String) (result : TaskSubmitResult)
    (totalTokens : Int) (s : TaskStore) : ∃ submitted task, pricedAttempt cfg.ratios earlier last info = submitted ∧
      initTask submitted.2 result = task ∧ (recalculateTaskQuotaByTokens cfg task totalTokens).solo s =
        (billTokensAt cfg task totalTokens (appliedRatio cfg task totalTokens s)).solo s ∧
      ((∀ ratio, appliedRatio cfg task totalTokens s = some ratio → ratio = submitted.1.groupRatio) ↔
        (BilledByTokens cfg task totalTokens s →
          RatiosAgree cfg.ratios info.userGroup task.group (billedGroup task s))) := by
  refine ⟨_, _, rfl, rfl, recalculate_solo _ _ _ _, ?_⟩
  rw [pricedAttempt_ratio cfg.ratios earlier last info result, ← ratioFor_eq_iff]
  unfold appliedRatio
  by_cases billed : BilledByTokens cfg (initTask (pricedAttempt cfg.ratios earlier last info).2 result)
      totalTokens s
  · simp [billed]
  · simp [billed]

def vipRatios : TaskRatios :=
  { modelRatio := fun _ => (1, true)
    groupRatio := fun _ => 1
    groupGroupRatio := fun userGroup usingGroup =>
      if userGroup = "vip" ∧ usingGroup = "default" then some (1 / 2) else none }

def vipConfig : TaskConfig := { taskConfig with ratios := vipRatios }

def vipInfo : TaskRelayInfo :=
  { userId := 7, userGroup := "vip", usingGroup := "default", channelId := 1
    originModelName := "video", publicTaskID := "task_1", billingSource := "wallet"
    subscriptionId := 0, tokenId := 1 }

def vipResult : TaskSubmitResult :=
  { platform := .video "1", upstreamTaskID := "u1", taskData := [], quota := 50, otherRatios := []
    perCallBilling := false, now := 10 }

/-- A task submitted at half price is billed again at the full one. -/
theorem special_ratio_forgotten : (pricedAttempt vipRatios [] none vipInfo).1.groupRatio = 1 / 2 ∧
      appliedRatio vipConfig (initTask (pricedAttempt vipRatios [] none vipInfo).2 vipResult) 100
        ⟨Store.empty, [], fun _ => none, fun _ => none, []⟩ = some 1 := by
  refine ⟨by decide +kernel, by decide +kernel⟩

end NewApi.Tasks
