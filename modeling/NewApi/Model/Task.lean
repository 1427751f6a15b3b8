/-
# Model.Task — asynchronous tasks: their rows, their statements, their billing

`model/task.go`, `service/task_billing.go` and `settleTaskBillingOnComplete` of
`service/task_polling.go`.  When a task ends, its quota is given back (`refundTaskQuota`) or brought
to what it really cost.

`action`, the channel key and the rest of `properties` only go into requests and logs; usage
statistics and log rows are left out.  Ratios are exact rationals.  `history` is a history variable:
the saves of rows, whether they succeed or not, every change of a funding source or a token made for
a task, and every entry into `settleTaskBillingOnComplete`.
-/
import NewApi.Theory.Rows
import NewApi.Theory.Decimal
import NewApi.Model.Wallet
import NewApi.Model.SubscriptionQuota

namespace NewApi.Model
open Theory Sql

/-! ## Rows -/

/-- `TaskStatus*`; `other` is any text that is none of them, the empty one included. -/
inductive TaskStatus where
  | notStart | submitted | queued | inProgress | failure | success | unknown
  | other (text : String)
deriving DecidableEq

namespace TaskStatus

def empty : TaskStatus := .other ""

/-- The task has ended. -/
def terminal : TaskStatus → Bool
  | .failure => true
  | .success => true
  | _ => false

@[simp] theorem terminal_failure : terminal .failure = true := rfl

@[simp] theorem terminal_success : terminal .success = true := rfl

theorem terminal_iff {status : TaskStatus} : status.terminal = true ↔ status = .failure ∨ status = .success := by
  cases status <;> simp [terminal]

end TaskStatus

/-- `constant.TaskPlatform`; the video platforms are named by their channel type. -/
inductive TaskPlatform where
  | suno | midjourney
  | video (name : String)
deriving DecidableEq

abbrev RawMessage := List UInt8

structure TaskBillingContext where
  otherRatios : List Rat
  originModelName : String
  perCallBilling : Bool
deriving DecidableEq

structure TaskPrivateData where
  upstreamTaskID : String
  resultURL : String
  billingSource : String
  subscriptionId : Int
  tokenId : Int
  billingContext : Option TaskBillingContext
deriving DecidableEq

structure Task where
  id : Int
  taskID : String
  platform : TaskPlatform
  userId : Int
  group : String
  channelId : Int
  quota : Int
  status : TaskStatus
  failReason : String
  submitTime : Int
  startTime : Int
  finishTime : Int
  progress : String
  /-- `properties.origin_model_name` -/
  originModelName : String
  privateData : TaskPrivateData
  data : RawMessage
deriving DecidableEq

/-- `taskcommon.Progress*`. -/
def progressSubmitted : String := "10%"
def progressQueued : String := "20%"
def progressInProgress : String := "30%"
def progressComplete : String := "100%"

namespace Task

def getUpstreamTaskID (t : Task) : String :=
  if t.privateData.upstreamTaskID ≠ "" then t.privateData.upstreamTaskID else t.taskID

/-- What both selections of unfinished tasks ask for. -/
def unfinished (t : Task) : Bool := t.progress ≠ progressComplete && !t.status.terminal

theorem not_terminal_of_unfinished {t : Task} (open_ : t.unfinished = true) : t.status.terminal = false := by
  simp only [unfinished, Bool.and_eq_true, Bool.not_eq_true'] at open_
  exact open_.2

end Task

structure TaskSnapshot where
  status : TaskStatus
  progress : String
  startTime : Int
  finishTime : Int
  failReason : String
  resultURL : String
  data : RawMessage
deriving DecidableEq

def Task.snapshot (t : Task) : TaskSnapshot :=
  ⟨t.status, t.progress, t.startTime, t.finishTime, t.failReason, t.privateData.resultURL, t.data⟩

/-! ## The store -/

/-- Why the account of a task is changed. -/
inductive TaskBilling where
  | settle | refund
deriving DecidableEq

inductive TaskEvent where
  /-- `Update` has written the row. -/
  | saved (id : Int)
  /-- `Update` has failed. -/
  | unsaved (id : Int)
  /-- `settleTaskBillingOnComplete` was called. -/
  | settling (id : Int)
  /-- The funding source was changed; a positive `delta` is a charge. -/
  | adjusted (id : Int) (why : TaskBilling) (delta : Int)
  /-- The token was changed. -/
  | token (id : Int) (why : TaskBilling) (delta : Int)
deriving DecidableEq

/-! ## Channels and accounts -/

inductive ChannelStatus where
  | unknown | enabled | manuallyDisabled | autoDisabled
deriving DecidableEq

structure Channel where
  id : Int
  /-- a pointer in the source -/
  baseURL : Option String
  status : ChannelStatus
  /-- a pointer in the source -/
  autoBan : Option Int
deriving DecidableEq

/-- A store with the accounts and the channels in it. -/
class Site (S : Type) where
  accounts : S → Store
  withAccounts : Store → S → S
  channels : S → Int → Option Channel
  /-- `channelsIDM`, the channels in memory -/
  channelsIDM : S → Int → Option Channel

section
variable {S α : Type} [Site S]

def onAccounts (x : Db α) : Sql S α := zoom Site.accounts Site.withAccounts x

/-- A change of the accounts, recorded when it succeeds. -/
def recorded (x : Db Unit) (log : S → S) : Sql S Unit := do
  onAccounts x
  memory log

def getChannelById (id : Int) : Sql S Channel :=
  read fun s =>
    match Site.channels s id with
    | some channel => .ok channel
    | none => .error errRecordNotFound

def cacheGetChannel (memoryCacheEnabled : Bool) (id : Int) : Sql S Channel :=
  if memoryCacheEnabled then do
    match ← peek (Site.channelsIDM · id) with
    | some channel => pure channel
    | none => throw ("渠道# " ++ toString id ++ "，已不存在")
  else getChannelById id

/-- A recorded change fails and nothing is recorded, or it is. -/
theorem exec_recorded (x : Db Unit) (log : S → S) (s : S) (faults : Faults) :
    (∃ e, (x.exec (Site.accounts s) faults).1 = .error e ∧ (recorded x log).exec s faults =
          (.error e, Site.withAccounts (x.exec (Site.accounts s) faults).2 s)) ∨
      ((x.exec (Site.accounts s) faults).1 = .ok () ∧ (recorded x log).exec s faults =
          (.ok (), log (Site.withAccounts (x.exec (Site.accounts s) faults).2 s))) := by
  simp only [recorded, exec, bind_apply, onAccounts, zoom]
  rcases (x ⟨Site.accounts s, id, faults⟩).1 with e | a
  · exact .inl ⟨e, rfl, rfl⟩
  · exact .inr ⟨rfl, rfl⟩

theorem exec_cacheGetChannel (enabled : Bool) (id : Int) (s : S) (faults : Faults) :
    ((cacheGetChannel enabled id).exec s faults).2 = s := by
  unfold cacheGetChannel
  split
  · simp only [exec, bind_apply, peek_apply, view_fresh]
    cases Site.channelsIDM s id <;> rfl
  · exact exec_read_snd _ s faults

end

/-! ## The store -/

structure TaskStore where
  accounts : Store
  tasks : List Task
  channels : Int → Option Channel
  channelsIDM : Int → Option Channel
  history : List TaskEvent

namespace TaskStore

instance : Site TaskStore := ⟨accounts, fun accounts s => { s with accounts }, channels, channelsIDM⟩

variable (s : TaskStore)

def task (id : Int) : Option Task := Rows.find Task.id id s.tasks

/-- `UPDATE tasks SET … WHERE id = …` of a whole row. -/
def putTask (t : Task) : TaskStore := { s with tasks := Rows.put Task.id t s.tasks }

/-- `Save`: the row with this id, or a new one. -/
def saveTask (t : Task) : TaskStore :=
  if (s.task t.id).isSome then s.putTask t else { s with tasks := s.tasks ++ [t] }

def log (event : TaskEvent) : TaskStore := { s with history := s.history ++ [event] }

@[simp] theorem putTask_history (t : Task) : (s.putTask t).history = s.history := rfl

theorem task_putTask {s : TaskStore} {t row : Task} (found : s.task t.id = some row) (id : Int) :
    (s.putTask t).task id = if id = t.id then some t else s.task id :=
  Rows.find_put_of_found found id

end TaskStore

abbrev TaskDb := Sql TaskStore

/-! ## Statements -/

/-- `Order("submit_time")`; equal times come as the table has them. -/
def submitsBefore (a b : Task) : Prop := a.submitTime ≤ b.submitTime
deriving Decidable

/-- `Order("id")`. -/
def idsBefore (a b : Task) : Prop := a.id ≤ b.id
deriving Decidable

namespace TaskStore

/-- The rows `GetTimedOutUnfinishedTasks` picks. -/
def timedOut (s : TaskStore) (cutoffUnix : Int) (limit : Nat) : List Task :=
  ((s.tasks.filter fun t => t.unfinished && decide (t.submitTime < cutoffUnix)).insertionSort submitsBefore).take limit

/-- The rows `GetAllUnFinishSyncTasks` picks. -/
def unFinish (s : TaskStore) (limit : Nat) : List Task :=
  ((s.tasks.filter Task.unfinished).insertionSort idsBefore).take limit

end TaskStore

/-- An error is answered by no rows at all, which is left to the caller here. -/
def getTimedOutUnfinishedTasks (cutoffUnix : Int) (limit : Nat) : TaskDb (List Task) :=
  read fun s => .ok (s.timedOut cutoffUnix limit)

def getAllUnFinishSyncTasks (limit : Nat) : TaskDb (List Task) := read fun s => .ok (s.unFinish limit)

namespace Task

def update (t : Task) : TaskDb Unit := do
  match ← attempt (autocommit (·.saveTask t)) with
  | .ok () => memory (·.log (.saved t.id))
  | .error e => do
      memory (·.log (.unsaved t.id))
      throw e

/-- What `UpdateWithStatus` does to the table, and whether it did anything. -/
def swap (t : Task) (fromStatus : TaskStatus) (s : TaskStore) : Bool × TaskStore :=
  match s.task t.id with
  | some row => if row.status = fromStatus then (true, s.putTask t) else (false, s)
  | none => (false, s)

/-- `UpdateWithStatus`: the row is written if it still has the status `fromStatus`. -/
def updateWithStatus (t : Task) (fromStatus : TaskStatus) : TaskDb Bool := affect (t.swap fromStatus)

def bulkFailed (failReason : Option String) (t : Task) : Task :=
  { t with
    failReason := failReason.getD t.failReason
    status := .failure
    progress := progressComplete }

end Task

def taskBulkUpdateByID (ids : List Int) (params : Task → Task) : TaskDb Unit :=
  if ids = [] then pure ()
  else autocommit fun s =>
    { s with tasks := s.tasks.map fun t => if t.id ∈ ids then params t else t }

/-! ## Billing -/

/-- `ratio_setting`, as far as tasks read it. -/
structure TaskRatios where
  /-- `GetModelRatio` with its flag -/
  modelRatio : String → Rat × Bool
  groupRatio : String → Rat
  groupGroupRatio : String → String → Option Rat

/-- `relaycommon.TaskInfo`, as far as the pollers read it. -/
structure TaskInfo where
  status : TaskStatus
  reason : String
  url : String
  progress : String
  totalTokens : Int
deriving DecidableEq

/-- What a platform's adaptor decides: the quota of a task that has ended. -/
structure TaskAdaptor where
  adjustBillingOnComplete : Task → TaskInfo → Int

structure TaskConfig where
  accounts : Config
  taskTimeoutMinutes : Int
  taskQueryLimit : Nat
  memoryCacheEnabled : Bool
  serverAddress : String
  /-- `common.Marshal` of raw JSON -/
  marshal : RawMessage → RawMessage
  /-- `GetTaskAdaptorFunc` -/
  getTaskAdaptor : TaskPlatform → Option TaskAdaptor
  ratios : TaskRatios

/-- No adaptors, and every ratio 1. -/
def taskConfig : TaskConfig where
  accounts := plainConfig
  taskTimeoutMinutes := 30
  taskQueryLimit := 1000
  memoryCacheEnabled := false
  serverAddress := ""
  marshal := id
  getTaskAdaptor _ := none
  ratios := ⟨fun _ => (1, true), fun _ => 1, fun _ _ => none⟩

variable (cfg : TaskConfig)

def getTokenById (id : Int) : Db Token :=
  if id = 0 then throw "id 为空！"
  else first (fun s => s.tokens.find? (·.id = id)) errRecordNotFound

def getUserGroup (id : Int) : Db String :=
  if id = 0 then throw "id 为空！"
  else first (fun s => (s.users id).map (·.group)) errRecordNotFound

variable (task : Task)

def taskIsSubscription : Bool :=
  task.privateData.billingSource = "subscription" && decide (task.privateData.subscriptionId > 0)

def fundingChange (delta : Int) : Db Unit :=
  if taskIsSubscription task then
    postConsumeUserSubscriptionDelta (.posted task.privateData.subscriptionId delta)
      task.privateData.subscriptionId delta
  else if delta > 0 then decreaseUserQuota cfg.accounts task.userId delta false
  else increaseUserQuota cfg.accounts task.userId (-delta) false

/-- `taskAdjustFunding`; `why` is for the history variable. -/
def taskAdjustFunding (why : TaskBilling) (delta : Int) : TaskDb Unit :=
  recorded (fundingChange cfg task delta) (·.log (.adjusted task.id why delta))

def tokenChange (delta : Int) : Db Unit :=
  if delta > 0 then decreaseTokenQuota cfg.accounts task.privateData.tokenId delta
  else increaseTokenQuota cfg.accounts task.privateData.tokenId (-delta)

/-- `resolveTokenKey`: an error is the empty key. -/
def resolveTokenKey (tokenId : Int) : Program TaskStore String := do
  match ← Program.store (onAccounts (getTokenById tokenId)) with
  | .ok token => .done token.key
  | .error _ => .done ""

def taskAdjustTokenQuota (why : TaskBilling) (delta : Int) : Program TaskStore Unit :=
  if task.privateData.tokenId ≤ 0 ∨ delta = 0 then .done ()
  else do
    let tokenKey ← resolveTokenKey task.privateData.tokenId
    if tokenKey = "" then .done ()
    else do
      -- an error is only logged
      let _ ← Program.store (recorded (tokenChange cfg task delta) (·.log (.token task.id why delta)))
      .done ()

def refundTaskQuota : Program TaskStore Unit :=
  if task.quota = 0 then .done ()
  else do
    match ← Program.store (taskAdjustFunding cfg task .refund (-task.quota)) with
    | .error _ => .done ()
    | .ok () => taskAdjustTokenQuota cfg task .refund (-task.quota)

/-- `RecalculateTaskQuota`; the result is the task with the quota it has then. -/
def recalculateTaskQuota (task : Task) (actualQuota : Int) : Program TaskStore Task :=
  if actualQuota ≤ 0 then .done task
  else
    let quotaDelta := actualQuota - task.quota
    if quotaDelta = 0 then .done task
    else do
      match ← Program.store (taskAdjustFunding cfg task .settle quotaDelta) with
      | .error _ => .done task
      | .ok () => do
          taskAdjustTokenQuota cfg task .settle quotaDelta
          .done { task with quota := actualQuota }

def taskModelName (task : Task) : String :=
  match task.privateData.billingContext with
  | some bc => if bc.originModelName ≠ "" then bc.originModelName else task.originModelName
  | none => task.originModelName

/-- The product of the ratios that count. -/
def otherMultiplier (ratios : List Rat) : Rat :=
  ratios.foldl (fun product r => if r ≠ 1 ∧ r > 0 then product * r else product) 1

def taskGroup (task : Task) : Program TaskStore String :=
  if task.group ≠ "" then .done task.group
  else do
    match ← Program.store (onAccounts (getUserGroup task.userId)) with
    | .ok group => .done group
    | .error _ => .done ""

def recalculateTaskQuotaByTokens (task : Task) (totalTokens : Int) : Program TaskStore Task :=
  if totalTokens ≤ 0 then .done task
  else
    let (modelRatio, hasRatioSetting) := cfg.ratios.modelRatio (taskModelName task)
    if !hasRatioSetting ∨ modelRatio ≤ 0 then .done task
    else do
      let group ← taskGroup task
      if group = "" then .done task
      else
        let finalGroupRatio := (cfg.ratios.groupGroupRatio group group).getD (cfg.ratios.groupRatio group)
        let other := (task.privateData.billingContext.map (otherMultiplier ·.otherRatios)).getD 1
        recalculateTaskQuota cfg task
          (Decimal.intPart (totalTokens * modelRatio * finalGroupRatio * other))

/-- `settleTaskBillingOnComplete`.  The first call is of the history variable, not of the
source. -/
def settleTaskBillingOnComplete (adaptor : TaskAdaptor) (task : Task) (taskResult : TaskInfo) :
    Program TaskStore Task := do
  let _ ← Program.store (memory fun s : TaskStore => s.log (.settling task.id))
  if (task.privateData.billingContext.map (·.perCallBilling)).getD false then .done task
  else
    let actualQuota := adaptor.adjustBillingOnComplete task taskResult
    if actualQuota > 0 then recalculateTaskQuota cfg task actualQuota
    else if taskResult.totalTokens > 0 then
      recalculateTaskQuotaByTokens cfg task taskResult.totalTokens
    else .done task

end NewApi.Model
