/-
# Model.Wallet — user and token quota

`model/user.go`, `model/token.go` and the batch updater of `model/utils.go`: reading a quota goes
through the cache, changing one to the database or, in batch mode, to a delta in memory.  A single
`UPDATE` on a row that does not exist changes nothing and is no error.
-/
import NewApi.Model.Store

namespace NewApi.Model
open Theory Sql

def errNegativeQuota : String := "quota 不能为负数！"

/-- `GetUserQuota`: a missing row reads as zero. -/
def getUserQuota (id : Int) (fromDB : Bool) : Db Int := do
  let fromRow : Db Int := read fun s => .ok (((s.users id).map (·.quota)).getD 0)
  if fromDB then fromRow
  else
    match ← peek (·.caches.userQuota id) with
    | some quota => pure quota
    | none => fromRow

def getTokenByKey (key : String) (fromDB : Bool) : Db Token := do
  let fromRow : Db Token := first (fun s => s.tokens.find? (·.key = key)) errRecordNotFound
  if fromDB then fromRow
  else
    match ← peek (·.caches.token key) with
    | some token => pure token
    | none => fromRow

namespace Store

variable (s : Store)

def addUserRecord (id value : Int) : Store :=
  { s with batchUserQuota := Function.update s.batchUserQuota id (s.batchUserQuota id + value) }

def addTokenRecord (id value : Int) : Store :=
  { s with batchTokenQuota := Function.update s.batchTokenQuota id (s.batchTokenQuota id + value) }

def addUserQuota (id value : Int) : Store := s.setUser id fun u => { u with quota := u.quota + value }

def addTokenQuota (id value : Int) : Store :=
  s.setToken id fun t => { t with remainQuota := t.remainQuota + value, usedQuota := t.usedQuota - value }

end Store

/-- The quota of a user, as the row has it. -/
def walletOf (s : Store) (userId : Int) : Option Int := (s.users userId).map (·.quota)

theorem walletOf_addUserQuota (s : Store) (userId amount id : Int) : walletOf (s.addUserQuota userId amount) id =
      (walletOf s id).map (· + if id = userId then amount else 0) := by
  unfold walletOf Store.addUserQuota Store.setUser
  by_cases same : id = userId
  · subst same
    cases s.users id <;> simp
  · cases here : s.users id <;> simp [same, here]

variable (cfg : Config)

/-- The change both directions of a user's quota share. -/
def changeUserQuota (id value : Int) (db : Bool) : Db Unit :=
  if !db && cfg.batchUpdateEnabled then memory (·.addUserRecord id value)
  else autocommit (·.addUserQuota id value)

def increaseUserQuota (id quota : Int) (db : Bool) : Db Unit :=
  if quota < 0 then throw errNegativeQuota else changeUserQuota cfg id quota db

def decreaseUserQuota (id quota : Int) (db : Bool) : Db Unit :=
  if quota < 0 then throw errNegativeQuota else changeUserQuota cfg id (-quota) db

def changeTokenQuota (id value : Int) : Db Unit :=
  if cfg.batchUpdateEnabled then memory (·.addTokenRecord id value)
  else autocommit (·.addTokenQuota id value)

def increaseTokenQuota (id quota : Int) : Db Unit :=
  if quota < 0 then throw errNegativeQuota else changeTokenQuota cfg id quota

def decreaseTokenQuota (id quota : Int) : Db Unit :=
  if quota < 0 then throw errNegativeQuota else changeTokenQuota cfg id (-quota)

def getTrustQuota : Int := (10 * cfg.quotaPerUnit).num.tdiv (10 * cfg.quotaPerUnit).den

end NewApi.Model
