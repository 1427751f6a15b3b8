/-
# Model.Checkin — the daily check-in

`UserCheckin` of `model/checkin.go`: a transaction (MySQL, PostgreSQL), or an insert, a credit and a
compensating delete (SQLite).  The table enforces its unique index on user and date.  The clock is
part of the store, and the date is taken from it twice, as the code does.  The cache increment in the
background is left out.  `history` is a history variable.
-/
import NewApi.Model.Wallet

namespace NewApi.Model
open Theory Sql

structure Checkin where
  id : Int
  userId : Int
  checkinDate : String
  quotaAwarded : Int
  createdAt : Int
deriving DecidableEq

structure CheckinSetting where
  enabled : Bool
  minQuota : Int
  maxQuota : Int

inductive CheckinEvent where
  | created (row : Checkin)
  | awarded (row : Checkin)
  | credited (userId amount : Int)
  | deleted (id : Int)
deriving DecidableEq

structure CheckinStore where
  accounts : Store
  checkins : List Checkin
  nextId : Int
  clock : Int
  history : List CheckinEvent

namespace CheckinStore

variable (s : CheckinStore)

def log (event : CheckinEvent) : CheckinStore := { s with history := s.history ++ [event] }

def taken (userId : Int) (date : String) : Bool :=
  s.checkins.any fun row => row.userId = userId ∧ row.checkinDate = date

def addRow (row : Checkin) : CheckinStore :=
  { s with checkins := s.checkins ++ [row], nextId := s.nextId + 1 }

def deleteRow (id : Int) : CheckinStore := { s with checkins := s.checkins.filter (·.id ≠ id) }

def addQuota (userId amount : Int) : CheckinStore :=
  { s with accounts := s.accounts.addUserQuota userId amount }

end CheckinStore

/-- `rand.Intn`, of what the generator holds. -/
def intn (seed : Nat) (n : Int) : Int := seed % n

/-- The error of a duplicate in the unique index. -/
def errDuplicated : String := "UNIQUE constraint failed: checkins.user_id, checkins.checkin_date"

namespace Checkin

variable (checkin : Checkin)

/-- The insert of a row: the database gives the id and refuses a second row of the day. -/
def insertRow (event : Checkin → CheckinEvent) : Sql CheckinStore Checkin := do
  let id ← peek (·.nextId)
  let row := { checkin with id }
  insert (fun s => if s.taken row.userId row.checkinDate then some errDuplicated else none)
    fun s => (s.addRow row).log (event row)
  pure row

/-- `DB.Create(checkin)`, in the transaction that gorm opens for it. -/
def create : Sql CheckinStore Checkin :=
  failWith "签到失败，请稍后重试" (transaction (checkin.insertRow .created))

def createAndAward (userId quotaAwarded : Int) : Sql CheckinStore Checkin :=
  transaction do
    let row ← failWith "签到失败，请稍后重试" (checkin.insertRow .awarded)
    failWith "签到失败：更新额度出错" (write (·.addQuota userId quotaAwarded))
    pure row

end Checkin

variable (cfg : Config) (dateOf : Int → String)

def checkinNow : Program CheckinStore Int := do
  match ← Program.store (peek (·.clock)) with
  | .ok now => .done now
  | .error _ => .done 0

def hasCheckedInToday (userId : Int) : Program CheckinStore (Except String Bool) := do
  let today := dateOf (← checkinNow)
  Program.store (read fun s => .ok (s.taken userId today))

def creditCheckin (userId quotaAwarded : Int) : Sql CheckinStore Unit := do
  zoom (·.accounts) (fun accounts s => { s with accounts }) (increaseUserQuota cfg userId quotaAwarded true)
  memory (·.log (.credited userId quotaAwarded))

def userCheckinWithTransaction (checkin : Checkin) (userId quotaAwarded : Int) :
    Program CheckinStore (Except String Checkin) :=
  Program.store (checkin.createAndAward userId quotaAwarded)

def userCheckinWithoutTransaction (checkin : Checkin) (userId quotaAwarded : Int) :
    Program CheckinStore (Except String Checkin) := do
  match ← Program.store checkin.create with
  | .error e => .done (.error e)
  | .ok row =>
    match ← Program.store (creditCheckin cfg userId quotaAwarded) with
    | .ok () => .done (.ok row)
    | .error _ => do
        let _ ← Program.undo (autocommit fun s : CheckinStore =>
          (s.deleteRow row.id).log (.deleted row.id))
        .done (.error "签到失败：更新额度出错")

/-- The award of the day. -/
def CheckinSetting.award (setting : CheckinSetting) (seed : Nat) : Int :=
  if setting.maxQuota > setting.minQuota then
    setting.minQuota + intn seed (setting.maxQuota - setting.minQuota + 1)
  else setting.minQuota

def userCheckin (setting : CheckinSetting) (usingSQLite : Bool) (seed : Nat) (userId : Int) :
    Program CheckinStore (Except String Checkin) :=
  if !setting.enabled then .done (.error "签到功能未启用")
  else do
    match ← hasCheckedInToday dateOf userId with
    | .error e => .done (.error e)
    | .ok true => .done (.error "今日已签到")
    | .ok false => do
        let quotaAwarded := setting.award seed
        let today := dateOf (← checkinNow)
        let checkin : Checkin := ⟨0, userId, today, quotaAwarded, ← checkinNow⟩
        if usingSQLite then userCheckinWithoutTransaction cfg checkin userId quotaAwarded
        else userCheckinWithTransaction checkin userId quotaAwarded

end NewApi.Model
