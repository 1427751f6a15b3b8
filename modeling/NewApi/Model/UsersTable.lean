/-
# Model.UsersTable — the whole row of a user, and who writes it

`model/user.go`: `IncreaseUserQuota` and `DecreaseUserQuota` change the quota column relative to what
it holds; `inviteUser`, `TransferAffQuotaToQuota` and `User.Update` read a whole row and write it
back later.  `DB.Updates` with a struct writes the columns that are not zero in it.

`TransferAffQuotaToQuota` sets `gorm:query_option`, which the library version in use ignores: the row
it reads is not locked.  `deleted_at` and the user cache are left out.  `history` is a history
variable: the changes of quota that were asked for.
-/
import NewApi.Model.Wallet
import NewApi.Theory.Decimal

namespace NewApi.Model
open Theory Program

inductive TextColumn where
  | username | password | displayName | email | githubId | discordId | oidcId | weChatId
  | telegramId | group | affCode | linuxDOId | setting | remark | stripeCustomer
deriving DecidableEq

structure Profile where
  text : TextColumn → String
  role : Int
  status : Int
  accessToken : Option String

structure UserRow where
  id : Int
  profile : Profile
  quota : Int
  usedQuota : Int
  requestCount : Int
  affCount : Int
  affQuota : Int
  affHistoryQuota : Int
  inviterId : Int
  createdAt : Int
  lastLoginAt : Int

/-- A change of quota that was asked for. -/
inductive QuotaEvent where
  | increased (userId quota : Int)
  | decreased (userId quota : Int)
  | transferred (userId quota : Int)
deriving DecidableEq

structure UsersTable where
  rows : Int → Option UserRow
  history : List QuotaEvent

structure InviteConfig where
  quotaForInviter : Int
  quotaPerUnit : Rat
  /-- `logger.LogQuota` -/
  logQuota : Int → String

/-- A column of `Updates(newUser)`: zero is not written. -/
def overwrite {α : Type} [DecidableEq α] (zero new old : α) : α := if new = zero then old else new

/-- The columns `Updates(new)` leaves in a row that held `old`. -/
def Profile.updates (new old : Profile) : Profile where
  text column := overwrite "" (new.text column) (old.text column)
  role := overwrite 0 new.role old.role
  status := overwrite 0 new.status old.status
  accessToken := new.accessToken.or old.accessToken

def UserRow.updates (new old : UserRow) : UserRow where
  id := old.id
  profile := new.profile.updates old.profile
  quota := overwrite 0 new.quota old.quota
  usedQuota := overwrite 0 new.usedQuota old.usedQuota
  requestCount := overwrite 0 new.requestCount old.requestCount
  affCount := overwrite 0 new.affCount old.affCount
  affQuota := overwrite 0 new.affQuota old.affQuota
  affHistoryQuota := overwrite 0 new.affHistoryQuota old.affHistoryQuota
  inviterId := overwrite 0 new.inviterId old.inviterId
  createdAt := overwrite 0 new.createdAt old.createdAt
  lastLoginAt := overwrite 0 new.lastLoginAt old.lastLoginAt

def Profile.withPassword (profile : Profile) (password : String) : Profile :=
  { profile with text := Function.update profile.text .password password }

/-- A struct with nothing but profile columns set. -/
def UserRow.clean (id : Int) (profile : Profile) : UserRow := ⟨id, profile, 0, 0, 0, 0, 0, 0, 0, 0, 0⟩

namespace UsersTable

/-! ## Statements -/

def lookup (s : UsersTable) (id : Int) : Except String UserRow :=
  match s.rows id with
  | some row => .ok row
  | none => .error errRecordNotFound

def first (id : Int) : Sql UsersTable UserRow := Sql.read (·.lookup id)

def getUserById (id : Int) (selectAll : Bool) : Sql UsersTable UserRow :=
  if id = 0 then Sql.throw "id 为空！"
  else Sql.read fun s => (s.lookup id).map fun row =>
    if selectAll then row else { row with profile := row.profile.withPassword "" }

/-- `DB.Save(user)`, with the change of quota it makes. -/
def save (row : UserRow) (events : List QuotaEvent) : Sql UsersTable Unit :=
  Sql.autocommit fun s =>
    { rows := Function.update s.rows row.id (some row), history := s.history ++ events }

def updates (newUser : UserRow) : Sql UsersTable Unit :=
  Sql.autocommit fun s =>
    { s with rows := Function.update s.rows newUser.id ((s.rows newUser.id).map newUser.updates) }

def addQuota (id value : Int) (event : QuotaEvent) : Sql UsersTable Unit :=
  Sql.autocommit fun s =>
    { rows := Function.update s.rows id ((s.rows id).map fun u => { u with quota := u.quota + value })
      history := s.history ++ [event] }

def increaseUserQuota (id quota : Int) : Sql UsersTable Unit :=
  if quota < 0 then Sql.throw errNegativeQuota else addQuota id quota (.increased id quota)

def decreaseUserQuota (id quota : Int) : Sql UsersTable Unit :=
  if quota < 0 then Sql.throw errNegativeQuota else addQuota id (-quota) (.decreased id quota)

/-! ## Whole rows -/

def inviteUser (cfg : InviteConfig) (inviterId : Int) : Program UsersTable (Except String Unit) := do
  match ← store (getUserById inviterId true) with
  | .error e => .done (.error e)
  | .ok user => store (save { user with
      affCount := user.affCount + 1
      affQuota := user.affQuota + cfg.quotaForInviter
      affHistoryQuota := user.affHistoryQuota + cfg.quotaForInviter } [])

def transferAffQuotaToQuota (cfg : InviteConfig) (userId quota : Int) : Program UsersTable (Except String Unit) :=
  if (quota : Rat) < cfg.quotaPerUnit then
    .done (.error ("转移额度最小为" ++ cfg.logQuota (Decimal.intPart cfg.quotaPerUnit) ++ "！"))
  else do
    match ← store (first userId) with
    | .error e => .done (.error e)
    | .ok user =>
      if user.affQuota < quota then .done (.error "邀请额度不足！")
      else store (save { user with
        affQuota := user.affQuota - quota
        quota := user.quota + quota } [.transferred userId quota])

/-- `User.Update`; `password` is what `Password2Hash` answers, when the password is to be
updated.  What the second read finds goes to the cache only. -/
def update (password : Option (Except String String)) (user : UserRow) : Program UsersTable (Except String Unit) :=
  let write (newUser : UserRow) : Program UsersTable (Except String Unit) := do
    let _ ← store (first newUser.id)
    store (updates newUser)
  match password with
  | none => write user
  | some (.error e) => .done (.error e)
  | some (.ok hash) => write { user with profile := user.profile.withPassword hash }

/-- Where the receiver of `User.Update` comes from: the callers load a row and change
profile columns of it, or fill in a new struct. -/
inductive Receiver where
  | loaded (id : Int) (selectAll : Bool) (edit : Profile → Profile)
  | clean (id : Int) (profile : Profile)

def updateReceiver (password : Option (Except String String)) : Receiver → Program UsersTable (Except String Unit)
  | .loaded id selectAll edit => do
      match ← store (getUserById id selectAll) with
      | .error e => .done (.error e)
      | .ok user => update password { user with profile := edit user.profile }
  | .clean id profile => update password (.clean id profile)

end UsersTable

/-- Everything that writes a user's quota. -/
inductive QuotaWriter where
  | increaseUserQuota (id quota : Int)
  | decreaseUserQuota (id quota : Int)
  | inviteUser (inviterId : Int)
  | update (password : Option (Except String String)) (receiver : UsersTable.Receiver)
  | transferAffQuotaToQuota (userId quota : Int)

namespace QuotaWriter

def program (cfg : InviteConfig) : QuotaWriter → Program UsersTable (Except String Unit)
  | .increaseUserQuota id quota => store (UsersTable.increaseUserQuota id quota)
  | .decreaseUserQuota id quota => store (UsersTable.decreaseUserQuota id quota)
  | .inviteUser inviterId => UsersTable.inviteUser cfg inviterId
  | .update password receiver => UsersTable.updateReceiver password receiver
  | .transferAffQuotaToQuota userId quota => UsersTable.transferAffQuotaToQuota cfg userId quota

def target : QuotaWriter → Int
  | .increaseUserQuota id _ => id
  | .decreaseUserQuota id _ => id
  | .inviteUser inviterId => inviterId
  | .update _ (.loaded id _ _) => id
  | .update _ (.clean id _) => id
  | .transferAffQuotaToQuota userId _ => userId

def writesBack : QuotaWriter → Bool
  | .increaseUserQuota _ _ => false
  | .decreaseUserQuota _ _ => false
  | .inviteUser _ => true
  | .update _ (.loaded _ _ _) => true
  | .update _ (.clean _ _) => false
  | .transferAffQuotaToQuota _ _ => true

end QuotaWriter
end NewApi.Model
