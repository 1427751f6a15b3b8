/-
# Model.UserCache — the users in Redis

The hash helpers of `common/redis.go` and the functions of `model/user_cache.go` that use them.
Every Redis command is a call of its own; a `TxPipeline` is one call.  A key that has expired is no
key for any command (`CacheStore.live`).  `HSET` and `HINCRBY` make the hash when there is none, and
leave the expiry of one that exists.  `TTL` answers in seconds, to the nearest one; the clock is in
milliseconds.  `history` records the single-field writes.
-/
import NewApi.Theory.Program
import NewApi.Theory.Text

namespace NewApi.Model
open Theory Program

structure UserBase where
  id : Int
  group : String
  email : String
  quota : Int
  status : Int
  username : String
  setting : String
deriving DecidableEq

/-- The fields of `UserBase`, by which the hash is keyed. -/
inductive UserField where
  | id | group | email | quota | status | username | setting
deriving DecidableEq

/-- In the order of the structure. -/
def UserField.all : List UserField := [.id, .group, .email, .quota, .status, .username, .setting]

def UserField.name : UserField → String
  | .id => "Id"
  | .group => "Group"
  | .email => "Email"
  | .quota => "Quota"
  | .status => "Status"
  | .username => "Username"
  | .setting => "Setting"

abbrev UserHash := UserField → Option String

structure RedisEntry where
  hash : UserHash
  expireAt : Option Int

inductive CacheEvent where
  /-- the transaction of `RedisHIncrBy` or `RedisHSetField` was executed -/
  | fieldWritten (key : String)
deriving DecidableEq

structure CacheStore where
  keys : String → Option RedisEntry
  clock : Int
  /-- the users' table -/
  users : Int → Option UserBase
  history : List CacheEvent

namespace CacheStore

/-- The key, unless it has expired. -/
def live (s : CacheStore) (key : String) : Option RedisEntry :=
  (s.keys key).filter fun entry => entry.expireAt.all (s.clock < ·)

def put (s : CacheStore) (key : String) (entry : Option RedisEntry) : CacheStore :=
  { s with keys := Function.update s.keys key entry }

def log (s : CacheStore) (event : CacheEvent) : CacheStore := { s with history := s.history ++ [event] }

end CacheStore

/-! ## Redis commands -/

namespace Redis

/-- A key that does not exist, as a hash without fields. -/
def emptyEntry : RedisEntry := ⟨fun _ => none, none⟩

/-- `TTL`: `-2` without a key, `-1` without an expiry. -/
def ttl (s : CacheStore) (key : String) : Int :=
  match s.live key with
  | none => -2
  | some entry =>
    match entry.expireAt with
    | none => -1
    | some time => (time - s.clock + 500) / 1000

def hset (fields : UserHash) (entry : RedisEntry) : RedisEntry :=
  { entry with hash := fun field => (fields field).or (entry.hash field) }

def single (field : UserField) (value : String) : UserHash :=
  fun other => if other = field then some value else none

/-- `HINCRBY`: an error, without effect, on a value that is no number; `parse` is how Redis
reads one. -/
def hincrby (parse : String → Option Int) (field : UserField) (delta : Int) (entry : RedisEntry) :
    Except String RedisEntry :=
  match entry.hash field with
  | none => .ok (hset (single field (toString delta)) entry)
  | some text =>
    match parse text with
    | some value => .ok (hset (single field (toString (value + delta))) entry)
    | none => .error "ERR hash value is not an integer"

def expire (clock seconds : Int) (entry : RedisEntry) : RedisEntry :=
  { entry with expireAt := some (clock + seconds * 1000) }

end Redis

/-! ## The helpers -/

structure RedisConfig where
  redisEnabled : Bool
  syncFrequency : Int
  parse : String → Option Int

variable (key : String)

def redisDelKey : Sql CacheStore Unit := Sql.autocommit (·.put key none)

/-- `RedisHSetObj`, the fields being printed with `%v`. -/
def redisHSetObj (fields : UserHash) (seconds : Int) : Sql CacheStore Unit :=
  Sql.autocommit fun s =>
    let written := Redis.hset fields ((s.live key).getD Redis.emptyEntry)
    s.put key (some (if seconds > 0 then Redis.expire s.clock seconds written else written))

/-- The transaction of a single-field write: the write, then `EXPIRE`, whatever the write
answered. -/
def writeField (write : RedisEntry → Except String RedisEntry) (ttl : Int) :
    Sql CacheStore (Except String Unit) :=
  Sql.affect fun s =>
    let found := (s.live key).getD Redis.emptyEntry
    match write found with
    | .ok entry => (.ok (), (s.put key (some (Redis.expire s.clock ttl entry))).log (.fieldWritten key))
    | .error e =>
      (.error e, (s.put key ((s.live key).map (Redis.expire s.clock ttl))).log (.fieldWritten key))

/-- What `RedisHIncrBy` and `RedisHSetField` share: nothing is written to a key without a
time to live. -/
def writeFieldWithTTL (write : RedisEntry → Except String RedisEntry) :
    Program CacheStore (Except String Unit) := do
  match ← store (Sql.read fun s => .ok (Redis.ttl s key)) with
  | .error e => .done (.error ("failed to get TTL: " ++ e))
  | .ok ttl =>
    if ttl > 0 then do
      match ← store (writeField key write ttl) with
      | .error e => .done (.error e)
      | .ok outcome => .done outcome
    else .done (.ok ())

def redisHIncrBy (cfg : RedisConfig) (key : String) (field : UserField) (delta : Int) :
    Program CacheStore (Except String Unit) :=
  writeFieldWithTTL key (Redis.hincrby cfg.parse field delta)

def redisHSetField (field : UserField) (value : String) : Program CacheStore (Except String Unit) :=
  writeFieldWithTTL key fun entry => .ok (Redis.hset (Redis.single field value) entry)

/-- An integer field of the object: zero when the hash lacks it.  The text of the parse error
that the message wraps is left out. -/
def intField (hash : UserHash) (field : UserField) : Except String Int :=
  match hash field with
  | none => .ok 0
  | some text =>
    match Text.atoi text with
    | some value => .ok value
    | none => .error ("failed to parse int field " ++ field.name)

def stringField (hash : UserHash) (field : UserField) : String := (hash field).getD ""

/-- `RedisHGetObj`, on what `HGETALL` answered; the fields in the order of the structure. -/
def readUser (key : String) (entry : Option RedisEntry) : Except String UserBase :=
  let hash := (entry.getD Redis.emptyEntry).hash
  if UserField.all.all fun field => (hash field).isNone then .error ("key " ++ key ++ " not found in Redis")
  else do
    let id ← intField hash .id
    let quota ← intField hash .quota
    let status ← intField hash .status
    .ok {
      id, quota, status
      group := stringField hash .group
      email := stringField hash .email
      username := stringField hash .username
      setting := stringField hash .setting }

def redisHGetObj (key : String) : Sql CacheStore UserBase := Sql.read fun s => readUser key (s.live key)

/-! ## The cache of a user -/

/-- What `RedisHSetObj` writes of a user. -/
def UserBase.fields (user : UserBase) : UserHash
  | .id => some (toString user.id)
  | .group => some user.group
  | .email => some user.email
  | .quota => some (toString user.quota)
  | .status => some (toString user.status)
  | .username => some user.username
  | .setting => some user.setting

def getUserCacheKey (userId : Int) : String := "user:" ++ toString userId

variable (cfg : RedisConfig) (userId : Int)

def invalidateUserCache : Program CacheStore (Except String Unit) :=
  if !cfg.redisEnabled then .done (.ok ())
  else store (redisDelKey (getUserCacheKey userId))

def updateUserCache (user : UserBase) : Program CacheStore (Except String Unit) :=
  if !cfg.redisEnabled then .done (.ok ())
  else store (redisHSetObj (getUserCacheKey user.id) user.fields cfg.syncFrequency)

def cacheGetUserBase : Program CacheStore (Except String UserBase) :=
  if !cfg.redisEnabled then .done (.error "redis is not enabled")
  else store (redisHGetObj (getUserCacheKey userId))

def cacheIncrUserQuota (delta : Int) : Program CacheStore (Except String Unit) :=
  if !cfg.redisEnabled then .done (.ok ())
  else redisHIncrBy cfg (getUserCacheKey userId) .quota delta

/-- What `updateUserStatusCache`, `updateUserQuotaCache`, `updateUserGroupCache`,
`updateUserNameCache` and `updateUserSettingCache` share. -/
def updateFieldCache (field : UserField) (value : String) : Program CacheStore (Except String Unit) :=
  if !cfg.redisEnabled then .done (.ok ())
  else redisHSetField (getUserCacheKey userId) field value

/-- `common.UserStatusEnabled` is 1, `common.UserStatusDisabled` is 2. -/
def updateUserStatusCache (status : Bool) : Program CacheStore (Except String Unit) :=
  updateFieldCache cfg userId .status (if status then "1" else "2")

def updateUserQuotaCache (quota : Int) : Program CacheStore (Except String Unit) :=
  updateFieldCache cfg userId .quota (toString quota)

def updateUserGroupCache (group : String) : Program CacheStore (Except String Unit) :=
  updateFieldCache cfg userId .group group

def updateUserNameCache (username : String) : Program CacheStore (Except String Unit) :=
  updateFieldCache cfg userId .username username

def updateUserSettingCache (setting : String) : Program CacheStore (Except String Unit) :=
  updateFieldCache cfg userId .setting setting

def getUserBaseById : Program CacheStore (Except String UserBase) :=
  if userId = 0 then .done (.error "id 为空！")
  else store (Sql.read fun s =>
    match s.users userId with
    | some user => .ok user
    | none => .error "record not found")

/-- `GetUserCache`: the cache, or the database, from which the cache is then filled in the
background. -/
def getUserCache (userId : Int) : Program CacheStore (Except String UserBase) := do
  match ← cacheGetUserBase cfg userId with
  | .ok user => .done (.ok user)
  | .error _ =>
    match ← getUserBaseById userId with
    | .error e => .done (.error e)
    | .ok user =>
      if cfg.redisEnabled then do
        go do
          let _ ← updateUserCache cfg user
          .done ()
        .done (.ok user)
      else .done (.ok user)

/-- Those who use the cache of a user. -/
inductive CacheTask where
  | incrQuota (userId delta : Int)
  | setField (userId : Int) (field : UserField) (value : String)
  | update (user : UserBase)
  | invalidate (userId : Int)
  | get (userId : Int)

/-- The task, with the user it has read. -/
def CacheTask.program : CacheTask → Program CacheStore (Except String (Option UserBase))
  | .incrQuota userId delta => do .done ((← cacheIncrUserQuota cfg userId delta).map fun _ => none)
  | .setField userId field value => do
      .done ((← updateFieldCache cfg userId field value).map fun _ => none)
  | .update user => do .done ((← updateUserCache cfg user).map fun _ => none)
  | .invalidate userId => do .done ((← invalidateUserCache cfg userId).map fun _ => none)
  | .get userId => do .done ((← getUserCache cfg userId).map some)

end NewApi.Model
