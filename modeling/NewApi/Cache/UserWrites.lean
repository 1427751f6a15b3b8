/-
# Cache.UserWrites — a reader of the cache gets what was written to it

The key of one user after `updateUserCache`, while single fields are written and time passes.  A
write reads the time to live in whole seconds and sets it anew, which costs up to 499 milliseconds.
-/
import NewApi.Cache.UserEntries

namespace NewApi.Cache
open Model Theory List

inductive FieldWrite where
  | incrQuota (delta : Int) | quota (value : Int) | status (enabled : Bool)
  | group (text : String) | name (text : String) | setting (text : String)

def FieldWrite.program (cfg : RedisConfig) (userId : Int) : FieldWrite → Program CacheStore (Except String Unit)
  | .incrQuota delta => cacheIncrUserQuota cfg userId delta
  | .quota value => updateUserQuotaCache cfg userId value
  | .status enabled => updateUserStatusCache cfg userId enabled
  | .group text => updateUserGroupCache cfg userId text
  | .name text => updateUserNameCache cfg userId text
  | .setting text => updateUserSettingCache cfg userId text

def FieldWrite.apply (user : UserBase) : FieldWrite → UserBase
  | .incrQuota delta => { user with quota := user.quota + delta }
  | .quota value => { user with quota := value }
  | .status enabled => { user with status := if enabled then 1 else 2 }
  | .group text => { user with group := text }
  | .name text => { user with username := text }
  | .setting text => { user with setting := text }

theorem FieldWrite.apply_id (user : UserBase) (write : FieldWrite) : (write.apply user).id = user.id := by
  cases write <;> rfl

/-- A write, some milliseconds after what came before. -/
def writeAfter (cfg : RedisConfig) (userId : Int) (s : CacheStore) (turn : Nat × FieldWrite) : CacheStore :=
  ((turn.2.program cfg userId).solo { s with clock := s.clock + turn.1 }).2

def afterWrites (user : UserBase) (turns : List (Nat × FieldWrite)) : UserBase :=
  turns.foldl (fun user turn => turn.2.apply user) user

/-- The milliseconds that pass, with what the writes may cost. -/
def spent (turns : List (Nat × FieldWrite)) : Nat := turns.foldr (fun turn rest => turn.1 + 499 + rest) 0

/-- The numbers of the user have 64 bits. -/
def Fits (user : UserBase) : Prop := ∀ n ∈ [user.id, user.quota, user.status], -2 ^ 63 ≤ n ∧ n < 2 ^ 63

/-- The key of the user holds `user`, for at least `rest` milliseconds. -/
def Holds (s : CacheStore) (user : UserBase) (rest : Int) : Prop :=
  ∃ time, s.keys (getUserCacheKey user.id) = some ⟨user.fields, some time⟩ ∧ s.clock + rest ≤ time

variable {cfg : RedisConfig} {s : CacheStore} {user : UserBase} {rest time : Int} {key : String} {hash new : UserHash}

theorem live_of_keys (found : s.keys key = some ⟨hash, some time⟩) (alive : s.clock < time) :
    s.live key = some ⟨hash, some time⟩ := by
  simp [CacheStore.live, found, alive]

/-- A key with half a second left is written to, and loses 499 milliseconds at most. -/
theorem writeFieldWithTTL_keys {write : RedisEntry → Except String RedisEntry}
    (found : s.keys key = some ⟨hash, some time⟩) (alive : s.clock + 500 ≤ time)
    (writes : write ⟨hash, some time⟩ = .ok ⟨new, some time⟩) :
    ∃ time', ((writeFieldWithTTL key write).solo s).2.keys key = some ⟨new, some time'⟩ ∧
      ((writeFieldWithTTL key write).solo s).2.clock = s.clock ∧ time ≤ time' + 499 := by
  have live := live_of_keys found (by omega)
  generalize lasts : (time - s.clock + 500) / 1000 = ttl
  have asked : (Program.store (Sql.read fun s => .ok (Redis.ttl s key))).solo s = (.ok ttl, s) := by
    simp [Program.store, Program.solo, Sql.exec, Sql.read, Sql.statement, Conn.view, Redis.ttl, live, lasts]
  have written : (Program.store (writeField key write ttl)).solo s =
      (.ok (.ok ()), (s.put key (some ⟨new, some (s.clock + ttl * 1000)⟩)).log (.fieldWritten key)) := by
    simp [Program.store, Program.solo, Sql.exec, writeField, Sql.affect, Sql.statement, live, writes, Redis.expire]
  unfold writeFieldWithTTL
  rw [Program.solo_bind, asked]
  dsimp only
  rw [if_pos (by omega), Program.solo_bind, written]
  exact ⟨s.clock + ttl * 1000, Function.update_self .., rfl, by omega⟩

section
variable (enabled : cfg.redisEnabled = true) (fits : Fits user)
include enabled fits

theorem Holds.read (holds : Holds s user rest) (alive : 0 < rest) :
    ((cacheGetUserBase cfg user.id).solo s).1 = .ok user := by
  obtain ⟨time, found, later⟩ := holds
  have number (field : UserField) (n : Int) (text : user.fields field = some (toString n))
      (member : n ∈ [user.id, user.quota, user.status]) : intField user.fields field = .ok n := by
    simp only [intField, text, Text.atoi_toString (fits n member).1 (fits n member).2]
  simp only [cacheGetUserBase, enabled]
  show readUser _ (s.live _) = _
  rw [live_of_keys found (by omega), readUser, if_neg (by simp [UserField.all, UserBase.fields])]
  simp only [Option.getD_some, number .id user.id rfl (by simp), number .quota user.quota rfl (by simp),
    number .status user.status rfl (by simp)]
  rfl

variable (parses : ∀ n, -2 ^ 63 ≤ n ∧ n < 2 ^ 63 → cfg.parse (toString n) = some n) (write : FieldWrite)
include parses

/-- The write of a field, as a change of the hash. -/
theorem FieldWrite.program_eq : ∃ change,
    write.program cfg user.id = writeFieldWithTTL (getUserCacheKey user.id) change ∧
      ∀ time, change ⟨user.fields, time⟩ = .ok ⟨(write.apply user).fields, time⟩ := by
  have hset (field : UserField) (text : String) (new : UserBase)
      (same : ∀ other, new.fields other = if other = field then some text else user.fields other) (time : Option Int) :
      Redis.hset (Redis.single field text) ⟨user.fields, time⟩ = ⟨new.fields, time⟩ := by
    simp only [Redis.hset, RedisEntry.mk.injEq, and_true]
    funext other
    rw [same]
    by_cases here : other = field <;> simp [Redis.single, here]
  cases write with
  | incrQuota delta =>
    refine ⟨_, if_neg (by simp [enabled]), fun time => ?_⟩
    have old : user.fields .quota = some (toString user.quota) := rfl
    simp only [Redis.hincrby, old, parses _ (fits user.quota (by simp))]
    exact congrArg _ (hset _ _ _ (by rintro ⟨⟩ <;> rfl) time)
  | status on =>
    refine ⟨_, if_neg (by simp [enabled]), fun time => congrArg _ (hset _ _ _ ?_ time)⟩
    cases on <;> rintro ⟨⟩ <;> rfl
  | _ => exact ⟨_, if_neg (by simp [enabled]), fun time => congrArg _ (hset _ _ _ (by rintro ⟨⟩ <;> rfl) time)⟩

theorem Holds.writeAfter (delay : Nat) (holds : Holds s user rest) (alive : delay + 500 ≤ rest) :
    Holds (writeAfter cfg user.id s (delay, write)) (write.apply user) (rest - (delay + 499)) := by
  obtain ⟨time, found, later⟩ := holds
  obtain ⟨change, same, changes⟩ := write.program_eq enabled fits parses
  obtain ⟨time', found', clock, kept⟩ :=
    writeFieldWithTTL_keys (s := { s with clock := s.clock + delay }) found (by dsimp only; omega) (changes _)
  rw [← same] at found' clock
  refine ⟨time', write.apply_id user ▸ found', ?_⟩
  rw [Cache.writeAfter, clock]
  dsimp only
  omega

end

theorem holds_updateUserCache (user : UserBase) (s : CacheStore) (enabled : cfg.redisEnabled = true)
    (positive : 0 < cfg.syncFrequency) :
    Holds ((updateUserCache cfg user).solo s).2 user (cfg.syncFrequency * 1000) := by
  have whole (entry : RedisEntry) : Redis.hset user.fields entry = ⟨user.fields, entry.expireAt⟩ := by
    simp only [Redis.hset, RedisEntry.mk.injEq, and_true]
    funext field
    cases field <;> rfl
  simp [Holds, updateUserCache, enabled, Program.store, Program.solo, redisHSetObj, Sql.autocommit, Sql.statement,
    Sql.exec, whole, Redis.expire, CacheStore.put, positive]

/-- **A reader of the cache gets the user that the writes make**, while the times between them and
what the writes cost stay below the life of the key. -/
theorem cachedUser_tracks (user : UserBase) (turns : List (Nat × FieldWrite)) (s : CacheStore)
    (enabled : cfg.redisEnabled = true)
    (parses : ∀ n, -2 ^ 63 ≤ n ∧ n < 2 ^ 63 → cfg.parse (toString n) = some n)
    (alive : spent turns < cfg.syncFrequency * 1000)
    (fits : ∀ done rest, done ++ rest = turns → Fits (afterWrites user done)) :
    ((cacheGetUserBase cfg user.id).solo
      (turns.foldl (writeAfter cfg user.id) ((updateUserCache cfg user).solo s).2)).1 =
      .ok (afterWrites user turns) := by
  have start := holds_updateUserCache user s enabled (by omega)
  generalize ((updateUserCache cfg user).solo s).2 = s at start
  generalize cfg.syncFrequency * 1000 = rest at *
  induction turns generalizing s user rest with
  | nil => exact start.read enabled (fits [] [] rfl) (by simpa [spent] using alive)
  | cons turn turns step =>
    rw [spent, foldr_cons, ← spent] at alive
    have next : Holds (writeAfter cfg user.id s turn) (turn.2.apply user) _ :=
      start.writeAfter enabled (fits [] _ rfl) parses turn.2 turn.1 (by omega)
    rw [← turn.2.apply_id] at next ⊢
    apply step _ (fun done rest same => fits (turn :: done) rest (by rw [cons_append, same])) _ _ ?_ next
    omega

def threeWrites : List (Nat × FieldWrite) := [(1000, .incrQuota 5), (2500, .group "svip"), (0, .status false)]

theorem cachedUser_tracks_incremented : ((cacheGetUserBase cacheConfig 1).solo (threeWrites.foldl
    (writeAfter cacheConfig 1) ((updateUserCache cacheConfig cachedUser).solo cachedStore).2)).1 =
      .ok { cachedUser with quota := 105, group := "svip", status := 2 } := by
  refine cachedUser_tracks cachedUser threeWrites cachedStore rfl
    (fun n fits => Text.atoi_toString fits.1 fits.2) (by decide) fun done rest same => ?_
  rcases done with - | ⟨first, - | ⟨second, - | ⟨third, - | ⟨_, _⟩⟩⟩⟩
  all_goals cases same
  all_goals simp [Fits, afterWrites, FieldWrite.apply, cachedUser]

end NewApi.Cache
