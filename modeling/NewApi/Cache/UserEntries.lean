/-
# Cache.UserEntries — is the hash of a user complete?

`RedisHIncrBy` and `RedisHSetField` ask for the time to live of a key and then write one field of
it.  If the key is gone by then, the write makes a hash of that one field (`partial_entry`).  All
other calls keep the hashes complete, and that one does when the key is there (`FindsKey`).
-/
import NewApi.Model.UserCache
import NewApi.Theory.Contract

namespace NewApi.Cache
open Model Theory Option Sql

def Complete (entry : RedisEntry) : Prop := ∀ field, (entry.hash field).isSome

/-- Every hash that a command finds is complete. -/
def EntriesComplete (s : CacheStore) : Prop := ∀ key entry, s.live key = some entry → Complete entry

/-- A single-field write finds its key. -/
def FindsKey (s s' : CacheStore) : Prop :=
  ∀ key, s'.history = s.history ++ [.fieldWritten key] → (s.live key).isSome

/-- Tasks side by side: their commands may fail, keys expire and the users' table changes
between any two of them. -/
def cacheRules {ι : Type} (admits : CacheStore → CacheStore → Prop) : Pool.Rules CacheStore ι Unit where
  env s s' := ∃ clock users, s.clock ≤ clock ∧ s' = { s with clock, users }
  guard _ _ s s' _ := admits s s'
  own _ _ _ _ _ := ()
  outside _ _ _ := ()

/-! ## What a call does -/

/-- What a command does to the keys. -/
inductive CacheStep (s : CacheStore) : CacheStore → Prop where
  | quiet : CacheStep s s
  | delete (key : String) : CacheStep s (s.put key none)
  | object (key : String) (entry : RedisEntry) (complete : Complete entry) :
      CacheStep s (s.put key (some entry))
  /-- a hash that was there keeps its fields -/
  | field (key : String) (entry : Option RedisEntry)
      (grown : ∀ old new, s.live key = some old → entry = some new →
        ∀ field, (old.hash field).isSome → (new.hash field).isSome) :
      CacheStep s ((s.put key entry).log (.fieldWritten key))

def IsCacheCall {β : Type} (act : Sql CacheStore β) : Prop := ∀ s faults, CacheStep s (act.exec s faults).2

theorem hset_grows (fields : UserHash) (entry : RedisEntry) (field : UserField)
    (present : (entry.hash field).isSome) : ((Redis.hset fields entry).hash field).isSome := by
  simp [Redis.hset, present]

/-- A write that only adds fields. -/
def Grows (write : RedisEntry → Except String RedisEntry) : Prop :=
  ∀ old new, write old = .ok new → ∀ field, (old.hash field).isSome → (new.hash field).isSome

theorem hincrby_grows (parse : String → Option Int) (field : UserField) (delta : Int) :
    Grows (Redis.hincrby parse field delta) := by
  intro old new written other present
  unfold Redis.hincrby at written
  split at written
  · cases written
    exact hset_grows _ old other present
  · split at written
    · cases written
      exact hset_grows _ old other present
    · cases written

variable {write : RedisEntry → Except String RedisEntry} {β : Type} (key : String)

theorem writeField_cache (grows : Grows write) (ttl : Int) : IsCacheCall (writeField key write ttl) := by
  intro s faults
  unfold writeField
  rcases exec_affect _ s faults with ⟨e, failed⟩ | ran
  · rw [failed]
    exact .quiet
  rw [ran]
  dsimp only
  cases written : write ((s.live key).getD Redis.emptyEntry) with
  | ok entry =>
    refine .field key _ fun old new found same => ?_
    cases same
    rw [found, getD_some] at written
    exact grows old entry written
  | error e =>
    refine .field key _ fun old new found same => ?_
    rw [found] at same
    cases same
    exact fun _ present => present

theorem redisHSetObj_cache (user : UserBase) (seconds : Int) :
    IsCacheCall (redisHSetObj key user.fields seconds) := by
  intro s faults
  unfold redisHSetObj
  rcases exec_autocommit _ s faults with ⟨e, failed⟩ | ran
  · rw [failed]
    exact .quiet
  rw [ran]
  refine .object key _ fun field => ?_
  have written : ∀ entry, ((Redis.hset user.fields entry).hash field).isSome := by
    intro entry
    cases field <;> rfl
  split
  · exact written _
  · exact written _

theorem redisDelKey_cache : IsCacheCall (redisDelKey key) := by
  intro s faults
  rcases exec_autocommit (fun s : CacheStore => s.put key none) s faults with ⟨e, failed⟩ | ran
  · rw [redisDelKey, failed]
    exact .quiet
  · rw [redisDelKey, ran]
    exact .delete key

theorem read_cache (query : CacheStore → Except String β) : IsCacheCall (Sql.read query) := by
  intro s faults
  rw [exec_read_snd]
  exact .quiet

theorem store_cache {act : Sql CacheStore β} (call : IsCacheCall act) : (Program.store act).All IsCacheCall :=
  Program.all_call call fun _ => trivial

theorem writeFieldWithTTL_cache (grows : Grows write) : (writeFieldWithTTL key write).All IsCacheCall := by
  refine .bind (store_cache (read_cache _)) fun outcome => ?_
  cases outcome with
  | error e => trivial
  | ok ttl =>
    dsimp only
    split
    · refine .bind (store_cache (writeField_cache key grows ttl)) fun outcome => ?_
      cases outcome <;> trivial
    · trivial

section
variable (cfg : RedisConfig)

theorem updateUserCache_cache (user : UserBase) : (updateUserCache cfg user).All IsCacheCall := by
  unfold updateUserCache
  split
  · trivial
  · exact store_cache (redisHSetObj_cache _ user _)

theorem getUserCache_cache (userId : Int) : (getUserCache cfg userId).All IsCacheCall := by
  have cached : (cacheGetUserBase cfg userId).All IsCacheCall := by
    unfold cacheGetUserBase
    split
    · trivial
    · exact store_cache (read_cache _)
  have stored : (getUserBaseById userId).All IsCacheCall := by
    unfold getUserBaseById
    split
    · trivial
    · exact store_cache (read_cache _)
  refine .bind cached fun outcome => ?_
  cases outcome with
  | ok user => trivial
  | error e =>
    refine .bind stored fun outcome => ?_
    cases outcome with
    | error e => trivial
    | ok user =>
      dsimp only
      split
      · exact ⟨.bind (updateUserCache_cache cfg user) fun _ => trivial, trivial⟩
      · trivial

/-- **Every call of a task is one of `CacheStep`.** -/
theorem task_cache (task : CacheTask) : (task.program cfg).All IsCacheCall := by
  cases task with
  | incrQuota userId delta =>
    refine .bind ?_ fun _ => trivial
    unfold cacheIncrUserQuota
    split
    · trivial
    · exact writeFieldWithTTL_cache _ (hincrby_grows cfg.parse .quota delta)
  | setField userId field value =>
    refine .bind ?_ fun _ => trivial
    unfold updateFieldCache
    split
    · trivial
    · refine writeFieldWithTTL_cache _ fun old new written => ?_
      cases written
      exact hset_grows _ old
  | update user => exact .bind (updateUserCache_cache cfg user) fun _ => trivial
  | invalidate userId =>
    refine .bind ?_ fun _ => trivial
    unfold invalidateUserCache
    split
    · trivial
    · exact store_cache (redisDelKey_cache _)
  | get userId => exact .bind (getUserCache_cache cfg userId) fun _ => trivial

end

/-! ## Runs -/

section
variable {s s' : CacheStore} {key : String} {entry : Option RedisEntry}

theorem live_put {other : String} {new : RedisEntry} (found : (s.put key entry).live other = some new) :
    (other = key ∧ entry = some new) ∨ (other ≠ key ∧ s.live other = some new) := by
  unfold CacheStore.live CacheStore.put at found
  by_cases same : other = key
  · subst same
    simp only [Function.update_self] at found
    exact .inl ⟨rfl, (filter_eq_some_iff.mp found).1⟩
  · simp only [Function.update_of_ne same] at found
    exact .inr ⟨same, found⟩

section
variable (complete : EntriesComplete s)
include complete

theorem EntriesComplete.put (new : ∀ e, entry = some e → Complete e) : EntriesComplete (s.put key entry) := by
  intro other e found
  rcases live_put found with ⟨-, same⟩ | ⟨-, before⟩
  · exact new e same
  · exact complete other e before

theorem EntriesComplete.step (finds : FindsKey s s') (stepped : CacheStep s s') : EntriesComplete s' := by
  cases stepped with
  | quiet => exact complete
  | delete key => exact complete.put fun _ none_ => by cases none_
  | object key entry whole =>
    refine complete.put fun e same => ?_
    cases same
    exact whole
  | field key entry grown =>
    -- the key is there, and its hash is complete
    obtain ⟨old, found⟩ := isSome_iff_exists.mp (finds key rfl)
    have whole : EntriesComplete (s.put key entry) := complete.put fun new same field =>
      grown old new found same field (complete key old found field)
    exact whole

theorem EntriesComplete.later {clock : Int} (later : s.clock ≤ clock)
    (users : Int → Option UserBase) : EntriesComplete { s with clock, users } := by
  intro key entry found
  refine complete key entry ?_
  unfold CacheStore.live at found ⊢
  rw [filter_eq_some_iff] at found ⊢
  refine ⟨found.1, ?_⟩
  cases time : entry.expireAt with
  | none => rfl
  | some time' =>
    have alive := found.2
    rw [time] at alive
    simp only [all_some, decide_eq_true_eq] at alive ⊢
    omega

end

def Shows (user : UserBase) : UserField → String → Prop
  | .id, text => Text.atoi text = some user.id
  | .group, text => user.group = text
  | .email, text => user.email = text
  | .quota, text => Text.atoi text = some user.quota
  | .status, text => Text.atoi text = some user.status
  | .username, text => user.username = text
  | .setting, text => user.setting = text

theorem intField_ok {hash : UserHash} {field : UserField} {value : Int} {text : String}
    (present : hash field = some text) (read : intField hash field = .ok value) : Text.atoi text = some value := by
  unfold intField at read
  rw [present] at read
  cases parsed : Text.atoi text with
  | none => simp [parsed] at read
  | some v =>
    simp only [parsed] at read
    cases read
    rfl

/-- What is read of a complete hash: every field of the user is one that is stored. -/
theorem readUser_shows {user : UserBase}
    (whole : ∀ e, entry = some e → Complete e) (read : readUser key entry = .ok user) :
    ∃ e, entry = some e ∧ ∀ field, ∃ text, e.hash field = some text ∧ Shows user field text := by
  cases entry with
  | none => simp [readUser, Redis.emptyEntry] at read
  | some e =>
    refine ⟨e, rfl, fun field => ?_⟩
    have present : ∀ field, ∃ text, e.hash field = some text := fun field =>
      isSome_iff_exists.mp (whole e rfl field)
    simp only [readUser, getD_some] at read
    split at read
    · cases read
    cases id : intField e.hash .id with
    | error error => simp [id, bind, Except.bind] at read
    | ok idValue =>
      cases quota : intField e.hash .quota with
      | error error => simp [id, quota, bind, Except.bind] at read
      | ok quotaValue =>
        cases status : intField e.hash .status with
        | error error => simp [id, quota, status, bind, Except.bind] at read
        | ok statusValue =>
          simp only [id, quota, status] at read
          cases read
          obtain ⟨text, stored⟩ := present field
          refine ⟨text, stored, ?_⟩
          cases field with
          | id => exact intField_ok stored id
          | quota => exact intField_ok stored quota
          | status => exact intField_ok stored status
          | group | email | username | setting => simp [Shows, stringField, stored]

/-- **If the single-field writes find their key, every hash is complete in every state**, and
what `GetUserCache` reads of a user is all stored: for any number of tasks, every
interleaving of their commands with expiry and with changes of the users' table, also when
commands fail. -/
theorem entries_complete {ι : Type} [DecidableEq ι] (cfg : RedisConfig) (task : ι → CacheTask)
    (complete : EntriesComplete s) {c : Pool CacheStore (Except String (Option UserBase)) ι}
    (run : Pool.Run (cacheRules FindsKey) (Pool.initial s fun i => (task i).program cfg) () c ()) :
    EntriesComplete c.store ∧ ∀ userId user, ((cacheGetUserBase cfg userId).solo c.store).1 = .ok user →
      ∃ entry, c.store.live (getUserCacheKey userId) = some entry ∧
        ∀ field, ∃ text, entry.hash field = some text ∧ Shows user field text := by
  have whole : EntriesComplete c.store := by
    refine Pool.Run.call_invariant (fun s _ => EntriesComplete s) complete ?_ (fun _ _ _ _ holds _ => holds) ?_ run
    · refine ⟨fun i => ?_, fun _ _ member => by cases member⟩
      exact (task_cache cfg (task i)).mono fun act does s faults _ complete finds => complete.step finds (does s faults)
    · rintro s _ _ complete ⟨clock, users, later, rfl⟩
      exact complete.later later users
  refine ⟨whole, fun userId user read => ?_⟩
  unfold cacheGetUserBase at read
  split at read
  · cases read
  · exact readUser_shows (fun e found => whole _ e found) read

end

/-! ## Between `TTL` and the write -/

/-- A call that notes whether its key was there.  A key that it has found is there at its next command as
well: it is neither deleted nor expires in between. -/
def keptSetting (key : String) : Setting CacheStore Bool where
  meets _ _ := True
  sees found s := found = true → (s.live key).isSome
  moves s _ _ := (s.live key).isSome
  keeps s s' _ := FindsKey s s'

theorem findsKey_of_history {s s' : CacheStore} (same : s'.history = s.history) : FindsKey s s' := by
  intro key logged
  rw [same] at logged
  simp at logged

theorem live_of_ttl_pos {s : CacheStore} (positive : 0 < Redis.ttl s key) : (s.live key).isSome := by
  unfold Redis.ttl at positive
  cases found : s.live key with
  | none => simp [found] at positive
  | some entry => rfl

theorem writeField_finds (ttl : Int) :
    (Program.store (writeField key write ttl)).Meets (keptSetting key) true fun _ _ => True := by
  refine .store fun s faults seen _ => ⟨?_, trivial⟩
  unfold writeField
  rcases exec_affect _ s faults with ⟨e, failed⟩ | ran
  · rw [failed]
    exact findsKey_of_history rfl
  · intro other logged
    have here : .fieldWritten key = CacheEvent.fieldWritten other := by
      rw [ran] at logged
      dsimp only at logged
      split at logged <;> simpa [CacheStore.log, CacheStore.put] using logged
    cases here
    exact seen rfl

/-- **What the test of `TTL` is for**: a single-field write finds its key, if a key that `TTL` has found is
neither deleted nor expires before the write. -/
theorem writeFieldWithTTL_finds (found : Bool) :
    (writeFieldWithTTL key write).Meets (keptSetting key) found fun _ _ => True := by
  refine .bind (Q := fun outcome found' => ∀ ttl, outcome = .ok ttl → 0 < ttl → found' = true) ?_ ?_
  · refine .store fun s faults _ _ => ?_
    rcases exec_read (fun s => .ok (Redis.ttl s key)) s faults with ⟨e, failed⟩ | ran
    · rw [failed]
      exact ⟨findsKey_of_history rfl, nofun⟩
    · rw [ran]
      refine ⟨findsKey_of_history rfl, ?_⟩
      rintro ttl ⟨⟩ positive
      exact live_of_ttl_pos key positive
  · intro outcome found' positive
    cases outcome with
    | error e => trivial
    | ok ttl =>
      dsimp only
      split
      · rename_i lasts
        rw [positive ttl rfl lasts]
        refine .bind (writeField_finds key ttl) fun outcome _ _ => ?_
        cases outcome <;> trivial
      · trivial

/-! ## A deleted key -/

def cachedUser : UserBase := ⟨1, "vip", "a@example.com", 100, 1, "alice", ""⟩

def cachedStore : CacheStore where
  keys key := if key = "user:1" then some ⟨cachedUser.fields, some 60000⟩ else none
  clock := 0
  users id := if id = 1 then some cachedUser else none
  history := []

def cacheConfig : RedisConfig := ⟨true, 60, Text.atoi⟩

/-- A quota increment, an invalidation and a reader of one user. -/
def threeTasks : Option Bool → CacheTask
  | some false => .incrQuota 1 5
  | some true => .invalidate 1
  | none => .get 1

def threePool : Pool CacheStore (Except String (Option UserBase)) (Option Bool) :=
  Pool.initial cachedStore fun i => (threeTasks i).program cacheConfig

theorem cachedStore_complete : EntriesComplete cachedStore := by
  intro key entry found
  have stored := (filter_eq_some_iff.mp found).1
  unfold cachedStore at stored
  dsimp only at stored
  split at stored
  · cases stored
    intro field
    cases field <;> rfl
  · cases stored

def findsKey (s s' : CacheStore) : Bool :=
  match s'.history.drop s.history.length with
  | [.fieldWritten key] => (s.live key).isSome
  | _ => true

theorem findsKey_sound {s s' : CacheStore} (checked : findsKey s s' = true) : FindsKey s s' := by
  intro key logged
  unfold findsKey at checked
  rw [logged, List.drop_left] at checked
  exact checked

def gotUser (user : UserBase) (c : Pool CacheStore (Except String (Option UserBase)) (Option Bool)) : Bool :=
  (c.result none).any fun r => r.toOption = some (some user)

theorem finished_of_gotUser {user : UserBase}
    {c : Pool CacheStore (Except String (Option UserBase)) (Option Bool)} (got : gotUser user c = true) :
    c.Finished none (.ok (some user)) := by
  obtain ⟨r, finished, holds⟩ := Pool.finished_of_any got
  cases r with
  | error e => cases holds
  | ok read =>
    obtain rfl : read = some user := by simpa [Except.toOption] using holds
    exact finished

/-- The increment is over before the key is deleted. -/
theorem entries_complete_three : ∃ c, Pool.Run (cacheRules FindsKey) threePool () c () ∧
      c.Finished none (.ok (some { cachedUser with quota := 105 })) ∧ EntriesComplete c.store := by
  refine Pool.exists_unit_play (gotUser { cachedUser with quota := 105 } · = true)
    (fun _ s s' _ => findsKey s s') (fun _ _ _ _ checked => findsKey_sound checked)
    [.main (some false), .main (some false), .main none, .main (some true)] (by decide +kernel) ?_
  intro c run ended
  exact ⟨finished_of_gotUser ended, (entries_complete cacheConfig threeTasks cachedStore_complete run).1⟩

/-- The key is deleted between `TTL` and the increment: the hash has one field, and the
reader gets a user without group and status. -/
theorem partial_entry : EntriesComplete cachedStore ∧ ∃ c, Pool.Run (cacheRules fun _ _ => True) threePool () c () ∧
      ¬EntriesComplete c.store ∧ c.Finished none (.ok (some ⟨0, "", "", 5, 0, "", ""⟩)) := by
  refine ⟨cachedStore_complete, ?_⟩
  refine Pool.exists_unit_play (fun c => gotUser ⟨0, "", "", 5, 0, "", ""⟩ c = true ∧
      ((c.store.live "user:1").any fun entry => (entry.hash .status).isNone) = true)
    (fun _ _ _ _ => true) (fun _ _ _ _ _ => trivial)
    [.main (some false), .main (some true), .main (some false), .main none] (by decide +kernel) ?_
  intro c run ended
  rw [any_eq_true] at ended
  obtain ⟨got, entry, found, missing⟩ := ended
  refine ⟨fun complete => ?_, finished_of_gotUser got⟩
  have present := complete _ entry found .status
  rw [isNone_iff_eq_none] at missing
  rw [missing] at present
  cases present

end NewApi.Cache
