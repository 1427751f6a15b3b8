/-
# Model.BatchUpdater — pending deltas and the updater that writes them

`model/utils.go` with the functions of `model/user.go`, `model/token.go` and `model/channel.go` that
record into it.  What is done under the lock of a map is one step.

`recorded` and `swapped` are history variables: all deltas that were asked for, and what a run of
`batchUpdate` has taken out of the pending map and not applied yet.  `accessed_time` of a token and
the caches are left out.
-/
import NewApi.Theory.DeltaMap
import NewApi.Model.Wallet

namespace NewApi.Model
open Theory Function Program

inductive BatchUpdateType where
  | userQuota | tokenQuota | usedQuota | channelUsedQuota | requestCount
deriving DecidableEq

/-- The types in the order of their numbers. -/
def BatchUpdateType.all : List BatchUpdateType :=
  [.userQuota, .tokenQuota, .usedQuota, .channelUsedQuota, .requestCount]

structure UserCounters where
  quota : Int
  usedQuota : Int
  requestCount : Int
deriving DecidableEq

structure TokenCounters where
  remainQuota : Int
  usedQuota : Int
deriving DecidableEq

@[ext] structure CounterTables where
  users : Int → Option UserCounters
  tokens : Int → Option TokenCounters
  channels : Int → Option Int

structure Delta where
  type : BatchUpdateType
  id : Int
  value : Int
deriving DecidableEq

/-- The database, `batchUpdateStores`, and the two history variables. -/
structure BatchStore (ρ : Type) where
  tables : CounterTables
  pending : BatchUpdateType → DeltaMap Int
  swapped : ρ → BatchUpdateType → Int → Int
  recorded : List Delta

namespace CounterTables

variable (tables : CounterTables)

def setUser (id : Int) (change : UserCounters → UserCounters) : CounterTables :=
  { tables with users := update tables.users id ((tables.users id).map change) }

/-- The relative update of one counter: a token that gets quota has used less. -/
def add (delta : Delta) : CounterTables :=
  match delta.type with
  | .userQuota => tables.setUser delta.id fun u => { u with quota := u.quota + delta.value }
  | .usedQuota => tables.setUser delta.id fun u => { u with usedQuota := u.usedQuota + delta.value }
  | .requestCount =>
    tables.setUser delta.id fun u => { u with requestCount := u.requestCount + delta.value }
  | .tokenQuota => { tables with
      tokens := update tables.tokens delta.id ((tables.tokens delta.id).map fun t =>
        ⟨t.remainQuota + delta.value, t.usedQuota - delta.value⟩) }
  | .channelUsedQuota => { tables with
      channels := update tables.channels delta.id
        ((tables.channels delta.id).map (· + delta.value)) }

/-- Several relative updates, one after the other or in one statement. -/
def addAll (deltas : List Delta) : CounterTables := deltas.foldl add tables

end CounterTables

namespace BatchStore

variable {ρ : Type} [DecidableEq ρ]

/-! ## Recording -/

def addNewRecord (type : BatchUpdateType) (id value : Int) : Sql (BatchStore ρ) Unit :=
  Sql.memory fun s => { s with
    pending := update s.pending type ((s.pending type).add id value)
    recorded := s.recorded ++ [⟨type, id, value⟩] }

/-- Some relative updates in one statement. -/
def updateNow (deltas : List Delta) : Sql (BatchStore ρ) Unit :=
  Sql.autocommit fun s => { s with
    tables := s.tables.addAll deltas
    recorded := s.recorded ++ deltas }

section
variable (batchUpdateEnabled : Bool)

/-- Record a delta, or write it when batch update is off. -/
def change (type : BatchUpdateType) (id value : Int) : Sql (BatchStore ρ) Unit :=
  if batchUpdateEnabled then addNewRecord type id value else updateNow [⟨type, id, value⟩]

def increaseUserQuota (id quota : Int) (db : Bool) : Sql (BatchStore ρ) Unit :=
  if quota < 0 then Sql.throw errNegativeQuota
  else change (!db && batchUpdateEnabled) .userQuota id quota

def decreaseUserQuota (id quota : Int) (db : Bool) : Sql (BatchStore ρ) Unit :=
  if quota < 0 then Sql.throw errNegativeQuota
  else change (!db && batchUpdateEnabled) .userQuota id (-quota)

def increaseTokenQuota (id quota : Int) : Sql (BatchStore ρ) Unit :=
  if quota < 0 then Sql.throw errNegativeQuota else change batchUpdateEnabled .tokenQuota id quota

def decreaseTokenQuota (id quota : Int) : Sql (BatchStore ρ) Unit :=
  if quota < 0 then Sql.throw errNegativeQuota else change batchUpdateEnabled .tokenQuota id (-quota)

def updateChannelUsedQuota (id quota : Int) : Sql (BatchStore ρ) Unit :=
  change batchUpdateEnabled .channelUsedQuota id quota

/-- Two records under two locks, or one statement. -/
def updateUserUsedQuotaAndRequestCount (id quota : Int) : Program (BatchStore ρ) Unit :=
  if batchUpdateEnabled then do
    let _ ← store (addNewRecord .usedQuota id quota)
    let _ ← store (addNewRecord .requestCount id 1)
    .done ()
  else do
    let _ ← store (updateNow [⟨.usedQuota, id, quota⟩, ⟨.requestCount, id, 1⟩])
    .done ()

end

/-! ## The updater -/

/-- Is there anything to write: the maps are looked at one after the other, each under its
lock, until one is not empty. -/
def hasData : List BatchUpdateType → Program (BatchStore ρ) Bool
  | [] => .done false
  | type :: rest => do
      match ← store (Sql.peek fun s => !(s.pending type).entries.isEmpty) with
      | .ok true => .done true
      | _ => hasData rest

def swap (run : ρ) (type : BatchUpdateType) : Sql (BatchStore ρ) (DeltaMap Int) :=
  Sql.exchange fun s => (s.pending type, { s with
    pending := update s.pending type .empty
    swapped := update s.swapped run
      (update (s.swapped run) type (s.pending type).value) })

def swapAll (run : ρ) : List BatchUpdateType → (BatchUpdateType → DeltaMap Int) →
    Program (BatchStore ρ) (BatchUpdateType → DeltaMap Int)
  | [], stores => .done stores
  | type :: rest, stores => do
      match ← store (swap run type) with
      | .ok store => swapAll run rest (update stores type store)
      | .error _ => swapAll run rest stores

/-- The entry of `id` in a swapped map has been applied. -/
def strike (s : BatchStore ρ) (run : ρ) (type : BatchUpdateType) (id : Int) : BatchStore ρ :=
  { s with swapped := update s.swapped run (update (s.swapped run) type (update (s.swapped run type) id 0)) }

/-- `increaseTokenQuota(key, value)` and `updateChannelUsedQuota(key, value)` of the updater. -/
def applyEntry (run : ρ) (type : BatchUpdateType) (entry : Int × Int) : Sql (BatchStore ρ) Unit :=
  Sql.autocommit fun s =>
    { s with tables := s.tables.add ⟨type, entry.1, entry.2⟩ }.strike run type entry.1

def applyEntries (run : ρ) (type : BatchUpdateType) : List (Int × Int) → Program (BatchStore ρ) Unit
  | [] => .done ()
  | entry :: rest => do
      let _ ← store (applyEntry run type entry)
      applyEntries run type rest

/-- The three counters of a user in one statement. -/
def writeUser (s : BatchStore ρ) (run : ρ) (id quota usedQuota requestCount : Int) : BatchStore ρ :=
  let tables := s.tables.addAll
    [⟨.userQuota, id, quota⟩, ⟨.usedQuota, id, usedQuota⟩, ⟨.requestCount, id, requestCount⟩]
  (({ s with tables }.strike run .userQuota id).strike run .usedQuota id).strike run .requestCount id

def applyUser (run : ρ) (id quota usedQuota requestCount : Int) : Program (BatchStore ρ) Unit :=
  if quota = 0 ∧ usedQuota = 0 ∧ requestCount = 0 then .done ()
  else do
    let _ ← store (Sql.autocommit (·.writeUser run id quota usedQuota requestCount))
    .done ()

def applyUsers (run : ρ) (stores : BatchUpdateType → DeltaMap Int) : List Int → Program (BatchStore ρ) Unit
  | [] => .done ()
  | id :: rest => do
      applyUser run id ((stores .userQuota).value id) ((stores .usedQuota).value id)
        ((stores .requestCount).value id)
      applyUsers run stores rest

/-- The keys of the three maps of users, each once. -/
def userIds (stores : BatchUpdateType → DeltaMap Int) : List Int :=
  (((stores .userQuota).entries ++ (stores .usedQuota).entries ++ (stores .requestCount).entries).map Prod.fst).dedup

/-- The orders in which the three loops of a run meet their entries. -/
structure Orders where
  tokens : RangeOrder
  channels : RangeOrder
  users : RangeOrder

def batchUpdate (run : ρ) (orders : Orders) : Program (BatchStore ρ) Unit := do
  if ← hasData BatchUpdateType.all then do
    let stores ← swapAll run BatchUpdateType.all fun _ => .empty
    applyEntries run .tokenQuota (orders.tokens.list (stores .tokenQuota).entries)
    applyEntries run .channelUsedQuota (orders.channels.list (stores .channelUsedQuota).entries)
    applyUsers run stores (orders.users.list (userIds stores))
  else .done ()

end BatchStore

inductive BatchTask where
  | increaseUserQuota (id quota : Int) (db : Bool)
  | decreaseUserQuota (id quota : Int) (db : Bool)
  | increaseTokenQuota (id quota : Int)
  | decreaseTokenQuota (id quota : Int)
  | updateUserUsedQuotaAndRequestCount (id quota : Int)
  | updateChannelUsedQuota (id quota : Int)
  | batchUpdate (orders : BatchStore.Orders)

/-- The code of task `run`; what a caller is told is of no use here. -/
def BatchTask.program {ρ : Type} [DecidableEq ρ] (batchUpdateEnabled : Bool) (run : ρ) :
    BatchTask → Program (BatchStore ρ) Unit
  | .increaseUserQuota id quota db => do
      let _ ← store (BatchStore.increaseUserQuota batchUpdateEnabled id quota db)
      .done ()
  | .decreaseUserQuota id quota db => do
      let _ ← store (BatchStore.decreaseUserQuota batchUpdateEnabled id quota db)
      .done ()
  | .increaseTokenQuota id quota => do
      let _ ← store (BatchStore.increaseTokenQuota batchUpdateEnabled id quota)
      .done ()
  | .decreaseTokenQuota id quota => do
      let _ ← store (BatchStore.decreaseTokenQuota batchUpdateEnabled id quota)
      .done ()
  | .updateUserUsedQuotaAndRequestCount id quota =>
    BatchStore.updateUserUsedQuotaAndRequestCount batchUpdateEnabled id quota
  | .updateChannelUsedQuota id quota => do
      let _ ← store (BatchStore.updateChannelUsedQuota batchUpdateEnabled id quota)
      .done ()
  | .batchUpdate orders => BatchStore.batchUpdate run orders

end NewApi.Model
