/-
# Routing.ChannelAdmin — the operations that change channels

`model/channel.go` and the writes of `model/ability.go`.  Every operation writes the table `channels`
and then, by its own means, the table `abilities`.  No store call fails.

A `Channel` that is an argument is `ChannelFields` here, with its pointers; `Updates` with a struct
skips its zero fields, and `Create` replaces them by the defaults of the columns.
-/
import NewApi.Routing.Channel

namespace NewApi.Routing
open Theory

/-- A `Channel` as the caller of an operation fills it in. -/
structure ChannelFields where
  id : Int
  key : String
  status : Int
  models : String
  group : String
  priority : Option Int
  weight : Option Nat
  tag : Option String
  modelMapping : Option String
  paramOverride : Option String
  headerOverride : Option String
  channelInfo : ChannelInfo
deriving DecidableEq

/-! ## Abilities -/

/-- The pairs the loops of `AddAbilities` and `UpdateAbilities` go through. -/
def Channel.abilityPairs (channel : Channel) : List (String × String) :=
  channel.modelNames.flatMap fun model => channel.groupNames.map fun group => (group, model)

def abilityKey (pair : String × String) : String := pair.1 ++ "|" ++ pair.2

/-- A pair whose key was met before is passed over. -/
def keepNewKeys : List String → List (String × String) → List (String × String)
  | _, [] => []
  | abilitySet, pair :: rest =>
    if abilityKey pair ∈ abilitySet then keepNewKeys abilitySet rest
    else pair :: keepNewKeys (abilityKey pair :: abilitySet) rest

/-- The rows `AddAbilities` and `UpdateAbilities` create for a channel. -/
def Channel.newAbilities (channel : Channel) : List Ability :=
  (keepNewKeys [] channel.abilityPairs).map fun pair => channel.ability pair.1 pair.2

/-- The primary key of a row. -/
def Ability.key (ability : Ability) : String × String × Int := (ability.group, ability.model, ability.channelId)

/-- `Clauses(clause.OnConflict{DoNothing: true}).Create`, one row. -/
def createAbility (abilities : List Ability) (row : Ability) : List Ability :=
  if row.key ∈ abilities.map Ability.key then abilities else abilities ++ [row]

namespace ChannelStore

variable (store : ChannelStore)

def addAbilities (channel : Channel) : ChannelStore :=
  { store with abilities := channel.newAbilities.foldl createAbility store.abilities }

/-- The rows of the channel are deleted and created again. -/
def updateAbilities (channel : Channel) : ChannelStore :=
  addAbilities { store with abilities := store.abilities.filter (·.channelId ≠ channel.id) } channel

def updateAbilityStatus (channelId : Int) (status : Bool) : ChannelStore :=
  { store with
    abilities := store.abilities.map fun row =>
      if row.channelId = channelId then { row with enabled := status } else row }

def updateAbilityStatusByTag (tag : String) (status : Bool) : ChannelStore :=
  { store with
    abilities := store.abilities.map fun row =>
      if row.tag = some tag then { row with enabled := status } else row }

/-- The columns `UpdateAbilityByTag` sets: `Updates` takes a struct, so a weight of zero is not
among them. -/
def setAbility (newTag : Option String) (priority : Option Int) (weight : Option Nat) (row : Ability) : Ability :=
  { row with
    tag := newTag.or row.tag
    priority := priority.getD row.priority
    weight := if weight.getD 0 = 0 then row.weight else weight.getD 0 }

def updateAbilityByTag (tag : String) (newTag : Option String) (priority : Option Int)
    (weight : Option Nat) : ChannelStore :=
  { store with
    abilities := store.abilities.map fun row =>
      if row.tag = some tag then setAbility newTag priority weight row else row }

/-! ## Channels -/

/-- The argument itself as a row: what the abilities are made from when the reload finds none. -/
def asRow (fields : ChannelFields) : Channel where
  id := fields.id
  key := fields.key
  status := fields.status
  models := fields.models
  group := fields.group
  priority := fields.priority.getD 0
  weight := fields.weight.getD 0
  tag := fields.tag
  modelMapping := fields.modelMapping
  paramOverride := fields.paramOverride
  headerOverride := fields.headerOverride
  channelInfo := fields.channelInfo

/-- The row `Create` inserts: zero fields take the defaults of their columns. -/
def createdRow (fields : ChannelFields) (id : Int) : Channel :=
  { asRow fields with
    id
    status := if fields.status = 0 then 1 else fields.status
    group := if fields.group = "" then "default" else fields.group }

/-- `Channel.Insert`; `assigned` is the id the database gives a channel that comes without one.
A second row of one id is an error, and nothing is written. -/
def insert (fields : ChannelFields) (assigned : Int) : ChannelStore :=
  let row := createdRow fields (if fields.id = 0 then assigned else fields.id)
  if row.id ∈ store.channels.map (·.id) then store
  else addAbilities { store with channels := store.channels ++ [row] } row

/-- `DB.Where("id = ?", id)` as an update. -/
def updateChannels (where_ : Channel → Bool) (set : Channel → Channel) : ChannelStore :=
  { store with channels := store.channels.map fun row => if where_ row then set row else row }

def channelOf (id : Int) : Option Channel := store.channels.find? fun row => row.id = id

/-- The keys of a key text: a JSON array, else one key a line.  `decode` reads a JSON array as
the texts of its elements. -/
def keysOf (decode : String → Option (List String)) (key : String) : List String :=
  let lines := Text.split (Text.trimChar key '\n') "\n"
  if Text.hasPrefix (Text.trimSpace key) "[" then (decode (Text.trimSpace key)).getD lines else lines

def getKeys (decode : String → Option (List String)) (key : String) : List String :=
  if key = "" then [] else keysOf decode key

/-- The key list `Channel.Update` counts; an empty JSON array is split by lines as well. -/
def countedKeys (decode : String → Option (List String)) (key : String) : List String :=
  if key = "" then []
  else if (keysOf decode key).length = 0 then Text.split (Text.trimChar key '\n') "\n"
  else keysOf decode key

/-- The multi-key part of `Channel.Update`. -/
def trimStatusList (decode : String → Option (List String)) (fields : ChannelFields) : ChannelInfo :=
  if fields.channelInfo.isMultiKey then
    let keyStr := if fields.key ≠ "" then fields.key else ((store.channelOf fields.id).map (·.key)).getD ""
    let size := (countedKeys decode keyStr).length
    { fields.channelInfo with
      multiKeySize := size
      multiKeyStatusList := fields.channelInfo.multiKeyStatusList.filter (·.1 < size) }
  else fields.channelInfo

/-- `Updates` with a struct: its zero fields are passed over. -/
def setFields (fields : ChannelFields) (row : Channel) : Channel :=
  { row with
    key := if fields.key = "" then row.key else fields.key
    status := if fields.status = 0 then row.status else fields.status
    models := if fields.models = "" then row.models else fields.models
    group := if fields.group = "" then row.group else fields.group
    priority := fields.priority.getD row.priority
    weight := fields.weight.getD row.weight
    tag := fields.tag.or row.tag
    modelMapping := fields.modelMapping.or row.modelMapping
    paramOverride := fields.paramOverride.or row.paramOverride
    headerOverride := fields.headerOverride.or row.headerOverride
    channelInfo := if fields.channelInfo = .zero then row.channelInfo else fields.channelInfo }

/-- The writes of `Channel.Update`: the row, then the abilities of the row as it reads back.  The
error of the reload is not looked at. -/
def saveFields (fields : ChannelFields) : ChannelStore :=
  let updated := store.updateChannels (·.id = fields.id) (setFields fields)
  updated.updateAbilities ((updated.channelOf fields.id).getD (asRow fields))

/-- `Channel.Update`.  Without an id the update has no condition, which is an error. -/
def update (decode : String → Option (List String)) (fields : ChannelFields) : ChannelStore :=
  if fields.id = 0 then store
  else store.saveFields { fields with channelInfo := store.trimStatusList decode fields }

def editFields (tag : String) (newTag modelMapping models group : Option String)
    (priority : Option Int) (weight : Option Nat) (paramOverride headerOverride : Option String) : ChannelFields where
  id := 0
  key := ""
  status := 0
  models := models.getD ""
  group := group.getD ""
  priority := priority
  weight := weight
  tag := newTag.filter (· ≠ tag)
  modelMapping := modelMapping
  paramOverride := paramOverride
  headerOverride := headerOverride
  channelInfo := .zero

def editChannelByTag (tag : String) (newTag modelMapping models group : Option String)
    (priority : Option Int) (weight : Option Nat) (paramOverride headerOverride : Option String) : ChannelStore :=
  let updateData := editFields tag newTag modelMapping models group priority weight paramOverride
    headerOverride
  let updatedTag := updateData.tag.getD tag
  let updated := store.updateChannels (·.tag = some tag) (setFields updateData)
  if updateData.models ≠ "" ∨ updateData.group ≠ "" then
    (updated.channels.filter (·.tag = some updatedTag)).foldl updateAbilities updated
  else updated.updateAbilityByTag tag newTag priority weight

/-- `BatchSetChannelTag`.  The channels are read outside the transaction, from the store as it
was before. -/
def batchSetChannelTag (ids : List Int) (tag : Option String) : ChannelStore :=
  (store.channels.filter (·.id ∈ ids)).foldl updateAbilities
    (store.updateChannels (·.id ∈ ids) fun row => { row with tag })

/-! ## Status -/

def hasEnabledMultiKey (keys : List String) (statusList : List (Nat × Int)) : Bool :=
  (List.range keys.length).any fun i =>
    match statusList.lookup i with
    | none => true
    | some status => status = channelStatusEnabled

/-- The status list after one key took a status: an enabled key is not listed. -/
def keyStatusList (statusList : List (Nat × Int)) (keyIndex : Nat) (status : Int) : List (Nat × Int) :=
  if status = channelStatusEnabled then statusList.filter (·.1 ≠ keyIndex)
  else (keyIndex, status) :: statusList.filter (·.1 ≠ keyIndex)

/-- The status of a channel whose key took a status. -/
def statusOfKeys (keys : List String) (statusList : List (Nat × Int)) (before status : Int) : Int :=
  if hasEnabledMultiKey keys statusList = false then channelStatusAutoDisabled
  else if status = channelStatusEnabled then channelStatusEnabled
  else before

/-- `handlerMultiKeyUpdate` on a row; status reasons and times are left out. -/
def handlerMultiKeyUpdate (decode : String → Option (List String)) (channel : Channel)
    (usingKey : String) (status : Int) : Channel :=
  let keys := getKeys decode channel.key
  if keys.length = 0 then { channel with status }
  else
    match keys.findIdx? (· = usingKey) with
    | none => if usingKey ≠ "" then channel else { channel with status }
    | some keyIndex =>
      let statusList := keyStatusList channel.channelInfo.multiKeyStatusList keyIndex status
      { channel with
        channelInfo := { channel.channelInfo with multiKeyStatusList := statusList }
        status := statusOfKeys keys statusList channel.status status }

/-- The row `UpdateChannelStatus` saves, and whether it updates the abilities. -/
def statusRow (decode : String → Option (List String)) (channel : Channel) (usingKey : String)
    (status : Int) : Channel × Bool :=
  if channel.channelInfo.isMultiKey then
    let updated := handlerMultiKeyUpdate decode channel usingKey status
    (updated, updated.status ≠ channel.status)
  else ({ channel with status }, true)

/-- Whether the memory cache stops `UpdateChannelStatus`: it does not know the channel, or knows
it with one key and already in the status.  `none` is a disabled cache. -/
def stoppedByCache (cached : Option (Option Channel)) (status : Int) : Bool :=
  match cached with
  | none => false
  | some none => true
  | some (some channel) => !channel.channelInfo.isMultiKey && channel.status = status

/-- `UpdateChannelStatus`.  `SaveWithoutKey` refuses id zero, after which the abilities are
updated all the same. -/
def updateChannelStatus (decode : String → Option (List String))
    (cached : Option (Option Channel)) (channelId : Int) (usingKey : String) (status : Int) : ChannelStore :=
  if stoppedByCache cached status then store
  else
    match store.channelOf channelId with
    | none => store
    | some channel =>
      if channel.status = status then store
      else
        let (row, shouldUpdateAbilities) := statusRow decode channel usingKey status
        let saved := if channelId = 0 then store else store.updateChannels (·.id = channelId) fun _ => row
        if shouldUpdateAbilities then
          saved.updateAbilityStatus channelId (status = channelStatusEnabled)
        else saved

/-- The update both functions by tag make. -/
def setStatusByTag (tag : String) (status : Int) (enabled : Bool) : ChannelStore :=
  (store.updateChannels (·.tag = some tag) fun row => { row with status }).updateAbilityStatusByTag
    tag enabled

def enableChannelByTag (tag : String) : ChannelStore := store.setStatusByTag tag channelStatusEnabled true

def disableChannelByTag (tag : String) : ChannelStore :=
  store.setStatusByTag tag channelStatusManuallyDisabled false

/-- Both deletions leave the abilities. -/
def deleteChannels (where_ : Channel → Bool) : ChannelStore :=
  { store with channels := store.channels.filter fun row => !where_ row }

def deleteChannelByStatus (status : Int) : ChannelStore := store.deleteChannels (·.status = status)

def deleteDisabledChannel : ChannelStore :=
  store.deleteChannels fun row =>
    row.status = channelStatusAutoDisabled || row.status = channelStatusManuallyDisabled

end ChannelStore

inductive ChannelOp
  | insert (fields : ChannelFields) (assigned : Int)
  | update (fields : ChannelFields)
  | editByTag (tag : String) (newTag modelMapping models group : Option String)
      (priority : Option Int) (weight : Option Nat) (paramOverride headerOverride : Option String)
  | batchSetTag (ids : List Int) (tag : Option String)
  | updateStatus (cached : Option (Option Channel)) (channelId : Int) (usingKey : String)
      (status : Int)
  | enableByTag (tag : String)
  | disableByTag (tag : String)
  | deleteByStatus (status : Int)
  | deleteDisabled

def ChannelOp.apply (decode : String → Option (List String)) (store : ChannelStore) : ChannelOp → ChannelStore
  | .insert fields assigned => store.insert fields assigned
  | .update fields => store.update decode fields
  | .editByTag tag newTag modelMapping models group priority weight paramOverride headerOverride =>
    store.editChannelByTag tag newTag modelMapping models group priority weight paramOverride
      headerOverride
  | .batchSetTag ids tag => store.batchSetChannelTag ids tag
  | .updateStatus cached channelId usingKey status =>
    store.updateChannelStatus decode cached channelId usingKey status
  | .enableByTag tag => store.enableChannelByTag tag
  | .disableByTag tag => store.disableChannelByTag tag
  | .deleteByStatus status => store.deleteChannelByStatus status
  | .deleteDisabled => store.deleteDisabledChannel

end NewApi.Routing
