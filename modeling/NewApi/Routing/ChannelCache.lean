/-
# Routing.ChannelCache — channel selection from memory (`model/channel_cache.go`)

`InitChannelCache` lists, for each group and model, the ids of the enabled channels that name them.
`GetRandomSatisfiedChannel` looks the model up there or else the name it is matched under, takes the
priority level the retry counter stands for, and draws a channel of that level by weight.
-/
import NewApi.Routing.Channel
import NewApi.Theory.Draw

namespace NewApi.Routing
open Theory

variable (name : String)

def handleThinkingBudgetModel (pre wildcard : String) : String :=
  if Text.hasPrefix name pre && Text.contains name "-thinking-" then wildcard else name

def matchGemini : String :=
  if Text.hasPrefix name "gemini-2.5-flash-lite" then
    handleThinkingBudgetModel name "gemini-2.5-flash-lite" "gemini-2.5-flash-lite-thinking-*"
  else if Text.hasPrefix name "gemini-2.5-flash" then
    handleThinkingBudgetModel name "gemini-2.5-flash" "gemini-2.5-flash-thinking-*"
  else if Text.hasPrefix name "gemini-2.5-pro" then
    handleThinkingBudgetModel name "gemini-2.5-pro" "gemini-2.5-pro-thinking-*"
  else name

def matchGizmo : String := if Text.hasPrefix name "gpt-4-gizmo" then "gpt-4-gizmo-*" else name

def matchGizmo4o : String := if Text.hasPrefix name "gpt-4o-gizmo" then "gpt-4o-gizmo-*" else name

def formatMatchingModelName : String := matchGizmo4o (matchGizmo (matchGemini name))

/-! ## The cache -/

/-- `group2model2channels` and `channelsIDM`. -/
structure ChannelCache where
  group2model2channels : String → String → List Int
  channelsIDM : Int → Option Channel

variable (channels : List Channel)

/-- What the loops of `InitChannelCache` append, in order: a channel that names a group or a
model twice is appended twice. -/
def cacheAppends : List (String × String × Int) :=
  channels.flatMap fun channel =>
    if channel.enabled then
      channel.groupNames.flatMap fun group =>
        channel.modelNames.map fun model => (group, model, channel.id)
    else []

def appended (appends : List (String × String × Int)) (group model : String) : List Int :=
  appends.filterMap fun entry =>
    if entry.1 = group ∧ entry.2.1 = model then some entry.2.2 else none

def channelById (id : Int) : Option Channel :=
  channels.find? fun channel => channel.id = id

/-- `sort.Slice`: greater priorities first. -/
def sortByPriority (ids : List Int) : List Int :=
  ids.insertionSort fun a b =>
    ((channelById channels b).map (·.priority)).getD 0 ≤
      ((channelById channels a).map (·.priority)).getD 0

/-- `InitChannelCache`.  `none` is the panic of an append to the map of a group: only groups
that the abilities name have one. -/
def initChannelCache (store : ChannelStore) : Option ChannelCache :=
  let groups := store.abilities.map (·.group)
  let appends := cacheAppends store.channels
  if appends.all fun entry => entry.1 ∈ groups then
    some
      { group2model2channels := fun group model =>
          sortByPriority store.channels (appended appends group model)
        channelsIDM := channelById store.channels }
  else none

variable (cache : ChannelCache)

/-- `CacheUpdateChannelStatus`.  The loop over a list of ids ends at the first entry it takes
out. -/
def ChannelCache.cacheUpdateChannelStatus (id status : Int) : ChannelCache where
  group2model2channels group model :=
    if status ≠ channelStatusEnabled then (cache.group2model2channels group model).erase id
    else cache.group2model2channels group model
  channelsIDM other :=
    if other = id then (cache.channelsIDM id).map fun channel => { channel with status }
    else cache.channelsIDM other

/-- The listed ids: those of the name itself, else those of the name it is matched under. -/
def ChannelCache.channelsFor (group model : String) : List Int :=
  if (cache.group2model2channels group model).length = 0 then
    cache.group2model2channels group (formatMatchingModelName model)
  else cache.group2model2channels group model

def ChannelCache.channel (id : Int) : Except String Channel :=
  match cache.channelsIDM id with
  | some channel => .ok channel
  | none => .error s!"数据库一致性错误，渠道# {id} 不存在，请联系管理员修复"

/-- The sum of the weights with its smoothing: the sum to draw from, the factor and the
adjustment. -/
def smoothing (sumWeight : Int) (count : Nat) : Int × Int × Int :=
  if sumWeight = 0 then (count * 100, 1, 100)
  else if sumWeight.tdiv count < 10 then (sumWeight, 100, 0)
  else (sumWeight, 1, 0)

def sumWeights (channels : List Channel) : Nat := (channels.map (·.weight)).sum

/-- The draw by weight among the channels of the target priority, with machine words: the sum of
`GetWeight` wraps, however it is added up. -/
def drawByWeight (targetChannels : List Channel) (seed : Nat) : Except String (Option Channel) :=
  let total := smoothing (wrap64 (sumWeights targetChannels)) targetChannels.length
  let sumWeight := total.1
  let smoothingFactor := total.2.1
  let smoothingAdjustment := total.2.2
  (randIntn seed (wrap64 (sumWeight * smoothingFactor))).map fun randomWeight =>
    (stopIndex (fun channel => wrap64 (wrap64 channel.weight * smoothingFactor + smoothingAdjustment)) (· < 0)
      randomWeight targetChannels).bind (targetChannels[·]?)

/-- `GetRandomSatisfiedChannel` with the memory cache.  Its two loops over the ids make the
same lookups: one pass reads them here. -/
def ChannelCache.getRandomSatisfiedChannel (group model : String)
    (retry seed : Nat) : Except String (Option Channel) :=
  match cache.channelsFor group model with
  | [] => .ok none
  | [id] => (cache.channel id).map some
  | ids =>
    match ids.mapM cache.channel with
    | .error missing => .error missing
    | .ok channels =>
      match levelAt (channels.map (·.priority)) retry with
      | none => .error "index out of range"
      | some targetPriority =>
        let targetChannels := channels.filter (·.priority = targetPriority)
        if targetChannels.length = 0 then
          .error (s!"no channel found, group: {group}, model: {model}, " ++ s!"priority: {targetPriority}")
        else
          match drawByWeight targetChannels seed with
          | .error panics => .error panics
          | .ok (some channel) => .ok (some channel)
          | .ok none => .error "channel not found"

/-! ## Channel selection from the database (`model/ability.go`)

`GetChannel` runs when the memory cache is disabled.  It reads the enabled abilities of a
group and model: those of the greatest priority for a first attempt, else those of the
priority the retry counter stands for.  Each row is drawn with its weight plus ten, and the
channel of the row drawn is loaded.
-/

namespace ChannelStore

variable (store : ChannelStore) (group model : String)

def enabledAbilities : List Ability :=
  store.abilities.filter fun ability =>
    ability.group = group ∧ ability.model = model ∧ ability.enabled = true

def getPriority (retry : Nat) : Except String Int :=
  match levelAt ((store.enabledAbilities group model).map (·.priority)) retry with
  | none => .error "数据库一致性被破坏"
  | some priority => .ok priority

/-- `priority = ?`; a comparison with `NULL` holds of no row. -/
def withPriority (priority : Option Int) : List Ability :=
  (store.enabledAbilities group model).filter fun ability => some ability.priority = priority

/-- `getChannelQuery`, as the rows it selects. -/
def getChannelQuery (retry : Nat) : Except String (List Ability) :=
  if retry ≠ 0 then
    (store.getPriority group model retry).map fun priority =>
      store.withPriority group model (some priority)
  else
    .ok (store.withPriority group model ((store.enabledAbilities group model).map (·.priority)).max?)

/-- `Order("weight DESC")`. -/
def orderByWeight (abilities : List Ability) : List Ability :=
  abilities.insertionSort fun a b => b.weight ≤ a.weight

/-- The id of the row drawn; zero stays if none is.  The sum is a uint, which becomes an int. -/
def drawAbility (abilities : List Ability) (seed : Nat) : Except String Int :=
  let weightSum : Nat := (abilities.map fun ability => ability.weight + 10).sum
  (randIntn seed (wrap64 weightSum)).map fun weight =>
    (((stopIndex (fun ability : Ability => wrap64 ↑(ability.weight + 10)) (· ≤ 0) weight abilities).bind
      (abilities[·]?)).map (·.channelId)).getD 0

def getChannel (retry seed : Nat) : Except String (Option Channel) :=
  match store.getChannelQuery group model retry with
  | .error err => .error err
  | .ok rows =>
    let abilities := orderByWeight rows
    if abilities.length > 0 then
      match drawAbility abilities seed with
      | .error panics => .error panics
      | .ok id =>
        match channelById store.channels id with
        | some channel => .ok (some channel)
        | none => .error "record not found"
    else .ok none

end ChannelStore
end NewApi.Routing
