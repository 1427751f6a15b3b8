/-
# Routing.Channel — channels, abilities and their two tables

`model/channel.go` and `model/ability.go`.  The groups and models of a channel are comma-separated
texts; `abilities` holds one row for each group and model of a channel.  `Priority` and `Weight` are
pointers whose columns default to zero: the tables hold numbers here, and an operation takes an
`Option`.
-/
import NewApi.Theory.Text

namespace NewApi.Routing
open Theory

/-- What `ChannelInfo` keeps of a channel with several keys: their number and the status of those
that were disabled, by index.  `details` stands for its other fields, empty if they are zero. -/
structure ChannelInfo where
  isMultiKey : Bool
  multiKeySize : Nat
  multiKeyStatusList : List (Nat × Int)
  details : String
deriving DecidableEq

def ChannelInfo.zero : ChannelInfo := ⟨false, 0, [], ""⟩

structure Channel where
  id : Int
  key : String
  status : Int
  models : String
  group : String
  priority : Int
  weight : Nat
  tag : Option String
  modelMapping : Option String
  paramOverride : Option String
  headerOverride : Option String
  channelInfo : ChannelInfo
deriving DecidableEq

def channelStatusEnabled : Int := 1
def channelStatusManuallyDisabled : Int := 2
def channelStatusAutoDisabled : Int := 3

variable (channel : Channel)

def Channel.modelNames : List String := Text.split channel.models ","

def Channel.groupNames : List String := Text.split channel.group ","

def Channel.enabled : Bool := channel.status = channelStatusEnabled

structure Ability where
  group : String
  model : String
  channelId : Int
  enabled : Bool
  priority : Int
  weight : Nat
  tag : Option String
deriving DecidableEq

def Channel.ability (group model : String) : Ability where
  group := group
  model := model
  channelId := channel.id
  enabled := channel.enabled
  priority := channel.priority
  weight := channel.weight
  tag := channel.tag

def plainChannel (id priority : Int) : Channel where
  id := id
  key := "key"
  status := channelStatusEnabled
  models := "m"
  group := "a"
  priority := priority
  weight := 0
  tag := none
  modelMapping := none
  paramOverride := none
  headerOverride := none
  channelInfo := .zero

/-- The tables `channels` and `abilities`, each in the order a query without `ORDER BY` walks
it. -/
structure ChannelStore where
  channels : List Channel
  abilities : List Ability
deriving DecidableEq

/-- `rand.Intn`, for the next number of the random source; the error is its panic. -/
def randIntn (seed : Nat) (bound : Int) : Except String Int :=
  if bound ≤ 0 then .error "invalid argument to Intn" else .ok (seed % bound)

theorem randIntn_natCast (seed : Nat) {bound : Nat} (positive : 0 < bound) :
    randIntn seed bound = .ok (seed % bound : Nat) := by
  rw [randIntn, if_neg (by omega), Int.natCast_emod]

end NewApi.Routing
