/-
# Routing.Agreement — selection from memory against selection from the database

Where the abilities mirror the channels both selections look at the enabled channels that name the
group and the model (`serving`), at the priority level of the retry counter (`atLevel`).  But the
cache falls back to the name a model is matched under when no channel names the model itself.  And it
draws a channel of weight zero only if no channel of the level has a weight, while the query adds ten
to every weight.
-/
import NewApi.Routing.Selection

namespace NewApi.Routing
open Theory ChannelStore List Ability

/-! ## Mirrored stores -/

/-- A row without its tag, which no selection reads. -/
def Ability.untagged (ability : Ability) : Ability := { ability with tag := none }

/-- The abilities mirror the channels: one row for each group and model of a channel, enabled
if the channel is, with its priority and weight. -/
structure Mirrored (store : ChannelStore) : Prop where
  ids : (store.channels.map (·.id)).Nodup
  keys : (store.abilities.map fun row => (row.group, row.model, row.channelId)).Nodup
  rows : ∀ row, row ∈ store.abilities.map untagged ↔
    ∃ channel ∈ store.channels, ∃ group ∈ channel.groupNames, ∃ model ∈ channel.modelNames,
      row = (channel.ability group model).untagged

def ChannelStore.serving (store : ChannelStore) (group model : String) : List Channel :=
  store.channels.filter fun channel =>
    channel.enabled ∧ group ∈ channel.groupNames ∧ model ∈ channel.modelNames

variable {channel : Channel}

theorem mem_serving {store : ChannelStore} {group model : String} :
    channel ∈ store.serving group model ↔ channel ∈ store.channels ∧ channel.enabled = true ∧
      group ∈ channel.groupNames ∧ model ∈ channel.modelNames := by
  simp [serving]

variable {channels : List Channel}

theorem channelById_of_mem (ids : (channels.map (·.id)).Nodup)
    (member : channel ∈ channels) : channelById channels channel.id = some channel := by
  cases found : channelById channels channel.id with
  | none => exact absurd (find?_eq_none.mp found channel member) (by simp)
  | some other =>
    have same : other.id = channel.id := by simpa using find?_some found
    rw [inj_on_of_nodup_map ids (mem_of_find?_eq_some found) member same]

theorem mem_of_channelById {id : Int}
    (found : channelById channels id = some channel) : channel ∈ channels ∧ channel.id = id :=
  ⟨mem_of_find?_eq_some found, by simpa using find?_some found⟩

section
variable {channels others : List Channel}

variable (same : ∀ channel, channel ∈ channels ↔ channel ∈ others)
include same

theorem mem_atLevel_congr (retry : Nat)
    (channel : Channel) : channel ∈ atLevel channels retry ↔ channel ∈ atLevel others retry := by
  have priorities : ∀ priority, priority ∈ channels.map (·.priority) ↔ priority ∈ others.map (·.priority) := by
    simp [same]
  rw [mem_atLevel, mem_atLevel, levelAt_congr priorities, same]

theorem drawable_congr (channel : Channel) : Drawable channels channel ↔ Drawable others channel := by
  simp [Drawable, same]

end

/-! ## The cache -/

section
variable {store : ChannelStore} {group model name : String} {id : Int} {channels : List Channel}

theorem mem_cacheAppends : (group, model, id) ∈ cacheAppends channels ↔ ∃ channel ∈ channels, channel.enabled = true ∧
      group ∈ channel.groupNames ∧ model ∈ channel.modelNames ∧ channel.id = id := by
  simp only [cacheAppends, mem_flatMap]
  refine exists_congr fun channel => and_congr_right fun _ => ?_
  split
  · rename_i on
    simp [on]
  · rename_i off
    simp [off]

theorem mem_appended : id ∈ appended (cacheAppends channels) group model ↔
      ∃ channel ∈ channels, channel.enabled = true ∧ group ∈ channel.groupNames ∧
        model ∈ channel.modelNames ∧ channel.id = id := by
  rw [← mem_cacheAppends]
  simp only [appended, mem_filterMap]
  constructor
  · rintro ⟨⟨g, m, other⟩, member, kept⟩
    split at kept
    · rename_i named
      obtain ⟨rfl, rfl⟩ := named
      cases kept
      exact member
    · cases kept
  · intro member
    exact ⟨(group, model, id), member, by simp⟩

def cacheOf (store : ChannelStore) : ChannelCache where
  group2model2channels group model :=
    sortByPriority store.channels (appended (cacheAppends store.channels) group model)
  channelsIDM := channelById store.channels

/-- In a mirrored store every group of an enabled channel has its map. -/
theorem initChannelCache_mirrored (mirrored : Mirrored store) : initChannelCache store = some (cacheOf store) := by
  refine if_pos (all_eq_true.mpr ?_)
  rintro ⟨group, model, id⟩ member
  obtain ⟨channel, inside, -, names, lists, -⟩ := mem_cacheAppends.mp member
  obtain ⟨row, listed, same⟩ := mem_map.mp ((mirrored.rows _).mpr ⟨channel, inside, group, names, model, lists, rfl⟩)
  have : row.group = group := congrArg Ability.group same
  simpa using ⟨row, listed, this⟩

theorem mem_listed : id ∈ (cacheOf store).group2model2channels group name ↔
      ∃ channel ∈ store.serving group name, channel.id = id := by
  simp only [cacheOf, sortByPriority, mem_insertionSort, mem_appended, mem_serving]
  constructor
  · rintro ⟨channel, inside, on, names, lists, same⟩
    exact ⟨channel, ⟨inside, on, names, lists⟩, same⟩
  · rintro ⟨channel, ⟨inside, on, names, lists⟩, same⟩
    exact ⟨channel, inside, on, names, lists, same⟩

theorem listed_eq_nil : (cacheOf store).group2model2channels group name = [] ↔ store.serving group name = [] := by
  simp only [eq_nil_iff_forall_not_mem, mem_listed]
  constructor
  · intro none channel member
    exact none channel.id ⟨channel, member, rfl⟩
  · rintro none id ⟨channel, member, -⟩
    exact none channel member

/-- The name a lookup of the cache ends at. -/
def lookupName (store : ChannelStore) (group model : String) : String :=
  if store.serving group model = [] then formatMatchingModelName model else model

theorem channelsFor_cacheOf (group model : String) : (cacheOf store).channelsFor group model =
      (cacheOf store).group2model2channels group (lookupName store group model) := by
  unfold ChannelCache.channelsFor lookupName
  simp only [length_eq_zero_iff, listed_eq_nil]
  split <;> rfl

theorem lookups_cacheOf (mirrored : Mirrored store) (group name : String) :
    ∃ channels, ((cacheOf store).group2model2channels group name).mapM (cacheOf store).channel =
        .ok channels ∧ ∀ channel, channel ∈ channels ↔ channel ∈ store.serving group name := by
  have lookup {channel : Channel} (member : channel ∈ store.serving group name) :
      (cacheOf store).channel channel.id = .ok channel := by
    have found := channelById_of_mem mirrored.ids (mem_serving.mp member).1
    simp [ChannelCache.channel, cacheOf, found]
  obtain ⟨channels, mapped⟩ := mapM_ok_of_forall (by
      intro id listed
      obtain ⟨channel, member, rfl⟩ := mem_listed.mp listed
      exact ⟨channel, lookup member⟩)
  refine ⟨channels, mapped, ?_⟩
  intro channel
  rw [mem_of_mapM_ok mapped]
  constructor
  · rintro ⟨id, listed, found⟩
    obtain ⟨other, member, rfl⟩ := mem_listed.mp listed
    rw [lookup member] at found
    cases found
    exact member
  · intro member
    exact ⟨channel.id, mem_listed.mpr ⟨channel, member, rfl⟩, lookup member⟩

/-- Over all random numbers the cache gives what can be drawn at the level of the name it ends at. -/
theorem cached_choice_iff (mirrored : Mirrored store) (group model : String)
    (light : (cacheOf store).Light group model) (retry : Nat) (channel : Channel) :
    (∃ seed, (cacheOf store).getRandomSatisfiedChannel group model retry seed = .ok (some channel)) ↔
      Drawable (atLevel (store.serving group (lookupName store group model)) retry) channel := by
  obtain ⟨channels, known, members⟩ := lookups_cacheOf mirrored group (lookupName store group model)
  rw [← channelsFor_cacheOf] at known
  rw [← drawable_congr (mem_atLevel_congr members retry)]
  by_cases none : channels = []
  · have empty : (cacheOf store).channelsFor group model = [] := by
      rw [none] at known
      exact length_eq_zero_iff.mp (mapM_ok_length known).symm
    simp [ChannelCache.getRandomSatisfiedChannel_nil empty, none, atLevel, Drawable]
  · exact ChannelCache.getRandomSatisfiedChannel_iff none known (light.atLevel known retry)

end

/-! ## The query -/

section
variable {store : ChannelStore} {group model : String}

/-- The rows of a group and model stand for the channels that serve them. -/
structure Stands (rows : List Ability) (channels : List Channel) : Prop where
  row : ∀ channel ∈ channels, ∃ row ∈ rows, row.channelId = channel.id ∧
    row.priority = channel.priority
  channel : ∀ row ∈ rows, ∃ channel ∈ channels, row.channelId = channel.id ∧
    row.priority = channel.priority

theorem enabledAbilities_stands (mirrored : Mirrored store) :
    Stands (store.enabledAbilities group model) (store.serving group model) := by
  constructor
  · intro channel member
    obtain ⟨inside, on, names, lists⟩ := mem_serving.mp member
    obtain ⟨row, listed, same⟩ := mem_map.mp ((mirrored.rows _).mpr ⟨channel, inside, group, names, model, lists, rfl⟩)
    have groups : row.group = group := congrArg Ability.group same
    have models : row.model = model := congrArg Ability.model same
    have enabled : row.enabled = channel.enabled := congrArg enabled same
    refine ⟨row, ?_, congrArg channelId same, congrArg priority same⟩
    simp [enabledAbilities, listed, groups, models, enabled, on]
  · intro row member
    simp only [enabledAbilities, mem_filter, decide_eq_true_eq] at member
    obtain ⟨listed, rfl, rfl, on⟩ := member
    obtain ⟨channel, inside, group, names, model, lists, same⟩ := (mirrored.rows _).mp (mem_map_of_mem listed)
    have groups : row.group = group := congrArg Ability.group same
    have models : row.model = model := congrArg Ability.model same
    have enabled : row.enabled = channel.enabled := congrArg enabled same
    refine ⟨channel, ?_, congrArg channelId same, congrArg priority same⟩
    rw [mem_serving, groups, models, ← enabled]
    exact ⟨inside, on, names, lists⟩

variable {rows : List Ability}

theorem Stands.levelAt_eq {channels : List Channel} (stands : Stands rows channels) (retry : Nat) :
    levelAt (rows.map (·.priority)) retry = levelAt (channels.map (·.priority)) retry := by
  refine levelAt_congr (fun priority => ?_) retry
  simp only [mem_map]
  constructor
  · rintro ⟨row, member, rfl⟩
    obtain ⟨channel, inside, -, same⟩ := stands.channel row member
    exact ⟨channel, inside, same.symm⟩
  · rintro ⟨channel, member, rfl⟩
    obtain ⟨row, inside, -, same⟩ := stands.row channel member
    exact ⟨row, inside, same⟩

/-- The rows the query selects: those of the level, if there are any rows. -/
theorem getChannelQuery_eq (store : ChannelStore) (group model : String) (retry : Nat) :
    (∃ err, store.getChannelQuery group model retry = .error err ∧ store.enabledAbilities group model = []) ∨
    store.getChannelQuery group model retry = .ok (store.withPriority group model
      (levelAt ((store.enabledAbilities group model).map (·.priority)) retry)) := by
  unfold getChannelQuery
  by_cases first : retry = 0
  · have greatest : ((store.enabledAbilities group model).map (·.priority)).max? =
        levelAt ((store.enabledAbilities group model).map (·.priority)) 0 := by
      ext priority
      rw [levelAt_zero, max?_eq_some_iff]
    rw [if_neg (not_not.mpr first), first, greatest]
    exact .inr rfl
  · rw [if_pos first]
    unfold getPriority
    cases level : levelAt ((store.enabledAbilities group model).map (·.priority)) retry with
    | some priority => exact .inr rfl
    | none =>
      refine .inl ⟨_, rfl, ?_⟩
      by_contra rows
      have some : (store.enabledAbilities group model).map (·.priority) ≠ [] := by simpa using rows
      have := levelAt_isSome some retry
      rw [level] at this
      cases this

/-- The weights of the enabled rows, each with ten added, are no more than an int64. -/
def ChannelStore.Light (store : ChannelStore) (group model : String) : Prop :=
  ((store.enabledAbilities group model).map fun row => row.weight + 10).sum < 2 ^ 63
deriving Decidable

section
variable (some : rows ≠ []) (light : (rows.map fun row => row.weight + 10).sum < 2 ^ 63)
include some light

/-- Without overflow the draw is the one by the weights plus ten. -/
theorem drawAbility_eq (seed : Nat) : ∃ row, drawAbility rows seed = .ok row.channelId ∧
    draw (fun row : Ability => row.weight + 10) (· ≤ 0)
      (seed % (rows.map fun row => row.weight + 10).sum : Nat) rows = .some row := by
  have total : 0 < (rows.map fun row => row.weight + 10).sum := by
    obtain ⟨row, member⟩ := exists_mem_of_ne_nil rows some
    exact List.sum_pos_iff_exists_pos_nat.mpr ⟨_, List.mem_map_of_mem member, by omega⟩
  have below := Nat.mod_lt seed total
  have words : ∀ row ∈ rows, wrap64 ↑(row.weight + 10) = ↑(row.weight + 10) ∧ row.weight + 10 < 2 ^ 63 := by
    intro row member
    have part : row.weight + 10 ≤ (rows.map fun row => row.weight + 10).sum :=
      List.le_sum_of_mem (mem_map_of_mem (f := fun row : Ability => row.weight + 10) member)
    exact ⟨wrap64_natCast (part.trans_lt light), part.trans_lt light⟩
  obtain ⟨row, drawn⟩ := exists_draw_nonpos (fun row : Ability => row.weight + 10) rows _ below
  refine ⟨row, ?_, drawn⟩
  rw [draw_eq_getElem?] at drawn
  simp only [drawAbility]
  rw [wrap64_natCast light, randIntn_natCast seed total, Except.map,
    stopIndex_eq words (fun n negative => by simpa using negative.le) (Int.natCast_nonneg _)
      (by exact_mod_cast below.trans light), drawn]
  rfl

theorem drawAbility_iff (id : Int) :
    (∃ seed, drawAbility rows seed = .ok id) ↔ ∃ row ∈ rows, row.channelId = id := by
  have heavy : ∀ row ∈ rows, 2 ≤ row.weight + 10 := by
    intro row _
    omega
  constructor
  · rintro ⟨seed, chosen⟩
    obtain ⟨row, same, drawn⟩ := drawAbility_eq some light seed
    exact ⟨row, mem_of_draw drawn, Except.ok.inj (same.symm.trans chosen)⟩
  · rintro ⟨row, member, rfl⟩
    obtain ⟨value, -, below, found⟩ := draw_nonpos_reaches (fun row : Ability => row.weight + 10) heavy member
    obtain ⟨other, same, drawn⟩ := drawAbility_eq some light value
    rw [Nat.mod_eq_of_lt below, found] at drawn
    cases drawn
    exact ⟨value, same⟩

end

/-- The rows of the level stand for the channels of the level. -/
theorem mem_withPriority_iff (mirrored : Mirrored store) (retry : Nat) (inside : channel ∈ store.channels) :
    (∃ row ∈ store.withPriority group model (levelAt ((store.enabledAbilities group model).map (·.priority)) retry),
      row.channelId = channel.id) ↔ channel ∈ atLevel (store.serving group model) retry := by
  have stands : Stands (store.enabledAbilities group model) (store.serving group model) :=
    enabledAbilities_stands mirrored
  simp only [withPriority, mem_filter, decide_eq_true_eq, mem_atLevel, stands.levelAt_eq]
  constructor
  · rintro ⟨row, ⟨listed, level⟩, same⟩
    obtain ⟨other, serves, id, priority⟩ := stands.channel row listed
    obtain rfl : other = channel :=
      inj_on_of_nodup_map mirrored.ids (mem_serving.mp serves).1 inside (id.symm.trans same)
    exact ⟨serves, by rw [← level, priority]⟩
  · rintro ⟨serves, level⟩
    obtain ⟨row, listed, id, priority⟩ := stands.row channel serves
    exact ⟨row, ⟨listed, by rw [level, priority]⟩, id⟩

/-- Over all random numbers the query gives every channel of the level. -/
theorem database_choice_iff (mirrored : Mirrored store) (light : store.Light group model) (retry : Nat)
    (channel : Channel) :
    (∃ seed, store.getChannel group model retry seed = .ok (some channel)) ↔
      channel ∈ atLevel (store.serving group model) retry := by
  have stands : Stands (store.enabledAbilities group model) (store.serving group model) :=
    enabledAbilities_stands mirrored
  have served : channel ∈ atLevel (store.serving group model) retry → channel ∈ store.channels :=
    fun member => (mem_serving.mp (mem_atLevel.mp member).1).1
  unfold ChannelStore.getChannel
  obtain ⟨err, failed, empty⟩ | selected := getChannelQuery_eq store group model retry
  · rw [failed]
    simp only [reduceCtorEq, exists_const, false_iff]
    intro member
    obtain ⟨row, listed, -⟩ := stands.row channel (mem_atLevel.mp member).1
    rw [empty] at listed
    cases listed
  · rw [selected]
    generalize level : store.withPriority group model
      (levelAt ((store.enabledAbilities group model).map (·.priority)) retry) = rows
    have members : channel ∈ store.channels → ((∃ row ∈ orderByWeight rows,
        row.channelId = channel.id) ↔ channel ∈ atLevel (store.serving group model) retry) := by
      intro inside
      rw [← mem_withPriority_iff mirrored retry inside, level]
      simp [orderByWeight]
    have lightRows : ((orderByWeight rows).map fun row => row.weight + 10).sum < 2 ^ 63 := by
      unfold orderByWeight
      rw [((perm_insertionSort _ rows).map _).sum_eq, ← level]
      exact ((filter_sublist.map _).sum_le_sum fun _ _ => Nat.zero_le _).trans_lt light
    by_cases none : orderByWeight rows = []
    · simp only [none, length_nil, lt_irrefl, if_false]
      simp only [Except.ok.injEq, reduceCtorEq, exists_const, false_iff]
      intro member
      obtain ⟨row, listed, -⟩ := (members (served member)).mpr member
      rw [none] at listed
      cases listed
    · simp only [length_pos_iff.mpr none, if_true]
      constructor
      · rintro ⟨seed, found⟩
        split at found
        · cases found
        · rename_i id drawn
          split at found
          · rename_i other loaded
            cases found
            obtain ⟨inside, rfl⟩ := mem_of_channelById loaded
            exact (members inside).mp ((drawAbility_iff none lightRows _).mp ⟨seed, drawn⟩)
          · cases found
      · intro member
        have inside := served member
        obtain ⟨seed, drawn⟩ := (drawAbility_iff none lightRows channel.id).mpr ((members inside).mpr member)
        exact ⟨seed, by simp only [drawn, channelById_of_mem mirrored.ids inside]⟩

end

/-! ## Agreement -/

/-- Both selections can give the same channels, and one finds none iff the other does. -/
def SelectionsAgree (cache : ChannelCache) (store : ChannelStore) (group model : String) (retry : Nat) : Prop :=
  (∀ channel, (∃ seed, cache.getRandomSatisfiedChannel group model retry seed =
      .ok (some channel)) ↔ ∃ seed, store.getChannel group model retry seed = .ok (some channel)) ∧
  ((∀ seed channel, cache.getRandomSatisfiedChannel group model retry seed ≠ .ok (some channel)) ↔
    ∀ seed channel, store.getChannel group model retry seed ≠ .ok (some channel))

/-- Some channel names the model, or none names the name it is matched under; and at the level
of the retry counter no channel has weight zero unless all have. -/
def Undistorted (store : ChannelStore) (group model : String) (retry : Nat) : Prop :=
  (store.serving group model ≠ [] ∨ store.serving group (formatMatchingModelName model) = []) ∧
  ∀ a ∈ atLevel (store.serving group model) retry,
    ∀ b ∈ atLevel (store.serving group model) retry, a.weight = 0 → b.weight = 0

variable {targets : List Channel}

theorem drawable_all_iff : (∀ channel, Drawable targets channel ↔ channel ∈ targets) ↔
      ∀ a ∈ targets, ∀ b ∈ targets, a.weight = 0 → b.weight = 0 := by
  constructor
  · intro all a first b second weightless
    obtain ⟨-, weighted | none⟩ := (all a).mpr first
    · omega
    · exact none b second
  · intro level channel
    constructor
    · exact And.left
    · intro member
      refine ⟨member, ?_⟩
      by_cases weightless : channel.weight = 0
      · exact .inr fun other inside => level channel member other inside weightless
      · exact .inl (Nat.pos_of_ne_zero weightless)

theorem exists_drawable (some : targets ≠ []) : ∃ channel, Drawable targets channel := by
  by_cases weightless : ∀ channel ∈ targets, channel.weight = 0
  · obtain ⟨channel, member⟩ := exists_mem_of_ne_nil targets some
    exact ⟨channel, member, .inr weightless⟩
  · simp only [not_forall] at weightless
    obtain ⟨channel, member, weight⟩ := weightless
    exact ⟨channel, member, .inl (Nat.pos_of_ne_zero weight)⟩

def weighted (id : Int) (models : String) (weight : Nat) : Channel := { plainChannel id 0 with models, weight }

def storeOf (channels : List Channel) : ChannelStore where
  channels := channels
  abilities := channels.flatMap fun channel =>
    channel.groupNames.flatMap fun group => channel.modelNames.map (channel.ability group)

theorem mirrored_storeOf (ids : (channels.map (·.id)).Nodup)
    (keys : ((storeOf channels).abilities.map fun row => (row.group, row.model, row.channelId)).Nodup) :
    Mirrored (storeOf channels) where
  ids := ids
  keys := keys
  rows row := by
    simp only [storeOf, mem_map, mem_flatMap]
    constructor
    · rintro ⟨_, ⟨channel, inside, group, names, model, lists, rfl⟩, rfl⟩
      exact ⟨channel, inside, group, names, model, lists, rfl⟩
    · rintro ⟨channel, inside, group, names, model, lists, rfl⟩
      exact ⟨_, ⟨channel, inside, group, names, model, lists, rfl⟩, rfl⟩

end NewApi.Routing
