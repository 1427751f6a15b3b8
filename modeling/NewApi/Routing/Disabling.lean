/-
# Routing.Disabling — what the cache still lists of a disabled channel

`CacheUpdateChannelStatus` takes one entry of a disabled channel from each list of the cache.
`InitChannelCache` enters a channel once for each time its texts name the group and the model, so a
text that repeats a name leaves an entry behind.
-/
import NewApi.Routing.Agreement
import Mathlib.Algebra.Order.Group.Nat
import Mathlib.Data.List.Count

namespace NewApi.Routing
open Theory List Nat ChannelCache

namespace ChannelCache

variable {cache : ChannelCache} {group model : String} {id : Int}

def updates (cache : ChannelCache) (calls : List (Int × Int)) : ChannelCache :=
  calls.foldl (fun cache call => cache.cacheUpdateChannelStatus call.1 call.2) cache

/-- The ids the calls take out, in their order. -/
def takenOut (calls : List (Int × Int)) : List Int :=
  (calls.filter fun call => call.2 ≠ channelStatusEnabled).map (·.1)

theorem updates_listed (calls : List (Int × Int)) : (cache.updates calls).group2model2channels group model =
      (cache.group2model2channels group model).diff (takenOut calls) := by
  induction calls generalizing cache with
  | nil => rfl
  | cons call calls step =>
    rw [updates, foldl_cons, ← updates, step]
    by_cases off : call.2 = channelStatusEnabled <;> simp [takenOut, cacheUpdateChannelStatus, off]

/-- The calls change nothing of a channel but its status. -/
theorem updates_kept {β : Type} (f : Channel → β) (kept : ∀ channel status, f { channel with status } = f channel)
    (cache : ChannelCache) (id : Int) (calls : List (Int × Int)) :
    ((cache.updates calls).channelsIDM id).map f = (cache.channelsIDM id).map f := by
  induction calls generalizing cache with
  | nil => rfl
  | cons call calls step =>
    rw [updates, foldl_cons, ← updates, step]
    by_cases same : id = call.1
    · subst same
      simp [cacheUpdateChannelStatus, Function.comp_def, kept]
    · simp [cacheUpdateChannelStatus, same]

theorem Light.updates {calls : List (Int × Int)} (light : cache.Light group model)
    (left : (cache.updates calls).group2model2channels group model ≠ []) : (cache.updates calls).Light group model := by
  have fewer : ((cache.updates calls).group2model2channels group model).Sublist
      (cache.group2model2channels group model) := by
    rw [updates_listed]
    exact diff_sublist _ _
  have before : cache.group2model2channels group model ≠ [] := fun none => left (eq_nil_of_sublist_nil (none ▸ fewer))
  unfold Light channelsFor at light ⊢
  rw [if_neg (length_pos_iff.mpr before).ne'] at light
  rw [if_neg (length_pos_iff.mpr left).ne']
  simp only [updates_kept (·.weight) fun _ _ => rfl]
  exact ((fewer.map _).sum_le_sum fun _ _ => Nat.zero_le _).trans_lt light

theorem filter_diff {p : Int → Bool} {listed taken : List Int} (out : ∀ id ∈ taken, ¬p id) :
    (listed.diff taken).filter p = listed.filter p := by
  induction taken generalizing listed with
  | nil => simp
  | cons id taken step =>
    rw [diff_cons, step fun other inside => out other (mem_cons_of_mem _ inside), ← erase_filter, erase_of_not_mem]
    simp [out id]

/-! ## Selection and the lists -/

/-- No selection returns the channel. -/
def Unserved (cache : ChannelCache) (id : Int) : Prop :=
  ∀ group model retry seed channel,
    cache.getRandomSatisfiedChannel group model retry seed = .ok (some channel) → channel.id ≠ id

def Indexed (cache : ChannelCache) : Prop := ∀ id channel, cache.channelsIDM id = some channel → channel.id = id

variable (indexed : cache.Indexed)
include indexed

theorem Indexed.updates (calls : List (Int × Int)) : (cache.updates calls).Indexed := by
  intro id channel found
  have same := updates_kept (·.id) (fun _ _ => rfl) cache id calls
  cases before : cache.channelsIDM id with
  | none => simp [found, before] at same
  | some old =>
    rw [← indexed id old before]
    simpa [found, before] using same

theorem Indexed.listed {retry seed : Nat} {channel : Channel}
    (selected : cache.getRandomSatisfiedChannel group model retry seed = .ok (some channel)) :
    channel.id ∈ cache.channelsFor group model := by
  obtain ⟨channels, known, inside, -⟩ := ok_of_getRandomSatisfiedChannel selected
  obtain ⟨id, listed, found⟩ := (mem_of_mapM_ok known channel).mp inside
  cases entry : cache.channelsIDM id with
  | none => simp [ChannelCache.channel, entry] at found
  | some other =>
    obtain rfl : other = channel := by simpa [ChannelCache.channel, entry] using found
    rwa [indexed id other entry]

theorem Indexed.unserved (absent : ∀ group model, id ∉ cache.group2model2channels group model) : cache.Unserved id := by
  rintro group model retry seed channel selected rfl
  have listed := indexed.listed selected
  unfold channelsFor at listed
  split at listed
  · exact absent _ _ listed
  · exact absent _ _ listed

/-- A list that holds nothing else is selected from. -/
theorem Indexed.served (known : (cache.channelsIDM id).isSome) (listed : id ∈ cache.group2model2channels group model)
    (only : ∀ other ∈ cache.group2model2channels group model, other = id) (light : cache.Light group model) :
    ¬cache.Unserved id := by
  have lookup : cache.channelsFor group model = cache.group2model2channels group model :=
    if_neg (length_pos_of_mem listed).ne'
  have serves : cache.Serves group model := by
    refine ⟨by rw [lookup]; exact ne_nil_of_mem listed, ?_, light⟩
    intro other inside
    rw [lookup] at inside
    rwa [only other inside]
  obtain ⟨channel, selected⟩ := serves.finds 0 0
  have inside := indexed.listed selected
  rw [lookup] at inside
  exact fun unserved => unserved _ _ _ _ _ selected (only _ inside)

section
variable {status : Int} (off : status ≠ channelStatusEnabled)
include off

omit indexed in
theorem takenOut_cons (calls : List (Int × Int)) : takenOut ((id, status) :: calls) = id :: takenOut calls := by
  simp [takenOut, off]

theorem unserved_of_once (once : ∀ group model, (cache.group2model2channels group model).count id ≤ 1)
    (calls : List (Int × Int)) : (cache.updates ((id, status) :: calls)).Unserved id := by
  refine (indexed.updates _).unserved fun group model => ?_
  rw [updates_listed, takenOut_cons off, ← count_eq_zero, count_diff, count_cons_self]
  have := once group model
  omega

/-- Of two entries one is left, and the calls can disable all other channels of its list. -/
theorem once_of_unserved (light : cache.Light group model) (known : (cache.channelsIDM id).isSome)
    (unserved : ∀ calls : List (Int × Int), (∀ call ∈ calls, call.1 ≠ id) →
      (cache.updates ((id, status) :: calls)).Unserved id) :
    (cache.group2model2channels group model).count id ≤ 1 := by
  by_contra! twice
  let listed := cache.group2model2channels group model
  let calls := (listed.filter (· ≠ id)).map fun other => (other, channelStatusAutoDisabled)
  have after : (cache.updates ((id, status) :: calls)).group2model2channels group model =
      listed.diff (id :: listed.filter (· ≠ id)) := by
    rw [updates_listed, takenOut_cons off]
    simp [calls, takenOut, filter_map, Function.comp_def, listed, channelStatusAutoDisabled, channelStatusEnabled]
  have entries (other : Int) := count_diff other listed (id :: listed.filter (· ≠ id))
  have others : ∀ call ∈ calls, call.1 ≠ id := by
    intro call inside
    obtain ⟨other, kept, rfl⟩ := mem_map.mp inside
    simpa using (mem_filter.mp kept).2
  have stays : ((cache.updates ((id, status) :: calls)).channelsIDM id).isSome := by
    have same := congrArg Option.isSome (updates_kept (·.id) (fun _ _ => rfl) cache id ((id, status) :: calls))
    simpa only [Option.isSome_map, known] using same
  have left : id ∈ (cache.updates ((id, status) :: calls)).group2model2channels group model := by
    have apart : (listed.filter (· ≠ id)).count id = 0 := by simp [count_eq_zero]
    rw [after, ← count_pos_iff, entries, count_cons_self, apart]
    exact Nat.sub_pos_of_lt twice
  refine (indexed.updates _).served stays left ?_ (light.updates (ne_nil_of_mem left)) (unserved calls others)
  intro other inside
  rw [after, ← count_pos_iff, entries] at inside
  by_contra different
  rw [count_cons_of_ne (Ne.symm different), count_filter (by simpa)] at inside
  omega

end

end ChannelCache

/-! ## The lists `InitChannelCache` builds -/

section
variable {store : ChannelStore} {id : Int}

theorem initChannelCache_iff {cache : ChannelCache} : initChannelCache store = some cache ↔
      ((cacheAppends store.channels).all fun entry => entry.1 ∈ store.abilities.map (·.group)) ∧
        cacheOf store = cache := by
  exact Option.ite_none_right_eq_some.trans (by rw [Option.some_inj]; rfl)

/-- A channel is listed once for each time it names the group and the model. -/
theorem count_listed (group model : String) : ((cacheOf store).group2model2channels group model).count id =
      (store.channels.map fun channel => if channel.enabled = true ∧ channel.id = id then
        channel.groupNames.count group * channel.modelNames.count model else 0).sum := by
  have entries (channel : Channel) (groups : List String) :
      (groups.flatMap fun group => channel.modelNames.map fun model =>
        (group, model, channel.id)).countP (fun entry => (if entry.1 = group ∧ entry.2.1 = model
          then some entry.2.2 else none) == some id) =
        if channel.id = id then groups.count group * channel.modelNames.count model else 0 := by
    have entered (name : String) : ((if name = model then some id else none) == some id) = (name == model) := by
      by_cases named : name = model <;> simp [named]
    induction groups with
    | nil => simp
    | cons first groups step =>
      rw [flatMap_cons, countP_append, step, countP_map]
      by_cases same : channel.id = id <;> by_cases named : first = group <;>
        simp [Function.comp_def, same, named, entered, List.count, add_comm, one_add_mul]
  simp only [cacheOf, sortByPriority, (perm_insertionSort _ _).count_eq, appended,
    cacheAppends, count_filterMap, countP_flatMap]
  congr 2
  funext channel
  by_cases on : channel.enabled <;> simp [on, entries]

theorem sum_le_one {channels : List Channel} {f : Channel → Nat}
    (ids : (channels.map (·.id)).Nodup) (others : ∀ channel, channel.id ≠ id → f channel = 0)
    (each : ∀ channel ∈ channels, f channel ≤ 1) : (channels.map f).sum ≤ 1 := by
  induction channels with
  | nil => simp
  | cons channel channels step =>
    obtain ⟨apart, ids⟩ := nodup_cons.mp ids
    rw [map_cons, sum_cons]
    by_cases same : channel.id = id
    · have none : (channels.map f).sum = 0 := by
        refine sum_eq_zero fun count inside => ?_
        obtain ⟨other, member, rfl⟩ := mem_map.mp inside
        exact others other fun again =>
          apart (mem_map.mpr ⟨other, member, again.trans same.symm⟩)
      have := each channel mem_cons_self
      omega
    · have := step ids fun other inside => each other (mem_cons_of_mem _ inside)
      have := others channel same
      omega

/-- Every list has the channel at most once exactly if an enabled channel repeats no name. -/
theorem listed_once_iff (ids : (store.channels.map (·.id)).Nodup) :
    (∀ group model, ((cacheOf store).group2model2channels group model).count id ≤ 1) ↔
      ∀ channel ∈ store.channels, channel.id = id → channel.enabled = true →
        channel.groupNames.Nodup ∧ channel.modelNames.Nodup := by
  simp only [count_listed, nodup_iff_count_le_one]
  constructor
  · intro once channel inside same on
    have product (group model : String) : channel.groupNames.count group * channel.modelNames.count model ≤ 1 := by
      refine le_trans ?_ (once group model)
      exact le_sum_of_mem (mem_map.mpr ⟨channel, inside, by simp [same, on]⟩)
    obtain ⟨group, named⟩ := exists_mem_of_ne_nil _ (Text.split_ne_nil channel.group ",")
    obtain ⟨model, listed⟩ := exists_mem_of_ne_nil _ (Text.split_ne_nil channel.models ",")
    exact ⟨fun other => (Nat.le_mul_of_pos_right _ (count_pos_iff.mpr listed)).trans (product other model),
      fun other => (Nat.le_mul_of_pos_left _ (count_pos_iff.mpr named)).trans (product group other)⟩
  · intro single group model
    refine sum_le_one ids (fun channel (other : channel.id ≠ id) => by simp [other])
      fun channel inside => ?_
    split
    · rename_i enabled
      obtain ⟨groups, models⟩ := single channel inside enabled.2 enabled.1
      exact Nat.mul_le_mul (groups group) (models model)
    · exact zero_le 1

end

/-- After a channel was disabled in the cache, and with any calls for other channels, no selection
returns it if its texts repeat no name, and, while no sum of weights overflows, only then; and no call
moves the entries of another channel. -/
theorem disabled_unserved_iff (store : ChannelStore) (ids : (store.channels.map (·.id)).Nodup)
    (cache : ChannelCache) (built : initChannelCache store = some cache) (id status : Int)
    (off : status ≠ channelStatusEnabled) :
    let unserved := ∀ calls : List (Int × Int), (∀ call ∈ calls, call.1 ≠ id) →
      (cache.updates ((id, status) :: calls)).Unserved id
    let namesOnce := ∀ channel ∈ store.channels, channel.id = id → channel.enabled = true →
      channel.groupNames.Nodup ∧ channel.modelNames.Nodup
    (∀ calls group model,
      ((cache.updates calls).group2model2channels group model).filter (· ∉ calls.map (·.1)) =
        (cache.group2model2channels group model).filter (· ∉ calls.map (·.1))) ∧
    (namesOnce → unserved) ∧ ((∀ group model, cache.Light group model) → (unserved ↔ namesOnce)) := by
  intro unserved namesOnce
  obtain ⟨-, rfl⟩ := initChannelCache_iff.mp built
  have indexed : (cacheOf store).Indexed := fun id channel found => (mem_of_channelById found).2
  have enough : namesOnce → unserved := fun once calls _ =>
    unserved_of_once indexed off ((listed_once_iff ids).mpr once) calls
  refine ⟨fun calls group model => ?_, enough, fun light => ⟨fun never => ?_, enough⟩⟩
  · rw [updates_listed, filter_diff]
    intro other taken
    obtain ⟨call, inside, rfl⟩ := mem_map.mp taken
    simpa using ⟨call.2, (mem_filter.mp inside).1⟩
  · refine (listed_once_iff ids).mp fun group model => ?_
    by_cases listed : id ∈ (cacheOf store).group2model2channels group model
    · obtain ⟨channel, member, rfl⟩ := mem_listed.mp listed
      refine once_of_unserved indexed off (light group model) ?_ never
      simp [cacheOf, channelById_of_mem ids (mem_serving.mp member).1]
    · simp [count_eq_zero.mpr listed]

/-- A channel of the group `a`, named twice or once. -/
def grouped (group : String) : ChannelStore where
  channels := [{ plainChannel 1 0 with group }]
  abilities := [(plainChannel 1 0).ability "a" "m"]

theorem single_group_unserved : ∃ cache, initChannelCache (grouped "a") = some cache ∧
      ∀ calls : List (Int × Int), (∀ call ∈ calls, call.1 ≠ 1) →
        (cache.updates ((1, channelStatusAutoDisabled) :: calls)).Unserved 1 := by
  have built : initChannelCache (grouped "a") = _ := initChannelCache_iff.mpr ⟨by decide +kernel, rfl⟩
  exact ⟨_, built, (disabled_unserved_iff (grouped "a") (by decide) _ built 1 _ (by decide)).2.1 (by decide +kernel)⟩

theorem repeated_group_served : ∃ cache channel, initChannelCache (grouped "a,a") = some cache ∧ channel.id = 1 ∧
      (cache.updates [(1, channelStatusAutoDisabled)]).getRandomSatisfiedChannel "a" "m" 0 0 = .ok (some channel) :=
  ⟨_, { plainChannel 1 0 with group := "a,a", status := channelStatusAutoDisabled },
    initChannelCache_iff.mpr ⟨by decide +kernel, rfl⟩, rfl, by decide +kernel⟩

end NewApi.Routing
