/-
# Routing.Repair — the abilities table made anew

`FixAbility` of `model/ability.go` empties the table and fills it again, 50 channels at a time.  No
store call fails and no other repair runs, so `failCount` stays zero and is left out.  Without any
channel the function returns before the cache is built again.
-/
import Mathlib.Data.List.SplitLengths
import NewApi.Routing.Abilities

namespace NewApi.Routing
open Theory List Channel ChannelStore

/-- One round of the loop, with its `successCount`. -/
def fixChunk (state : ChannelStore × Nat) (chunk : List Channel) : ChannelStore × Nat :=
  let kept := state.1.abilities.filter fun row => row.channelId ∉ chunk.map (·.id)
  chunk.foldl (fun state channel => (state.1.addAbilities channel, state.2 + 1))
    ({ state.1 with abilities := kept }, state.2)

/-- The tables, the cache (`none` is the panic of `InitChannelCache`) and `successCount`. -/
def fixAbility (store : ChannelStore) (cache : ChannelCache) : ChannelStore × Option ChannelCache × Nat :=
  let emptied : ChannelStore := { store with abilities := [] }
  if store.channels = [] then (emptied, some cache, 0)
  else
    let chunks := (replicate ((store.channels.length + 49) / 50) 50).splitLengths store.channels
    let fixed := chunks.foldl fixChunk (emptied, 0)
    (fixed.1, initChannelCache fixed.1, fixed.2)

variable {store : ChannelStore} {old : ChannelCache} {before chunk : List Channel} {row : Ability} {channel : Channel}
  {n : Nat}

/-- A channel that is still to come has no row yet. -/
theorem channelId_ne_of_later (ids : ((before ++ chunk).map (·.id)).Nodup) (there : row ∈ before.flatMap newAbilities)
    (later : channel ∈ chunk) : row.channelId ≠ channel.id := by
  obtain ⟨other, inside, own⟩ := mem_flatMap.mp there
  rw [map_append, nodup_append] at ids
  rw [channelId_newAbilities own]
  exact ids.2.2 _ (mem_map_of_mem inside) _ (mem_map_of_mem later)

theorem foldl_addAbilities (ids : ((before ++ chunk).map (·.id)).Nodup)
    (rows : store.abilities = before.flatMap newAbilities) :
    chunk.foldl (fun state channel => (state.1.addAbilities channel, state.2 + 1)) (store, n) =
      ({ store with abilities := (before ++ chunk).flatMap newAbilities }, n + chunk.length) := by
  induction chunk generalizing before store n with
  | nil => simp [← rows]
  | cons channel rest step =>
    have new : ∀ row ∈ store.abilities, row.channelId ≠ channel.id :=
      fun row there => channelId_ne_of_later ids (rows ▸ there) mem_cons_self
    rw [append_cons] at ids ⊢
    rw [foldl_cons, addAbilities_eq new, step ids (by simp [rows]), length_cons, Nat.add_assoc, Nat.add_comm 1]

theorem fixChunk_eq (ids : ((before ++ chunk).map (·.id)).Nodup)
    (rows : store.abilities = before.flatMap newAbilities) :
    fixChunk (store, n) chunk =
      ({ store with abilities := (before ++ chunk).flatMap newAbilities }, n + chunk.length) := by
  have kept : store.abilities.filter (fun row => row.channelId ∉ chunk.map (·.id)) = store.abilities := by
    refine filter_eq_self.mpr fun row there => decide_eq_true fun listed => ?_
    obtain ⟨channel, later, same⟩ := mem_map.mp listed
    exact channelId_ne_of_later ids (rows ▸ there) later same.symm
  simp only [fixChunk, kept, foldl_addAbilities ids rows]

theorem foldl_fixChunk {chunks : List (List Channel)} (ids : ((before ++ chunks.flatten).map (·.id)).Nodup)
    (rows : store.abilities = before.flatMap newAbilities) :
    chunks.foldl fixChunk (store, n) =
      ({ store with abilities := (before ++ chunks.flatten).flatMap newAbilities }, n + chunks.flatten.length) := by
  induction chunks generalizing before store n with
  | nil => simp [← rows]
  | cons chunk rest step =>
    rw [flatten_cons, ← append_assoc] at ids ⊢
    rw [foldl_cons, fixChunk_eq (ids.sublist ((sublist_append_left _ _).map _)) rows, step ids rfl, length_append,
      Nat.add_assoc]

theorem fixAbility_eq (old : ChannelCache) (ids : (store.channels.map (·.id)).Nodup) :
    (fixAbility store old).1 = { store with abilities := store.channels.flatMap newAbilities } ∧
      (fixAbility store old).2.2 = store.channels.length := by
  unfold fixAbility
  split
  · rename_i none
    simp [none]
  have whole : ((replicate ((store.channels.length + 49) / 50) 50).splitLengths store.channels).flatten =
      store.channels := by
    apply flatten_splitLengths
    rw [sum_replicate_nat]
    omega
  have rows : ({ store with abilities := [] } : ChannelStore).abilities = flatMap newAbilities [] := rfl
  simp only [foldl_fixChunk (by rwa [whole]) rows, whole, nil_append, Nat.zero_add, and_self]

theorem Consistent.mirrored (consistent : Consistent store) : Mirrored store where
  ids := consistent.ids
  keys := consistent.keys
  rows row := by
    simp only [mem_map, consistent.rows, HasRow]
    constructor
    · rintro ⟨_, ⟨channel, inside, group, named, model, listed, rfl⟩, rfl⟩
      exact ⟨channel, inside, group, named, model, listed, rfl⟩
    · rintro ⟨channel, inside, group, named, model, listed, rfl⟩
      exact ⟨_, ⟨channel, inside, group, named, model, listed, rfl⟩, rfl⟩

theorem consistent_flatMap (ids : (store.channels.map (·.id)).Nodup)
    (apart : ∀ channel ∈ store.channels, channel.KeysApart) :
    Consistent { store with abilities := store.channels.flatMap newAbilities } := by
  refine ⟨ids, ?_, fun row => ?_⟩
  · rw [map_flatMap, nodup_flatMap]
    refine ⟨fun channel _ => nodup_newAbilities channel, (pairwise_map.mp ids).imp fun differ key first second => ?_⟩
    obtain ⟨row, own, rfl⟩ := mem_map.mp first
    obtain ⟨row', own', same⟩ := mem_map.mp second
    have owner : row'.channelId = row.channelId := congrArg (·.2.2) same
    exact differ ((channelId_newAbilities own).symm.trans (owner.symm.trans (channelId_newAbilities own')))
  · simp only [mem_flatMap]
    exact exists_congr fun channel => and_congr_right fun inside => mem_newAbilities (apart channel inside)

/-- **The repair.**  Whatever the table held, it mirrors the channels afterwards.  The cache is built
again unless there is no channel, and then both selections are decided by the channels alone, as long
as their sums of weights do not overflow. -/
theorem fixAbility_repairs (ids : (store.channels.map (·.id)).Nodup)
    (apart : ∀ channel ∈ store.channels, channel.KeysApart) :
    Consistent (fixAbility store old).1 ∧ (fixAbility store old).1.channels = store.channels ∧
    (fixAbility store old).2.2 = store.channels.length ∧
    (∀ group model retry channel, (fixAbility store old).1.Light group model →
      ((∃ seed, (fixAbility store old).1.getChannel group model retry seed = .ok (some channel)) ↔
        channel ∈ atLevel (store.serving group model) retry)) ∧
    ∃ cache, (fixAbility store old).2.1 = some cache ∧ (store.channels = [] → cache = old) ∧
      (store.channels ≠ [] → ∀ group model retry channel, cache.Light group model →
        ((∃ seed, cache.getRandomSatisfiedChannel group model retry seed = .ok (some channel)) ↔
          Drawable (atLevel (store.serving group (lookupName store group model)) retry) channel)) := by
  obtain ⟨fixed, count⟩ := fixAbility_eq old ids
  have mirrored := (consistent_flatMap ids apart).mirrored
  refine ⟨fixed ▸ consistent_flatMap ids apart, by rw [fixed], count, fun group model retry channel light => ?_, ?_⟩
  · rw [fixed] at light ⊢
    exact database_choice_iff mirrored light retry channel
  by_cases none : store.channels = []
  · exact ⟨old, by simp [fixAbility, none], fun _ => rfl, absurd none⟩
  · refine ⟨_, ?_, (absurd · none), fun _ group model retry channel light =>
      cached_choice_iff mirrored group model light retry channel⟩
    rw [← initChannelCache_mirrored mirrored, ← fixed]
    simp [fixAbility, none]

theorem fixAbility_repairs_two :
    Consistent (fixAbility ⟨[weighted 1 "m" 10, weighted 2 "m" 0], []⟩ ⟨fun _ _ => [], fun _ => none⟩).1 :=
  (fixAbility_repairs (by decide +kernel) (by decide +kernel)).1

end NewApi.Routing
