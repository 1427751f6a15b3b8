/-
# Routing.Abilities — the abilities mirror the channels

`Consistent`: the rows of `abilities` are exactly those of the channels' groups and models, one
each, with the channel's status, priority, weight and tag.  A bulk write that changes channels and
their rows in the same way keeps the store consistent (`Consistent.map`), and a channel whose rows
are deleted and created again has the right rows, whatever it had before (`Fresh.updateAbilities`).

`Admitted` is what the operations need for that: rows are created again from the row that is stored,
no two pairs of a channel have one key in `abilitySet`, no weight is set to zero by tag, no channel
is deleted.
-/
import NewApi.Routing.Agreement
import NewApi.Routing.ChannelAdmin

namespace NewApi.Routing
open Theory List Channel

def Channel.HasRow (channel : Channel) (row : Ability) : Prop :=
  ∃ group ∈ channel.groupNames, ∃ model ∈ channel.modelNames, row = channel.ability group model

structure Consistent (store : ChannelStore) : Prop where
  ids : (store.channels.map (·.id)).Nodup
  keys : (store.abilities.map Ability.key).Nodup
  rows : ∀ row, row ∈ store.abilities ↔ ∃ channel ∈ store.channels, channel.HasRow row

/-- The store is consistent but for the rows of the channels in `stale`. -/
structure Fresh (store : ChannelStore) (stale : List Channel) : Prop where
  ids : (store.channels.map (·.id)).Nodup
  keys : (store.abilities.map Ability.key).Nodup
  owned : ∀ row ∈ store.abilities, ∃ channel ∈ store.channels, channel.id = row.channelId
  rows : ∀ channel ∈ store.channels, channel ∉ stale → ∀ row, row.channelId = channel.id →
    (row ∈ store.abilities ↔ channel.HasRow row)

variable {channel : Channel} {row : Ability} {pair : String × String}

theorem Channel.HasRow.channelId (has : channel.HasRow row) : row.channelId = channel.id := by
  obtain ⟨group, -, model, -, rfl⟩ := has
  rfl

theorem eq_of_id {channels : List Channel} (ids : (channels.map (·.id)).Nodup) {a b : Channel}
    (first : a ∈ channels) (second : b ∈ channels) (same : a.id = b.id) : a = b :=
  inj_on_of_nodup_map ids first second same

variable {store : ChannelStore}

theorem consistent_iff_fresh : Consistent store ↔ Fresh store [] := by
  constructor
  · intro consistent
    refine ⟨consistent.ids, consistent.keys, ?_, ?_⟩
    · intro row member
      obtain ⟨channel, inside, has⟩ := (consistent.rows row).mp member
      exact ⟨channel, inside, has.channelId.symm⟩
    · intro channel inside _ row own
      rw [consistent.rows]
      constructor
      · rintro ⟨other, there, has⟩
        rwa [eq_of_id consistent.ids inside there (own.symm.trans has.channelId)]
      · exact fun has => ⟨channel, inside, has⟩
  · intro fresh
    refine ⟨fresh.ids, fresh.keys, ?_⟩
    intro row
    constructor
    · intro member
      obtain ⟨channel, inside, own⟩ := fresh.owned row member
      exact ⟨channel, inside, (fresh.rows channel inside (by simp) row own.symm).mp member⟩
    · rintro ⟨channel, inside, has⟩
      exact (fresh.rows channel inside (by simp) row has.channelId).mpr has

/-! ## Creating the rows of a channel -/

/-- No two pairs of the channel's groups and models have one key in `abilitySet`. -/
def Channel.KeysApart (channel : Channel) : Prop :=
  ∀ a ∈ channel.abilityPairs, ∀ b ∈ channel.abilityPairs, abilityKey a = abilityKey b → a = b
deriving Decidable

theorem mem_abilityPairs : pair ∈ channel.abilityPairs ↔ pair.1 ∈ channel.groupNames ∧ pair.2 ∈ channel.modelNames := by
  obtain ⟨group, model⟩ := pair
  simp [abilityPairs, and_comm]

variable {pairs : List (String × String)} {abilitySet keys : List String} {id : Int} {i : Nat}

theorem mem_keepNewKeys (kept : pair ∈ keepNewKeys abilitySet pairs) : pair ∈ pairs ∧ abilityKey pair ∉ abilitySet := by
  induction pairs generalizing abilitySet with
  | nil => cases kept
  | cons first rest step =>
    simp only [keepNewKeys] at kept
    split at kept
    · obtain ⟨later, new⟩ := step kept
      exact ⟨mem_cons_of_mem _ later, new⟩
    · rename_i new
      rcases mem_cons.mp kept with rfl | kept
      · exact ⟨mem_cons_self, new⟩
      · obtain ⟨later, apart⟩ := step kept
        exact ⟨mem_cons_of_mem _ later, fun old => apart (mem_cons_of_mem _ old)⟩

/-- Where keys tell the pairs apart, every pair is kept. -/
theorem keepNewKeys_mem (apart : ∀ a ∈ pairs, ∀ b ∈ pairs, abilityKey a = abilityKey b → a = b)
    (member : pair ∈ pairs) (new : abilityKey pair ∉ abilitySet) : pair ∈ keepNewKeys abilitySet pairs := by
  induction pairs generalizing abilitySet with
  | nil => cases member
  | cons first rest step =>
    have later : ∀ a ∈ rest, ∀ b ∈ rest, abilityKey a = abilityKey b → a = b :=
      fun a here b there => apart a (mem_cons_of_mem _ here) b (mem_cons_of_mem _ there)
    simp only [keepNewKeys]
    by_cases same : pair = first
    · subst same
      rw [if_neg new]
      exact mem_cons_self
    · have inside : pair ∈ rest := (mem_cons.mp member).resolve_left same
      split
      · exact step later inside new
      · refine mem_cons_of_mem _ (step later inside ?_)
        intro old
        rcases mem_cons.mp old with keys | old
        · exact same (apart pair member first mem_cons_self keys)
        · exact new old

theorem nodup_keepNewKeys (pairs : List (String × String)) (abilitySet : List String) :
    (keepNewKeys abilitySet pairs).Nodup := by
  induction pairs generalizing abilitySet with
  | nil => exact .nil
  | cons first rest step =>
    simp only [keepNewKeys]
    split
    · exact step abilitySet
    · refine nodup_cons.mpr ⟨?_, step _⟩
      intro kept
      exact (mem_keepNewKeys kept).2 mem_cons_self

theorem mem_newAbilities (apart : channel.KeysApart) : row ∈ channel.newAbilities ↔ channel.HasRow row := by
  simp only [newAbilities, mem_map]
  constructor
  · rintro ⟨pair, kept, rfl⟩
    have ⟨group, model⟩ := mem_abilityPairs.mp (mem_keepNewKeys kept).1
    exact ⟨pair.1, group, pair.2, model, rfl⟩
  · rintro ⟨group, names, model, lists, rfl⟩
    exact ⟨(group, model), keepNewKeys_mem apart (mem_abilityPairs.mpr ⟨names, lists⟩) (by simp), rfl⟩

theorem channelId_newAbilities (member : row ∈ channel.newAbilities) : row.channelId = channel.id := by
  obtain ⟨pair, -, rfl⟩ := mem_map.mp member
  rfl

theorem nodup_newAbilities (channel : Channel) : (channel.newAbilities.map Ability.key).Nodup := by
  unfold newAbilities
  rw [map_map]
  refine (nodup_keepNewKeys channel.abilityPairs []).map ?_
  intro a b same
  simp only [Function.comp_apply, Ability.key, Prod.mk.injEq] at same
  exact Prod.ext same.1 same.2.1

/-- Rows whose keys are new are all created. -/
theorem foldl_createAbility {rows abilities : List Ability} (nodup : (rows.map Ability.key).Nodup)
    (new : ∀ row ∈ rows, row.key ∉ abilities.map Ability.key) :
    rows.foldl createAbility abilities = abilities ++ rows := by
  induction rows generalizing abilities with
  | nil => simp
  | cons row rest step =>
    obtain ⟨apart, others⟩ := nodup_cons.mp nodup
    have first : createAbility abilities row = abilities ++ [row] := if_neg (new row mem_cons_self)
    rw [foldl_cons, first, step others]
    · simp
    intro later member old
    rw [map_append, mem_append] at old
    rcases old with old | same
    · exact new later (mem_cons_of_mem _ member) old
    · rw [map_singleton, mem_singleton] at same
      exact apart (same ▸ mem_map_of_mem member)

theorem addAbilities_eq (none : ∀ row ∈ store.abilities, row.channelId ≠ channel.id) :
    store.addAbilities channel = { store with abilities := store.abilities ++ channel.newAbilities } := by
  unfold ChannelStore.addAbilities
  rw [foldl_createAbility (nodup_newAbilities channel)]
  intro row member old
  obtain ⟨other, inside, same⟩ := mem_map.mp old
  have owner : other.channelId = row.channelId := congrArg (·.2.2) same
  exact none other inside (owner.trans (channelId_newAbilities member))

section
variable {stale : List Channel} (fresh : Fresh store (channel :: stale)) (inside : channel ∈ store.channels)
  (apart : channel.KeysApart)
include fresh inside apart

/-- Creating a channel's rows where it has none freshens it. -/
theorem Fresh.addAbilities (none : ∀ row ∈ store.abilities, row.channelId ≠ channel.id) :
    Fresh (store.addAbilities channel) stale := by
  rw [addAbilities_eq none]
  refine ⟨fresh.ids, ?_, ?_, ?_⟩
  · rw [map_append]
    refine fresh.keys.append (nodup_newAbilities channel) ?_
    intro key old new
    obtain ⟨row, there, rfl⟩ := mem_map.mp old
    obtain ⟨other, member, same⟩ := mem_map.mp new
    have owner : other.channelId = row.channelId := congrArg (·.2.2) same
    exact none row there (owner.symm.trans (channelId_newAbilities member))
  · intro row member
    rcases mem_append.mp member with old | new
    · exact fresh.owned row old
    · exact ⟨channel, inside, (channelId_newAbilities new).symm⟩
  · intro other there settled row own
    rw [mem_append, mem_newAbilities apart]
    by_cases same : other = channel
    · subst same
      simp [mt (none row) (not_not.mpr own)]
    have := fresh.rows other there (by simp [same, settled]) row own
    rw [this]
    constructor
    · rintro (old | new)
      · exact old
      · exact absurd (eq_of_id fresh.ids there inside (own.symm.trans new.channelId)) same
    · exact .inl

/-- So does deleting the rows first. -/
theorem Fresh.updateAbilities : Fresh (store.updateAbilities channel) stale := by
  have cleared : Fresh { store with
      abilities := store.abilities.filter (·.channelId ≠ channel.id) } (channel :: stale) := by
    refine ⟨fresh.ids, ?_, ?_, ?_⟩
    · exact fresh.keys.sublist (filter_sublist.map _)
    · intro row member
      exact fresh.owned row (mem_of_mem_filter member)
    intro other there settled row own
    have apart : other.id ≠ channel.id := by
      intro same
      exact settled (eq_of_id fresh.ids there inside same ▸ mem_cons_self)
    rw [← fresh.rows other there settled row own]
    simp [own, apart]
  exact cleared.addAbilities inside apart (by simp)

end

theorem Fresh.foldl_updateAbilities {stale : List Channel}
    (fresh : Fresh store stale) (inside : ∀ channel ∈ stale, channel ∈ store.channels)
    (apart : ∀ channel ∈ stale, channel.KeysApart) : Consistent (stale.foldl ChannelStore.updateAbilities store) := by
  induction stale generalizing store with
  | nil => exact consistent_iff_fresh.mpr fresh
  | cons channel rest step =>
    refine step (fresh.updateAbilities (inside channel mem_cons_self) (apart channel mem_cons_self)) ?_ ?_
    · exact fun other later => inside other (mem_cons_of_mem _ later)
    · exact fun other later => apart other (mem_cons_of_mem _ later)

/-- Channels and rows that change in the same way. -/
theorem Consistent.map (consistent : Consistent store) {f : Channel → Channel} {g : Ability → Ability}
    (groups : ∀ channel ∈ store.channels, (f channel).group = channel.group)
    (models : ∀ channel ∈ store.channels, (f channel).models = channel.models)
    (rows : ∀ channel ∈ store.channels, ∀ group model,
      g (channel.ability group model) = (f channel).ability group model)
    (id : ∀ channel ∈ store.channels, (f channel).id = channel.id) :
    Consistent ⟨store.channels.map f, store.abilities.map g⟩ := by
  refine ⟨?_, ?_, ?_⟩
  · have same : (store.channels.map f).map (·.id) = store.channels.map (·.id) := by
      rw [map_map]
      exact map_congr_left id
    rw [same]
    exact consistent.ids
  · have same : (store.abilities.map g).map Ability.key = store.abilities.map Ability.key := by
      rw [map_map]
      refine map_congr_left fun row member => ?_
      obtain ⟨channel, inside, group, -, model, -, rfl⟩ := (consistent.rows row).mp member
      rw [Function.comp_apply, rows channel inside]
      simp [Ability.key, ability, id channel inside]
    rw [same]
    exact consistent.keys
  · intro row
    have names {channel : Channel} (inside : channel ∈ store.channels) : (f channel).groupNames = channel.groupNames ∧
          (f channel).modelNames = channel.modelNames := by
      simp [groupNames, modelNames, groups channel inside, models channel inside]
    constructor
    · intro member
      obtain ⟨old, there, rfl⟩ := mem_map.mp member
      obtain ⟨channel, inside, group, named, model, listed, rfl⟩ := (consistent.rows old).mp there
      refine ⟨f channel, mem_map_of_mem inside, group, ?_, model, ?_, rows channel inside _ _⟩
      · rwa [(names inside).1]
      · rwa [(names inside).2]
    · rintro ⟨_, there, group, named, model, listed, rfl⟩
      obtain ⟨channel, inside, rfl⟩ := mem_map.mp there
      rw [(names inside).1] at named
      rw [(names inside).2] at listed
      rw [← rows channel inside]
      exact mem_map_of_mem ((consistent.rows _).mpr ⟨channel, inside, group, named, model, listed, rfl⟩)

/-! ## What the operations need -/

open ChannelStore

/-- The condition an operation meets in the store before it. -/
def Admitted (store : ChannelStore) : ChannelOp → Prop
  | .insert fields assigned =>
    (if fields.id = 0 then assigned else fields.id) ∈ store.channels.map (·.id) ∨
      (createdRow fields assigned).KeysApart
  | .update fields =>
    fields.id = 0 ∨ ∃ row, store.channelOf fields.id = some row ∧ (setFields fields row).KeysApart
  | .editByTag tag newTag modelMapping models group priority weight paramOverride headerOverride =>
    let updateData := editFields tag newTag modelMapping models group priority weight
      paramOverride headerOverride
    if updateData.models ≠ "" ∨ updateData.group ≠ "" then
      ∀ row ∈ store.channels,
        if row.tag = some tag then (setFields updateData row).KeysApart
        else row.tag = some (updateData.tag.getD tag) → row.KeysApart
    else weight = some 0 → ∀ row ∈ store.channels, row.tag = some tag → row.weight = 0
  | .batchSetTag ids tag =>
    ∀ row ∈ store.channels, row.id ∈ ids → row.tag = tag ∧ row.KeysApart
  | .updateStatus _ channelId _ _ => channelId = 0 → store.channelOf 0 = none
  | .enableByTag _ => True
  | .disableByTag _ => True
  | .deleteByStatus status => ∀ row ∈ store.channels, row.status ≠ status
  | .deleteDisabled =>
    ∀ row ∈ store.channels, row.status ≠ channelStatusAutoDisabled ∧
      row.status ≠ channelStatusManuallyDisabled

theorem channelOf_mem {row : Channel} (found : store.channelOf id = some row) : row ∈ store.channels ∧ row.id = id :=
  ⟨mem_of_find?_eq_some found, by simpa using find?_some found⟩

theorem channelOf_of_mem (ids : (store.channels.map (·.id)).Nodup)
    {row : Channel} (member : row ∈ store.channels) (same : row.id = id) : store.channelOf id = some row := by
  subst same
  exact channelById_of_mem ids member

/-- What an edit by tag does to a channel is what it does to the channel's rows, but for a weight
of zero. -/
theorem setAbility_edit {tag : String} {newTag modelMapping models group : Option String}
    {priority : Option Int} {weight : Option Nat} {paramOverride headerOverride : Option String}
    (tagged : channel.tag = some tag) (weightless : weight = some 0 → channel.weight = 0) {g m : String} :
    setAbility newTag priority weight (channel.ability g m) =
      (setFields (editFields tag newTag modelMapping models group priority weight paramOverride
        headerOverride) channel).ability g m := by
  have tags : newTag.or channel.tag = (newTag.filter (· ≠ tag)).or channel.tag := by
    rw [tagged]
    cases newTag with
    | none => rfl
    | some new => by_cases same : new = tag <;> simp [Option.filter, same]
  have weights : (if weight.getD 0 = 0 then channel.weight else weight.getD 0) = weight.getD channel.weight := by
    cases weight with
    | none => rfl
    | some value =>
      by_cases zero : value = 0
      · simp [zero, weightless (by rw [zero])]
      · simp [zero]
  rw [Ability.mk.injEq]
  exact ⟨rfl, rfl, rfl, rfl, rfl, weights, tags⟩

/-! A status that is set through the keys of a channel. -/

theorem lookup_filter_ne (statusList : List (Nat × Int)) (i : Nat) : (statusList.filter (·.1 ≠ i)).lookup i = none := by
  rw [lookup_eq_none_iff]
  intro entry member
  have apart : entry.1 ≠ i := by simpa using (mem_filter.mp member).2
  simpa using apart.symm

theorem hasEnabledMultiKey_freed (inside : i < keys.length) (statusList : List (Nat × Int)) :
    hasEnabledMultiKey keys (statusList.filter (·.1 ≠ i)) = true := by
  refine any_eq_true.mpr ⟨i, by simpa using inside, ?_⟩
  rw [lookup_filter_ne]

/-- What `UpdateChannelStatus` saves: only status and keys change, and where the status changed
the row is enabled iff the status asked for is. -/
structure StatusSaved (channel : Channel) (status : Int) (saved : Channel × Bool) : Prop where
  kept : saved.1 = { channel with status := saved.1.status, channelInfo := saved.1.channelInfo }
  updated : saved.2 = true → saved.1.enabled = decide (status = channelStatusEnabled)
  same : saved.2 = false → saved.1.status = channel.status

theorem statusOfKeys_spec (inside : i < keys.length) (statusList : List (Nat × Int)) (before status : Int) :
    statusOfKeys keys (keyStatusList statusList i status) before status = before ∨
      (statusOfKeys keys (keyStatusList statusList i status) before status = channelStatusEnabled ↔
        status = channelStatusEnabled) := by
  unfold statusOfKeys keyStatusList
  by_cases enabled : status = channelStatusEnabled
  · rw [if_pos enabled, hasEnabledMultiKey_freed inside]
    simp [enabled]
  · simp only [enabled, if_false]
    split
    · exact .inr (by decide)
    · exact .inl rfl

/-- The status stays, or is enabled iff the one asked for is. -/
theorem handlerMultiKeyUpdate_spec (decode : String → Option (List String)) (channel : Channel)
    (usingKey : String) (status : Int) : ∃ after info, handlerMultiKeyUpdate decode channel usingKey status =
        { channel with status := after, channelInfo := info } ∧
      (after = channel.status ∨ (after = channelStatusEnabled ↔ status = channelStatusEnabled)) := by
  unfold handlerMultiKeyUpdate
  simp only
  split
  · exact ⟨_, _, rfl, .inr Iff.rfl⟩
  split
  · split
    · exact ⟨_, _, rfl, .inl rfl⟩
    · exact ⟨_, _, rfl, .inr Iff.rfl⟩
  · rename_i keyIndex found
    have inside := (findIdx?_eq_some_iff_getElem.mp found).1
    exact ⟨_, _, rfl, statusOfKeys_spec inside _ _ _⟩

theorem statusRow_saved (decode : String → Option (List String)) (channel : Channel)
    (usingKey : String) (status : Int) : StatusSaved channel status (statusRow decode channel usingKey status) := by
  unfold statusRow
  split
  · obtain ⟨after, info, shape, changed⟩ := handlerMultiKeyUpdate_spec decode channel usingKey status
    simp only [shape]
    refine ⟨rfl, ?_, by simp⟩
    intro updates
    have enabled := changed.resolve_left (by simpa using updates)
    simpa [Channel.enabled] using enabled
  · exact ⟨rfl, fun _ => rfl, by simp⟩

section
variable {store : ChannelStore} (consistent : Consistent store)

include consistent

variable {fields : ChannelFields}

theorem Consistent.insert {assigned : Int} (admitted : Admitted store (.insert fields assigned)) :
    Consistent (store.insert fields assigned) := by
  simp only [Admitted, ChannelStore.insert] at admitted ⊢
  generalize (if fields.id = 0 then assigned else fields.id) = id at admitted ⊢
  by_cases new : id ∈ store.channels.map (·.id)
  · rwa [if_pos (show (createdRow fields id).id ∈ _ from new)]
  rw [if_neg (show (createdRow fields id).id ∉ _ from new)]
  have apart : (createdRow fields id).KeysApart := admitted.resolve_left new
  refine consistent_iff_fresh.mpr (Fresh.addAbilities ?_ (by simp) apart ?_)
  · have fresh := consistent_iff_fresh.mp consistent
    refine ⟨?_, fresh.keys, ?_, ?_⟩
    · rw [map_append]
      refine fresh.ids.append (by simp) ?_
      simpa [createdRow] using new
    · intro row member
      obtain ⟨channel, inside, own⟩ := fresh.owned row member
      exact ⟨channel, mem_append_left _ inside, own⟩
    · intro channel inside settled row own
      refine fresh.rows channel ?_ (by simp) row own
      rcases mem_append.mp inside with old | last
      · exact old
      · exact absurd last settled
  · intro row member own
    obtain ⟨channel, inside, has⟩ := (consistent.rows row).mp member
    exact new (mem_map.mpr ⟨channel, inside, has.channelId.symm.trans own⟩)

/-- Where only channels in `stale` change, only their rows may be wrong. -/
theorem Consistent.stale {f : Channel → Channel} {stale : List Channel}
    (id : ∀ channel ∈ store.channels, (f channel).id = channel.id)
    (changed : ∀ channel ∈ store.channels, f channel ∈ stale ∨ f channel = channel) :
    Fresh ⟨store.channels.map f, store.abilities⟩ stale := by
  have fresh := consistent_iff_fresh.mp consistent
  refine ⟨?_, fresh.keys, ?_, ?_⟩
  · have same : (store.channels.map f).map (·.id) = store.channels.map (·.id) := by
      rw [map_map]
      exact map_congr_left id
    rw [same]
    exact fresh.ids
  · intro row member
    obtain ⟨channel, inside, own⟩ := fresh.owned row member
    exact ⟨f channel, mem_map_of_mem inside, (id channel inside).trans own⟩
  · intro _ there settled row own
    obtain ⟨channel, inside, rfl⟩ := mem_map.mp there
    have same := (changed channel inside).resolve_left settled
    rw [same] at own ⊢
    exact fresh.rows channel inside (by simp) row own

theorem Consistent.saveFields {row : Channel}
    (found : store.channelOf fields.id = some row) (apart : (setFields fields row).KeysApart) :
    Consistent (store.saveFields fields) := by
  obtain ⟨inside, id⟩ := channelOf_mem found
  have updated : Fresh (store.updateChannels (·.id = fields.id) (setFields fields)) [setFields fields row] := by
    refine consistent.stale ?_ ?_
    · intro channel _
      split <;> rfl
    · intro channel there
      by_cases same : channel.id = fields.id
      · rw [eq_of_id consistent.ids there inside (same.trans id.symm)]
        simp [id]
      · simp [same]
  have stored : setFields fields row ∈ (store.updateChannels (·.id = fields.id) (setFields fields)).channels := by
    refine mem_map.mpr ⟨row, inside, ?_⟩
    simp [id]
  simp only [ChannelStore.saveFields]
  rw [channelOf_of_mem updated.ids stored id, Option.getD_some]
  exact consistent_iff_fresh.mpr (updated.updateAbilities stored apart)

variable {decode : String → Option (List String)} {status : Int}

theorem Consistent.update (admitted : Admitted store (.update fields)) : Consistent (store.update decode fields) := by
  unfold ChannelStore.update
  split
  · exact consistent
  · rename_i named
    obtain ⟨row, found, apart⟩ := admitted.resolve_left named
    exact consistent.saveFields found apart

theorem Consistent.editByTag {tag : String} {newTag modelMapping models group : Option String}
    {priority : Option Int} {weight : Option Nat} {paramOverride headerOverride : Option String}
    (admitted : Admitted store (.editByTag tag newTag modelMapping models group priority weight
      paramOverride headerOverride)) :
    Consistent (store.editChannelByTag tag newTag modelMapping models group priority weight
      paramOverride headerOverride) := by
  simp only [Admitted, editChannelByTag] at admitted ⊢
  generalize filled : editFields tag newTag modelMapping models group priority weight paramOverride
    headerOverride = updateData at admitted ⊢
  by_cases recreate : updateData.models ≠ "" ∨ updateData.group ≠ ""
  · rw [if_pos recreate] at admitted ⊢
    have retagged {row : Channel} (tagged : row.tag = some tag) :
        (setFields updateData row).tag = some (updateData.tag.getD tag) := by
      simp only [setFields, tagged]
      cases updateData.tag <;> rfl
    refine Fresh.foldl_updateAbilities (consistent.stale ?_ ?_) ?_ ?_
    · intro channel _
      split <;> rfl
    · intro channel there
      by_cases tagged : channel.tag = some tag
      · left
        refine mem_filter.mpr ⟨mem_map.mpr ⟨channel, there, rfl⟩, ?_⟩
        simp [tagged, retagged tagged]
      · simp [tagged]
    · intro channel member
      exact mem_of_mem_filter member
    · intro channel member
      obtain ⟨there, tagged⟩ := mem_filter.mp member
      obtain ⟨row, inside, rfl⟩ := mem_map.mp there
      have apart := admitted row inside
      by_cases old : row.tag = some tag
      · simpa [old] using apart
      · simp only [old, decide_eq_true_eq] at apart tagged ⊢
        exact apart tagged
  · rw [if_neg recreate] at admitted ⊢
    simp only [not_or] at recreate
    refine consistent.map ?_ ?_ ?_ ?_
    · intro channel _
      split
      · simp [setFields, recreate.2]
      · rfl
    · intro channel _
      split
      · simp [setFields, recreate.1]
      · rfl
    · intro channel inside group model
      by_cases tagged : channel.tag = some tag
      · have weightless := fun zero => admitted zero channel inside tagged
        subst filled
        rw [if_pos (show (channel.ability group model).tag = some tag from tagged), if_pos (decide_eq_true tagged)]
        exact setAbility_edit tagged weightless
      · simp [ability, tagged]
    · intro channel _
      split <;> rfl

theorem Consistent.batchSetTag {ids : List Int} {tag : Option String}
    (admitted : Admitted store (.batchSetTag ids tag)) : Consistent (store.batchSetChannelTag ids tag) := by
  have unchanged : store.updateChannels (·.id ∈ ids) (fun row => { row with tag }) = store := by
    have same : store.channels.map (fun row =>
        if decide (row.id ∈ ids) = true then { row with tag } else row) = store.channels := by
      refine (map_congr_left fun row inside => ?_).trans (map_id _)
      split
      · rename_i named
        rw [← (admitted row inside (by simpa using named)).1]
        rfl
      · rfl
    unfold updateChannels
    rw [same]
  unfold batchSetChannelTag
  rw [unchanged]
  refine Fresh.foldl_updateAbilities ?_ ?_ ?_
  · simpa using consistent.stale (fun _ _ => rfl) (fun _ _ => .inr rfl)
  · intro channel member
    exact mem_of_mem_filter member
  · intro channel member
    obtain ⟨inside, named⟩ := mem_filter.mp member
    exact (admitted channel inside (by simpa using named)).2

/-- The rows follow the status that is saved. -/
theorem Consistent.updateStatus {cached : Option (Option Channel)} {channelId : Int} {usingKey : String}
    (admitted : Admitted store (.updateStatus cached channelId usingKey status)) :
    Consistent (store.updateChannelStatus decode cached channelId usingKey status) := by
  unfold updateChannelStatus
  split
  · exact consistent
  split
  · exact consistent
  rename_i channel found
  split
  · exact consistent
  obtain ⟨inside, id⟩ := channelOf_mem found
  have saved := statusRow_saved decode channel usingKey status
  generalize statusRow decode channel usingKey status = answer at saved ⊢
  obtain ⟨row, updates⟩ := answer
  have named : channelId ≠ 0 := by
    intro zero
    have := admitted zero
    rw [zero] at found
    rw [found] at this
    cases this
  simp only [if_neg named]
  have kept : row = { channel with status := row.status, channelInfo := row.channelInfo } := saved.kept
  have only {other : Channel} (there : other ∈ store.channels)
      (same : decide (other.id = channelId) = true) : other = channel :=
    eq_of_id consistent.ids there inside ((of_decide_eq_true same).trans id.symm)
  have mapped (g : Ability → Ability) (rows : ∀ other ∈ store.channels, ∀ group model,
      g (other.ability group model) =
        (if decide (other.id = channelId) = true then row else other).ability group model) :
      Consistent ⟨store.channels.map fun other =>
        if decide (other.id = channelId) = true then row else other, store.abilities.map g⟩ := by
    refine consistent.map ?_ ?_ rows ?_
    all_goals
      intro other there
      split
      · rename_i same
        rw [only there same, kept]
      · rfl
  cases updates with
  | false =>
    have unchanged := mapped (fun row => row) (by
      intro other there group model
      split
      · rename_i same
        have unchanged : row.status = channel.status := saved.same rfl
        rw [only there same, kept]
        simp only [ability, enabled, unchanged]
      · rfl)
    simpa [updateChannels] using unchanged
  | true =>
    exact mapped _ (by
      intro other there group model
      by_cases same : other.id = channelId
      · have enabled := saved.updated rfl
        rw [if_pos (show (other.ability group model).channelId = channelId from same),
          if_pos (decide_eq_true same), only there (decide_eq_true same), ← enabled, kept]
        rfl
      · rw [if_neg (show (other.ability group model).channelId ≠ channelId from same),
          if_neg (by simpa using same)])

theorem Consistent.setStatusByTag (tag : String) {enabled : Bool}
    (same : enabled = decide (status = channelStatusEnabled)) :
    Consistent (store.setStatusByTag tag status enabled) := by
  refine consistent.map ?_ ?_ ?_ ?_
  · intro channel _
    split <;> rfl
  · intro channel _
    split <;> rfl
  · intro channel _ group model
    by_cases tagged : channel.tag = some tag
    · simp [Channel.ability, tagged, same, Channel.enabled]
    · simp [ability, tagged]
  · intro channel _
    split <;> rfl

/-- A deletion that meets no channel. -/
theorem Consistent.deleteChannels {where_ : Channel → Bool} (none : ∀ row ∈ store.channels, where_ row = false) :
    Consistent (store.deleteChannels where_) := by
  have unchanged : store.deleteChannels where_ = store := by
    unfold ChannelStore.deleteChannels
    rw [filter_eq_self.mpr]
    intro row member
    simp [none row member]
  rwa [unchanged]

theorem Consistent.apply (decode : String → Option (List String)) {op : ChannelOp}
    (admitted : Admitted store op) : Consistent (op.apply decode store) := by
  cases op with
  | insert => exact consistent.insert admitted
  | update => exact consistent.update admitted
  | editByTag => exact consistent.editByTag admitted
  | batchSetTag => exact consistent.batchSetTag admitted
  | updateStatus => exact consistent.updateStatus admitted
  | enableByTag tag | disableByTag tag => exact consistent.setStatusByTag tag rfl
  | deleteByStatus status | deleteDisabled =>
    refine consistent.deleteChannels ?_
    intro row member
    simpa using admitted row member

end

/-- Every operation of a sequence is admitted in the store it finds. -/
def AdmittedRun (decode : String → Option (List String)) : ChannelStore → List ChannelOp → Prop
  | _, [] => True
  | store, op :: rest => Admitted store op ∧ AdmittedRun decode (op.apply decode store) rest

def runOps (decode : String → Option (List String)) (store : ChannelStore) (ops : List ChannelOp) :
    ChannelStore := ops.foldl (ChannelOp.apply decode) store

theorem abilities_mirror (decode : String → Option (List String)) (store : ChannelStore)
    (ops : List ChannelOp) (consistent : Consistent store) (admitted : AdmittedRun decode store ops) :
    ∀ done, done <+: ops → Consistent (runOps decode store done) := by
  induction ops generalizing store with
  | nil =>
    intro done before
    rw [prefix_nil.mp before]
    exact consistent
  | cons op rest step =>
    intro done before
    cases done with
    | nil => exact consistent
    | cons first done =>
      obtain ⟨rfl, shorter⟩ := cons_prefix_cons.mp before
      exact step _ (consistent.apply decode admitted.1) admitted.2 done shorter

/-! Consistency of a store can be computed. -/

theorem consistent_iff : Consistent store ↔
    (store.channels.map (·.id)).Nodup ∧ (store.abilities.map Ability.key).Nodup ∧
      (∀ row ∈ store.abilities, ∃ channel ∈ store.channels, ∃ group ∈ channel.groupNames,
        ∃ model ∈ channel.modelNames, row = channel.ability group model) ∧
      ∀ channel ∈ store.channels, ∀ group ∈ channel.groupNames, ∀ model ∈ channel.modelNames,
        channel.ability group model ∈ store.abilities := by
  constructor
  · intro consistent
    refine ⟨consistent.ids, consistent.keys, fun row => (consistent.rows row).mp, ?_⟩
    intro channel inside group named model listed
    exact (consistent.rows _).mpr ⟨channel, inside, group, named, model, listed, rfl⟩
  · rintro ⟨ids, keys, rows, channels⟩
    refine ⟨ids, keys, fun row => ⟨rows row, ?_⟩⟩
    rintro ⟨channel, inside, group, named, model, listed, rfl⟩
    exact channels channel inside group named model listed

instance (store : ChannelStore) : Decidable (Consistent store) := decidable_of_iff _ consistent_iff.symm

/-- A channel of group `a` for model `m` with a tag, a status and a weight. -/
def taggedChannel (id status : Int) (tag : String) (weight : Nat) : Channel :=
  { plainChannel id 0 with status, tag := some tag, weight }

/-- An argument that sets nothing but an id. -/
def noFields (id : Int) : ChannelFields where
  id := id
  key := ""
  status := 0
  models := ""
  group := ""
  priority := none
  weight := none
  tag := none
  modelMapping := none
  paramOverride := none
  headerOverride := none
  channelInfo := .zero

theorem abilities_mirror_status : Consistent (runOps (fun _ => none) (storeOf [taggedChannel 1 1 "x" 5])
      [.disableByTag "x", .updateStatus none 1 "" 1, .update (noFields 1)]) := by
  have admitted : AdmittedRun (fun _ => none) (storeOf [taggedChannel 1 1 "x" 5])
      [.disableByTag "x", .updateStatus none 1 "" 1, .update (noFields 1)] := by
    refine ⟨trivial, ?_, ?_, trivial⟩
    · exact fun zero => absurd zero (by decide)
    · exact .inr ⟨taggedChannel 1 1 "x" 5, by decide +kernel, by decide +kernel⟩
  exact abilities_mirror _ _ _ (by decide +kernel) admitted _ (prefix_refl _)

/-- Each of these operations takes a consistent store to one that is not: a deletion leaves the
rows of the channel, a new tag is not written to them, nor is a weight of zero, rows are created
for a channel that does not exist, and a pair is dropped whose key another pair has. -/
theorem abilities_diverge : (Consistent (storeOf [taggedChannel 1 2 "x" 5]) ∧
      ¬ Consistent (runOps (fun _ => none) (storeOf [taggedChannel 1 2 "x" 5]) [.deleteByStatus 2]) ∧
      ¬ Consistent (runOps (fun _ => none) (storeOf [taggedChannel 1 2 "x" 5]) [.deleteDisabled]) ∧
      ¬ Consistent (runOps (fun _ => none) (storeOf [taggedChannel 1 2 "x" 5]) [.batchSetTag [1] (some "y")]) ∧
      ¬ Consistent (runOps (fun _ => none) (storeOf [taggedChannel 1 2 "x" 5])
        [.editByTag "x" none none none none none (some 0) none none]) ∧
      ¬ Consistent (runOps (fun _ => none) (storeOf [taggedChannel 1 2 "x" 5]) [.update (noFields 2)])) ∧
    Consistent (storeOf []) ∧ ¬ Consistent (runOps (fun _ => none) (storeOf [])
        [.insert { noFields 0 with group := "a,a|b", models := "b|c,c" } 1]) := by
  decide +kernel

end NewApi.Routing
