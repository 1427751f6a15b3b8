/-
# Routing.Selection — what a selection from the cache can give

A lookup finds nothing exactly when no id is listed; where every listed id is known it always finds a
channel of the target level; and over all random numbers it finds exactly the channels of that level
with a positive weight, or all of them if there is none (`getRandomSatisfiedChannel_iff`).
-/
import NewApi.Routing.ChannelCache
import Mathlib.Algebra.BigOperators.Group.List.Lemmas
import Mathlib.Algebra.BigOperators.Ring.List
import Mathlib.Algebra.Order.BigOperators.Group.List
import Mathlib.Algebra.Order.Ring.Nat

namespace NewApi.Routing
open Theory List Option ChannelStore

/-! ## The draw -/

/-- A channel the draw can give: one with a weight, or any if none has one. -/
def Drawable (targets : List Channel) (channel : Channel) : Prop :=
  channel ∈ targets ∧ (0 < channel.weight ∨ ∀ other ∈ targets, other.weight = 0)

/-- The weight a channel is to be drawn with. -/
def effectiveWeight (targets : List Channel) (channel : Channel) : Nat :=
  if ∀ other ∈ targets, other.weight = 0 then 100
  else if sumWeights targets / targets.length < 10 then channel.weight * 100
  else channel.weight

/-- What is drawn from is no more than an int64. -/
def Light (targets : List Channel) : Prop := (targets.map (effectiveWeight targets)).sum < 2 ^ 63

section
variable {targets : List Channel} {channel : Channel}

theorem le_effectiveWeight (member : channel ∈ targets) : channel.weight ≤ effectiveWeight targets channel := by
  unfold effectiveWeight
  split_ifs with weightless
  · simp [weightless channel member]
  · omega
  · exact le_rfl

/-- Without overflow the smoothing gives the effective weights and their sum. -/
theorem smoothing_eq (light : Light targets) :
    let total := smoothing (wrap64 (sumWeights targets)) targets.length
    total.1 * total.2.1 = (targets.map (effectiveWeight targets)).sum ∧
      ∀ channel ∈ targets, wrap64 channel.weight * total.2.1 + total.2.2 = effectiveWeight targets channel := by
  have below : sumWeights targets ≤ (targets.map (effectiveWeight targets)).sum :=
    List.sum_le_sum fun channel member => le_effectiveWeight member
  have word : wrap64 (sumWeights targets) = sumWeights targets := by
    exact wrap64_natCast (below.trans_lt light)
  have each : ∀ channel ∈ targets, wrap64 channel.weight = channel.weight := by
    intro channel member
    have part : channel.weight ≤ sumWeights targets := List.le_sum_of_mem (mem_map_of_mem member)
    exact wrap64_natCast (part.trans_lt (below.trans_lt light))
  have none : sumWeights targets = 0 ↔ ∀ other ∈ targets, other.weight = 0 := by
    simp [sumWeights, List.sum_eq_zero_iff_forall_eq_nat]
  rw [word]
  by_cases weightless : ∀ other ∈ targets, other.weight = 0
  · have zero := none.mpr weightless
    have weights : effectiveWeight targets = fun _ => 100 := by
      funext channel
      exact if_pos weightless
    simp only [zero, smoothing, weights, Nat.cast_zero, if_true, map_const', sum_replicate_nat]
    exact ⟨by simp, fun channel member => by rw [each channel member, weightless channel member]; rfl⟩
  · have some : (sumWeights targets : Int) ≠ 0 := by
      intro zero
      exact weightless (none.mp (by exact_mod_cast zero))
    have average : (sumWeights targets : Int).tdiv targets.length =
        (sumWeights targets / targets.length : Nat) := (Int.ofNat_tdiv ..).symm
    simp only [smoothing, if_neg some, average]
    by_cases low : sumWeights targets / targets.length < 10
    · have weights : effectiveWeight targets = fun channel => channel.weight * 100 := by
        funext channel
        rw [effectiveWeight, if_neg weightless, if_pos low]
      rw [if_pos (by exact_mod_cast low), weights, sum_map_mul_right]
      exact ⟨by simp [sumWeights], fun channel member => by rw [each channel member]; simp⟩
    · have weights : effectiveWeight targets = (·.weight) := by
        funext channel
        rw [effectiveWeight, if_neg weightless, if_neg low]
      rw [if_neg (by exact_mod_cast low), weights]
      exact ⟨by simp [sumWeights], fun channel member => by rw [each channel member]; simp⟩

/-- What the code draws from is the sum of the effective weights. -/
theorem totalWeight_eq (light : Light targets) : wrap64 ((smoothing (wrap64 (sumWeights targets)) targets.length).1 *
      (smoothing (wrap64 (sumWeights targets)) targets.length).2.1) = (targets.map (effectiveWeight targets)).sum := by
  obtain ⟨total, -⟩ := smoothing_eq light
  rw [total, wrap64_natCast light]

theorem effectiveWeight_pos_iff :
    0 < effectiveWeight targets channel ↔ 0 < channel.weight ∨ ∀ other ∈ targets, other.weight = 0 := by
  unfold effectiveWeight
  split_ifs with weightless
  · exact iff_of_true (by decide) (.inr weightless)
  · simp [weightless]
  · simp [weightless]

theorem total_pos (some : targets ≠ []) : 0 < (targets.map (effectiveWeight targets)).sum := by
  have exists_pos : ∃ channel ∈ targets, 0 < effectiveWeight targets channel := by
    by_cases weightless : ∀ other ∈ targets, other.weight = 0
    · obtain ⟨channel, member⟩ := exists_mem_of_ne_nil targets some
      exact ⟨channel, member, effectiveWeight_pos_iff.mpr (.inr weightless)⟩
    · simp only [not_forall] at weightless
      obtain ⟨channel, member, weight⟩ := weightless
      exact ⟨channel, member, effectiveWeight_pos_iff.mpr (.inl (Nat.pos_of_ne_zero weight))⟩
  obtain ⟨channel, member, positive⟩ := exists_pos
  exact List.sum_pos_iff_exists_pos_nat.mpr ⟨_, List.mem_map_of_mem member, positive⟩

theorem mem_of_drawByWeight {seed : Nat} (drawn : drawByWeight targets seed = .ok (some channel)) :
    channel ∈ targets := by
  unfold drawByWeight at drawn
  dsimp only at drawn
  generalize randIntn seed _ = drawnFrom at drawn
  cases drawnFrom with
  | error panics => cases drawn
  | ok value =>
    obtain ⟨i, -, found⟩ := bind_eq_some_iff.mp (Except.ok.inj drawn)
    exact mem_of_getElem? found

section
variable (light : Light targets) (some : targets ≠ [])
include light some

/-- Without overflow the draw is the one by the effective weights. -/
theorem drawByWeight_eq (seed : Nat) : drawByWeight targets seed = .ok (draw (effectiveWeight targets) (· < 0)
      (seed % (targets.map (effectiveWeight targets)).sum : Nat) targets) := by
  obtain ⟨-, weights⟩ := smoothing_eq light
  have positive := total_pos some
  have below := Nat.mod_lt seed positive
  have words : ∀ channel ∈ targets, wrap64 (wrap64 channel.weight *
      (smoothing (wrap64 (sumWeights targets)) targets.length).2.1 +
      (smoothing (wrap64 (sumWeights targets)) targets.length).2.2) = effectiveWeight targets channel ∧
        effectiveWeight targets channel < 2 ^ 63 := by
    intro channel member
    have part : effectiveWeight targets channel ≤ (targets.map (effectiveWeight targets)).sum :=
      List.le_sum_of_mem (mem_map_of_mem member)
    rw [weights channel member]
    exact ⟨wrap64_natCast (part.trans_lt light), part.trans_lt light⟩
  simp only [drawByWeight]
  rw [totalWeight_eq light, randIntn_natCast seed positive, draw_eq_getElem?,
    Except.map, stopIndex_eq words (fun n negative => by simpa using negative) (Int.natCast_nonneg _)
      (by exact_mod_cast below.trans light)]

theorem exists_drawByWeight (seed : Nat) : ∃ channel, drawByWeight targets seed = .ok (.some channel) := by
  obtain ⟨channel, drawn, -⟩ :=
    exists_draw_neg (effectiveWeight targets) targets _ (Nat.mod_lt seed (total_pos some))
  exact ⟨channel, by rw [drawByWeight_eq light some, drawn]⟩

theorem mem_drawByWeight_iff : (∃ seed, drawByWeight targets seed = .ok (.some channel)) ↔ Drawable targets channel := by
  have anyValue : (∃ seed, drawByWeight targets seed = .ok (.some channel)) ↔
      ∃ value : Nat, value < (targets.map (effectiveWeight targets)).sum ∧
        draw (effectiveWeight targets) (· < 0) value targets = .some channel := by
    simp only [drawByWeight_eq light some, Except.ok.injEq]
    constructor
    · rintro ⟨seed, drawn⟩
      exact ⟨_, Nat.mod_lt seed (total_pos some), drawn⟩
    · rintro ⟨value, below, drawn⟩
      exact ⟨value, by rw [Nat.mod_eq_of_lt below, drawn]⟩
  rw [anyValue, mem_draw_neg_iff]
  exact and_congr_right fun _ => effectiveWeight_pos_iff

end

end

/-- The channels of the priority level a retry counter stands for. -/
def atLevel (channels : List Channel) (retry : Nat) : List Channel :=
  channels.filter fun channel => some channel.priority = levelAt (channels.map (·.priority)) retry

variable {channels : List Channel} {channel : Channel}

theorem mem_atLevel {retry : Nat} : channel ∈ atLevel channels retry ↔
      channel ∈ channels ∧ levelAt (channels.map (·.priority)) retry = some channel.priority := by
  simp [atLevel, eq_comm]

theorem atLevel_ne_nil (some : channels ≠ []) (retry : Nat) : atLevel channels retry ≠ [] := by
  obtain ⟨priority, found⟩ := isSome_iff_exists.mp
    (levelAt_isSome (show channels.map (·.priority) ≠ [] by simpa using some) retry)
  obtain ⟨channel, member, rfl⟩ := mem_map.mp (mem_of_levelAt found)
  exact ne_nil_of_mem (mem_atLevel.mpr ⟨member, found⟩)

/-- Only one level: every retry stands for it. -/
theorem atLevel_singleton (channel : Channel) (retry : Nat) : atLevel [channel] retry = [channel] := by
  have found := atLevel_ne_nil (cons_ne_nil channel []) retry
  obtain ⟨other, member⟩ := exists_mem_of_ne_nil _ found
  obtain ⟨only, -⟩ := mem_atLevel.mp member
  obtain rfl : other = channel := by simpa using only
  unfold atLevel at member ⊢
  simpa using member

/-! ## The selection -/

namespace ChannelCache

variable {cache : ChannelCache} {group model : String}

theorem getRandomSatisfiedChannel_nil (empty : cache.channelsFor group model = [])
    (retry seed : Nat) : cache.getRandomSatisfiedChannel group model retry seed = .ok none := by
  simp only [getRandomSatisfiedChannel, empty]

variable {channels : List Channel} {channel : Channel} {seed : Nat}

/-- The weights of the listed channels, even if all were smoothed, are no more than an int64. -/
def Light (cache : ChannelCache) (group model : String) : Prop :=
  ((cache.channelsFor group model).map fun id => ((cache.channelsIDM id).map (·.weight)).getD 0 * 100 + 100).sum < 2 ^ 63
deriving Decidable

section
variable (some : channels ≠ []) (known : (cache.channelsFor group model).mapM cache.channel = .ok channels)
include known

theorem Light.atLevel (light : cache.Light group model) (retry : Nat) : Routing.Light (atLevel channels retry) := by
  have looked {ids : List Int} {channels : List Channel} (known : ids.mapM cache.channel = .ok channels) :
      ids.map (fun id => ((cache.channelsIDM id).map (·.weight)).getD 0 * 100 + 100) =
        channels.map fun channel => channel.weight * 100 + 100 := by
    induction ids generalizing channels with
    | nil => cases known; rfl
    | cons id ids ih =>
      obtain ⟨channel, rest, found, others, rfl⟩ := mapM_ok_cons.mp known
      cases entry : cache.channelsIDM id with
      | none => simp [ChannelCache.channel, entry] at found
      | some other =>
        obtain rfl : other = channel := by simpa [ChannelCache.channel, entry] using found
        simp [entry, ih others]
  have part : (Routing.atLevel channels retry).Sublist channels := filter_sublist
  calc ((Routing.atLevel channels retry).map (effectiveWeight (Routing.atLevel channels retry))).sum
    _ ≤ ((Routing.atLevel channels retry).map fun channel => channel.weight * 100 + 100).sum := by
        refine List.sum_le_sum fun channel _ => ?_
        unfold effectiveWeight
        split_ifs <;> omega
    _ ≤ (channels.map fun channel => channel.weight * 100 + 100).sum :=
        (part.map _).sum_le_sum fun _ _ => Nat.zero_le _
    _ < 2 ^ 63 := looked known ▸ light

variable {retry : Nat} (light : Routing.Light (Routing.atLevel channels retry))
include some light

/-- Every listed id is known: the draw among the channels of the level. -/
theorem getRandomSatisfiedChannel_known (seed : Nat) :
    ∃ channel, cache.getRandomSatisfiedChannel group model retry seed = .ok (.some channel) ∧
      drawByWeight (Routing.atLevel channels retry) seed = .ok (.some channel) := by
  obtain ⟨channel, drawn⟩ := exists_drawByWeight light (atLevel_ne_nil some retry) seed
  refine ⟨channel, ?_, drawn⟩
  obtain ⟨priority, level⟩ := isSome_iff_exists.mp
    (levelAt_isSome (show channels.map (·.priority) ≠ [] by simpa using some) retry)
  have targets : Routing.atLevel channels retry = channels.filter (·.priority = priority) := by
    unfold Routing.atLevel
    simp [level]
  unfold getRandomSatisfiedChannel
  cases ids : cache.channelsFor group model with
  | nil => simp_all [pure, Except.pure]
  | cons id rest =>
    rw [ids] at known
    cases rest with
    | nil =>
      cases found : cache.channel id with
      | error text => simp [found] at known
      | ok only =>
        -- one channel is returned without a draw, and a draw among one gives it
        obtain rfl : channels = [only] := by
          simpa [found, bind, Except.bind, pure, Except.pure, eq_comm] using known
        rw [atLevel_singleton] at drawn
        obtain rfl : channel = only := by simpa using mem_of_drawByWeight drawn
        simp [found, Except.map]
    | cons next others =>
      have nonempty : (channels.filter (·.priority = priority)).length ≠ 0 := by
        rw [← targets, Ne, length_eq_zero_iff]
        exact atLevel_ne_nil some retry
      simp only [known, level]
      rw [if_neg nonempty, ← targets, drawn]

/-- Over all random numbers the selection gives exactly what can be drawn. -/
theorem getRandomSatisfiedChannel_iff :
    (∃ seed, cache.getRandomSatisfiedChannel group model retry seed = .ok (.some channel)) ↔
      Drawable (Routing.atLevel channels retry) channel := by
  rw [← mem_drawByWeight_iff light (atLevel_ne_nil some retry)]
  refine exists_congr fun seed => ?_
  obtain ⟨found, selected, drawn⟩ := getRandomSatisfiedChannel_known some known light seed
  simp [selected, drawn]

end

/-- A channel that is returned is a listed one of the target level, whatever the weights are. -/
theorem ok_of_getRandomSatisfiedChannel {retry : Nat}
    (selected : cache.getRandomSatisfiedChannel group model retry seed = .ok (some channel)) :
    ∃ channels, (cache.channelsFor group model).mapM cache.channel = .ok channels ∧ channel ∈ channels ∧
      levelAt (channels.map (·.priority)) retry = some channel.priority := by
  unfold getRandomSatisfiedChannel at selected
  split at selected
  · cases selected
  · rename_i id listed
    cases found : cache.channel id with
    | error text => simp [found, Except.map] at selected
    | ok only =>
      obtain rfl : only = channel := by simpa [found, Except.map] using selected
      have level := mem_atLevel.mp (atLevel_singleton only retry ▸ mem_singleton_self only)
      exact ⟨[only], by simp [listed, found, bind, Except.bind, pure, Except.pure], by simp, level.2⟩
  · split at selected
    · cases selected
    · rename_i channels known
      split at selected
      · cases selected
      · rename_i priority level
        dsimp only at selected
        split at selected
        · cases selected
        · split at selected
          · cases selected
          · rename_i drawn
            cases selected
            obtain ⟨member, same⟩ := mem_filter.mp (mem_of_drawByWeight drawn)
            exact ⟨channels, known, member, by rw [level, of_decide_eq_true same]⟩
          · cases selected

/-- The priorities selected in one group never rise with the retry counter. -/
theorem priority_anti {low high other : Nat} {a b : Channel} (order : low ≤ high)
    (first : cache.getRandomSatisfiedChannel group model low seed = .ok (some a))
    (second : cache.getRandomSatisfiedChannel group model high other = .ok (some b)) : b.priority ≤ a.priority := by
  obtain ⟨channels, known, -, level⟩ := ok_of_getRandomSatisfiedChannel first
  obtain ⟨same, again, -, lower⟩ := ok_of_getRandomSatisfiedChannel second
  rw [known] at again
  cases again
  exact levelAt_anti order level lower

/-- Channels are listed and known, and the sums of their weights are words. -/
def Serves (cache : ChannelCache) (group model : String) : Prop :=
  cache.channelsFor group model ≠ [] ∧ (∀ id ∈ cache.channelsFor group model, (cache.channelsIDM id).isSome) ∧
    cache.Light group model
deriving Decidable

theorem exists_known (listed : cache.channelsFor group model ≠ [])
    (exist : ∀ id ∈ cache.channelsFor group model, (cache.channelsIDM id).isSome) :
    ∃ channels, (cache.channelsFor group model).mapM cache.channel = .ok channels ∧ channels ≠ [] := by
  obtain ⟨channels, known⟩ := mapM_ok_of_forall (f := cache.channel) fun id listed => by
    obtain ⟨row, found⟩ := isSome_iff_exists.mp (exist id listed)
    exact ⟨row, by simp [ChannelCache.channel, found]⟩
  refine ⟨channels, known, fun none => ?_⟩
  rw [none] at known
  exact listed (length_eq_zero_iff.mp (mapM_ok_length known).symm)

theorem Serves.finds (serves : cache.Serves group model) (retry seed : Nat) :
    ∃ channel, cache.getRandomSatisfiedChannel group model retry seed = .ok (some channel) := by
  obtain ⟨listed, exist, light⟩ := serves
  obtain ⟨channels, known, some⟩ := exists_known listed exist
  obtain ⟨channel, selected, -⟩ := getRandomSatisfiedChannel_known some known (light.atLevel known retry) seed
  exact ⟨channel, selected⟩

end ChannelCache

/-! ## The odds of the selection -/

/-- The listed channels with the `retry`-th highest priority, or the lowest where there are
fewer. -/
def candidates (channels : List Channel) (retry : Nat) : List Channel :=
  let priorities := channels.map (·.priority)
  channels.filter fun channel =>
    rankOf priorities channel.priority = min retry (priorities.dedup.length - 1)

theorem atLevel_eq_candidates (channels : List Channel) (retry : Nat) :
    atLevel channels retry = candidates channels retry := by
  refine filter_congr fun channel member => ?_
  rw [decide_eq_decide, eq_comm, levelAt_eq_some_iff, and_iff_right (mem_map_of_mem member)]

/-- While the effective weights sum up to less than `2 ^ 63`, the draw stops at each candidate for as
many of the random values as its weight, and the selection is where it stops. -/
theorem weighted_choice_exact (cache : ChannelCache) (group model : String) (retry : Nat)
    (several : 2 ≤ (cache.channelsFor group model).length)
    (exist : ∀ id ∈ cache.channelsFor group model, (cache.channelsIDM id).isSome) :
    ∃ channels, (cache.channelsFor group model).mapM cache.channel = .ok channels ∧
      let targets := candidates channels retry
      let total := smoothing (wrap64 (sumWeights targets)) targets.length
      let totalWeight := (targets.map (effectiveWeight targets)).sum
      let stopsAt (value i : Nat) := drawIndex (effectiveWeight targets) (· < 0) value targets = some i
      totalWeight < 2 ^ 63 → wrap64 (total.1 * total.2.1) = totalWeight ∧ 0 < totalWeight ∧
        (∀ i (inside : i < targets.length), (range totalWeight).countP (stopsAt · i) =
          effectiveWeight targets targets[i]) ∧
        ∀ seed, ∃ i, ∃ inside : i < targets.length, stopsAt (seed % totalWeight) i ∧
          cache.getRandomSatisfiedChannel group model retry seed = .ok (some targets[i]) := by
  obtain ⟨channels, known, some⟩ :=
    ChannelCache.exists_known (ne_nil_of_length_pos (Nat.lt_of_lt_of_le Nat.two_pos several)) exist
  refine ⟨channels, known, ?_⟩
  intro targets total totalWeight stopsAt light
  have sameTargets : atLevel channels retry = targets := atLevel_eq_candidates channels retry
  have nonempty : targets ≠ [] := sameTargets ▸ atLevel_ne_nil some retry
  have lightLevel : Light (atLevel channels retry) := by
    rw [sameTargets]
    exact light
  have exactly : wrap64 (total.1 * total.2.1) = totalWeight := by
    rw [show total = smoothing (wrap64 (sumWeights targets)) targets.length from rfl, totalWeight_eq light]
  refine ⟨exactly, total_pos nonempty,
    fun i inside => countP_drawIndex (effectiveWeight targets) inside, fun seed => ?_⟩
  obtain ⟨channel, selected, drawn⟩ :=
    ChannelCache.getRandomSatisfiedChannel_known some known lightLevel seed
  rw [sameTargets, drawByWeight_eq light nonempty, Except.ok.injEq, draw_eq_getElem?, bind_eq_some_iff] at drawn
  obtain ⟨i, stops, found⟩ := drawn
  obtain ⟨inside, rfl⟩ := List.getElem?_eq_some_iff.mp found
  exact ⟨i, inside, stops, selected⟩

def twoChannels (weight : Nat) : ChannelCache :=
  ⟨fun _ _ => [1, 2], fun id => some
    ⟨id, "", channelStatusEnabled, "gpt-4o", "default", 0, weight, none, none, none, none, .zero⟩⟩

theorem twoChannels_selected :
    ∃ channel, (twoChannels 5).getRandomSatisfiedChannel "default" "gpt-4o" 0 7 = .ok (some channel) := by
  obtain ⟨channels, known, exactly⟩ :=
    weighted_choice_exact (twoChannels 5) "default" "gpt-4o" 0 (by decide) (by decide)
  cases known
  obtain ⟨-, -, -, found⟩ := exactly (by decide +kernel)
  obtain ⟨i, inside, -, selected⟩ := found 7
  exact ⟨_, selected⟩

/-- The sum of two weights of `2 ^ 62` is negative, and a hundred times it is zero. -/
theorem heavy_channels_panic : (twoChannels (2 ^ 62)).channelsFor "default" "gpt-4o" = [1, 2] ∧
    ∀ seed, (twoChannels (2 ^ 62)).getRandomSatisfiedChannel "default" "gpt-4o" 0 seed =
      .error "invalid argument to Intn" := by
  refine ⟨rfl, fun seed => ?_⟩
  have panics : drawByWeight (((twoChannels (2 ^ 62)).channelsFor "default" "gpt-4o").filterMap
      (twoChannels (2 ^ 62)).channelsIDM) seed = .error "invalid argument to Intn" := rfl
  exact panics ▸ rfl

/-- The draw among the rows stops at each one for as many of the random values as its weight plus ten
exactly when there is one row and its weight plus ten is an int64: `weight <= 0` lets the first of
several have one value more. -/
theorem row_choice_exact_iff (store : ChannelStore) (group model : String) (retry : Nat)
    {rows : List Ability} (selected : store.getChannelQuery group model retry = .ok rows) (nonempty : rows ≠ []) :
    let abilities := orderByWeight rows
    let weight (ability : Ability) := ability.weight + 10
    let weightSum := (abilities.map weight).sum
    let stopsAt (value i : Nat) :=
      stopIndex (fun ability : Ability => wrap64 (weight ability)) (· ≤ 0) value abilities = some i
    (weightSum < 2 ^ 63 → ∀ seed, ∃ i, ∃ inside : i < abilities.length, stopsAt (seed % weightSum) i ∧
      ∀ channel, store.getChannel group model retry seed = .ok (some channel) ↔
        channelById store.channels abilities[i].channelId = some channel) ∧
    ((∀ i (inside : i < abilities.length),
      (range (wrap64 weightSum).toNat).countP (stopsAt · i) = weight abilities[i]) ↔
        abilities.length = 1 ∧ weightSum < 2 ^ 63) := by
  intro abilities weight weightSum stopsAt
  have listed : abilities ≠ [] := by
    intro none
    have sorted := length_insertionSort (fun a b : Ability => b.weight ≤ a.weight) rows
    exact nonempty (length_eq_zero_iff.mp (sorted.symm.trans (congrArg length none)))
  have positive : 0 < weightSum := by
    obtain ⟨row, member⟩ := exists_mem_of_ne_nil abilities listed
    exact List.sum_pos_iff_exists_pos_nat.mpr ⟨_, List.mem_map_of_mem member, by simp [weight]⟩
  -- as long as every weight is a word, the walk is the one with integers
  have walk (words : ∀ row ∈ abilities, weight row < 2 ^ 63) {value : Nat} (below : value < 2 ^ 63) :
      stopIndex (fun ability : Ability => wrap64 (weight ability)) (· ≤ 0) value abilities =
        drawIndex weight (· ≤ 0) value abilities := by
    refine stopIndex_eq (fun row member => ?_) (fun n negative => by simpa using negative.le) (by omega) (by omega)
    exact ⟨wrap64_natCast (words row member), words row member⟩
  have part {row : Ability} (member : row ∈ abilities) : weight row ≤ weightSum :=
    List.le_sum_of_mem (mem_map_of_mem member)
  have high : (wrap64 weightSum).toNat < 2 ^ 63 := by
    have : wrap64 weightSum < 2 ^ 63 := Int.bmod_lt (by decide)
    omega
  refine ⟨fun fits seed => ?_, ?_⟩
  · have below := Nat.mod_lt seed positive
    have words : ∀ row ∈ abilities, weight row < 2 ^ 63 := fun row member => (part member).trans_lt fits
    obtain ⟨row, drawn⟩ := exists_draw_nonpos weight abilities _ below
    rw [draw_eq_getElem?, bind_eq_some_iff] at drawn
    obtain ⟨i, stops, found⟩ := drawn
    obtain ⟨inside, rfl⟩ := List.getElem?_eq_some_iff.mp found
    rw [← walk words (by omega)] at stops
    refine ⟨i, inside, stops, fun channel => ?_⟩
    have chosen : drawAbility abilities seed = .ok abilities[i].channelId := by
      unfold drawAbility
      dsimp only
      rw [show wrap64 ((abilities.map fun ability => ability.weight + 10).sum : Nat) = weightSum from wrap64_natCast fits,
        randIntn_natCast seed positive, Except.map, show stopIndex _ _ _ _ = _ from stops]
      simp [inside]
    simp only [ChannelStore.getChannel, selected]
    rw [if_pos (length_pos_iff.mpr listed), chosen]
    dsimp only
    cases channelById store.channels abilities[i].channelId <;> simp
  · have heavy : ∀ row ∈ abilities, 0 < weight row := fun _ _ => by simp [weight]
    have counts := countP_drawIndex_nonpos_iff weight (wrap64 weightSum).toNat listed heavy
    have same (words : ∀ row ∈ abilities, weight row < 2 ^ 63) (i : Nat) :
        (range (wrap64 weightSum).toNat).countP (stopsAt · i) = (range (wrap64 weightSum).toNat).countP
          fun value : Nat => drawIndex weight (· ≤ 0) value abilities = some i := by
      refine countP_congr fun value member => ?_
      have := mem_range.mp member
      simp only [stopsAt, walk words (show value < 2 ^ 63 by omega)]
    constructor
    · intro exactly
      have words : ∀ row ∈ abilities, weight row < 2 ^ 63 := by
        intro row member
        obtain ⟨i, inside, rfl⟩ := getElem_of_mem member
        rw [← exactly i inside]
        exact (countP_le_length.trans_eq (by simp)).trans_lt high
      obtain ⟨one, total⟩ := counts.mp fun i inside => same words i ▸ exactly i inside
      exact ⟨one, total.symm.trans_lt high⟩
    · rintro ⟨one, fits⟩ i inside
      rw [same fun row member => (part member).trans_lt fits]
      exact counts.mpr ⟨one, by rw [wrap64_natCast fits]; rfl⟩ i inside

def rowStore (ids : List Int) : ChannelStore where
  channels := []
  abilities := ids.map fun id => (plainChannel id 0).ability "a" "m"

theorem single_row_exact : (range (wrap64 10).toNat).countP (fun value : Nat =>
      stopIndex (fun ability : Ability => wrap64 ↑(ability.weight + 10)) (· ≤ 0) value
        (rowStore [1]).abilities = some 0) = 10 :=
  (row_choice_exact_iff (rowStore [1]) "a" "m" 0 rfl (by decide)).2.mpr ⟨rfl, by decide⟩ 0 (by decide)

/-- Of two rows of weight zero, the first comes out for eleven of the twenty values. -/
theorem first_of_two_rows_favoured :
    let abilities := orderByWeight (rowStore [1, 2]).abilities
    (rowStore [1, 2]).getChannelQuery "a" "m" 0 = .ok abilities ∧
      (range 20).countP (fun value : Nat =>
        stopIndex (fun ability : Ability => wrap64 ↑(ability.weight + 10)) (· ≤ 0) value abilities = some 0) = 11 := by
  decide +kernel

end NewApi.Routing
