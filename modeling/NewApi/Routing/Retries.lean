/-
# Routing.Retries — the retry loop walks groups and priorities in order

The selections of one run form a `Walk` over places `(index, retry)`: a group among those the token
may use, and a retry counter within it.  A selection made at `(i, r)` skips groups that do not find a
channel and lands at a group of index `j ≥ i`, with the counter at `r` if it stayed in the group and
at zero otherwise; the next one is made one step further, at the next counter or, with cross-group
retry, at the start of the next group.  Whatever the loop does is such a walk (`relayLoop_walks`), and
the rest is about walks.
-/
import NewApi.Routing.Selection
import NewApi.Routing.Relay

namespace NewApi.Routing
open Theory RelayState RelaySettings RetryParam List Option Nat

/-! ## Walks -/

/-- What a walk is over: the groups, the model, and how a group is left. -/
structure Route where
  groups : List String
  model : String
  retryTimes : Nat
  crossing : Prop
  /-- The loop gives up only when no group is left. -/
  tireless : Prop

/-- Where the selection after one at counter `p` in group `j` is made. -/
inductive Route.Next (route : Route) (j p : Nat) : Nat → Nat → Prop
  | leave : route.crossing → route.retryTimes ≤ p → Next route j p (j + 1) 0
  | stay : (route.crossing → p < route.retryTimes) → Next route j p j (p + 1)

structure Route.Picked (route : Route) (cache : ChannelCache) (i r : Nat) (pick : Pick) :
    Prop where
  index_le : i ≤ pick.index
  group : route.groups[pick.index]? = some pick.group
  retry : pick.priorityRetry = if pick.index = i then r else 0
  guard : r ≤ route.retryTimes
  selected : ∃ seed, cache.getRandomSatisfiedChannel pick.group route.model pick.priorityRetry
    seed = .ok (some pick.channel)
  skipped : ∀ j group, i ≤ j → j < pick.index → route.groups[j]? = some group →
    ¬ cache.Serves group route.model

variable {pick : Pick} {t : RelayState}

theorem Route.Picked.bound {route : Route} {cache : ChannelCache} {i r : Nat}
    (picked : route.Picked cache i r pick) : pick.priorityRetry ≤ route.retryTimes := by
  have guard := picked.guard
  rw [picked.retry]
  split <;> omega

inductive Walk (route : Route) (cache : ChannelCache) : Nat → Nat → List Selection → Prop
  | stop {i r : Nat} : ¬ route.tireless → Walk route cache i r []
  | fail {i r : Nat} (unserved : ∀ j group, i ≤ j → route.groups[j]? = some group →
      ¬ cache.Serves group route.model) : Walk route cache i r [⟨i, none⟩]
  | pick {i r i' r' : Nat} {pick : Pick} {rest : List Selection} :
      route.Picked cache i r pick → route.Next pick.index pick.priorityRetry i' r' →
      Walk route cache i' r' rest → Walk route cache i r (⟨i, some pick⟩ :: rest)

/-- The selections that found a channel. -/
def picks (selections : List Selection) : List Pick := selections.filterMap (·.found)

@[simp] theorem picks_nil : picks [] = [] := rfl

@[simp] theorem picks_cons_none (i : Nat) (rest : List Selection) : picks (⟨i, none⟩ :: rest) = picks rest := rfl

@[simp] theorem picks_cons_some (i : Nat) (pick : Pick) (rest : List Selection) :
    picks (⟨i, some pick⟩ :: rest) = pick :: picks rest := rfl

namespace Walk

variable {route : Route} {cache : ChannelCache} {i r : Nat} {selections : List Selection}

/-- A place as one number: walks go up. -/
def place (route : Route) (i r : Nat) : Nat := i * (route.retryTimes + 1) + r

variable {j p i' r' : Nat}

theorem place_next (next : route.Next j p i' r') (bound : p ≤ route.retryTimes) :
    place route j p + 1 ≤ place route i' r' := by
  cases next with
  | leave _ _ =>
    simp only [place, succ_mul]
    omega
  | stay _ =>
    simp only [place]
    omega

variable {pick : Pick}

theorem place_picked (picked : route.Picked cache i r pick) :
    place route i r ≤ place route pick.index pick.priorityRetry := by
  have retry := picked.retry
  by_cases same : pick.index = i
  · rw [if_pos same] at retry
    simp [same, retry]
  · rw [if_neg same] at retry
    have above : i + 1 ≤ pick.index := by have := picked.index_le; omega
    have rows := mul_le_mul_right (route.retryTimes + 1) above
    have guard := picked.guard
    simp only [place, succ_mul] at rows ⊢
    omega

theorem place_lt (picked : route.Picked cache i r pick) :
    place route pick.index pick.priorityRetry < route.groups.length * (route.retryTimes + 1) := by
  have inside : pick.index + 1 ≤ route.groups.length := (List.getElem?_eq_some_iff.mp picked.group).1
  have rows := mul_le_mul_right (route.retryTimes + 1) inside
  have bound := picked.bound
  simp only [place, succ_mul] at rows ⊢
  omega

/-- A walk has no more selections than places are left. -/
theorem picks_le (walk : Walk route cache i r selections) : (picks selections).length ≤
      route.groups.length * (route.retryTimes + 1) - place route i r := by
  induction walk with
  | stop _ | fail _ => simp
  | pick picked next _ step =>
    have here := place_picked picked
    have inside := place_lt picked
    have further := place_next next picked.bound
    simp only [picks_cons_some, length_cons]
    omega

/-- A crossing walk leaves a group before the counter passes the bound. -/
theorem next_retry_le (next : route.Next j p i' r') (crossing : route.crossing) : r' ≤ route.retryTimes := by
  cases next with
  | leave _ _ => omega
  | stay below => exact below crossing

theorem next_le (next : route.Next j p i' r') : j ≤ i' := by
  cases next <;> omega

variable (walk : Walk route cache i r selections)

include walk

/-- Every selection starts at or past the place the walk stands at. -/
theorem starts : ∀ selection ∈ selections,
      i ≤ selection.start ∧ ∀ pick ∈ selection.found, selection.start ≤ pick.index := by
  induction walk with
  | stop _ | fail _ => simp
  | pick picked next _ step =>
    intro selection member
    rcases mem_cons.mp member with rfl | later
    · simpa using picked.index_le
    · have ⟨after, inside⟩ := step selection later
      have := next_le next
      have := picked.index_le
      exact ⟨by omega, inside⟩

theorem starts_ordered : selections.Pairwise fun a b => a.start ≤ b.start ∧ ∀ pick ∈ a.found, pick.index ≤ b.start := by
  induction walk with
  | stop _ => exact .nil
  | fail _ => simp
  | pick picked next rest step =>
    refine pairwise_cons.mpr ⟨?_, step⟩
    intro later member
    have after := (rest.starts later member).1
    have := next_le next
    have := picked.index_le
    simp only [mem_def, Option.some.injEq, forall_eq']
    omega

theorem index_ge : ∀ pick ∈ picks selections, i ≤ pick.index := by
  intro pick member
  obtain ⟨selection, inside, found⟩ := mem_filterMap.mp member
  obtain ⟨start, landed⟩ := walk.starts selection inside
  exact start.trans (landed pick found)

/-- In the group the walk stands in, later selections use the same counter or a higher one. -/
theorem retries_ge : ∀ pick ∈ picks selections, pick.index = i → r ≤ pick.priorityRetry := by
  induction walk with
  | stop _ | fail _ => simp
  | @pick i r i' r' first rest picked next walk step =>
    intro pick member here
    have retry := picked.retry
    have above := picked.index_le
    rw [picks_cons_some] at member
    rcases mem_cons.mp member with rfl | later
    · rw [retry, if_pos here]
    have landed := walk.index_ge pick later
    -- the walk has left the group unless it stayed at every selection so far
    cases next with
    | leave _ _ => omega
    | stay _ =>
      have same : first.index = i := by omega
      have := step pick later (by omega)
      rw [if_pos same] at retry
      omega

theorem selected : ∀ pick ∈ picks selections, route.groups[pick.index]? = some pick.group ∧
      ∃ seed, cache.getRandomSatisfiedChannel pick.group route.model pick.priorityRetry seed =
        .ok (some pick.channel) := by
  induction walk with
  | stop _ | fail _ => simp
  | pick picked _ _ step =>
    intro pick member
    rw [picks_cons_some] at member
    rcases mem_cons.mp member with rfl | later
    · exact ⟨picked.group, picked.selected⟩
    · exact step pick later

/-- Channels selected later in a group have no greater priority. -/
theorem priorities : (picks selections).Pairwise fun a b =>
      a.index = b.index → b.channel.priority ≤ a.channel.priority := by
  induction walk with
  | stop _ | fail _ => simp
  | @pick i r i' r' first rest picked next walk step =>
    rw [picks_cons_some]
    refine pairwise_cons.mpr ⟨?_, step⟩
    intro later member same
    have landed := walk.index_ge later member
    obtain ⟨group, seed, found⟩ := walk.selected later member
    obtain ⟨other, first⟩ := picked.selected
    have sameGroup := picked.group
    rw [same, group] at sameGroup
    cases next with
    | leave _ _ => omega
    | stay _ =>
      have counter := walk.retries_ge later member same.symm
      rw [← Option.some.inj sameGroup] at first
      exact ChannelCache.priority_anti (by omega) first found

/-- A walk that is never given up finds every group that serves the model. -/
theorem covers (tireless : route.tireless) {group : String} (ahead : i ≤ j) (named : route.groups[j]? = some group)
    (serves : cache.Serves group route.model) : ∃ pick ∈ picks selections, pick.index = j := by
  induction walk with
  | stop tires => exact absurd tireless tires
  | fail unserved => exact absurd serves (unserved j group ahead named)
  | @pick i r i' r' first rest picked next walk step =>
    rw [picks_cons_some]
    rcases lt_trichotomy j first.index with skipped | here | later
    · exact absurd serves (picked.skipped j group ahead skipped named)
    · exact ⟨first, mem_cons_self, here.symm⟩
    · have : i' ≤ j := by cases next <;> omega
      obtain ⟨pick, member, same⟩ := step this
      exact ⟨pick, mem_cons_of_mem _ member, same⟩

end Walk

/-! ## The loop walks -/

/-- Two states of one request: what no round of the loop changes. -/
structure SameRequest (s t : RelayState) : Prop where
  tokenGroup : t.param.tokenGroup = s.param.tokenGroup
  modelName : t.param.modelName = s.param.modelName
  userGroup : t.context.userGroup = s.context.userGroup
  crossing : t.context.tokenCrossGroupRetry = s.context.tokenCrossGroupRetry
  affinity : t.context.channelAffinitySkipRetry = s.context.channelAffinitySkipRetry
  specific : t.context.specificChannelId = s.context.specificChannelId

theorem SameRequest.refl (s : RelayState) : SameRequest s s := ⟨rfl, rfl, rfl, rfl, rfl, rfl⟩

theorem SameRequest.trans {s u : RelayState} (first : SameRequest s t) (second : SameRequest t u) :
    SameRequest s u := by
  constructor
  · rw [second.tokenGroup, first.tokenGroup]
  · rw [second.modelName, first.modelName]
  · rw [second.userGroup, first.userGroup]
  · rw [second.crossing, first.crossing]
  · rw [second.affinity, first.affinity]
  · rw [second.specific, first.specific]

variable (settings : RelaySettings)

/-- Every attempt ends in an error that `shouldRetry` accepts while retries remain. -/
def AlwaysRetries (world : Upstream) (context : RequestContext) : Prop :=
  ∀ attempt, world.body attempt = none ∧ ∃ err, world.answer attempt = some err ∧
    ∀ remaining : Int, 1 ≤ remaining →
      settings.shouldRetry context (some (normalizeViolationFeeError err)) remaining = true

def RelaySettings.groupsOf (tokenGroup userGroup : String) : List String :=
  if tokenGroup = "auto" then settings.getUserAutoGroup userGroup else [tokenGroup]

def routeOf (world : Upstream) (s : RelayState) : Route where
  groups := settings.groupsOf s.param.tokenGroup s.context.userGroup
  model := s.param.modelName
  retryTimes := settings.retryTimes
  crossing := s.param.tokenGroup = "auto" ∧ s.context.tokenCrossGroupRetry = true
  tireless := s.param.tokenGroup = "auto" ∧ s.context.tokenCrossGroupRetry = true ∧
    1 ≤ settings.retryTimes ∧ AlwaysRetries settings world s.context

/-- The state a selection leaves: the loop's increment takes it to the next place. -/
structure Moved (route : Route) (s t : RelayState) (pick : Pick) : Prop where
  same : SameRequest s t
  channelMeta : t.channelMeta = s.channelMeta
  next : route.Next pick.index pick.priorityRetry t.startGroupIndex t.param.increaseRetry.retry
  once : t.param.increaseRetry.resetNextTry = false
  remaining : route.crossing → 1 ≤ route.retryTimes → t.param.retry < route.retryTimes

theorem Moved.of_skipGroup {route : Route} {s : RelayState} {i : Nat}
    (moved : Moved route (s.skipGroup i) t pick) : Moved route s t pick :=
  { moved with
    same := SameRequest.trans (t := s.skipGroup i) ⟨rfl, rfl, rfl, rfl, rfl, rfl⟩ moved.same }

def Unserved (route : Route) (cache : ChannelCache) (i : Nat) : Prop :=
  ∀ j group, i ≤ j → route.groups[j]? = some group → ¬ cache.Serves group route.model

section
variable {cache : ChannelCache} {settings : RelaySettings} {world : Upstream}

theorem not_serves_of_lookup {group model : String} {retry seed : Nat} {answer : Except String (Option Channel)}
    (lookup : cache.getRandomSatisfiedChannel group model retry seed = answer)
    (missed : ∀ channel, answer ≠ .ok (some channel)) : ¬ cache.Serves group model := by
  intro serves
  obtain ⟨channel, found⟩ := serves.finds retry seed
  exact missed channel (lookup.symm.trans found)

variable {route : Route} {s origin : RelayState}

/-- A search from `start` on with the counter `r`: no group serves the model, or a channel is picked. -/
def SearchEnds (route : Route) (cache : ChannelCache) (start r : Nat) (s : RelayState)
    (result : Option Pick × RelayState) : Prop :=
  (∃ t, result = (none, t) ∧ Unserved route cache start) ∨
    ∃ pick t, result = (some pick, t) ∧ route.Picked cache start r pick ∧ Moved route s t pick

/-- The search over the auto groups, `i` groups in.  The counter is `r` in the first group and
zero once one was skipped. -/
theorem searchAutoGroups_spec (cache : ChannelCache) (random : Nat → Nat) {start r : Nat}
    (retryTimes : route.retryTimes = settings.retryTimes) (guard : r ≤ route.retryTimes)
    (rest : List String) (i : Nat) (s : RelayState) (ahead : start ≤ i) (listed : rest = route.groups.drop i)
    (token : s.param.tokenGroup = "auto") (model : s.param.modelName = route.model)
    (crossing : route.crossing ↔ s.context.tokenCrossGroupRetry = true)
    (fresh : s.param.resetNextTry = false) (counter : s.param.retry = if i = start then r else 0)
    (skipped : ∀ j group, start ≤ j → j < i → route.groups[j]? = some group → ¬ cache.Serves group route.model) :
    SearchEnds route cache start r s (searchAutoGroups cache settings random start i rest s) := by
  induction rest generalizing i s with
  | nil =>
    refine .inl ⟨s, rfl, ?_⟩
    intro j group from_start named
    have short : route.groups.length ≤ i := drop_eq_nil_iff.mp listed.symm
    have inside := (List.getElem?_eq_some_iff.mp named).1
    exact skipped j group from_start (by omega) named
  | cons autoGroup rest step =>
    have named : route.groups[i]? = some autoGroup := by
      have := congrArg List.head? listed
      simpa [head?_drop] using this.symm
    have skip (missed : ¬ cache.Serves autoGroup route.model) :
        SearchEnds route cache start r s
          (searchAutoGroups cache settings random start (i + 1) rest (s.skipGroup i)) := by
      obtain ended | ⟨pick, t, found, picked, moved⟩ :=
        step (i + 1) (s.skipGroup i) (by omega)
          (by rw [← tail_drop, ← listed, tail_cons]) token model crossing fresh
          (by rw [if_neg (by omega)]; rfl) (by
            intro j group from_start before at_j
            rcases Nat.lt_succ_iff_lt_or_eq.mp before with earlier | rfl
            · exact skipped j group from_start earlier at_j
            · rw [named] at at_j
              cases at_j
              exact missed)
      · exact .inl ended
      · exact .inr ⟨pick, t, found, picked, moved.of_skipGroup⟩
    have priority : (if i > start then 0 else s.param.retry) = if i = start then r else 0 := by
      rw [counter]
      split <;> split <;> first | rfl | omega
    simp only [searchAutoGroups, priority, model]
    generalize place : (if i = start then r else 0) = p at counter
    rcases lookup : cache.getRandomSatisfiedChannel autoGroup route.model p (random i) with text | _ | channel
    · exact skip (not_serves_of_lookup lookup (by simp))
    · exact skip (not_serves_of_lookup lookup (by simp))
    have picked : route.Picked cache start r ⟨i, autoGroup, p, channel⟩ :=
      { index_le := ahead
        group := named
        retry := place.symm
        guard := guard
        selected := ⟨random i, lookup⟩
        skipped := skipped }
    by_cases leaves : s.context.tokenCrossGroupRetry = true ∧ p ≥ settings.retryTimes
    · refine .inr ⟨_, _, if_pos leaves, picked, ?_⟩
      constructor
      · exact ⟨rfl, rfl, rfl, rfl, rfl, rfl⟩
      · rfl
      · have away : ((s.setAutoGroup autoGroup).leaveGroup i).startGroupIndex = i + 1 := if_pos token
        rw [away]
        exact .leave (crossing.mpr leaves.1) (retryTimes.trans_le leaves.2)
      · rfl
      · intro _ retries
        exact retries
    · refine .inr ⟨_, _, if_neg leaves, picked, ?_⟩
      have below : route.crossing → p < route.retryTimes := by
        intro crosses
        have := mt (And.intro (crossing.mp crosses)) leaves
        omega
      constructor
      · exact ⟨rfl, rfl, rfl, rfl, rfl, rfl⟩
      · rfl
      · have here : ((s.setAutoGroup autoGroup).setAutoGroupIndex i).startGroupIndex = i := if_pos token
        rw [here]
        have : ((s.setAutoGroup autoGroup).setAutoGroupIndex i).param.increaseRetry.retry = p + 1 := by
          simp [setAutoGroup, setAutoGroupIndex, increaseRetry, fresh, counter]
        rw [this]
        exact .stay below
      · simp [setAutoGroup, setAutoGroupIndex, increaseRetry, fresh]
      · intro crosses _
        have := below crosses
        simpa [setAutoGroup, setAutoGroupIndex, counter] using this

/-- Nothing found by a selection: an error, or no channel. -/
def NotFound (answer : Except String (Option Pick)) : Prop := ∀ pick, answer ≠ .ok (some pick)

def SelectionEnds (route : Route) (cache : ChannelCache) (s : RelayState)
    (result : Except String (Option Pick) × String × RelayState) : Prop :=
  (∃ answer group t, result = (answer, group, t) ∧ NotFound answer ∧ Unserved route cache s.startGroupIndex) ∨
    ∃ pick group t, result = (.ok (some pick), group, t) ∧
      route.Picked cache s.startGroupIndex s.param.retry pick ∧ Moved route s t pick

theorem cacheGet_auto (cache : ChannelCache) (random : Nat → Nat) (token : s.param.tokenGroup = "auto")
    (groups : route.groups = settings.getUserAutoGroup s.context.userGroup)
    (model : s.param.modelName = route.model) (retryTimes : route.retryTimes = settings.retryTimes)
    (crossing : route.crossing ↔ s.context.tokenCrossGroupRetry = true)
    (fresh : s.param.resetNextTry = false) (guard : s.param.retry ≤ settings.retryTimes) :
    SelectionEnds route cache s (cacheGetRandomSatisfiedChannel cache settings random s) := by
  unfold cacheGetRandomSatisfiedChannel
  rw [if_pos token]
  by_cases disabled : settings.autoGroups.length = 0
  · refine .inl ⟨_, _, _, if_pos disabled, by simp [NotFound], ?_⟩
    intro j group _ named
    rw [groups, getUserAutoGroup, length_eq_zero_iff.mp disabled] at named
    cases named
  · rw [if_neg disabled, ← groups]
    obtain ⟨t, ended, unserved⟩ | ⟨pick, t, found, picked, moved⟩ :=
      searchAutoGroups_spec cache random retryTimes
        (guard.trans_eq retryTimes.symm) _ s.startGroupIndex s le_rfl rfl token model crossing fresh
        (if_pos rfl).symm (by intro j _ from_start before; omega)
    · refine .inl ⟨.ok none, s.param.tokenGroup, t, ?_, by simp [NotFound], unserved⟩
      simp only [ended]
      rfl
    · refine .inr ⟨pick, pick.group, t, ?_, picked, moved⟩
      simp only [found]
      rfl

/-- Outside `auto` there is one group, and the retry counter picks the level. -/
theorem cacheGet_fixed (cache : ChannelCache) (random : Nat → Nat)
    (token : s.param.tokenGroup ≠ "auto") (groups : route.groups = [s.param.tokenGroup])
    (model : s.param.modelName = route.model) (retryTimes : route.retryTimes = settings.retryTimes)
    (crossing : ¬ route.crossing) (fresh : s.param.resetNextTry = false) (guard : s.param.retry ≤ settings.retryTimes) :
    SelectionEnds route cache s (cacheGetRandomSatisfiedChannel cache settings random s) := by
  have start : s.startGroupIndex = 0 := if_neg token
  have only {j : Nat} {group : String} (named : route.groups[j]? = some group) : group = s.param.tokenGroup := by
    rw [groups] at named
    have := mem_of_getElem? named
    simpa using this
  unfold cacheGetRandomSatisfiedChannel
  rw [if_neg token, model]
  cases lookup : cache.getRandomSatisfiedChannel s.param.tokenGroup route.model s.param.retry
    (random 0) with
  | error text =>
    refine .inl ⟨_, _, _, rfl, by simp [NotFound], ?_⟩
    intro j group _ named
    rw [only named]
    exact not_serves_of_lookup lookup (by simp)
  | ok answer =>
    cases answer with
    | none =>
      refine .inl ⟨_, _, _, rfl, by simp [NotFound], ?_⟩
      intro j group _ named
      rw [only named]
      exact not_serves_of_lookup lookup (by simp)
    | some channel =>
      refine .inr ⟨_, _, _, rfl, ?_, ?_⟩
      · constructor
        · exact start.le
        · simp [groups]
        · simp [start]
        · omega
        · exact ⟨random 0, lookup⟩
        · simp
      · constructor
        · exact ⟨rfl, rfl, rfl, rfl, rfl, rfl⟩
        · rfl
        · simp only [start, increaseRetry, fresh]
          exact .stay fun crosses => absurd crosses crossing
        · simp [increaseRetry, fresh]
        · exact fun crosses => absurd crosses crossing

/-- A selection: nothing left to find, or a channel and one step of the walk. -/
theorem getChannel_spec (same : SameRequest origin s)
    (setup : ∀ attempt, world.setup attempt = none) (chosen : s.channelMeta = true)
    (fresh : s.param.resetNextTry = false) (guard : s.param.retry ≤ settings.retryTimes) (attempt : Nat) :
    (∃ err t, getChannel cache settings world attempt s = (.error err, [⟨s.startGroupIndex, none⟩], t) ∧
      Unserved (routeOf settings world origin) cache s.startGroupIndex) ∨
    ∃ pick t, getChannel cache settings world attempt s = (.ok pick.channel.id, [⟨s.startGroupIndex, some pick⟩], t) ∧
      (routeOf settings world origin).Picked cache s.startGroupIndex s.param.retry pick ∧
      Moved (routeOf settings world origin) s t pick := by
  have groups : (routeOf settings world origin).groups = settings.groupsOf s.param.tokenGroup s.context.userGroup := by
    rw [same.tokenGroup, same.userGroup]
    rfl
  have crossing : (routeOf settings world origin).crossing ↔
      s.param.tokenGroup = "auto" ∧ s.context.tokenCrossGroupRetry = true := by
    rw [same.tokenGroup, same.crossing]
    rfl
  have selection : SelectionEnds _ cache s _ :=
    if token : s.param.tokenGroup = "auto" then
      cacheGet_auto cache (world.random attempt) token
        (groups.trans (if_pos token)) same.modelName rfl (by simp [crossing, token]) fresh guard
    else
      cacheGet_fixed cache (world.random attempt) token
        (groups.trans (if_neg token)) same.modelName rfl (by simp [crossing, token]) fresh guard
  unfold getChannel
  rw [if_neg (by simp [chosen])]
  obtain ⟨answer, group, t, ended, missed, unserved⟩ | ⟨pick, group, t, found, picked, moved⟩ := selection
  · rw [ended]
    cases answer with
    | error text => exact .inl ⟨_, _, rfl, unserved⟩
    | ok answer =>
      cases answer with
      | none => exact .inl ⟨_, _, rfl, unserved⟩
      | some pick => exact absurd rfl (missed pick)
  · rw [found]
    refine .inr ⟨pick, _, by rw [setup], picked, ?_⟩
    exact { moved with same := moved.same.trans ⟨rfl, rfl, rfl, rfl, rfl, rfl⟩ }

variable {t : RelayState} {fuel : Nat}

theorem shouldRetry_congr (same : SameRequest origin t) (err : Option NewAPIError) (remaining : Int) :
    settings.shouldRetry t.context err remaining = settings.shouldRetry origin.context err remaining := by
  simp only [shouldRetry, same.affinity, same.specific]

theorem attemptOutcome_tireless (same : SameRequest origin t) (tireless : AlwaysRetries settings world origin.context)
    (remaining : t.param.retry < settings.retryTimes) (attempt : Nat) :
    (attemptOutcome settings world attempt t).2 = true := by
  obtain ⟨body, err, answer, accepts⟩ := tireless attempt
  simp only [attemptOutcome, body, answer, shouldRetry_congr same]
  exact accepts _ (by omega)

def RelayState.nextRound (t : RelayState) (initialised : Bool) : RelayState :=
  { t with param := t.param.increaseRetry, channelMeta := t.channelMeta || initialised }

theorem increaseRetry_tokenGroup (param : RetryParam) : param.increaseRetry.tokenGroup = param.tokenGroup := by
  unfold increaseRetry
  split <;> rfl

theorem increaseRetry_modelName (param : RetryParam) : param.increaseRetry.modelName = param.modelName := by
  unfold increaseRetry
  split <;> rfl

theorem same_nextRound (t : RelayState) (initialised : Bool) : SameRequest t (t.nextRound initialised) :=
  ⟨increaseRetry_tokenGroup _, increaseRetry_modelName _, rfl, rfl, rfl, rfl⟩

theorem startGroupIndex_nextRound (t : RelayState) (initialised : Bool) :
    (t.nextRound initialised).startGroupIndex = t.startGroupIndex := by
  simp only [startGroupIndex, nextRound, increaseRetry_tokenGroup]

/-- Enough rounds: the loop ends, and its selections are a walk. -/
theorem relayLoop_walks (cache : ChannelCache) (setup : ∀ attempt, world.setup attempt = none)
    (fuel attempt : Nat) (lastError : Option NewAPIError) (s : RelayState)
    (same : SameRequest origin s) (chosen : s.channelMeta = true) (fresh : s.param.resetNextTry = false)
    (tireless : (routeOf settings world origin).tireless → s.param.retry ≤ settings.retryTimes)
    (enough : (routeOf settings world origin).groups.length * (settings.retryTimes + 1) -
      Walk.place (routeOf settings world origin) s.startGroupIndex s.param.retry < fuel) :
    ∃ run, relayLoop cache settings world fuel attempt lastError s = some run ∧
      Walk (routeOf settings world origin) cache s.startGroupIndex s.param.retry run.selections ∧
      run.useChannel.length = (picks run.selections).length := by
  induction fuel generalizing attempt lastError s with
  | zero => omega
  | succ fuel step =>
    unfold relayLoop
    by_cases guard : s.param.retry ≤ settings.retryTimes
    · rw [if_pos guard]
      obtain ⟨err, t, ended, unserved⟩ | ⟨pick, t, found, picked, moved⟩ :=
        getChannel_spec same setup chosen fresh guard attempt
      · rw [ended]
        exact ⟨_, rfl, .fail unserved, rfl⟩
      rw [found]
      have request := same.trans moved.same
      cases outcome : attemptOutcome settings world attempt t with
      | mk err goes =>
        simp only [outcome]
        cases goes with
        | false =>
          have tires : ¬ (routeOf settings world origin).tireless := by
            rintro ⟨token, crosses, retries, always⟩
            have remaining := moved.remaining ⟨token, crosses⟩ retries
            have := attemptOutcome_tireless request always remaining attempt
            simp [outcome] at this
          exact ⟨_, rfl, .pick picked moved.next (.stop tires), rfl⟩
        | true =>
          have here := Walk.place_picked picked
          have inside : _ < _ * (settings.retryTimes + 1) := Walk.place_lt picked
          have further := Walk.place_next moved.next picked.bound
          have start := startGroupIndex_nextRound t (world.initialises attempt)
          obtain ⟨run, ran, walk, counted⟩ := step (attempt + 1) err
            (t.nextRound (world.initialises attempt)) (request.trans (same_nextRound _ _))
            (by simp [nextRound, moved.channelMeta, chosen]) moved.once
            (by
              rintro ⟨token, crosses, -⟩
              exact Walk.next_retry_le moved.next ⟨token, crosses⟩)
            (by
              rw [start]
              change _ - Walk.place _ _ t.param.increaseRetry.retry < fuel
              omega)
          rw [start] at walk
          refine ⟨run.after pick.channel.id [⟨s.startGroupIndex, some pick⟩], ?_, .pick picked moved.next walk, ?_⟩
          · exact congrArg (Option.map _) ran
          · simp [RelayRun.after, counted]
    · rw [if_neg guard]
      exact ⟨_, rfl, .stop fun tires => guard (tireless tires), rfl⟩

/-- More rounds change nothing once the loop has ended. -/
theorem relayLoop_mono {more attempt : Nat} {lastError : Option NewAPIError} {run : RelayRun}
    (ended : relayLoop cache settings world fuel attempt lastError s = some run)
    (le : fuel ≤ more) : relayLoop cache settings world more attempt lastError s = some run := by
  induction fuel generalizing more attempt lastError s run with
  | zero => cases ended
  | succ fuel step =>
    obtain ⟨more, rfl⟩ := Nat.exists_eq_add_of_le' (Nat.one_le_of_lt le)
    unfold relayLoop at ended ⊢
    split
    · rename_i guard
      rw [if_pos guard] at ended
      split
      · rename_i selected
        rw [selected] at ended
        exact ended
      · rename_i selected
        rw [selected] at ended
        simp only at ended
        split
        · rename_i outcome
          rw [outcome] at ended
          exact ended
        · rename_i outcome
          rw [outcome] at ended
          obtain ⟨rest, ran, rfl⟩ := map_eq_some_iff.mp ended
          rw [step ran (le_of_succ_le_succ le), map_some]
    · rename_i guard
      rw [if_neg guard] at ended
      exact ended

theorem rounds_pos (settings : RelaySettings) (tokenGroup userGroup : String) :
    1 ≤ (settings.retryTimes + 1) * max 1 (settings.groupsOf tokenGroup userGroup).length :=
  Nat.mul_pos (by omega) (by omega)

theorem rounds_le (settings : RelaySettings) (tokenGroup userGroup : String) :
    (settings.groupsOf tokenGroup userGroup).length * (settings.retryTimes + 1) ≤
      (settings.retryTimes + 1) * max 1 (settings.groupsOf tokenGroup userGroup).length := by
  rw [mul_comm]
  exact mul_le_mul_left _ (le_max_right _ _)

/-- The first attempt uses the channel of the context, the others a walk. -/
theorem relay_walks (cache : ChannelCache) (initialises : ∀ attempt, world.initialises attempt = true)
    (setup : ∀ attempt, world.setup attempt = none) (tokenGroup modelName : String) (context : RequestContext)
    (enough : (settings.retryTimes + 1) * max 1 (settings.groupsOf tokenGroup context.userGroup).length < fuel) :
    ∃ run, relay cache settings world fuel tokenGroup modelName context = some run ∧
      Walk (routeOf settings world (firstRound tokenGroup modelName context)) cache
        (firstRound tokenGroup modelName context).startGroupIndex 1 run.selections ∧
      run.useChannel.length = (picks run.selections).length + 1 := by
  have rounds := rounds_pos settings tokenGroup context.userGroup
  have whole := rounds_le settings tokenGroup context.userGroup
  obtain ⟨fuel, rfl⟩ := Nat.exists_eq_add_of_le' (rounds.trans enough.le)
  have guard : (firstRound tokenGroup modelName context).param.retry ≤ settings.retryTimes := zero_le _
  have first : getChannel cache settings world 0 (firstRound tokenGroup modelName context) =
      (.ok context.channelId, [], firstRound tokenGroup modelName context) := rfl
  unfold relay relayLoop
  rw [if_pos guard, first]
  cases outcome : attemptOutcome settings world 0 (firstRound tokenGroup modelName context) with
  | mk err goes =>
    simp only [outcome, initialises]
    cases goes with
    | false =>
      refine ⟨_, rfl, .stop ?_, rfl⟩
      rintro ⟨-, -, retries, always⟩
      have := attemptOutcome_tireless (SameRequest.refl _) always retries 0
      simp [outcome] at this
    | true =>
      obtain ⟨run, ran, walk, counted⟩ := relayLoop_walks cache setup fuel 1 err
        ((firstRound tokenGroup modelName context).nextRound true) (same_nextRound _ _) rfl rfl
        (fun tireless => tireless.2.2.1) (by
          change (settings.groupsOf tokenGroup context.userGroup).length * _ -
            (_ * _ + 1) < fuel
          omega)
      rw [startGroupIndex_nextRound] at walk
      refine ⟨run.after context.channelId [], ?_, walk, ?_⟩
      · exact congrArg (Option.map _) ran
      · simp [RelayRun.after, counted]

end

def twoGroupCache : ChannelCache where
  group2model2channels group model :=
    if model = "m" then if group = "a" then [1, 2] else if group = "b" then [3] else [] else []
  channelsIDM id := [plainChannel 1 10, plainChannel 2 5, plainChannel 3 0].find? (·.id = id)

def retryOnce : RelaySettings where
  retryTimes := 1
  autoGroups := ["a", "b"]
  userUsableGroups := ["a", "b"]
  groupSpecialUsableGroup _ := none
  automaticRetryStatusCodeRanges := defaultRetryStatusCodeRanges

def serverError : UpstreamError where
  text := "upstream failed"
  errorCode := "bad_response_status_code"
  statusCode := 500
  skipRetry := false
  toOpenAIError := { message := "upstream failed", code := "bad_response_status_code" }

def failingUpstream : Upstream where
  random _ _ := 0
  setup _ := none
  body _ := none
  initialises _ := true
  answer _ := some serverError

def autoContext : RequestContext where
  userGroup := "a"
  tokenCrossGroupRetry := true
  autoGroupIndex := none
  autoGroup := none
  channelId := 1
  channelAffinitySkipRetry := false
  specificChannelId := false

theorem failingUpstream_retries : AlwaysRetries retryOnce failingUpstream autoContext := by
  intro attempt
  refine ⟨rfl, serverError, rfl, ?_⟩
  intro remaining positive
  have normal : normalizeViolationFeeError serverError = serverError.toNewAPIError := by decide +kernel
  have apart : ¬ remaining ≤ 0 := by omega
  rw [normal]
  simp only [shouldRetry, apart]
  decide +kernel

end NewApi.Routing
