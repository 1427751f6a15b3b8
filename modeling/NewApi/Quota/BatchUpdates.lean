/-
# Quota.BatchUpdates — the batch updater loses and doubles nothing

A delta is in the pending map, in a map that a run of `batchUpdate` has swapped out and not yet
applied, or in the table, and a step moves it from one to the next (`Conserves`).  A task that has
ended has recorded the deltas of its call and nothing swapped out (`task_meets`), and a last run leaves
the tables the direct path leaves.  `Moved` says by how much every counter has moved, and that
determines the tables (`Moved.unique`).
-/
import Mathlib.Algebra.BigOperators.Group.Finset.Piecewise
import Mathlib.Data.Fintype.Basic
import NewApi.Model.BatchUpdater
import NewApi.Theory.Contract

namespace NewApi.Quota
open Theory Model BatchStore Program CounterTables Sql Pool Option

/-! ## Counters -/

variable (tables : CounterTables)

/-- The counter a delta of `type` changes. -/
def column : BatchUpdateType → Int → Option Int
  | .userQuota, id => (tables.users id).map (·.quota)
  | .usedQuota, id => (tables.users id).map (·.usedQuota)
  | .requestCount, id => (tables.users id).map (·.requestCount)
  | .tokenQuota, id => (tables.tokens id).map (·.remainQuota)
  | .channelUsedQuota, id => tables.channels id

/-- The other column of a token. -/
def tokenUsed (id : Int) : Option Int := (tables.tokens id).map (·.usedQuota)

/-- What a delta is for one counter. -/
def share (type : BatchUpdateType) (id : Int) (delta : Delta) : Int :=
  if delta.type = type ∧ delta.id = id then delta.value else 0

/-- The sum of the deltas for one counter. -/
def total (deltas : List Delta) (type : BatchUpdateType) (id : Int) : Int := (deltas.map (share type id)).sum

@[simp] theorem total_nil (type : BatchUpdateType) (id : Int) : total [] type id = 0 := rfl

@[simp] theorem total_cons (delta : Delta) (deltas : List Delta) (type : BatchUpdateType) (id : Int) :
    total (delta :: deltas) type id = share type id delta + total deltas type id := by
  simp [total]

@[simp] theorem total_append (deltas more : List Delta) (type : BatchUpdateType) (id : Int) :
    total (deltas ++ more) type id = total deltas type id + total more type id := by
  simp [total]

structure Moved (tables tables' : CounterTables) (amount : BatchUpdateType → Int → Int) : Prop where
  column : ∀ type id, column tables' type id = (column tables type id).map (· + amount type id)
  used : ∀ id, tokenUsed tables' id = (tokenUsed tables id).map (· - amount .tokenQuota id)

namespace Moved

variable {tables tables' tables'' : CounterTables} {amount more : BatchUpdateType → Int → Int}

theorem refl (tables : CounterTables) : Moved tables tables fun _ _ => 0 := by
  constructor <;> simp

theorem trans (first : Moved tables tables' amount) (second : Moved tables' tables'' more) :
    Moved tables tables'' fun type id => amount type id + more type id where
  column type id := by
    rw [second.column, first.column, map_map]
    congr 1
    funext v
    simp only [Function.comp_apply]
    omega
  used id := by
    rw [second.used, first.used, map_map]
    congr 1
    funext v
    simp only [Function.comp_apply]
    omega

theorem congr (moved : Moved tables tables' amount) (same : ∀ type id, more type id = amount type id) :
    Moved tables tables' more := by
  have : more = amount := by
    funext type id
    exact same type id
  rw [this]
  exact moved

/-- The tables are determined by how far they have moved. -/
theorem unique (moved : Moved tables tables' amount) (moved' : Moved tables tables'' amount) : tables' = tables'' := by
  have column : ∀ type id, Quota.column tables' type id = Quota.column tables'' type id := fun type id =>
    (moved.column type id).trans (moved'.column type id).symm
  have used : ∀ id, tokenUsed tables' id = tokenUsed tables'' id := fun id =>
    (moved.used id).trans (moved'.used id).symm
  ext1
  · funext id
    have quota := column .userQuota id
    have usedQuota := column .usedQuota id
    have requestCount := column .requestCount id
    simp only [Quota.column] at quota usedQuota requestCount
    match here : tables'.users id, there : tables''.users id with
    | none, none => rfl
    | some ⟨_, _, _⟩, some ⟨_, _, _⟩ => simp_all
    | none, some _ | some _, none => simp [here, there] at quota
  · funext id
    have remain := column .tokenQuota id
    have rest := used id
    simp only [Quota.column, tokenUsed] at remain rest
    match here : tables'.tokens id, there : tables''.tokens id with
    | none, none => rfl
    | some ⟨_, _⟩, some ⟨_, _⟩ => simp_all
    | none, some _ | some _, none => simp [here, there] at remain
  · funext id
    exact column .channelUsedQuota id

end Moved

/-- A relative update moves its own counter. -/
theorem moved_add (delta : Delta) : Moved tables (tables.add delta) fun type id => share type id delta := by
  obtain ⟨type, id, value⟩ := delta
  constructor
  · intro type' id'
    by_cases same : id' = id
    · subst same
      cases type <;> cases type' <;>
        simp [column, add, setUser, share, Function.comp_def]
    · have other : ¬id = id' := fun h => same h.symm
      cases type <;> cases type' <;>
        simp [column, add, setUser, share, same, other, Function.comp_def]
  · intro id'
    by_cases same : id' = id
    · subst same
      cases type <;>
        simp [tokenUsed, add, setUser, share, Function.comp_def]
    · have other : ¬id = id' := fun h => same h.symm
      cases type <;>
        simp [tokenUsed, add, setUser, share, same, other, Function.comp_def]

theorem moved_addAll (deltas : List Delta) : Moved tables (tables.addAll deltas) (total deltas) := by
  induction deltas generalizing tables with
  | nil => exact .refl tables
  | cons delta deltas ih =>
    refine ((moved_add tables delta).trans (ih (tables.add delta))).congr fun type id => ?_
    exact total_cons delta deltas type id

/-- The order of relative updates is of no account. -/
theorem addAll_perm {deltas others : List Delta} (perm : deltas.Perm others) :
    tables.addAll deltas = tables.addAll others := by
  refine (moved_addAll tables deltas).unique ((moved_addAll tables others).congr fun type id => ?_)
  exact (perm.map _).sum_eq

/-- The deltas a call stands for; a negative quota is refused. -/
def deltasOf : BatchTask → List Delta
  | .increaseUserQuota id quota _ => if quota < 0 then [] else [⟨.userQuota, id, quota⟩]
  | .decreaseUserQuota id quota _ => if quota < 0 then [] else [⟨.userQuota, id, -quota⟩]
  | .increaseTokenQuota id quota => if quota < 0 then [] else [⟨.tokenQuota, id, quota⟩]
  | .decreaseTokenQuota id quota => if quota < 0 then [] else [⟨.tokenQuota, id, -quota⟩]
  | .updateUserUsedQuotaAndRequestCount id quota => [⟨.usedQuota, id, quota⟩, ⟨.requestCount, id, 1⟩]
  | .updateChannelUsedQuota id quota => [⟨.channelUsedQuota, id, quota⟩]
  | .batchUpdate _ => []

/-! ## One task -/

/-- What a task knows of itself: what it has swapped out, and the deltas it has recorded. -/
structure Known where
  swapped : BatchUpdateType → Int → Int
  recorded : List Delta

section
variable {ρ : Type} {run : ρ} {batched : Bool} {s s' : BatchStore ρ} {g : Known}

/-- A step of task `run` that records `deltas`: what leaves one place arrives in the next.  Without batch
update nothing is pending. -/
structure Conserves (batched : Bool) (run : ρ) (deltas : List Delta) (s s' : BatchStore ρ) : Prop where
  others : ∀ r, r ≠ run → s'.swapped r = s.swapped r
  recorded : s'.recorded = s.recorded ++ deltas
  direct : batched = false → s'.pending = s.pending
  moved : Moved s.tables s'.tables fun type id =>
    total deltas type id + ((s.pending type).value id - (s'.pending type).value id) +
      (s.swapped run type id - s'.swapped run type id)

/-- What a task knows agrees with the store. -/
structure Knows (batched : Bool) (run : ρ) (g : Known) (s : BatchStore ρ) : Prop where
  swapped : s.swapped run = g.swapped
  direct : batched = false → ∀ type, (s.pending type).entries = []

/-- Every update succeeds. -/
def batchSetting (batched : Bool) (run : ρ) : Setting (BatchStore ρ) Known where
  meets _ faults := faults = []
  sees g s := Knows batched run g s
  moves s s' g := ⟨s'.swapped run, g.recorded ++ s'.recorded.drop s.recorded.length⟩
  keeps s s' _ := ∃ deltas, Conserves batched run deltas s s'

theorem store_meets {α : Type} {act : Sql (BatchStore ρ) α} {deltas : List Delta}
    {Q : Except String α → (BatchUpdateType → Int → Int) → Prop}
    (step : ∀ s, Knows batched run g s → Conserves batched run deltas s (act.exec s []).2 ∧
      Q (act.exec s []).1 ((act.exec s []).2.swapped run)) :
    (store act).Meets (batchSetting batched run) g fun outcome g' =>
      ∃ swapped, Q outcome swapped ∧ g' = ⟨swapped, g.recorded ++ deltas⟩ := by
  refine .store fun s faults seen may => ?_
  subst may
  obtain ⟨conserves, holds⟩ := step s seen
  refine ⟨⟨deltas, conserves⟩, _, holds, ?_⟩
  simp only [batchSetting, conserves.recorded, List.drop_left]

/-- The same for a step of the updater, which records nothing. -/
theorem apply_meets {α : Type} {act : Sql (BatchStore ρ) α} {Q : Except String α → (BatchUpdateType → Int → Int) → Prop}
    (step : ∀ s, Knows batched run g s → Conserves batched run [] s (act.exec s []).2 ∧
      Q (act.exec s []).1 ((act.exec s []).2.swapped run)) :
    (store act).Meets (batchSetting batched run) g fun outcome g' =>
      ∃ swapped, Q outcome swapped ∧ g' = { g with swapped } := by
  refine (store_meets step).mono fun _ _ after => ?_
  rw [List.append_nil] at after
  exact after

theorem conserves_refl (run : ρ) (s : BatchStore ρ) : Conserves batched run [] s s :=
  ⟨fun _ _ => rfl, (List.append_nil _).symm, fun _ => rfl, (Moved.refl _).congr fun _ _ => by simp⟩

/-- A task that has only recorded `deltas`. -/
def Known.record (g : Known) (deltas : List Delta) : Known := { g with recorded := g.recorded ++ deltas }

theorem record_meets {act : Sql (BatchStore ρ) Unit} {deltas : List Delta} (step : ∀ s,
      Conserves batched run deltas s (act.exec s []).2 ∧ (act.exec s []).2.swapped run = s.swapped run) :
    (store act).Meets (batchSetting batched run) g fun _ g' => g' = g.record deltas := by
  have steps : ∀ s, Knows batched run g s → Conserves batched run deltas s (act.exec s []).2 ∧
      (act.exec s []).2.swapped run = g.swapped := fun s knows => ⟨(step s).1, (step s).2.trans knows.swapped⟩
  refine (store_meets (Q := fun _ swapped => swapped = g.swapped) steps).mono ?_
  rintro _ _ ⟨_, rfl, rfl⟩
  rfl

theorem addNewRecord_meets (type : BatchUpdateType) (id value : Int) :
    (store (addNewRecord type id value)).Meets (batchSetting true run) g
      fun _ g' => g' = g.record [⟨type, id, value⟩] := by
  refine record_meets fun s => ⟨⟨fun _ _ => rfl, rfl, nofun, (Moved.refl _).congr fun type' id' => ?_⟩, rfl⟩
  by_cases same : type' = type
  · subst same
    simp [addNewRecord, exec, share, eq_comm]
  · have other : ¬type = type' := fun h => same h.symm
    simp [addNewRecord, exec, share, same, other]

theorem updateNow_meets (deltas : List Delta) :
    (store (updateNow deltas)).Meets (batchSetting batched run) g fun _ g' => g' = g.record deltas := by
  refine record_meets fun s => ⟨⟨fun _ _ => rfl, rfl, fun _ => rfl, ?_⟩, rfl⟩
  refine (moved_addAll s.tables deltas).congr fun type id => ?_
  simp [updateNow, exec, autocommit_nil]

theorem change_meets {here : Bool} (off : batched = false → here = false) (type : BatchUpdateType) (id value : Int) :
    (store (change here type id value)).Meets (batchSetting batched run) g
      fun _ g' => g' = g.record [⟨type, id, value⟩] := by
  unfold change
  cases here with
  | false => exact updateNow_meets _
  | true =>
    obtain rfl : batched = true := by simpa using off
    exact addNewRecord_meets type id value

/-- A change that is refused for a negative amount. -/
theorem changeUnless_meets {refused : Prop} [Decidable refused] {here : Bool} (off : batched = false → here = false)
    (type : BatchUpdateType) (id value : Int) : (store (if refused then throw errNegativeQuota
      else change here type id value)).Meets (batchSetting batched run) g
      fun _ g' => g' = g.record (if refused then [] else [⟨type, id, value⟩]) := by
  split
  · exact record_meets fun s => ⟨conserves_refl run s, rfl⟩
  · exact change_meets off _ _ _

variable (types : List BatchUpdateType)

/-- Without batch update the updater never finds anything. -/
theorem hasData_meets : (hasData types : Program (BatchStore ρ) Bool).Meets (batchSetting batched run) g
      fun data g' => g' = g ∧ (data = true → batched = true) := by
  induction types with
  | nil => exact ⟨rfl, nofun⟩
  | cons type rest ih =>
    refine .bind (apply_meets (Q := fun outcome swapped =>
      swapped = g.swapped ∧ (outcome = .ok true → batched = true)) fun s knows => ?_) ?_
    · refine ⟨conserves_refl run s, knows.swapped, fun some => ?_⟩
      cases batched with
      | true => rfl
      | false => simp [exec, knows.direct rfl type] at some
    · rintro (e | _ | _) _ ⟨_, ⟨rfl, data⟩, rfl⟩
      · exact ih
      · exact ih
      · exact ⟨rfl, fun _ => data rfl⟩

variable [DecidableEq ρ] {type : BatchUpdateType} {stores : BatchUpdateType → DeltaMap Int}

theorem swap_meets (nothing : ∀ id, g.swapped type id = 0) :
    (store (swap run type)).Meets (batchSetting true run) g fun outcome g' =>
      ∃ store, outcome = .ok store ∧ g' = { g with swapped := Function.update g.swapped type store.value } := by
  refine (apply_meets (Q := fun outcome swapped =>
    ∃ store, outcome = .ok store ∧ swapped = Function.update g.swapped type store.value) fun s knows => ?_).mono ?_
  · refine ⟨⟨fun r other => ?_, (List.append_nil _).symm, nofun, (Moved.refl _).congr fun type' id => ?_⟩,
      s.pending type, rfl, ?_⟩
    · simp [swap, exchange, exec, other]
    · have empty : s.swapped run type id = 0 := by
        rw [knows.swapped]
        exact nothing id
      by_cases same : type' = type
      · subst same
        simp [swap, exchange, exec, empty]
      · simp [swap, exchange, exec, same]
    · simp [swap, exchange, exec, knows.swapped]
  · rintro _ _ ⟨_, ⟨store, rfl, rfl⟩, rfl⟩
    exact ⟨store, rfl, rfl⟩

theorem swapAll_meets (distinct : types.Nodup) (nothing : ∀ type ∈ types, ∀ id, g.swapped type id = 0)
    (holds : ∀ type id, g.swapped type id = (stores type).value id) :
    (swapAll run types stores).Meets (batchSetting true run) g fun stores' g' =>
      (∀ type id, g'.swapped type id = (stores' type).value id) ∧ g'.recorded = g.recorded := by
  induction types generalizing g stores with
  | nil => exact ⟨holds, rfl⟩
  | cons type rest ih =>
    obtain ⟨fresh, distinct⟩ := List.nodup_cons.mp distinct
    refine .bind (swap_meets (nothing type List.mem_cons_self)) ?_
    rintro _ _ ⟨store, rfl, rfl⟩
    refine ih distinct (fun type' inside id => ?_) fun type' id => ?_
    · have other : type' ≠ type := by
        rintro rfl
        exact fresh inside
      show Function.update g.swapped type store.value type' id = 0
      rw [Function.update_of_ne other]
      exact nothing type' (List.mem_cons_of_mem _ inside) id
    · show Function.update g.swapped type store.value type' id = _
      by_cases same : type' = type
      · subst same
        simp
      · rw [Function.update_of_ne same, Function.update_of_ne same]
        exact holds type' id

/-! ### Applying -/

def without (types : List BatchUpdateType) (ids : List Int) (g : BatchUpdateType → Int → Int) : BatchUpdateType → Int → Int :=
  fun type id => if type ∈ types ∧ id ∈ ids then 0 else g type id

def Known.struck (g : Known) (types : List BatchUpdateType) (ids : List Int) : Known :=
  { g with swapped := without types ids g.swapped }

section
variable {g : BatchUpdateType → Int → Int}

@[simp] theorem without_nil (g : BatchUpdateType → Int → Int) : without types [] g = g := by
  funext type id
  simp [without]

theorem without_cons (id : Int) (ids : List Int) (g : BatchUpdateType → Int → Int) :
    without types (id :: ids) g = without types ids (without types [id] g) := by
  funext type' id'
  simp only [without]
  by_cases typed : type' ∈ types
  · by_cases here : id' = id <;> by_cases later : id' ∈ ids <;> simp [typed, later]
  · simp [typed]

/-- What is zero stays zero. -/
theorem without_of_zero {types : List BatchUpdateType} {ids : List Int}
    (zero : ∀ type ∈ types, ∀ id ∈ ids, g type id = 0) : without types ids g = g := by
  funext type id
  unfold without
  split
  · rename_i here
    exact (zero type here.1 id here.2).symm
  · rfl

end

theorem struck_nil (g : Known) : g.struck types [] = g := by
  simp [Known.struck]

theorem struck_cons (g : Known) (id : Int) (ids : List Int) :
    g.struck types (id :: ids) = (g.struck types [id]).struck types ids := by
  simp only [Known.struck]
  rw [without_cons]

section
variable (s) (run) (type) (id : Int)

@[simp] theorem strike_pending : (s.strike run type id).pending = s.pending := rfl

@[simp] theorem strike_recorded : (s.strike run type id).recorded = s.recorded := rfl

end

theorem strike_other {r : ρ} (other : r ≠ run) (type : BatchUpdateType) (id : Int) :
    (s.strike run type id).swapped r = s.swapped r := by
  simp [strike, other]

@[simp] theorem strike_self (s : BatchStore ρ) (run : ρ) (type : BatchUpdateType) (id : Int) :
    (s.strike run type id).swapped run = without [type] [id] (s.swapped run) := by
  funext type' id'
  simp only [strike, without]
  by_cases same : type' = type
  · subst same
    by_cases here : id' = id
    · simp [here]
    · simp [here]
  · simp [same]

theorem applyEntry_meets {entry : Int × Int} (held : g.swapped type entry.1 = entry.2) :
    (store (applyEntry run type entry)).Meets (batchSetting true run) g
      fun _ g' => g' = g.struck [type] [entry.1] := by
  refine (apply_meets (Q := fun _ swapped => swapped = without [type] [entry.1] g.swapped) fun s knows => ?_).mono ?_
  · refine ⟨⟨fun r other => strike_other other _ _, (List.append_nil _).symm, nofun, ?_⟩, ?_⟩
    · refine (moved_add s.tables ⟨type, entry.1, entry.2⟩).congr fun type' id => ?_
      simp only [applyEntry, exec, autocommit_nil, strike_self, knows.swapped, without, share]
      by_cases here : type' = type ∧ id = entry.1
      · obtain ⟨rfl, rfl⟩ := here
        simp [held]
      · have there : ¬(type = type' ∧ entry.1 = id) := fun h => here ⟨h.1.symm, h.2.symm⟩
        simp [here, there]
    · show (strike _ run type entry.1).swapped run = _
      rw [strike_self, ← knows.swapped]
  · rintro _ _ ⟨_, rfl, rfl⟩
    rfl

theorem applyEntries_meets (type : BatchUpdateType) (entries : List (Int × Int))
    (distinct : (entries.map Prod.fst).Nodup) (held : ∀ entry ∈ entries, g.swapped type entry.1 = entry.2) :
    (applyEntries run type entries).Meets (batchSetting true run) g
      fun _ g' => g' = g.struck [type] (entries.map Prod.fst) := by
  induction entries generalizing g with
  | nil => exact (struck_nil _ g).symm
  | cons entry rest ih =>
    obtain ⟨fresh, distinct⟩ := List.nodup_cons.mp distinct
    refine .bind (applyEntry_meets (held entry List.mem_cons_self)) ?_
    rintro _ _ rfl
    rw [List.map_cons, struck_cons _ g entry.1 (rest.map Prod.fst)]
    refine ih distinct fun later inside => ?_
    have other : later.1 ≠ entry.1 := fun same =>
      fresh (List.mem_map.mpr ⟨later, inside, same⟩)
    simpa [Known.struck, without, other] using held later (List.mem_cons_of_mem _ inside)

def userTypes : List BatchUpdateType := [.userQuota, .usedQuota, .requestCount]

theorem without_userTypes (id : Int) (g : BatchUpdateType → Int → Int) :
    without [.requestCount] [id] (without [.usedQuota] [id] (without [.userQuota] [id] g)) =
      without userTypes [id] g := by
  funext type id'
  cases type <;> simp [without, userTypes]

variable {id : Int}

/-- One update strikes out the three counters of a user. -/
theorem applyUser_meets {quota usedQuota requestCount : Int}
    (heldQuota : g.swapped .userQuota id = quota) (heldUsed : g.swapped .usedQuota id = usedQuota)
    (heldCount : g.swapped .requestCount id = requestCount) :
    (applyUser run id quota usedQuota requestCount).Meets (batchSetting true run) g
      fun _ g' => g' = g.struck userTypes [id] := by
  unfold applyUser
  split
  · rename_i nothing
    refine congrArg (Known.mk · g.recorded) (without_of_zero fun type typed id' here => ?_).symm
    rw [List.mem_singleton.mp here]
    simp only [userTypes, List.mem_cons, List.not_mem_nil, or_false] at typed
    rcases typed with rfl | rfl | rfl
    · exact heldQuota.trans nothing.1
    · exact heldUsed.trans nothing.2.1
    · exact heldCount.trans nothing.2.2
  · refine .bind (apply_meets (Q := fun _ swapped => swapped = without userTypes [id] g.swapped) fun s knows => ?_) ?_
    · have after : (s.writeUser run id quota usedQuota requestCount).swapped run =
          without userTypes [id] g.swapped := by
        simp only [writeUser, strike_self]
        rw [← knows.swapped]
        exact without_userTypes id _
      refine ⟨⟨fun r other => ?_, (List.append_nil _).symm, nofun, ?_⟩, after⟩
      · show (s.writeUser run id quota usedQuota requestCount).swapped r = _
        simp only [writeUser, strike_other other]
      refine (moved_addAll s.tables _).congr fun type id' => ?_
      show total [] type id' + ((s.pending type).value id' - (s.pending type).value id') +
        (s.swapped run type id' - (s.writeUser run id quota usedQuota requestCount).swapped run type id') = _
      rw [after, knows.swapped]
      by_cases here : id' = id
      · subst here
        cases type <;>
          simp [without, userTypes, share, heldQuota, heldUsed, heldCount]
      · have there : ¬id = id' := fun h => here h.symm
        simp [without, share, here, there]
    · rintro _ _ ⟨_, rfl, rfl⟩
      rfl

theorem applyUsers_meets (ids : List Int) (distinct : ids.Nodup)
    (held : ∀ type ∈ userTypes, ∀ id ∈ ids, g.swapped type id = (stores type).value id) :
    (applyUsers run stores ids).Meets (batchSetting true run) g
      fun _ g' => g' = g.struck userTypes ids := by
  induction ids generalizing g with
  | nil => exact (struck_nil _ g).symm
  | cons id rest ih =>
    obtain ⟨fresh, distinct⟩ := List.nodup_cons.mp distinct
    have here : ∀ type ∈ userTypes, g.swapped type id = (stores type).value id := fun type typed =>
      held type typed id List.mem_cons_self
    refine .bind (applyUser_meets (here _ (by decide)) (here _ (by decide))
      (here _ (by decide))) ?_
    rintro _ _ rfl
    rw [struck_cons _ g id rest]
    refine ih distinct fun type typed id' inside => ?_
    have other : id' ≠ id := by
      rintro rfl
      exact fresh inside
    simpa [Known.struck, without, other] using held type typed id' (List.mem_cons_of_mem _ inside)

theorem value_of_not_mem_userIds (typed : type ∈ userTypes) (absent : id ∉ userIds stores) :
    (stores type).value id = 0 := by
  refine DeltaMap.value_of_absent fun inside => absent ?_
  simp only [userIds, List.mem_dedup, List.map_append, List.mem_append]
  simp only [userTypes, List.mem_cons, List.not_mem_nil, or_false] at typed
  rcases typed with rfl | rfl | rfl
  · exact .inl (.inl inside)
  · exact .inl (.inr inside)
  · exact .inr inside

/-- A map is emptied by striking out its entries, in any order. -/
theorem without_entries {g : BatchUpdateType → Int → Int} (order : RangeOrder)
    (holds : ∀ id, g type id = (stores type).value id) (id : Int) :
    without [type] ((order.list (stores type).entries).map Prod.fst) g type id = 0 := by
  unfold without
  split
  · rfl
  · rename_i absent
    rw [holds id]
    refine DeltaMap.value_of_absent fun inside => absent ⟨List.mem_singleton_self _, ?_⟩
    exact ((order.perm (stores type).entries).map Prod.fst).mem_iff.mpr inside

theorem without_users {g : BatchUpdateType → Int → Int} (stores : BatchUpdateType → DeltaMap Int)
    (typed : type ∈ userTypes) (order : RangeOrder) (holds : ∀ id, g type id = (stores type).value id)
    (id : Int) : without userTypes (order.list (userIds stores)) g type id = 0 := by
  unfold without
  split
  · rfl
  · rename_i absent
    rw [holds id]
    exact value_of_not_mem_userIds typed fun inside =>
      absent ⟨typed, (order.perm _).mem_iff.mpr inside⟩

/-- A task that has ended: it has nothing swapped out and has recorded `deltas`. -/
def Ended (deltas : List Delta) (g : Known) : Prop := (∀ type id, g.swapped type id = 0) ∧ g.recorded = deltas

/-- **A run of the updater applies all it has swapped out**, and records nothing. -/
theorem batchUpdate_meets (orders : Orders) :
    (batchUpdate run orders).Meets (batchSetting batched run) ⟨fun _ _ => 0, []⟩ fun _ g' => Ended [] g' := by
  refine .bind (hasData_meets _) ?_
  rintro data _ ⟨rfl, some⟩
  cases data with
  | false => exact ⟨fun _ _ => rfl, rfl⟩
  | true =>
    obtain rfl := some rfl
    refine .bind (swapAll_meets _ (by decide) (fun _ _ _ => rfl)
      fun _ _ => (DeltaMap.value_empty _).symm) ?_
    rintro stores g ⟨holds, same⟩
    have keys : ∀ (order : RangeOrder) type,
        ((order.list (stores type).entries).map Prod.fst).Nodup := fun order type =>
      ((order.perm _).map Prod.fst).nodup_iff.mpr (stores type).distinct
    refine .bind (applyEntries_meets .tokenQuota _ (keys _ _) fun entry inside => ?_) ?_
    · rw [holds]
      exact DeltaMap.value_of_mem ((orders.tokens.perm _).mem_iff.mp inside)
    rintro _ _ rfl
    refine .bind (applyEntries_meets .channelUsedQuota _ (keys _ _) fun entry inside => ?_) ?_
    · simp only [Known.struck, without, holds]
      exact DeltaMap.value_of_mem ((orders.channels.perm _).mem_iff.mp inside)
    rintro _ _ rfl
    refine (applyUsers_meets _ ?_ fun type typed id _ => ?_).mono ?_
    · exact (orders.users.perm _).nodup_iff.mpr (List.nodup_dedup _)
    · simp only [userTypes, List.mem_cons, List.not_mem_nil, or_false] at typed
      rcases typed with rfl | rfl | rfl <;> simp [Known.struck, without, holds]
    rintro _ _ rfl
    refine ⟨fun type id => ?_, same⟩
    -- the three loops together strike out every entry of the five maps
    cases type with
    | tokenQuota =>
      have struck := without_entries orders.tokens (holds .tokenQuota) id
      simpa [Known.struck, without, userTypes] using struck
    | channelUsedQuota =>
      have struck := without_entries orders.channels (holds .channelUsedQuota) id
      simpa [Known.struck, without, userTypes] using struck
    | _ =>
      refine without_users stores (by decide) orders.users (fun id => ?_) id
      simp [Known.struck, without, holds]

/-- **Every task conserves**, with or without batch update, and records the deltas of its call. -/
theorem task_meets (task : BatchTask) : (task.program batched run).Meets (batchSetting batched run) ⟨fun _ _ => 0, []⟩
    fun _ g' => Ended (deltasOf task) g' := by
  have ends : ∀ {deltas} {g' : Known}, g' = Known.record ⟨fun _ _ => 0, []⟩ deltas → Ended deltas g' := by
    rintro deltas _ rfl
    exact ⟨fun _ _ => rfl, rfl⟩
  cases task with
  | increaseUserQuota id quota db | decreaseUserQuota id quota db =>
    exact .bind (changeUnless_meets (by simp +contextual) _ _ _) fun _ _ => ends
  | increaseTokenQuota id quota | decreaseTokenQuota id quota =>
    exact .bind (changeUnless_meets (fun off => off) _ _ _) fun _ _ => ends
  | updateChannelUsedQuota id quota => exact .bind (change_meets (fun off => off) _ _ _) fun _ _ => ends
  | updateUserUsedQuotaAndRequestCount id quota =>
    cases batched with
    | true =>
      refine .bind (addNewRecord_meets _ _ _) ?_
      rintro _ _ rfl
      exact .bind (addNewRecord_meets _ _ _) fun _ _ => ends
    | false => exact .bind (updateNow_meets _) fun _ _ => ends
  | batchUpdate orders => exact batchUpdate_meets orders

end

section
variable {ι : Type} [DecidableEq ι] {s₀ s s' : BatchStore ι} {batched : Bool}

/-- Nothing is pending and nothing was recorded. -/
structure Fresh (s₀ : BatchStore ι) : Prop where
  pending : ∀ type, s₀.pending type = .empty
  swapped : ∀ i type id, s₀.swapped i type id = 0
  recorded : s₀.recorded = []

/-! ## The last run of the updater -/

section
variable {k : ι}

/-- From `s` to `t` nothing was recorded, and the maps of `types` are empty. -/
structure Emptied (types : List BatchUpdateType) (s t : BatchStore ι) : Prop where
  recorded : t.recorded = s.recorded
  pending : ∀ type ∈ types, ∀ id, (t.pending type).value id = 0

omit [DecidableEq ι] in
theorem hasData_alone (types : List BatchUpdateType) (s : BatchStore ι) :
    (hasData types).Meets (.alone _) s fun data t =>
      t = s ∧ (data = false → Emptied types s s) := by
  induction types with
  | nil => exact ⟨rfl, fun _ => ⟨rfl, by simp⟩⟩
  | cons type rest ih =>
    refine .bind (alone_store (Q := fun outcome t =>
      t = s ∧ outcome = .ok (!(s.pending type).entries.isEmpty)) fun faults => ⟨rfl, rfl⟩) ?_
    rintro _ t ⟨same, rfl⟩
    rw [same]
    cases none_ : (s.pending type).entries with
    | cons entry entries => exact ⟨rfl, nofun⟩
    | nil =>
      refine ih.mono fun data t' ended => ?_
      obtain ⟨same, empty⟩ := ended
      refine ⟨same, fun nothing => ⟨rfl, fun type' inside id => ?_⟩⟩
      rcases List.mem_cons.mp inside with rfl | later
      · exact DeltaMap.value_of_absent (by simp [none_])
      · exact (empty nothing).pending type' later id

theorem swapAll_alone (types emptied : List BatchUpdateType)
    (stores : BatchUpdateType → DeltaMap Int) (t : BatchStore ι) (before : Emptied emptied s t) :
    (swapAll k types stores).Meets (.alone _) t fun _ t' =>
      Emptied (types ++ emptied) s t' := by
  induction types generalizing emptied stores t with
  | nil => exact before
  | cons type rest ih =>
    refine .bind (alone_store (Q := fun outcome t' =>
      (∃ store, outcome = .ok store) ∧ Emptied (type :: emptied) s t') fun faults => ?_) ?_
    · refine ⟨⟨t.pending type, rfl⟩, before.recorded, fun type' inside id => ?_⟩
      simp only [swap, exec, exchange]
      by_cases same : type' = type
      · subst same
        simp
      · rw [Function.update_of_ne same]
        exact before.pending type' ((List.mem_cons.mp inside).resolve_left same) id
    · rintro _ t' ⟨⟨store, rfl⟩, after⟩
      refine (ih (type :: emptied) _ t' after).mono fun _ t'' done => ⟨done.recorded, ?_⟩
      intro type' inside id
      refine done.pending type' ?_ id
      simp only [List.mem_cons, List.mem_append] at inside ⊢
      tauto

variable {types : List BatchUpdateType}

omit [DecidableEq ι] in
/-- A statement that leaves the maps alone. -/
theorem autocommit_alone {t : BatchStore ι} (before : Emptied types s t) (change : BatchStore ι → BatchStore ι)
    (pending : (change t).pending = t.pending) (recorded : (change t).recorded = t.recorded) :
    (store (autocommit change)).Meets (.alone _) t fun _ t' => Emptied types s t' := by
  refine alone_store fun faults => ?_
  rcases exec_autocommit change t faults with ⟨e, failed⟩ | ran
  · rw [failed]
    exact before
  · rw [ran]
    exact ⟨recorded.trans before.recorded, by rw [pending]; exact before.pending⟩

theorem applyEntries_alone (type : BatchUpdateType)
    (entries : List (Int × Int)) (t : BatchStore ι) (before : Emptied types s t) :
    (applyEntries k type entries).Meets (.alone _) t fun _ t' => Emptied types s t' := by
  induction entries generalizing t with
  | nil => exact before
  | cons entry rest ih =>
    exact .bind (autocommit_alone before _ rfl rfl) fun _ t' after => ih t' after

theorem applyUsers_alone (stores : BatchUpdateType → DeltaMap Int)
    (ids : List Int) (t : BatchStore ι) (before : Emptied types s t) :
    (applyUsers k stores ids).Meets (.alone _) t fun _ t' => Emptied types s t' := by
  induction ids generalizing t with
  | nil => exact before
  | cons id rest ih =>
    refine .bind ?_ fun _ t' after => ih t' after
    unfold applyUser
    split
    · exact before
    · exact .bind (autocommit_alone before _ rfl rfl) fun _ _ after => after

/-- A run of the updater by itself empties the pending maps. -/
theorem batchUpdate_alone (orders : Orders) (s : BatchStore ι) : (batchUpdate k orders).Meets (.alone _) s fun _ t =>
      Emptied BatchUpdateType.all s t := by
  refine .bind (hasData_alone BatchUpdateType.all s) ?_
  rintro data _ ⟨rfl, empty⟩
  cases data with
  | false => exact empty rfl
  | true =>
    refine .bind (swapAll_alone BatchUpdateType.all [] _ _ ⟨rfl, by simp⟩) ?_
    intro stores t₁ emptied
    rw [List.append_nil] at emptied
    refine .bind (applyEntries_alone _ _ t₁ emptied) fun _ t₂ emptied => ?_
    refine .bind (applyEntries_alone _ _ t₂ emptied) fun _ t₃ emptied => ?_
    exact applyUsers_alone stores _ t₃ emptied

end

/-! ## All of them -/

variable [Fintype ι]

/-- The tables have moved by what was recorded and is neither pending nor swapped out. -/
def Balanced (s₀ s : BatchStore ι) : Prop :=
  Moved s₀.tables s.tables fun type id =>
    total s.recorded type id - (s.pending type).value id - ∑ i, s.swapped i type id

theorem Balanced.step {i : ι} {deltas : List Delta} (balanced : Balanced s₀ s)
    (conserves : Conserves batched i deltas s s') : Balanced s₀ s' := by
  refine (balanced.trans conserves.moved).congr fun type id => ?_
  have before := Finset.add_sum_erase _ (fun j => s.swapped j type id) (Finset.mem_univ i)
  have after := Finset.add_sum_erase _ (fun j => s'.swapped j type id) (Finset.mem_univ i)
  have apart : ∑ j ∈ Finset.univ.erase i, s'.swapped j type id = ∑ j ∈ Finset.univ.erase i, s.swapped j type id :=
    Finset.sum_congr rfl fun j other => by rw [conserves.others j (Finset.ne_of_mem_erase other)]
  rw [conserves.recorded, total_append]
  omega

omit [DecidableEq ι] in
theorem Fresh.balanced (fresh : Fresh s₀) : Balanced s₀ s₀ :=
  (Moved.refl _).congr fun type id => by simp [fresh.recorded, fresh.pending, fresh.swapped]

variable {tasks : ι → BatchTask} {c : Pool (BatchStore ι) Unit ι}

/-- What all tasks keep true together. -/
structure Together (batched : Bool) (s₀ s : BatchStore ι) (known : ι → Known) : Prop where
  balanced : Balanced s₀ s
  swapped : ∀ i, s.swapped i = (known i).swapped
  direct : batched = false → ∀ type, (s.pending type).entries = []
  recorded : (s.recorded : Multiset Delta) = ∑ i, ((known i).recorded : Multiset Delta)

theorem Together.step {known : ι → Known} {i : ι} {deltas : List Delta} (together : Together batched s₀ s known)
    (conserves : Conserves batched i deltas s s') :
    Together batched s₀ s' (Function.update known i ((batchSetting batched i).moves s s' (known i))) where
  balanced := together.balanced.step conserves
  swapped j := by
    by_cases same : j = i
    · subst same
      rw [Function.update_self]
      rfl
    · rw [Function.update_of_ne same, conserves.others j same, together.swapped j]
  direct off := by
    rw [conserves.direct off]
    exact together.direct off
  recorded := by
    have before := Finset.add_sum_erase _ (fun j => ((known j).recorded : Multiset Delta)) (Finset.mem_univ i)
    have after : ((batchSetting batched i).moves s s' (known i)).recorded = (known i).recorded ++ deltas := by
      simp only [batchSetting, conserves.recorded, List.drop_left]
    rw [← Finset.add_sum_erase _ _ (Finset.mem_univ i), Function.update_self, after, conserves.recorded,
      ← Multiset.coe_add, ← Multiset.coe_add, together.recorded, ← before, add_right_comm]
    congr 1
    exact Finset.sum_congr rfl fun j other => by rw [Function.update_of_ne (Finset.ne_of_mem_erase other)]

/-- **All tasks together**: the tables have moved by what was recorded, and when everyone has ended the
deltas of all calls have been recorded, each as often as it was asked for. -/
theorem together_of_run (fresh : Fresh s₀)
    (run : Run .succeeding (initial s₀ fun i => (tasks i).program batched i) () c ()) :
    Balanced s₀ c.store ∧ (batched = false → ∀ type, (c.store.pending type).entries = []) ∧
      ((∀ i, c.main i = .done ()) → (∀ i type id, c.store.swapped i type id = 0) ∧
        (c.store.recorded : Multiset Delta) = ∑ i, (deltasOf (tasks i) : Multiset Delta)) := by
  have start : Together batched s₀ s₀ fun _ => ⟨fun _ _ => 0, []⟩ := by
    refine ⟨fresh.balanced, fun i => ?_, fun _ type => by rw [fresh.pending]; rfl, by simp [fresh.recorded]⟩
    funext type id
    exact fresh.swapped i type id
  obtain ⟨known, together, fits⟩ := Run.meets_beside (fun i => batchSetting batched i)
    (fun i _ g => Ended (deltasOf (tasks i)) g) (J := fun s _ g => Together batched s₀ s g) start
    (fun i => task_meets (tasks i)) (fun i _ _ _ together => ⟨together.swapped i, together.direct⟩) (fun _ _ _ _ _ admitted _ => admitted)
    (fun i _ _ _ _ _ together _ ⟨_, conserves⟩ => together.step conserves)
    (fun _ _ _ _ _ (changed : False) => changed.elim) run
  refine ⟨together.balanced, together.direct, fun over_ => ?_⟩
  have ended : ∀ i, Ended (deltasOf (tasks i)) (known i) := by
    intro i
    have last := (fits i).2
    rw [over_ i] at last
    exact last
  refine ⟨fun i type id => ?_, together.recorded.trans (Finset.sum_congr rfl fun i _ => by rw [(ended i).2])⟩
  rw [together.swapped i]
  exact (ended i).1 type id

theorem tables_of_flush {k : ι} (orders : Orders) (s : BatchStore ι)
    (idle : ∀ i type id, s.swapped i type id = 0) (balanced : Balanced s₀ s) :
    ((batchUpdate k orders).solo s).2.tables = s₀.tables.addAll s.recorded := by
  obtain ⟨recorded, emptied⟩ := (batchUpdate_alone orders s).solo_alone
  have start : s.swapped k = fun _ _ => 0 := funext fun type => funext fun id => idle k type id
  have moved : ∃ g, (((batchUpdate k orders).solo s).2.swapped k = g.swapped ∧
      Moved s₀.tables ((batchUpdate k orders).solo s).2.tables fun type id =>
        total ((batchUpdate k orders).solo s).2.recorded type id -
          (((batchUpdate k orders).solo s).2.pending type).value id -
          ((batchUpdate k orders).solo s).2.swapped k type id) ∧ Ended [] g := by
    refine (@batchUpdate_meets _ k true _ orders).solo (fun t g => t.swapped k = g.swapped ∧
        Moved s₀.tables t.tables fun type id =>
          total t.recorded type id - (t.pending type).value id - t.swapped k type id)
      (fun _ _ holds => ⟨holds.1, nofun⟩) (fun _ => rfl) ?_ ?_
    · rintro t t' g ⟨-, moved⟩ ⟨deltas, conserves⟩
      refine ⟨rfl, (moved.trans conserves.moved).congr fun type id => ?_⟩
      rw [conserves.recorded, total_append]
      omega
    · refine ⟨start, balanced.congr fun type id => ?_⟩
      rw [Finset.sum_eq_zero fun i _ => idle i type id, idle k]
  obtain ⟨g, ⟨same, moved⟩, ended, -⟩ := moved
  refine (moved.congr fun type id => ?_).unique (moved_addAll s₀.tables s.recorded)
  have nothing := emptied type (by cases type <;> decide) id
  rw [recorded, nothing, same, ended type id]
  omega

end

def counted : BatchStore (Fin 3) where
  tables := {
    users := fun id => if id = 1 then some ⟨100, 0, 0⟩ else none
    tokens := fun id => if id = 1 then some ⟨100, 0⟩ else none
    channels := fun _ => none }
  pending _ := .empty
  swapped _ _ _ := 0
  recorded := []

/-- A charge of the token, a charge of the wallet and a run of the updater. -/
def chargesAndFlush (i : Fin 3) : BatchTask :=
  if i.val = 0 then .decreaseTokenQuota 1 30
  else if i.val = 1 then .decreaseUserQuota 1 40 false
  else .batchUpdate ⟨.inserted, .inserted, .inserted⟩

theorem counted_fresh : Fresh counted := ⟨fun _ => rfl, fun _ _ _ => rfl, rfl⟩

end NewApi.Quota
