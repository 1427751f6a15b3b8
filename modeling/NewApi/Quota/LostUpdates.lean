/-
# Quota.LostUpdates — relative updates next to rows that are written back

A row that is written back carries the quota of the time it was read, so whatever was added or taken
in between is overwritten (`quotaUpdate_lost`).  The quota moves by what was asked for (`booked`) in
every run in which a writer still finds the quota it has read (`quotaUpdates_kept`).
-/
import NewApi.Model.BatchUpdater
import NewApi.Model.UsersTable
import NewApi.Theory.Contract

namespace NewApi.Quota
open Theory Model UsersTable Program Pool Option Function

/-- The change of a user's quota an event stands for. -/
def asked (userId : Int) : QuotaEvent → Int
  | .increased id quota => if id = userId then quota else 0
  | .decreased id quota => if id = userId then -quota else 0
  | .transferred id quota => if id = userId then quota else 0

/-- All increases, minus all decreases, plus all transfers. -/
def booked (userId : Int) (history : List QuotaEvent) : Int := (history.map (asked userId)).sum

theorem booked_append (userId : Int) (history events : List QuotaEvent) :
    booked userId (history ++ events) = booked userId history + booked userId events := by
  simp [booked]

def quotaOf (s : UsersTable) (userId : Int) : Int := ((s.rows userId).map (·.quota)).getD 0

/-- Rows stand under their id. -/
def Keyed (s : UsersTable) : Prop := ∀ id row, s.rows id = some row → row.id = id

/-! ## One wallet in three models

Rows that are written back need whole rows, the batch updater its counters, and the rest only the
quota.  A change that is written at once does the same to all three. -/

section
variable {ρ : Type}

/-- The three models hold the same quotas. -/
def SameWallets (a : Store) (table : UsersTable) (batch : BatchStore ρ) : Prop :=
  ∀ id, (table.rows id).map (·.quota) = walletOf a id ∧ (batch.tables.users id).map (·.quota) = walletOf a id

/-- The three statements give the same answer and keep the quotas the same. -/
def Agree (x : Db Unit) (y : Sql UsersTable Unit) (z : Sql (BatchStore ρ) Unit) : Prop :=
  ∀ a table batch faults, SameWallets a table batch → (y.exec table faults).1 = (x.exec a faults).1 ∧
    (z.exec batch faults).1 = (x.exec a faults).1 ∧
    SameWallets (x.exec a faults).2 (y.exec table faults).2 (z.exec batch faults).2

variable (cfg : Config) (enabled : Bool) (id : Int)

theorem quotaChange_agree (value : Int) (event : QuotaEvent) : @Agree ρ (changeUserQuota cfg id value true)
    (addQuota id value event) (BatchStore.change (!true && enabled) .userQuota id value) := by
  intro a table batch faults same
  rcases faults with _ | ⟨_ | e, rest⟩
  case cons.some => exact ⟨rfl, rfl, same⟩
  all_goals
    refine ⟨rfl, rfl, fun userId => ?_⟩
    obtain ⟨row, counter⟩ := same userId
    show Option.map _ (update table.rows id _ userId) = walletOf (a.addUserQuota id value) userId ∧
      Option.map _ (update batch.tables.users id _ userId) = walletOf (a.addUserQuota id value) userId
    rw [walletOf_addUserQuota]
    by_cases here : userId = id
    · subst here
      simp only [update_self, ↓reduceIte]
      constructor
      · rw [← row, Option.map_map, Option.map_map]
        rfl
      · rw [← counter, Option.map_map, Option.map_map]
        rfl
    · simp [here, row, counter]

theorem increaseUserQuota_agree (quota : Int) : @Agree ρ (Model.increaseUserQuota cfg id quota true)
    (UsersTable.increaseUserQuota id quota) (BatchStore.increaseUserQuota enabled id quota true) := by
  unfold Model.increaseUserQuota UsersTable.increaseUserQuota BatchStore.increaseUserQuota
  split
  · exact fun _ _ _ _ same => ⟨rfl, rfl, same⟩
  · exact quotaChange_agree cfg enabled id quota _

theorem decreaseUserQuota_agree (quota : Int) : @Agree ρ (Model.decreaseUserQuota cfg id quota true)
    (UsersTable.decreaseUserQuota id quota) (BatchStore.decreaseUserQuota enabled id quota true) := by
  unfold Model.decreaseUserQuota UsersTable.decreaseUserQuota BatchStore.decreaseUserQuota
  split
  · exact fun _ _ _ _ same => ⟨rfl, rfl, same⟩
  · exact quotaChange_agree cfg enabled id (-quota) _

end

/-! ## One writer -/

/-- What a writer of `target` knows of the table. -/
structure SeesRow (target : Int) (s : UsersTable) : Prop where
  keyed : Keyed s
  row : ∃ row, s.rows target = some row

/-- A call of a writer of `target`: it logs `events`, all of them of `target`, and leaves the quota
that was there, or that was `loaded`, moved by what they ask for. -/
structure Writes (target : Int) (loaded : Option Int) (s s' : UsersTable) (events : List QuotaEvent) : Prop where
  keyed : Keyed s'
  rows : ∀ id, (s'.rows id).isSome = (s.rows id).isSome
  others : ∀ id, id ≠ target → s'.rows id = s.rows id ∧ booked id events = 0
  history : s'.history = s.history ++ events
  quota : quotaOf s' target = quotaOf s target + booked target events ∨
    ∃ q, loaded = some q ∧ quotaOf s' target = q + booked target events

/-- What a writer has noted: the quota its row had at its first call, and what it has logged. -/
structure Noted where
  loaded : Option Int
  log : List QuotaEvent

def rowSetting (target : Int) (writesBack : Bool) : Setting UsersTable Noted where
  meets _ _ := True
  sees _ s := SeesRow target s
  moves s s' noted := ⟨some (noted.loaded.getD (quotaOf s target)), noted.log ++ s'.history.drop s.history.length⟩
  keeps s s' noted := ∃ events, Writes target (if writesBack then noted.loaded else none) s s' events

/-- A success has logged `events`, and a failure nothing. -/
def Logs {α : Type} (events : List QuotaEvent) (outcome : Except String α) (noted : Noted) : Prop :=
  noted.log = if outcome.isOk then events else []

section
variable {target : Int} {loaded : Option Int} {back : Bool} {s s' : UsersTable} {events : List QuotaEvent}

theorem writes_nothing (seen : SeesRow target s) : Writes target loaded s s [] :=
  ⟨seen.keyed, fun _ => rfl, fun _ _ => ⟨rfl, rfl⟩, (List.append_nil _).symm, .inl (by simp [booked])⟩

theorem meets_autocommit (change : UsersTable → UsersTable) (writes : ∀ s, SeesRow target s →
      Writes target (if back then loaded else none) s (change s) events) :
    (store (Sql.autocommit change)).Meets (rowSetting target back) ⟨loaded, []⟩ (Logs events) := by
  refine .store fun s faults seen _ => ?_
  rcases Sql.exec_autocommit change s faults with ⟨e, failed⟩ | ran
  · rw [failed]
    exact ⟨⟨[], writes_nothing seen⟩, List.drop_length ..⟩
  · rw [ran]
    refine ⟨⟨events, writes s seen⟩, ?_⟩
    show [] ++ (change s).history.drop s.history.length = events
    rw [(writes s seen).history, List.drop_left, List.nil_append]

/-- The table with another row under `target`. -/
theorem writes_row (row : UserRow) (seen : SeesRow target s) (named : row.id = target)
    (theirs : ∀ id, id ≠ target → booked id events = 0) (quota : row.quota = quotaOf s target + booked target events ∨
      ∃ q, loaded = some q ∧ row.quota = q + booked target events) :
    Writes target loaded s ⟨update s.rows target (some row), s.history ++ events⟩ events where
  keyed id row' found := by
    by_cases same : id = target
    · subst same
      simp only [update_self, Option.some.injEq] at found
      rw [← found]
      exact named
    · simp only [update_of_ne same] at found
      exact seen.keyed id row' found
  rows id := by
    by_cases same : id = target
    · subst same
      obtain ⟨old, here⟩ := seen.row
      simp [here]
    · simp [same]
  others id other := ⟨by simp [other], theirs id other⟩
  history := rfl
  quota := by simpa [quotaOf] using quota

theorem row_eq (seen : SeesRow target s) :
    ∃ row, s.rows target = some row ∧ row.id = target ∧ row.quota = quotaOf s target := by
  obtain ⟨row, here⟩ := seen.row
  exact ⟨row, here, seen.keyed target row here, by simp [quotaOf, here]⟩

theorem addUnless_meets {refused : Prop} [Decidable refused] (e : String) {value : Int} {event : QuotaEvent}
    (asks : ∀ id, booked id [event] = if id = target then value else 0) :
    (store (if refused then Sql.throw e else addQuota target value event)).Meets (rowSetting target back) ⟨loaded, []⟩
      (Logs [event]) := by
  split
  · exact .store fun _ _ seen _ => ⟨⟨[], writes_nothing seen⟩, List.drop_length ..⟩
  refine meets_autocommit _ fun s seen => ?_
  obtain ⟨row, here, named, quota⟩ := row_eq seen
  rw [here]
  refine writes_row { row with quota := row.quota + value } seen named (fun id other => ?_) (.inl ?_)
  · rw [asks, if_neg other]
  · rw [asks, if_pos rfl, ← quota]

/-! ### Rows written back -/

/-- `row` is the row of `target` at the time `loaded` was noted. -/
def LoadedRow (target : Int) (loaded : Option Int) (row : UserRow) : Prop :=
  row.id = target ∧ loaded = some row.quota

/-- A read that fails or finds the row of `target`. -/
def Finds (target : Int) (act : Sql UsersTable UserRow) : Prop :=
  ∀ s faults, SeesRow target s → (∃ e, act.exec s faults = (.error e, s)) ∨
    ∃ row, act.exec s faults = (.ok row, s) ∧ row.id = target ∧ row.quota = quotaOf s target

theorem finds_first (target : Int) : Finds target (first target) := by
  intro s faults seen
  obtain ⟨row, here, named, quota⟩ := row_eq seen
  rcases Sql.exec_read (·.lookup target) s faults with failed | ran
  · exact .inl failed
  · refine .inr ⟨row, ran.trans ?_, named, quota⟩
    simp [lookup, here]

theorem finds_getUserById (target : Int) (selectAll : Bool) : Finds target (getUserById target selectAll) := by
  intro s faults seen
  unfold getUserById
  split
  · exact .inl ⟨_, rfl⟩
  obtain ⟨row, here, named, quota⟩ := row_eq seen
  rcases Sql.exec_read _ s faults with failed | ran
  · exact .inl failed
  · have found : s.lookup target = .ok row := by simp [lookup, here]
    rw [found] at ran
    refine .inr ⟨_, ran, ?_⟩
    cases selectAll <;> exact ⟨named, quota⟩

/-- The first call of a writer notes the quota it finds. -/
theorem Finds.meets {act : Sql UsersTable UserRow} (finds : Finds target act) :
    (store act).Meets (rowSetting target back) ⟨none, []⟩ fun outcome noted =>
      noted.log = [] ∧ ∀ row, outcome = .ok row → LoadedRow target noted.loaded row := by
  refine .store fun s faults seen _ => ?_
  rcases finds s faults seen with ⟨e, failed⟩ | ⟨row, ran, named, quota⟩
  · rw [failed]
    exact ⟨⟨[], writes_nothing seen⟩, List.drop_length .., by simp⟩
  · rw [ran]
    refine ⟨⟨[], writes_nothing seen⟩, List.drop_length .., ?_⟩
    simp [LoadedRow, rowSetting, named, quota]

variable {q : Int}

theorem save_meets {row : UserRow} (named : row.id = target) (quota : row.quota = q + booked target events)
    (theirs : ∀ id, id ≠ target → booked id events = 0) :
    (store (save row events)).Meets (rowSetting target true) ⟨some q, []⟩ (Logs events) := by
  refine meets_autocommit _ fun s seen => ?_
  rw [named]
  exact writes_row row seen named theirs (.inr ⟨q, rfl, quota⟩)

theorem inviteUser_meets (cfg : InviteConfig) :
    (inviteUser cfg target).Meets (rowSetting target true) ⟨none, []⟩ (Logs []) := by
  refine .bind (finds_getUserById target true).meets ?_
  rintro (e | user) ⟨loaded, _⟩ ⟨rfl, found⟩
  · rfl
  · obtain ⟨named, rfl⟩ := found user rfl
    exact save_meets named (Int.add_zero _).symm fun _ _ => rfl

theorem transferAffQuotaToQuota_meets (cfg : InviteConfig) (quota : Int) :
    (transferAffQuotaToQuota cfg target quota).Meets (rowSetting target true) ⟨none, []⟩
      (Logs [.transferred target quota]) := by
  unfold transferAffQuotaToQuota
  split
  · rfl
  refine .bind (finds_first target).meets ?_
  rintro (e | user) ⟨loaded, _⟩ ⟨rfl, found⟩
  · rfl
  obtain ⟨named, rfl⟩ := found user rfl
  dsimp only
  split
  · rfl
  · exact save_meets named (by simp [booked, asked]) fun id other => by simp [booked, asked, Ne.symm other]

/-- `Updates` with a struct that has the loaded quota, or none. -/
theorem updates_meets {newUser : UserRow} (named : newUser.id = target)
    (quota : newUser.quota = 0 ∨ back = true ∧ newUser.quota = q) :
    (store (updates newUser)).Meets (rowSetting target back) ⟨some q, []⟩ (Logs []) := by
  refine meets_autocommit _ fun s seen => ?_
  obtain ⟨row, here, old, held⟩ := row_eq seen
  have written : (newUser.updates row).quota = quotaOf s target + 0 ∨
      ∃ q', (if back then some q else none) = some q' ∧ (newUser.updates row).quota = q' + 0 := by
    simp only [UserRow.updates, overwrite]
    split
    · exact .inl (by omega)
    · rename_i nonzero
      obtain ⟨rfl, same⟩ := quota.resolve_left nonzero
      exact .inr ⟨q, rfl, by omega⟩
  have after : Writes target _ s ⟨update s.rows target (some (newUser.updates row)), s.history ++ []⟩ [] :=
    writes_row _ seen old (fun _ _ => rfl) written
  rw [List.append_nil] at after
  rw [named, here]
  exact after

theorem update_meets (password : Option (Except String String)) {user : UserRow}
    (named : user.id = target) (quota : user.quota = 0 ∨ back = true ∧ loaded = some user.quota) :
    (update password user).Meets (rowSetting target back) ⟨loaded, []⟩ (Logs []) := by
  have write : ∀ newUser : UserRow, newUser.id = user.id → newUser.quota = user.quota → (do
        let _ ← store (first newUser.id)
        store (updates newUser)).Meets (rowSetting target back) ⟨loaded, []⟩ (Logs []) := by
    intro newUser id_eq quota_eq
    rw [id_eq, named]
    refine .bind (Q := fun _ noted =>
      ∃ q, noted = ⟨some q, []⟩ ∧ (user.quota = 0 ∨ back = true ∧ user.quota = q)) ?_ ?_
    · -- the second read changes nothing; it notes the quota when there was no first one
      refine .store fun s faults seen _ => ?_
      have same : ((first target).exec s faults).2 = s := Sql.exec_read_snd _ s faults
      rw [same]
      refine ⟨⟨[], writes_nothing seen⟩, _, congrArg (Noted.mk _) (List.drop_length ..), quota.imp_right ?_⟩
      rintro ⟨back, rfl⟩
      exact ⟨back, rfl⟩
    · rintro _ _ ⟨q, rfl, held⟩
      exact updates_meets (id_eq.trans named) (by rw [quota_eq]; exact held)
  match password with
  | none => exact write user rfl rfl
  | some (.error e) => rfl
  | some (.ok hash) => exact write _ rfl rfl

end

/-- The changes of quota a writer stands for. -/
def asks : QuotaWriter → List QuotaEvent
  | .increaseUserQuota id quota => [.increased id quota]
  | .decreaseUserQuota id quota => [.decreased id quota]
  | .transferAffQuotaToQuota userId quota => [.transferred userId quota]
  | .inviteUser _ | .update _ _ => []

/-- **Every writer keeps to its row**, and logs what it stands for if it succeeds. -/
theorem program_meets (cfg : InviteConfig) (writer : QuotaWriter) : (writer.program cfg).Meets
    (rowSetting writer.target writer.writesBack) ⟨none, []⟩ (Logs (asks writer)) := by
  cases writer with
  | increaseUserQuota id quota | decreaseUserQuota id quota =>
    exact addUnless_meets _ fun other => by simp [booked, asked, QuotaWriter.target, eq_comm]
  | inviteUser inviterId => exact inviteUser_meets cfg
  | transferAffQuotaToQuota userId quota => exact transferAffQuotaToQuota_meets cfg quota
  | update password receiver =>
    cases receiver with
    | clean id profile => exact update_meets password rfl (.inl rfl)
    | loaded id selectAll edit =>
      refine .bind (finds_getUserById id selectAll).meets ?_
      rintro (e | user) ⟨loaded, _⟩ ⟨rfl, found⟩
      · rfl
      · obtain ⟨named, rfl⟩ := found user rfl
        exact update_meets password named (.inr ⟨rfl, rfl⟩)

/-! ## All of them -/

section
variable {ι : Type} [DecidableEq ι]

/-- Any interleaving of the writers' calls, each of which may fail; `loaded i` is the quota
that writer `i` found at its first call. -/
def writerRules (writer : ι → QuotaWriter) (admits : ι → UsersTable → (ι → Option Int) → Prop) :
    Rules UsersTable ι (ι → Option Int) where
  env _ _ := False
  guard i _ s _ loaded := admits i s loaded
  own i _ s _ loaded := update loaded i (some ((loaded i).getD (quotaOf s (writer i).target)))
  outside _ _ loaded := loaded

/-- A writer that writes a row back finds the quota in it that it has read. -/
def Unchanged (writer : ι → QuotaWriter) (i : ι) (s : UsersTable) (loaded : ι → Option Int) : Prop :=
  (writer i).writesBack = true → ∀ q, loaded i = some q → quotaOf s (writer i).target = q

/-- The quota of every user has moved by what was asked for. -/
structure QuotasKept (writer : ι → QuotaWriter) (s₀ s : UsersTable) : Prop where
  keyed : Keyed s
  rows : ∀ i, ∃ row, s.rows (writer i).target = some row
  quota : ∀ userId, quotaOf s userId + booked userId s₀.history =
    quotaOf s₀ userId + booked userId s.history

omit [DecidableEq ι] in
/-- A write over the quota that was read is as good as a relative one. -/
theorem QuotasKept.step {writer : ι → QuotaWriter} {s₀ s s' : UsersTable} {i : ι}
    {loaded : ι → Option Int} {events : List QuotaEvent} (kept : QuotasKept writer s₀ s)
    (unchanged : Unchanged writer i s loaded)
    (writes : Writes (writer i).target (if (writer i).writesBack then loaded i else none) s s' events) :
    QuotasKept writer s₀ s' where
  keyed := writes.keyed
  rows j := by
    have here := writes.rows (writer j).target
    obtain ⟨row, found⟩ := kept.rows j
    rw [found] at here
    exact isSome_iff_exists.mp here
  quota userId := by
    have before := kept.quota userId
    rw [writes.history, booked_append]
    by_cases same : userId = (writer i).target
    · subst same
      have moved : quotaOf s' (writer i).target = quotaOf s (writer i).target + booked (writer i).target events := by
        rcases writes.quota with relative | ⟨q, read, written⟩
        · exact relative
        · cases back : (writer i).writesBack with
          | false => simp [back] at read
          | true =>
            simp only [back, if_true] at read
            rw [written, unchanged back q read]
      omega
    · obtain ⟨row, nothing⟩ := writes.others userId same
      have still : quotaOf s' userId = quotaOf s userId := by
        unfold quotaOf
        rw [row]
      omega

/-- Every entry of the history is of one writer; `log i` are those of `i`. -/
def Logged (s : UsersTable) (log : ι → List QuotaEvent) : Prop :=
  ∃ tagged : List (ι × QuotaEvent), tagged.map Prod.snd = s.history ∧
    ∀ i, (tagged.filter (·.1 = i)).map Prod.snd = log i

theorem Logged.step {s s' : UsersTable} {log log' : ι → List QuotaEvent} {i : ι} {events : List QuotaEvent}
    (logged : Logged s log) (grown : s'.history = s.history ++ events) (mine : log' i = log i ++ events)
    (others : ∀ j, j ≠ i → log' j = log j) : Logged s' log' := by
  obtain ⟨tagged, whole, logs⟩ := logged
  refine ⟨tagged ++ events.map (i, ·), by simp [whole, grown, comp_def], fun j => ?_⟩
  by_cases same : j = i
  · subst same
    simp [mine, logs, List.filter_map, comp_def]
  · simp [others j same, logs, Ne.symm same]

variable {cfg : InviteConfig} {writer : ι → QuotaWriter} {s₀ : UsersTable}
  {c : Pool UsersTable (Except String Unit) ι} {loaded : ι → Option Int}

/-- What holds of the table, the quotas read and the notes of all writers. -/
structure WritersKept (writer : ι → QuotaWriter) (s₀ s : UsersTable) (loaded : ι → Option Int) (noted : ι → Noted) :
    Prop where
  quotas : QuotasKept writer s₀ s
  loaded : ∀ i, (noted i).loaded = loaded i
  logged : Logged s fun i => (noted i).log

theorem WritersKept.step {s s' : UsersTable} {i : ι} {noted : ι → Noted} {events : List QuotaEvent}
    (kept : WritersKept writer s₀ s loaded noted) (unchanged : Unchanged writer i s loaded)
    (writes : Writes (writer i).target (if (writer i).writesBack then (noted i).loaded else none) s s' events) :
    WritersKept writer s₀ s' (update loaded i (some ((loaded i).getD (quotaOf s (writer i).target))))
      (update noted i ((rowSetting (writer i).target (writer i).writesBack).moves s s' (noted i))) where
  quotas := by
    rw [kept.loaded] at writes
    exact kept.quotas.step unchanged writes
  loaded j := by
    by_cases same : j = i
    · subst same
      simp [rowSetting, kept.loaded]
    · simp [same, kept.loaded]
  logged := kept.logged.step (i := i) writes.history (by simp [rowSetting, writes.history]) fun j other => by simp [other]

/-- **No update is lost** in a run in which whoever writes a row back still finds the quota in
it that it has read: in every state each quota is the first one and what was asked for, and who has
succeeded has asked for exactly its argument. -/
theorem quotaUpdates_kept (keyed : Keyed s₀) (rows : ∀ i, ∃ row, s₀.rows (writer i).target = some row)
    (blank : s₀.history = []) (run : Run (writerRules writer (Unchanged writer))
      (initial s₀ fun i => (writer i).program cfg) (fun _ => none) c loaded) :
    (∀ userId, quotaOf c.store userId = quotaOf s₀ userId + booked userId c.store.history) ∧
      ∃ log, Logged c.store log ∧ ∀ i outcome, c.main i = .done outcome →
        log i = if outcome.isOk then asks (writer i) else [] := by
  have start : WritersKept writer s₀ s₀ (fun _ => none) fun _ => ⟨none, []⟩ :=
    ⟨⟨keyed, rows, fun _ => rfl⟩, fun _ => rfl, [], blank.symm, fun _ => rfl⟩
  obtain ⟨noted, kept, fits⟩ := Run.meets_beside (fun i => rowSetting (writer i).target (writer i).writesBack)
    (fun i => Logs (asks (writer i))) start (fun i => program_meets cfg (writer i))
    (fun i _ _ _ kept => ⟨kept.quotas.keyed, kept.quotas.rows i⟩) (fun _ _ _ _ _ _ _ => trivial)
    (fun _ _ _ _ _ _ kept unchanged ⟨_, writes⟩ => kept.step unchanged writes)
    (fun _ _ _ _ _ (changed : False) => changed.elim) run
  refine ⟨fun userId => ?_, _, kept.logged, fun i outcome ended => ?_⟩
  · have quota := kept.quotas.quota userId
    rw [blank] at quota
    simpa [booked] using quota
  · have last := (fits i).2
    rw [ended] at last
    exact last

end

/-! ## Two runs -/

/-- User 1 with a quota of 100, half of which again could be transferred. -/
def inviter : UsersTable where
  rows id := if id = 1 then
      some ⟨1, ⟨fun _ => "", 1, 1, none⟩, 100, 0, 0, 0, 50, 50, 0, 0, 0⟩
    else none
  history := []

def inviteConfig : InviteConfig := ⟨20, 10, toString⟩

def inviteAndCharge (i : Fin 2) : QuotaWriter := if i.val = 0 then .inviteUser 1 else .decreaseUserQuota 1 30

theorem inviter_keyed : Keyed inviter := by
  intro id row found
  simp only [inviter] at found
  split at found
  · rename_i one
    cases found
    exact one.symm
  · cases found

theorem inviter_row (i : Fin 2) : ∃ row, inviter.rows (inviteAndCharge i).target = some row := by
  refine isSome_iff_exists.mp ?_
  revert i
  decide

/-- The charge first, then the invitation. -/
theorem quotaUpdates_kept_inviteAfter : ∃ c loaded, Run (writerRules inviteAndCharge (Unchanged inviteAndCharge))
        (initial inviter fun i => (inviteAndCharge i).program inviteConfig) (fun _ => none) c loaded ∧
      (∀ i, c.succeeded i = true) ∧
      quotaOf c.store 1 = quotaOf inviter 1 + booked 1 c.store.history ∧ quotaOf c.store 1 = 70 := by
  refine exists_play (fun c _ => (∀ i, c.succeeded i = true) ∧ quotaOf c.store 1 = 70)
    (fun i s _ loaded => (loaded i).all (quotaOf s (inviteAndCharge i).target == ·))
    (fun i s _ loaded admitted _ q read => by simpa [read] using admitted)
    [.main 1, .main 0, .main 0] (by decide +kernel) ?_
  intro c loaded run checked
  exact ⟨checked.1, (quotaUpdates_kept inviter_keyed inviter_row rfl run).1 1, checked.2⟩

/-- The charge falls between the read and the write of the invitation: the quota is 100
again. -/
theorem quotaUpdate_lost : ∃ c loaded, Run (writerRules inviteAndCharge fun _ _ _ => True)
        (initial inviter fun i => (inviteAndCharge i).program inviteConfig) (fun _ => none) c loaded ∧
      (∀ i, c.succeeded i = true) ∧
      booked 1 c.store.history = -30 ∧ quotaOf inviter 1 = 100 ∧ quotaOf c.store 1 = 100 := by
  exact exists_free_play (fun _ _ _ _ => trivial) [.main 0, .main 1, .main 0] (by decide +kernel)

end NewApi.Quota
