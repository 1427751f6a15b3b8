/-
# Drawing.View — what a round of the poller does to one Midjourney task

One poller alone, no call failing.  A `View` is what concerns one task in a round: its row, the quota
given back, the copy the poller works on and the items about it still to come.  Every round is a
sequence of `View.Step`s (`round_simulated`): an item is passed over, or changes the copy and misses
or hits the row; a bulk update fails the row, when the task is `exposed` to one.
-/
import NewApi.Drawing.Refunds
import NewApi.Billing.Ledger

namespace NewApi.Drawing
open Theory Model Billing Function MjStore List Sql Program

/-! ## One task -/

/-- A task: what never changes in its row. -/
structure Ticket where
  id : Int
  mjId : String
  userId : Int
  quota : Int
deriving DecidableEq

/-- A row or a copy with the id of the task is one of the task. -/
def Ticket.Fits (k : Ticket) (t : Midjourney) : Prop :=
  t.id = k.id → t.mjId = k.mjId ∧ t.userId = k.userId ∧ t.quota = k.quota

/-- The quota an event gives back, if `select` picks its task and user. -/
def returnedBy (select : Int → Int → Bool) : MjEvent → Int
  | .refunded id userId quota => if select id userId then quota else 0
  | .updated _ _ _ _ _ => 0

def returned (select : Int → Int → Bool) (s : MjStore) : Int := (s.history.map (returnedBy select)).sum

def Ticket.own (k : Ticket) (id _ : Int) : Bool := id = k.id

def Ticket.others (k : Ticket) (id userId : Int) : Bool := userId = k.userId && id ≠ k.id

structure View where
  row : Option Midjourney
  returned : Int
  copy : Option Midjourney
  coming : List MjItem

/-- What an update that hits gives back: a negative quota is refused. -/
def givenBack (t : Midjourney) (dto : MidjourneyDto) : Int :=
  if t.shouldReturnQuota dto = true ∧ 0 ≤ t.quota then t.quota else 0

inductive View.Step (cfg : MjConfig) (exposed : Prop) : View → View → Prop where
  | pass (row : Option Midjourney) (r : Int) (copy : Option Midjourney) (items rest : List MjItem) :
      Step cfg exposed ⟨row, r, copy, items ++ rest⟩ ⟨row, r, copy, rest⟩
  | miss (row : Option Midjourney) (r : Int) (t : Midjourney) (item : MjItem) (rest : List MjItem) :
      Step cfg exposed ⟨row, r, some t, item :: rest⟩
        ⟨row, r, some (t.polled cfg (item.judged t)), rest⟩
  | hit (old : Midjourney) (r : Int) (t : Midjourney) (item : MjItem) (rest : List MjItem)
      (same : old.status = t.status) :
      Step cfg exposed ⟨some old, r, some t, item :: rest⟩
        ⟨some (t.polled cfg (item.judged t)), r + givenBack t (item.judged t),
          some (t.polled cfg (item.judged t)), rest⟩
  | bulk (row : Option Midjourney) (r : Int) (copy : Option Midjourney) (coming : List MjItem)
      (reason : Option String) (why : exposed) :
      Step cfg exposed ⟨row, r, copy, coming⟩ ⟨row.map (Midjourney.bulkFailed reason), r, copy, coming⟩

def itemsOf : MjAnswer → List MjItem
  | .failed => []
  | .items responseItems => responseItems

namespace Ticket

variable (k : Ticket)

/-- The poller's copy, unless another row has taken its place. -/
def copy (taskM : MjTaskMap) : Option Midjourney := (taskM k.mjId).filter fun t => t.id = k.id

def about (items : List MjItem) : List MjItem := items.filter fun item => item.dto.mjId = k.mjId

def view (s : MjStore) (taskM : MjTaskMap) (coming : List MjItem) : View :=
  ⟨s.midjourney k.id, returned k.own s, k.copy taskM, k.about coming⟩

end Ticket

/-! ## Frames -/

/-- The table of a task: ids are unique, and its rows and refunds are its own. -/
structure Mine (k : Ticket) (s : MjStore) : Prop where
  keys : (s.midjourneys.map Midjourney.id).Nodup
  rows : ∀ t ∈ s.midjourneys, k.Fits t
  record : ∀ userId quota, .refunded k.id userId quota ∈ s.history → userId = k.userId

/-- The user's wallet has grown by what is recorded, tokens and channels are as they were. -/
structure Books (k : Ticket) (s s' : MjStore) : Prop where
  user : (s'.accounts.users k.userId).isSome = (s.accounts.users k.userId).isSome
  wallet : (s.accounts.users k.userId).isSome = true →
    balance s'.accounts (.wallet k.userId) = balance s.accounts (.wallet k.userId) +
      (returned (fun _ userId => userId = k.userId) s' - returned (fun _ userId => userId = k.userId) s)
  tokens : ∀ tokenId,
    balance s'.accounts (.tokenRemain tokenId) = balance s.accounts (.tokenRemain tokenId) ∧
    balance s'.accounts (.tokenUsed tokenId) = balance s.accounts (.tokenUsed tokenId)
  channels : s'.channels = s.channels
  channelsIDM : s'.channelsIDM = s.channelsIDM

/-- The accounts after the quota of a task was given back. -/
def paid (cfg : MjConfig) (a : Store) : Option Midjourney → Store
  | some t => moveUser cfg.accounts t.userId t.quota a
  | none => a

def payment (select : Int → Int → Bool) : Option Midjourney → Int
  | some t => if select t.id t.userId then t.quota else 0
  | none => 0

/-- What a step does besides the rows: it gives the quota of a task back, or nothing. -/
structure Pays (cfg : MjConfig) (s s' : MjStore) (payee : Option Midjourney) : Prop where
  accounts : s'.accounts = paid cfg s.accounts payee
  returned : ∀ select, returned select s' = returned select s + payment select payee
  record : ∀ id userId quota, .refunded id userId quota ∈ s'.history →
    .refunded id userId quota ∈ s.history ∨ ∃ t, payee = some t ∧ id = t.id ∧ userId = t.userId
  channels : s'.channels = s.channels
  channelsIDM : s'.channelsIDM = s.channelsIDM

variable {k : Ticket} {cfg : MjConfig} {exposed : Prop} {s s' s'' s₁ : MjStore} {payee : Option Midjourney}

theorem Books.refl (k : Ticket) (s : MjStore) : Books k s s :=
  ⟨rfl, fun _ => by omega, fun _ => ⟨rfl, rfl⟩, rfl, rfl⟩

theorem Books.trans (first : Books k s s') (second : Books k s' s'') : Books k s s'' where
  user := second.user.trans first.user
  wallet present := by
    have here := first.wallet present
    have there := second.wallet (first.user.trans present)
    omega
  tokens tokenId := ⟨(second.tokens tokenId).1.trans (first.tokens tokenId).1,
    (second.tokens tokenId).2.trans (first.tokens tokenId).2⟩
  channels := second.channels.trans first.channels
  channelsIDM := second.channelsIDM.trans first.channelsIDM

/-- A change of one wallet leaves the other accounts alone, whether its user exists or not. -/
theorem balance_moveUser_other (cfg : Config) {id : Int} (value : Int) (a : Store)
    {account : Account} (other : account ≠ .wallet id) :
    balance (moveUser cfg id value a) account = balance a account := by
  unfold moveUser
  cases account with
  | wallet userId =>
    have different : userId ≠ id := fun same => other (by rw [same])
    split <;> simp [balance, Store.addUserRecord, Store.addUserQuota, Store.setUser, different]
  | _ => split <;> rfl

theorem Pays.books (pays : Pays cfg s s' payee) (k : Ticket) : Books k s s' where
  user := by
    rw [pays.accounts]
    cases payee with
    | none => rfl
    | some t => exact (framed_moveUser cfg.accounts t.userId t.quota s.accounts).users k.userId
  wallet present := by
    rw [pays.accounts, pays.returned]
    cases payee with
    | none => simp [paid, payment]
    | some t =>
      simp only [paid, payment]
      by_cases mine : t.userId = k.userId
      · rw [mine, balance_moveUser present]
        simp
      · have other : Account.wallet k.userId ≠ .wallet t.userId := by
          intro same
          exact mine (Account.wallet.inj same).symm
        rw [balance_moveUser_other _ _ _ other]
        simp [mine]
  tokens tokenId := by
    rw [pays.accounts]
    cases payee with
    | none => exact ⟨rfl, rfl⟩
    | some t => exact ⟨balance_moveUser_other _ _ _ nofun, balance_moveUser_other _ _ _ nofun⟩
  channels := pays.channels
  channelsIDM := pays.channelsIDM

theorem pays_nothing (accounts : s'.accounts = s.accounts) (history : s'.history = s.history)
    (channels : s'.channels = s.channels) (channelsIDM : s'.channelsIDM = s.channelsIDM) : Pays cfg s s' none where
  accounts := accounts
  returned select := by simp [returned, history, payment]
  record id userId quota member := .inl (by rw [history] at member; exact member)
  channels := channels
  channelsIDM := channelsIDM

/-! ## One item -/

/-- The copy and the table after an item. -/
inductive ItemStep (cfg : MjConfig) (s : MjStore) (t : Midjourney) (item : MjItem) (t' : Midjourney)
    (s' : MjStore) : Prop where
  | missed (copy : t' = t ∨ t' = t.polled cfg (item.judged t)) (rows : s'.midjourneys = s.midjourneys)
      (pays : Pays cfg s s' none)
  | hit (old : Midjourney) (found : s.midjourney t.id = some old) (same : old.status = t.status)
      (copy : t' = t.polled cfg (item.judged t))
      (rows : s'.midjourneys = Rows.put Midjourney.id (t.polled cfg (item.judged t)) s.midjourneys)
      (pays : Pays cfg s s' (if t.shouldReturnQuota (item.judged t) = true ∧ 0 ≤ t.quota then some t else none))

variable (t : Midjourney)

theorem pays_update (dto : MidjourneyDto) (won : Bool) (rows : List Midjourney) : Pays cfg s
      (({ s with midjourneys := rows } : MjStore).log
        (.updated t.id t.status dto.status (t.shouldReturnQuota dto) won)) none where
  accounts := rfl
  returned select := by simp [returned, returnedBy, payment]
  record id userId quota member := by simpa using member
  channels := rfl
  channelsIDM := rfl

theorem returnQuota_nil (s : MjStore) : ((t.returnQuota cfg).exec s []).2 = if 0 ≤ t.quota then
      ({ s with accounts := moveUser cfg.accounts t.userId t.quota s.accounts } : MjStore).log
        (.refunded t.id t.userId t.quota) else s := by
  rw [exec_returnQuota]
  split_ifs with positive
  · rw [increaseUserQuota_nil positive]
  have refused : (increaseUserQuota cfg.accounts t.userId t.quota false).exec s.accounts [] =
      (.error errNegativeQuota, s.accounts) := by
    unfold increaseUserQuota
    rw [if_pos (by omega)]
    rfl
  rw [refused]

/-- What comes on top of an update that hit. -/
theorem pays_return (pays : Pays cfg s s' none) :
    Pays cfg s ((t.returnQuota cfg).exec s' []).2 (if 0 ≤ t.quota then some t else none) := by
  rw [returnQuota_nil]
  split_ifs with positive
  · refine ⟨congrArg (moveUser cfg.accounts t.userId t.quota) pays.accounts, ?_, ?_, pays.channels, pays.channelsIDM⟩
    · intro select
      have before := pays.returned select
      simp only [payment, Int.add_zero] at before
      rw [← before]
      simp [returned, payment, returnedBy]
    · intro id userId quota member
      simp only [log_history, mem_append, mem_singleton] at member
      rcases member with earlier | ⟨rfl, rfl, -⟩
      · refine .inl ?_
        rcases pays.record id userId quota earlier with inside | ⟨_, nobody, _⟩
        · exact inside
        · cases nobody
      · exact .inr ⟨t, rfl, rfl, rfl⟩
  · exact pays

theorem updateMjTask_item (item : MjItem) :
    (updateMjTask cfg t item).Meets (.unfailing _) s fun t' s' => ItemStep cfg s t item t' s' := by
  have idle : Pays cfg s s none := pays_nothing rfl rfl rfl rfl
  unfold updateMjTask
  split
  · refine .bind (Q := fun outcome s' => outcome = ((t.pollUpdate cfg (item.judged t)).exec s []).1 ∧
      s' = ((t.pollUpdate cfg (item.judged t)).exec s []).2) (unfailing_store ⟨rfl, rfl⟩) ?_
    rintro _ _ ⟨rfl, rfl⟩
    rcases exec_pollUpdate t (item.judged t) s [] with ⟨e, failed⟩ | lost | ⟨old, found, same, won⟩
    · rw [failed]
      exact .missed (.inr rfl) rfl idle
    · rw [lost]
      exact .missed (.inr rfl) rfl (pays_update t (item.judged t) false s.midjourneys)
    rw [won]
    have pays : Pays cfg s ((s.put (t.polled cfg (item.judged t))).log
        (.updated t.id t.status (item.judged t).status (t.shouldReturnQuota (item.judged t)) true)) none :=
      pays_update t (item.judged t) true _
    dsimp only
    split
    · rename_i returns
      refine .bind (Q := fun _ s' => s' = ((t.returnQuota cfg).exec _ []).2) (unfailing_store rfl) ?_
      rintro _ _ rfl
      refine .hit old found same rfl ?_ ?_
      · rw [returnQuota_nil]
        split_ifs <;> rfl
      · have pick : (if t.shouldReturnQuota (item.judged t) = true ∧ 0 ≤ t.quota then some t else none) =
            if 0 ≤ t.quota then some t else none := by simp [returns.2]
        rw [pick]
        exact pays_return t pays
    · rename_i keeps
      refine .hit old found same rfl rfl ?_
      rw [if_neg fun returns => keeps ⟨rfl, returns.1⟩]
      exact pays
  · exact .missed (.inl rfl) rfl idle

namespace ItemStep

variable {t t' : Midjourney} {item : MjItem}

variable (stepped : ItemStep cfg s t item t' s')

include stepped

/-- The columns that stay, in the copy. -/
theorem copy_columns : t'.id = t.id ∧ t'.mjId = t.mjId ∧ t'.userId = t.userId ∧ t'.quota = t.quota := by
  cases stepped with
  | missed copy rows pays =>
    rcases copy with rfl | rfl
    · exact ⟨rfl, rfl, rfl, rfl⟩
    · exact ⟨rfl, rfl, rfl, rfl⟩
  | hit old found same copy rows pays =>
    subst copy
    exact ⟨rfl, rfl, rfl, rfl⟩

theorem fits_copy (fits : k.Fits t) : k.Fits t' := by
  obtain ⟨id, mjId, userId, quota⟩ := stepped.copy_columns
  intro mine
  rw [mjId, userId, quota]
  exact fits (id.symm.trans mine)

theorem books (k : Ticket) : Books k s s' := by
  cases stepped with
  | missed copy rows pays | hit old found same copy rows pays => exact pays.books k

theorem mine (mine : Mine k s) (fits : k.Fits t) : Mine k s' := by
  cases stepped with
  | missed copy rows pays =>
    refine ⟨by rw [rows]; exact mine.keys, by rw [rows]; exact mine.rows, ?_⟩
    intro userId quota member
    rcases pays.record _ _ _ member with earlier | ⟨_, nobody, _⟩
    · exact mine.record userId quota earlier
    · cases nobody
  | hit old found same copy rows pays =>
    refine ⟨?_, ?_, ?_⟩
    · rw [rows, Rows.map_key_put]
      exact mine.keys
    · rw [rows]
      intro row member
      rcases Rows.mem_put member with rfl | ⟨inside, -⟩
      · exact fits
      · exact mine.rows row inside
    · intro userId quota member
      rcases pays.record _ _ _ member with earlier | ⟨payee, paid, same, whom⟩
      · exact mine.record userId quota earlier
      -- only the owner of the copy is paid
      split at paid
      · cases paid
        rw [whom]
        exact (fits same.symm).2.1
      · cases paid

/-- An item for another row. -/
theorem other (other : t.id ≠ k.id) :
    s'.midjourney k.id = s.midjourney k.id ∧ returned k.own s' = returned k.own s := by
  cases stepped with
  | missed copy rows pays =>
    refine ⟨by simp [midjourney, rows], ?_⟩
    rw [pays.returned]
    simp [payment]
  | hit old found same copy rows pays =>
    constructor
    · have lookup := s.midjourney_put (t.polled cfg (item.judged t)) found k.id
      rw [Midjourney.polled_id, if_neg (Ne.symm other)] at lookup
      rw [← lookup]
      simp [midjourney, put, rows]
    · rw [pays.returned]
      split_ifs
      · simp [payment, Ticket.own, other]
      · simp [payment]

/-- An item for the copy of the task. -/
theorem own (own : t.id = k.id) (rest : List MjItem) :
    View.Step cfg exposed ⟨s.midjourney k.id, returned k.own s, some t, item :: rest⟩
      ⟨s'.midjourney k.id, returned k.own s', some t', rest⟩ := by
  cases stepped with
  | missed copy rows pays =>
    have row : s'.midjourney k.id = s.midjourney k.id := by simp [midjourney, rows]
    have same : returned k.own s' = returned k.own s := by
      rw [pays.returned]
      simp [payment]
    rw [row, same]
    rcases copy with rfl | rfl
    · exact .pass _ _ _ [item] rest
    · exact .miss _ _ t item rest
  | hit old found status copy rows pays =>
    subst copy
    have before : s.midjourney k.id = some old := by rw [← own]; exact found
    have after : s'.midjourney k.id = some (t.polled cfg (item.judged t)) := by
      have lookup := s.midjourney_put (t.polled cfg (item.judged t)) found k.id
      rw [Midjourney.polled_id, if_pos own.symm] at lookup
      rw [← lookup]
      simp [midjourney, put, rows]
    have more : returned k.own s' = returned k.own s + givenBack t (item.judged t) := by
      rw [pays.returned]
      unfold givenBack
      split_ifs
      · simp [payment, Ticket.own, own]
      · rfl
    rw [before, after, more]
    exact .hit old _ t item rest status

end ItemStep

/-! ## A round -/

/-- A round that has come to the store `s`, with the copies `taskM` and the items `coming`
still to come, seen from a task. -/
structure Sim (cfg : MjConfig) (k : Ticket) (exposed : Prop) (s₁ : MjStore) (v₁ : View) (s : MjStore)
    (taskM : MjTaskMap) (coming : List MjItem) : Prop where
  mine : Mine k s
  mapped : ∀ key t, taskM key = some t → t.mjId = key ∧ k.Fits t
  books : Books k s₁ s
  path : Relation.ReflTransGen (View.Step cfg exposed) v₁ (k.view s taskM coming)

def Simulated (cfg : MjConfig) (k : Ticket) (exposed : Prop) (s₁ : MjStore) (v₁ : View) (s : MjStore) : Prop :=
  Mine k s ∧ Books k s₁ s ∧ ∃ copy coming, Relation.ReflTransGen (View.Step cfg exposed) v₁
    ⟨s.midjourney k.id, returned k.own s, copy, coming⟩

variable {v₁ : View} {taskM : MjTaskMap} {items rest : List MjItem}

namespace Sim

theorem simulated (sim : Sim cfg k exposed s₁ v₁ s taskM rest) : Simulated cfg k exposed s₁ v₁ s :=
  ⟨sim.mine, sim.books, _, _, sim.path⟩

theorem drop (sim : Sim cfg k exposed s₁ v₁ s taskM (items ++ rest)) : Sim cfg k exposed s₁ v₁ s taskM rest := by
  refine ⟨sim.mine, sim.mapped, sim.books, sim.path.tail ?_⟩
  have split : k.about (items ++ rest) = k.about items ++ k.about rest := filter_append ..
  rw [Ticket.view, split]
  exact .pass _ _ _ _ _

theorem item {t : Midjourney} {item : MjItem} (sim : Sim cfg k exposed s₁ v₁ s taskM (item :: rest))
    (found : taskM item.dto.mjId = some t) {t' : Midjourney} (stepped : ItemStep cfg s t item t' s') :
    Sim cfg k exposed s₁ v₁ s' (update taskM item.dto.mjId (some t')) rest := by
  obtain ⟨named, fits⟩ := sim.mapped _ t found
  obtain ⟨id, mjId, -, -⟩ := stepped.copy_columns
  refine ⟨stepped.mine sim.mine fits, ?_, sim.books.trans (stepped.books k), ?_⟩
  · intro key copy there
    by_cases self : key = item.dto.mjId
    · subst self
      rw [update_self, Option.some.injEq] at there
      subst there
      exact ⟨mjId.trans named, stepped.fits_copy fits⟩
    · rw [update_of_ne self] at there
      exact sim.mapped key copy there
  · by_cases own : t.id = k.id
    · -- the copy of the task, which is under the id of the task
      have key : item.dto.mjId = k.mjId := named.symm.trans (fits own).1
      have about : k.about (item :: rest) = item :: k.about rest := by simp [Ticket.about, key]
      have copy : k.copy taskM = some t := by simp [Ticket.copy, ← key, found, own]
      have copy' : k.copy (update taskM item.dto.mjId (some t')) = some t' := by simp [Ticket.copy, ← key, id, own]
      have path := sim.path
      rw [Ticket.view, about, copy] at path
      refine path.tail ?_
      rw [Ticket.view, copy']
      exact stepped.own own _
    · obtain ⟨row, same⟩ := stepped.other own
      have copy : k.copy (update taskM item.dto.mjId (some t')) = k.copy taskM := by
        unfold Ticket.copy
        by_cases key : k.mjId = item.dto.mjId
        · have away : t'.id ≠ k.id := by
            rw [id]
            exact own
          rw [key, update_self, found, Option.filter_some, Option.filter_some]
          simp [away, own]
        · rw [update_of_ne key]
      have passed : Sim cfg k exposed s₁ v₁ s taskM rest := Sim.drop (show Sim cfg k exposed s₁ v₁ s taskM
        ([item] ++ rest) from sim)
      have path := passed.path
      rw [Ticket.view] at path ⊢
      rw [row, same, copy]
      exact path

end Sim

theorem updateMjItems_sim (items : List MjItem) (taskM : MjTaskMap)
    (sim : Sim cfg k exposed s₁ v₁ s taskM (items ++ rest)) :
    (updateMjItems cfg taskM items).Meets (.unfailing _) s fun outcome s' =>
      match outcome with
      | .ok taskM' => Sim cfg k exposed s₁ v₁ s' taskM' rest
      | .error _ => Simulated cfg k exposed s₁ v₁ s' := by
  induction items generalizing taskM s with
  | nil => exact sim
  | cons item later ih =>
    unfold updateMjItems
    split
    · exact sim.simulated
    · rename_i t found
      refine .bind (updateMjTask_item t item) ?_
      intro t' s' stepped
      exact ih _ (sim.item found stepped)

/-! ## Bulk updates -/

/-- The store after a bulk update of the rows that `hits` picks. -/
def failRows (hits : Midjourney → Bool) (reason : Option String) (s : MjStore) : MjStore :=
  { s with midjourneys := s.midjourneys.map fun t => if hits t then t.bulkFailed reason else t }

theorem midjourney_failRows (hits : Midjourney → Bool) (reason : Option String) (s : MjStore) (id : Int) :
    (failRows hits reason s).midjourney id =
      (s.midjourney id).map fun t => if hits t then t.bulkFailed reason else t := by
  have columns : ∀ t : Midjourney, (if hits t then t.bulkFailed reason else t).id = t.id := by
    intro t
    split <;> rfl
  simp only [failRows, midjourney, Rows.find, find?_map, comp_def, columns]

theorem mjBulkUpdate_nil (mjIds : List String) (reason : Option String) (s : MjStore) :
    ((mjBulkUpdate mjIds (Midjourney.bulkFailed reason)).exec s []).2 =
      failRows (fun t => t.mjId ∈ mjIds) reason s := by
  simp [failRows, mjBulkUpdate, Sql.exec]

theorem mjBulkUpdateByTaskIds_nil (taskIDs : List Int) (reason : Option String) (s : MjStore) :
    ((mjBulkUpdateByTaskIds taskIDs (Midjourney.bulkFailed reason)).exec s []).2 =
      failRows (fun t => t.id ∈ taskIDs) reason s := by
  simp [failRows, mjBulkUpdateByTaskIds, Sql.exec]

theorem mine_failRows {hits : Midjourney → Bool} {reason : Option String} (mine : Mine k s) :
    Mine k (failRows hits reason s) := by
  refine ⟨?_, ?_, mine.record⟩
  · have same : (failRows hits reason s).midjourneys.map Midjourney.id = s.midjourneys.map Midjourney.id := by
      simp only [failRows, map_map]
      refine map_congr_left fun t _ => ?_
      simp only [comp_apply]
      split <;> rfl
    rw [same]
    exact mine.keys
  · intro row member
    obtain ⟨t, inside, rfl⟩ := mem_map.mp member
    have fits := mine.rows t inside
    split
    · exact fits
    · exact fits

theorem Sim.failRows (sim : Sim cfg k exposed s₁ v₁ s taskM rest) (hits : Midjourney → Bool)
    (reason : Option String) (why : ∀ t ∈ s.midjourneys, t.id = k.id → hits t = true → exposed) :
    Sim cfg k exposed s₁ v₁ (failRows hits reason s) taskM rest := by
  have pays : Pays cfg s (Drawing.failRows hits reason s) none := pays_nothing rfl rfl rfl rfl
  refine ⟨mine_failRows sim.mine, sim.mapped, sim.books.trans (pays.books k), ?_⟩
  have path := sim.path
  rw [Ticket.view] at path ⊢
  rw [midjourney_failRows]
  cases found : s.midjourney k.id with
  | none =>
    rw [found] at path
    exact path
  | some t =>
    rw [found] at path
    obtain ⟨inside, id⟩ := Rows.mem_of_find found
    by_cases hit : hits t = true
    · refine path.tail ?_
      simp only [Option.map_some, hit]
      exact .bulk (some t) _ _ _ reason (why t inside id hit)
    · simp only [Option.map_some, hit]
      exact path

/-! ## Channels -/

def loadedMj (cfg : MjConfig) (s : MjStore) (channelId : Int) : Option Channel :=
  if cfg.memoryCacheEnabled then s.channelsIDM channelId else s.channels channelId

variable {channelId : Int}

theorem loadedMj_of_error {e : String}
    (failed : ((cacheGetChannel cfg.memoryCacheEnabled channelId).exec s []).1 = .error e) : loadedMj cfg s channelId = none := by
  unfold cacheGetChannel at failed
  unfold loadedMj
  split at failed
  · rename_i cached
    rw [if_pos cached]
    simp only [Sql.exec, bind_apply, peek_apply, view_fresh] at failed
    cases found : Site.channelsIDM s channelId with
    | none => exact found
    | some channel =>
      rw [found] at failed
      cases failed
  · rename_i uncached
    rw [if_neg uncached]
    simp only [getChannelById, Sql.exec, read_nil, id] at failed
    cases found : Site.channels s channelId with
    | none => exact found
    | some channel =>
      rw [found] at failed
      cases failed

theorem loadedMj_books (books : Books k s s') (channelId : Int) :
    loadedMj cfg s' channelId = loadedMj cfg s channelId := by
  simp [loadedMj, books.channels, books.channelsIDM]

/-- How a part of a round ends: it goes on with copies, or panics. -/
def Continues (cfg : MjConfig) (k : Ticket) (exposed : Prop) (s₁ : MjStore) (v₁ : View) (rest : List MjItem)
    (outcome : Except String MjTaskMap) (s : MjStore) : Prop :=
  match outcome with
  | .ok taskM => Sim cfg k exposed s₁ v₁ s taskM rest
  | .error _ => Simulated cfg k exposed s₁ v₁ s

theorem updateMjChannel_sim {answer : MjAnswer} {taskIds : List String}
    (sim : Sim cfg k exposed s₁ v₁ s taskM (itemsOf answer ++ rest))
    (why : k.mjId ∈ taskIds → loadedMj cfg s₁ channelId = none → exposed) :
    (updateMjChannel cfg answer channelId taskIds taskM).Meets (.unfailing _) s
      (Continues cfg k exposed s₁ v₁ rest) := by
  unfold updateMjChannel
  split
  · exact sim.drop
  refine .bind (Q := fun outcome s' => s' = s ∧
    ∀ e, outcome = .error e → loadedMj cfg s channelId = none) (unfailing_store ?_) ?_
  · exact ⟨exec_cacheGetChannel _ channelId s [], fun e failed => loadedMj_of_error failed⟩
  rintro outcome _ ⟨rfl, missing⟩
  cases outcome with
  | error e =>
    have unloaded := missing e rfl
    rw [loadedMj_books sim.books] at unloaded
    refine .bind (Q := fun _ s' => Sim cfg k exposed s₁ v₁ s' taskM (itemsOf answer ++ rest))
      (unfailing_store ?_) fun _ _ sim' => sim'.drop
    rw [mjBulkUpdate_nil]
    refine sim.failRows _ _ fun t member own named => ?_
    have named' : t.mjId ∈ taskIds := by simpa using named
    rw [(sim.mine.rows t member own).1] at named'
    exact why named' unloaded
  | ok channel =>
    dsimp only
    split
    · exact sim.simulated
    · exact sim
    · exact updateMjItems_sim _ taskM sim

theorem updateMjChannels_sim {answers : Int → MjAnswer} {taskIds : Int → List String} (channels : List Int)
    (sim : Sim cfg k exposed s₁ v₁ s taskM (channels.flatMap fun channelId => itemsOf (answers channelId)))
    (why : ∀ channelId, k.mjId ∈ taskIds channelId → loadedMj cfg s₁ channelId = none → exposed) :
    (updateMjChannels cfg answers taskIds taskM channels).Meets (.unfailing _) s
      fun _ => Simulated cfg k exposed s₁ v₁ := by
  induction channels generalizing taskM s with
  | nil => exact sim.simulated
  | cons channelId later ih =>
    rw [flatMap_cons] at sim
    refine .bind (updateMjChannel_sim sim (why channelId)) ?_
    intro outcome s' continues
    cases outcome with
    | error e => exact continues
    | ok taskM' => exact ih continues

/-! ## The whole round -/

def selected (s : MjStore) : List Midjourney := s.midjourneys.filter fun t => t.progress ≠ progressComplete

/-- The task is exposed to a bulk update: it has no id upstream, or a selected row with its
id upstream is on a channel that cannot be loaded. -/
def Exposed (cfg : MjConfig) (k : Ticket) (s : MjStore) : Prop :=
  k.mjId = "" ∨ ∃ t ∈ selected s, t.mjId = k.mjId ∧ loadedMj cfg s t.channelId = none

/-- The items of a round, in the order they come. -/
def coming (round : MjRound) (s : MjStore) : List MjItem :=
  (round.channels.list (mjChannelIds (selected s))).flatMap fun channelId => itemsOf (round.answers channelId)

def startView (k : Ticket) (round : MjRound) (s : MjStore) : View :=
  k.view s (mjTaskMap (selected s)) (coming round s)

theorem mem_of_mjTaskMap {tasks : List Midjourney} {key : String} {t : Midjourney}
    (found : mjTaskMap tasks key = some t) : t ∈ mjNamed tasks ∧ t.mjId = key := by
  have inside : ∀ (l : List Midjourney) (taskM : MjTaskMap),
      (∀ key t, taskM key = some t → t ∈ mjNamed tasks ∧ t.mjId = key) → (∀ t ∈ l, t ∈ mjNamed tasks) →
      ∀ key t, l.foldl MjTaskMap.insert taskM key = some t → t ∈ mjNamed tasks ∧ t.mjId = key := by
    intro l
    induction l with
    | nil => exact fun taskM holds _ => holds
    | cons first later ih =>
      intro taskM holds members
      refine ih _ ?_ fun t member => members t (mem_cons_of_mem _ member)
      intro key t found
      simp only [MjTaskMap.insert, update_apply] at found
      split at found
      · rename_i same
        cases found
        exact ⟨members _ mem_cons_self, same.symm⟩
      · exact holds key t found
  exact inside (mjNamed tasks) _ (by simp) (fun _ member => member) key t found

/-- **A round, seen from one task.** -/
theorem round_simulated (mine : Mine k s₁) (round : MjRound) :
    (updateMidjourneyTaskRound cfg round).Meets (.unfailing _) s₁
      fun _ => Simulated cfg k (Exposed cfg k s₁) s₁ (startView k round s₁) := by
  refine .bind (Q := fun outcome s' => outcome = .ok (selected s₁) ∧ s' = s₁) (unfailing_store ⟨rfl, rfl⟩) ?_
  rintro _ _ ⟨rfl, rfl⟩
  rename_i s₁
  have start : Sim cfg k (Exposed cfg k s₁) s₁ (startView k round s₁) s₁ (mjTaskMap (selected s₁))
      (coming round s₁) := by
    refine ⟨mine, fun key t found => ?_, .refl k s₁, .refl⟩
    obtain ⟨member, named⟩ := mem_of_mjTaskMap found
    exact ⟨named, mine.rows t (mem_of_mem_filter (mem_of_mem_filter member))⟩
  refine .bind ?_ fun _ _ sim => updateMjChannels_sim _ sim ?_
  · unfold fixNullTasks
    split
    · exact start
    refine .bind (unfailing_store ?_) fun _ _ sim => sim
    rw [mjBulkUpdateByTaskIds_nil]
    refine start.failRows _ _ fun t member own named => ?_
    -- it was selected without an id upstream
    have listed : t.id ∈ mjNullTaskIds (selected s₁) := of_decide_eq_true named
    obtain ⟨t', inside, same⟩ := mem_map.mp listed
    simp only [mem_filter, decide_eq_true_eq] at inside
    have fits := mine.rows t' (mem_of_mem_filter inside.1) (same.trans own)
    exact .inl (fits.1.symm.trans inside.2)
  · intro channelId named unloaded
    simp only [mjChannelTasks, mjNamed, mem_map, mem_filter, decide_eq_true_eq] at named
    obtain ⟨t, ⟨⟨member, -⟩, rfl⟩, same⟩ := named
    exact .inr ⟨t, member, same, unloaded⟩

end NewApi.Drawing
