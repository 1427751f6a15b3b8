/-
# Subscription.GroupRuns — is the group restored when the last upgrade ends?

Of two overlapping upgrades to one group only the first remembers the group from before, and the
expiry looks at the last (`group_not_restored`).  `Admitted` is what `GroupInvariant` asks of the call
a step makes, in the state it meets.
-/
import NewApi.Subscription.GroupInvariant
import NewApi.Subscription.QuotaRuns

namespace NewApi.Subscription
open Theory Theory.Text Model Pool List Option

/-! ## Runs -/

/-- A request that creates or ends subscriptions. -/
inductive GroupCall where
  | create (order : String) (userId : Int) (plan : SubscriptionPlan) (source : String)
  | expireDue (ranged : MapOrder) (limit : Int)
  | invalidate (userSubscriptionId : Int)
  | delete (userSubscriptionId : Int)

/-- The handler of a request that arrives at `now`. -/
def GroupCall.program (cfg : Config) (now : Int) : GroupCall → Program Store Unit
  | .create order userId plan source => do
      let _ ← Program.store
        (Sql.transaction (createUserSubscriptionFromPlanTx cfg order userId plan source now))
  | .expireDue ranged limit => do
      let _ ← expireDueSubscriptions ranged now limit
  | .invalidate id => do
      let _ ← Program.store (adminInvalidateUserSubscription id now)
  | .delete id => do
      let _ ← Program.store (adminDeleteUserSubscription id now)

/-- A call that does not part the user from the row that remembers the group. -/
def Admitted (cfg : Config) (userId now : Int) (s : Store) : GroupCall → Prop
  | .create _ owner plan _ => owner = userId → UpgradeInPlace cfg userId now s plan
  | .expireDue _ _ => HolderEndsLast userId now s
  | .invalidate id => ∀ h ∈ s.subs, h.id = id → Live userId h → h.prevUserGroup ≠ "" →
      Alone userId now s id
  | .delete id => ∀ h ∈ s.subs, h.id = id → Live userId h → h.prevUserGroup ≠ "" →
      Alone userId now s id

instance (cfg : Config) (userId now : Int) (s : Store) :
    (call : GroupCall) → Decidable (Admitted cfg userId now s call)
  | .create _ owner plan _ =>
    inferInstanceAs (Decidable (owner = userId → UpgradeInPlace cfg userId now s plan))
  | .expireDue _ _ => inferInstanceAs (Decidable (HolderEndsLast userId now s))
  | .invalidate _ | .delete _ => inferInstanceAs (Decidable (∀ h ∈ s.subs, _ → _ → _ → _))

/-- The time of the last step, and the user's group in the last state without a live
upgrade: the group from before the stretch of upgrades that is going on. -/
structure Stretch where
  time : Int
  base : String

/-- Time does not go back, no call fails, and nobody else touches the subscription rows or
the user's group. -/
def groupRules {ι : Type} (userId : Int) (now : ι → Int) (admitted : ι → Store → Prop) : Rules Store ι Stretch where
  env s s' := s'.subs = s.subs ∧ s'.nextSubId = s.nextSubId ∧
    (s'.users userId).map (·.group) = (s.users userId).map (·.group)
  guard i faults s _ g := faults = [] ∧ g.time ≤ now i ∧ admitted i s
  own i _ s _ g :=
    { time := now i
      base := if ∃ row ∈ s.subs, Live userId row then g.base else groupOf s userId }
  outside _ _ g := g

/-- No upgrade of the user is in force, and none of the user's rows is still due. -/
def Quiet (userId now : Int) (s : Store) : Prop :=
  ∀ sub ∈ s.subs, sub.userId = userId →
    (sub.upgradeGroup ≠ "" → ¬sub.ActiveAt now) ∧ ¬sub.DueAt now
deriving Decidable

/-- A store in which the user is in group `home` and has never had an upgrade. -/
structure NeverUpgraded (userId : Int) (home : String) (s : Store) : Prop where
  here : (s.users userId).map (·.group) = some home
  ids : (s.subs.map (·.id)).Nodup
  fresh : ∀ sub ∈ s.subs, sub.id < s.nextSubId
  none : ∀ sub ∈ s.subs, ¬Upgrades userId sub

section
variable {s : Store} {home : String}

theorem groupOf_of_map {userId : Int}
    (here : (s.users userId).map (·.group) = some home) : groupOf s userId = home := by
  rw [groupOf, here]
  rfl

theorem NeverUpgraded.restorable {userId : Int}
    (untouched : NeverUpgraded userId home s) (time : Int) : Restorable userId home time s where
  here := by
    obtain ⟨user, found, -⟩ := map_eq_some_iff.mp untouched.here
    exact ⟨user, found⟩
  ids := untouched.ids
  fresh := untouched.fresh
  rows := ⟨fun sub inside upgrades => absurd upgrades (untouched.none sub inside),
    fun sub inside upgrades => absurd upgrades (untouched.none sub inside),
    fun sub inside upgrades => absurd upgrades (untouched.none sub inside),
    fun sub inside live => absurd live.1 (untouched.none sub inside)⟩
  held := .inl (groupOf_of_map untouched.here)

theorem Restorable.home_of_quiet {userId time : Int}
    (ok : Restorable userId home time s) (quiet : ∀ row ∈ s.subs, ¬Live userId row) : groupOf s userId = home := by
  rcases ok.held with atHome | ⟨h, inside, live, -⟩
  · exact atHome
  · exact absurd live (quiet h inside)

end

/-! ## What each transaction keeps -/

/-- Executed at `now` in a state that meets `admitted`, a call keeps the group restorable. -/
def KeepsGroup (userId : Int) (home : String) (now : Int) (admitted : Store → Prop) {β : Type} (act : Db β) : Prop :=
  ∀ s time, Restorable userId home time s → time ≤ now → 0 ≤ now → admitted s →
    Restorable userId home now (act.exec s []).2

section
variable {cfg : Config} {userId now : Int} {home : String}

theorem keepsGroup_create (order : String) (owner : Int) (plan : SubscriptionPlan) (source : String) :
    KeepsGroup userId home now (Admitted cfg userId now · (.create order owner plan source))
      (Sql.transaction (createUserSubscriptionFromPlanTx cfg order owner plan source now)) := by
  intro s time ok later begun admitted
  obtain ⟨outcome, w, body, created⟩ := create_apply cfg order owner plan source now s fun s => s
  rw [Sql.exec_transaction_nil body]
  cases outcome with
  | error e => exact ok.later later
  | ok sub => exact ok.create later begun (created sub rfl) admitted

theorem keepsGroup_expireUser (homeOk : Home home) (owner : Int) :
    KeepsGroup userId home now (HolderEndsLast userId now) (Sql.transaction (expireUserTx owner now)) := by
  intro s time ok later _ admitted
  obtain ⟨outcome, s', ran, effect⟩ := expireUser_exec owner now s
  rw [ran]
  rcases effect with unchanged | ended
  · rw [unchanged]
    exact ok.later later
  · rw [ended]
    exact ok.expire homeOk later owner admitted

theorem keepsGroup_invalidate (homeOk : Home home) (id : Int) :
    KeepsGroup userId home now (Admitted cfg userId now · (.invalidate id))
      (adminInvalidateUserSubscription id now) := by
  intro s time ok later _ admitted
  obtain ⟨outcome, s', ran, effect⟩ := invalidate_exec id now s
  rw [ran]
  show Restorable userId home now s'
  rcases effect with unchanged | ⟨sub, found, ended⟩
  · rw [unchanged]
    exact ok.later later
  · obtain ⟨inside, same⟩ := Store.mem_of_findSub found
    have alone : Live userId sub → sub.prevUserGroup ≠ "" → Alone userId now s id := admitted sub inside same
    rw [ended]
    exact ok.invalidate homeOk later found alone

theorem keepsGroup_delete (homeOk : Home home) (id : Int) :
    KeepsGroup userId home now (Admitted cfg userId now · (.delete id)) (adminDeleteUserSubscription id now) := by
  intro s time ok later _ admitted
  obtain ⟨outcome, s', ran, effect⟩ := delete_exec id now s
  rw [ran]
  rcases effect with unchanged | ⟨sub, found, ended⟩
  · rw [unchanged]
    exact ok.later later
  · obtain ⟨inside, same⟩ := Store.mem_of_findSub found
    have alone : Live userId sub → sub.prevUserGroup ≠ "" → Alone userId now s id := admitted sub inside same
    rw [ended]
    exact ok.delete homeOk later found alone

theorem keepsGroup_read {admitted : Store → Prop} {β : Type} (query : Store → Except String β) :
    KeepsGroup userId home now admitted (Sql.read query) := by
  intro s time ok later _ _
  have unchanged : ((Sql.read query).exec s []).2 = s := Sql.local_read query ⟨s, id, []⟩
  rw [unchanged]
  exact ok.later later

theorem all_expireUsers (homeOk : Home home) (users : List Int) (count : Int) : (expireUsers now users count).All
      fun act => KeepsGroup userId home now (HolderEndsLast userId now) act := by
  induction users generalizing count with
  | nil => trivial
  | cons owner rest ih =>
    refine Program.all_call (keepsGroup_expireUser homeOk owner) fun ended => ?_
    cases ended with
    | error e => trivial
    | ok result => exact ih _

theorem GroupCall.all_keepsGroup (homeOk : Home home) (call : GroupCall) : (call.program cfg now).All
      fun act => KeepsGroup userId home now (Admitted cfg userId now · call) act := by
  cases call with
  | create order owner plan source =>
    exact ⟨keepsGroup_create order owner plan source, fun _ => trivial⟩
  | expireDue ranged limit =>
    refine .bind (Program.all_call (keepsGroup_read _) fun picked => ?_) fun _ => trivial
    cases picked with
    | error e => trivial
    | ok subs => exact all_expireUsers homeOk _ _
  | invalidate id => exact ⟨keepsGroup_invalidate homeOk id, fun _ => trivial⟩
  | delete id => exact ⟨keepsGroup_delete homeOk id, fun _ => trivial⟩

end

section
variable {ι : Type} {cfg : Config} {userId : Int} {home : String} {now : ι → Int}
  {calls : ι → GroupCall} {s : Store}

/-- The invariant of store and history variable. -/
def OnTrack (userId : Int) (home : String) (s : Store) (g : Stretch) : Prop :=
  Restorable userId home g.time s ∧ g.base = home ∧ 0 ≤ g.time

variable {s' : Store} {g : Stretch} {admitted : ι → Store → Prop}

/-- The history variable after a step: the group from before is still `home`. -/
theorem OnTrack.step {i : ι} {faults : Faults} (onTrack : OnTrack userId home s g)
    (guard : (groupRules userId now admitted).guard i faults s s' g)
    (after : g.time ≤ now i → 0 ≤ now i → admitted i s → Restorable userId home (now i) s') :
    OnTrack userId home s' ((groupRules userId now admitted).own i faults s s' g) := by
  obtain ⟨ok, base, begun⟩ := onTrack
  obtain ⟨-, later, allowed⟩ := guard
  have begun' : 0 ≤ now i := by omega
  refine ⟨after later begun' allowed, ?_, begun'⟩
  show (if ∃ row ∈ s.subs, Live userId row then g.base else groupOf s userId) = home
  split
  · exact base
  · rename_i quiet
    exact ok.home_of_quiet fun row inside live => quiet ⟨row, inside, live⟩

theorem OnTrack.outside (onTrack : OnTrack userId home s g) (changed : (groupRules userId now admitted).env s s') :
    OnTrack userId home s' g := by
  obtain ⟨ok, rest⟩ := onTrack
  obtain ⟨subs, next, group⟩ := changed
  refine ⟨⟨?_, by rw [subs]; exact ok.ids, by rw [subs, next]; exact ok.fresh,
    by rw [subs]; exact ok.rows, ?_⟩, rest⟩
  · obtain ⟨user, found⟩ := ok.here
    rw [found] at group
    obtain ⟨user', found', -⟩ := map_eq_some_iff.mp group
    exact ⟨user', found'⟩
  · have same : groupOf s' userId = groupOf s userId := by simp only [groupOf, group]
    unfold Held
    rw [same, subs]
    exact ok.held

/-- **The group is restored**, in every run whose calls are all admitted: in a state
without an upgrade in force and without due rows, the user is in the group from before
the first upgrade of the stretch. -/
theorem group_restored [DecidableEq ι] (homeOk : Home home) (untouched : NeverUpgraded userId home s) {time : Int}
    (begun : 0 ≤ time) {c : Pool Store Unit ι} {g : Stretch}
    (run : Run (groupRules userId now fun i s => Admitted cfg userId (now i) s (calls i))
      (initial s fun i => (calls i).program cfg (now i)) ⟨time, home⟩ c g)
    (quiet : Quiet userId g.time c.store) : groupOf c.store userId = g.base := by
  have onTrack : OnTrack userId home c.store g := by
    refine Run.call_invariant (OnTrack userId home) ⟨untouched.restorable time, rfl, begun⟩ ?_ ?_ ?_ run
    · refine ⟨fun i => ?_, fun i k member => by cases member⟩
      have kept : ((calls i).program cfg (now i)).All fun act =>
          KeepsGroup userId home (now i) (Admitted cfg userId (now i) · (calls i)) act :=
        GroupCall.all_keepsGroup homeOk (calls i)
      refine kept.mono fun act keeps s faults g onTrack guard =>
        onTrack.step guard fun later begun allowed => ?_
      obtain ⟨rfl, -, -⟩ := guard
      exact keeps s g.time onTrack.1 later begun allowed
    · intro i faults s g onTrack guard
      exact onTrack.step guard fun later _ _ => onTrack.1.later later
    · intro s s' g onTrack changed
      exact onTrack.outside changed
  obtain ⟨ok, base, -⟩ := onTrack
  rw [base]
  refine ok.home_of_quiet fun row inside live => ?_
  obtain ⟨inactive, notDue⟩ := quiet row inside live.1.1
  have notActive := inactive live.1.2
  have positive := (ok.rows.ahead row inside live).1
  by_cases ends : row.endTime > g.time
  · exact notActive ⟨live.2, ends⟩
  · exact notDue ⟨live.2, positive, by omega⟩

end

/-! ## Two upgrades to one group -/

def defaultUser : Store :=
  { Store.empty with users := fun id => if id = 7 then some ⟨7, "default", 0, "", ""⟩ else none }

theorem defaultUser_neverUpgraded : NeverUpgraded 7 "default" defaultUser :=
  ⟨rfl, nodup_nil, fun _ inside => absurd inside not_mem_nil,
    fun _ inside => absurd inside not_mem_nil⟩

def vipPlan : SubscriptionPlan := ⟨1, "vip", 5, .custom, 0, 100, true, none, 0, "vip", 100, "never", 0⟩

def inOrder : MapOrder := ⟨id, fun _ => .refl _⟩

/-- Two purchases that overlap, and the expiry of both: each request with its time. -/
def twoUpgrades : Fin 3 → GroupCall × Int
  | 0 => (.create "a" 7 vipPlan "order", 0)
  | 1 => (.create "b" 7 vipPlan "order", 10)
  | 2 => (.expireDue inOrder 0, 200)

/-- The second purchase finds the user in `vip` already and remembers nothing; when both
have ended, it is the row the expiry looks at. -/
theorem group_not_restored : ∃ (c : Pool Store Unit (Fin 3)) (g : Stretch), NeverUpgraded 7 "default" defaultUser ∧
      Run (groupRules 7 (twoUpgrades · |>.2) fun _ _ => True)
        (initial defaultUser fun i => (twoUpgrades i).1.program plainConfig (twoUpgrades i).2) ⟨0, "default"⟩ c g ∧
      Quiet 7 g.time c.store ∧ g.base = "default" ∧ groupOf c.store 7 = "vip" := by
  have bought : Run (groupRules 7 (twoUpgrades · |>.2) fun _ _ => True)
      (initial defaultUser fun i => (twoUpgrades i).1.program plainConfig (twoUpgrades i).2)
      ⟨0, "default"⟩ _ _ :=
    .step .start 0 [] (.main rfl) ⟨rfl, by decide, trivial⟩
  have again := Run.step bought 1 [] (.main rfl) ⟨rfl, by decide, trivial⟩
  have picked := Run.step again 2 [] (.main rfl) ⟨rfl, by decide, trivial⟩
  have ended := Run.step picked 2 [] (.main rfl) ⟨rfl, by decide, trivial⟩
  exact ⟨_, _, defaultUser_neverUpgraded, ended, by decide +kernel, by decide +kernel, by decide +kernel⟩

def upgradeWithin : Fin 3 → GroupCall × Int
  | 0 => (.create "a" 7 vipPlan "order", 0)
  | 1 => (.create "b" 7 { vipPlan with customSeconds := 50 } "order", 10)
  | 2 => (.expireDue inOrder 0, 200)

theorem group_restored_upgradeWithin : ∃ (c : Pool Store Unit (Fin 3)) (g : Stretch), Quiet 7 g.time c.store ∧
      c.store.subs.length = 2 ∧ g.base = "default" ∧ groupOf c.store 7 = g.base := by
  have bought : Run (groupRules 7 (upgradeWithin · |>.2)
        fun i s => Admitted plainConfig 7 (upgradeWithin i).2 s (upgradeWithin i).1)
      (initial defaultUser fun i => (upgradeWithin i).1.program plainConfig (upgradeWithin i).2)
      ⟨0, "default"⟩ _ _ :=
    .step .start 0 [] (.main rfl) ⟨rfl, by decide, by decide +kernel⟩
  have again := Run.step bought 1 [] (.main rfl) ⟨rfl, by decide, by decide +kernel⟩
  have picked := Run.step again 2 [] (.main rfl) ⟨rfl, by decide, by decide +kernel⟩
  have ended := Run.step picked 2 [] (.main rfl) ⟨rfl, by decide, by decide +kernel⟩
  refine ⟨_, _, ?_, ?_, ?_, group_restored ⟨by decide, by decide⟩ defaultUser_neverUpgraded
    (le_refl 0) ended ?_⟩ <;> decide +kernel

end NewApi.Subscription
