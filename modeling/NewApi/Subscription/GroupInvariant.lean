/-
# Subscription.GroupInvariant — keeping hold of the group from before

A subscription remembers the user's group from before only if it changed it.  When the last upgrade
of a user ends, the code looks at one row.  `Restorable`: the user is at home, or a live row still
keeps the home group for the group the user is in.  A transaction keeps it as long as it does not
part the user from that row (`UpgradeInPlace`, `HolderEndsLast`, `Alone`).
-/
import NewApi.Subscription.GroupSpec

namespace NewApi.Subscription
open Theory Theory.Text Model Store List

/-! ## Rows that upgrade a user -/

def Upgrades (userId : Int) (sub : UserSubscription) : Prop := sub.userId = userId ∧ sub.upgradeGroup ≠ ""
deriving Decidable

/-- An upgrade that has not been ended; its time may be over all the same. -/
def Live (userId : Int) (sub : UserSubscription) : Prop := Upgrades userId sub ∧ sub.status = .active
deriving Decidable

def EndsFirst (a b : UserSubscription) : Prop := a.endTime < b.endTime ∨ (a.endTime = b.endTime ∧ a.id < b.id)
deriving Decidable

/-- What holds of a user's upgrade rows at `time`: groups are trimmed, the only group a
row remembers is `home`, expired rows are over, and live ones end after all of them. -/
structure RowsOk (userId : Int) (home : String) (time : Int) (rows : List UserSubscription) : Prop where
  trimmed : ∀ sub ∈ rows, Upgrades userId sub → trimSpace sub.upgradeGroup = sub.upgradeGroup
  prev : ∀ sub ∈ rows, Upgrades userId sub → sub.prevUserGroup = "" ∨ sub.prevUserGroup = home
  past : ∀ sub ∈ rows, Upgrades userId sub → sub.status = .expired → sub.endTime ≤ time
  ahead : ∀ sub ∈ rows, Live userId sub → 0 < sub.endTime ∧
    ∀ old ∈ rows, Upgrades userId old → old.status = .expired → old.endTime < sub.endTime

theorem expire_cases (sub : UserSubscription) (userId now : Int) :
    (sub.userId = userId ∧ sub.DueAt now ∧ sub.expire userId now = { sub with status := .expired }) ∨
      (¬(sub.userId = userId ∧ sub.DueAt now) ∧ sub.expire userId now = sub) := by
  by_cases due : sub.userId = userId ∧ sub.DueAt now
  · exact .inl ⟨due.1, due.2, if_pos due⟩
  · exact .inr ⟨due, if_neg due⟩

section
variable {userId time now : Int} {home : String} {rows rows' : List UserSubscription}

variable (ok : RowsOk userId home time rows)

include ok

theorem RowsOk.later (later : time ≤ now) : RowsOk userId home now rows where
  trimmed := ok.trimmed
  prev := ok.prev
  past sub member upgrades expired := by
    have := ok.past sub member upgrades expired
    omega
  ahead := ok.ahead

/-- Rows that are old ones, or cancelled versions of old ones. -/
theorem RowsOk.of_cancel (derived : ∀ row ∈ rows', row ∈ rows ∨ ∃ old ∈ rows, row = old.cancel now) :
    RowsOk userId home time rows' where
  trimmed sub member upgrades := by
    rcases derived sub member with old | ⟨old, inside, rfl⟩
    · exact ok.trimmed sub old upgrades
    · exact ok.trimmed old inside upgrades
  prev sub member upgrades := by
    rcases derived sub member with old | ⟨old, inside, rfl⟩
    · exact ok.prev sub old upgrades
    · exact ok.prev old inside upgrades
  past sub member upgrades expired := by
    rcases derived sub member with old | ⟨old, inside, rfl⟩
    · exact ok.past sub old upgrades expired
    · cases expired
  ahead sub member live := by
    rcases derived sub member with inside | ⟨old, inside, rfl⟩
    · refine ⟨(ok.ahead sub inside live).1, fun old oldMember upgrades expired => ?_⟩
      rcases derived old oldMember with oldInside | ⟨_, _, rfl⟩
      · exact (ok.ahead sub inside live).2 old oldInside upgrades expired
      · cases expired
    · cases live.2

/-- Marking the due rows of a user keeps the rows of every user in order. -/
theorem RowsOk.expire (later : time ≤ now) (owner : Int) : RowsOk userId home now (rows.map (·.expire owner now)) where
  trimmed sub member upgrades := by
    obtain ⟨old, inside, rfl⟩ := mem_map.mp member
    rcases expire_cases old owner now with ⟨-, -, eq⟩ | ⟨-, eq⟩ <;> rw [eq] at upgrades ⊢ <;>
      exact ok.trimmed old inside upgrades
  prev sub member upgrades := by
    obtain ⟨old, inside, rfl⟩ := mem_map.mp member
    rcases expire_cases old owner now with ⟨-, -, eq⟩ | ⟨-, eq⟩ <;> rw [eq] at upgrades ⊢ <;>
      exact ok.prev old inside upgrades
  past sub member upgrades expired := by
    obtain ⟨old, inside, rfl⟩ := mem_map.mp member
    rcases expire_cases old owner now with ⟨-, due, eq⟩ | ⟨-, eq⟩ <;> rw [eq] at upgrades expired ⊢
    · exact due.2.2
    · have := ok.past old inside upgrades expired
      omega
  ahead sub member live := by
    obtain ⟨kept, inside, rfl⟩ := mem_map.mp member
    rcases expire_cases kept owner now with ⟨-, -, eq⟩ | ⟨notDue, eq⟩ <;> rw [eq] at live ⊢
    · cases live.2
    obtain ⟨positive, after⟩ := ok.ahead kept inside live
    refine ⟨positive, fun sub' member' upgrades expired => ?_⟩
    obtain ⟨old, oldInside, rfl⟩ := mem_map.mp member'
    rcases expire_cases old owner now with ⟨owned, due, eq'⟩ | ⟨-, eq'⟩ <;> rw [eq'] at upgrades expired ⊢
    · -- `old` has just fallen due and `kept`, of the same user, has not.
      have same : kept.userId = owner := by rw [live.1.1, ← owned]; exact upgrades.1.symm
      have : ¬kept.endTime ≤ now := fun due' => notDue ⟨same, live.2, positive, due'⟩
      have : old.endTime ≤ now := due.2.2
      show old.endTime < kept.endTime
      omega
    · exact after old oldInside upgrades expired

/-- A new live row that ends in the future. -/
theorem RowsOk.append {sub : UserSubscription} (begun : 0 ≤ time)
    (fine : Upgrades userId sub → sub.status = .active ∧ time < sub.endTime ∧
      trimSpace sub.upgradeGroup = sub.upgradeGroup ∧ (sub.prevUserGroup = "" ∨ sub.prevUserGroup = home)) :
    RowsOk userId home time (rows ++ [sub]) where
  trimmed row member upgrades := by
    rcases mem_append.mp member with old | new
    · exact ok.trimmed row old upgrades
    · cases mem_singleton.mp new
      exact (fine upgrades).2.2.1
  prev row member upgrades := by
    rcases mem_append.mp member with old | new
    · exact ok.prev row old upgrades
    · cases mem_singleton.mp new
      exact (fine upgrades).2.2.2
  past row member upgrades expired := by
    rcases mem_append.mp member with old | new
    · exact ok.past row old upgrades expired
    · cases mem_singleton.mp new
      rw [(fine upgrades).1] at expired
      cases expired
  ahead row member live := by
    have earlier : ∀ old ∈ rows ++ [sub], Upgrades userId old → old.status = .expired → old ∈ rows := by
      intro old oldMember upgrades expired
      rcases mem_append.mp oldMember with inside | new
      · exact inside
      · cases mem_singleton.mp new
        rw [(fine upgrades).1] at expired
        cases expired
    rcases mem_append.mp member with inside | new
    · refine ⟨(ok.ahead row inside live).1, fun old oldMember upgrades expired => ?_⟩
      exact (ok.ahead row inside live).2 old (earlier old oldMember upgrades expired) upgrades expired
    · cases mem_singleton.mp new
      have ends := (fine live.1).2.1
      refine ⟨by omega, fun old oldMember upgrades expired => ?_⟩
      have := ok.past old (earlier old oldMember upgrades expired) upgrades expired
      omega

end

instance : Std.Total endsAfter where
  total a b := by
    show endsBefore b a ∨ endsBefore a b
    unfold endsBefore
    omega

instance : IsTrans UserSubscription endsAfter where
  trans a b c first second := by
    have first : endsBefore b a := first
    have second : endsBefore c b := second
    show endsBefore c a
    unfold endsBefore at *
    omega

/-- An expired upgrade that all others end before is the one that is looked at. -/
theorem lastExpired_eq {s : Store} {userId : Int} {h : UserSubscription}
    (ids : (s.subs.map (·.id)).Nodup) (member : h ∈ s.subs) (upgrades : Upgrades userId h)
    (expired : h.status = .expired)
    (last : ∀ row ∈ s.subs, Upgrades userId row → row.status = .expired → row.id ≠ h.id → EndsFirst row h) :
    s.lastExpired userId = some h := by
  unfold lastExpired
  generalize isCandidates : insertionSort endsAfter _ = candidates
  have listed : ∀ row, row ∈ candidates ↔ row ∈ s.subs ∧ Upgrades userId row ∧ row.status = .expired := by
    intro row
    rw [← isCandidates, mem_insertionSort, mem_filter]
    simp only [decide_eq_true_eq, Upgrades]
    tauto
  have sorted : candidates.Pairwise endsAfter := isCandidates ▸ pairwise_insertionSort endsAfter _
  cases candidates with
  | nil =>
    have := (listed h).mpr ⟨member, upgrades, expired⟩
    cases this
  | cons top rest =>
    obtain ⟨inside, topUpgrades, topExpired⟩ := (listed top).mp mem_cons_self
    rw [head?_cons, Option.some_inj]
    by_cases same : top.id = h.id
    · have found := findSub_of_mem ids inside
      rw [same, findSub_of_mem ids member] at found
      exact (Option.some.inj found).symm
    · have before := last top inside topUpgrades topExpired same
      have after : endsBefore h top := by
        rcases mem_cons.mp ((listed h).mpr ⟨member, upgrades, expired⟩) with rfl | later
        · exact absurd rfl same
        · exact (pairwise_cons.mp sorted).1 h later
      unfold EndsFirst at before
      unfold endsBefore at after
      omega

/-! ## The invariant -/

/-- The user is at home, or a live row keeps `home` for the group the user is in. -/
def Held (userId : Int) (home : String) (s : Store) : Prop :=
  groupOf s userId = home ∨ ∃ h ∈ s.subs, Live userId h ∧ h.upgradeGroup = groupOf s userId ∧
    h.prevUserGroup = home

structure Restorable (userId : Int) (home : String) (time : Int) (s : Store) : Prop where
  here : ∃ user, s.users userId = some user
  ids : (s.subs.map (·.id)).Nodup
  fresh : ∀ sub ∈ s.subs, sub.id < s.nextSubId
  rows : RowsOk userId home time s.subs
  held : Held userId home s

/-- A group that a row can remember. -/
structure Home (home : String) : Prop where
  named : home ≠ ""
  trimmed : trimSpace home = home

variable {userId time now : Int} {home : String} {s v : Store}

theorem Restorable.later (ok : Restorable userId home time s) (later : time ≤ now) : Restorable userId home now s :=
  ⟨ok.here, ok.ids, ok.fresh, ok.rows.later later, ok.held⟩

theorem here_regroup (here : ∃ user, v.users userId = some user) (owner : Int) (target : String) :
    ∃ user, (regroup v owner target).users userId = some user := by
  obtain ⟨user, found⟩ := here
  unfold regroup
  split
  · exact ⟨user, found⟩
  · by_cases same : userId = owner
    · subst same
      exact ⟨{ user with group := target }, by simp [setGroup, setUser, found]⟩
    · exact ⟨user, by simp [setGroup, setUser, same, found]⟩

variable {target : String}

/-- Rows have changed and `owner` is moved to `target`. -/
theorem restorable_regroup (homeOk : Home home) (here : ∃ user, v.users userId = some user)
    (ids : (v.subs.map (·.id)).Nodup) (fresh : ∀ sub ∈ v.subs, sub.id < v.nextSubId)
    (rows : RowsOk userId home time v.subs) {owner : Int} (held : (owner = userId ∧ target = home) ∨
      ((owner ≠ userId ∨ target = "") ∧ Held userId home v)) :
    Restorable userId home time (regroup v owner target) where
  here := here_regroup here owner target
  ids := by rw [subs_regroup]; exact ids
  fresh := by rw [subs_regroup, nextSubId_regroup]; exact fresh
  rows := by rw [subs_regroup]; exact rows
  held := by
    obtain ⟨user, found⟩ := here
    rcases held with ⟨rfl, rfl⟩ | ⟨stays, held⟩
    · refine .inl ?_
      rw [regroup, if_neg homeOk.named]
      exact groupOf_setGroup found target
    · have same : groupOf (regroup v owner target) userId = groupOf v userId := by
        unfold regroup
        rcases stays with different | rfl
        · split
          · rfl
          · exact groupOf_setGroup_of_ne v (Ne.symm different) target
        · rw [if_pos rfl]
      unfold Held
      rw [same, subs_regroup]
      exact held

/-! ## Ending one row -/

theorem trimSpace_empty : trimSpace "" = "" := by decide

variable {sub : UserSubscription} {id : Int}

/-- The user can only be sent home. -/
theorem fallback_home (homeOk : Home home) (now : Int)
    (prev : sub.upgradeGroup ≠ "" → sub.prevUserGroup = "" ∨ sub.prevUserGroup = home) :
    fallback v sub now = "" ∨ fallback v sub now = home := by
  unfold fallback
  by_cases plain : sub.upgradeGroup = ""
  · rw [plain, trimSpace_empty, if_pos rfl]
    exact .inl rfl
  split
  · exact .inl rfl
  split
  · exact .inl rfl
  split
  · exact .inl rfl
  split
  · exact .inl rfl
  · rcases prev plain with none | back
    · rw [none, trimSpace_empty]
      exact .inl rfl
    · rw [back, homeOk.trimmed]
      exact .inr rfl

/-- The row that remembers sends the user home, when no other upgrade is in force. -/
theorem fallback_holder (homeOk : Home home)
    (upgrades : sub.upgradeGroup ≠ "") (trimmed : trimSpace sub.upgradeGroup = sub.upgradeGroup)
    (inside : sub.upgradeGroup = groupOf v sub.userId) (back : sub.prevUserGroup = home)
    (alone : v.activeUpgrade sub.userId now (·.id ≠ sub.id) = none)
    (stays : fallback v sub now = "") : groupOf v sub.userId = home := by
  unfold fallback at stays
  rw [trimmed, if_neg upgrades, if_neg (by simp [inside]), alone, back, homeOk.trimmed] at stays
  by_cases same : home = groupOf v sub.userId
  · exact same.symm
  · rw [if_neg same] at stays
    exact absurd stays homeOk.named

/-- One row was cancelled or removed, and its user moved to `target`. -/
theorem Restorable.ended (homeOk : Home home) (ok : Restorable userId home time s)
    (later : time ≤ now) (member : sub ∈ s.subs) (kept : ∀ row ∈ s.subs, row.id ≠ sub.id → row ∈ v.subs)
    (derived : ∀ row ∈ v.subs, row ∈ s.subs ∨ ∃ old ∈ s.subs, row = old.cancel now)
    (ids : (v.subs.map (·.id)).Nodup) (users : v.users = s.users) (next : v.nextSubId = s.nextSubId)
    (falls : sub.userId = userId → (target = "" ∨ target = home) ∧
      (Live userId sub → sub.upgradeGroup = groupOf s userId → sub.prevUserGroup = home →
        target = "" → groupOf s userId = home)) : Restorable userId home now (regroup v sub.userId target) := by
  have group : groupOf v userId = groupOf s userId := by simp only [groupOf, users]
  refine restorable_regroup homeOk (by rw [users]; exact ok.here) ids ?_
    ((ok.rows.later later).of_cancel derived) ?_
  · intro row inside
    rw [next]
    rcases derived row inside with old | ⟨old, oldInside, rfl⟩
    · exact ok.fresh row old
    · exact ok.fresh old oldInside
  -- Unless the ended row is the one that remembers, that one is still there.
  have others : ¬(Live userId sub ∧ sub.upgradeGroup = groupOf s userId ∧ sub.prevUserGroup = home) →
      Held userId home v := by
    intro notHolder
    unfold Held
    rw [group]
    rcases ok.held with atHome | ⟨h, inside, live, upgraded, back⟩
    · exact .inl atHome
    refine .inr ⟨h, kept h inside ?_, live, upgraded, back⟩
    intro same
    have found := findSub_of_mem ok.ids inside
    rw [same, findSub_of_mem ok.ids member] at found
    cases found
    exact notHolder ⟨live, upgraded, back⟩
  by_cases owned : sub.userId = userId
  · obtain ⟨stays | back, arrives⟩ := falls owned
    · refine .inr ⟨.inr stays, ?_⟩
      by_cases holder : Live userId sub ∧ sub.upgradeGroup = groupOf s userId ∧ sub.prevUserGroup = home
      · refine .inl ?_
        rw [group]
        exact arrives holder.1 holder.2.1 holder.2.2 stays
      · exact others holder
    · exact .inl ⟨owned, back⟩
  · exact .inr ⟨.inl owned, others fun holder => owned holder.1.1.1⟩

/-- No other upgrade of the user is in force at `now`. -/
def Alone (userId now : Int) (s : Store) (id : Int) : Prop :=
  ∀ row ∈ s.subs, Live userId row → row.id ≠ id → row.endTime ≤ now
deriving Decidable

theorem activeUpgrade_none (alone : Alone userId now s id) (rows : ∀ row ∈ v.subs, row.id ≠ id → row ∈ s.subs) :
    v.activeUpgrade userId now (·.id ≠ id) = none := by
  unfold activeUpgrade
  rw [find?_eq_none]
  intro row inside found
  simp only [decide_eq_true_eq] at found
  obtain ⟨owned, ⟨active, ends⟩, upgrades, other⟩ := found
  have := alone row (rows row inside other) ⟨⟨owned, upgrades⟩, active⟩ other
  omega

section
variable (homeOk : Home home) (ok : Restorable userId home time s) (later : time ≤ now)
  (found : s.findSub id = some sub)
  (admitted : Live userId sub → sub.prevUserGroup ≠ "" → Alone userId now s id)
include homeOk ok later found admitted

theorem Restorable.invalidate : Restorable userId home now (regroup (s.saveSub (sub.cancel now)) sub.userId
      (fallback (s.saveSub (sub.cancel now)) (sub.cancel now) now)) := by
  obtain ⟨member, rfl⟩ := mem_of_findSub found
  refine ok.ended homeOk later member (fun row inside other => mem_saveSub_of_ne inside other)
    (fun row inside => ?_) (by rw [map_id_saveSub]; exact ok.ids) rfl rfl fun owned => ⟨?_, ?_⟩
  · rcases mem_saveSub inside with rfl | ⟨old, -⟩
    · exact .inr ⟨sub, member, rfl⟩
    · exact .inl old
  · exact fallback_home homeOk now fun upgrades => ok.rows.prev sub member ⟨owned, upgrades⟩
  · intro live upgraded back stays
    subst owned
    have alone : (s.saveSub (sub.cancel now)).activeUpgrade sub.userId now (·.id ≠ sub.id) = none := by
      refine activeUpgrade_none (admitted live (by rw [back]; exact homeOk.named))
        fun row inside other => ?_
      rcases mem_saveSub inside with rfl | ⟨old, -⟩
      · exact absurd rfl other
      · exact old
    have moved := fallback_holder homeOk (v := s.saveSub (sub.cancel now)) live.1.2
      (ok.rows.trimmed sub member live.1) upgraded back alone stays
    exact moved

theorem Restorable.delete :
    Restorable userId home now ((regroup s sub.userId (fallback s sub now)).deleteSub id) := by
  obtain ⟨member, rfl⟩ := mem_of_findSub found
  have commutes : (regroup s sub.userId (fallback s sub now)).deleteSub sub.id =
      regroup (s.deleteSub sub.id) sub.userId (fallback s sub now) := by
    unfold regroup
    split <;> rfl
  have deleted : ∀ row, row ∈ (s.deleteSub sub.id).subs ↔ row ∈ s.subs ∧ row.id ≠ sub.id := by
    intro row
    simp [deleteSub]
  rw [commutes]
  refine ok.ended homeOk later member (fun row inside other => (deleted row).mpr ⟨inside, other⟩)
    (fun row inside => .inl ((deleted row).mp inside).1) ?_ rfl rfl fun owned => ⟨?_, ?_⟩
  · exact ok.ids.sublist (filter_sublist.map _)
  · exact fallback_home homeOk now fun upgrades => ok.rows.prev sub member ⟨owned, upgrades⟩
  · intro live upgraded back stays
    subst owned
    have alone := admitted live (by rw [back]; exact homeOk.named)
    exact fallback_holder homeOk live.1.2 (ok.rows.trimmed sub member live.1) upgraded back
      (activeUpgrade_none alone fun row inside _ => inside) stays

end

theorem map_id_expireUser (s : Store) (owner now : Int) :
    (s.expireUser owner now).subs.map (·.id) = s.subs.map (·.id) := by
  simp only [expireUser, map_map]
  refine map_congr_left fun row _ => ?_
  rcases expire_cases row owner now with ⟨-, -, eq⟩ | ⟨-, eq⟩ <;> simp only [Function.comp_apply, eq]

theorem expiryFallback_home (homeOk : Home home) (rows : RowsOk userId home time v.subs) (now : Int) :
    expiryFallback v userId now = "" ∨ expiryFallback v userId now = home := by
  unfold expiryFallback
  split
  · exact .inl rfl
  cases found : v.lastExpired userId with
  | none => exact .inl rfl
  | some last =>
    have listed := (mem_insertionSort _).mp (mem_of_mem_head? found)
    obtain ⟨inside, owned⟩ := mem_filter.mp listed
    simp only [decide_eq_true_eq] at owned
    simp only
    split
    · exact .inl rfl
    split
    · exact .inl rfl
    split
    · exact .inl rfl
    · rcases rows.prev last inside ⟨owned.1, owned.2.2⟩ with none | back
      · rw [none, trimSpace_empty]
        exact .inl rfl
      · rw [back, homeOk.trimmed]
        exact .inr rfl

/-- When the row that remembers falls due, it ends last of the live upgrades. -/
def HolderEndsLast (userId now : Int) (s : Store) : Prop :=
  ∀ h ∈ s.subs, Live userId h → h.prevUserGroup ≠ "" → h.endTime ≤ now →
    ∀ row ∈ s.subs, Live userId row → row.id ≠ h.id → EndsFirst row h
deriving Decidable

section
variable (homeOk : Home home) (ok : Restorable userId home time s)
include homeOk ok

/-- The row that remembers has fallen due: no upgrade is in force, and it is looked at. -/
theorem expiryFallback_holder
    {h : UserSubscription} (member : h ∈ s.subs) (live : Live userId h)
    (upgraded : h.upgradeGroup = groupOf s userId) (back : h.prevUserGroup = home) (over_ : h.endTime ≤ now)
    (last : ∀ row ∈ s.subs, Live userId row → row.id ≠ h.id → EndsFirst row h)
    (stays : expiryFallback (s.expireUser userId now) userId now = "") : groupOf s userId = home := by
  obtain ⟨positive, after⟩ := ok.rows.ahead h member live
  have due : h.userId = userId ∧ h.DueAt now := ⟨live.1.1, live.2, positive, over_⟩
  have inactive : (s.expireUser userId now).activeUpgrade userId now (fun _ => true) = none := by
    unfold activeUpgrade
    rw [find?_eq_none]
    intro row' inside' found
    simp only [decide_eq_true_eq] at found
    obtain ⟨owned, ⟨active, ends⟩, upgrades, -⟩ := found
    obtain ⟨row, inside, rfl⟩ := mem_map.mp inside'
    rcases expire_cases row userId now with ⟨-, -, eq⟩ | ⟨notDue, eq⟩ <;> rw [eq] at owned active ends upgrades
    · cases active
    by_cases same : row.id = h.id
    · have found := findSub_of_mem ok.ids inside
      rw [same, findSub_of_mem ok.ids member] at found
      cases found
      exact notDue due
    · have first := last row inside ⟨⟨owned, upgrades⟩, active⟩ same
      unfold EndsFirst at first
      omega
  have ended : h.expire userId now = { h with status := .expired } := if_pos due
  have lastRow : (s.expireUser userId now).lastExpired userId = some { h with status := .expired } := by
    refine lastExpired_eq (by rw [map_id_expireUser]; exact ok.ids)
      (by rw [← ended]; exact mem_map_of_mem member) live.1 rfl ?_
    intro row' inside' upgrades expired other
    obtain ⟨row, inside, rfl⟩ := mem_map.mp inside'
    rcases expire_cases row userId now with ⟨-, rowDue, eq⟩ | ⟨-, eq⟩ <;> rw [eq] at upgrades expired other ⊢
    · exact last row inside ⟨upgrades, rowDue.1⟩ other
    · exact .inl (after row inside upgrades expired)
  unfold expiryFallback at stays
  rw [inactive, lastRow] at stays
  simp only [Option.isSome_none, Bool.false_eq_true, if_false] at stays
  have group : groupOf (s.expireUser userId now) userId = groupOf s userId := rfl
  rw [ok.rows.trimmed h member live.1, if_neg live.1.2, group, if_neg (by simp [upgraded]), back,
    homeOk.trimmed] at stays
  by_cases same : groupOf s userId = home
  · exact same
  · rw [if_neg same] at stays
    exact absurd stays homeOk.named

theorem Restorable.expire
    (later : time ≤ now) (owner : Int) (admitted : HolderEndsLast userId now s) :
    Restorable userId home now (regroup (s.expireUser owner now) owner
      (expiryFallback (s.expireUser owner now) owner now)) := by
  have rows := ok.rows.expire later owner
  refine restorable_regroup (v := s.expireUser owner now) homeOk ok.here
    (by rw [map_id_expireUser]; exact ok.ids) ?_ rows ?_
  · intro row' inside'
    obtain ⟨row, inside, rfl⟩ := mem_map.mp inside'
    have := ok.fresh row inside
    rcases expire_cases row owner now with ⟨-, -, eq⟩ | ⟨-, eq⟩ <;> rw [eq] <;> exact this
  -- The row that remembers is still there unless it is the user's and due.
  have kept : (owner = userId → ∀ h ∈ s.subs, Live userId h → h.upgradeGroup = groupOf s userId →
      h.prevUserGroup = home → h.endTime ≤ now → groupOf s userId = home) →
      Held userId home (s.expireUser owner now) := by
    intro goesHome
    rcases ok.held with atHome | ⟨h, inside, live, upgraded, back⟩
    · exact .inl atHome
    rcases expire_cases h owner now with ⟨owned, due, -⟩ | ⟨-, eq⟩
    · have same : owner = userId := by rw [← owned]; exact live.1.1
      exact .inl (goesHome same h inside live upgraded back due.2.2)
    · refine .inr ⟨h, ?_, live, upgraded, back⟩
      rw [← eq]
      exact mem_map_of_mem inside
  by_cases owned : owner = userId
  · subst owned
    rcases expiryFallback_home (v := s.expireUser owner now) homeOk rows now with stays | back
    · refine .inr ⟨.inr stays, kept fun _ h inside live upgraded back over_ => ?_⟩
      exact expiryFallback_holder homeOk ok inside live upgraded back over_
        (admitted h inside live (by rw [back]; exact homeOk.named) over_) stays
    · exact .inl ⟨rfl, back⟩
  · exact .inr ⟨.inl owned, kept fun same => absurd same owned⟩

end

/-! ## Creating -/

/-- An upgrade ends in the future, and while another one is live it is for the group the
user is in. -/
def UpgradeInPlace (cfg : Config) (userId now : Int) (s : Store) (plan : SubscriptionPlan) : Prop :=
  trimSpace plan.upgradeGroup ≠ "" →
    (∀ endTime, calcPlanEndTime cfg now plan = .ok endTime → now < endTime) ∧
    ((∃ row ∈ s.subs, Live userId row) → trimSpace plan.upgradeGroup = groupOf s userId)

instance decidableEndsLater (cfg : Config) (now : Int) (plan : SubscriptionPlan) :
    Decidable (∀ endTime, calcPlanEndTime cfg now plan = .ok endTime → now < endTime) :=
  match calcPlanEndTime cfg now plan with
  | .error _ => .isTrue (by simp)
  | .ok endTime => decidable_of_iff (now < endTime) (by simp)

instance (cfg : Config) (userId now : Int) (s : Store) (plan : SubscriptionPlan) :
    Decidable (UpgradeInPlace cfg userId now s plan) :=
  inferInstanceAs (Decidable (_ → _ ∧ ((∃ row ∈ s.subs, _) → _)))

theorem groupOf_enter (here : ∃ user, s.users userId = some user) (target : String) :
    groupOf (enter s userId target) userId = if target = "" then groupOf s userId else target := by
  obtain ⟨user, found⟩ := here
  unfold enter
  by_cases plain : target = ""
  · simp [plain]
  by_cases same : groupOf s userId = target
  · simp [same]
  · simp [plain, same, groupOf_setGroup found]

theorem groupOf_enter_of_ne (s : Store) {owner : Int} (different : owner ≠ userId) (target : String) :
    groupOf (enter s owner target) userId = groupOf s userId := by
  unfold enter
  split
  · rfl
  · exact groupOf_setGroup_of_ne s (Ne.symm different) target

theorem here_enter (here : ∃ user, s.users userId = some user) (owner : Int) (target : String) :
    ∃ user, (enter s owner target).users userId = some user := by
  unfold enter
  split
  · exact here
  · rename_i moves
    have moved := here_regroup here owner target
    rwa [regroup, if_neg fun plain => moves (.inl plain)] at moved

variable {cfg : Config} {order source : String} {owner endTime : Int} {plan : SubscriptionPlan}

variable (ok : Restorable userId home time s)

include ok

/-- A row that remembers a group is made only when no upgrade is live, so at home. -/
theorem Restorable.atHome
    (admitted : UpgradeInPlace cfg userId now s plan) (upgrading : trimSpace plan.upgradeGroup ≠ "")
    (moves : groupOf s userId ≠ trimSpace plan.upgradeGroup) : groupOf s userId = home := by
  rcases ok.held with atHome | ⟨h, inside, live, -⟩
  · exact atHome
  · exact absurd ((admitted upgrading).2 ⟨h, inside, live⟩).symm moves

theorem Restorable.rows_withNewRow (later : time ≤ now)
    (begun : 0 ≤ now) (ends : calcPlanEndTime cfg now plan = .ok endTime)
    (admitted : owner = userId → UpgradeInPlace cfg userId now s plan) :
    RowsOk userId home now (s.subs ++ [newRow cfg s owner plan source now endTime]) := by
  refine (ok.rows.later later).append begun fun upgrades => ?_
  obtain ⟨owned, upgrading⟩ := upgrades
  subst owned
  refine ⟨rfl, (admitted rfl upgrading).1 endTime ends, trimSpace_trimSpace _, ?_⟩
  rw [prevUserGroup_newRow]
  unfold groupLeft
  split
  · exact .inl rfl
  · rename_i moves
    exact .inr (ok.atHome (admitted rfl) upgrading fun same => moves (.inr same))

theorem Restorable.held_withNewRow (admitted : owner = userId → UpgradeInPlace cfg userId now s plan) :
    Held userId home (withNewRow cfg order owner plan source now endTime s) := by
  -- Where the group stays, so does what held it.
  have still : groupOf (enter s owner (trimSpace plan.upgradeGroup)) userId = groupOf s userId →
      Held userId home (withNewRow cfg order owner plan source now endTime s) := by
    intro same
    have after : groupOf (withNewRow cfg order owner plan source now endTime s) userId =
        groupOf s userId := by rw [groupOf_withNewRow, same]
    unfold Held
    rw [after, subs_withNewRow]
    rcases ok.held with atHome | ⟨h, inside, rest⟩
    · exact .inl atHome
    · exact .inr ⟨h, mem_append_left _ inside, rest⟩
  by_cases owned : owner = userId
  · subst owned
    have entered := groupOf_enter ok.here (trimSpace plan.upgradeGroup)
    by_cases upgrading : trimSpace plan.upgradeGroup = ""
    · rw [if_pos upgrading] at entered
      exact still entered
    rw [if_neg upgrading] at entered
    by_cases moves : groupOf s owner = trimSpace plan.upgradeGroup
    · exact still (entered.trans moves.symm)
    refine .inr ⟨newRow cfg s owner plan source now endTime, ?_, ⟨⟨rfl, upgrading⟩, rfl⟩, ?_, ?_⟩
    · rw [subs_withNewRow]
      exact mem_append_right _ (mem_singleton.mpr rfl)
    · rw [groupOf_withNewRow, entered]
      rfl
    · rw [prevUserGroup_newRow, groupLeft, if_neg (by simp [upgrading, moves])]
      exact ok.atHome (admitted rfl) upgrading moves
  · exact still (groupOf_enter_of_ne s owned _)

theorem Restorable.create (later : time ≤ now) (begun : 0 ≤ now) (created : Created cfg order owner plan source now s v)
    (admitted : owner = userId → UpgradeInPlace cfg userId now s plan) : Restorable userId home now v := by
  obtain ⟨-, -, endTime, ends, rfl⟩ := created
  constructor
  · rw [users_withNewRow]
    exact here_enter ok.here _ _
  · rw [subs_withNewRow, map_append, nodup_append]
    refine ⟨ok.ids, nodup_singleton _, ?_⟩
    rintro id inside _ new rfl
    obtain ⟨row, member, rfl⟩ := mem_map.mp inside
    have := ok.fresh row member
    have : row.id = s.nextSubId := mem_singleton.mp new
    omega
  · rw [subs_withNewRow, nextSubId_withNewRow]
    intro row inside
    rcases mem_append.mp inside with old | new
    · have := ok.fresh row old
      omega
    · cases mem_singleton.mp new
      show s.nextSubId < s.nextSubId + 1
      omega
  · rw [subs_withNewRow]
    exact ok.rows_withNewRow later begun ends admitted
  · exact ok.held_withNewRow admitted

end NewApi.Subscription
