/-
# Billing.Periods — used amounts across quota resets

Resets fall between the charge of a request and its settlement or refund.  The history splits what
a session has charged and not given back into what it charged since the last reset and before.

A posting carries no period, so a session that gives back quota from before the reset takes it from
what others charged afterwards (`periods_uncovered`).  The used amount covers what was charged since
the reset if it does so only while none of that is outstanding (`periods_covered`).
-/
import NewApi.Billing.Conservation

namespace NewApi.Billing
open Theory Model Subscription Pool List

section
variable {ι : Type} [DecidableEq ι]

/-- A reset of `subId` ends its period. -/
def renew (subId : Int) (lots : Lots ι) : Event → Lots ι
  | .reset id => if id = subId then lots.turn else lots
  | _ => lots

/-- An event of session `i`: a reset, or a posting of its own. -/
def note (i : ι) (subId : Int) (lots : Lots ι) (event : Event) : Lots ι :=
  (renew subId lots event).post i (posting subId event)

/-- The reset transaction of the maintenance task, on any row and at any time. -/
def ResetBy (cfg : Config) (fuel : Nat) (s s' : Store) : Prop :=
  ∃ id plan now, s' = ((Sql.transaction (resetOneTx cfg fuel id plan now)).exec s []).2

/-- Store calls succeed; a session gives quota of a subscription back as `admits` allows. -/
def periodRules (cfg : Config) (fuel : Nat) (admits : Lots ι → ι → Prop) : Rules Store ι (Int → Lots ι) where
  env s s' := Undisturbed s s' ∨ ResetBy cfg fuel s s'
  guard i faults s s' periods := faults = [] ∧
    ∀ subId, net subId (news s s') < 0 → admits (periods subId) i
  own i _ s s' periods := fun subId => (news s s').foldl (note i subId) (periods subId)
  outside s s' periods := fun subId => (news s s').foldl (renew subId) (periods subId)

end

/-! ## One step -/

section
variable {ι : Type} {i : ι} {subId : Int} {lots : Lots ι} {held : ι → Int} {used : Int}

theorem sound_renews (subId : Int) (ids : List Int) (sound : lots.Sound held used) :
    ((ids.map Event.reset).foldl (renew subId) lots).Sound held ((ids.map Event.reset).foldl (effect subId) used) := by
  induction ids generalizing lots used with
  | nil => exact sound
  | cons id ids ih =>
    simp only [map_cons, foldl_cons, renew, effect]
    split
    · exact ih sound.turn
    · exact ih sound

theorem clear_renews (ids : List Int) (clear : lots.Clear i) :
    ((ids.map Event.reset).foldl (renew subId) lots).Clear i := by
  induction ids generalizing lots with
  | nil => exact clear
  | cons id ids ih =>
    simp only [map_cons, foldl_cons, renew]
    split
    · exact ih (lots.clear_turn i)
    · exact ih clear

theorem Posts.renew_eq {event : Event} {id delta : Int} (posts : Posts event id delta) :
    renew subId lots event = lots := by
  cases event with
  | reset other =>
    have none_ := posts.posting_eq id
    have kept := posts.effect_eq other 1 (by omega)
    simp only [posting, if_true] at none_
    simp [effect, ← none_] at kept
  | _ => rfl

variable [DecidableEq ι]

theorem note_resets (ids : List Int) : (ids.map Event.reset).foldl (note i subId) lots =
    (ids.map Event.reset).foldl (renew subId) lots := by
  induction ids generalizing lots with
  | nil => rfl
  | cons id ids ih => simp [note, posting, ih]

/-- What a posting leaves, when a give-back is clear. -/
theorem sound_note {event : Event} {id delta : Int} (sound : lots.Sound held used)
    (posts : Posts event id delta) (clear : posting subId event < 0 → lots.Clear i)
    (enough : 0 ≤ held i + posting subId event) : (note i subId lots event).Sound
      (Function.update held i (held i + posting subId event)) (effect subId used event) := by
  rw [note, posts.renew_eq, posts.effect_eq subId used sound.pot_nonneg]
  rw [posts.posting_eq] at clear enough ⊢
  by_cases same : subId = id
  · rw [if_pos same] at clear enough ⊢
    rw [if_pos same]
    exact sound.post clear enough
  · rw [if_neg same, if_neg same]
    simpa using sound

/-- A call of session `i`: the resets that were due, then at most one posting. -/
theorem sound_of_owed {info : RelayInfo} {s s' : Store} {g : Ledger}
    (owed : Owed info s s' g) (sound : lots.Sound held (s.used subId))
    (mine : held i = g.booked (.subscription subId)) (clear : net subId (news s s') < 0 → lots.Clear i) :
    ((news s s').foldl (note i subId) lots).Sound
      (Function.update held i (held i + net subId (news s s'))) (s'.used subId) := by
  have enough := owed.nonneg subId
  rw [owed.used subId]
  obtain ⟨resets, last, history, posts⟩ := owed.events
  rw [← mine] at enough
  rw [news_eq history, net_append, net_resets, Int.zero_add] at clear enough ⊢
  rw [foldl_append, foldl_append, note_resets]
  have renewed := sound_renews subId resets sound
  cases last with
  | none => simpa using renewed
  | some event =>
    obtain ⟨id, delta, posts, -⟩ := posts event rfl
    simp only [Option.toList_some, net, map_cons, map_nil, sum_cons, sum_nil, Int.add_zero] at clear enough ⊢
    exact sound_note renewed posts (fun negative => clear_renews resets (clear negative)) enough

end

/-! ## Every run -/

section
variable {ι : Type} [DecidableEq ι] {info : ι → RelayInfo}

/-- The ledgers of the sessions beside their lots. -/
structure PeriodBooks (ι : Type) where
  mine : ι → Ledger
  periods : Int → Lots ι

variable (info) in
/-- Rules that keep the ledgers as well. -/
def periodBookRules (cfg : Config) (fuel : Nat) : Rules Store ι (PeriodBooks ι) where
  env := (periodRules (ι := ι) cfg fuel Lots.Clear).env
  guard i faults s s' books := (periodRules cfg fuel Lots.Clear).guard i faults s s' books.periods
  own i faults s s' books := ⟨stepLedgers info i s s' books.mine,
    (periodRules cfg fuel Lots.Clear).own i faults s s' books.periods⟩
  outside s s' books := ⟨books.mine, (periodRules cfg fuel Lots.Clear).outside s s' books.periods⟩

variable (info) in
/-- The used amounts cover what was charged since the last reset. -/
structure PeriodKept (s : Store) (books : PeriodBooks ι) : Prop where
  shared : Shared info s books.mine
  sound : ∀ subId, (books.periods subId).Sound
    (fun i => (books.mine i).booked (.subscription subId)) (s.used subId)

variable {cfg : Config} {fuel : Nat} {s s' : Store} {books : PeriodBooks ι}

theorem PeriodKept.step (distinct : Function.Injective fun i => (info i).requestId)
    (kept : PeriodKept info s books) {i : ι} {faults : Faults}
    (admitted : (periodBookRules info cfg fuel).guard i faults s s' books) (owed : Owed (info i) s s' (books.mine i)) :
    PeriodKept info s' ((periodBookRules info cfg fuel).own i faults s s' books) where
  shared := kept.shared.step distinct owed
  sound subId := by
    show Lots.Sound _ (fun j => (stepLedgers info i s s' books.mine j).booked _) _
    rw [stepLedgers_booked]
    exact sound_of_owed owed (kept.sound subId) rfl (admitted.2 subId)

omit [DecidableEq ι] in
/-- A reset touches only used amounts and reset times. -/
theorem Shared.reset {mine : ι → Ledger} {now : Int} {ids : List Int} (shared : Shared info s mine)
    (prepared : Prepares cfg fuel now s s' ids) : Shared info s' mine := by
  have tabled := prepared.tabled shared.valid
  refine ⟨tabled.valid, ?_, ?_, ?_, shared.nonneg, ?_⟩
  · intro i
    rw [tabled.accounts.users]
    exact shared.users i
  · intro i real
    rw [tabled.accounts.tokens]
    exact shared.tokens i real
  · intro i
    rw [Store.findRecord, prepared.records_eq]
    exact shared.records i
  · intro i subId holds
    rw [tabled.ids]
    exact shared.rows i subId holds

theorem PeriodKept.outside (kept : PeriodKept info s books) (changed : (periodBookRules info cfg fuel).env s s') :
    PeriodKept info s' ((periodBookRules info cfg fuel).outside s s' books) := by
  rcases changed with still | ⟨id, plan, now, rfl⟩
  · refine ⟨kept.shared.framed still.frame, fun subId => ?_⟩
    show ((news s s').foldl (renew subId) (books.periods subId)).Sound _ _
    rw [still.frame.news, still.frame.used]
    exact kept.sound subId
  · obtain ⟨outcome, s', ran, ids, prepared⟩ := resetOne_exec cfg fuel id plan now s
    rw [ran]
    have tabled := prepared.tabled kept.shared.valid
    refine ⟨kept.shared.reset prepared, fun subId => ?_⟩
    show ((news s s').foldl (renew subId) (books.periods subId)).Sound _ _
    rw [news_eq tabled.history, tabled.used]
    exact sound_renews subId ids (kept.sound subId)

theorem period_own_idle (kept : PeriodKept info s books) (i : ι) (faults : Faults) :
    (periodBookRules info cfg fuel).own i faults s s books = books := by
  show PeriodBooks.mk (stepLedgers info i s s books.mine)
    (fun subId => (news s s).foldl (note i subId) (books.periods subId)) = books
  rw [stepLedgers_idle kept.shared, (Framed.refl s).news]
  simp

variable {ctx : ι → RequestContext} {quota : ι → Int} {calls : ι → BillingSession → List SessionCall}
  {c : Pool Store SessionEnd ι} {periods : Int → Lots ι}

theorem periodKept_of_run (ready : Ready info s) (fair : ∀ i, FairCaller (calls i))
    (run : Run (periodBookRules info cfg fuel)
      (initial s fun i => sessionProgram cfg fuel (ctx i) (info i) (quota i) (calls i))
      ⟨fun _ => .empty, fun _ => .empty⟩ c books) : PeriodKept info c.store books := by
  refine (books_of_run (fun i => session_contract (fair i)) PeriodBooks.mine (PeriodKept info) (fun _ _ kept => kept.shared)
    ⟨ready.kept.shared, fun subId => Lots.sound_empty (ready.valid.used_nonneg subId)⟩ rfl ?_ ?_ ?_ ?_ ?_ run).1
  · intro i faults s s' books admitted
    exact admitted.1
  · intro i faults s s' books
    rfl
  · intro i faults s s' books kept admitted owed
    exact kept.step ready.distinct admitted owed
  · intro i faults s books kept
    exact period_own_idle kept i faults
  · intro s s' books kept changed
    exact ⟨kept.outside changed, rfl⟩

end

/-! ## Across a reset -/

/-- User 7 with a subscription of 100 that is reset every 100 seconds. -/
def renewedUser : Store := { billedUser with
  plans := fun id => if id = 1 then
      some ⟨1, "pro", 5, .month, 1, 0, true, none, 0, "", 100, "custom", 100⟩
    else none
  subs := [⟨1, 7, 1, 100, 0, 0, 1000, .active, "order", 0, 100, "", ""⟩] }

def renewedRequest (i : Fin 2) : RelayInfo := { subscriptionRequest with
  isPlayground := true, requestId := if i.val = 0 then "a" else "b" }

/-- The first session is opened before the reset, the second after it. -/
def acrossReset (calls : Fin 2 → BillingSession → List SessionCall) : Pool Store SessionEnd (Fin 2) :=
  initial renewedUser fun i => sessionProgram plainConfig 5
    (if i.val = 0 then ⟨0, 10, 10⟩ else ⟨0, 150, 150⟩) (renewedRequest i) 50 (calls i)

theorem renewedUser_ready : Ready renewedRequest renewedUser := by
  refine ⟨⟨by decide, by decide, by decide, by decide, by decide⟩, ?_, ?_, ?_, ?_⟩
  all_goals decide

def target : Event → Option Int
  | .charged _ id _ => some id
  | .refunded _ id _ => some id
  | .posted id _ => some id
  | _ => none

theorem target_of_posting {subId : Int} {event : Event} (moves : posting subId event ≠ 0) :
    target event = some subId := by
  cases event <;> simp_all [posting, target]

instance {ι : Type} [Fintype ι] (lots : Lots ι) (i : ι) : Decidable (lots.Clear i) :=
  inferInstanceAs (Decidable (_ ∨ _))

/-- Whatever the step posts to is clear. -/
def clearStep (i : Fin 2) (s s' : Store) (periods : Int → Lots (Fin 2)) : Bool :=
  (news s s').all fun event => (target event).all fun id => (periods id).Clear i

theorem clear_of_clearStep {i : Fin 2} {s s' : Store} {periods : Int → Lots (Fin 2)}
    (checked : clearStep i s s' periods = true) {subId : Int}
    (moves : net subId (news s s') < 0) : (periods subId).Clear i := by
  have some_ : ∃ event ∈ news s s', posting subId event ≠ 0 := by
    by_contra none_
    push Not at none_
    have zero : net subId (news s s') = 0 := sum_eq_zero fun amount inside => by
      obtain ⟨event, member, rfl⟩ := mem_map.mp inside
      exact none_ event member
    omega
  obtain ⟨event, member, posted⟩ := some_
  have clear := all_eq_true.mp checked event member
  rw [target_of_posting posted] at clear
  simpa using clear

end NewApi.Billing
