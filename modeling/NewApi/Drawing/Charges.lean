/-
# Drawing.Charges — a Midjourney task that failed is free of charge

A submission decides whether it is charged; the poller, later, gives the quota of the row back to
the user.  The row carries the price in any case, and the token is never given anything back
(`failedDrawing_charged`).  `failedDrawings_free` says when nothing is kept of a failed task.

`Unreturned` keeps the quota of a task where it is, `Squared` gives it back exactly when the task has
failed.
-/
import NewApi.Drawing.View
import NewApi.Model.MidjourneySubmit

namespace NewApi.Model.MjSubmission

variable (sub : MjSubmission)

def quota : Int := sub.price.toOption.getD 0

def mjId : String :=
  match sub.answer with
  | .failed _ => ""
  | .answered _ midjResponse => midjResponse.result

def costs : Bool :=
  match sub.request.map (requestedAction sub.relayMode) with
  | some (.ok (midjRequest, _)) => !midjRequest.action.free
  | _ => false

def charges : Bool :=
  match sub.answer with
  | .failed _ => false
  | .answered statusCode midjResponse => sub.costs && midjResponse.accepted && statusCode = 200

end NewApi.Model.MjSubmission

namespace NewApi.Drawing
open Theory Model Program List Midjourney
open Billing (moveUser balance framed_moveUser plainRequest)

/-! ## The task in a round -/

/-- Nothing was given back, and nothing that is to come gives anything back. -/
structure Unreturned (v : View) : Prop where
  nothing : v.returned = 0
  harmless : ∀ t, v.copy = some t → t.quota = 0 ∨ v.coming = [] ∨
    v.coming.length ≤ 1 ∧ ∀ item ∈ v.coming, (item.judged t).fails = false

/-- Where a task stands, by its row and what was given back: nothing while it goes on, all of
it when it has failed. -/
structure Phase (quota : Int) (t : Midjourney) (r : Int) : Prop where
  going : t.progress ≠ progressComplete → r = 0
  failed : t.status = .failure → t.progress = progressComplete → r = quota
  whole : r = 0 ∨ r = quota

/-- The phase fits, and the copy is the row as long as there is an item to come. -/
structure Squared (quota : Int) (v : View) : Prop where
  phase : ∃ t, v.row = some t ∧ Phase quota t v.returned
  fresh : ∀ t, v.copy = some t → v.coming = [] ∨
    v.coming.length ≤ 1 ∧ v.row = some t ∧ t.progress ≠ progressComplete ∧ t.quota = quota

section
variable {cfg : MjConfig} {exposed : Prop} {v v' : View} {t : Midjourney} {dto : MidjourneyDto}
  {quota : Int}

theorem givenBack_of_free (free : t.quota = 0) : givenBack t dto = 0 := by
  unfold givenBack
  split
  · exact free
  · rfl

theorem givenBack_of_harmless (harmless : dto.fails = false) : givenBack t dto = 0 := by
  simp [givenBack, shouldReturnQuota, harmless]

theorem givenBack_of_fails (fails : dto.fails = true) (positive : 0 ≤ t.quota) : givenBack t dto = t.quota := by
  unfold givenBack shouldReturnQuota
  by_cases zero : t.quota = 0
  · simp [zero]
  · simp [fails, zero, positive]

theorem length_tail {item : MjItem} {rest : List MjItem} (once : (item :: rest).length ≤ 1) : rest = [] := by
  cases rest with
  | nil => rfl
  | cons => simp at once

theorem Unreturned.step (unreturned : Unreturned v) (stepped : View.Step cfg exposed v v') : Unreturned v' := by
  have harmless := unreturned.harmless
  cases stepped with
  | pass row r copy items rest =>
    refine ⟨unreturned.nothing, fun t here => ?_⟩
    rcases harmless t here with free | over_ | ⟨once, none_⟩
    · exact .inl free
    · exact .inr (.inl (append_eq_nil_iff.mp over_).2)
    · refine .inr (.inr ⟨?_, fun item member => none_ item (mem_append_right _ member)⟩)
      simp only [length_append] at once
      show rest.length ≤ 1
      omega
  | miss row r t item rest =>
    refine ⟨unreturned.nothing, ?_⟩
    rintro _ ⟨⟩
    rcases harmless t rfl with free | over_ | ⟨once, -⟩
    · exact .inl free
    · cases over_
    · exact .inr (.inl (length_tail once))
  | hit old r t item rest same =>
    have before := unreturned.nothing
    rcases harmless t rfl with free | over_ | ⟨once, none_⟩
    · refine ⟨by simpa [givenBack_of_free free] using before, ?_⟩
      rintro _ ⟨⟩
      exact .inl free
    · cases over_
    · refine ⟨by simpa [givenBack_of_harmless (none_ item (by simp))] using before, ?_⟩
      rintro _ ⟨⟩
      exact .inr (.inl (length_tail once))
  | bulk row r copy coming reason why => exact ⟨unreturned.nothing, harmless⟩

/-- The phase of a row that an item was written over. -/
theorem phase_polled (mine : t.quota = quota) (positive : 0 ≤ quota) :
    Phase quota (t.polled cfg dto) (givenBack t dto) := by
  cases fails : dto.fails with
  | true =>
    have all : givenBack t dto = quota := by
      rw [givenBack_of_fails fails (by omega)]
      exact mine
    refine ⟨fun going => ?_, fun _ _ => all, .inr all⟩
    exact absurd (by simp [polled, fails]) going
  | false =>
    have none_ := givenBack_of_harmless (t := t) fails
    refine ⟨fun _ => none_, fun failed complete => ?_, .inl none_⟩
    simp only [polled, fails] at failed complete
    simp [MidjourneyDto.fails, failed] at fails complete
    exact absurd complete fails.2

/-- A task is given its quota back by the very step that fails it. -/
theorem Squared.step (positive : 0 ≤ quota) (squared : Squared quota v)
    (stepped : View.Step cfg False v v') : Squared quota v' := by
  have fresh := squared.fresh
  cases stepped with
  | pass row r copy items rest =>
    refine ⟨squared.phase, fun t here => ?_⟩
    rcases fresh t here with over_ | ⟨once, same⟩
    · exact .inl (append_eq_nil_iff.mp over_).2
    · refine .inr ⟨?_, same⟩
      simp only [length_append] at once
      show rest.length ≤ 1
      omega
  | miss row r t item rest =>
    refine ⟨squared.phase, ?_⟩
    rintro _ ⟨⟩
    rcases fresh t rfl with over_ | ⟨once, -⟩
    · cases over_
    · exact .inl (length_tail once)
  | hit old r t item rest same =>
    rcases fresh t rfl with over_ | ⟨once, row, going, mine⟩
    · cases over_
    -- nothing was given back before, since the row goes on
    have before : r = 0 := by
      obtain ⟨t', row', phase⟩ := squared.phase
      obtain rfl : t = t' := Option.some.inj (row.symm.trans row')
      exact phase.going going
    refine ⟨⟨_, rfl, ?_⟩, ?_⟩
    · rw [before, Int.zero_add]
      exact phase_polled mine positive
    · rintro _ ⟨⟩
      exact .inl (length_tail once)
  | bulk row r copy coming reason why => exact why.elim

theorem Unreturned.path (unreturned : Unreturned v)
    (path : Relation.ReflTransGen (View.Step cfg exposed) v v') : Unreturned v' := by
  induction path with
  | refl => exact unreturned
  | tail _ last ih => exact ih.step last

theorem Squared.path (positive : 0 ≤ quota) (squared : Squared quota v)
    (path : Relation.ReflTransGen (View.Step cfg False) v v') : Squared quota v' := by
  induction path with
  | refl => exact squared
  | tail _ last ih => exact ih.step positive last

/-- A task that is not there. -/
theorem absent_path (row : v.row = none) (copy : v.copy = none)
    (path : Relation.ReflTransGen (View.Step cfg exposed) v v') : v'.row = none ∧ v'.copy = none := by
  induction path with
  | refl => exact ⟨row, copy⟩
  | tail _ last ih =>
    cases last with
    | pass => exact ih
    | miss | hit => cases ih.2
    | bulk => exact ⟨by simpa using ih.1, ih.2⟩

end

/-! ## Rounds -/

/-- A round hears of the task at most once. -/
def ListedOnce (k : Ticket) (s : MjStore) (round : MjRound) : Prop := (k.about (coming round s)).length ≤ 1

/-- Nothing that a round hears fails the task. -/
def NeverFails (k : Ticket) (s : MjStore) (round : MjRound) : Prop :=
  ∀ row, s.midjourney k.id = some row → ∀ item ∈ k.about (coming round s), (item.judged row).fails = false

/-- Every round meets `C` where it begins; a round that panics is the last. -/
def Rounds (C : MjStore → MjRound → Prop) (cfg : MjConfig) : List MjRound → MjStore → Prop
  | [], _ => True
  | round :: rest, s => C s round ∧ (((updateMidjourneyTaskRound cfg round).solo s).1 = .ok () →
      Rounds C cfg rest ((updateMidjourneyTaskRound cfg round).solo s).2)

section
variable {cfg : MjConfig} {k : Ticket} {s s' s₁ : MjStore} {round : MjRound} {rounds : List MjRound} {t : Midjourney}
  {C : MjStore → MjRound → Prop}

theorem Rounds.mono {D : MjStore → MjRound → Prop} (weaker : ∀ s round, C s round → D s round)
    (each : Rounds C cfg rounds s) : Rounds D cfg rounds s := by
  induction rounds generalizing s with
  | nil => trivial
  | cons round rest ih => exact ⟨weaker s round each.1, fun ended => ih (each.2 ended)⟩

theorem rounds_true (rounds : List MjRound) (s : MjStore) : Rounds (fun _ _ => True) cfg rounds s := by
  induction rounds generalizing s with
  | nil => trivial
  | cons round rest ih => exact ⟨trivial, fun _ => ih _⟩

/-- What every round keeps, the poller keeps. -/
theorem rounds_keep {I : MjStore → Prop} (step : ∀ s round, I s → C s round →
      (updateMidjourneyTaskRound cfg round).Meets (.unfailing _) s fun _ => I)
    (each : Rounds C cfg rounds s) (start : I s) : I ((updateMidjourneyTaskBulk cfg rounds).solo s).2 := by
  induction rounds generalizing s with
  | nil => exact start
  | cons round rest ih =>
    have after := (step s round start each.1).solo_unfailing
    rw [updateMidjourneyTaskBulk, solo_bind]
    cases ended : ((updateMidjourneyTaskRound cfg round).solo s).1 with
    | error e => exact after
    | ok _ => exact ih (each.2 ended) after

/-- The copy a round begins with is the row, which goes on. -/
theorem copy_startView (mine : Mine k s) (here : (startView k round s).copy = some t) :
    s.midjourney k.id = some t ∧ t.progress ≠ progressComplete ∧ k.mjId ≠ "" ∧ t.quota = k.quota := by
  obtain ⟨found, own⟩ := Option.filter_eq_some_iff.mp here
  obtain ⟨listed, named⟩ := mem_of_mjTaskMap found
  simp only [mjNamed, selected, mem_filter, decide_eq_true_eq] at listed own
  obtain ⟨⟨member, going⟩, unnamed⟩ := listed
  refine ⟨?_, going, named ▸ unnamed, (mine.rows t member own).2.2⟩
  rw [← own]
  exact Rows.find_of_mem mine.keys member

/-- What keeps a round from giving anything back. -/
def Harmless (k : Ticket) (s : MjStore) (round : MjRound) : Prop :=
  k.quota = 0 ∨ k.mjId = "" ∨ ListedOnce k s round ∧ NeverFails k s round

theorem Unreturned.start (mine : Mine k s) (before : returned k.own s = 0) (harmless : Harmless k s round) :
    Unreturned (startView k round s) := by
  refine ⟨before, fun t here => ?_⟩
  obtain ⟨found, -, named, quota⟩ := copy_startView mine here
  rcases harmless with free | unnamed | ⟨once, none_⟩
  · exact .inl (quota.trans free)
  · exact absurd unnamed named
  · exact .inr (.inr ⟨once, none_ t found⟩)

theorem Squared.start (mine : Mine k s) (once : ListedOnce k s round)
    (phase : ∃ row, s.midjourney k.id = some row ∧ Phase k.quota row (returned k.own s)) :
    Squared k.quota (startView k round s) := by
  refine ⟨phase, fun t here => ?_⟩
  obtain ⟨found, going, -, quota⟩ := copy_startView mine here
  exact .inr ⟨once, found, going, quota⟩

/-- The store between two rounds, in every case. -/
structure Between (k : Ticket) (s₁ s : MjStore) : Prop where
  mine : Mine k s
  books : Books k s₁ s

theorem Simulated.between {exposed : Prop} {v₁ : View} (between : Between k s₁ s)
    (simulated : Simulated cfg k exposed s v₁ s') : Between k s₁ s' :=
  ⟨simulated.1, between.books.trans simulated.2.1⟩

theorem unreturned_rounds (start : Between k s₁ s) (before : returned k.own s = 0)
    (each : Rounds (Harmless k) cfg rounds s) : Between k s₁ ((updateMidjourneyTaskBulk cfg rounds).solo s).2 ∧
      returned k.own ((updateMidjourneyTaskBulk cfg rounds).solo s).2 = 0 := by
  refine rounds_keep (I := fun s => Between k s₁ s ∧ returned k.own s = 0) ?_ each ⟨start, before⟩
  rintro s round ⟨between, nothing⟩ harmless
  refine (round_simulated between.mine round).mono fun _ s' simulated => ⟨simulated.between between, ?_⟩
  obtain ⟨-, -, copy, rest, path⟩ := simulated
  exact ((Unreturned.start between.mine nothing harmless).path path).nothing

theorem squared_rounds (positive : 0 ≤ k.quota) (start : Between k s₁ s)
    (phase : ∃ row, s.midjourney k.id = some row ∧ Phase k.quota row (returned k.own s))
    (each : Rounds (fun s round => ListedOnce k s round ∧ ¬ Exposed cfg k s) cfg rounds s) :
    Between k s₁ ((updateMidjourneyTaskBulk cfg rounds).solo s).2 ∧
      ∃ row, ((updateMidjourneyTaskBulk cfg rounds).solo s).2.midjourney k.id = some row ∧
        Phase k.quota row (returned k.own ((updateMidjourneyTaskBulk cfg rounds).solo s).2) := by
  refine rounds_keep (I := fun s => Between k s₁ s ∧
    ∃ row, s.midjourney k.id = some row ∧ Phase k.quota row (returned k.own s)) ?_ each ⟨start, phase⟩
  rintro s round ⟨between, phase⟩ ⟨once, hidden⟩
  refine (round_simulated between.mine round).mono fun _ s' simulated => ⟨simulated.between between, ?_⟩
  obtain ⟨-, -, copy, rest, path⟩ := simulated
  rw [eq_false hidden] at path
  exact ((Squared.start between.mine once phase).path positive path).phase

/-- A task that was never recorded. -/
theorem absent_rounds (start : Between k s₁ s) (absent : s.midjourney k.id = none) :
    ((updateMidjourneyTaskBulk cfg rounds).solo s).2.midjourney k.id = none := by
  refine (rounds_keep (I := fun s => Between k s₁ s ∧ s.midjourney k.id = none) ?_
    (rounds_true rounds s) ⟨start, absent⟩).2
  rintro s round ⟨between, absent⟩ -
  refine (round_simulated between.mine round).mono fun _ s' simulated => ⟨simulated.between between, ?_⟩
  obtain ⟨-, -, copy, rest, path⟩ := simulated
  refine (absent_path absent ?_ path).1
  cases here : (startView k round s).copy with
  | none => rfl
  | some t =>
    rw [(copy_startView between.mine here).1] at absent
    cases absent

end

/-! ## The submission -/

/-- The accounts after a request has been charged. -/
def consumed (cfg : Config) (info : RelayInfo) (quota : Int) (a : Store) : Store :=
  if info.isPlayground then moveUser cfg info.userId (-quota) a
  else Billing.moveToken cfg info.tokenId (-quota) (moveUser cfg info.userId (-quota) a)

theorem postConsumeQuota_unfailing {cfg : Config} {info : RelayInfo} {quota : Int} {a : Store}
    (unbilled : info.billingSource = .none) (positive : 0 ≤ quota) :
    (postConsumeQuota cfg info quota).Meets (.unfailing _) a fun _ a' => a' = consumed cfg info quota a := by
  refine .bind (Q := fun outcome a' => outcome = .ok info ∧ a' = moveUser cfg info.userId (-quota) a) ?_ ?_
  · unfold postConsumeFunding
    rw [if_neg (by simp [unbilled])]
    split
    · refine .bind (Q := fun outcome a' => outcome = Except.ok () ∧
        a' = moveUser cfg info.userId (-quota) a) (unfailing_store ?_) ?_
      · rw [Billing.decreaseUserQuota_nil positive]
        exact ⟨rfl, rfl⟩
      · rintro _ _ ⟨rfl, rfl⟩
        exact ⟨rfl, rfl⟩
    · have none_ : 0 ≤ -quota := by omega
      refine .bind (Q := fun outcome a' => outcome = Except.ok () ∧
        a' = moveUser cfg info.userId (-quota) a) (unfailing_store ?_) ?_
      · rw [Billing.increaseUserQuota_nil none_]
        exact ⟨rfl, rfl⟩
      · rintro _ _ ⟨rfl, rfl⟩
        exact ⟨rfl, rfl⟩
  · rintro _ _ ⟨rfl, rfl⟩
    refine .bind (Q := fun _ a' => a' = if info.isPlayground then _ else _) ?_ fun _ _ same => same
    unfold adjustTokenQuota
    split
    · rfl
    split
    · exact unfailing_store (by rw [Billing.decreaseTokenQuota_nil positive])
    · have none_ : 0 ≤ -quota := by omega
      exact unfailing_store (by rw [Billing.increaseTokenQuota_nil none_])

/-- What reads and updates of channels leave alone. -/
structure Untouched (s s' : MjStore) : Prop where
  midjourneys : s'.midjourneys = s.midjourneys
  history : s'.history = s.history
  accounts : s'.accounts = s.accounts
  nextId : s'.nextId = s.nextId

/-- A submission ends without a row, possibly after charging (the channel is gone when it is to be
disabled), or with a row that has not failed. -/
inductive Submitted (cfg : MjConfig) (sub : MjSubmission) (s₀ s₁ : MjStore) : Prop where
  | unrecorded (rows : s₁.midjourneys = s₀.midjourneys) (history : s₁.history = s₀.history)
      (accounts : s₁.accounts = s₀.accounts ∨ s₁.accounts = consumed cfg.accounts sub.relayInfo sub.quota s₀.accounts)
  | recorded (t : Midjourney) (rows : s₁.midjourneys = s₀.midjourneys ++ [t]) (id : t.id = s₀.nextId)
      (columns : t.mjId = sub.mjId ∧ t.userId = sub.relayInfo.userId ∧ t.quota = sub.quota)
      (going : ¬(t.status = .failure ∧ t.progress = progressComplete)) (history : s₁.history = s₀.history)
      (accounts : s₁.accounts =
        if sub.charges then consumed cfg.accounts sub.relayInfo sub.quota s₀.accounts else s₀.accounts)

section
variable {cfg : MjConfig} {sub : MjSubmission} {s s₀ s₁ : MjStore}

theorem Untouched.refl (s : MjStore) : Untouched s s := ⟨rfl, rfl, rfl, rfl⟩

theorem Untouched.unrecorded (same : Untouched s₀ s₁) : Submitted cfg sub s₀ s₁ :=
  .unrecorded same.midjourneys same.history (.inl same.accounts)

theorem chargeMidjourney_meets (consumeQuota : Bool) (statusCode : Int) {quota : Int} (positive : 0 ≤ quota) :
    (chargeMidjourney cfg sub consumeQuota statusCode quota).Meets (.unfailing _) s fun _ s' =>
      s' = { s with accounts :=
        if consumeQuota = true ∧ statusCode = 200 then consumed cfg.accounts sub.relayInfo quota s.accounts
        else s.accounts } := by
  unfold chargeMidjourney
  split
  · have charged : (postConsumeQuota cfg.accounts sub.relayInfo quota).Meets (.unfailing _) s.accounts
        fun _ a => a = consumed cfg.accounts sub.relayInfo quota s.accounts :=
      postConsumeQuota_unfailing sub.unbilled positive
    have framed : ((postConsumeQuota cfg.accounts sub.relayInfo quota).zoom MjStore.accounts
        fun accounts s => { s with accounts }).Meets (.unfailing _) s fun _ s' =>
          s'.accounts = consumed cfg.accounts sub.relayInfo quota s.accounts ∧
            s' = { s with accounts := s'.accounts } := by
      refine Program.Meets.zoom_unfailing ?_ ?_ ?_ charged
      · exact fun _ => rfl
      · exact fun _ _ => rfl
      · exact fun _ _ _ => rfl
    refine .bind framed ?_
    rintro _ s' ⟨accounts, framed⟩
    show s' = _
    rw [framed, accounts]
  · rfl

theorem updateChannelStatus_meets (channelId : Int) (status : ChannelStatus) :
    (updateChannelStatus cfg channelId status).Meets (.unfailing _) s fun _ s' => Untouched s s' := by
  refine .bind (Q := fun _ s' => Untouched s s') (unfailing_store ?_) ?_
  · show Untouched s (cacheUpdateChannelStatus cfg channelId status s).2
    unfold cacheUpdateChannelStatus
    split
    · split
      · exact .refl s
      · split
        · exact .refl s
        · exact ⟨rfl, rfl, rfl, rfl⟩
    · exact .refl s
  · intro outcome s' same
    split
    · refine .bind (Q := fun _ s' => Untouched s s') (unfailing_store same) ?_
      intro channel s' same
      split
      · exact same
      · split
        · exact same
        · refine .bind (unfailing_store ⟨same.midjourneys, same.history, same.accounts, same.nextId⟩)
            fun _ _ same => same
    · exact same

/-- The task a request starts from changes neither the store nor the action. -/
theorem originTask_meets (relayMode : MjRelayMode) (userId channelId : Int) (midjRequest : MidjourneyRequest)
    (mjId : Option String) :
    (originTask cfg relayMode userId channelId midjRequest mjId).Meets (.unfailing _) s fun outcome s' =>
      s' = s ∧ ∀ started, outcome = .ok started → started.1.action = midjRequest.action := by
  cases mjId with
  | none =>
    refine ⟨rfl, ?_⟩
    rintro _ ⟨⟩
    rfl
  | some mjId =>
    refine .bind (Q := fun _ s' => s' = s) (unfailing_store rfl) ?_
    rintro origin _ rfl
    rename_i s
    split
    · split
      · exact ⟨rfl, nofun⟩
      · refine .bind (Q := fun _ s' => s' = s) (unfailing_store rfl) ?_
        rintro channel _ rfl
        split
        · exact ⟨rfl, nofun⟩
        · split
          · exact ⟨rfl, nofun⟩
          · refine ⟨rfl, ?_⟩
            rintro _ ⟨⟩
            rfl
    · exact ⟨rfl, nofun⟩

/-- A row begins with the columns of its submission, and has not failed. -/
theorem submittedTask_columns (sub : MjSubmission) (midjRequest : MidjourneyRequest) (channelId quota : Int)
    (midjResponse : MidjourneyResponse) :
    let t := submittedTask sub midjRequest channelId quota midjResponse
    (t.mjId = midjResponse.result ∧ t.userId = sub.relayInfo.userId ∧ t.quota = quota) ∧
      ¬(t.status = .failure ∧ t.progress = progressComplete) := by
  unfold submittedTask
  dsimp only
  split
  all_goals split_ifs
  all_goals simp [progressComplete]

/-- What recording an answered submission leaves behind. -/
theorem recordMidjourney_meets {midjRequest : MidjourneyRequest} {channelId quota statusCode : Int}
    {midjResponse : MidjourneyResponse} (price : sub.quota = quota) (positive : 0 ≤ quota)
    (costs : sub.costs = !midjRequest.action.free) (answer : sub.answer = .answered statusCode midjResponse) :
    (recordMidjourney cfg sub midjRequest channelId quota statusCode midjResponse).Meets (.unfailing _) s
      fun _ => Submitted cfg sub s := by
  refine .bind (Q := fun _ s' => s' = s) ?_ ?_
  · unfold unusableChannel
    split
    · exact unfailing_store rfl
    · rfl
  rintro channel _ rfl
  cases channel with
  | error e =>
    refine .bind (chargeMidjourney_meets _ statusCode positive) ?_
    rintro _ _ rfl
    refine .unrecorded rfl rfl ?_
    rw [price]
    split
    · exact .inr rfl
    · exact .inl rfl
  | ok channel =>
    rename_i s
    refine .bind (Q := fun _ s' => Untouched s s') ?_ ?_
    · split
      · exact updateChannelStatus_meets channelId .manuallyDisabled
      · exact .refl s
    intro _ s' same
    obtain ⟨columns, going⟩ := submittedTask_columns sub midjRequest channelId quota midjResponse
    refine .bind (Q := fun _ s'' => s'' = { s' with
      midjourneys := s'.midjourneys ++
        [{ submittedTask sub midjRequest channelId quota midjResponse with id := s'.nextId }]
      nextId := s'.nextId + 1 }) (unfailing_store rfl) ?_
    rintro _ _ rfl
    refine .bind (chargeMidjourney_meets _ statusCode positive) ?_
    rintro _ _ rfl
    have charges : sub.charges = decide ((!midjRequest.action.free && midjResponse.accepted) = true ∧
        statusCode = 200) := by
      simp [MjSubmission.charges, answer, costs]
    refine .recorded _ (congrArg (· ++ _) same.midjourneys) same.nextId ?_ going same.history ?_
    · simp only [MjSubmission.mjId, answer, price]
      exact columns
    · rw [charges, price, same.accounts]
      simp only [decide_eq_true_eq]

/-- **What a submission leaves behind.** -/
theorem relayMidjourneySubmit_meets (positive : 0 ≤ sub.quota) :
    (relayMidjourneySubmit cfg sub).Meets (.unfailing _) s₀ fun _ => Submitted cfg sub s₀ := by
  have nothing : Submitted cfg sub s₀ s₀ := (Untouched.refl s₀).unrecorded
  unfold relayMidjourneySubmit
  split
  · exact nothing
  rename_i midjRequest body
  split
  · exact nothing
  rename_i midjRequest' mjId requested
  have costs : sub.costs = !midjRequest'.action.free := by simp [MjSubmission.costs, body, requested]
  refine .bind (originTask_meets _ _ _ _ _) ?_
  rintro outcome _ ⟨rfl, keeps⟩
  rename_i s₀
  cases outcome with
  | error reply => exact nothing
  | ok started =>
    have action := keeps started rfl
    dsimp only at action ⊢
    unfold submitMidjourney
    split
    · exact nothing
    rename_i quota priced
    have price : sub.quota = quota := by simp [MjSubmission.quota, priced, Except.toOption]
    refine .bind (Q := fun _ s' => s' = s₀) (unfailing_store ?_) ?_
    · rw [onAccounts, Sql.exec_zoom,
        Billing.exec_local (Billing.local_getUserQuota sub.relayInfo.userId false)]
      rfl
    rintro userQuota _ rfl
    split
    · exact nothing
    · split
      · exact nothing
      · split
        · exact nothing
        · rename_i answer
          exact recordMidjourney_meets price (by omega) (by rw [costs, action]) answer

end

/-! ## The submission and the rounds after it -/

def submittedTicket (sub : MjSubmission) (s₀ : MjStore) : Ticket :=
  ⟨s₀.nextId, sub.mjId, sub.relayInfo.userId, sub.quota⟩

/-- Where a submission begins: the user and the token exist, and ids are given out in order. -/
structure Registered (sub : MjSubmission) (s₀ : MjStore) : Prop where
  keys : (s₀.midjourneys.map Midjourney.id).Nodup
  ids : ∀ t ∈ s₀.midjourneys, t.id < s₀.nextId
  user : (s₀.accounts.users sub.relayInfo.userId).isSome = true
  token : sub.relayInfo.tokenId ∈ s₀.accounts.tokens.map (·.id)
  blank : s₀.history = []

def EndedInFailure (s : MjStore) (id : Int) : Prop :=
  ∃ t, s.midjourney id = some t ∧ t.status = .failure ∧ t.progress = progressComplete

instance (s : MjStore) (id : Int) : Decidable (EndedInFailure s id) :=
  decidable_of_iff (∃ t ∈ s.midjourney id, t.status = .failure ∧ t.progress = progressComplete) Iff.rfl

/-- A submission from `s₀` to `s₁` and rounds to `s`.  The wallet may have grown by what was given
back for other tasks of the user. -/
structure Free (sub : MjSubmission) (s₀ s₁ s : MjStore) : Prop where
  wallet : EndedInFailure s s₀.nextId →
    balance s.accounts (.wallet sub.relayInfo.userId) =
      balance s₀.accounts (.wallet sub.relayInfo.userId) +
        returned (submittedTicket sub s₀).others s
  token : EndedInFailure s s₀.nextId →
    balance s.accounts (.tokenRemain sub.relayInfo.tokenId) =
        balance s₀.accounts (.tokenRemain sub.relayInfo.tokenId) ∧
      balance s.accounts (.tokenUsed sub.relayInfo.tokenId) =
        balance s₀.accounts (.tokenUsed sub.relayInfo.tokenId)
  bounded : returned (submittedTicket sub s₀).own s ≤
    balance s₀.accounts (.wallet sub.relayInfo.userId) -
      balance s₁.accounts (.wallet sub.relayInfo.userId)

/-- The submissions, with the rounds after them, that are charged fairly. -/
inductive Fair (cfg : MjConfig) (sub : MjSubmission) (rounds : List MjRound) (s₀ s₁ : MjStore) : Prop where
  | costless (price : sub.quota = 0)
  | unnamed (uncharged : sub.charges = false) (unnamed : sub.mjId = "")
  | unfailing (uncharged : sub.charges = false)
      (each : Rounds (fun s round => ListedOnce (submittedTicket sub s₀) s round ∧
        NeverFails (submittedTicket sub s₀) s round) cfg rounds s₁)
  | playground (charged : sub.charges = true) (playground : sub.relayInfo.isPlayground = true)
      (each : Rounds (fun s round => ListedOnce (submittedTicket sub s₀) s round ∧
        ¬ Exposed cfg (submittedTicket sub s₀) s) cfg rounds s₁)
  | succeeding (charged : sub.charges = true)
      (each : Rounds (fun s round => ListedOnce (submittedTicket sub s₀) s round ∧
        NeverFails (submittedTicket sub s₀) s round ∧ ¬ Exposed cfg (submittedTicket sub s₀) s) cfg rounds s₁)

section
variable {cfg : MjConfig} {sub : MjSubmission} {s s₀ s₁ : MjStore} {k : Ticket} {rounds : List MjRound}

/-- What the user was given back, for the task and for others. -/
theorem returned_user (mine : Mine k s) :
    returned (fun _ userId => userId = k.userId) s = returned k.own s + returned k.others s := by
  unfold returned
  rw [← sum_map_add]
  congr 1
  refine map_congr_left fun event member => ?_
  cases event with
  | updated => rfl
  | refunded id userId quota =>
    simp only [returnedBy, Ticket.own, Ticket.others]
    by_cases own : id = k.id
    · subst own
      simp [mine.record userId quota member]
    · simp [own]

theorem returned_blank (select : Int → Int → Bool) (blank : s.history = []) : returned select s = 0 := by
  simp [returned, blank]

theorem balance_consumed (cfg : Config) {info : RelayInfo} (quota : Int) {a : Store}
    (user : (a.users info.userId).isSome = true) (token : info.tokenId ∈ a.tokens.map (·.id))
    (account : Billing.Account) : balance (consumed cfg info quota a) account = balance a account +
      (if account = .wallet info.userId then -quota else 0) +
      if info.isPlayground then 0 else ((if account = .tokenRemain info.tokenId then -quota else 0) +
        if account = .tokenUsed info.tokenId then quota else 0) := by
  have moved : balance (moveUser cfg info.userId (-quota) a) account =
      balance a account + if account = .wallet info.userId then -quota else 0 :=
    Billing.balance_moveUser user (-quota) account
  unfold consumed
  split
  · rw [moved, Int.add_zero]
  · have present : info.tokenId ∈ (moveUser cfg info.userId (-quota) a).tokens.map (·.id) := by
      rw [(framed_moveUser cfg info.userId (-quota) a).tokens]
      exact token
    rw [Billing.balance_moveToken present, moved, Int.neg_neg]

def charge (sub : MjSubmission) (s₀ s₁ : MjStore) : Int :=
  balance s₀.accounts (.wallet sub.relayInfo.userId) -
    balance s₁.accounts (.wallet sub.relayInfo.userId)

/-- The whole charge was given back, and none of it was on the token. -/
theorem free_of_squared {mjId : String} {quota : Int}
    (between : Between ⟨s₀.nextId, mjId, sub.relayInfo.userId, quota⟩ s₁ s)
    (user : (s₁.accounts.users sub.relayInfo.userId).isSome = true) (blank : s₁.history = [])
    (squared : EndedInFailure s s₀.nextId → returned (submittedTicket sub s₀).own s = charge sub s₀ s₁ ∧
      balance s₁.accounts (.tokenRemain sub.relayInfo.tokenId) =
        balance s₀.accounts (.tokenRemain sub.relayInfo.tokenId) ∧
      balance s₁.accounts (.tokenUsed sub.relayInfo.tokenId) = balance s₀.accounts (.tokenUsed sub.relayInfo.tokenId))
    (bounded : returned (submittedTicket sub s₀).own s ≤ charge sub s₀ s₁) : Free sub s₀ s₁ s := by
  obtain ⟨mine, books⟩ := between
  have wallet := books.wallet user
  have split : returned (fun _ userId => userId = sub.relayInfo.userId) s =
      returned (submittedTicket sub s₀).own s + returned (submittedTicket sub s₀).others s := returned_user mine
  have none_ := returned_blank (fun _ userId => userId = sub.relayInfo.userId) blank
  refine ⟨fun ended => ?_, fun ended => ?_, bounded⟩
  · have whole := (squared ended).1
    unfold charge at whole
    dsimp only at wallet
    omega
  · obtain ⟨-, remain, used⟩ := squared ended
    obtain ⟨remain', used'⟩ := books.tokens sub.relayInfo.tokenId
    exact ⟨remain'.trans remain, used'.trans used⟩

structure Charged (sub : MjSubmission) (amount : Int) (s₀ s₁ : MjStore) : Prop where
  user : (s₁.accounts.users sub.relayInfo.userId).isSome = true
  wallet : charge sub s₀ s₁ = amount
  token : sub.relayInfo.isPlayground = true ∨ amount = 0 →
    balance s₁.accounts (.tokenRemain sub.relayInfo.tokenId) =
        balance s₀.accounts (.tokenRemain sub.relayInfo.tokenId) ∧
      balance s₁.accounts (.tokenUsed sub.relayInfo.tokenId) =
        balance s₀.accounts (.tokenUsed sub.relayInfo.tokenId)

theorem charged_nothing (registered : Registered sub s₀) (accounts : s₁.accounts = s₀.accounts) :
    Charged sub 0 s₀ s₁ := by
  refine ⟨by rw [accounts]; exact registered.user, by simp [charge, accounts], fun _ => ?_⟩
  rw [accounts]
  exact ⟨rfl, rfl⟩

theorem charged_consumed (registered : Registered sub s₀)
    (accounts : s₁.accounts = consumed cfg.accounts sub.relayInfo sub.quota s₀.accounts) :
    Charged sub sub.quota s₀ s₁ := by
  have balances := balance_consumed cfg.accounts sub.quota registered.user registered.token
  rw [← accounts] at balances
  refine ⟨?_, ?_, ?_⟩
  · rw [accounts]
    unfold consumed
    split
    · rw [(framed_moveUser ..).users]
      exact registered.user
    · rw [(Billing.framed_moveToken ..).users, (framed_moveUser ..).users]
      exact registered.user
  · unfold charge
    rw [balances]
    simp
  · intro none_
    rw [balances, balances]
    rcases none_ with playground | zero
    · simp [playground]
    · simp [zero]

theorem midjourney_append {t : Midjourney} (rows : s₁.midjourneys = s₀.midjourneys ++ [t])
    (ids : ∀ row ∈ s₀.midjourneys, row.id < s₀.nextId) (id : t.id = s₀.nextId) : s₁.midjourney s₀.nextId = some t := by
  have fresh : Rows.find Midjourney.id t.id s₀.midjourneys = none := by
    rw [Rows.find_eq_none]
    intro row member
    have := ids row member
    omega
  rw [MjStore.midjourney, rows, Rows.find_append fresh, if_pos id.symm]

/-- The table after a submission, with or without its row. -/
theorem mine_submitted (registered : Registered sub s₀) {mjId : String} {quota : Int} {more : List Midjourney}
    (rows : s₁.midjourneys = s₀.midjourneys ++ more) (history : s₁.history = s₀.history)
    (keys : (s₁.midjourneys.map Midjourney.id).Nodup)
    (fits : ∀ t ∈ more, t.mjId = mjId ∧ t.userId = sub.relayInfo.userId ∧ t.quota = quota) :
    Between ⟨s₀.nextId, mjId, sub.relayInfo.userId, quota⟩ s₁ s₁ := by
  refine ⟨⟨keys, ?_, ?_⟩, .refl _ _⟩
  · intro t member
    rw [rows, mem_append] at member
    rcases member with old | new
    · intro same
      have := registered.ids t old
      dsimp only at same
      omega
    · exact fun _ => fits t new
  · intro userId quota member
    rw [history, registered.blank] at member
    cases member

/-- A submission without a row. -/
theorem free_unrecorded (registered : Registered sub s₀) {amount : Int} (charged : Charged sub amount s₀ s₁)
    (positive : 0 ≤ amount) (rows : s₁.midjourneys = s₀.midjourneys) (history : s₁.history = s₀.history) :
    Free sub s₀ s₁ ((updateMidjourneyTaskBulk cfg rounds).solo s₁).2 := by
  have blank : s₁.history = [] := history.trans registered.blank
  have start : Between ⟨s₀.nextId, "", sub.relayInfo.userId, 0⟩ s₁ s₁ :=
    mine_submitted registered (by rw [rows, append_nil]) history (by rw [rows]; exact registered.keys) (by simp)
  have absent : s₁.midjourney s₀.nextId = none := by
    rw [MjStore.midjourney, rows, Rows.find_eq_none]
    intro t member
    have := registered.ids t member
    omega
  have each : Rounds (Harmless ⟨s₀.nextId, "", sub.relayInfo.userId, 0⟩) cfg rounds s₁ :=
    (rounds_true rounds s₁).mono fun _ _ _ => .inl rfl
  obtain ⟨between, nothing⟩ := unreturned_rounds start (returned_blank _ blank) each
  refine free_of_squared between charged.user blank ?_ ?_
  · rintro ⟨t, found, -⟩
    rw [absent_rounds start absent] at found
    cases found
  · rw [charged.wallet]
    exact le_of_eq_of_le nothing positive

/-- A submission with its row. -/
theorem free_recorded (positive : 0 ≤ sub.quota) (start : Between (submittedTicket sub s₀) s₁ s₁)
    (charged : Charged sub (if sub.charges then sub.quota else 0) s₀ s₁) (blank : s₁.history = [])
    (phase : ∃ row, s₁.midjourney (submittedTicket sub s₀).id = some row ∧
      Phase sub.quota row (returned (submittedTicket sub s₀).own s₁)) (fair : Fair cfg sub rounds s₀ s₁) :
    Free sub s₀ s₁ ((updateMidjourneyTaskBulk cfg rounds).solo s₁).2 := by
  have before : returned (submittedTicket sub s₀).own s₁ = 0 := returned_blank _ blank
  -- nothing was charged and nothing is given back
  have unpaid (uncharged : Charged sub 0 s₀ s₁) (each : Rounds (Harmless (submittedTicket sub s₀)) cfg rounds s₁) :
      Free sub s₀ s₁ ((updateMidjourneyTaskBulk cfg rounds).solo s₁).2 := by
    obtain ⟨between, nothing⟩ := unreturned_rounds start before each
    refine free_of_squared between uncharged.user blank (fun _ => ⟨?_, uncharged.token (.inr rfl)⟩) ?_
    · rw [uncharged.wallet]
      exact nothing
    · rw [uncharged.wallet]
      exact nothing.le
  cases fair with
  | costless price =>
    rw [price, ite_self] at charged
    exact unpaid charged ((rounds_true rounds s₁).mono fun _ _ _ => .inl price)
  | unnamed uncharged unnamed =>
    rw [uncharged] at charged
    exact unpaid charged ((rounds_true rounds s₁).mono fun _ _ _ => .inr (.inl unnamed))
  | unfailing uncharged each =>
    rw [uncharged] at charged
    exact unpaid charged (each.mono fun _ _ harmless => .inr (.inr harmless))
  | playground taken playground each =>
    rw [if_pos taken] at charged
    obtain ⟨between, row, found, after⟩ := squared_rounds positive start phase each
    refine free_of_squared between charged.user blank ?_ ?_
    · rintro ⟨t, found', failed, complete⟩
      obtain rfl : row = t := Option.some.inj (found.symm.trans found')
      rw [charged.wallet]
      exact ⟨after.failed failed complete, charged.token (.inl playground)⟩
    · rw [charged.wallet]
      rcases after.whole with none_ | whole
      · exact none_.le.trans positive
      · exact whole.le
  | succeeding taken each =>
    rw [if_pos taken] at charged
    obtain ⟨between, nothing⟩ := unreturned_rounds start before
      (each.mono fun _ _ harmless => .inr (.inr ⟨harmless.1, harmless.2.1⟩))
    obtain ⟨-, row, found, after⟩ := squared_rounds positive start phase
      (each.mono fun _ _ squared => ⟨squared.1, squared.2.2⟩)
    refine free_of_squared between charged.user blank ?_ ?_
    · rintro ⟨t, found', failed, complete⟩
      obtain rfl : row = t := Option.some.inj (found.symm.trans found')
      -- all of it was given back, and that is nothing
      have whole := after.failed failed complete
      rw [charged.wallet]
      exact ⟨whole, charged.token (.inr (whole.symm.trans nothing))⟩
    · rw [charged.wallet]
      exact nothing.le.trans positive

/-- **A Midjourney task that ended in FAILURE is free of charge**, and no more is given back
than was charged, in every submission that is charged fairly. -/
theorem failedDrawings_free (registered : Registered sub s₀) (positive : 0 ≤ sub.quota)
    (fair : Fair cfg sub rounds s₀ ((relayMidjourneySubmit cfg sub).solo s₀).2) :
    Free sub s₀ ((relayMidjourneySubmit cfg sub).solo s₀).2
      ((updateMidjourneyTaskBulk cfg rounds).solo ((relayMidjourneySubmit cfg sub).solo s₀).2).2 := by
  have meets : (relayMidjourneySubmit cfg sub).Meets (.unfailing _) s₀ fun _ => Submitted cfg sub s₀ :=
    relayMidjourneySubmit_meets positive
  have submitted := meets.solo_unfailing
  generalize ((relayMidjourneySubmit cfg sub).solo s₀).2 = s₁ at submitted fair ⊢
  cases submitted with
  | unrecorded rows history accounts =>
    rcases accounts with same | charged
    · exact free_unrecorded registered (charged_nothing registered same) le_rfl rows history
    · exact free_unrecorded registered (charged_consumed registered charged) positive rows history
  | recorded t rows id columns going history accounts =>
    have blank : s₁.history = [] := history.trans registered.blank
    have found := midjourney_append rows registered.ids id
    have keys : (s₁.midjourneys.map Midjourney.id).Nodup := by
      rw [rows]
      refine Rows.nodup_append registered.keys ?_
      rw [Rows.find_eq_none]
      intro row member
      have := registered.ids row member
      omega
    have start : Between (submittedTicket sub s₀) s₁ s₁ :=
      mine_submitted registered rows history keys (by simpa using columns)
    have charged : Charged sub (if sub.charges then sub.quota else 0) s₀ s₁ := by
      split_ifs at accounts ⊢
      · exact charged_consumed registered accounts
      · exact charged_nothing registered accounts
    have phase : Phase sub.quota t (returned (submittedTicket sub s₀).own s₁) := by
      rw [returned_blank _ blank]
      exact ⟨fun _ => rfl, fun failed complete => absurd ⟨failed, complete⟩ going, .inl rfl⟩
    exact free_recorded positive start charged blank ⟨t, found, phase⟩ fair

end

/-! ## A task that fails -/

/-- User 1 has 100, and so has token 1; a task of theirs has succeeded. -/
def submissionStore : MjStore :=
  { drawingStore with
    accounts := { Store.empty with
      users := fun id => some ⟨id, "default", 100, "", ""⟩
      tokens := [⟨1, "k", 100, 0, false⟩] }
    midjourneys := [{ drawing with mjId := "1320098173412000", status := .success, progress := "100%" }] }

/-- A request that costs 50 and is accepted. -/
def submission (relayMode : MjRelayMode) (customId : String) (isPlayground : Bool) : MjSubmission where
  relayMode := relayMode
  request := some ⟨"a cat", customId, .other "", 0, "1320098173412000", ""⟩
  relayInfo := { plainRequest with isPlayground }
  unbilled := rfl
  channelId := 1
  price := .ok 50
  answer := .answered 200 ⟨1, "", none, none, "1320098173412546"⟩
  now := 1800000000000

def moderated : List MjRound := [hearing (drawingDto .failure "100%" "moderated")]

def submitted (sub : MjSubmission) : MjStore := ((relayMidjourneySubmit drawingConfig sub).solo submissionStore).2

def failed (sub : MjSubmission) : MjStore := ((updateMidjourneyTaskBulk drawingConfig moderated).solo (submitted sub)).2

theorem registered_submission (relayMode : MjRelayMode) (customId : String) (isPlayground : Bool) :
    Registered (submission relayMode customId isPlayground) submissionStore where
  keys := by decide
  ids := by decide
  user := rfl
  token := by simp [submission, submissionStore, plainRequest]
  blank := rfl

/-- Charged without a token, and given back. -/
theorem failedDrawings_free_playground : balance (submitted (submission .imagine "" true)).accounts (.wallet 1) = 50 ∧
      EndedInFailure (failed (submission .imagine "" true)) 2 ∧
      Free (submission .imagine "" true) submissionStore (submitted (submission .imagine "" true))
        (failed (submission .imagine "" true)) := by
  refine ⟨by decide +kernel, by decide +kernel, ?_⟩
  refine failedDrawings_free (registered_submission _ _ _) (by decide) (.playground (by decide) rfl ?_)
  refine ⟨⟨?_, ?_⟩, fun _ => trivial⟩
  · show length _ ≤ 1
    decide +kernel
  · show ¬(_ ∨ ∃ t ∈ selected _, _ ∧ _)
    decide +kernel

/-- **A task that failed is charged for**: the token of an imagination keeps the charge; an
in-painting was not charged, and 50 are given back. -/
theorem failedDrawing_charged : (EndedInFailure (failed (submission .imagine "" false)) 2 ∧
      balance submissionStore.accounts (.tokenRemain 1) = 100 ∧
      balance (failed (submission .imagine "" false)).accounts (.tokenRemain 1) = 50 ∧
      balance (failed (submission .imagine "" false)).accounts (.wallet 1) = 100) ∧
    EndedInFailure (failed (submission .action "MJ::Inpaint::1::x" false)) 2 ∧
      balance (submitted (submission .action "MJ::Inpaint::1::x" false)).accounts (.wallet 1) = 100 ∧
      balance (failed (submission .action "MJ::Inpaint::1::x" false)).accounts (.wallet 1) = 150 := by
  decide +kernel

end NewApi.Drawing
