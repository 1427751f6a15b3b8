/-
# Login.BackupCodes — how often a backup code is accepted

`ValidateBackupCode` looks the unused codes of the user up, compares, and saves the row it found as
used, without asking whether it is still unused; so two calls may both accept it
(`backupCode_accepted_twice`).  `BackupStep` is all that a call can do to the store, by what it
has looked up (`Lookup`).
-/
import NewApi.Model.TwoFA
import NewApi.Theory.Contract

namespace NewApi.Login
open Model Theory Pool List Program Function

def acceptances (id : Int) (history : List TwoFAEvent) : Nat := history.count (.accepted id)

/-- What a call has looked up: the codes at its last call before the comparison was recorded. -/
structure Lookup where
  codes : List TwoFABackupCode
  compared : Bool

def Lookup.after (look : Lookup) (s s' : TwoFAStore) : Lookup :=
  if look.compared then look
  else if s'.history.length = s.history.length then { look with codes := s.codes }
  else { look with compared := true }

/-- A call that accepts a code finds its row in the table as it has looked it up. -/
def RowUnchanged (look : Lookup) (s s' : TwoFAStore) : Prop :=
  ∀ id, s'.history = s.history ++ [.accepted id] → ∀ code ∈ look.codes, code.id = id → code ∈ s.codes

/-- Calls side by side: they may fail, and the clock moves on between them. -/
def backupRules {ι : Type} [DecidableEq ι] (admits : Lookup → TwoFAStore → TwoFAStore → Prop) :
    Rules TwoFAStore ι (ι → Lookup) where
  env s s' := ∃ clock, s.clock ≤ clock ∧ s' = { s with clock }
  guard i _ s s' look := admits (look i) s s'
  own i _ s s' look := update look i ((look i).after s s')
  outside _ _ look := look

/-! ## What a call does -/

/-- The two things a call does to the codes: a code that it accepts was looked up unused. -/
inductive BackupStep (look : Lookup) (s : TwoFAStore) : TwoFAStore → Prop where
  | other {s' : TwoFAStore} (codes : s'.codes = s.codes)
      (history : ∀ id, acceptances id s'.history = acceptances id s.history) : BackupStep look s s'
  | accept (found bc : TwoFABackupCode) (seen : found ∈ look.codes) (unused : found.isUsed = false)
      (same : found.id = bc.id) (used : bc.isUsed = true) :
      BackupStep look s ((s.saveCode bc).log (.accepted bc.id))

def backupSetting : Setting TwoFAStore Lookup where
  meets _ _ := True
  sees _ _ := True
  moves s s' look := look.after s s'
  keeps s s' look := BackupStep look s s'

variable {look : Lookup} {s s' : TwoFAStore}

theorem BackupStep.rfl : BackupStep look s s := .other (Eq.refl _) fun _ => Eq.refl _

theorem BackupStep.log_other {event : TwoFAEvent} (codes : s'.codes = s.codes)
    (history : s'.history = s.history) (other : ∀ id, event ≠ .accepted id) : BackupStep look s (s'.log event) := by
  refine .other codes fun id => ?_
  simp [acceptances, history, other id]

/-- Nothing was compared, and what was looked up before a comparison stays. -/
def Lookup.Still (look look' : Lookup) : Prop :=
  look'.compared = look.compared ∧ (look.compared = true → look' = look)

theorem Lookup.still_after (look : Lookup) (s : TwoFAStore) : look.Still (look.after s s) := by
  cases compared : look.compared <;> simp [Still, after, compared]

theorem timeNow_looks : timeNow.Meets backupSetting look fun _ look' => look.Still look' := by
  refine .bind (Q := fun _ look' => look.Still look') (.store fun s faults _ _ => ?_) fun outcome _ still => ?_
  · exact ⟨.rfl, look.still_after s⟩
  · cases outcome <;> exact still

variable (t : TwoFA)

theorem isLocked_looks : t.isLocked.Meets backupSetting look fun _ look' => look.Still look' := by
  unfold TwoFA.isLocked
  split
  · exact ⟨rfl, fun _ => rfl⟩
  · exact .bind timeNow_looks fun _ _ still => still

theorem update_looks {event : Option TwoFAEvent} (other : ∀ e ∈ event, ∀ id, e ≠ .accepted id) :
    (t.update event).Meets backupSetting look fun _ _ => True := by
  unfold TwoFA.update
  split
  · trivial
  refine .store fun s faults _ _ => ⟨?_, trivial⟩
  rcases Sql.exec_autocommit (fun s : TwoFAStore => event.elim (s.saveRow t) (s.saveRow t).log) s
    faults with ⟨e, failed⟩ | ran
  · rw [failed]
    exact .rfl
  · rw [ran]
    cases event with
    | none => exact .other rfl fun _ => rfl
    | some e => exact .log_other rfl rfl (other e rfl)

theorem incrementFailedAttempts_looks : t.incrementFailedAttempts.Meets backupSetting look fun _ _ => True := by
  have saved (t : TwoFA) (look : Lookup) :
      (t.update (some (.failed t))).Meets backupSetting look fun _ _ => True := by
    apply update_looks t
    rintro _ ⟨⟩ id
    simp
  unfold TwoFA.incrementFailedAttempts
  dsimp only
  split
  · refine .bind timeNow_looks fun now _ _ => ?_
    exact .bind (saved _ _) fun _ _ _ => trivial
  · exact .bind (saved _ _) fun _ _ _ => trivial

theorem recordUsage_looks : t.recordUsage.Meets backupSetting look fun _ _ => True := by
  refine .bind timeNow_looks fun now _ _ => ?_
  refine .bind (update_looks _ ?_) fun _ _ _ => trivial
  rintro _ ⟨⟩

theorem evaluateBackup_looks (found : Option TwoFABackupCode) (begun : look.compared = false) :
    (t.evaluateBackup found).Meets backupSetting look fun _ after => after.compared = true ∧ after.codes = look.codes := by
  refine .bind (Q := fun _ (after : Lookup) => after.compared = true ∧ after.codes = look.codes)
    (.store fun s faults _ _ => ⟨.log_other rfl rfl fun _ => by simp, ?_⟩) fun _ _ held => held
  show (look.after s (s.log _)).compared = true ∧ (look.after s (s.log _)).codes = look.codes
  simp [Lookup.after, begun]

theorem useCode_looks {bc : TwoFABackupCode} (seen : bc ∈ look.codes) (unused : bc.isUsed = false)
    (compared : look.compared = true) : (TwoFA.useCode bc).Meets backupSetting look fun _ _ => True := by
  refine .bind timeNow_looks fun now look' still => ?_
  obtain rfl := still.2 compared
  refine .bind (Q := fun _ _ => True) (.store fun s faults _ _ => ⟨?_, trivial⟩) fun outcome _ _ => ?_
  · rcases Sql.exec_autocommit (fun s : TwoFAStore =>
      (s.saveCode { bc with isUsed := true, usedAt := some now }).log (.accepted bc.id)) s faults with
      ⟨e, failed⟩ | ran
    · rw [failed]
      exact .rfl
    · rw [ran]
      exact .accept bc { bc with isUsed := true, usedAt := some now } seen unused rfl rfl
  · cases outcome <;> trivial

-- The format of the code plays no part here; elaboration would evaluate it.
attribute [local irreducible] validBackupFormat

theorem validateBackupCode_looks (lib : TwoFALibrary) (code : String) (begun : look.compared = false) :
    (t.validateBackupCode lib code).Meets backupSetting look fun _ _ => True := by
  unfold TwoFA.validateBackupCode
  cases validBackupFormat code with
  | false => trivial
  | true =>
    rw [Bool.not_true, if_neg Bool.false_ne_true]
    refine .bind (Q := fun outcome look' => look'.compared = false ∧ ∀ codes, outcome = .ok codes →
      ∀ bc ∈ codes, bc ∈ look'.codes ∧ bc.isUsed = false) (.store fun s faults _ _ => ?_) ?_
    · -- the query: what it returns are the unused ones of the codes that are noted
      have query := Sql.exec_read (fun s : TwoFAStore => .ok (s.unusedCodes t.userId)) s faults
      rw [Sql.exec_read_snd]
      have noted : (look.after s s).codes = s.codes := by simp [Lookup.after, begun]
      refine ⟨.rfl, (look.still_after s).1.trans begun, fun codes answered bc mem => ?_⟩
      rcases query with ⟨e, failed⟩ | ran
      · rw [failed] at answered
        cases answered
      · rw [ran] at answered
        cases answered
        show bc ∈ (look.after s s).codes ∧ _
        rw [noted]
        simp only [TwoFAStore.unusedCodes, mem_filter, decide_eq_true_eq] at mem
        exact ⟨mem.1, mem.2.2⟩
    rintro outcome look' ⟨begun, finds⟩
    cases outcome with
    | error e => trivial
    | ok backupCodes =>
      refine .bind (evaluateBackup_looks t _ begun) ?_
      rintro _ after ⟨compared, codes⟩
      split
      · trivial
      · rename_i bc found
        obtain ⟨seen, unused⟩ := finds _ rfl bc (mem_of_find?_eq_some found)
        exact useCode_looks (codes ▸ seen) unused compared

theorem validateBackupCodeAndUpdateUsage_looks (lib : TwoFALibrary) (code : String) (begun : look.compared = false) :
    (t.validateBackupCodeAndUpdateUsage lib code).Meets backupSetting look fun _ _ => True := by
  refine .bind (isLocked_looks t) fun locked look' still => ?_
  cases locked with
  | true => trivial
  | false =>
    rw [if_neg Bool.false_ne_true]
    refine .bind (validateBackupCode_looks t lib code (still.1.trans begun)) fun outcome _ _ => ?_
    match outcome with
    | .error e => trivial
    | .ok false => exact .bind (incrementFailedAttempts_looks t) fun _ _ _ => trivial
    | .ok true => exact .bind (recordUsage_looks t) fun _ _ _ => trivial

/-- A code that was accepted is used, and was accepted once. -/
def UsedOnce (s : TwoFAStore) : Prop :=
  ∀ id, acceptances id s.history ≤ 1 ∧
    (0 < acceptances id s.history → ∀ code ∈ s.codes, code.id = id → code.isUsed = true)

/-- A step that finds its row unchanged keeps it so: what was looked up unused was never accepted. -/
theorem UsedOnce.step (once : UsedOnce s) (unchanged : RowUnchanged look s s') (stepped : BackupStep look s s') :
    UsedOnce s' := by
  intro id
  cases stepped with
  | other codes history =>
    rw [codes, history]
    exact once id
  | accept found bc seen unused same used =>
    have counted : acceptances id ((s.saveCode bc).log (.accepted bc.id)).history =
        acceptances id s.history + if bc.id = id then 1 else 0 := by
      simp [acceptances, TwoFAStore.saveCode, count_singleton]
    rw [counted]
    by_cases here : bc.id = id
    · have never : acceptances id s.history = 0 := by
        by_contra before
        have still := unchanged bc.id rfl found seen same
        rw [(once id).2 (Nat.pos_of_ne_zero before) found still (same.trans here)] at unused
        cases unused
      refine ⟨by simp [never, here], fun _ code mem named => ?_⟩
      rcases Rows.of_mem_save mem with rfl | ⟨-, other⟩
      · exact used
      · exact absurd (named.trans here.symm) other
    · simp only [here]
      refine ⟨(once id).1, fun before code mem named => ?_⟩
      rcases Rows.of_mem_save mem with rfl | ⟨mem, -⟩
      · exact absurd named here
      · exact (once id).2 before code mem named

/-- **If every save of a backup code finds the row as its call has looked it up, no code is accepted
twice**, in any interleaving of any number of calls, whatever rows they hold and whatever codes they
are given, also when calls to the store fail. -/
theorem backupCode_single_use {ι : Type} [DecidableEq ι] (lib : TwoFALibrary) (held : ι → TwoFA)
    (code : ι → String) (s₀ : TwoFAStore) (fresh : s₀.history = [])
    {c : Pool TwoFAStore (Except String Bool × TwoFA) ι} {look : ι → Lookup} (run : Run (backupRules RowUnchanged)
      (initial s₀ fun i => (held i).validateBackupCodeAndUpdateUsage lib (code i)) (fun _ => ⟨[], false⟩) c look)
    (id : Int) : acceptances id c.store.history ≤ 1 := by
  have start : UsedOnce s₀ := by simp [UsedOnce, fresh, acceptances]
  have once : UsedOnce c.store := by
    refine (Run.meets (fun _ => backupSetting) (fun _ _ _ => True) (fun i look => look i) (fun s _ => UsedOnce s)
      start (fun i => validateBackupCodeAndUpdateUsage_looks (held i) lib (code i) rfl)
      ⟨fun _ _ _ _ => trivial, fun _ _ _ _ _ _ _ => trivial, ?_, ?_, ?_, ?_⟩ run).1
    · intro i faults s s' look
      exact update_self i _ _
    · intro i j faults s s' look other
      exact update_of_ne other _ _
    · exact fun i faults s s' look once unchanged owed => once.step unchanged owed
    · rintro s s' look once ⟨clock, -, rfl⟩
      exact ⟨once, fun _ => rfl⟩
  exact (once id).1

/-! ## Two calls, one code -/

def plainLibrary : TwoFALibrary where
  totpValidate _ _ _ := false
  passwordMatches code hash := code == hash
  formatTime _ := ""

def backupRow : TwoFA where
  id := 1
  userId := 1
  secret := "SECRET"
  isEnabled := true
  failedAttempts := 0
  lockedUntil := none
  lastUsedAt := none

def backupStore : TwoFAStore where
  rows := [backupRow]
  codes := [⟨1, 1, "ABCD-EFGH", false, none⟩]
  clock := 0
  history := []

abbrev BackupPool := Pool TwoFAStore (Except String Bool × TwoFA) Bool

def twoCalls : BackupPool :=
  initial backupStore fun _ => backupRow.validateBackupCodeAndUpdateUsage plainLibrary "ABCD-EFGH"

def returnedTrue (c : BackupPool) (i : Bool) : Bool := (c.result i).any fun r => r.1.toOption = some true

theorem finished_of_returnedTrue {c : BackupPool} {i : Bool} (returned : returnedTrue c i = true) :
    ∃ row, c.Finished i (.ok true, row) := by
  obtain ⟨⟨outcome, row⟩, finished, holds⟩ := finished_of_any returned
  cases outcome with
  | error e => cases holds
  | ok answer =>
    obtain rfl : answer = true := by simpa [Except.toOption] using holds
    exact ⟨row, finished⟩

/-- One call accepts the code, and the other, which has not begun, cannot. -/
theorem backupCode_single_use_serial : ∃ c look, Run (backupRules RowUnchanged) twoCalls (fun _ => ⟨[], false⟩) c look ∧
      (∃ row, c.Finished false (.ok true, row)) ∧ acceptances 1 c.store.history ≤ 1 := by
  refine exists_play (fun c _ => returnedTrue c false = true)
    (fun i s s' look => s'.history.length == s.history.length || (look i).codes.all (· ∈ s.codes))
    (fun i s s' look admitted id logged code mem _ => by
      simp only [logged, length_append, length_singleton, beq_iff_eq, Bool.or_eq_true, all_eq_true,
        decide_eq_true_eq] at admitted
      exact admitted.resolve_left (by omega) code mem)
    [.main false, .main false, .main false, .main false, .main false, .main false, .main true]
    (by decide +kernel) ?_
  intro c look run ended
  exact ⟨finished_of_returnedTrue ended,
    backupCode_single_use plainLibrary (fun _ => backupRow) (fun _ => "ABCD-EFGH") backupStore rfl run 1⟩

/-- Both calls look the code up before either has saved it, and both accept it. -/
theorem backupCode_accepted_twice : ∃ c look, Run (backupRules fun _ _ _ => True) twoCalls (fun _ => ⟨[], false⟩) c look ∧
      (∀ i, ∃ row, c.Finished i (.ok true, row)) ∧ acceptances 1 c.store.history = 2 := by
  refine exists_play (fun c _ => (∀ i, returnedTrue c i = true) ∧ acceptances 1 c.store.history = 2)
    (fun _ _ _ _ => true) (fun _ _ _ _ _ => trivial)
    [.main false, .main true, .main false, .main false, .main false, .main true, .main true,
      .main true, .main false, .main false, .main true, .main true] (by decide +kernel) ?_
  intro c _ _ ended
  exact ⟨fun i => finished_of_returnedTrue (ended.1 i), ended.2⟩

end NewApi.Login
