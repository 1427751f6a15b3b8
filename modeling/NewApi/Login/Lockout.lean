/-
# Login.Lockout — how many wrong codes an account takes before it is locked

A login attempt reads the 2FA row, checks on its copy whether the account is locked, evaluates the
code, counts the failure on its copy and saves the copy.  Attempts side by side count from the same
copy, and one that checked before the account was locked evaluates its code afterwards
(`lockout_evaded`).

The counting is right if a code is evaluated only while the row is the one the attempt holds and no
other attempt on the account has a failure to save (`Current`).
-/
import NewApi.Model.TwoFA
import NewApi.Theory.Contract

namespace NewApi.Login
open Model Theory TwoFAStore Pool Option Rows Function TwoFA

/-! ## The history of an account -/

@[simp] def isEvaluation (userId : Int) : TwoFAEvent → Bool
  | .evaluated row _ _ => row.userId = userId
  | _ => false

@[simp] def isFailure (userId : Int) : TwoFAEvent → Bool
  | .failed row => row.userId = userId
  | _ => false

def evaluations (userId : Int) (history : List TwoFAEvent) : Nat := history.countP (isEvaluation userId)

def failures (userId : Int) (history : List TwoFAEvent) : Nat := history.countP (isFailure userId)

def locksAccount (row : TwoFA) : Bool := decide (maxFailAttempts ≤ row.failedAttempts) && row.lockedUntil.isSome

@[simp] def countSinceLock (userId : Int) (n : Nat) : TwoFAEvent → Nat
  | .evaluated row _ _ => if row.userId = userId then n + 1 else n
  | .failed row => if row.userId = userId ∧ locksAccount row then 0 else n
  | .accepted _ => n

/-- The failures a row counts towards the next lock. -/
def spent (row : Option TwoFA) : Nat :=
  row.elim 0 fun row => if row.failedAttempts < maxFailAttempts then row.failedAttempts.toNat else 0

/-- The codes evaluated for a user since the account was locked last. -/
def sinceLock (userId : Int) (history : List TwoFAEvent) : Nat := history.foldl (countSinceLock userId) 0

section
variable (userId : Int) (history : List TwoFAEvent) (event : TwoFAEvent)

@[simp] theorem evaluations_append : evaluations userId (history ++ [event]) =
    evaluations userId history + if isEvaluation userId event then 1 else 0 := by
  simp [evaluations]

@[simp] theorem failures_append : failures userId (history ++ [event]) =
    failures userId history + if isFailure userId event then 1 else 0 := by
  simp [failures]

@[simp] theorem sinceLock_append : sinceLock userId (history ++ [event]) =
    countSinceLock userId (sinceLock userId history) event := by
  simp [sinceLock]

end

/-- Only wrong codes are evaluated. -/
def Wrong (s s' : TwoFAStore) : Prop :=
  ∀ row valid locked, s'.history = s.history ++ [.evaluated row valid locked] → valid = false

/-- An attempt that evaluates a code holds the row as it is stored, and every failure
evaluated before is saved. -/
def Current (s s' : TwoFAStore) : Prop :=
  ∀ row valid locked, s'.history = s.history ++ [.evaluated row valid locked] →
    s.rowOf row.userId = some row ∧
      evaluations row.userId s.history = failures row.userId s.history

/-- Login attempts with wrong codes, side by side; the clock moves on between them. -/
def lockoutRules {ι : Type} (admits : TwoFAStore → TwoFAStore → Prop) : Rules TwoFAStore ι Unit where
  env s s' := ∃ clock, s.clock ≤ clock ∧ s' = { s with clock }
  guard _ faults s s' _ := faults = [] ∧ Wrong s s' ∧ admits s s'
  own _ _ _ _ _ := ()
  outside _ _ _ := ()

/-- The table as the database keeps it, before the attempts. -/
structure TwoFATable (s : TwoFAStore) : Prop where
  ids : (s.rows.map TwoFA.id).Nodup
  users : (s.rows.map userId).Nodup
  numbered : ∀ row ∈ s.rows, row.id ≠ 0
  counted : ∀ row ∈ s.rows, 0 ≤ row.failedAttempts
  fresh : s.history = []

/-! ## One attempt -/

/-- What an attempt knows of itself: the time it saw last, the copy whose failure it has
still to save, and whether a code was right. -/
structure Attempt where
  clock : Int
  pending : Option TwoFA
  passed : Bool

/-- How a call is recorded. -/
def Attempt.after (g : Attempt) (s s' : TwoFAStore) : Attempt :=
  match s'.history.drop s.history.length with
  | [.evaluated row valid _] => ⟨s.clock, some row, valid⟩
  | [.failed _] => ⟨s.clock, none, g.passed⟩
  | _ => ⟨s.clock, g.pending, g.passed⟩

/-- `t'` is the copy `t` with one more failure, which locks the account at the maximum. -/
structure NextFailure (t t' : TwoFA) : Prop where
  id : t'.id = t.id
  userId : t'.userId = t.userId
  failed : t'.failedAttempts = t.failedAttempts + 1
  locks : maxFailAttempts ≤ t'.failedAttempts → t'.lockedUntil.isSome

section
variable (ident : Int → Option Int)

/-- The copy is of a row of the table; `ident` are the ids of the users' rows. -/
def Known (t : TwoFA) : Prop := ident t.userId = some t.id

/-- What a call of an attempt does to the store. -/
inductive AttemptStep (g : Attempt) (s : TwoFAStore) : TwoFAStore → Prop where
  | quiet : AttemptStep g s s
  | evaluate (t : TwoFA) (valid : Bool) (idle : g.pending = none) (unlocked : t.lockedAt s.clock = false) :
      AttemptStep g s (s.log (.evaluated t valid (s.locked t.userId)))
  | fail (t t' : TwoFA) (pending : g.pending = some t) (known : Known ident t)
      (next : NextFailure t t') : AttemptStep g s ((s.saveRow t').log (.failed t'))

/-- An attempt beside others: they keep the ids of the rows, and the clock moves on. -/
def attemptSetting : Setting TwoFAStore Attempt where
  meets _ faults := faults = []
  sees g s := g.passed = false ∧ g.clock ≤ s.clock ∧ ∀ v, (s.rowOf v).map TwoFA.id = ident v
  moves s s' g := g.after s s'
  keeps s s' g := AttemptStep ident g s s'

variable {ident} {g : Attempt} {s : TwoFAStore} {t t' : TwoFA}

@[simp] theorem after_self : g.after s s = ⟨s.clock, g.pending, g.passed⟩ := by simp [Attempt.after]

@[simp] theorem after_evaluated (valid locked : Bool) :
    g.after s (s.log (.evaluated t valid locked)) = ⟨s.clock, some t, valid⟩ := by
  simp [Attempt.after, log]

@[simp] theorem after_failed : g.after s ((s.saveRow t).log (.failed t')) = ⟨s.clock, none, g.passed⟩ := by
  simp [Attempt.after, log, saveRow]

theorem lockedAt_mono {now later : Int} (le : now ≤ later) (unlocked : t.lockedAt now = false) :
    t.lockedAt later = false := by
  unfold lockedAt at unlocked ⊢
  cases until_ : t.lockedUntil with
  | none => rfl
  | some time =>
    rw [until_] at unlocked
    simp only [any_some, decide_eq_false_iff_not] at unlocked ⊢
    omega

theorem timeNow_meets (Q : Int → Attempt → Prop)
    (holds : g.passed = false → ∀ now, g.clock ≤ now → Q now ⟨now, g.pending, false⟩) :
    timeNow.Meets (attemptSetting ident) g Q := by
  rintro s _ ⟨active, later, -⟩ rfl
  refine ⟨.quiet, ?_⟩
  have read := holds active s.clock later
  rw [← active] at read
  show Q s.clock (g.after s s)
  rw [after_self]
  exact read

theorem timeNow_passed (passed : g.passed = true) (Q : Int → Attempt → Prop) :
    timeNow.Meets (attemptSetting ident) g Q := by
  refine timeNow_meets Q fun active => ?_
  rw [passed] at active
  cases active

theorem isLocked_meets (idle : g.pending = none) : t.isLocked.Meets (attemptSetting ident) g fun locked g' =>
      g'.pending = none ∧ (locked = false → t.lockedAt g'.clock = false) := by
  unfold isLocked
  split
  · rename_i never
    have never : t.lockedUntil = none := by simpa using never
    exact ⟨idle, fun _ => by simp [lockedAt, never]⟩
  · refine .bind (timeNow_meets (fun now g' => g' = ⟨now, none, false⟩) ?_) ?_
    · intro _ now _
      rw [idle]
    · rintro now _ rfl
      exact ⟨rfl, fun unlocked => unlocked⟩

section
variable (known : Known ident t) (numbered : ∀ v, ident v ≠ some 0) (pending : g.pending = some t)
include known numbered pending

theorem update_meets (next : NextFailure t t') :
    (t'.update (some (.failed t'))).Meets (attemptSetting ident) g fun _ g' => g'.pending = none := by
  have valid : t'.id ≠ 0 := by
    rw [next.id]
    rintro zero
    exact numbered t.userId (by rw [← zero]; exact known)
  unfold TwoFA.update
  rw [if_neg valid]
  rintro s _ seen rfl
  refine ⟨.fail t t' pending known next, ?_⟩
  show (g.after s ((s.saveRow t').log (.failed t'))).pending = none
  rw [after_failed]

theorem incrementFailedAttempts_meets : t.incrementFailedAttempts.Meets (attemptSetting ident) g fun t' g' =>
      NextFailure t t' ∧ g'.pending = none := by
  unfold incrementFailedAttempts
  dsimp only
  split
  · refine .bind (timeNow_meets (fun now g' => g'.pending = some t) fun _ _ _ => pending) ?_
    intro now g' pending
    have next : NextFailure t { t.failedOnce with lockedUntil := some (now + lockoutDuration) } :=
      ⟨rfl, rfl, rfl, fun _ => rfl⟩
    refine .bind (update_meets known numbered pending next) fun _ g' saved => ?_
    exact ⟨next, saved⟩
  · rename_i below
    have next : NextFailure t t.failedOnce := ⟨rfl, rfl, rfl, fun reached => absurd reached below⟩
    refine .bind (update_meets known numbered pending next) fun _ g' saved => ?_
    exact ⟨next, saved⟩

end

theorem recordUsage_passed (passed : g.passed = true) (Q : TwoFA → Attempt → Prop) :
    t.recordUsage.Meets (attemptSetting ident) g Q :=
  .bind (timeNow_passed passed fun _ _ => False) fun _ _ never => never.elim

variable (lib : TwoFALibrary) (code : String)

theorem evaluateTOTP_meets (idle : g.pending = none) (unlocked : t.lockedAt g.clock = false) :
    (t.evaluateTOTP lib code).Meets (attemptSetting ident) g fun valid g' =>
      g'.pending = some t ∧ g'.passed = valid := by
  rintro s _ ⟨-, later, -⟩ rfl
  refine ⟨.evaluate t _ idle (lockedAt_mono later unlocked), ?_⟩
  show (g.after s (s.log (.evaluated t _ _))).pending = some t ∧ (g.after s (s.log _)).passed = _
  rw [after_evaluated]
  exact ⟨rfl, rfl⟩

/-- The copy an attempt goes on with, nothing being left to save. -/
def Settled (ident : Int → Option Int) (t : TwoFA) (g : Attempt) : Prop := Known ident t ∧ g.pending = none

theorem Settled.of_next (known : Known ident t) (next : NextFailure t t') (saved : g.pending = none) :
    Settled ident t' g := by
  refine ⟨?_, saved⟩
  unfold Known
  rw [next.userId, next.id]
  exact known

theorem validateTOTPAndUpdateUsage_meets (numbered : ∀ v, ident v ≠ some 0) (settled : Settled ident t g) :
    (t.validateTOTPAndUpdateUsage lib code).Meets (attemptSetting ident) g fun r g' =>
      Settled ident r.2 g' := by
  obtain ⟨known, idle⟩ := settled
  refine .bind (isLocked_meets idle) ?_
  rintro locked g₁ ⟨idle, unlocked⟩
  cases locked with
  | true => exact ⟨known, idle⟩
  | false =>
    rw [if_neg Bool.false_ne_true]
    refine .bind (evaluateTOTP_meets lib code idle (unlocked rfl)) ?_
    rintro valid g₂ ⟨pending, passed⟩
    cases valid with
    | true =>
      rw [if_pos rfl]
      exact .bind (recordUsage_passed passed fun _ _ => False) fun _ _ never => never.elim
    | false =>
      rw [if_neg Bool.false_ne_true]
      refine .bind (incrementFailedAttempts_meets known numbered pending) ?_
      rintro t' g₃ ⟨next, saved⟩
      exact .of_next known next saved

theorem useCode_passed (passed : g.passed = true) (bc : TwoFABackupCode) (Q : Except String Bool → Attempt → Prop) :
    (useCode bc).Meets (attemptSetting ident) g Q :=
  .bind (timeNow_passed passed fun _ _ => False) fun _ _ never => never.elim

theorem evaluateBackup_meets (idle : g.pending = none) (unlocked : t.lockedAt g.clock = false)
    (found : Option TwoFABackupCode) : (t.evaluateBackup found).Meets (attemptSetting ident) g fun _ g' =>
      g'.pending = some t ∧ g'.passed = found.isSome := by
  rintro s _ ⟨-, later, -⟩ rfl
  refine ⟨.evaluate t _ idle (lockedAt_mono later unlocked), ?_⟩
  show (g.after s (s.log (.evaluated t _ _))).pending = some t ∧ (g.after s (s.log _)).passed = _
  rw [after_evaluated]
  exact ⟨rfl, rfl⟩

/-- A malformed backup code is not evaluated; a wrong one leaves a failure to be saved. -/
def BackupVerdict (t : TwoFA) (g : Attempt) : Except String Bool → Prop
  | .error _ => g.pending = none
  | .ok valid => g.pending = some t ∧ valid = false

-- The format of the code plays no part here; elaboration would evaluate it.
attribute [local irreducible] validBackupFormat

theorem validateBackupCode_meets (idle : g.pending = none) (unlocked : t.lockedAt g.clock = false) :
    (t.validateBackupCode lib code).Meets (attemptSetting ident) g fun outcome g' =>
      BackupVerdict t g' outcome := by
  unfold validateBackupCode
  cases validBackupFormat code with
  | false => exact idle
  | true =>
    rw [Bool.not_true, if_neg Bool.false_ne_true]
    refine .bind (.store (Q := fun _ g' =>
      g'.pending = none ∧ t.lockedAt g'.clock = false) ?_) ?_
    · rintro s _ ⟨active, later, -⟩ rfl
      refine ⟨.quiet, ?_⟩
      show (g.after s s).pending = none ∧ t.lockedAt (g.after s s).clock = false
      rw [after_self]
      exact ⟨idle, lockedAt_mono later unlocked⟩
    · rintro outcome g₁ ⟨idle, unlocked⟩
      cases outcome with
      | error e => exact idle
      | ok backupCodes =>
        refine .bind (evaluateBackup_meets idle unlocked _) ?_
        rintro - g₂ ⟨pending, passed⟩
        split
        · exact ⟨pending, rfl⟩
        · rename_i bc found
          rw [found] at passed
          exact useCode_passed passed bc _

variable (numbered : ∀ v, ident v ≠ some 0)
include numbered

theorem validateBackupCodeAndUpdateUsage_meets (settled : Settled ident t g) :
    (t.validateBackupCodeAndUpdateUsage lib code).Meets (attemptSetting ident) g fun _ _ => True := by
  obtain ⟨known, idle⟩ := settled
  refine .bind (isLocked_meets idle) ?_
  rintro locked g₁ ⟨idle, unlocked⟩
  cases locked with
  | true => trivial
  | false =>
    rw [if_neg Bool.false_ne_true]
    refine .bind (validateBackupCode_meets lib code idle (unlocked rfl)) ?_
    rintro outcome g₂ verdict
    cases outcome with
    | error e => trivial
    | ok valid =>
      obtain ⟨pending, rfl⟩ := verdict
      exact .bind (incrementFailedAttempts_meets known numbered pending) fun _ _ _ => trivial

theorem tryTOTP_meets (settled : Settled ident t g) :
    (tryTOTP lib t code).Meets (attemptSetting ident) g fun r g' => Settled ident r.2 g' := by
  unfold tryTOTP
  cases validateNumericCode code with
  | error e => exact settled
  | ok cleanCode =>
    refine .bind (validateTOTPAndUpdateUsage_meets lib cleanCode numbered settled) ?_
    rintro ⟨outcome, t'⟩ g' settled
    exact settled

/-- **Every call of a login attempt is one of `AttemptStep`**, whatever the others do. -/
theorem verify2FALogin_meets (userId : Int) (idle : g.pending = none) :
    (verify2FALogin lib userId code).Meets (attemptSetting ident) g fun _ _ => True := by
  have found : (getTwoFAByUserId userId).Meets (attemptSetting ident) g fun outcome g' =>
      ∀ t, outcome = .ok (some t) → Settled ident t g' := by
    unfold getTwoFAByUserId
    split
    · rintro t ⟨⟩
    rintro s _ ⟨-, -, ids⟩ rfl
    refine ⟨.quiet, ?_⟩
    show ∀ t, (.ok (s.rowOf userId) : Except String _) = .ok (some t) → Settled ident t (g.after s s)
    rintro t held
    injection held with held
    rw [after_self]
    refine ⟨?_, idle⟩
    unfold Known
    rw [← ids, (mem_of_find held).2, held]
    rfl
  refine .bind found fun outcome g₁ known => ?_
  match outcome with
  | .error e | .ok none => trivial
  | .ok (some twoFA) =>
    dsimp only
    split
    · trivial
    refine .bind (tryTOTP_meets lib code numbered (known twoFA rfl)) ?_
    rintro ⟨isValidTOTP, t⟩ g₂ settled
    split
    · trivial
    · refine .bind (validateBackupCodeAndUpdateUsage_meets lib code numbered settled) fun r _ _ => ?_
      match r.1 with
      | .error e | .ok true | .ok false => trivial

end

/-! ## All attempts together -/

section
variable {ι : Type} [DecidableEq ι] {ident : Int → Option Int} {s : TwoFAStore}
  {unsaved : ι → Option TwoFA} {i : ι} {t t' : TwoFA}

section
variable (ids : (s.rows.map TwoFA.id).Nodup) (stored : s.rowOf t.userId = some t) (next : NextFailure t t')
include ids stored next

theorem saveRow_rows : (s.saveRow t').rows = Rows.put TwoFA.id t' s.rows := by
  refine save_of_found (r := t) ?_
  rw [next.id]
  exact find_of_mem ids (mem_of_find stored).1

/-- Saving a copy of the row of a user changes what is stored for that user only. -/
theorem rowOf_saveRow (userId : Int) :
    (s.saveRow t').rowOf userId = if userId = t.userId then some t' else s.rowOf userId := by
  have held : Rows.find TwoFA.userId t'.userId s.rows = some t := by
    rw [next.userId]
    exact stored
  rw [rowOf, saveRow_rows ids stored next, find_put_column ids held next.id.symm, next.userId]
  rfl

end

/-- What the attempts keep true of the table and of the history; `unsaved i` is the copy whose
failure attempt `i` has still to save. -/
structure LockoutKept (ident : Int → Option Int) (s : TwoFAStore) (unsaved : ι → Option TwoFA) : Prop where
  ids : (s.rows.map TwoFA.id).Nodup
  idents : ∀ v, (s.rowOf v).map TwoFA.id = ident v
  counted : ∀ v row, s.rowOf v = some row → 0 ≤ row.failedAttempts
  /-- the failure is counted on the row as it is stored, and is the only one to be saved -/
  current : ∀ i t, unsaved i = some t → s.rowOf t.userId = some t ∧
    evaluations t.userId s.history = failures t.userId s.history + 1
  alone : ∀ i j t t', unsaved i = some t → unsaved j = some t' → t.userId = t'.userId → i = j
  balance : ∀ v, evaluations v s.history ≤ failures v s.history + 1
  bound : ∀ v, sinceLock v s.history + failures v s.history ≤
    evaluations v s.history + spent (s.rowOf v)
  unlocked : ∀ row valid, .evaluated row valid true ∉ s.history

/-- A code is evaluated on the current row, with no failure to be saved. -/
theorem LockoutKept.evaluate (kept : LockoutKept ident s unsaved) (valid : Bool)
    (stored : s.rowOf t.userId = some t) (saved : evaluations t.userId s.history = failures t.userId s.history)
    (unlocked : t.lockedAt s.clock = false) : LockoutKept ident (s.log (.evaluated t valid (s.locked t.userId)))
      (update unsaved i (some t)) := by
  -- nobody else has a failure of this account to save
  have others : ∀ j t', unsaved j = some t' → t.userId ≠ t'.userId := by
    intro j t' pending same
    have owed := (kept.current j t' pending).2
    rw [← same] at owed
    omega
  constructor
  case ids => exact kept.ids
  case idents => exact kept.idents
  case counted => exact kept.counted
  case current =>
    intro j t' pending
    by_cases here : j = i
    · subst here
      obtain rfl : t = t' := by simpa using pending
      exact ⟨stored, by simp [saved]⟩
    · rw [update_of_ne here] at pending
      have other := others j t' pending
      simpa [other] using kept.current j t' pending
  case alone =>
    intro j k t₁ t₂ first second same
    by_cases left : j = i <;> by_cases right : k = i
    · rw [left, right]
    · subst left
      rw [update_of_ne right] at second
      obtain rfl : t = t₁ := by simpa using first
      exact absurd same (others k t₂ second)
    · subst right
      rw [update_of_ne left] at first
      obtain rfl : t = t₂ := by simpa using second
      exact absurd same.symm (others j t₁ first)
    · rw [update_of_ne left] at first
      rw [update_of_ne right] at second
      exact kept.alone j k t₁ t₂ first second same
  case balance =>
    intro v
    by_cases here : t.userId = v
    · subst here
      simp [saved]
    · simpa [here] using kept.balance v
  case bound =>
    intro v
    have before := kept.bound v
    by_cases here : t.userId = v
    · simp only [log_history, sinceLock_append, countSinceLock, here, if_true,
        failures_append, isFailure, evaluations_append, isEvaluation, decide_true, rowOf_log]
      simp only [Bool.false_eq_true, if_false]
      omega
    · simpa [here] using before
  case unlocked =>
    intro row valid' member
    have open_ : s.locked t.userId = false := by
      unfold locked
      rw [stored]
      exact unlocked
    rw [open_, log_history, List.mem_append] at member
    rcases member with before | this
    · exact kept.unlocked row valid' before
    · simp at this

/-- Below the maximum one more failure is counted; at the maximum the account is locked and
the count begins again. -/
theorem countSinceLock_next (counted : 0 ≤ t.failedAttempts) (next : NextFailure t t') {n : Nat}
    (most : n ≤ spent (some t) + 1) : countSinceLock t.userId n (.failed t') ≤ spent (some t') := by
  have more := next.failed
  simp only [countSinceLock, next.userId, true_and]
  by_cases reached : maxFailAttempts ≤ t'.failedAttempts
  · simp [locksAccount, reached, next.locks reached]
  have unlocked : locksAccount t' = false := by simp [locksAccount, reached]
  rw [unlocked, if_neg Bool.false_ne_true]
  simp only [spent, elim_some] at most ⊢
  rw [if_pos (by omega)]
  rw [if_pos (by omega)] at most
  omega

/-- The failure is saved. -/
theorem LockoutKept.fail (kept : LockoutKept ident s unsaved) (pending : unsaved i = some t)
    (known : Known ident t) (next : NextFailure t t') :
    LockoutKept ident ((s.saveRow t').log (.failed t')) (update unsaved i none) := by
  obtain ⟨stored, owed⟩ := kept.current i t pending
  have rows := rowOf_saveRow kept.ids stored next
  have others : ∀ j t₁, j ≠ i → unsaved j = some t₁ → t₁.userId ≠ t.userId := by
    intro j t₁ other here same
    exact other (kept.alone j i t₁ t here pending same)
  have waits {j : ι} {t₁ : TwoFA} (here : update unsaved i none j = some t₁) : j ≠ i ∧ unsaved j = some t₁ := by
    by_cases self : j = i
    · simp [self] at here
    · exact ⟨self, by rwa [update_of_ne self] at here⟩
  constructor
  case ids =>
    rw [log_rows, saveRow_rows kept.ids stored next, map_key_put]
    exact kept.ids
  case idents =>
    intro v
    rw [rowOf_log, rows]
    split
    · rename_i here
      rw [map_some, next.id, here]
      exact known.symm
    · exact kept.idents v
  case counted =>
    intro v row
    rw [rowOf_log, rows]
    split
    · rintro ⟨⟩
      have := kept.counted _ _ stored
      have := next.failed
      omega
    · exact kept.counted v row
  case current =>
    intro j t₁ here
    obtain ⟨self, here⟩ := waits here
    have other := others j t₁ self here
    have before := kept.current j t₁ here
    rw [rowOf_log, rows, if_neg other]
    simpa [next.userId, Ne.symm other] using before
  case alone =>
    intro j k t₁ t₂ first second same
    exact kept.alone j k t₁ t₂ (waits first).2 (waits second).2 same
  case balance =>
    intro v
    have before := kept.balance v
    simp [next.userId]
    omega
  case bound =>
    intro v
    have before := kept.bound v
    rw [rowOf_log, rows]
    by_cases here : v = t.userId
    · subst here
      rw [stored] at before
      have most : sinceLock t.userId s.history ≤ spent (some t) + 1 := by omega
      have counted := countSinceLock_next (kept.counted _ _ stored) next most
      rw [if_pos rfl, log_history, saveRow_history, sinceLock_append, failures_append, evaluations_append]
      simp only [isFailure, next.userId, decide_true, if_true]
      omega
    · simpa [here, next.userId, Ne.symm here] using before
  case unlocked =>
    intro row valid
    simpa using kept.unlocked row valid

/-- What the attempts keep true, of the store and of what each knows of itself. -/
structure AttemptsKept (ident : Int → Option Int) (s : TwoFAStore) (g : ι → Attempt) : Prop where
  store : LockoutKept ident s fun i => (g i).pending
  clocks : ∀ i, (g i).clock ≤ s.clock
  active : ∀ i, (g i).passed = false

variable {g : ι → Attempt} {s' : TwoFAStore}

theorem AttemptsKept.update {a : Attempt}
    (kept : AttemptsKept ident s g) (clock : s'.clock = s.clock) (seen : a.clock = s.clock) (active : a.passed = false)
    (store : LockoutKept ident s' (update (fun j => (g j).pending) i a.pending)) :
    AttemptsKept ident s' (update g i a) := by
  constructor
  case store =>
    convert store using 1
    funext j
    by_cases here : j = i
    · subst here
      simp
    · simp [here]
  case clocks =>
    intro j
    rw [clock]
    by_cases here : j = i
    · subst here
      rw [update_self, seen]
    · rw [update_of_ne here]
      exact kept.clocks j
  case active =>
    intro j
    by_cases here : j = i
    · subst here
      rw [update_self, active]
    · rw [update_of_ne here]
      exact kept.active j

/-- **A call of an attempt**, admitted by the rules. -/
theorem AttemptsKept.step (kept : AttemptsKept ident s g)
    (wrong : Wrong s s') (current : Current s s') (stepped : AttemptStep ident (g i) s s') :
    AttemptsKept ident s' (Function.update g i ((g i).after s s')) := by
  cases stepped with
  | quiet =>
    rw [after_self]
    refine kept.update rfl rfl (kept.active i) ?_
    rw [update_eq_self]
    exact kept.store
  | evaluate t valid idle unlocked =>
    obtain ⟨stored, saved⟩ := current t valid _ rfl
    rw [after_evaluated]
    exact kept.update rfl rfl (wrong t valid _ rfl) (kept.store.evaluate valid stored saved unlocked)
  | fail t t' pending known next =>
    rw [after_failed]
    exact kept.update rfl rfl (kept.active i) (kept.store.fail pending known next)

omit [DecidableEq ι] in
theorem attemptsKept_initial (table : TwoFATable s) :
    AttemptsKept (fun v => (s.rowOf v).map TwoFA.id) s fun _ : ι => ⟨s.clock, none, false⟩ := by
  refine ⟨?_, fun _ => le_refl _, fun _ => rfl⟩
  constructor
  case ids => exact table.ids
  case idents => exact fun _ => rfl
  case counted => exact fun v row found => table.counted row (mem_of_find found).1
  case current =>
    intro i t none_yet
    cases none_yet
  case alone =>
    intro i j t t' none_yet
    cases none_yet
  case balance => simp [table.fresh, evaluations]
  case bound => simp [table.fresh, sinceLock, failures]
  case unlocked => simp [table.fresh]

theorem spent_lt (row : Option TwoFA) : (spent row : Int) + 1 ≤ maxFailAttempts := by
  cases row with
  | none => decide
  | some row =>
    have five : maxFailAttempts = 5 := rfl
    simp only [spent, elim_some]
    by_cases below : row.failedAttempts < maxFailAttempts
    · rw [if_pos below]
      omega
    · rw [if_neg below]
      omega

variable (lib : TwoFALibrary) (user : ι → Int) (code : ι → String) (table : TwoFATable s)
  {c : Pool TwoFAStore (Except String Unit) ι}
include lib user code table

theorem attemptsKept_of_run (run : Run (lockoutRules Current)
      (initial s fun i => verify2FALogin lib (user i) (code i)) () c ()) :
    ∃ g : ι → Attempt, AttemptsKept (fun v => (s.rowOf v).map TwoFA.id) c.store g := by
  have numbered : ∀ v, (s.rowOf v).map TwoFA.id ≠ some 0 := by
    intro v zero
    obtain ⟨row, found, id⟩ := map_eq_some_iff.mp zero
    exact table.numbered row (mem_of_find found).1 id
  refine (Run.meets_beside (fun _ => attemptSetting fun v => (s.rowOf v).map TwoFA.id) (fun _ _ _ => True)
    (J := fun s _ g => AttemptsKept _ s g) (attemptsKept_initial table)
    (fun i => verify2FALogin_meets lib (code i) numbered (user i) rfl) ?_ ?_ ?_ ?_ run).imp fun _ kept => kept.1
  · exact fun i s _ g kept => ⟨kept.active i, kept.clocks i, kept.store.idents⟩
  · exact fun _ _ _ _ _ admitted _ => admitted.1
  · exact fun i faults s s' _ g kept admitted owed => kept.step admitted.2.1 admitted.2.2 owed
  · rintro s' _ _ g kept ⟨clock, later, rfl⟩
    exact ⟨{ kept.store with }, fun i => (kept.clocks i).trans later, kept.active⟩

/-- **If codes are evaluated on the current row only, at most the maximum number of wrong
codes is evaluated between two locks, and none while the account is locked**: for every table,
any number of attempts of any users with any wrong codes, in every state of every
interleaving. -/
theorem lockout_holds (run : Run (lockoutRules Current)
      (initial s fun i => verify2FALogin lib (user i) (code i)) () c ()) (userId : Int) :
    (sinceLock userId c.store.history : Int) ≤ maxFailAttempts ∧
      ∀ row valid, .evaluated row valid true ∉ c.store.history := by
  obtain ⟨g, kept, -⟩ := attemptsKept_of_run lib user code table run
  refine ⟨?_, kept.unlocked⟩
  have bound := kept.bound userId
  have balance := kept.balance userId
  have room := spent_lt (c.store.rowOf userId)
  omega

end

/-! ## Attempts on one account -/

def rejectingLibrary : TwoFALibrary where
  totpValidate _ _ _ := false
  passwordMatches _ _ := false
  formatTime _ := ""

def accountRow (failedAttempts : Int) : TwoFA where
  id := 1
  userId := 1
  secret := "SECRET"
  isEnabled := true
  failedAttempts := failedAttempts
  lockedUntil := none
  lastUsedAt := none

def accountStore (failedAttempts : Int) : TwoFAStore where
  rows := [accountRow failedAttempts]
  codes := []
  clock := 0
  history := []

/-- Any number of attempts with one wrong code. -/
def wrongAttempts (ι : Type) (failedAttempts : Int) : Pool TwoFAStore (Except String Unit) ι :=
  initial (accountStore failedAttempts) fun _ => verify2FALogin rejectingLibrary 1 "000000"

/-- The newest event satisfies `check`, if it is an evaluation. -/
def newest (check : TwoFA → Bool → Bool) (s s' : TwoFAStore) : Bool :=
  match s'.history.drop s.history.length with
  | [.evaluated row valid _] => check row valid
  | _ => true

variable {s' : TwoFAStore}

theorem newest_sound {check : TwoFA → Bool → Bool} {s : TwoFAStore}
    (checked : newest check s s' = true) (row : TwoFA) (valid locked : Bool)
    (logged : s'.history = s.history ++ [.evaluated row valid locked]) : check row valid = true := by
  unfold newest at checked
  rw [logged, List.drop_left] at checked
  exact checked

theorem wrong_of_newest {s : TwoFAStore} (checked : newest (fun _ valid => !valid) s s' = true) : Wrong s s' := by
  intro row valid locked logged
  simpa using newest_sound checked row valid locked logged

/-- Two attempts, one after the other: the first locks the account. -/
theorem lockout_holds_serial :
    ∃ c, Run (lockoutRules Current) (wrongAttempts Bool 4) () c () ∧ c.store.locked 1 = true ∧
      (sinceLock 1 c.store.history : Int) ≤ maxFailAttempts ∧
        ∀ row valid, .evaluated row valid true ∉ c.store.history := by
  have table : TwoFATable (accountStore 4) := ⟨by decide, by decide, by decide, by decide, rfl⟩
  let current (s : TwoFAStore) (row : TwoFA) (valid : Bool) : Bool :=
    !valid && (s.rowOf row.userId == some row && evaluations row.userId s.history == failures row.userId s.history)
  refine exists_unit_play (·.store.locked 1 = true) (fun _ s s' _ => newest (current s) s s') (by
      intro _ s s' _ checked
      refine ⟨rfl, fun row valid locked logged => ?_, fun row valid locked logged => ?_⟩
      · have passed := newest_sound checked row valid locked logged
        simp only [current, Bool.and_eq_true] at passed
        simpa using passed.1
      · have passed := newest_sound checked row valid locked logged
        simp only [current, Bool.and_eq_true, beq_iff_eq] at passed
        exact passed.2)
    [.main false, .main false, .main false, .main false, .main false, .main true, .main true]
    (by decide +kernel) ?_
  intro c run ended
  exact ⟨ended, lockout_holds rejectingLibrary _ _ table run 1⟩

/-- Six attempts read the row before any of them has saved it: six wrong codes are evaluated
and the account is open.  Two attempts read it before the fifth failure is saved: the
second code is evaluated while the account is locked. -/
theorem lockout_evaded : (∃ c, Run (lockoutRules fun _ _ => True) (wrongAttempts (Fin 6) 0) () c () ∧
      sinceLock 1 c.store.history = 6 ∧ c.store.locked 1 = false) ∧
    ∃ c, Run (lockoutRules fun _ _ => True) (wrongAttempts Bool 4) () c () ∧
      .evaluated (accountRow 4) false true ∈ c.store.history := by
  constructor
  · exact exists_unit_play _ (fun _ s s' _ => newest (fun _ valid => !valid) s s')
      (fun _ _ _ _ checked => ⟨rfl, wrong_of_newest checked, trivial⟩)
      ((List.finRange 6).map .main ++ (List.finRange 6).map .main ++ (List.finRange 6).map .main)
      (by decide +kernel) fun _ _ ended => ended
  · exact exists_unit_play _ (fun _ s s' _ => newest (fun _ valid => !valid) s s')
      (fun _ _ _ _ checked => ⟨rfl, wrong_of_newest checked, trivial⟩)
      [.main false, .main true, .main false, .main false, .main false, .main true]
      (by decide +kernel) fun _ _ ended => ended

end NewApi.Login
