/-
# Model.TwoFA — two-factor rows, backup codes and the login check

`model/twofa.go`, the format checks of `common/totp.go` and `Verify2FALogin` of `controller/twofa.go`
after the user was loaded.

The checks and the counting are done on a copy of the row, which the functions return, and `DB.Save`
writes it back.  `time.Now()` and evaluating a code are calls of their own.  Of `strings.ToUpper` only
what can become an ASCII letter matters: the ASCII letters and the two others whose upper case is one.
-/
import NewApi.Theory.Rows
import NewApi.Theory.Text
import NewApi.Theory.Program

namespace NewApi.Model
open Theory Program

structure TwoFA where
  id : Int
  userId : Int
  secret : String
  isEnabled : Bool
  failedAttempts : Int
  lockedUntil : Option Int
  lastUsedAt : Option Int
deriving DecidableEq

/-- Whether the row locks the account at a time. -/
def TwoFA.lockedAt (t : TwoFA) (now : Int) : Bool := t.lockedUntil.any (now < ·)

structure TwoFABackupCode where
  id : Int
  userId : Int
  codeHash : String
  isUsed : Bool
  usedAt : Option Int
deriving DecidableEq

/-- What the history variable records. -/
inductive TwoFAEvent where
  /-- a code was compared, by an attempt that holds `row`; `locked` says whether the account
  was locked in the table at that time -/
  | evaluated (row : TwoFA) (valid locked : Bool)
  /-- `row` was saved with one more failed attempt -/
  | failed (row : TwoFA)
  /-- a backup code was accepted -/
  | accepted (codeId : Int)
deriving DecidableEq

structure TwoFAStore where
  rows : List TwoFA
  codes : List TwoFABackupCode
  /-- `time.Now()`, in nanoseconds -/
  clock : Int
  history : List TwoFAEvent

namespace TwoFAStore

variable (s : TwoFAStore)

def log (event : TwoFAEvent) : TwoFAStore := { s with history := s.history ++ [event] }

def rowOf (userId : Int) : Option TwoFA := Rows.find TwoFA.userId userId s.rows

/-- The account is locked in the table. -/
def locked (userId : Int) : Bool := (s.rowOf userId).any (·.lockedAt s.clock)

/-- `DB.Save` of a whole row. -/
def saveRow (row : TwoFA) : TwoFAStore := { s with rows := Rows.save TwoFA.id row s.rows }

def saveCode (code : TwoFABackupCode) : TwoFAStore :=
  { s with codes := Rows.save TwoFABackupCode.id code s.codes }

def unusedCodes (userId : Int) : List TwoFABackupCode :=
  s.codes.filter fun code => code.userId = userId ∧ code.isUsed = false

variable (s : TwoFAStore) (event : TwoFAEvent) (row : TwoFA) (userId : Int)

@[simp] theorem log_history : (s.log event).history = s.history ++ [event] := rfl

@[simp] theorem log_rows : (s.log event).rows = s.rows := rfl

@[simp] theorem rowOf_log : (s.log event).rowOf userId = s.rowOf userId := rfl

@[simp] theorem saveRow_history : (s.saveRow row).history = s.history := rfl

end TwoFAStore

/-- What the code calls outside the repository. -/
structure TwoFALibrary where
  /-- `totp.Validate` at a time -/
  totpValidate : String → String → Int → Bool
  /-- `ValidatePasswordAndHash` -/
  passwordMatches : String → String → Bool
  /-- a time as it is shown -/
  formatTime : Int → String

def maxFailAttempts : Int := 5

/-- `LockoutDuration` in nanoseconds. -/
def lockoutDuration : Int := 300 * 1000000000

def backupCodeLength : Nat := 8

/-! ## Formats -/

def without (c : Char) (s : String) : String := String.ofList (s.toList.filter (· ≠ c))

def upperRune (c : Char) : Char := if c = 'ı' then 'I' else if c = 'ſ' then 'S' else c.toUpper

def toUpper (s : String) : String := String.ofList (s.toList.map upperRune)

/-- `ValidateNumericCode`; `len` counts bytes. -/
def validateNumericCode (code : String) : Except String String :=
  let code := without ' ' code
  if code.utf8ByteSize ≠ 6 then .error "验证码必须是6位数字"
  else if (Text.atoi code).isNone then .error "验证码只能包含数字"
  else .ok code

def validBackupFormat (code : String) : Bool :=
  let cleanCode := toUpper (without '-' code)
  cleanCode.utf8ByteSize = backupCodeLength ∧
    cleanCode.toList.all fun char => ('A' ≤ char ∧ char ≤ 'Z') ∨ ('0' ≤ char ∧ char ≤ '9')

def normalizeBackupCode (code : String) : String :=
  let cleanCode := toUpper (without '-' code)
  if cleanCode.utf8ByteSize = backupCodeLength then
    String.ofList (cleanCode.toList.take 4) ++ "-" ++ String.ofList (cleanCode.toList.drop 4)
  else code

def validateTOTPCode (lib : TwoFALibrary) (secret code : String) (now : Int) : Bool :=
  let cleanCode := without ' ' code
  cleanCode.utf8ByteSize = 6 && lib.totpValidate cleanCode secret now

/-! ## The row in hand -/

variable (lib : TwoFALibrary)

def timeNow : Program TwoFAStore Int := do
  match ← store (Sql.peek (·.clock)) with
  | .ok now => .done now
  | .error _ => .done 0

namespace TwoFA

variable (t : TwoFA)

/-- `Update`, recorded as `event` when there is one. -/
def update (event : Option TwoFAEvent) : Program TwoFAStore (Except String Unit) :=
  if t.id = 0 then .done (.error "2FA记录ID不能为空")
  else store (Sql.autocommit fun s => event.elim (s.saveRow t) (s.saveRow t).log)

def isLocked : Program TwoFAStore Bool :=
  if t.lockedUntil.isNone then .done false
  else do
    let now ← timeNow
    .done (t.lockedAt now)

/-- The copy with one more failed attempt. -/
def failedOnce : TwoFA := { t with failedAttempts := t.failedAttempts + 1 }

/-- An error is only logged by the callers. -/
def incrementFailedAttempts : Program TwoFAStore TwoFA := do
  let t := t.failedOnce
  if t.failedAttempts ≥ maxFailAttempts then
    let now ← timeNow
    let t := { t with lockedUntil := some (now + lockoutDuration) }
    let _ ← t.update (some (.failed t))
    .done t
  else
    let _ ← t.update (some (.failed t))
    .done t

/-- After a code was right; an error is only logged. -/
def recordUsage : Program TwoFAStore TwoFA := do
  let now ← timeNow
  let t := { t with failedAttempts := 0, lockedUntil := none, lastUsedAt := some now }
  let _ ← t.update none
  .done t

def lockedMessage : String := "账户已被锁定，请在" ++ (t.lockedUntil.map lib.formatTime).getD "" ++ "后重试"

/-- The code is compared at the time of the call. -/
def evaluateTOTP (t : TwoFA) (code : String) : Program TwoFAStore Bool := do
  match ← store (Sql.exchange fun s =>
      let valid := validateTOTPCode lib t.secret code s.clock
      (valid, s.log (.evaluated t valid (s.locked t.userId)))) with
  | .ok valid => .done valid
  | .error _ => .done false

def validateTOTPAndUpdateUsage (t : TwoFA) (code : String) : Program TwoFAStore (Except String Bool × TwoFA) := do
  if ← t.isLocked then .done (.error (t.lockedMessage lib), t)
  else if ← t.evaluateTOTP lib code then
    let t ← t.recordUsage
    .done (.ok true, t)
  else
    let t ← t.incrementFailedAttempts
    .done (.ok false, t)

/-- The comparison with the unused codes. -/
def evaluateBackup (t : TwoFA) (found : Option TwoFABackupCode) : Program TwoFAStore Unit := do
  let _ ← store (Sql.memory fun s : TwoFAStore =>
    s.log (.evaluated t found.isSome (s.locked t.userId)))
  .done ()

def useCode (bc : TwoFABackupCode) : Program TwoFAStore (Except String Bool) := do
  let now ← timeNow
  let bc := { bc with isUsed := true, usedAt := some now }
  match ← store (Sql.autocommit fun s => (s.saveCode bc).log (.accepted bc.id)) with
  | .error e => .done (.error e)
  | .ok () => .done (.ok true)

def validateBackupCode (t : TwoFA) (code : String) : Program TwoFAStore (Except String Bool) :=
  if !validBackupFormat code then .done (.error "验证码或备用码不正确")
  else do
    match ← store (Sql.read fun s => .ok (s.unusedCodes t.userId)) with
    | .error e => .done (.error e)
    | .ok backupCodes => do
        let found := backupCodes.find? fun bc => lib.passwordMatches (normalizeBackupCode code) bc.codeHash
        t.evaluateBackup found
        match found with
        | none => .done (.ok false)
        | some bc => useCode bc

def validateBackupCodeAndUpdateUsage (t : TwoFA) (code : String) : Program TwoFAStore (Except String Bool × TwoFA) := do
  if ← t.isLocked then .done (.error (t.lockedMessage lib), t)
  else
    match ← t.validateBackupCode lib code with
    | .error e => .done (.error e, t)
    | .ok false => do
        let t ← t.incrementFailedAttempts
        .done (.ok false, t)
    | .ok true => do
        let t ← t.recordUsage
        .done (.ok true, t)

end TwoFA

/-- `GetTwoFAByUserId`; no row is no error. -/
def getTwoFAByUserId (userId : Int) : Program TwoFAStore (Except String (Option TwoFA)) :=
  if userId = 0 then .done (.error "用户ID不能为空")
  else store (Sql.read fun s => .ok (s.rowOf userId))

/-- The first half of the check: a six-digit code is tried as a TOTP code. -/
def tryTOTP (t : TwoFA) (code : String) : Program TwoFAStore (Bool × TwoFA) :=
  match validateNumericCode code with
  | .error _ => .done (false, t)
  | .ok cleanCode => do
      let (outcome, t) ← t.validateTOTPAndUpdateUsage lib cleanCode
      .done (outcome.toOption.getD false, t)

def verify2FALogin (userId : Int) (code : String) : Program TwoFAStore (Except String Unit) := do
  match ← getTwoFAByUserId userId with
  | .error e => .done (.error e)
  | .ok none => .done (.error "用户未启用2FA")
  | .ok (some twoFA) =>
    if !twoFA.isEnabled then .done (.error "用户未启用2FA")
    else do
      let (isValidTOTP, twoFA) ← tryTOTP lib twoFA code
      if isValidTOTP then .done (.ok ())
      else do
        match (← twoFA.validateBackupCodeAndUpdateUsage lib code).1 with
        | .error e => .done (.error e)
        | .ok true => .done (.ok ())
        | .ok false => .done (.error "验证码或备用码错误，请重试")

end NewApi.Model
