/-
# Theory.Sql — statements, transactions and store failures

`Sql S α` is a piece of handler code over a store of type `S`: single statements, some of them grouped
into a transaction.

* A statement may fail.  The failures are an input (`Faults`), one entry for each statement in the order
  they run, so a theorem over every `Faults` covers every pattern of failures.
* A transaction keeps its writes aside (`Conn.writes`) and applies them when it commits; its reads see
  the committed store with these writes applied (`Conn.view`).  A transaction opened on the *global*
  connection inside another one commits on its own.

`Local` code never commits by itself, and `Strict` code never recovers from a failed statement.  A
transaction of such code fails and leaves the store alone, or does what it does when nothing fails
(`exec_transaction`).
-/
import Mathlib.Logic.Function.Basic

namespace NewApi.Theory

/-- The failures of the coming statements: `some e` fails the statement with error
`e`, `none` lets it run.  A plan that has run out fails nothing. -/
abbrev Faults := List (Option String)

/-- A connection: the committed store, the writes of the open transaction, and the
failures still to come. -/
structure Conn (S : Type) where
  db : S
  writes : S → S
  faults : Faults

/-- What a statement of the open transaction reads. -/
def Conn.view {S : Type} (c : Conn S) : S := c.writes c.db

/-- Handler code against a store `S`. -/
def Sql (S α : Type) : Type := Conn S → Except String α × Conn S

namespace Sql

variable {S α β : Type}

instance : Monad (Sql S) where
  pure a := fun c => (.ok a, c)
  bind x f := fun c =>
    match x c with
    | (.ok a, c') => f a c'
    | (.error e, c') => (.error e, c')

def throw (e : String) : Sql S α := fun c => (.error e, c)

/-- One statement: it meets the next planned failure, or runs. -/
def statement (body : Conn S → Except String α × Conn S) : Sql S α := fun c =>
  match c.faults with
  | [] => body c
  | none :: rest => body { c with faults := rest }
  | some e :: rest => (.error e, { c with faults := rest })

variable (query : S → Except String α)

def read : Sql S α := statement fun c => (query c.view, c)

variable (conflict : S → Option String) (change : S → S)

/-- An insert of the open transaction; `conflict` is the constraint the database
itself enforces on it. -/
def insert (conflict : S → Option String) (change : S → S) : Sql S Unit :=
  statement fun c =>
    match conflict c.view with
    | none => (.ok (), { c with writes := change ∘ c.writes })
    | some e => (.error e, c)

variable (change : S → S)

/-- An update of the open transaction. -/
def write : Sql S Unit := insert (fun _ => none) change

/-- An update outside any transaction. -/
def autocommit : Sql S Unit := statement fun c => (.ok (), { c with db := change c.db })

/-- An update outside any transaction that reports what it did (`RowsAffected`). -/
def affect (change : S → α × S) : Sql S α :=
  statement fun c => (.ok (change c.db).1, { c with db := (change c.db).2 })

/-- Process memory: it neither fails nor belongs to a transaction. -/
def memory : Sql S Unit := fun c => (.ok (), { c with db := change c.db })

/-- A change of process memory that reports what it found. -/
def exchange (change : S → α × S) : Sql S α := fun c =>
  (.ok (change c.db).1, { c with db := (change c.db).2 })

variable (look : S → α)

/-- A look at memory (a cache): it cannot fail. -/
def peek : Sql S α := fun c => (.ok (look c.view), c)

/-- Go on with the outcome of `x`, error or not. -/
def attempt (x : Sql S α) : Sql S (Except String α) := fun c =>
  let outcome := x c
  (.ok outcome.1, outcome.2)

def failWith (e : String) (x : Sql S α) : Sql S α := fun c =>
  match x c with
  | (.ok a, c') => (.ok a, c')
  | (.error _, c') => (.error e, c')

/-- The commit of a transaction opened over the writes `outer`. -/
def commit (outer : S → S) (a : α) : Sql S α := fun c =>
  let closed : Conn S := { c with writes := outer }
  match c.faults with
  | [] => (.ok a, { closed with db := c.view })
  | none :: rest => (.ok a, { closed with db := c.view, faults := rest })
  | some e :: rest => (.error e, { closed with faults := rest })

/-- A transaction on the global connection. -/
def transaction (body : Sql S α) : Sql S α := fun c =>
  match body { c with writes := id } with
  | (.ok a, c') => commit c.writes a c'
  | (.error e, c') => (.error e, { c' with writes := c.writes })

/-- Code of its own connection on a part of a larger store. -/
def zoom {T : Type} (get : T → S) (set : S → T → T) (x : Sql S α) : Sql T α := fun c =>
  let outcome := x ⟨get c.db, id, c.faults⟩
  (outcome.1, { c with db := set outcome.2.db c.db, faults := outcome.2.faults })

/-- `x`, met by no failure. -/
def sheltered (x : Sql S α) : Sql S α := fun c =>
  let outcome := x { c with faults := [] }
  (outcome.1, { outcome.2 with faults := c.faults })

/-- Run against a committed store. -/
def exec (x : Sql S α) (s : S) (faults : Faults) : Except String α × S :=
  let outcome := x ⟨s, id, faults⟩
  (outcome.1, outcome.2.db)

@[simp] theorem pure_apply (a : α) (c : Conn S) : (pure a : Sql S α) c = (.ok a, c) := rfl

theorem bind_apply (x : Sql S α) (f : α → Sql S β) (c : Conn S) : (x >>= f) c = match x c with
      | (.ok a, c') => f a c'
      | (.error e, c') => (.error e, c') := rfl

@[simp] theorem throw_apply (e : String) (c : Conn S) : (throw e : Sql S α) c = (.error e, c) := rfl

variable {x body : Sql S α} {f : α → Sql S β} {c c' : Conn S} {a : α} {e : String} {s db : S}
  {w : S → S}

theorem bind_ok (ran : x c = (.ok a, c')) : (x >>= f) c = f a c' := by
  rw [bind_apply, ran]

theorem bind_error (ran : x c = (.error e, c')) : (x >>= f) c = (.error e, c') := by
  rw [bind_apply, ran]

variable {outcome : Except String α} {p : Prop} {y : Sql S α} {outer : S → S}

theorem attempt_apply (ran : x c = (outcome, c')) : attempt x c = (.ok outcome, c') := by
  simp only [attempt, ran]

@[simp] theorem view_fresh (s : S) (faults : Faults) : (⟨s, id, faults⟩ : Conn S).view = s := rfl

theorem read_keeps (c : Conn S) : (read query c).2 = { c with faults := (read query c).2.faults } := by
  unfold read statement
  split <;> rfl

/-! ## Statements that meet no failure -/

@[simp] theorem statement_nil (body : Conn S → Except String α × Conn S) (s : S) (w : S → S) :
    statement body ⟨s, w, []⟩ = body ⟨s, w, []⟩ := rfl

@[simp] theorem read_nil (s : S) (w : S → S) : read query ⟨s, w, []⟩ = (query (w s), ⟨s, w, []⟩) := rfl

@[simp] theorem write_nil (s : S) (w : S → S) : write change ⟨s, w, []⟩ = (.ok (), ⟨s, change ∘ w, []⟩) := rfl

@[simp] theorem autocommit_nil (s : S) (w : S → S) : autocommit change ⟨s, w, []⟩ = (.ok (), ⟨change s, w, []⟩) := rfl

@[simp] theorem memory_apply (c : Conn S) : memory change c = (.ok (), { c with db := change c.db }) := rfl

@[simp] theorem peek_apply (c : Conn S) : peek look c = (.ok (look c.view), c) := rfl

/-! ## Single statements against a committed store -/

theorem exec_statement (body : Conn S → Except String α × Conn S) (s : S) (faults : Faults) :
    (∃ e, (statement body).exec s faults = (.error e, s)) ∨ ∃ rest, (statement body).exec s faults =
        ((body ⟨s, id, rest⟩).1, (body ⟨s, id, rest⟩).2.db) := by
  match faults with
  | [] => exact .inr ⟨[], rfl⟩
  | none :: rest => exact .inr ⟨rest, rfl⟩
  | some e :: rest => exact .inl ⟨e, rfl⟩

theorem exec_read (s : S) (faults : Faults) :
    (∃ e, (read query).exec s faults = (.error e, s)) ∨ (read query).exec s faults = (query s, s) :=
  (exec_statement _ s faults).imp_right fun ⟨_, ran⟩ => ran

@[simp] theorem exec_read_snd (s : S) (faults : Faults) : ((read query).exec s faults).2 = s := by
  rcases exec_read query s faults with ⟨e, failed⟩ | ran
  · rw [failed]
  · rw [ran]

theorem exec_autocommit (s : S) (faults : Faults) :
    (∃ e, (autocommit change).exec s faults = (.error e, s)) ∨ (autocommit change).exec s faults = (.ok (), change s) :=
  (exec_statement _ s faults).imp_right fun ⟨_, ran⟩ => ran

theorem exec_affect (change : S → α × S) (s : S) (faults : Faults) :
    (∃ e, (affect change).exec s faults = (.error e, s)) ∨
      (affect change).exec s faults = (.ok (change s).1, (change s).2) :=
  (exec_statement _ s faults).imp_right fun ⟨_, ran⟩ => ran

theorem exec_zoom {T : Type} (get : T → S) (set : S → T → T) (x : Sql S α) (t : T) (faults : Faults) :
    (zoom get set x).exec t faults = ((x.exec (get t) faults).1, set (x.exec (get t) faults).2 t) :=
  rfl

theorem exec_failWith (e : String) (x : Sql S α) (s : S) (faults : Faults) : (failWith e x).exec s faults =
      ((x.exec s faults).1.mapError fun _ => e, (x.exec s faults).2) := by
  unfold exec failWith
  rcases x ⟨s, id, faults⟩ with ⟨outcome, c⟩
  cases outcome <;> rfl

theorem ok_of_bind {b : β} (ran : (x >>= f) c = (.ok b, c')) : ∃ a m, x c = (.ok a, m) ∧ f a m = (.ok b, c') := by
  rcases first : x c with ⟨outcome, m⟩
  cases outcome with
  | ok a => exact ⟨a, m, rfl, by rwa [bind_ok first] at ran⟩
  | error e => rw [bind_error first] at ran; cases ran

theorem ok_of_read {query : S → Except String α}
    (ran : read query ⟨s, w, []⟩ = (.ok a, c)) : query (w s) = .ok a ∧ c = ⟨s, w, []⟩ := by
  rw [read_nil, Prod.mk.injEq] at ran
  exact ⟨ran.1, ran.2.symm⟩

theorem ok_of_failWith (ran : failWith e x c = (.ok a, c')) : x c = (.ok a, c') := by
  unfold failWith at ran
  rcases inner : x c with ⟨outcome, m⟩
  simp only [inner] at ran
  cases outcome with
  | ok b => exact ran
  | error e' => cases ran

theorem ok_of_insert {conflict : S → Option String} {change : S → S}
    (ran : insert conflict change ⟨s, w, []⟩ = (.ok (), c)) : conflict (w s) = none ∧ c = ⟨s, change ∘ w, []⟩ := by
  simp only [insert, statement_nil, Conn.view] at ran
  cases clash : conflict (w s) with
  | none => rw [clash] at ran; cases ran; exact ⟨rfl, rfl⟩
  | some e => rw [clash] at ran; cases ran

/-! ## Code that stays inside its transaction -/

/-- `x` commits nothing by itself. -/
def Local (x : Sql S α) : Prop := ∀ c, (x c).2.db = c.db

/-- A success of `x` met no failure, so it is the success of the failure-free run. -/
def Strict (x : Sql S α) : Prop :=
  ∀ c a c', x c = (.ok a, c') → x { c with faults := [] } = (.ok a, { c' with faults := [] })

theorem local_pure (a : α) : Local (pure a : Sql S α) := fun _ => rfl

theorem local_throw (e : String) : Local (throw e : Sql S α) := fun _ => rfl

theorem local_bind (first : Local x) (rest : ∀ a, Local (f a)) : Local (x >>= f) := by
  intro c
  have kept := first c
  rcases ran : x c with ⟨outcome, c'⟩
  rw [ran] at kept
  cases outcome with
  | ok a => rw [bind_ok ran, rest a c', kept]
  | error e => rw [bind_error ran, kept]

theorem local_statement {body : Conn S → Except String α × Conn S}
    (kept : ∀ c, (body c).2.db = c.db) : Local (statement body) := by
  intro c
  unfold statement
  split
  · exact kept c
  · exact kept _
  · rfl

theorem local_read : Local (read query) := local_statement fun _ => rfl

theorem local_peek : Local (peek look) := fun _ => rfl

theorem local_insert : Local (insert conflict change) := by
  refine local_statement fun c => ?_
  split <;> rfl

theorem local_write : Local (write change) := local_insert _ change

theorem local_attempt (inner : Local x) : Local (attempt x) := fun c => inner c

theorem local_failWith (e : String) (inner : Local x) : Local (failWith e x) := by
  intro c
  have kept := inner c
  unfold failWith
  rcases ran : x c with ⟨outcome, c'⟩
  rw [ran] at kept
  cases outcome <;> exact kept

theorem local_ite [Decidable p] (yes : p → Local x) (no : ¬p → Local y) : Local (if p then x else y) := by
  split
  · exact yes ‹_›
  · exact no ‹_›

theorem strict_pure (a : α) : Strict (pure a : Sql S α) := by
  intro c a' c' ran
  cases ran
  rfl

theorem strict_throw (e : String) : Strict (throw e : Sql S α) := by
  intro c a c' ran
  cases ran

theorem strict_bind (first : Strict x) (rest : ∀ a, Strict (f a)) : Strict (x >>= f) := by
  intro c b c' ran
  rcases middle : x c with ⟨outcome, m⟩
  cases outcome with
  | ok a =>
    rw [bind_ok middle] at ran
    rw [bind_ok (first c a m middle)]
    exact rest a m b c' ran
  | error e => rw [bind_error middle] at ran; cases ran

theorem strict_statement {body : Conn S → Except String α × Conn S} (steady : ∀ c a c', body c = (.ok a, c') →
      body { c with faults := [] } = (.ok a, { c' with faults := [] })) :
    Strict (statement body) := by
  intro c a c' ran
  unfold statement at ran
  split at ran
  · exact steady c a c' ran
  · rename_i rest _
    exact steady { c with faults := rest } a c' ran
  · cases ran

theorem strict_read : Strict (read query) := by
  refine strict_statement fun c a c' ran => ?_
  simp only [Prod.mk.injEq] at ran
  obtain ⟨answer, rfl⟩ := ran
  exact Prod.ext answer rfl

theorem strict_peek : Strict (peek look) := by
  intro c a c' ran
  cases ran
  rfl

theorem strict_insert : Strict (insert conflict change) := by
  refine strict_statement fun c a c' ran => ?_
  rcases c with ⟨db, w, faults⟩
  simp only [Conn.view] at ran ⊢
  cases clash : conflict (w db) with
  | none => rw [clash] at ran; cases ran; rfl
  | some e => rw [clash] at ran; cases ran

theorem strict_failWith (e : String) (inner : Strict x) : Strict (failWith e x) := by
  intro c a c' ran
  unfold failWith at ran ⊢
  rcases inner_ran : x c with ⟨outcome, m⟩
  simp only [inner_ran] at ran
  cases outcome with
  | ok b => cases ran; rw [inner c a c' inner_ran]
  | error e' => cases ran

/-- Code that is atomic as the body of a transaction. -/
structure Atomic (x : Sql S α) : Prop where
  inside : Local x
  strict : Strict x

@[simp] theorem atomic_pure (a : α) : Atomic (pure a : Sql S α) := ⟨local_pure a, strict_pure a⟩

@[simp] theorem atomic_throw (e : String) : Atomic (throw e : Sql S α) := ⟨local_throw e, strict_throw e⟩

@[simp] theorem atomic_bind (first : Atomic x) (rest : ∀ a, Atomic (f a)) : Atomic (x >>= f) :=
  ⟨local_bind first.inside fun a => (rest a).inside, strict_bind first.strict fun a => (rest a).strict⟩

@[simp] theorem atomic_read : Atomic (read query) :=
  ⟨local_read query, strict_read query⟩

@[simp] theorem atomic_peek : Atomic (peek look) := ⟨local_peek look, strict_peek look⟩

@[simp] theorem atomic_insert :
    Atomic (insert conflict change) := ⟨local_insert conflict change, strict_insert conflict change⟩

@[simp] theorem atomic_write : Atomic (write change) := atomic_insert _ change

@[simp] theorem atomic_failWith (e : String) (inner : Atomic x) :
    Atomic (failWith e x) := ⟨local_failWith e inner.inside, strict_failWith e inner.strict⟩

@[simp] theorem atomic_ite [Decidable p] : Atomic (if p then x else y) ↔ (p → Atomic x) ∧ (¬p → Atomic y) := by
  split <;> simp_all

/-! ## Code that leaves a part of the store alone -/

section
variable {κ : Type} {part : S → κ}

/-- Neither what `x` commits nor what it has written in its transaction touches `part`. -/
def Leaves (part : S → κ) (x : Sql S α) : Prop :=
  ∀ c, (∀ s, part (c.writes s) = part s) →
    part (x c).2.db = part c.db ∧ ∀ s, part ((x c).2.writes s) = part s

variable {x : Sql S α}

theorem Leaves.exec (leaves : Leaves part x) (s : S) (faults : Faults) :
    part (x.exec s faults).2 = part s := (leaves ⟨s, id, faults⟩ fun _ => rfl).1

theorem leaves_pure (a : α) : Leaves part (pure a : Sql S α) := fun _ same => ⟨rfl, same⟩

theorem leaves_throw (e : String) : Leaves part (throw e : Sql S α) := fun _ same => ⟨rfl, same⟩

theorem leaves_bind (first : Leaves part x) (rest : ∀ a, Leaves part (f a)) : Leaves part (x >>= f) := by
  intro c same
  have kept := first c same
  rcases ran : x c with ⟨outcome, c'⟩
  rw [ran] at kept
  cases outcome with
  | ok a =>
    rw [bind_ok ran]
    have after := rest a c' kept.2
    exact ⟨after.1.trans kept.1, after.2⟩
  | error e =>
    rw [bind_error ran]
    exact kept

theorem leaves_statement {body : Conn S → Except String α × Conn S} (kept : Leaves part body) :
    Leaves part (statement body) := by
  intro c same
  unfold statement
  split
  · exact kept c same
  · exact kept { c with faults := _ } same
  · exact ⟨rfl, same⟩

theorem leaves_read (query : S → Except String α) : Leaves part (read query) :=
  leaves_statement fun _ same => ⟨rfl, same⟩

theorem leaves_peek (look : S → α) : Leaves part (peek look) := fun _ same => ⟨rfl, same⟩

variable {change : S → S}

theorem leaves_insert (conflict : S → Option String)
    (kept : ∀ s, part (change s) = part s) : Leaves part (insert conflict change) := by
  refine leaves_statement fun c same => ?_
  split
  · exact ⟨rfl, fun s => (kept _).trans (same s)⟩
  · exact ⟨rfl, same⟩

theorem leaves_write (kept : ∀ s, part (change s) = part s) : Leaves part (write change) := leaves_insert _ kept

theorem leaves_attempt (inner : Leaves part x) : Leaves part (attempt x) :=
  fun c same => inner c same

theorem leaves_failWith (e : String) (inner : Leaves part x) : Leaves part (failWith e x) := by
  intro c same
  have kept := inner c same
  unfold failWith
  rcases ran : x c with ⟨outcome, c'⟩
  rw [ran] at kept
  cases outcome <;> exact kept

theorem leaves_ite {p : Prop} [Decidable p] {y : Sql S α} (yes : p → Leaves part x)
    (no : ¬p → Leaves part y) : Leaves part (if p then x else y) := by
  split
  · exact yes ‹_›
  · exact no ‹_›

theorem leaves_transaction (inner : Leaves part body) : Leaves part (transaction body) := by
  intro c same
  have kept := inner { c with writes := id } fun _ => rfl
  unfold transaction
  rcases ran : body { c with writes := id } with ⟨outcome, c'⟩
  rw [ran] at kept
  cases outcome with
  | error e => exact ⟨kept.1, same⟩
  | ok a =>
    have seen : part c'.view = part c.db := (kept.2 c'.db).trans kept.1
    simp only [commit]
    split
    · exact ⟨seen, same⟩
    · exact ⟨seen, same⟩
    · exact ⟨kept.1, same⟩

end

/-! ## Transactions -/

/-- A transaction that reports an error has changed nothing. -/
theorem exec_transaction_error (inner : Local body) {s' : S} {faults : Faults}
    (ran : exec (transaction body) s faults = (.error e, s')) : s' = s := by
  have kept := inner ⟨s, id, faults⟩
  unfold exec transaction at ran
  rcases body_ran : body ⟨s, id, faults⟩ with ⟨outcome, c⟩
  rw [body_ran] at kept
  simp only [body_ran] at ran
  cases outcome with
  | error e' => cases ran; exact kept
  | ok a =>
    simp only [commit] at ran
    split at ran <;> cases ran
    exact kept

/-- Without failures a transaction applies its writes, also inside another one. -/
theorem transaction_nil_ok (ran : body ⟨s, id, []⟩ = (.ok a, ⟨db, w, []⟩)) :
    transaction body ⟨s, outer, []⟩ = (.ok a, ⟨w db, outer, []⟩) := by
  simp only [transaction, ran]
  rfl

theorem transaction_nil_error (ran : body ⟨s, id, []⟩ = (.error e, ⟨db, w, []⟩)) :
    transaction body ⟨s, outer, []⟩ = (.error e, ⟨db, outer, []⟩) := by
  simp only [transaction, ran]

theorem exec_transaction_nil (ran : body ⟨s, id, []⟩ = (outcome, ⟨db, w, []⟩)) : exec (transaction body) s [] =
      (outcome, match outcome with | .ok _ => w db | .error _ => db) := by
  unfold exec
  cases outcome with
  | ok a => rw [transaction_nil_ok ran]
  | error e => rw [transaction_nil_error ran]

/-- **A transaction is atomic under every failure pattern.** -/
theorem exec_transaction (atomic : Atomic body) (s : S) (faults : Faults) :
    (∃ e, exec (transaction body) s faults = (.error e, s)) ∨
      exec (transaction body) s faults = exec (transaction body) s [] := by
  rcases ran : exec (transaction body) s faults with ⟨outcome, s'⟩
  cases outcome with
  | error e => exact .inl ⟨e, by rw [exec_transaction_error atomic.inside ran]⟩
  | ok a =>
    refine .inr ?_
    unfold exec transaction at ran ⊢
    rcases body_ran : body ⟨s, id, faults⟩ with ⟨outcome, c⟩
    simp only [body_ran] at ran
    cases outcome with
    | error e => cases ran
    | ok b =>
      have clean := atomic.strict _ _ _ body_ran
      simp only [clean, commit] at ran ⊢
      split at ran <;> cases ran <;> rfl

/-- The same, as what remains to be shown of a transaction: what its body does when it
succeeds without failures. -/
theorem exec_transaction_cases (atomic : Atomic body) (s : S) (faults : Faults) :
    (∃ e, exec (transaction body) s faults = (.error e, s)) ∨ ∃ a w, body ⟨s, id, []⟩ = (.ok a, ⟨s, w, []⟩) ∧
        exec (transaction body) s faults = (.ok a, w s) := by
  rcases exec_transaction atomic s faults with failed | same
  · exact .inl failed
  rw [same]
  have kept := atomic.inside ⟨s, id, []⟩
  rcases ran : body ⟨s, id, []⟩ with ⟨outcome, db, w, rest⟩
  rw [ran] at kept
  cases kept
  cases outcome with
  | ok a =>
    have clean := atomic.strict _ _ _ ran
    rw [ran] at clean
    cases clean
    exact .inr ⟨a, w, rfl, exec_transaction_nil ran⟩
  | error e =>
    refine .inl ⟨e, ?_⟩
    simp only [exec, transaction, ran]

end Sql

/-! ## A fixed sequence of statements against a failure plan

`spend n faults` plays `n` statements against a plan: whether all of them run, and what
is left of the plan after the last one, or after the one that failed.  `Takes n x …`
says that `x` is such a sequence: under a plan that lets `n` statements run it ends with
its failure-free result, under any other it ends with an error at the failing one.
-/

/-- Whether the next `n` statements all run, and the plan that is left. -/
def spend : Nat → Faults → Bool × Faults
  | 0, faults => (true, faults)
  | _ + 1, [] => (true, [])
  | n + 1, none :: faults => spend n faults
  | _ + 1, some _ :: faults => (false, faults)

theorem spend_nil (n : Nat) : spend n [] = (true, []) := by
  cases n <;> rfl

/-- Playing `n + m` statements is playing `n` and, if they all run, `m` more. -/
theorem spend_add_cases {n m : Nat} {faults rest : Faults} {passed : Bool}
    (played : spend (n + m) faults = (passed, rest)) :
    (∃ left, spend n faults = (true, left) ∧ spend m left = (passed, rest)) ∨
      passed = false ∧ spend n faults = (false, rest) := by
  induction n generalizing faults with
  | zero => exact .inl ⟨faults, rfl, by rwa [Nat.zero_add] at played⟩
  | succ n ih =>
    rw [Nat.succ_add] at played
    match faults with
    | [] =>
      cases played
      exact .inl ⟨[], rfl, spend_nil m⟩
    | none :: rest => exact ih played
    | some _ :: rest =>
      cases played
      exact .inr ⟨rfl, rfl⟩

namespace Sql

variable {S α β : Type}

/-- `x` runs `n` statements over the writes `w` and ends with `a` and the writes `w'`. -/
structure Takes (n : Nat) (x : Sql S α) (s : S) (w : S → S) (a : α) (w' : S → S) : Prop where
  runs : ∀ faults rest, spend n faults = (true, rest) → x ⟨s, w, faults⟩ = (.ok a, ⟨s, w', rest⟩)
  fails : ∀ faults rest, spend n faults = (false, rest) →
    ∃ e w'', x ⟨s, w, faults⟩ = (.error e, ⟨s, w'', rest⟩)

variable {s : S} {w w' : S → S} {a : α} {n : Nat} {body : Sql S α} {faults rest : Faults}

theorem takes_statement {body : Conn S → Except String α × Conn S}
    (ran : ∀ faults, body ⟨s, w, faults⟩ = (.ok a, ⟨s, w', faults⟩)) : Takes 1 (statement body) s w a w' := by
  constructor
  · intro faults rest played
    match faults with
    | [] => cases played; exact ran []
    | none :: faults => cases played; exact ran rest
    | some e :: faults => cases played
  · intro faults rest played
    match faults with
    | [] | none :: faults => cases played
    | some e :: faults => cases played; exact ⟨e, w, rfl⟩

theorem takes_read {query : S → Except String α} (answer : query (w s) = .ok a) : Takes 1 (read query) s w a w := by
  refine takes_statement fun faults => ?_
  show (query (w s), _) = _
  rw [answer]

theorem takes_write (change : S → S) (s : S) (w : S → S) : Takes 1 (write change) s w () (change ∘ w) :=
  takes_statement fun _ => rfl

theorem takes_bind {m : Nat} {x : Sql S α} {f : α → Sql S β} {w'' : S → S}
    {b : β} (first : Takes n x s w a w') (second : Takes m (f a) s w' b w'') : Takes (n + m) (x >>= f) s w b w'' := by
  constructor
  · intro faults rest played
    obtain ⟨left, start, played⟩ | ⟨⟨⟩, -⟩ := spend_add_cases played
    rw [bind_ok (first.runs faults left start)]
    exact second.runs left rest played
  · intro faults rest played
    obtain ⟨left, start, played⟩ | ⟨-, start⟩ := spend_add_cases played
    · rw [bind_ok (first.runs faults left start)]
      exact second.fails left rest played
    · obtain ⟨e, w₁, ran⟩ := first.fails faults rest start
      exact ⟨e, w₁, bind_error ran⟩

/-- A transaction runs its body and one more statement, the commit. -/
theorem Takes.transaction_runs (inner : Takes n body s id a w) (outer : S → S)
    (played : spend (n + 1) faults = (true, rest)) :
    transaction body ⟨s, outer, faults⟩ = (.ok a, ⟨w s, outer, rest⟩) := by
  obtain ⟨left, start, played⟩ | ⟨⟨⟩, -⟩ := spend_add_cases played
  simp only [transaction, inner.runs faults left start]
  rcases left with _ | ⟨_ | e, left⟩
  · cases played
    rfl
  · cases played
    rfl
  · cases played

/-- One that meets a failure leaves the store as it was. -/
theorem Takes.transaction_fails (inner : Takes n body s id a w) (outer : S → S)
    (played : spend (n + 1) faults = (false, rest)) :
    ∃ e, transaction body ⟨s, outer, faults⟩ = (.error e, ⟨s, outer, rest⟩) := by
  obtain ⟨left, start, played⟩ | ⟨-, start⟩ := spend_add_cases played
  · simp only [transaction, inner.runs faults left start]
    rcases left with _ | ⟨_ | e, left⟩
    · cases played
    · cases played
    · cases played
      exact ⟨e, rfl⟩
  · obtain ⟨e, w₁, ran⟩ := inner.fails faults rest start
    refine ⟨e, ?_⟩
    simp only [transaction, ran]

end Sql
end NewApi.Theory
