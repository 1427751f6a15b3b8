/-
# Theory.Program — handlers as sequences of atomic store calls

A handler is a tree of store calls: each call is one atomic piece of `Sql` (a single statement, or a
whole transaction), and its outcome selects the rest.  Any other handler may run between two calls.

* `Program.run` executes one handler alone, against a failure plan.  The plan does not reach the calls
  marked `compensating`, which are hand-written roll-backs.
* `Program.step` makes the next call of a handler.  A call may have to wait (`CallMode.ready`): a lock
  is a call that is ready while nobody holds it.
* `spawn` starts a handler of its own, as `gopool.Go` does.
* `All P p` says that every call `p` can ever make satisfies `P`.
-/
import NewApi.Theory.Sql

namespace NewApi.Theory

/-- How a call is scheduled: when it may run, and whether it undoes an earlier one. -/
structure CallMode (S : Type) where
  ready : S → Bool
  compensating : Bool

namespace CallMode

variable {S : Type}

def plain : CallMode S := ⟨fun _ => true, false⟩

def rollback : CallMode S := ⟨fun _ => true, true⟩

def waiting (ready : S → Bool) : CallMode S := ⟨ready, false⟩

end CallMode

/-- A handler with result `α` over a shared store `S`. -/
inductive Program (S : Type) : Type → Type 1 where
  | done {α : Type} (a : α) : Program S α
  | call {α β : Type} (mode : CallMode S) (act : Sql S β) (next : Except String β → Program S α) :
      Program S α
  | spawn {α : Type} (child : Program S Unit) (next : Program S α) : Program S α

namespace Program

variable {S α β γ : Type}

def bind : {α : Type} → Program S α → (α → Program S β) → Program S β
  | _, .done a, f => f a
  | _, .call mode act next, f => .call mode act fun outcome => (next outcome).bind f
  | _, .spawn child next, f => .spawn child (next.bind f)

instance : Monad (Program S) where
  pure := .done
  bind := bind

def store (act : Sql S α) : Program S (Except String α) := .call .plain act .done

/-- A store call that undoes an earlier one. -/
def undo (act : Sql S α) : Program S (Except String α) := .call .rollback act .done

/-- A store call that waits until it may run. -/
def await (ready : S → Bool) (act : Sql S α) : Program S (Except String α) := .call (.waiting ready) act .done

def go (child : Program S Unit) : Program S Unit := .spawn child (.done ())

@[simp] theorem pure_eq (a : α) : (pure a : Program S α) = .done a := rfl

@[simp] theorem done_bind (a : α) (f : α → Program S β) : (.done a : Program S α) >>= f = f a := rfl

@[simp] theorem call_bind {δ : Type} (mode : CallMode S) (act : Sql S δ)
    (next : Except String δ → Program S α) (f : α → Program S β) :
    (.call mode act next : Program S α) >>= f = .call mode act fun outcome => next outcome >>= f :=
  rfl

@[simp] theorem spawn_bind (child : Program S Unit) (next : Program S α) (f : α → Program S β) :
    (.spawn child next : Program S α) >>= f = .spawn child (next >>= f) := rfl

/-- A handler on a part of a larger store. -/
def zoom {T : Type} (get : T → S) (set : S → T → T) : {α : Type} → Program S α → Program T α
  | _, .done a => .done a
  | _, .call mode act next =>
    .call ⟨fun t => mode.ready (get t), mode.compensating⟩ (act.zoom get set) fun outcome =>
      (next outcome).zoom get set
  | _, .spawn child next => .spawn (child.zoom get set) (next.zoom get set)

/-- Run a handler to its end against a failure plan; `spawn` runs the child at once. -/
def run : {α : Type} → Program S α → S → Faults → α × S × Faults
  | _, .done a, s, faults => (a, s, faults)
  | _, .call mode act next, s, faults =>
    if mode.compensating then
      let outcome := act ⟨s, id, []⟩
      (next outcome.1).run outcome.2.db faults
    else
      let outcome := act ⟨s, id, faults⟩
      (next outcome.1).run outcome.2.db outcome.2.faults
  | _, .spawn child next, s, faults =>
    let ended := child.run s faults
    next.run ended.2.1 ended.2.2

variable {act : Sql S α} {next : Except String α → Program S β} {s s' : S} {faults : Faults}
  {p : Program S α}

theorem run_store_bind {w : S → S} {rest : Faults} {outcome : Except String α}
    (ran : act ⟨s, id, faults⟩ = (outcome, ⟨s', w, rest⟩)) :
    (store act >>= next).run s faults = (next outcome).run s' rest := by
  simp only [store, call_bind, run, CallMode.plain, ran]
  rfl

/-- Run a handler to its end, nothing failing. -/
def solo : {α : Type} → Program S α → S → α × S
  | _, .done a, s => (a, s)
  | _, .call _ act next, s => (next (act.exec s []).1).solo (act.exec s []).2
  | _, .spawn child next, s => next.solo (child.solo s).2

@[simp] theorem solo_done (a : α) (s : S) : (done a).solo s = (a, s) := rfl

@[simp] theorem solo_store (act : Sql S α) (s : S) : (store act).solo s = act.exec s [] := rfl

theorem solo_bind (p : Program S α) (f : α → Program S β) (s : S) :
    (p >>= f).solo s = (f (p.solo s).1).solo (p.solo s).2 := by
  induction p generalizing s with
  | done a => rfl
  | call mode act next ih => exact ih _ _ _
  | spawn child next _ ih => exact ih _ _

/-- The handler, no failure reaching its compensating calls. -/
def sheltered : {α : Type} → Program S α → Program S α
  | _, .done a => .done a
  | _, .call mode act next =>
    .call mode (if mode.compensating then act.sheltered else act) fun outcome => (next outcome).sheltered
  | _, .spawn child next => .spawn child.sheltered next.sheltered

/-! ## One call of a handler -/

/-- The next call, when it may run: the rest of the handler, the store after it, and
the handler it starts. -/
def step : {α : Type} → Program S α → S → Faults → Option (Program S α × S × Option (Program S Unit))
  | _, .done _, _, _ => none
  | _, .call mode act next, s, faults =>
    if mode.ready s then
      let outcome := act.exec s faults
      some (next outcome.1, outcome.2, none)
    else none
  | _, .spawn child next, s, _ => some (next, s, some child)

theorem step_store_bind (act : Sql S α) (next : Except String α → Program S β) (s : S) (faults : Faults) :
    (store act >>= next).step s faults = some (next (act.exec s faults).1, (act.exec s faults).2, none) := rfl

/-- A waiting call is made only when it may be. -/
theorem step_await_bind {ready : S → Bool} {p : Program S β} {kid : Option (Program S Unit)}
    (ran : (await ready act >>= next).step s faults = some (p, s', kid)) :
    ready s = true ∧ p = next (act.exec s faults).1 ∧ s' = (act.exec s faults).2 ∧ kid = none := by
  simp only [await, call_bind, step, CallMode.waiting] at ran
  split at ran
  · rename_i may
    cases ran
    exact ⟨may, rfl, rfl, rfl⟩
  · cases ran

/-- Every call of the handler, and of the handlers it starts, satisfies `P`. -/
def All (P : {β : Type} → Sql S β → Prop) : {α : Type} → Program S α → Prop
  | _, .done _ => True
  | _, .call _ act next => P act ∧ ∀ outcome, (next outcome).All P
  | _, .spawn child next => child.All P ∧ next.All P

theorem All.bind {P : {β : Type} → Sql S β → Prop} {f : α → Program S β}
    (first : p.All P) (rest : ∀ a, (f a).All P) : (p >>= f).All P := by
  induction p with
  | done a => exact rest a
  | call mode act next ih => exact ⟨first.1, fun outcome => ih outcome (first.2 outcome) rest⟩
  | spawn child next _ ih => exact ⟨first.1, ih first.2 rest⟩

theorem All.mono {P Q : {β : Type} → Sql S β → Prop} (all : p.All P)
    (weaker : ∀ {β : Type} (act : Sql S β), P act → Q act) : p.All Q := by
  induction p with
  | done a => trivial
  | call mode act next ih => exact ⟨weaker act all.1, fun outcome => ih outcome (all.2 outcome)⟩
  | spawn child next first ih => exact ⟨first all.1, ih all.2⟩

theorem all_call {P : {β : Type} → Sql S β → Prop} {mode : CallMode S} {act : Sql S β}
    {next : Except String β → Program S α} (this : P act) (rest : ∀ r, (next r).All P) :
    (Program.call mode act next).All P := ⟨this, rest⟩

end Program
end NewApi.Theory
