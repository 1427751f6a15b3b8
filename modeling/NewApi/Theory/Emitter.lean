/-
# Theory.Emitter — code that updates a state and writes events

`andThen` and `each` put `Emitter`s together as statements and loops do.  An observer reads the events
one at a time, and `Leads` is the triple: a relation between the state and what the observer has made
of the events so far, before and after the code.
-/
import Mathlib.Data.List.Basic

namespace NewApi.Theory

/-- Code that updates a state and writes events. -/
abbrev Emitter (σ ε : Type) := σ → σ × List ε

namespace Emitter

variable {σ ε τ α β : Type}

def quiet (update : σ → σ) : Emitter σ ε := fun s => (update s, [])

/-- Events that depend on the state and leave it as it is. -/
def write (events : σ → List ε) : Emitter σ ε := fun s => (s, events s)

def andThen (first second : Emitter σ ε) : Emitter σ ε := fun s =>
  ((second (first s).1).1, (first s).2 ++ (second (first s).1).2)

def each (body : α → Emitter σ ε) : List α → Emitter σ ε
  | [] => quiet id
  | x :: xs => (body x).andThen (each body xs)

/-- Whatever the state, the code writes only such events. -/
def Writes (allowed : ε → Prop) (code : Emitter σ ε) : Prop := ∀ s, ∀ event ∈ (code s).2, allowed event

variable {allowed : ε → Prop}

theorem Writes.andThen {first second : Emitter σ ε} (before : Writes allowed first)
    (after : Writes allowed second) : Writes allowed (first.andThen second) := by
  intro s event member
  rcases List.mem_append.mp member with early | late
  · exact before s event early
  · exact after _ event late

theorem Writes.quiet (update : σ → σ) : Writes allowed (quiet update : Emitter σ ε) := by
  intro s event member
  cases member

variable {body : α → Emitter σ ε}

theorem Writes.each (step : ∀ x, Writes allowed (body x)) : ∀ xs : List α, Writes allowed (each body xs)
  | [] => Writes.quiet id
  | x :: xs => (step x).andThen (Writes.each step xs)

/-- `read` is what the observer makes of one more event. -/
def Leads (read : τ → ε → τ) (pre : σ → τ → Prop) (code : Emitter σ ε) (post : σ → τ → Prop) : Prop :=
  ∀ s t, pre s t → post (code s).1 ((code s).2.foldl read t)

variable {read : τ → ε → τ} {pre mid post : σ → τ → Prop} {first second : Emitter σ ε}

theorem Leads.andThen (before : Leads read pre first mid) (after : Leads read mid second post) :
    Leads read pre (first.andThen second) post := by
  intro s t holds
  have held := after _ _ (before s t holds)
  simpa [Emitter.andThen, List.foldl_append] using held

theorem Leads.quiet {update : σ → σ} (keeps : ∀ s t, pre s t → post (update s) t) :
    Leads read pre (quiet update) post := keeps

/-- The loop rule: `track` follows the loop in an abstract state of its own. -/
theorem Leads.each {track : β → α → β} {inv : β → σ → τ → Prop}
    (step : ∀ b x, Leads read (inv b) (body x) (inv (track b x))) :
    ∀ (xs : List α) (b : β), Leads read (inv b) (each body xs) (inv (xs.foldl track b)) := by
  intro xs
  induction xs with
  | nil => exact fun b s t holds => holds
  | cons x xs ih => exact fun b => (step b x).andThen (ih (track b x))

end Emitter
end NewApi.Theory
