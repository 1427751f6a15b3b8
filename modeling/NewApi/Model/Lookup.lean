/-
# Model.Lookup — what the reads of the model do

A `First` under no failure, inside a transaction and against a failure plan; the plan
lookup through its cache.
-/
import NewApi.Model.Plan

namespace NewApi.Model
open Theory Sql

variable {α : Type} {s : Store} {w : Store → Store} {row : Store → Option α} {a : α} {c : Conn Store}

theorem first_found (found : row (w s) = some a) (missing : String) :
    first row missing ⟨s, w, []⟩ = (.ok a, ⟨s, w, []⟩) := by
  simp only [first, read_nil, found]

theorem first_missing (absent : row (w s) = none) (missing : String) :
    first row missing ⟨s, w, []⟩ = (.error missing, ⟨s, w, []⟩) := by
  simp only [first, read_nil, absent]

theorem ok_of_first {missing : String}
    (ran : first row missing ⟨s, w, []⟩ = (.ok a, c)) : row (w s) = some a ∧ c = ⟨s, w, []⟩ := by
  obtain ⟨answer, same⟩ := ok_of_read ran
  cases found : row (w s) with
  | some b => rw [found] at answer; cases answer; exact ⟨rfl, same⟩
  | none => rw [found] at answer; cases answer

variable (row : Store → Option α) (missing : String)

theorem first_keeps (c : Conn Store) :
    (first row missing c).2 = { c with faults := (first row missing c).2.faults } :=
  read_keeps _ c

@[simp] theorem atomic_first : Atomic (first row missing) := atomic_read _

theorem local_first : Local (first row missing) := (atomic_first row missing).inside

theorem takes_first (found : row (w s) = some a) (missing : String) : Takes 1 (first row missing) s w a w :=
  takes_read (by rw [found])

variable (id : Int)

theorem getPlan_apply (s : Store) (w : Store → Store) :
    ∃ outcome, getSubscriptionPlanByIdTx id ⟨s, w, []⟩ = (outcome, ⟨s, w, []⟩) ∧
      ∀ plan, outcome = .ok plan ↔ (w s).planById id = some plan := by
  unfold getSubscriptionPlanByIdTx Store.planById
  split
  · exact ⟨.error _, rfl, by simp⟩
  · simp only [bind_apply, peek_apply, Conn.view]
    cases (w s).caches.plan id with
    | some cached => exact ⟨.ok cached.normalizeDefaults, rfl, by simp⟩
    | none =>
      cases row : (w s).plans id with
      | none => exact ⟨.error _, bind_error (first_missing row _), by simp⟩
      | some plan => exact ⟨.ok plan.normalizeDefaults, bind_ok (first_found row _), by simp⟩

theorem ok_of_getPlan {id : Int} {plan : SubscriptionPlan}
    (ran : getSubscriptionPlanByIdTx id ⟨s, w, []⟩ = (.ok plan, c)) :
    (w s).planById id = some plan ∧ c = ⟨s, w, []⟩ := by
  obtain ⟨outcome, looked, found⟩ := getPlan_apply id s w
  rw [looked, Prod.mk.injEq] at ran
  exact ⟨(found plan).mp ran.1, ran.2.symm⟩

@[simp] theorem atomic_getPlan : Atomic (getSubscriptionPlanByIdTx id) := by
  refine atomic_ite.mpr ⟨fun _ => atomic_throw _, fun _ => atomic_bind (atomic_peek _) ?_⟩
  intro cached
  cases cached <;> simp

theorem local_getPlan : Local (getSubscriptionPlanByIdTx id) := (atomic_getPlan id).inside

end NewApi.Model
