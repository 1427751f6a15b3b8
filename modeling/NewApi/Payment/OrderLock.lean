/-
# Payment.OrderLock — the lock of an order and the count of its users

`LockOrder` and `UnlockOrder` of `controller/topup.go`.  What is done under `createLock` is one
step, and so is every other operation on the map or a mutex.  `Model.TopUp` has the lock of an
order as a flag.  Here it is a mutex in a table, made for the first goroutine that asks for it
and thrown away by the last.

The count of an entry is that of the goroutines that have it in hand (`Tidy`).  So no entry is
thrown away under one of them, and all goroutines at an order meet at one mutex.
-/
import Mathlib.Algebra.BigOperators.Fin
import NewApi.Model.TopUp

namespace NewApi.Payment
open Function

/-- Where a goroutine is, and the `rcm` it has in hand.  `UnlockOrder` looks the entry up again:
nothing reads the `rcm` of `inside`. -/
inductive LockPoint where
  | before | waiting (rcm : Nat) | inside (rcm : Nat) | unlocking (rcm : Nat) | unlocked (rcm : Nat) | after

namespace LockPoint

/-- Between `refCount++` and `refCount--`. -/
def entry : LockPoint → Option Nat
  | waiting rcm | inside rcm | unlocking rcm | unlocked rcm => some rcm
  | before | after => none

/-- Between `mu.Lock` and `mu.Unlock`. -/
def holds : LockPoint → Option Nat
  | inside rcm | unlocking rcm => some rcm
  | _ => none

theorem entry_of_holds {p : LockPoint} {rcm : Nat} (holds : p.holds = some rcm) : p.entry = some rcm := by
  cases p <;> simp_all [LockPoint.holds, entry]

end LockPoint

/-- A mutex is given with the goroutine that has locked it.  The entries below `next` were made. -/
structure LockTable (ι : Type) where
  orderLocks : String → Option Nat
  mu : Nat → Option ι
  refCount : Nat → Int
  next : Nat
  point : ι → LockPoint

namespace LockTable
open LockPoint

variable {ι : Type} {tradeNo : ι → String} {s s' : LockTable ι} {i : ι} {rcm : Nat}

def addCount (s : LockTable ι) (rcm : Nat) (n : Int) : LockTable ι :=
  { s with refCount := update s.refCount rcm (s.refCount rcm + n) }

def setEntry (s : LockTable ι) (t : String) (entry : Option Nat) : LockTable ι :=
  { s with orderLocks := update s.orderLocks t entry }

def setMu (s : LockTable ι) (rcm : Nat) (owner : Option ι) : LockTable ι := { s with mu := update s.mu rcm owner }

/-- Is the lock of the order taken? -/
def locked (s : LockTable ι) (t : String) : Bool := (s.orderLocks t).any fun rcm => (s.mu rcm).isSome

theorem locked_setEntry (s : LockTable ι) (t : String) (entry : Option Nat) :
    (s.setEntry t entry).locked = update s.locked t (entry.any fun rcm => (s.mu rcm).isSome) := by
  funext t'
  by_cases here : t' = t <;> simp [locked, setEntry, here]

section
variable [DecidableEq ι]

def go (s : LockTable ι) (i : ι) (p : LockPoint) : LockTable ι := { s with point := update s.point i p }

/-- The next step of goroutine `i`; none where it waits, or has returned. -/
def step (tradeNo : ι → String) (s : LockTable ι) (i : ι) : Option (LockTable ι) :=
  match s.point i with
  | before => match s.orderLocks (tradeNo i) with
    | some rcm => some ((s.addCount rcm 1).go i (waiting rcm))
    | none =>
      let s' := { s.setEntry (tradeNo i) (some s.next) with next := s.next + 1 }
      some ((s'.addCount s.next 1).go i (waiting s.next))
  | waiting rcm => if (s.mu rcm).isSome then none else some ((s.setMu rcm (some i)).go i (inside rcm))
  | inside _ => match s.orderLocks (tradeNo i) with
    | some rcm => some (s.go i (unlocking rcm))
    | none => some (s.go i after)
  | unlocking rcm => some ((s.setMu rcm none).go i (unlocked rcm))
  | unlocked rcm =>
    let s' := s.addCount rcm (-1)
    some ((if s'.refCount rcm = 0 then s'.setEntry (tradeNo i) none else s').go i after)
  | after => none

theorem step_eq_none_iff : s.step tradeNo i = none ↔
    s.point i = after ∨ ∃ rcm, s.point i = waiting rcm ∧ (s.mu rcm).isSome = true := by
  unfold step
  cases s.point i <;> simp only [reduceCtorEq] <;> (try split) <;> simp_all

/-- The goroutines take turns as `turns` says; one that has to wait lets its turn pass. -/
def run (tradeNo : ι → String) (turns : List ι) : LockTable ι :=
  turns.foldl (fun s i => (s.step tradeNo i).getD s) ⟨fun _ => none, fun _ => none, fun _ => 0, 0, fun _ => before⟩

end

variable [Fintype ι]

/-- How many goroutines have the entry in hand. -/
def users (point : ι → LockPoint) (rcm : Nat) : Int := ∑ j, if (point j).entry = some rcm then 1 else 0

theorem users_eq_zero_iff (point : ι → LockPoint) : users point rcm = 0 ↔ ∀ i, (point i).entry ≠ some rcm := by
  simp [users, Finset.sum_boole, Finset.filter_eq_empty_iff]

structure Tidy (tradeNo : ι → String) (s : LockTable ι) : Prop where
  entry : ∀ i rcm, (s.point i).entry = some rcm → s.orderLocks (tradeNo i) = some rcm
  used : ∀ t rcm, s.orderLocks t = some rcm → rcm < s.next ∧ 0 < s.refCount rcm
  apart : ∀ t t' rcm, s.orderLocks t = some rcm → s.orderLocks t' = some rcm → t = t'
  mu : ∀ i rcm, (s.point i).holds = some rcm ↔ s.mu rcm = some i
  count : ∀ rcm, s.refCount rcm = users s.point rcm

theorem Tidy.found (tidy : Tidy tradeNo s) (owner : s.mu rcm = some i) : s.orderLocks (tradeNo i) = some rcm :=
  tidy.entry i rcm (entry_of_holds ((tidy.mu i rcm).mpr owner))

theorem Tidy.locked_setMu (tidy : Tidy tradeNo s) (found : s.orderLocks (tradeNo i) = some rcm) (owner : Option ι) :
    (s.setMu rcm owner).locked = update s.locked (tradeNo i) owner.isSome := by
  funext t
  by_cases here : t = tradeNo i
  · simp [locked, setMu, here, found]
  · cases found' : s.orderLocks t with
    | none => simp [locked, setMu, here, found']
    | some rcm' =>
      have other : rcm' ≠ rcm := by
        rintro rfl
        exact here (tidy.apart _ _ _ found' found)
      simp [locked, setMu, here, found', other]

variable [DecidableEq ι]

theorem users_update (point : ι → LockPoint) (p : LockPoint) (rcm : Nat) :
    users (update point i p) rcm =
      users point rcm - (if (point i).entry = some rcm then 1 else 0) + if p.entry = some rcm then 1 else 0 := by
  let f : LockPoint → Int := fun p => if p.entry = some rcm then 1 else 0
  have moved := Finset.sum_update_of_mem (Finset.mem_univ i) (f ∘ point) (f p)
  have rest := Finset.sum_eq_add_sum_sdiff_singleton_of_mem (Finset.mem_univ i) (f ∘ point)
  rw [← comp_update] at moved
  simp only [f, comp_apply] at moved rest
  unfold users
  omega

/-- Every step of a user of the lock keeps the table tidy. -/
theorem Tidy.step (tidy : Tidy tradeNo s) (ran : s.step tradeNo i = some s') : Tidy tradeNo s' := by
  obtain ⟨entry, used, apart, mu, count⟩ := tidy
  unfold LockTable.step at ran
  cases at_ : s.point i with simp only [at_] at ran
  | before =>
    have fresh : s.refCount s.next = 0 := by
      rw [count, users_eq_zero_iff]
      exact fun j has => (used _ _ (entry j _ has)).1.false
    split at ran <;> cases ran <;> constructor <;> simp only [go, addCount, setEntry, users_update]
    all_goals grind [LockPoint.entry, holds]
  | waiting rcm =>
    split at ran <;> cases ran
    constructor <;> simp only [go, setMu, users_update] <;> grind [LockPoint.entry, holds]
  | inside rcm =>
    -- the entry that is looked up is the one that was locked
    simp only [entry i rcm (by rw [at_]; rfl)] at ran
    cases ran
    constructor <;> simp only [go, users_update] <;> grind [LockPoint.entry, holds]
  | unlocking rcm =>
    cases ran
    constructor <;> simp only [go, setMu, users_update] <;> grind [LockPoint.entry, holds]
  | unlocked rcm =>
    cases ran
    have left (p : Nat) : (s.addCount rcm (-1)).refCount p = users (update s.point i after) p := by
      simp only [addCount, users_update, update_apply, at_, LockPoint.entry, ← count]
      grind
    split <;> rename_i last
    · -- the entry is deleted: nobody else has it
      rw [left, users_eq_zero_iff] at last
      refine ⟨?_, ?_, ?_, ?_, left⟩ <;> simp only [go, setEntry, addCount, update_apply] at last ⊢ <;>
        grind [LockPoint.entry, holds]
    · refine ⟨?_, ?_, ?_, ?_, left⟩ <;> simp only [go, addCount, update_apply] at last ⊢ <;>
        grind [LockPoint.entry, holds]
  | after => cases ran

theorem tidy_run (tradeNo : ι → String) (turns : List ι) : Tidy tradeNo (run tradeNo turns) := by
  refine List.foldlRecOn (motive := fun s => Tidy tradeNo s) turns _ ?_ fun s tidy i _ => ?_
  · constructor <;> simp [LockPoint.entry, holds, users]
  · cases ran : s.step tradeNo i with
    | none => exact tidy
    | some s' => exact tidy.step ran

/-- **The table refines the flags of `Model.TopUp`.**  A step sets the flag of its order as
`lockOrder` does, clears it as `unlockOrder` does, or leaves the flags alone. -/
theorem orderLock_refines (tradeNo : ι → String) (turns : List ι) (process : Nat) (store : Model.Store)
    (flags : store.orderLocks process = (run tradeNo turns).locked)
    (ran : (run tradeNo turns).step tradeNo i = some s') :
    ∃ store' : Model.Store, store'.orderLocks process = s'.locked ∧
      ((∃ rcm, s'.point i = inside rcm) ∧
          (Model.lockOrder process (tradeNo i)).step store [] = some (.done (.ok ()), store', none) ∨
        (∃ rcm, s'.point i = unlocked rcm) ∧
          (Model.unlockOrder process (tradeNo i)).step store [] = some (.done (.ok ()), store', none) ∨
        store' = store) := by
  have tidy := tidy_run tradeNo turns
  generalize run tradeNo turns = s at *
  have tidy' := tidy.step ran
  unfold step at ran
  cases at_ : s.point i with simp only [at_] at ran
  | before =>
    refine ⟨store, ?_, .inr (.inr rfl)⟩
    split at ran <;> cases ran
    · exact flags
    · rename_i missing
      have free : s.mu s.next = none := by
        rw [Option.eq_none_iff_forall_ne_some]
        exact fun j owner => (tidy.used _ _ (tidy.found owner)).1.false
      refine flags.trans (.trans ?_ (s.locked_setEntry (tradeNo i) (some s.next)).symm)
      simp [locked, missing, free]
  | waiting rcm =>
    have found := tidy.entry i rcm (by rw [at_]; rfl)
    split at ran <;> cases ran
    rename_i free
    have clear : store.orderLocks process (tradeNo i) = false := by simpa [flags, locked, found] using free
    refine ⟨store.setLock process (tradeNo i) true, ?_, .inl ⟨⟨rcm, by simp [go]⟩, ?_⟩⟩
    · simp only [Model.Store.setLock, update_self, flags]
      exact (tidy.locked_setMu found (some i)).symm
    · simp only [Model.lockOrder, Theory.Program.await, Theory.Program.step, Theory.CallMode.waiting, clear]
      rfl
  | inside rcm =>
    simp only [tidy.entry i rcm (by rw [at_]; rfl)] at ran
    cases ran
    exact ⟨store, flags, .inr (.inr rfl)⟩
  | unlocking rcm =>
    cases ran
    refine ⟨store.setLock process (tradeNo i) false, ?_, .inr (.inl ⟨⟨rcm, by simp [go]⟩, rfl⟩)⟩
    simp only [Model.Store.setLock, update_self, flags]
    exact (tidy.locked_setMu (tidy.entry i rcm (by rw [at_]; rfl)) none).symm
  | unlocked rcm =>
    cases ran
    refine ⟨store, ?_, .inr (.inr rfl)⟩
    split <;> rename_i last
    · rw [if_pos last] at tidy'
      have free : s.mu rcm = none := by
        rw [Option.eq_none_iff_forall_ne_some]
        exact fun j owner => (tidy'.used _ _ (tidy'.found owner)).2.ne' last
      refine flags.trans (.trans ?_ (s.locked_setEntry (tradeNo i) none).symm)
      simp [locked, tidy.entry i rcm (by rw [at_]; rfl), free]
    · exact flags
  | after => cases ran

theorem orderLock_refines_first : ∃ (s' : LockTable (Fin 2)) (store' : Model.Store),
    (run (fun _ => "T") [0, 1]).step (fun _ => "T") 1 = some s' ∧ s'.mu 0 = some 1 ∧
      store'.orderLocks 0 = s'.locked := by
  have free : Model.Store.empty.orderLocks 0 = (run (fun _ : Fin 2 => "T") [0, 1]).locked := by
    funext t
    cases found : (run (fun _ : Fin 2 => "T") [0, 1]).orderLocks t <;> simp only [locked, found] <;> rfl
  obtain ⟨store', flags, -⟩ := orderLock_refines _ [0, 1] 0 _ free (i := 1) rfl
  exact ⟨_, store', rfl, rfl, flags⟩

/-- A goroutine that cannot go on waits for one at the same order that can. -/
theorem orderLock_waits (tradeNo : ι → String) (turns : List ι) (unfinished : (run tradeNo turns).point i ≠ after)
    (blocked : (run tradeNo turns).step tradeNo i = none) :
    ∃ j, tradeNo j = tradeNo i ∧ (run tradeNo turns).step tradeNo j ≠ none := by
  have tidy := tidy_run tradeNo turns
  rcases step_eq_none_iff.mp blocked with ended | ⟨rcm, at_, taken⟩
  · exact absurd ended unfinished
  · obtain ⟨j, owner⟩ := Option.isSome_iff_exists.mp taken
    have holds := (tidy.mu j rcm).mpr owner
    refine ⟨j, tidy.apart _ _ rcm (tidy.found owner) (tidy.entry i rcm (by rw [at_]; rfl)), fun blocked => ?_⟩
    rcases step_eq_none_iff.mp blocked with at_ | ⟨rcm, at_, -⟩ <;> simp [at_, LockPoint.holds] at holds

theorem orderLock_waits_second : ∃ j : Fin 2, (run (fun _ : Fin 2 => "T") [0, 0, 1]).step (fun _ => "T") j ≠ none := by
  obtain ⟨j, -, goes⟩ := orderLock_waits (fun _ : Fin 2 => "T") [0, 0, 1] (i := 1)
    (by show LockPoint.waiting 0 ≠ after; nofun) rfl
  exact ⟨j, goes⟩

/-- No two goroutines are inside one order, and the table has the entries of the orders that
goroutines are at, and no others. -/
theorem orderLock_exclusive (tradeNo : ι → String) (turns : List ι) :
    (∀ i j rcm rcm', (run tradeNo turns).point i = inside rcm → (run tradeNo turns).point j = inside rcm' →
      tradeNo i = tradeNo j → i = j) ∧
    ∀ t, (run tradeNo turns).orderLocks t ≠ none ↔ ∃ i, tradeNo i = t ∧ ((run tradeNo turns).point i).entry ≠ none := by
  have tidy := tidy_run tradeNo turns
  constructor
  · intro i j rcm rcm' first second same
    have own : (run tradeNo turns).mu rcm = some i := (tidy.mu i rcm).mp (by rw [first]; rfl)
    have own' : (run tradeNo turns).mu rcm' = some j := (tidy.mu j rcm').mp (by rw [second]; rfl)
    have one := tidy.found own
    rw [same, tidy.found own'] at one
    cases one
    exact Option.some.inj (own.symm.trans own')
  · intro t
    simp only [Option.ne_none_iff_exists']
    constructor
    · rintro ⟨rcm, found⟩
      have used := (tidy.used t rcm found).2
      rw [tidy.count] at used
      have : ¬∀ i, ((run tradeNo turns).point i).entry ≠ some rcm := (users_eq_zero_iff _).not.mp used.ne'
      push Not at this
      obtain ⟨i, has⟩ := this
      exact ⟨i, tidy.apart _ _ rcm (tidy.entry i rcm has) found, rcm, has⟩
    · rintro ⟨i, rfl, rcm, has⟩
      exact ⟨rcm, tidy.entry i rcm has⟩

end LockTable
end NewApi.Payment
