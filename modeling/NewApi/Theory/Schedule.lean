/-
# Theory.Schedule — catching up with a schedule of dates

A schedule tells for every date the one after it; `0` stands for none.  `chase` is the loop
`for next > 0 && next <= now { base = next; next = after(base) }` with fuel, and `Ends` says how it
ends when the fuel lasts.  A rank that falls with every pass makes it end (`exists_ends`), a set of due
dates that the schedule never leaves makes it run for ever (`chase_trapped`), and catching up in two
goes is catching up in one (`ends_trans`).
-/
import Mathlib.Data.Int.Order.Basic

namespace NewApi.Theory.Schedule
open Int Nat

def Due (now next : Int) : Prop := 0 < next ∧ next ≤ now
deriving Decidable

section
variable (after : Int → Int) (now : Int)

/-- The last date passed, the next one and whether any was passed; `none` when `fuel`
passes were not enough. -/
def chase : Nat → Int → Int → Bool → Option (Int × Int × Bool)
  | 0, base, next, advanced => if Due now next then none else some (base, next, advanced)
  | fuel + 1, base, next, advanced =>
    if Due now next then chase fuel next (after next) true else some (base, next, advanced)

/-- The loop ends like this. -/
def Ends (base next : Int) (advanced : Bool) (last : Int × Int × Bool) : Prop :=
  ∃ enough, ∀ fuel, enough ≤ fuel → chase after now fuel base next advanced = some last

end

variable {after : Int → Int} {now base next : Int} {advanced : Bool} {last : Int × Int × Bool}

theorem chase_stop (stopped : ¬Due now next) (fuel : Nat) :
    chase after now fuel base next advanced = some (base, next, advanced) := by
  cases fuel <;> simp [chase, stopped]

theorem chase_pass (base : Int) (advanced : Bool) (due : Due now next) (fuel : Nat) :
    chase after now (fuel + 1) base next advanced = chase after now fuel next (after next) true := by
  simp [chase, due]

theorem ends_unique {last' : Int × Int × Bool} (one : Ends after now base next advanced last)
    (other : Ends after now base next advanced last') : last = last' := by
  obtain ⟨enough, ends⟩ := one
  obtain ⟨enough', ends'⟩ := other
  have same := (ends (max enough enough') (Nat.le_max_left _ _)).symm.trans (ends' _ (Nat.le_max_right _ _))
  exact Option.some.inj same

theorem ends_stop (stopped : ¬Due now next) : Ends after now base next advanced (base, next, advanced) :=
  ⟨0, fun fuel _ => chase_stop stopped fuel⟩

theorem ends_pass (due : Due now next) :
    Ends after now base next advanced last ↔ Ends after now next (after next) true last := by
  constructor
  · rintro ⟨enough, ends⟩
    refine ⟨enough, fun fuel lasts => ?_⟩
    rw [← chase_pass base advanced due]
    exact ends (fuel + 1) (by omega)
  · rintro ⟨enough, ends⟩
    refine ⟨enough + 1, fun fuel lasts => ?_⟩
    obtain ⟨fuel, rfl⟩ := Nat.exists_eq_add_of_le' (by omega : 1 ≤ fuel)
    rw [chase_pass _ _ due]
    exact ends fuel (by omega)

variable {fuel : Nat}

section
variable (ended : chase after now fuel base next advanced = some last)
include ended

/-- More fuel changes nothing. -/
theorem chase_mono {fuel' : Nat} (more : fuel ≤ fuel') : chase after now fuel' base next advanced = some last := by
  induction fuel generalizing base next advanced fuel' with
  | zero =>
    by_cases due : Due now next
    · simp [chase, due] at ended
    · rw [chase_stop due] at ended ⊢
      exact ended
  | succ fuel ih =>
    by_cases due : Due now next
    · obtain ⟨fuel', rfl⟩ := Nat.exists_eq_add_of_le' (by omega : 1 ≤ fuel')
      rw [chase_pass _ _ due] at ended ⊢
      exact ih ended (by omega)
    · rw [chase_stop due] at ended ⊢
      exact ended

theorem ends_of_chase : Ends after now base next advanced last :=
  ⟨fuel, fun _ more => chase_mono ended more⟩

end

/-- What holds at the start and is kept by every pass holds at the end. -/
theorem ends_invariant (Inv : Int → Int → Bool → Prop) (init : Inv base next advanced)
    (pass : ∀ base next advanced, Inv base next advanced → Due now next → Inv next (after next) true)
    (ends : Ends after now base next advanced last) : Inv last.1 last.2.1 last.2.2 ∧ ¬Due now last.2.1 := by
  obtain ⟨fuel, ends⟩ := ends
  have ended := ends fuel (Nat.le_refl _)
  clear ends
  induction fuel generalizing base next advanced with
  | zero =>
    by_cases due : Due now next
    · simp [chase, due] at ended
    · rw [chase_stop due] at ended
      cases ended
      exact ⟨init, due⟩
  | succ fuel ih =>
    by_cases due : Due now next
    · rw [chase_pass _ _ due] at ended
      exact ih (pass _ _ _ init due) ended
    · rw [chase_stop due] at ended
      cases ended
      exact ⟨init, due⟩

/-- A rank that falls with every pass is enough for the loop to end. -/
theorem exists_ends (Inv : Int → Prop) (rank : Int → Nat) (start : Inv next)
    (falls : ∀ t, Inv t → Due now t → Due now (after t) → Inv (after t) ∧ rank (after t) < rank t) :
    ∃ last, Ends after now base next advanced last := by
  induction size : rank next using Nat.strongRecOn generalizing base next advanced with
  | ind size ih =>
    by_cases due : Due now next
    · by_cases more : Due now (after next)
      · obtain ⟨kept, smaller⟩ := falls next start due more
        obtain ⟨last, ends⟩ : ∃ last, Ends after now next (after next) true last := ih _ (by omega) kept rfl
        exact ⟨last, (ends_pass due).mpr ends⟩
      · exact ⟨_, (ends_pass due).mpr (ends_stop more)⟩
    · exact ⟨_, ends_stop due⟩

/-- Due dates that the schedule never leaves keep the loop running. -/
theorem chase_trapped {Trapped : Int → Prop}
    (trap : ∀ t, Trapped t → Due now t ∧ Trapped (after t)) (start : Trapped next) (fuel : Nat) :
    chase after now fuel base next advanced = none := by
  induction fuel generalizing base next advanced with
  | zero => simp [chase, (trap next start).1]
  | succ fuel ih =>
    rw [chase_pass _ _ (trap next start).1]
    exact ih (trap next start).2

/-- To catch up with `now₁` and then with `now₂` is to catch up with `now₂`. -/
theorem ends_trans {now₁ now₂ b n : Int} {a : Bool} (ordered : now₁ ≤ now₂)
    (first : Ends after now₁ base next advanced (b, n, a)) :
    Ends after now₂ base next advanced last ↔ Ends after now₂ b n a last := by
  -- Every pass of the first go is a pass of the second.
  refine (ends_invariant (fun base' next' advanced' =>
    (Ends after now₂ base next advanced last ↔ Ends after now₂ base' next' advanced' last)) Iff.rfl ?_ first).1
  intro base' next' advanced' same due
  rw [same, ends_pass ⟨due.1, le_trans due.2 ordered⟩]

/-- A later date has no earlier successor, and a successor's own successor is not before it. -/
structure Orderly (after : Int → Int) : Prop where
  mono : ∀ t u, t ≤ u → after t ≤ after u
  settles : ∀ t, after t ≤ after (after t)

/-- The schedule as far as `within` reaches. -/
def cut (after : Int → Int) (within : Int → Prop) [DecidablePred within] (t : Int) : Int :=
  if within (after t) then after t else 0

variable {within : Int → Prop} [DecidablePred within]

theorem cut_of_due (due : Due now (cut after within base)) :
    cut after within base = after base ∧ within (after base) := by
  unfold cut at due ⊢
  split
  · exact ⟨rfl, ‹_›⟩
  · rename_i outside
    rw [if_neg outside] at due
    exact absurd due.1 (by omega)

/-- A due date ahead that is its own successor. -/
def Repeats (after : Int → Int) (within : Int → Prop) (now base : Int) : Prop :=
  0 < after base ∧ ∃ t, after t = t ∧ after base ≤ t ∧ t ≤ now ∧ within t

/-- **The loop ends unless a date ahead is its own successor.** -/
theorem exists_ends_iff (orderly : Orderly after) (closed : ∀ t u, t ≤ u → within u → within t) :
    (∃ last, Ends (cut after within) now base (cut after within base) advanced last) ↔
      ¬Repeats after within now base := by
  constructor
  · rintro ⟨last, enough, ends⟩ ⟨positive, r, fixed, ahead, reached, inside⟩
    have trap : ∀ t, (after base ≤ t ∧ t ≤ r) →
        Due now t ∧ (after base ≤ cut after within t ∧ cut after within t ≤ r) := by
      rintro t ⟨above, below⟩
      have bounded : after t ≤ r := fixed ▸ orderly.mono t r below
      have stays : after base ≤ after t := le_trans (orderly.settles base) (orderly.mono _ _ above)
      rw [cut, if_pos (closed _ _ bounded inside)]
      exact ⟨⟨by omega, by omega⟩, stays, bounded⟩
    have start : cut after within base = after base := if_pos (closed _ _ ahead inside)
    have running : chase (cut after within) now enough base (cut after within base) advanced = none :=
      chase_trapped trap (by rw [start]; exact ⟨le_refl _, ahead⟩) enough
    rw [ends enough (Nat.le_refl _)] at running
    cases running
  · intro moving
    by_cases first : Due now (cut after within base)
    · have positive : 0 < after base := (cut_of_due first).1 ▸ first.1
      -- Passed dates are successors, so the next one is not before them; and none repeats.
      let Inv : Int → Prop := fun t => after base ≤ t ∧ within t ∧ ∃ u, t = after u
      refine exists_ends Inv (fun t => (now - t).toNat) ?_ ?_
      · obtain ⟨same, inside⟩ := cut_of_due first
        rw [same]
        exact ⟨le_refl _, inside, base, rfl⟩
      · rintro _ ⟨above, inside, u, rfl⟩ due more
        obtain ⟨same, inside'⟩ := cut_of_due more
        rw [same] at more ⊢
        have settled := orderly.settles u
        refine ⟨⟨le_trans above settled, inside', after u, rfl⟩, ?_⟩
        have moved : after (after u) ≠ after u := fun repeated =>
          moving ⟨positive, after u, repeated, above, due.2, inside⟩
        have later := more.2
        omega
    · exact ⟨_, ends_stop first⟩

end NewApi.Theory.Schedule
