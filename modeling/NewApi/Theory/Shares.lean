/-
# Theory.Shares — claims of many parties on one pot

`Covered`: no claim is negative and any finite group of them is covered by what the pot holds.  The pot
stays covered when one party moves it and its own claim by the same amount (`Covered.move`).

Where the pot is emptied at the end of every period, claims split in two (`Lots`): those of the current
period, which the pot must cover, and those of periods that are over.  A party gives back what it holds
of earlier periods first, from a pot that no longer contains it.  The pot stays covered if such a party
gives back only while nobody has a current claim (`Lots.Clear`).
-/
import Mathlib.Algebra.BigOperators.Group.Finset.Piecewise
import Mathlib.Algebra.Order.BigOperators.Group.Finset
import Mathlib.Algebra.Order.Ring.Int

namespace NewApi.Theory
open Function

variable {ι : Type}

/-- Every group of parties is covered. -/
structure Covered (share : ι → Int) (pot : Int) : Prop where
  nonneg : ∀ i, 0 ≤ share i
  sum_le : ∀ group : Finset ι, ∑ i ∈ group, share i ≤ pot

namespace Covered

variable {share : ι → Int} {pot : Int}

theorem share_le (covered : Covered share pot) (i : ι) : share i ≤ pot := by
  simpa using covered.sum_le {i}

theorem zero (nonneg : 0 ≤ pot) : Covered (fun _ : ι => 0) pot :=
  ⟨fun _ => le_rfl, fun group => by simpa using nonneg⟩

/-- One party moves the pot and its own claim by `amount`. -/
theorem move [DecidableEq ι] (covered : Covered share pot) {i : ι} {amount : Int} (keeps : 0 ≤ share i + amount) :
    Covered (update share i (share i + amount)) (pot + amount) where
  nonneg j := by
    by_cases same : j = i
    · subst same
      simpa using keeps
    · simpa [same] using covered.nonneg j
  sum_le group := by
    by_cases member : i ∈ group
    · have whole := covered.sum_le group
      rw [← Finset.add_sum_erase group share member] at whole
      rw [Finset.sum_update_of_mem member, Finset.sdiff_singleton_eq_erase]
      omega
    · have whole := covered.sum_le (insert i group)
      rw [Finset.sum_insert member] at whole
      rw [Finset.sum_update_of_notMem member]
      omega

end Covered

/-! ## Periods -/

/-- The claims of the current period and those of the periods before it. -/
structure Lots (ι : Type) where
  fresh : ι → Int
  stale : ι → Int

namespace Lots

variable {lots : Lots ι} {held : ι → Int} {pot amount : Int} {i : ι}

def empty : Lots ι := ⟨fun _ => 0, fun _ => 0⟩

/-- A period ends. -/
def turn (lots : Lots ι) : Lots ι := ⟨fun _ => 0, fun i => lots.stale i + lots.fresh i⟩

/-- Party `i` claims `amount` more, or gives back `-amount`, of earlier periods first. -/
def post [DecidableEq ι] (lots : Lots ι) (i : ι) (amount : Int) : Lots ι :=
  if 0 ≤ amount then { lots with fresh := update lots.fresh i (lots.fresh i + amount) }
  else
    let old := min (lots.stale i) (-amount)
    ⟨update lots.fresh i (lots.fresh i + (amount + old)), update lots.stale i (lots.stale i - old)⟩

@[simp] theorem post_zero [DecidableEq ι] (lots : Lots ι) (i : ι) : lots.post i 0 = lots := by simp [post]

/-- Party `i` may give back: it holds nothing of earlier periods, or nobody has a claim of
this one. -/
def Clear (lots : Lots ι) (i : ι) : Prop := lots.stale i = 0 ∨ ∀ j, lots.fresh j = 0

theorem clear_turn (lots : Lots ι) (i : ι) : lots.turn.Clear i := .inr fun _ => rfl

/-- The pot covers the current claims; `held` is what each party holds in all. -/
structure Sound (lots : Lots ι) (held : ι → Int) (pot : Int) : Prop where
  covered : Covered lots.fresh pot
  stale_nonneg : ∀ i, 0 ≤ lots.stale i
  held_eq : ∀ i, lots.fresh i + lots.stale i = held i

theorem sound_empty (nonneg : 0 ≤ pot) : (empty : Lots ι).Sound (fun _ => 0) pot :=
  ⟨.zero nonneg, fun _ => le_rfl, fun _ => rfl⟩

namespace Sound

theorem pot_nonneg (sound : lots.Sound held pot) : 0 ≤ pot := by
  simpa using sound.covered.sum_le ∅

variable (sound : lots.Sound held pot)

include sound

theorem turn : lots.turn.Sound held 0 where
  covered := .zero le_rfl
  stale_nonneg i := by
    have := sound.stale_nonneg i
    have := sound.covered.nonneg i
    simp only [Lots.turn]
    omega
  held_eq i := by
    rw [← sound.held_eq i]
    simp only [Lots.turn]
    omega

variable [DecidableEq ι]

/-- What is held after a posting, whichever lots it touched. -/
theorem held_post (j : ι) : (lots.post i amount).fresh j + (lots.post i amount).stale j =
      update held i (held i + amount) j := by
  have whole := sound.held_eq j
  unfold post
  by_cases same : j = i
  · subst same
    split <;> simp <;> omega
  · split <;> simpa [same] using whole

theorem claim (nonneg : 0 ≤ amount) : (lots.post i amount).Sound (update held i (held i + amount)) (pot + amount) where
  covered := by
    have mine := sound.covered.nonneg i
    rw [post, if_pos nonneg]
    exact sound.covered.move (by omega)
  stale_nonneg j := by
    rw [post, if_pos nonneg]
    exact sound.stale_nonneg j
  held_eq := sound.held_post

/-- A give-back that is clear takes nothing of anyone else. -/
theorem giveBack (negative : amount < 0) (clear : lots.Clear i)
    (enough : 0 ≤ held i + amount) : (lots.post i amount).Sound
      (update held i (held i + amount)) (max 0 (pot + amount)) where
  covered := by
    have whole := sound.held_eq i
    rw [post, if_neg (by omega)]
    rcases clear with none_ | nobody
    · -- all of it is of this period, so the pot has it
      have kept : min (lots.stale i) (-amount) = 0 := by omega
      have inside := sound.covered.share_le i
      have room : max 0 (pot + amount) = pot + amount := by omega
      simp only [kept, Int.add_zero, room]
      exact sound.covered.move (by omega)
    · -- all of it is of earlier periods, and the pot has nothing to cover
      have all : amount + min (lots.stale i) (-amount) = 0 := by
        have := nobody i
        omega
      have unchanged : lots.fresh = fun _ => 0 := funext nobody
      simp only [all, Int.add_zero, update_eq_self, unchanged]
      exact .zero (by omega)
  stale_nonneg j := by
    have old := sound.stale_nonneg j
    rw [post, if_neg (by omega)]
    by_cases same : j = i
    · subst same
      simp
    · simpa [same] using old
  held_eq := sound.held_post

theorem post (clear : amount < 0 → lots.Clear i) (enough : 0 ≤ held i + amount) : (lots.post i amount).Sound
      (update held i (held i + amount)) (max 0 (pot + amount)) := by
  by_cases negative : amount < 0
  · exact sound.giveBack negative (clear negative) enough
  · have nonneg := sound.pot_nonneg
    have room : max 0 (pot + amount) = pot + amount := by omega
    rw [room]
    exact sound.claim (by omega)

end Sound
end Lots

end NewApi.Theory
