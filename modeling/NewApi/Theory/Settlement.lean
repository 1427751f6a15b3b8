/-
# Theory.Settlement — matters that are settled once

A `Book` has a row for every matter and the entries that were made for it.  A matter is open, done or
closed.  `Move` is all that may happen in one step: rows that are open or missing are opened, changed
or closed, or one of them is settled, with exactly one entry.  `Sound`: a done matter has one entry,
which fits its row, and every other matter has none.  `Frozen`: what is done or closed stays.
-/
import Mathlib.Tactic.ByContra

namespace NewApi.Theory.Settlement

inductive Phase where
  | open_ | done | closed
deriving DecidableEq

structure Book (κ ρ ε : Type) where
  row : κ → Option ρ
  entries : κ → List ε

variable {κ ρ ε : Type} {kind : ρ → Phase} {fits fits' : ρ → ε → Prop} {b b' b'' : Book κ ρ ε}

/-- Matter `k` is open or unknown. -/
def Unsettled (kind : ρ → Phase) (b : Book κ ρ ε) (k : κ) : Prop := ∀ r, b.row k = some r → kind r = .open_

/-- One step. -/
inductive Move [DecidableEq κ] (kind : ρ → Phase) (fits : ρ → ε → Prop) (b b' : Book κ ρ ε) : Prop where
  | relabel (entries : ∀ k, b'.entries k = b.entries k)
      (rows : ∀ k, b'.row k = b.row k ∨ Unsettled kind b k ∧ ∃ r, b'.row k = some r ∧ kind r ≠ .done)
  | settle (k : κ) (r : ρ) (e : ε) (unsettled : Unsettled kind b k) (done : kind r = .done)
      (fit : fits r e) (rows : ∀ j, b'.row j = if j = k then some r else b.row j)
      (entries : ∀ j, b'.entries j = if j = k then b.entries j ++ [e] else b.entries j)

structure Sound (kind : ρ → Phase) (fits : ρ → ε → Prop) (b : Book κ ρ ε) : Prop where
  done : ∀ k r, b.row k = some r → kind r = .done → ∃ e, b.entries k = [e] ∧ fits r e
  rest : ∀ k, (∀ r, b.row k = some r → kind r ≠ .done) → b.entries k = []

/-- From `b` to `b'`, finished matters are left alone. -/
def Frozen (kind : ρ → Phase) (b b' : Book κ ρ ε) : Prop :=
  ∀ k r, b.row k = some r → kind r ≠ .open_ → b'.row k = some r ∧ b'.entries k = b.entries k

variable {k : κ}

theorem Unsettled.not_done (unsettled : Unsettled kind b k) (r : ρ) (found : b.row k = some r) : kind r ≠ .done := by
  rw [unsettled r found]
  decide

theorem Sound.mono (sound : Sound kind fits b) (weaker : ∀ r e, fits r e → fits' r e) : Sound kind fits' b where
  done k r found done := by
    obtain ⟨e, once, fit⟩ := sound.done k r found done
    exact ⟨e, once, weaker r e fit⟩
  rest := sound.rest

section
variable [DecidableEq κ]

/-- Every move keeps the book sound. -/
theorem Move.sound (move : Move kind fits b b') (sound : Sound kind fits b) : Sound kind fits b' := by
  cases move with
  | relabel entries rows =>
    constructor
    · intro k r found done
      rw [entries]
      rcases rows k with same | ⟨-, r', found', notDone⟩
      · exact sound.done k r (same ▸ found) done
      · rw [found'] at found
        cases found
        exact absurd done notDone
    · intro k notDone
      rw [entries]
      rcases rows k with same | ⟨unsettled, -⟩
      · exact sound.rest k (same ▸ notDone)
      · exact sound.rest k unsettled.not_done
  | settle k r e unsettled done fit rows entries =>
    constructor
    · intro j r' found done'
      rw [rows] at found
      rw [entries]
      by_cases same : j = k
      · subst same
        rw [if_pos rfl] at found
        cases found
        refine ⟨e, ?_, fit⟩
        rw [if_pos rfl, sound.rest j unsettled.not_done]
        rfl
      · rw [if_neg same] at found ⊢
        exact sound.done j r' found done'
    · intro j notDone
      rw [entries]
      by_cases same : j = k
      · exact absurd done (notDone r (by rw [rows, if_pos same]))
      · rw [if_neg same]
        refine sound.rest j fun r' found => notDone r' ?_
        rw [rows, if_neg same]
        exact found

theorem Move.frozen (move : Move kind fits b b') : Frozen kind b b' := by
  intro k r found finished
  cases move with
  | relabel entries rows =>
    rcases rows k with same | ⟨unsettled, -⟩
    · exact ⟨same.trans found, entries k⟩
    · exact absurd (unsettled r found) finished
  | settle j r' e unsettled done fit rows entries =>
    by_cases same : k = j
    · subst same
      exact absurd (unsettled r found) finished
    · rw [rows, entries, if_neg same, if_neg same]
      exact ⟨found, rfl⟩

end

theorem Frozen.refl (b : Book κ ρ ε) : Frozen kind b b := fun _ _ found _ => ⟨found, rfl⟩

theorem Frozen.trans (first : Frozen kind b b') (second : Frozen kind b' b'') : Frozen kind b b'' := by
  intro k r found finished
  obtain ⟨found', entries'⟩ := first k r found finished
  obtain ⟨found'', entries''⟩ := second k r found' finished
  exact ⟨found'', entries''.trans entries'⟩

theorem Sound.length_le_one (sound : Sound kind fits b) (k : κ) : (b.entries k).length ≤ 1 := by
  cases found : b.row k with
  | none => rw [sound.rest k (by rw [found]; nofun)]; simp
  | some r =>
    by_cases done : kind r = .done
    · obtain ⟨e, once, -⟩ := sound.done k r found done
      rw [once]
      simp
    · rw [sound.rest k (by rw [found]; rintro _ ⟨⟩; exact done)]
      simp

variable {r : ρ}

/-- A matter is done exactly when it has an entry. -/
theorem Sound.done_iff (sound : Sound kind fits b) (found : b.row k = some r) : kind r = .done ↔ b.entries k ≠ [] := by
  constructor
  · intro done
    obtain ⟨e, once, -⟩ := sound.done k r found done
    rw [once]
    simp
  · intro entered
    by_contra notDone
    exact entered (sound.rest k (by rw [found]; rintro _ ⟨⟩; exact notDone))

theorem Sound.fits_of_mem (sound : Sound kind fits b) {e : ε}
    (found : b.row k = some r) (member : e ∈ b.entries k) : kind r = .done ∧ fits r e := by
  have done := (sound.done_iff found).mpr (List.ne_nil_of_mem member)
  obtain ⟨e', once, fit⟩ := sound.done k r found done
  rw [once, List.mem_singleton] at member
  subst member
  exact ⟨done, fit⟩

end NewApi.Theory.Settlement
