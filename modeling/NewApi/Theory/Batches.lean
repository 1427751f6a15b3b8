/-
# Theory.Batches — work done in batches until one is not full

A job takes at most `size` rows at a time and goes on as long as a batch was full:
`for { n := batch(); if n < size { break } }`.  A batch is a relation, so that one which never returns
can be described too.  If a full batch without progress changes nothing, the job ends exactly when
every batch returns and, when full, makes progress (`exists_ends_iff`).
-/
import Mathlib.Data.Nat.Init

namespace NewApi.Theory.Batches

variable {S : Type} (batch : S → Int → S → Prop) (size : Int)

/-- The job started in one state ends in another. -/
inductive Ends : S → S → Prop where
  | last {s s' : S} {n : Int} (ran : batch s n s') (short : n < size) : Ends s s'
  | again {s s' s'' : S} {n : Int} (ran : batch s n s') (full : size ≤ n) (rest : Ends s' s'') :
      Ends s s''

/-- The states before the batches of a job. -/
inductive Reached (s : S) : S → Prop where
  | start : Reached s s
  | next {s' s'' : S} {n : Int} (before : Reached s s') (ran : batch s' n s'') (full : size ≤ n) :
      Reached s s''

/-- A batch has at most one result. -/
def Functional : Prop := ∀ s n n' s' s'', batch s n s' → batch s n' s'' → n = n' ∧ s' = s''

variable {batch size} {s s' s'' : S}

theorem Reached.trans (first : Reached batch size s s') (rest : Reached batch size s' s'') :
    Reached batch size s s'' := by
  induction rest with
  | start => exact first
  | next _ ran full ih => exact ih.next ran full

theorem Ends.reached (ends : Ends batch size s s') :
    ∃ before n, Reached batch size s before ∧ batch before n s' ∧ n < size := by
  induction ends with
  | last ran short => exact ⟨_, _, .start, ran, short⟩
  | again ran full _ ih =>
    obtain ⟨before, n, reached, ended, short⟩ := ih
    exact ⟨before, n, (Reached.start.next ran full).trans reached, ended, short⟩

/-- A job whose batches are functions ends in one state. -/
theorem Ends.unique (det : Functional batch) (one : Ends batch size s s') (two : Ends batch size s s'') : s' = s'' := by
  induction one with
  | last ran short =>
    cases two with
    | last ran' _ => exact (det _ _ _ _ _ ran ran').2
    | again ran' full _ =>
      have same := (det _ _ _ _ _ ran ran').1
      omega
  | again ran full _ ih =>
    cases two with
    | last ran' short =>
      have same := (det _ _ _ _ _ ran ran').1
      omega
    | again ran' _ rest =>
      obtain ⟨-, rfl⟩ := det _ _ _ _ _ ran ran'
      exact ih rest

/-- What every full batch keeps holds of every state the job comes to. -/
theorem Reached.invariant {Inv : S → Prop} (reached : Reached batch size s s') (init : Inv s)
    (step : ∀ s n s', Inv s → batch s n s' → Inv s') : Inv s' := by
  induction reached with
  | start => exact init
  | next _ ran _ ih => exact step _ _ _ ih ran

/-- A rank that falls with every full batch is enough for the job to end. -/
theorem exists_ends (rank : S → Nat) (progress : ∀ s', Reached batch size s s' → ∃ n s'', batch s' n s'' ∧
      (size ≤ n → rank s'' < rank s')) : ∃ s', Ends batch size s s' := by
  induction height : rank s using Nat.strongRecOn generalizing s with
  | ind height ih =>
    obtain ⟨n, s', ran, falls⟩ := progress s .start
    by_cases full : size ≤ n
    · have onward : Reached batch size s s' := Reached.start.next ran full
      obtain ⟨last, ends⟩ := ih (rank s') (height ▸ falls full) (fun s'' later => progress s'' (onward.trans later)) rfl
      exact ⟨last, .again ran full ends⟩
    · exact ⟨s', .last ran (by omega)⟩

/-- **The job ends if and only if every batch returns, and makes progress when it is full.** -/
theorem exists_ends_iff (det : Functional batch) (rank : S → Nat)
    (stuck : ∀ s' n s'', Reached batch size s s' → batch s' n s'' → size ≤ n → s'' = s' ∨ rank s'' < rank s') :
    (∃ s', Ends batch size s s') ↔
      ∀ s', Reached batch size s s' → ∃ n s'', batch s' n s'' ∧ (size ≤ n → rank s'' < rank s') := by
  refine ⟨?_, exists_ends rank⟩
  rintro ⟨final, ends⟩ s' reached
  -- The rest of the job is a job too, and `s'` is where it starts or one of its states.
  induction ends generalizing s' with
  | last ran short =>
    rename_i s₀ s₁ n
    have here : s' = s₀ := by
      induction reached with
      | start => rfl
      | next _ ran' full ih =>
        cases ih
        have same := (det _ _ _ _ _ ran ran').1
        omega
    subst here
    exact ⟨_, _, ran, fun full => by omega⟩
  | again ran full _ ih =>
    rename_i s₀ s₁ s₂ n _
    have onward : Reached batch size s₀ s₁ := Reached.start.next ran full
    have rest := ih (fun s' n s'' later => stuck s' n s'' (onward.trans later))
    have moved : rank s₁ < rank s₀ := by
      rcases stuck s₀ n s₁ .start ran full with rfl | falls
      · -- A batch that changes nothing comes again, and would have to make progress.
        obtain ⟨n', s'', ran', falls⟩ := rest s₁ .start
        obtain ⟨rfl, rfl⟩ := det _ _ _ _ _ ran ran'
        exact falls full
      · exact falls
    have split : s' = s₀ ∨ Reached batch size s₁ s' := by
      induction reached with
      | start => exact .inl rfl
      | next _ ran' full' ih =>
        rcases ih with rfl | later
        · obtain ⟨rfl, rfl⟩ := det _ _ _ _ _ ran ran'
          exact .inr .start
        · exact .inr (later.next ran' full')
    rcases split with rfl | later
    · exact ⟨n, s₁, ran, fun _ => moved⟩
    · exact rest s' later

/-- A full batch that changes nothing comes again for ever. -/
theorem not_ends_of_still (det : Functional batch) {n : Int} (ran : batch s n s) (full : size ≤ n) :
    ¬∃ s', Ends batch size s s' := by
  rintro ⟨s', ends⟩
  induction ends with
  | last ran' short =>
    have same := (det _ _ _ _ _ ran ran').1
    omega
  | again ran' _ _ ih =>
    obtain ⟨-, rfl⟩ := det _ _ _ _ _ ran ran'
    exact ih ran

end NewApi.Theory.Batches
