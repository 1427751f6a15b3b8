/-
# Theory.Rows — a table as a list of rows with a key column

`find` is `SELECT … WHERE key = k LIMIT 1`, `put` is `UPDATE … WHERE key = …`, `save` an update that
inserts the row when there is none.  Each is described by what it does to lookups and membership.
-/
import Mathlib.Data.List.Find
import Mathlib.Data.List.Nodup

namespace NewApi.Theory.Rows
open Option List

variable {α κ : Type} [DecidableEq κ] (key : α → κ)

def find (k : κ) (rows : List α) : Option α := rows.find? (key · = k)

def put (row : α) (rows : List α) : List α := rows.map fun r => if key r = key row then row else r

def save (row : α) (rows : List α) : List α :=
  if (find key (key row) rows).isSome then put key row rows else rows ++ [row]

variable {key : α → κ} {rows : List α} {row r : α} {k : κ}

theorem mem_of_find (found : find key k rows = some row) : row ∈ rows ∧ key row = k :=
  ⟨mem_of_find?_eq_some found, by simpa using find?_some found⟩

theorem find_eq_none : find key k rows = none ↔ ∀ r ∈ rows, key r ≠ k := by
  simp [find]

theorem find_of_mem (keys : (rows.map key).Nodup) (member : row ∈ rows) : find key (key row) rows = some row := by
  induction rows with
  | nil => cases member
  | cons r rows ih =>
    simp only [map_cons, nodup_cons] at keys
    rcases mem_cons.mp member with rfl | later
    · simp [find]
    · have other : key r ≠ key row := by
        intro same
        exact keys.1 (mem_map.mpr ⟨row, later, same.symm⟩)
      simpa [find, find?_cons, other] using ih keys.2 later

/-! ## Saving -/

theorem find_put (row : α) (k : κ) (rows : List α) : find key k (put key row rows) =
      (find key k rows).map fun r => if key r = key row then row else r := by
  unfold find put
  rw [find?_map]
  congr 2
  funext r
  simp only [Function.comp]
  split
  · rename_i same; rw [same]
  · rfl

/-- The lookups after saving over an existing row. -/
theorem find_put_of_found (found : find key (key row) rows = some r) (k : κ) :
    find key k (put key row rows) = if k = key row then some row else find key k rows := by
  rw [find_put]
  by_cases same : k = key row
  · subst same
    rw [found, if_pos rfl]
    simp [(mem_of_find found).2]
  · rw [if_neg same]
    cases other : find key k rows with
    | none => rfl
    | some r' =>
      have : key r' ≠ key row := by rw [(mem_of_find other).2]; exact same
      simp [this]

/-- A lookup by another unique column, after saving over the row that it finds. -/
theorem find_put_column {κ' : Type} [DecidableEq κ'] {column : α → κ'} (keys : (rows.map key).Nodup)
    (stored : find column (column row) rows = some r) (same : key r = key row) (k : κ') :
    find column k (put key row rows) = if k = column row then some row else find column k rows := by
  obtain ⟨member, here⟩ := mem_of_find stored
  have only : ∀ x ∈ rows, key x = key row → x = r := fun x inside found =>
    inj_on_of_nodup_map keys inside member (found.trans same.symm)
  have fixed : ∀ x ∈ rows, column (if key x = key row then row else x) = column x := by
    intro x inside
    split
    · rename_i found
      rw [only x inside found, here]
    · rfl
  have looked : find column k (put key row rows) =
      (find column k rows).map fun x => if key x = key row then row else x := by
    unfold find put
    rw [find?_map]
    congr 1
    refine find?_congr fun x inside => ?_
    simp only [Function.comp, fixed x inside]
  rw [looked]
  by_cases this : k = column row
  · rw [if_pos this, this, stored, map_some, if_pos same]
  rw [if_neg this]
  cases found : find column k rows with
  | none => rfl
  | some x =>
    obtain ⟨inside, column_x⟩ := mem_of_find found
    have other : key x ≠ key row := by
      intro found
      rw [only x inside found, here] at column_x
      exact this column_x.symm
    rw [map_some, if_neg other]

theorem map_key_put (row : α) (rows : List α) : (put key row rows).map key = rows.map key := by
  unfold put
  rw [List.map_map]
  refine map_congr_left fun r _ => ?_
  simp only [Function.comp]
  split
  · rename_i same; exact same.symm
  · rfl

theorem mem_put (member : r ∈ put key row rows) : r = row ∨ (r ∈ rows ∧ key r ≠ key row) := by
  obtain ⟨old, inside, rfl⟩ := mem_map.mp member
  by_cases same : key old = key row
  · exact .inl (if_pos same)
  · rw [if_neg same]
    exact .inr ⟨inside, same⟩

theorem mem_put_of_ne (member : r ∈ rows) (other : key r ≠ key row) : r ∈ put key row rows :=
  mem_map.mpr ⟨r, member, if_neg other⟩

theorem mem_put_self (member : r ∈ rows) (same : key r = key row) : row ∈ put key row rows :=
  mem_map.mpr ⟨r, member, if_pos same⟩

theorem find_append (fresh : find key (key row) rows = none) (k : κ) :
    find key k (rows ++ [row]) = if k = key row then some row else find key k rows := by
  unfold find at fresh ⊢
  rw [find?_append]
  by_cases same : k = key row
  · subst same
    rw [fresh, if_pos rfl]
    simp
  · have other : ¬key row = k := fun h => same h.symm
    simp [same, other]

theorem nodup_append (keys : (rows.map key).Nodup) (fresh : find key (key row) rows = none) :
    ((rows ++ [row]).map key).Nodup := by
  rw [List.map_append, List.nodup_append]
  refine ⟨keys, nodup_singleton _, ?_⟩
  rintro a inside b last rfl
  obtain ⟨r, member, rfl⟩ := mem_map.mp inside
  exact find_eq_none.mp fresh r member (mem_singleton.mp last)

theorem save_of_found (found : find key (key row) rows = some r) : save key row rows = put key row rows :=
  if_pos (by rw [found]; rfl)

theorem of_mem_save (member : r ∈ save key row rows) : r = row ∨ r ∈ rows ∧ key r ≠ key row := by
  cases found : find key (key row) rows with
  | none =>
    simp only [save, found, Option.isSome_none, Bool.false_eq_true, if_false, mem_append, mem_singleton] at member
    exact member.symm.imp_right fun old => ⟨old, find_eq_none.mp found r old⟩
  | some _ =>
    rw [save_of_found found, put, List.mem_map] at member
    obtain ⟨old, there, rfl⟩ := member
    split
    · exact .inl rfl
    · exact .inr ⟨there, ‹_›⟩

end NewApi.Theory.Rows
