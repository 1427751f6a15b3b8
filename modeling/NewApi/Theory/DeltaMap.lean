/-
# Theory.DeltaMap — a map of amounts that are added up

A missing key counts as zero, and adding to a key enters it.  The keys are distinct by
construction, so an iteration over the entries meets each key once, with its amount.  The
order of an iteration is not part of the map: it is a `RangeOrder`.
-/
import Mathlib.Data.List.Rotate

namespace NewApi.Theory
open List

structure DeltaMap (κ : Type) where
  entries : List (κ × Int)
  distinct : (entries.map Prod.fst).Nodup

namespace DeltaMap

variable {κ : Type} [DecidableEq κ]

def empty : DeltaMap κ := ⟨[], List.nodup_nil⟩

def valueIn (key : κ) : List (κ × Int) → Int
  | [] => 0
  | entry :: rest => if entry.1 = key then entry.2 else valueIn key rest

variable (m : DeltaMap κ)

def value (key : κ) : Int := valueIn key m.entries

/-- `amount` more under `key`, which is entered if it is not there. -/
def addIn (key : κ) (amount : Int) : List (κ × Int) → List (κ × Int)
  | [] => [(key, amount)]
  | entry :: rest =>
    if entry.1 = key then (key, entry.2 + amount) :: rest else entry :: addIn key amount rest

variable (key : κ)

theorem keys_addIn (amount : Int) (entries : List (κ × Int)) : (addIn key amount entries).map Prod.fst =
      if key ∈ entries.map Prod.fst then entries.map Prod.fst else entries.map Prod.fst ++ [key] := by
  induction entries with
  | nil => simp [addIn]
  | cons entry rest ih =>
    by_cases same : entry.1 = key
    · simp [addIn, same]
    · have other : ¬key = entry.1 := fun h => same h.symm
      simp only [addIn, same, if_false, map_cons, ih, mem_cons, other, false_or]
      split <;> rfl

def add (key : κ) (amount : Int) : DeltaMap κ where
  entries := addIn key amount m.entries
  distinct := by
    rw [keys_addIn]
    split
    · exact m.distinct
    · rename_i fresh
      exact List.nodup_append.mpr ⟨m.distinct, List.nodup_singleton _, by
        rintro a inside b last rfl
        exact fresh (List.mem_singleton.mp last ▸ inside)⟩

@[simp] theorem value_empty : (empty : DeltaMap κ).value key = 0 := rfl

theorem valueIn_addIn (amount : Int) (entries : List (κ × Int)) (key' : κ) :
    valueIn key' (addIn key amount entries) = valueIn key' entries + if key' = key then amount else 0 := by
  induction entries with
  | nil => by_cases same : key = key' <;> simp [addIn, valueIn, same, eq_comm]
  | cons entry rest ih =>
    by_cases here : entry.1 = key
    · by_cases same : key = key'
      · simp [addIn, valueIn, here, same]
      · have other : ¬key' = key := fun h => same h.symm
        simp [addIn, valueIn, here, same, other]
    · by_cases there : entry.1 = key'
      · have other : ¬key' = key := fun h => here (there.trans h)
        simp [addIn, valueIn, there, other]
      · simp [addIn, valueIn, here, there, ih]

@[simp] theorem value_add (amount : Int) (key' : κ) :
    (m.add key amount).value key' = m.value key' + if key' = key then amount else 0 :=
  valueIn_addIn key amount m.entries key'

variable {m : DeltaMap κ}

/-- A key that is not entered counts as zero. -/
theorem value_of_absent {key : κ} (absent : key ∉ m.entries.map Prod.fst) : m.value key = 0 := by
  have lookup : ∀ entries : List (κ × Int), key ∉ entries.map Prod.fst → valueIn key entries = 0 := by
    intro entries
    induction entries with
    | nil => simp [valueIn]
    | cons entry rest ih =>
      intro absent
      simp only [map_cons, mem_cons, not_or] at absent
      rw [valueIn, if_neg fun h => absent.1 h.symm]
      exact ih absent.2
  exact lookup m.entries absent

theorem value_of_mem {entry : κ × Int} (inside : entry ∈ m.entries) : m.value entry.1 = entry.2 := by
  have lookup : ∀ entries : List (κ × Int), (entries.map Prod.fst).Nodup → entry ∈ entries →
      valueIn entry.1 entries = entry.2 := by
    intro entries
    induction entries with
    | nil => simp
    | cons first rest ih =>
      intro distinct inside
      simp only [map_cons, nodup_cons] at distinct
      rcases mem_cons.mp inside with rfl | later
      · simp [valueIn]
      · have other : first.1 ≠ entry.1 := by
          intro same
          exact distinct.1 (mem_map.mpr ⟨entry, later, same.symm⟩)
        rw [valueIn, if_neg other]
        exact ih distinct.2 later
  exact lookup m.entries m.distinct inside

end DeltaMap

/-- The order in which an iteration meets the elements of a set or a map. -/
structure RangeOrder where
  list : {α : Type} → List α → List α
  perm : ∀ {α : Type} (elements : List α), (list elements).Perm elements

/-- First come, first met. -/
def RangeOrder.inserted : RangeOrder := ⟨id, fun _ => .refl _⟩

end NewApi.Theory
