/-
# Theory.Draw — ranked levels, lookups and weighted draws

* `levels`: the distinct values of a list, greatest first, and `levelAt`, the one of a given rank, where
  ranks past the end stay at the last one.
* A list of lookups that may fail (`mapM` over `Except`): all of them answered, one answer for each.
* `draw`: walk down the items, taking each one's weight off a number, until a test holds of what is
  left.  With `· < 0` exactly the items of positive weight can come out; with `· ≤ 0` every item can,
  if no weight is below two.  `stopIndex` is the walk with machine words, which is the same as long as
  every weight is one (`stopIndex_eq`).
-/
import Mathlib.Data.List.Dedup
import Mathlib.Data.List.Sort
import Mathlib.Algebra.Ring.Int.Defs
import Mathlib.Algebra.Ring.Nat
import NewApi.Theory.Machine

namespace NewApi.Theory
open List Option Nat

variable {α : Type}

/-! ## Levels -/

section
variable [LinearOrder α]

/-- The distinct values of a list, greatest first. -/
def levels (values : List α) : List α := values.dedup.insertionSort (· ≥ ·)

variable {values : List α} {a : α}

@[simp] theorem mem_levels : a ∈ levels values ↔ a ∈ values := by simp [levels]

theorem sortedGT_levels (values : List α) : (levels values).Pairwise (· > ·) := by
  have sorted : (levels values).Pairwise (· ≥ ·) := pairwise_insertionSort _ _
  have distinct : (levels values).Nodup := (perm_insertionSort _ _).nodup_iff.mpr values.nodup_dedup
  refine (sorted.and distinct).imp ?_
  rintro a b ⟨above, apart⟩
  exact lt_of_le_of_ne above (Ne.symm apart)

variable {others : List α} {rank : Nat}

theorem levels_congr (same : ∀ a, a ∈ values ↔ a ∈ others) : levels values = levels others := by
  have reordered : (levels values).Perm (levels others) := by
    refine (perm_ext_iff_of_nodup ?_ ?_).mpr (by simpa using same)
    · exact (sortedGT_levels values).imp ne_of_gt
    · exact (sortedGT_levels others).imp ne_of_gt
  exact reordered.eq_of_pairwise (fun a b _ _ above below => absurd above (lt_asymm below))
    (sortedGT_levels values) (sortedGT_levels others)

@[simp] theorem levels_eq_nil : levels values = [] ↔ values = [] := by simp [eq_nil_iff_forall_not_mem]

/-- The level of a rank; ranks past the end stay at the last level. -/
def levelAt (values : List α) (rank : Nat) : Option α :=
  (levels values)[if rank ≥ (levels values).length then (levels values).length - 1 else rank]?

theorem levelAt_isSome (some : values ≠ []) (rank : Nat) : (levelAt values rank).isSome := by
  have : 0 < (levels values).length := length_pos_iff.mpr (mt levels_eq_nil.mp some)
  rw [isSome_iff_exists]
  exact ⟨_, getElem?_eq_getElem (by split <;> omega)⟩

theorem levelAt_congr (same : ∀ a, a ∈ values ↔ a ∈ others) (rank : Nat) :
    levelAt values rank = levelAt others rank := by
  unfold levelAt
  rw [levels_congr same]

theorem mem_of_levelAt (found : levelAt values rank = some a) : a ∈ values := mem_levels.mp (mem_of_getElem? found)

/-- Rank zero is the greatest value. -/
theorem levelAt_zero : levelAt values 0 = some a ↔ a ∈ values ∧ ∀ b ∈ values, b ≤ a := by
  have first : levelAt values 0 = (levels values).head? := by
    unfold levelAt
    split
    · rename_i short
      rw [length_eq_zero_iff.mp (le_zero.mp short)]
      rfl
    · exact head?_eq_getElem?.symm
  have sorted := sortedGT_levels values
  rw [first]
  cases all : levels values with
  | nil =>
    have empty := levels_eq_nil.mp all
    simp [empty]
  | cons top rest =>
    rw [all] at sorted
    have members (b : α) : b ∈ values ↔ b = top ∨ b ∈ rest := by rw [← mem_levels, all, mem_cons]
    have below := (pairwise_cons.mp sorted).1
    simp only [head?_cons, Option.some.injEq, members]
    constructor
    · rintro rfl
      exact ⟨.inl rfl, by rintro b (rfl | later); exacts [le_rfl, (below b later).le]⟩
    · rintro ⟨rfl | later, greatest⟩
      · rfl
      · exact absurd (below a later) (not_lt_of_ge (greatest top (.inl rfl)))

/-- The distinct values that are greater. -/
def rankOf (values : List α) (a : α) : Nat := values.dedup.countP (a < ·)

theorem countP_getElem_of_sorted {l : List α} (sorted : l.Pairwise (· > ·)) {i : Nat}
    (inside : i < l.length) : l.countP (l[i] < ·) = i := by
  induction l generalizing i with
  | nil => exact absurd inside (not_lt_zero i)
  | cons top rest ih =>
    obtain ⟨below, others⟩ := pairwise_cons.mp sorted
    cases i with
    | zero =>
      rw [getElem_cons_zero, countP_eq_zero]
      intro b member
      rcases mem_cons.mp member with rfl | later
      · simp
      · simpa using (below b later).le
    | succ i =>
      have later : i < rest.length := lt_of_succ_lt_succ inside
      rw [getElem_cons_succ, countP_cons, ih others later, if_pos (by simpa using below _ (getElem_mem later))]

theorem levelAt_eq_some_iff : levelAt values rank = some a ↔
      a ∈ values ∧ rankOf values a = min rank (values.dedup.length - 1) := by
  have reordered : (levels values).Perm values.dedup := perm_insertionSort _ _
  have counted {i : Nat} (inside : i < (levels values).length) : rankOf values (levels values)[i] = i := by
    rw [rankOf, ← reordered.countP_eq]
    exact countP_getElem_of_sorted (sortedGT_levels values) inside
  have clamped : (if rank ≥ (levels values).length then (levels values).length - 1 else rank) =
      min rank (values.dedup.length - 1) := by
    rw [← reordered.length_eq]
    split <;> omega
  rw [levelAt, clamped, getElem?_eq_some_iff]
  constructor
  · rintro ⟨inside, rfl⟩
    exact ⟨mem_levels.mp (getElem_mem inside), counted inside⟩
  · rintro ⟨member, rank⟩
    obtain ⟨i, inside, rfl⟩ := getElem_of_mem (mem_levels.mpr member)
    rw [counted inside] at rank
    subst rank
    exact ⟨inside, rfl⟩

/-- A higher rank never stands for a greater value. -/
theorem levelAt_anti {low high : Nat} {b : α} (order : low ≤ high)
    (first : levelAt values low = some a) (second : levelAt values high = some b) : b ≤ a := by
  have sorted := List.pairwise_iff_getElem.mp (sortedGT_levels values)
  obtain ⟨inside, rfl⟩ := List.getElem?_eq_some_iff.mp first
  obtain ⟨within, rfl⟩ := List.getElem?_eq_some_iff.mp second
  rcases lt_trichotomy (if low ≥ (levels values).length then (levels values).length - 1 else low)
    (if high ≥ (levels values).length then (levels values).length - 1 else high) with
    before | same | after
  · exact le_of_lt (sorted _ _ inside within before)
  · simp only [same, le_refl]
  · split at after <;> split at after <;> omega

end

section
variable {β ε : Type} {f : α → Except ε β} {l : List α} {out : List β}

theorem mapM_ok_cons {a : α} : (a :: l).mapM f = .ok out ↔
      ∃ b rest, f a = .ok b ∧ l.mapM f = .ok rest ∧ out = b :: rest := by
  rw [mapM_cons]
  cases first : f a with
  | error _ => simp [bind, Except.bind]
  | ok b =>
    cases others : l.mapM f with
    | error _ => simp [bind, Except.bind]
    | ok rest => simp [bind, Except.bind, pure, Except.pure, eq_comm]

theorem mapM_ok_length (mapped : l.mapM f = .ok out) : out.length = l.length := by
  induction l generalizing out with
  | nil => cases mapped; rfl
  | cons a l step =>
    obtain ⟨b, rest, -, others, rfl⟩ := mapM_ok_cons.mp mapped
    simp [step others]

theorem mem_of_mapM_ok (mapped : l.mapM f = .ok out) (b : β) : b ∈ out ↔ ∃ a ∈ l, f a = .ok b := by
  induction l generalizing out with
  | nil => cases mapped; simp
  | cons a l step =>
    obtain ⟨first, rest, here, others, rfl⟩ := mapM_ok_cons.mp mapped
    simp [step others, here, eq_comm]

theorem mapM_ok_of_forall (known : ∀ a ∈ l, ∃ b, f a = .ok b) : ∃ out, l.mapM f = .ok out := by
  induction l with
  | nil => exact ⟨[], rfl⟩
  | cons a l step =>
    obtain ⟨b, first⟩ := known a mem_cons_self
    obtain ⟨rest, others⟩ := step fun c inside => known c (mem_cons_of_mem _ inside)
    exact ⟨b :: rest, mapM_ok_cons.mpr ⟨b, rest, first, others, rfl⟩⟩

end

/-! ## Draws -/

/-- Walk down the items, taking each one's weight off `value`, until `stop` holds. -/
def draw (weight : α → Nat) (stop : Int → Bool) : Int → List α → Option α
  | _, [] => none
  | value, item :: rest =>
    if stop (value - weight item) then some item
    else draw weight stop (value - weight item) rest

variable {stop : Int → Bool} {value : Int} {item : α} {weight : α → Nat}

theorem draw_stop (rest : List α) (stops : stop (value - weight item) = true) :
    draw weight stop value (item :: rest) = some item := by
  simp only [draw, stops, if_true]

theorem draw_pass (rest : List α) (goes : stop (value - weight item) = false) :
    draw weight stop value (item :: rest) = draw weight stop (value - weight item) rest := by
  simp [draw, goes]

theorem mem_of_draw {items : List α} {a : α} (drawn : draw weight stop value items = some a) : a ∈ items := by
  induction items generalizing value with
  | nil => cases drawn
  | cons item rest step =>
    simp only [draw] at drawn
    split at drawn
    · cases drawn
      exact mem_cons_self
    · exact mem_cons_of_mem _ (step drawn)

def drawIndex (weight : α → Nat) (stop : Int → Bool) : Int → List α → Option Nat
  | _, [] => none
  | value, item :: rest =>
    if stop (value - weight item) then some 0
    else (drawIndex weight stop (value - weight item) rest).map (· + 1)

theorem draw_eq_getElem? (weight : α → Nat) (stop : Int → Bool) (value : Int) (items : List α) :
    draw weight stop value items = (drawIndex weight stop value items).bind (items[·]?) := by
  induction items generalizing value with
  | nil => rfl
  | cons item rest ih =>
    rw [draw, drawIndex]
    split_ifs
    · rfl
    · rw [ih, bind_map]
      rfl

/-- Where the walk stops if the weights and what is left of the value are machine words. -/
def stopIndex (weight : α → Int) (stop : Int → Bool) : Int → List α → Option Nat
  | _, [] => none
  | value, item :: rest =>
    if stop (wrap64 (value - weight item)) then some 0
    else (stopIndex weight stop (wrap64 (value - weight item)) rest).map (· + 1)

theorem stopIndex_eq {word : α → Int} {items : List α} (words : ∀ a ∈ items, word a = weight a ∧ weight a < 2 ^ 63)
    (stops : ∀ n < 0, stop n = true) (low : 0 ≤ value) (high : value < 2 ^ 63) :
    stopIndex word stop value items = drawIndex weight stop value items := by
  induction items generalizing value with
  | nil => rfl
  | cons item rest ih =>
    obtain ⟨⟨same, fits⟩, others⟩ := forall_mem_cons.mp words
    rw [stopIndex, drawIndex, same, wrap64_of_bounds (by omega) (by omega)]
    split_ifs with ended
    · rfl
    · have left : 0 ≤ value - weight item := by
        by_contra negative
        exact ended (stops _ (by omega))
      rw [ih others left (by omega)]

section
variable (weight : α → Nat) {items : List α}

/-- Each place is drawn by as many values below the total as its item weighs. -/
theorem countP_drawIndex {i : Nat} (inside : i < items.length) : (List.range (items.map weight).sum).countP
      (fun value : Nat => drawIndex weight (· < 0) value items = some i) = weight items[i] := by
  induction items generalizing i with
  | nil => exact absurd inside (not_lt_zero i)
  | cons item rest ih =>
    have first {value : Nat} (low : value < weight item) : drawIndex weight (· < 0) value (item :: rest) = some 0 := by
      rw [drawIndex, if_pos (by simp; omega)]
    have other (value : Nat) : drawIndex weight (· < 0) (weight item + value) (item :: rest) =
        (drawIndex weight (· < 0) value rest).map (· + 1) := by
      rw [drawIndex, if_neg (by simp), add_sub_cancel_left]
    rw [map_cons, sum_cons, range_add, countP_append, countP_map]
    cases i with
    | zero =>
      rw [countP_eq_length.mpr, countP_eq_zero.mpr, length_range]
      · rfl
      · intro value _
        simp [other]
      · intro value member
        simp [first (mem_range.mp member)]
    | succ i =>
      rw [countP_eq_zero.mpr, zero_add, getElem_cons_succ, ← ih (lt_of_succ_lt_succ inside)]
      · refine countP_congr fun value _ => ?_
        simp [other]
      · intro value member
        simp [first (mem_range.mp member)]

theorem exists_draw_neg (items : List α) (value : Nat) (below : value < (items.map weight).sum) :
    ∃ a, draw weight (· < 0) value items = some a ∧ 0 < weight a := by
  induction items generalizing value with
  | nil => simp at below
  | cons item rest step =>
    simp only [map_cons, sum_cons] at below
    by_cases falls : value < weight item
    · exact ⟨item, draw_stop rest (by simp; omega), by omega⟩
    · obtain ⟨a, drawn, positive⟩ := step (value - weight item) (by omega)
      refine ⟨a, ?_, positive⟩
      rw [draw_pass rest (by simp; omega), ← cast_sub (by omega), drawn]

variable {a : α}

theorem draw_neg_reaches (member : a ∈ items) (positive : 0 < weight a) :
    ∃ value : Nat, value < (items.map weight).sum ∧ draw weight (· < 0) value items = some a := by
  induction items with
  | nil => cases member
  | cons item rest step =>
    rcases mem_cons.mp member with rfl | later
    · refine ⟨0, ?_, ?_⟩
      · simp only [map_cons, sum_cons]
        omega
      · exact draw_stop rest (by simp; omega)
    · obtain ⟨value, below, drawn⟩ := step later
      refine ⟨value + weight item, ?_, ?_⟩
      · simp only [map_cons, sum_cons]
        omega
      · rw [draw_pass rest (by simp), cast_add, add_sub_cancel_right, drawn]

/-- What a draw below the total weight can give: the items of positive weight. -/
theorem mem_draw_neg_iff : (∃ value : Nat, value < (items.map weight).sum ∧ draw weight (· < 0) value items = some a) ↔
      a ∈ items ∧ 0 < weight a := by
  constructor
  · rintro ⟨value, below, drawn⟩
    obtain ⟨b, same, positive⟩ := exists_draw_neg weight items value below
    obtain rfl : a = b := Option.some.inj (drawn.symm.trans same)
    exact ⟨mem_of_draw drawn, positive⟩
  · rintro ⟨member, positive⟩
    exact draw_neg_reaches weight member positive

end

variable (weight : α → Nat)

theorem exists_draw_nonpos (items : List α) (value : Nat) (below : value < (items.map weight).sum) :
    ∃ a, draw weight (· ≤ 0) value items = some a := by
  induction items generalizing value with
  | nil => simp at below
  | cons item rest step =>
    simp only [map_cons, sum_cons] at below
    by_cases falls : value ≤ weight item
    · exact ⟨item, draw_stop rest (by simp; omega)⟩
    · obtain ⟨a, drawn⟩ := step (value - weight item) (by omega)
      refine ⟨a, ?_⟩
      rw [draw_pass rest (by simp; omega), ← cast_sub (by omega), drawn]

variable {items : List α}

/-- The first item comes out at one, the others past it. -/
theorem draw_nonpos_reaches (heavy : ∀ a ∈ items, 2 ≤ weight a) {a : α} (member : a ∈ items) :
    ∃ value : Nat, 0 < value ∧ value < (items.map weight).sum ∧ draw weight (· ≤ 0) value items = some a := by
  induction items with
  | nil => cases member
  | cons item rest step =>
    have first := heavy item mem_cons_self
    rcases mem_cons.mp member with rfl | later
    · refine ⟨1, one_pos, ?_, ?_⟩
      · simp only [map_cons, sum_cons]
        omega
      · exact draw_stop rest (by simp; omega)
    · obtain ⟨value, positive, below, drawn⟩ := step (fun b inside => heavy b (mem_cons_of_mem _ inside)) later
      refine ⟨value + weight item, by omega, ?_, ?_⟩
      · simp only [map_cons, sum_cons]
        omega
      · rw [draw_pass rest (by simp; omega), cast_add, add_sub_cancel_right, drawn]

theorem countP_range_le (n w : Nat) : (List.range n).countP (· ≤ w) = min n (w + 1) := by
  induction n with
  | zero => simp
  | succ n ih =>
    rw [range_succ, countP_append, ih, countP_singleton]
    by_cases inside : n ≤ w
    · simp only [inside, decide_true, if_true]
      omega
    · simp only [inside, decide_false, Bool.false_eq_true, if_false]
      omega

/-- Zero stops at the first item too, so the first of several comes out once too often. -/
theorem countP_drawIndex_nonpos_iff (n : Nat) (nonempty : items ≠ []) (positive : ∀ a ∈ items, 0 < weight a) :
    (∀ i (inside : i < items.length), (List.range n).countP
      (fun value : Nat => drawIndex weight (· ≤ 0) value items = some i) = weight items[i]) ↔
      items.length = 1 ∧ n = (items.map weight).sum := by
  cases items with
  | nil => exact absurd rfl nonempty
  | cons item rest =>
    have first (value : Nat) : drawIndex weight (· ≤ 0) value (item :: rest) = some 0 ↔ value ≤ weight item := by
      rw [drawIndex]
      split <;> simp_all
    have count : (List.range n).countP (fun value : Nat => drawIndex weight (· ≤ 0) value (item :: rest) = some 0) =
        min n (weight item + 1) := by simp only [first, countP_range_le]
    have here := positive item mem_cons_self
    cases rest with
    | nil =>
      simp only [length_singleton, map_singleton, sum_singleton, true_and]
      constructor
      · intro exactly
        have := (exactly 0 (by simp)).symm.trans count
        simp only [getElem_cons_zero] at this
        omega
      · rintro rfl i inside
        obtain rfl : i = 0 := by omega
        rw [count, getElem_cons_zero]
        omega
    | cons next others =>
      refine iff_of_false (fun exactly => ?_) (by simp)
      have total := (exactly 0 (by simp)).symm.trans count
      simp only [getElem_cons_zero] at total
      have never := exactly 1 (by simp)
      rw [countP_eq_zero.mpr] at never
      · have := positive next (by simp)
        simp at never
        omega
      · intro value below
        have stops := (first value).mpr (by have := mem_range.mp below; omega)
        simp [stops]

end NewApi.Theory
