/-
# Theory.Decimal — whole numbers out of decimals

Prices and ratios are exact decimals in the source; here they are rationals.  `intPart`
cuts the fraction off, `round` takes the nearest whole number and the one further from
zero in the middle.  A cut between two factors makes no difference, whichever comes first, exactly
where both are whole or both divide (`of_cut_both`).
-/
import Mathlib.Algebra.Order.Floor.Ring
import Mathlib.Data.Nat.ModEq
import Mathlib.Data.Rat.Floor
import Mathlib.Tactic.FieldSimp
import Mathlib.Tactic.LinearCombination
import Mathlib.Tactic.Positivity

namespace NewApi.Theory.Decimal

variable (x : Rat)

/-- `decimal.IntPart`: the fraction is cut off. -/
def intPart : Int := x.num.tdiv x.den

def round : Int := if x < 0 then -(-x + 1 / 2).floor else (x + 1 / 2).floor

variable {x y : Rat}

theorem intPart_nonneg (nonneg : 0 ≤ x) : 0 ≤ intPart x :=
  Int.tdiv_nonneg (Rat.num_nonneg.mpr nonneg) (Int.natCast_nonneg _)

theorem intPart_intCast (n : Int) : intPart n = n := by
  simp [intPart]

theorem intPart_neg : intPart (-x) = -intPart x := by
  simp [intPart]

theorem intPart_nonpos (nonpos : x ≤ 0) : intPart x ≤ 0 := by
  have flipped := intPart_nonneg (neg_nonneg.mpr nonpos)
  rw [intPart_neg] at flipped
  omega

theorem intPart_eq_floor (nonneg : 0 ≤ x) : intPart x = x.floor := by
  rw [intPart, Rat.floor_def, Int.tdiv_eq_ediv_of_nonneg (Rat.num_nonneg.mpr nonneg)]

theorem intPart_le (nonneg : 0 ≤ x) : (intPart x : Rat) ≤ x := intPart_eq_floor nonneg ▸ Rat.floor_le x

theorem floor_eq_iff {n : Int} : x.floor = n ↔ (n : Rat) ≤ x ∧ x < n + 1 := by
  rw [← Rat.le_floor_iff, ← Int.cast_one, ← Int.cast_add, ← Rat.floor_lt_iff]
  omega

theorem intPart_mono (nonneg : 0 ≤ x) (le : x ≤ y) : intPart x ≤ intPart y := by
  rw [intPart_eq_floor nonneg, intPart_eq_floor (nonneg.trans le)]
  exact Rat.floor_monotone le

theorem abs_intPart_sub (x : Rat) : |(intPart x : Rat) - x| < 1 := by
  wlog nonneg : 0 ≤ x generalizing x
  · have flipped := this (-x) (by linarith)
    rwa [intPart_neg, Int.cast_neg, neg_sub_neg, abs_sub_comm] at flipped
  obtain ⟨least, most⟩ := floor_eq_iff.mp (intPart_eq_floor nonneg).symm
  rw [abs_lt]
  constructor <;> linarith

/-- Before a division by a whole number the fraction may be cut off. -/
theorem intPart_intPart_mul (x : Rat) (unit : y.num = 1) : intPart (intPart x * y) = intPart (x * y) := by
  wlog nonneg : 0 ≤ x generalizing x
  · have flipped := this (-x) (by linarith)
    rwa [intPart_neg, Int.cast_neg, neg_mul, neg_mul, intPart_neg, intPart_neg, neg_inj] at flipped
  have inverse : y = 1 / y.den := by
    rw [← Int.cast_one, ← unit]
    exact (Rat.num_div_den y).symm
  have low : (0 : Rat) ≤ intPart x := by exact_mod_cast intPart_nonneg nonneg
  have floors (z : Rat) : Rat.floor (z * y) = Rat.floor z / (y.den : Int) := by
    rw [inverse, mul_one_div, ← inverse]
    exact Int.floor_div_natCast z y.den
  have positive : (0 : Rat) ≤ y := Rat.num_nonneg.mp (by omega)
  rw [intPart_eq_floor (mul_nonneg low positive), intPart_eq_floor (mul_nonneg nonneg positive), floors, floors,
    Rat.floor_intCast, intPart_eq_floor nonneg]

/-- Below zero nothing is left of either. -/
theorem max_intPart : max 0 (intPart x) = max 0 x.floor := by
  rcases le_total 0 x with nonneg | nonpos
  · rw [intPart_eq_floor nonneg]
  · have below : x.floor ≤ 0 := by
      rw [← Rat.floor_intCast 0]
      exact Rat.floor_monotone nonpos
    rw [max_eq_left (intPart_nonpos nonpos), max_eq_left below]

theorem round_nonneg (nonneg : 0 ≤ x) : 0 ≤ round x := by
  rw [round, if_neg (not_lt.mpr nonneg)]
  exact Rat.le_floor_iff.mpr (by push_cast; positivity)

theorem round_neg : round (-x) = -round x := by
  rcases lt_trichotomy x 0 with low | rfl | high
  · simp [round, low, low.le]
  · decide +kernel
  · simp [round, high, high.le]

theorem round_mono (le : x ≤ y) : round x ≤ round y := by
  rcases lt_or_ge x 0 with low | nonneg
  · rcases lt_or_ge y 0 with below | above
    · rw [round, round, if_pos low, if_pos below]
      exact neg_le_neg (Rat.floor_monotone (by linarith))
    · have flipped := round_nonneg (neg_nonneg.mpr low.le)
      rw [round_neg] at flipped
      exact le_trans (by omega) (round_nonneg above)
  · rw [round, round, if_neg (not_lt.mpr nonneg), if_neg (not_lt.mpr (nonneg.trans le))]
    exact Rat.floor_monotone (by linarith)

/-! ### Where the first of two cuts makes no difference -/

/-- `X / v` and `Y / v`, with the product `u / v` in lowest terms. -/
theorem dvd_or_dvd_of_cut {X Y u v : Nat} (Y_pos : 0 < Y) (v_pos : 0 < v) (lowest : u.Coprime v) (product : X * Y = u * v)
    (same : ∀ q : Nat, q * X / v * Y / v = q * u / v) : v ∣ X ∨ Y ∣ v := by
  obtain ⟨q, inverse⟩ : ∃ q, u * q % v = 1 % v := by
    rcases Nat.lt_or_ge 1 v with big | small
    · obtain ⟨q, -, inverse⟩ := Nat.exists_mul_mod_eq_one_of_coprime lowest big
      exact ⟨q, by rw [inverse, Nat.mod_eq_of_lt big]⟩
    · obtain rfl : v = 1 := by omega
      exact ⟨0, by simp⟩
  rw [mul_comm] at inverse
  -- what the first cut takes away is worth a multiple of `v`, and less than two of them
  set A := q * X / v
  set rest := q * X % v
  have parts : v * A + rest = q * X := Nat.div_add_mod ..
  have worth : v * (A * Y) + rest * Y = v * (q * u) := by
    linear_combination Y * parts + q * product
  have whole : v * (A * Y / v) + A * Y % v = A * Y := Nat.div_add_mod ..
  have fine : v * (q * u / v) + q * u % v = q * u := Nat.div_add_mod ..
  rw [same] at whole
  have one : 1 % v ≤ 1 := Nat.mod_le ..
  have near : q * u ≤ A * Y + 1 := by omega
  have far : A * Y ≤ q * u := by
    have : v * (A * Y) ≤ v * (q * u) := by omega
    exact Nat.le_of_mul_le_mul_left this v_pos
  rcases Nat.eq_or_lt_of_le far with none | some
  · refine .inl ?_
    have zero : rest * Y = 0 := by
      rw [none] at worth
      omega
    have gone : rest = 0 := by
      rcases Nat.mul_eq_zero.mp zero with gone | none
      · exact gone
      · omega
    have divides : v ∣ q * X := Nat.dvd_of_mod_eq_zero gone
    have coprime : v.Coprime q := by
      refine Nat.Coprime.symm (Nat.Coprime.coprime_mul_right (k := u) ?_)
      rw [Nat.coprime_iff_gcd_eq_one, Nat.gcd_comm, Nat.gcd_rec, inverse, ← Nat.gcd_rec]
      simp
    exact coprime.dvd_of_dvd_mul_left divides
  · refine .inr ⟨rest, ?_⟩
    have one : q * u = A * Y + 1 := by omega
    rw [one, mul_add] at worth
    linarith [mul_comm Y rest]

theorem intPart_natCast_div (m d : Nat) : intPart ((m : Rat) / d) = (m / d : Nat) := by
  rw [intPart_eq_floor (by positivity)]
  exact (Rat.floor_natCast_div_natCast m d).trans (Int.natCast_ediv ..).symm

section
variable (x_pos : 0 < x) (y_pos : 0 < y) (first : ∀ q : Nat, intPart (intPart (q * x) * y) = intPart (q * (x * y)))
include x_pos y_pos first

/-- Of as many as the denominator of the product says, nothing can be cut off. -/
theorem whole_of_cut : ∃ X : Nat, (x * y).den * x = X := by
  set v := (x * y).den
  have low : (0 : Rat) ≤ v * x := by positivity
  refine ⟨(intPart (v * x)).toNat, ?_⟩
  have cast : ((intPart (v * x)).toNat : Rat) = (intPart (v * x) : Rat) := by
    exact_mod_cast congrArg (Int.cast (R := Rat)) (Int.toNat_of_nonneg (intPart_nonneg low))
  rw [cast]
  refine le_antisymm ?_ (intPart_le low)
  have product : (v : Rat) * (x * y) = (x * y).num := by
    rw [mul_comm]
    exact Rat.mul_den_eq_num _
  have cut := first v
  rw [product, intPart_intCast] at cut
  have kept : (intPart (intPart (v * x) * y) : Rat) ≤ intPart (v * x) * y :=
    intPart_le (mul_nonneg (by exact_mod_cast intPart_nonneg low) y_pos.le)
  rw [cut, ← product, ← mul_assoc] at kept
  exact le_of_mul_le_mul_right kept y_pos

/-- If cutting after each factor is exact in both orders, `x` is whole or `y` is one over a number. -/
theorem den_or_num_of_cut (second : ∀ q : Nat, intPart (intPart (q * y) * x) = intPart (q * (y * x))) :
    x.den = 1 ∨ y.num = 1 := by
  obtain ⟨X, X_eq⟩ := whole_of_cut x_pos y_pos first
  obtain ⟨Y, Y_eq⟩ := whole_of_cut y_pos x_pos second
  rw [mul_comm y x] at Y_eq
  have v_pos : (0 : Rat) < (x * y).den := by exact_mod_cast (x * y).den_pos
  have product : (x * y) * (x * y).den = ((x * y).num.natAbs : Rat) := by
    rw [Rat.mul_den_eq_num, ← Int.cast_natCast, Int.natAbs_of_nonneg (Rat.num_pos.mpr (mul_pos x_pos y_pos)).le]
  have lowest := (x * y).reduced
  generalize (x * y).den = v at *
  generalize (x * y).num.natAbs = u at *
  have x_eq : x = X / v := by field_simp; linarith
  have y_eq : y = Y / v := by field_simp; linarith
  have Y_pos : 0 < Y := by
    have : (0 : Rat) < Y := Y_eq ▸ mul_pos v_pos y_pos
    exact_mod_cast this
  have same (q : Nat) : q * X / v * Y / v = q * u / v := by
    have cut := first q
    have inner : intPart (q * x) = (q * X / v : Nat) := by
      rw [← intPart_natCast_div, x_eq]
      push_cast
      rw [mul_div_assoc]
    have outer : ((q * X / v : Nat) : Rat) * y = ((q * X / v * Y : Nat) : Rat) / v := by
      rw [y_eq]
      push_cast
      rw [mul_div_assoc]
    have whole : (q : Rat) * (x * y) = ((q * u : Nat) : Rat) / v := by
      push_cast
      rw [← product]
      field_simp
    rw [inner, Int.cast_natCast, outer, whole, intPart_natCast_div, intPart_natCast_div] at cut
    exact_mod_cast cut
  rcases dvd_or_dvd_of_cut Y_pos (by exact_mod_cast v_pos) lowest (by
    have : (X : Rat) * Y = u * v := by rw [← X_eq, ← Y_eq, ← product]; ring
    exact_mod_cast this) same with ⟨k, rfl⟩ | ⟨k, rfl⟩
  · refine .inl ?_
    have : x = (k : Nat) := by rw [x_eq]; push_cast; field_simp
    rw [this, Rat.den_natCast]
  · refine .inr ?_
    have k_pos : 0 < k := by
      rcases Nat.eq_zero_or_pos k with rfl | k_pos
      · simp at v_pos
      · exact k_pos
    have : y = (k : Rat)⁻¹ := by rw [y_eq]; push_cast; field_simp
    rw [this, Rat.inv_natCast_num_of_pos k_pos]

end

/-- Where neither of two cuts makes a difference when it comes first. -/
theorem of_cut_both (x_pos : 0 < x) (y_pos : 0 < y)
    (first : ∀ q : Nat, intPart (intPart (q * x) * y) = intPart (q * (x * y)))
    (second : ∀ q : Nat, intPart (intPart (q * y) * x) = intPart (q * (x * y))) :
    x = 1 ∨ y = 1 ∨ (x.den = 1 ∧ y.den = 1) ∨ (x.num = 1 ∧ y.num = 1) := by
  have swapped (q : Nat) : intPart (intPart (q * y) * x) = intPart (q * (y * x)) := mul_comm x y ▸ second q
  have one {z : Rat} (whole : z.den = 1) (unit : z.num = 1) : z = 1 := Rat.ext unit whole
  rcases den_or_num_of_cut x_pos y_pos first swapped with x_whole | y_unit
  · rcases den_or_num_of_cut y_pos x_pos swapped first with y_whole | x_unit
    · exact .inr (.inr (.inl ⟨x_whole, y_whole⟩))
    · exact .inl (one x_whole x_unit)
  · rcases den_or_num_of_cut y_pos x_pos swapped first with y_whole | x_unit
    · exact .inr (.inl (one y_whole y_unit))
    · exact .inr (.inr (.inr ⟨x_unit, y_unit⟩))

end NewApi.Theory.Decimal
