/-
# Theory.Machine — numbers of 64 bits

Go's `int` and `int64` wrap at 64 bits.  Lua's numbers are doubles: a whole number of more than 53
bits is rounded, to the even one of two neighbours, so up to `2 ^ 53` they are the integers.
-/
import Mathlib.Algebra.Order.Ring.Int
import Mathlib.Data.Nat.Log

namespace NewApi.Theory

/-- int64 arithmetic. -/
def wrap64 (n : Int) : Int := n.bmod (2 ^ 64)

/-- The nearest number with 53 significant bits. -/
def double (n : Int) : Int :=
  let unit := 2 ^ (n.natAbs.log2 - 52)
  let low := n.natAbs / unit
  let rest := n.natAbs % unit
  let rounded := if 2 * rest < unit ∨ 2 * rest = unit ∧ low % 2 = 0 then low else low + 1
  n.sign * (rounded * unit : Nat)

variable {n c : Int}

theorem wrap64_of_bounds (low : -(2 ^ 63) ≤ n) (high : n < 2 ^ 63) : wrap64 n = n := by
  unfold wrap64
  exact Int.bmod_eq_of_le (by omega) (by omega)

theorem wrap64_of_ge (low : 2 ^ 63 ≤ n) (high : n < 2 ^ 63 + 2 ^ 64) : wrap64 n = n - 2 ^ 64 := by
  rw [wrap64, Int.bmod_def]
  split <;> omega

theorem wrap64_natCast {n : Nat} (high : n < 2 ^ 63) : wrap64 n = n := wrap64_of_bounds (by omega) (by omega)

theorem double_of_le (low : 0 ≤ n) (high : n ≤ 2 ^ 53) : double n = n := by
  rcases Nat.lt_or_ge n.natAbs (2 ^ 53) with less | most
  · have whole : n.natAbs.log2 - 52 = 0 := by
      rcases Nat.eq_zero_or_pos n.natAbs with zero | positive
      · rw [zero]
        rfl
      · have := (Nat.log2_lt positive.ne').mpr less
        omega
    simp only [double, whole, pow_zero, Nat.div_one, Nat.mod_one]
    simpa using Int.sign_mul_natAbs n
  · obtain rfl : n = 2 ^ 53 := by omega
    decide +kernel

theorem le_double (high : 2 ^ 53 ≤ n) : 2 ^ 53 ≤ double n := by
  have size : 2 ^ 53 ≤ n.natAbs := by omega
  have bits : 53 ≤ n.natAbs.log2 := (Nat.le_log2 (by omega)).mpr size
  set e := n.natAbs.log2 - 52 with units
  have least : 2 ^ 52 ≤ n.natAbs / 2 ^ e := by
    rw [Nat.le_div_iff_mul_le (Nat.two_pow_pos e), ← pow_add, units, Nat.add_sub_cancel' (by omega)]
    exact Nat.log2_self_le (by omega)
  have unit : 2 ≤ 2 ^ e := by
    calc 2 = 2 ^ 1 := rfl
      _ ≤ 2 ^ e := Nat.pow_le_pow_right (by omega) (by omega)
  simp only [double, ← units, Int.sign_eq_one_of_pos (show 0 < n by omega), one_mul]
  have rounded : n.natAbs / 2 ^ e ≤ if 2 * (n.natAbs % 2 ^ e) < 2 ^ e ∨ 2 * (n.natAbs % 2 ^ e) = 2 ^ e ∧
      n.natAbs / 2 ^ e % 2 = 0 then n.natAbs / 2 ^ e else n.natAbs / 2 ^ e + 1 := by
    split <;> omega
  exact_mod_cast Nat.mul_le_mul (least.trans rounded) unit

/-- Below a bound that is exact, sums and products are exact as well. -/
theorem min_double (bound : c ≤ 2 ^ 53) (low : 0 ≤ n) : min c (double n) = min c n := by
  rcases le_total n (2 ^ 53) with small | big
  · rw [double_of_le low small]
  · rw [min_eq_left (bound.trans (le_double big)), min_eq_left (bound.trans big)]

theorem min_add_double {m : Int} (bound : c ≤ 2 ^ 53) (low : 0 ≤ n) (more : 0 ≤ m) :
    min c (m + double n) = min c (m + n) := by
  rcases le_total n (2 ^ 53) with small | big
  · rw [double_of_le low small]
  · have := le_double big
    rw [min_eq_left (by omega), min_eq_left (by omega)]

theorem double_nonneg (low : 0 ≤ n) : 0 ≤ double n := by
  rcases le_total n (2 ^ 53) with small | big
  · rwa [double_of_le low small]
  · exact le_trans (by decide) (le_double big)

end NewApi.Theory
