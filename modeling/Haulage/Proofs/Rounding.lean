import Haulage.Proofs.Order
import Mathlib.Algebra.Order.Field.Basic
import Mathlib.Data.Rat.Cast.Order
import Mathlib.Tactic.FieldSimp
import Mathlib.Tactic.Positivity

/-!
# Distance from the exact result

A rounded product or quotient is within half a count of the exact one, as long as it fits the range.
Towards zero the bound holds without that condition, since clamping only makes a count smaller.
-/

namespace Haulage

namespace Fixed

theorem roundQuotient_le {num den : Int} (pos : 0 < den) :
    (roundQuotient num den : ℚ) ≤ num / den + 1 / 2 := by
  have den_pos : (0 : ℚ) < den := Int.cast_pos.mpr pos
  have below : (2 * (roundQuotient num den * den) : ℚ) ≤ 2 * num + den := by
    exact_mod_cast (roundQuotient_near num pos).1
  rw [div_add' _ _ _ den_pos.ne', le_div_iff₀ den_pos]
  linarith

theorem le_roundQuotient {num den : Int} (pos : 0 < den) :
    (num / den - 1 / 2 : ℚ) ≤ roundQuotient num den := by
  have den_pos : (0 : ℚ) < den := Int.cast_pos.mpr pos
  have above : (2 * num : ℚ) < 2 * (roundQuotient num den * den) + den := by
    exact_mod_cast (roundQuotient_near num pos).2
  rw [div_sub' den_pos.ne', div_le_iff₀ den_pos]
  linarith

theorem raw_quotient_le {num den : Int} (nonneg : 0 ≤ num) (pos : 0 < den) :
    ((quotient num den).raw : ℚ) ≤ num / den + 1 / 2 := by
  rw [quotient_of_pos pos]
  refine le_trans ?_ (roundQuotient_le pos)
  exact_mod_cast raw_saturate_le (roundQuotient_nonneg pos nonneg)

theorem le_raw_quotient {num den : Int} (nonneg : 0 ≤ num) (pos : 0 < den)
    (fits : num ≤ limit * den) : (num / den - 1 / 2 : ℚ) ≤ (quotient num den).raw := by
  have round_nonneg := roundQuotient_nonneg pos nonneg
  have round_le : roundQuotient num den ≤ limit := by
    rw [roundQuotient_of_pos pos]
    apply Int.lt_add_one_iff.mp
    apply Int.ediv_lt_of_lt_mul (by omega)
    linarith
  rw [quotient_of_pos pos, raw_saturate_of_fits (by simp only [limit]; omega) round_le]
  exact le_roundQuotient pos

theorem raw_div_le {a b : Fixed} (nonneg : zero ≤ a) (pos : zero < b) :
    ((a / b).raw : ℚ) ≤ a.raw * 1048576 / b.raw + 1 / 2 := by
  have bound := raw_quotient_le (Int.mul_nonneg nonneg (by decide : 0 ≤ scale)) pos
  rw [Int.cast_mul] at bound
  exact bound

theorem le_raw_div {a b : Fixed} (nonneg : zero ≤ a) (pos : zero < b)
    (fits : a.raw * 1048576 ≤ limit * b.raw) :
    (a.raw * 1048576 / b.raw - 1 / 2 : ℚ) ≤ (a / b).raw := by
  have bound := le_raw_quotient (Int.mul_nonneg nonneg (by decide : 0 ≤ scale)) pos fits
  rw [Int.cast_mul] at bound
  exact bound

/-- A quotient is at most half a count above the exact one. -/
theorem two_mul_raw_div_mul_le {a b : Fixed} (nonneg : zero ≤ a) (pos : zero < b) :
    2 * ((a / b).raw * b.raw) ≤ 2097152 * a.raw + b.raw := by
  have pos_rat : (0 : ℚ) < b.raw := by exact_mod_cast pos_iff.mp pos
  have bound := raw_div_le nonneg pos
  rw [div_add' _ _ _ pos_rat.ne', le_div_iff₀ pos_rat] at bound
  have bound : (2 * ((a / b).raw * b.raw) : ℚ) ≤ 2097152 * a.raw + b.raw := by linarith
  exact_mod_cast bound

/-- A quotient that was not clamped is at most half a count short. -/
theorem lt_of_raw_div_lt {a b : Fixed} (nonneg : zero ≤ a) (pos : zero < b)
    (below : (a / b).raw < limit) :
    2 * (a.raw * 1048576) < (2 * (a / b).raw + 1) * b.raw := by
  have round_nonneg := roundQuotient_nonneg pos (Int.mul_nonneg nonneg (by decide : 0 ≤ scale))
  have raw_eq : (a / b).raw = roundQuotient (a.raw * scale) b.raw := by
    have clamped :
        (a / b).raw = max (-limit) (min (roundQuotient (a.raw * scale) b.raw) limit) := by
      rw [← raw_saturate, ← quotient_of_pos pos]
      rfl
    rw [clamped] at below ⊢
    simp only [limit] at below ⊢
    omega
  have above := (roundQuotient_near (a.raw * scale) pos).2
  rw [← raw_eq] at above
  simp only [scale] at above
  linarith

theorem raw_mul_le {a b : Fixed} (left : zero ≤ a) (right : zero ≤ b) :
    ((a * b).raw : ℚ) ≤ a.raw * b.raw / 1048576 + 1 / 2 := by
  have product_nonneg : 0 ≤ a.raw * b.raw := Int.mul_nonneg left right
  have clamped : (a * b).raw ≤ (a.raw * b.raw + 524288) / 1048576 :=
    raw_saturate_le (Int.ediv_nonneg (by simp only [halfScale]; omega) (by decide))
  have scaled : (a * b).raw * 1048576 ≤ a.raw * b.raw + 524288 := by omega
  have scaled : ((a * b).raw : ℚ) * 1048576 ≤ a.raw * b.raw + 524288 := by exact_mod_cast scaled
  linarith

theorem le_raw_mul {a b : Fixed} (left : zero ≤ a) (right : zero ≤ b)
    (fits : a.raw * b.raw ≤ limit * 1048576) :
    (a.raw * b.raw / 1048576 - 1 / 2 : ℚ) ≤ (a * b).raw := by
  have product_nonneg : 0 ≤ a.raw * b.raw := Int.mul_nonneg left right
  have raw_eq : (a * b).raw = (a.raw * b.raw + 524288) / 1048576 := by
    rw [raw_mul]
    simp only [halfScale, scale, limit] at fits ⊢
    omega
  have scaled : a.raw * b.raw ≤ (a * b).raw * 1048576 + 524288 := by omega
  have scaled : (a.raw * b.raw : ℚ) ≤ (a * b).raw * 1048576 + 524288 := by exact_mod_cast scaled
  linarith

/-- A product with a whole number is exact. -/
theorem raw_mul_of_whole {a b : Fixed} {n : Int} (left : zero ≤ a) (n_nonneg : 0 ≤ n)
    (whole : b.raw = n * 1048576) (fits : a.raw * n ≤ limit) : (a * b).raw = a.raw * n := by
  have product_nonneg : 0 ≤ a.raw * n := Int.mul_nonneg left n_nonneg
  rw [raw_mul, whole, ← Int.mul_assoc]
  simp only [halfScale, scale, limit] at fits ⊢
  omega

end Fixed

end Haulage
