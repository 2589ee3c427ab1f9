import Haulage.Fixed
import Mathlib.Order.Defs.LinearOrder
import Mathlib.Order.MinMax
import Mathlib.Tactic.Linarith
import Mathlib.Tactic.Ring

/-!
# Order and rounding of fixed-point numbers

Fixed-point numbers are ordered by their counts.  Rounding and clamping keep that order, so every
rounded operation is monotone where the exact one is, and a result that fits is the exact one up to
its rounding.
-/

namespace Haulage

namespace Fixed

theorem raw_injective {a b : Fixed} : a.raw = b.raw ↔ a = b :=
  ⟨ext_raw, congrArg raw⟩

instance : LinearOrder Fixed where
  le_refl a := Int.le_refl a.raw
  le_trans _ _ _ := Int.le_trans
  lt_iff_le_not_ge a b := Int.lt_iff_le_and_not_ge
  le_antisymm a b below above := ext_raw (Int.le_antisymm below above)
  le_total a b := Int.le_total a.raw b.raw
  toDecidableLE := inferInstance
  toDecidableLT := inferInstance
  min_def _ _ := rfl
  max_def _ _ := rfl
  toDecidableEq := inferInstance
  compare_eq_compareOfLessAndEq a b := by
    change compare a.raw b.raw = _
    rw [Int.compare_eq_ite_lt]
    simp only [compareOfLessAndEq, lt_def, ← raw_injective]
    split
    · rfl
    · split <;> split <;> first | rfl | omega

@[simp] theorem raw_zero : zero.raw = 0 := rfl

@[simp] theorem raw_one : one.raw = 1048576 := rfl

@[simp] theorem raw_half : half.raw = 524288 := rfl

@[simp] theorem raw_greatest : greatest.raw = 9223372036854775807 := rfl

theorem raw_max (a b : Fixed) : (max a b).raw = max a.raw b.raw := by
  change (if a ≤ b then b else a).raw = _
  split
  · next below => rw [max_eq_right (le_def.mp below)]
  · next above => rw [max_eq_left (by have := mt le_def.mpr above; omega)]

theorem raw_le_limit (a : Fixed) : a.raw ≤ limit := a.fits.2

theorem le_greatest (a : Fixed) : a ≤ greatest := a.fits.2

theorem nonneg_iff {a : Fixed} : zero ≤ a ↔ 0 ≤ a.raw := Iff.rfl

theorem pos_iff {a : Fixed} : zero < a ↔ 0 < a.raw := Iff.rfl

theorem isPositive_iff {a : Fixed} : a.isPositive = true ↔ zero < a := by
  simp only [isPositive, decide_eq_true_eq, pos_iff]

theorem least_le_iff {a : Fixed} : least ≤ a ↔ a.raw ≠ lowestWord := by
  have := a.fits
  simp only [le_def, least, lowestWord]
  omega

theorem raw_neg {a : Fixed} (low : least ≤ a) : (-a).raw = -a.raw := by
  show (Fixed.neg a).raw = -a.raw
  rw [Fixed.neg, dif_neg (least_le_iff.mp low)]

theorem ceil_of_nonneg {a : Fixed} (nonneg : zero ≤ a) :
    a.ceil = (a.raw + 1048575) / 1048576 := by
  have low : least ≤ a := (by decide : least ≤ zero).trans nonneg
  rw [ceil, raw_neg low, scale]
  omega

theorem clamp_le {a low high : Fixed} (ordered : low ≤ high) : a.clamp low high ≤ high := by
  unfold clamp
  split
  · exact ordered
  · split
    · exact le_rfl
    · next above => exact not_lt.mp above

theorem le_clamp {a low high : Fixed} (ordered : low ≤ high) : low ≤ a.clamp low high := by
  unfold clamp
  split
  · exact le_rfl
  · next below =>
    split
    · exact ordered
    · exact not_lt.mp below

theorem clamp_le_of_le {a low high bound : Fixed} (low_le : low ≤ bound) (le_bound : a ≤ bound) :
    a.clamp low high ≤ bound := by
  unfold clamp
  split
  · exact low_le
  · split
    · next above => exact (le_of_lt above).trans le_bound
    · exact le_bound

theorem le_clamp_of_le {a bound low high : Fixed} (le_a : bound ≤ a) (le_high : bound ≤ high) :
    bound ≤ a.clamp low high := by
  unfold clamp
  split
  · next below => exact le_a.trans below.le
  · split
    · exact le_high
    · exact le_a

theorem clamp_of_between {a low high : Fixed} (low_le : low ≤ a) (le_high : a ≤ high) :
    a.clamp low high = a := by
  rw [clamp, if_neg (not_lt.mpr low_le), if_neg (not_lt.mpr le_high)]

theorem clamp_of_le {a low high : Fixed} (low_le : low ≤ a) : a.clamp low high = min a high := by
  unfold clamp
  rw [if_neg (not_lt.mpr low_le)]
  split
  · next above => exact (min_eq_right above.le).symm
  · next within => exact (min_eq_left (not_lt.mp within)).symm

theorem saturate_mono {m n : Int} (le : m ≤ n) : saturate m ≤ saturate n := by
  rw [le_def, raw_saturate, raw_saturate]
  omega

theorem raw_saturate_of_fits {n : Int} (low : -limit ≤ n) (high : n ≤ limit) :
    (saturate n).raw = n := by
  rw [raw_saturate, min_eq_left high, max_eq_right low]

theorem saturate_nonneg {n : Int} (nonneg : 0 ≤ n) : zero ≤ saturate n := by
  rw [nonneg_iff, raw_saturate]
  simp only [limit]
  omega

theorem saturate_nonpos {n : Int} (nonpos : n ≤ 0) : saturate n ≤ zero := by
  rw [le_def, raw_saturate, raw_zero]
  simp only [limit]
  omega

/-- Clamping never makes a count that is not negative greater. -/
theorem raw_saturate_le {n : Int} (nonneg : 0 ≤ n) : (saturate n).raw ≤ n := by
  rw [raw_saturate]
  simp only [limit]
  omega

theorem add_le_add {a b c d : Fixed} (left : a ≤ b) (right : c ≤ d) : a + c ≤ b + d :=
  saturate_mono (Int.add_le_add left right)

theorem sub_le_sub {a b c d : Fixed} (left : a ≤ b) (right : d ≤ c) : a - c ≤ b - d :=
  saturate_mono (Int.sub_le_sub left right)

theorem add_nonneg {a b : Fixed} (left : zero ≤ a) (right : zero ≤ b) : zero ≤ a + b :=
  saturate_nonneg (Int.add_nonneg left right)

theorem sub_nonneg {a b : Fixed} (le : b ≤ a) : zero ≤ a - b :=
  saturate_nonneg (Int.sub_nonneg_of_le le)

theorem raw_add_of_fits {a b : Fixed} (low : -limit ≤ a.raw + b.raw)
    (high : a.raw + b.raw ≤ limit) : (a + b).raw = a.raw + b.raw :=
  raw_saturate_of_fits low high

theorem raw_sub_of_fits {a b : Fixed} (low : -limit ≤ a.raw - b.raw)
    (high : a.raw - b.raw ≤ limit) : (a - b).raw = a.raw - b.raw :=
  raw_saturate_of_fits low high

protected theorem add_comm (a b : Fixed) : a + b = b + a := by
  change saturate _ = saturate _
  rw [Int.add_comm]

/-- Every rounded result is itself with nothing added. -/
theorem zero_add_of_ge {a : Fixed} (low : -limit ≤ a.raw) : zero + a = a := by
  have high := a.raw_le_limit
  apply ext_raw
  rw [raw_add, raw_zero]
  omega

theorem zero_add_of_nonneg {a : Fixed} (nonneg : zero ≤ a) : zero + a = a :=
  zero_add_of_ge ((by decide : -limit ≤ 0).trans nonneg)

theorem add_zero_of_nonneg {a : Fixed} (nonneg : zero ≤ a) : a + zero = a := by
  rw [Fixed.add_comm, zero_add_of_nonneg nonneg]

protected theorem sub_self (a : Fixed) : a - a = zero := by
  apply ext_raw
  rw [raw_sub, Int.sub_self]
  rfl

/-- Nothing that is not negative makes a sum smaller. -/
theorem le_add_right {a b : Fixed} (nonneg : zero ≤ b) : a ≤ a + b := by
  have := a.raw_le_limit
  rw [nonneg_iff] at nonneg
  rw [le_def, raw_add]
  omega

theorem add_le_left {a b : Fixed} (low : zero ≤ a) (nonpos : b ≤ zero) : a + b ≤ a := by
  rw [nonneg_iff] at low
  rw [le_def, raw_zero] at nonpos
  rw [le_def, raw_add]
  simp only [limit]
  omega

theorem sub_le_left {a b : Fixed} (low : zero ≤ a) (nonneg : zero ≤ b) : a - b ≤ a := by
  rw [nonneg_iff] at nonneg low
  rw [le_def, raw_sub]
  simp only [limit]
  omega

protected theorem mul_comm (a b : Fixed) : a * b = b * a := by
  change saturate _ = saturate _
  rw [Int.mul_comm]

protected theorem zero_mul (a : Fixed) : zero * a = zero := by
  apply ext_raw
  rw [raw_mul, raw_zero, Int.zero_mul]
  rfl

/-- The count of an exact product, rounded half up. -/
theorem round_mono {m n : Int} (le : m ≤ n) : (m + halfScale) / scale ≤ (n + halfScale) / scale :=
  Int.ediv_le_ediv (by decide) (Int.add_le_add_right le _)

theorem mul_le_mul_right {a b c : Fixed} (le : a ≤ b) (nonneg : zero ≤ c) : a * c ≤ b * c :=
  saturate_mono (round_mono (Int.mul_le_mul_of_nonneg_right le nonneg))

theorem mul_le_mul_left {a b c : Fixed} (nonneg : zero ≤ c) (le : a ≤ b) : c * a ≤ c * b :=
  saturate_mono (round_mono (Int.mul_le_mul_of_nonneg_left le nonneg))

theorem mul_nonneg {a b : Fixed} (left : zero ≤ a) (right : zero ≤ b) : zero ≤ a * b := by
  have product_nonneg : 0 ≤ a.raw * b.raw := Int.mul_nonneg left right
  apply saturate_nonneg
  apply Int.ediv_nonneg _ (by decide)
  simp only [halfScale]
  omega

/-- A product with a factor that is not positive and one that is not negative rounds to nothing
positive. -/
theorem mul_nonpos {a b : Fixed} (left : a ≤ zero) (right : zero ≤ b) : a * b ≤ zero := by
  have product_nonpos : a.raw * b.raw ≤ 0 := Int.mul_nonpos_of_nonpos_of_nonneg left right
  apply saturate_nonpos
  simp only [halfScale, scale]
  omega

theorem mulInt_le_mulInt {a b : Fixed} {n : Int} (le : a ≤ b) (nonneg : 0 ≤ n) :
    a.mulInt n ≤ b.mulInt n :=
  saturate_mono (Int.mul_le_mul_of_nonneg_right le nonneg)

theorem mulInt_nonneg {a : Fixed} {n : Int} (left : zero ≤ a) (right : 0 ≤ n) :
    zero ≤ a.mulInt n :=
  saturate_nonneg (Int.mul_nonneg left right)

theorem roundQuotient_of_pos {num den : Int} (pos : 0 < den) :
    roundQuotient num den = (2 * num + den) / (2 * den) := by
  rw [roundQuotient, if_neg (by omega)]

theorem roundQuotient_mono {m n den : Int} (pos : 0 < den) (le : m ≤ n) :
    roundQuotient m den ≤ roundQuotient n den := by
  rw [roundQuotient_of_pos pos, roundQuotient_of_pos pos]
  exact Int.ediv_le_ediv (by omega) (by omega)

theorem roundQuotient_nonneg {num den : Int} (pos : 0 < den) (nonneg : 0 ≤ num) :
    0 ≤ roundQuotient num den := by
  rw [roundQuotient_of_pos pos]
  exact Int.ediv_nonneg (by omega) (by omega)

theorem roundQuotient_nonpos {num den : Int} (pos : 0 < den) (nonpos : num ≤ 0) :
    roundQuotient num den ≤ 0 := by
  rw [roundQuotient_of_pos pos]
  apply Int.lt_add_one_iff.mp
  exact Int.ediv_lt_of_lt_mul (by omega) (by omega)

theorem quotient_of_pos {num den : Int} (pos : 0 < den) :
    quotient num den = saturate (roundQuotient num den) := by
  rw [quotient, if_neg (by omega)]

theorem quotient_mono {m n den : Int} (pos : 0 < den) (le : m ≤ n) :
    quotient m den ≤ quotient n den := by
  rw [quotient_of_pos pos, quotient_of_pos pos]
  exact saturate_mono (roundQuotient_mono pos le)

/-- A whole quotient that is rounded half up. -/
theorem roundQuotient_near (num : Int) {den : Int} (pos : 0 < den) :
    2 * (roundQuotient num den * den) ≤ 2 * num + den ∧
      2 * num < 2 * (roundQuotient num den * den) + den := by
  have below := Int.ediv_mul_le (2 * num + den) (by omega : 2 * den ≠ 0)
  have above := Int.lt_ediv_add_one_mul_self (2 * num + den) (by omega : 0 < 2 * den)
  rw [← roundQuotient_of_pos pos] at below above
  constructor <;> linarith

/-- Rounding half up keeps the order of fractions over different divisors. -/
theorem roundQuotient_le_of_cross {m n den den' : Int} (pos : 0 < den) (pos' : 0 < den')
    (cross : m * den' ≤ n * den) : roundQuotient m den ≤ roundQuotient n den' := by
  have below : (2 * m + den) / (2 * den) * (2 * den) ≤ 2 * m + den :=
    Int.ediv_mul_le _ (by omega)
  rw [roundQuotient_of_pos pos, roundQuotient_of_pos pos', Int.le_ediv_iff_mul_le (by omega)]
  generalize (2 * m + den) / (2 * den) = count at *
  have scaled := Int.mul_le_mul_of_nonneg_right below pos'.le
  apply le_of_mul_le_mul_right _ pos
  linarith

theorem quotient_le_of_cross {m n den den' : Int} (pos : 0 < den) (pos' : 0 < den')
    (cross : m * den' ≤ n * den) : quotient m den ≤ quotient n den' := by
  rw [quotient_of_pos pos, quotient_of_pos pos']
  exact saturate_mono (roundQuotient_le_of_cross pos pos' cross)

theorem quotient_nonneg {num den : Int} (pos : 0 < den) (nonneg : 0 ≤ num) :
    zero ≤ quotient num den := by
  rw [quotient_of_pos pos]
  exact saturate_nonneg (roundQuotient_nonneg pos nonneg)

theorem divInt_le_divInt {a b : Fixed} {n : Int} (pos : 0 < n) (le : a ≤ b) :
    a.divInt n ≤ b.divInt n :=
  quotient_mono pos le

theorem divInt_nonneg {a : Fixed} {n : Int} (pos : 0 < n) (nonneg : zero ≤ a) :
    zero ≤ a.divInt n :=
  quotient_nonneg pos nonneg

/-- A whole multiple is clamped, divided with one rounding, and clamped once more. -/
theorem raw_mulInt_divInt (a : Fixed) (n : Int) {den : Int} (pos : 0 < den) :
    ((a.mulInt n).divInt den).raw =
      max (-limit) (min ((2 * max (-limit) (min (a.raw * n) limit) + den) / (2 * den)) limit) := by
  rw [divInt, quotient_of_pos pos, raw_saturate, roundQuotient_of_pos pos, mulInt, raw_saturate]

theorem div_le_div_right {a b c : Fixed} (pos : zero < c) (le : a ≤ b) : a / c ≤ b / c :=
  quotient_mono pos (Int.mul_le_mul_of_nonneg_right le (by decide))

theorem div_le_div_of_cross {a b c d : Fixed} (b_pos : zero < b) (d_pos : zero < d)
    (cross : a.raw * d.raw ≤ c.raw * b.raw) : a / b ≤ c / d := by
  apply quotient_le_of_cross b_pos d_pos
  have scaled := Int.mul_le_mul_of_nonneg_right cross (by decide : 0 ≤ scale)
  linarith

/-- What is not negative is made smaller by a greater divisor. -/
theorem div_le_div_left {a b c : Fixed} (nonneg : zero ≤ a) (pos : zero < b) (le : b ≤ c) :
    a / c ≤ a / b :=
  div_le_div_of_cross (lt_of_lt_of_le pos le) pos (Int.mul_le_mul_of_nonneg_left le nonneg)

theorem div_nonneg {a b : Fixed} (left : zero ≤ a) (right : zero < b) : zero ≤ a / b :=
  quotient_nonneg right (Int.mul_nonneg left (by decide))

theorem div_nonpos {a b : Fixed} (left : a ≤ zero) (right : zero < b) : a / b ≤ zero := by
  have num_nonpos : a.raw * scale ≤ 0 := Int.mul_nonpos_of_nonpos_of_nonneg left (by decide)
  change quotient _ _ ≤ _
  rw [quotient_of_pos right]
  exact saturate_nonpos (roundQuotient_nonpos right num_nonpos)

protected theorem zero_div {a : Fixed} (pos : zero < a) : zero / a = zero :=
  le_antisymm (div_nonpos le_rfl pos) (div_nonneg le_rfl pos)

theorem ratio_mono {m n den : Int} (pos : 0 < den) (le : m ≤ n) : ratio m den ≤ ratio n den :=
  quotient_mono pos (Int.mul_le_mul_of_nonneg_right le (by decide))

theorem ratio_nonneg {num den : Int} (pos : 0 < den) (nonneg : 0 ≤ num) :
    zero ≤ ratio num den :=
  quotient_nonneg pos (Int.mul_nonneg nonneg (by decide))

theorem raw_midpoint (low high : Fixed) :
    ((low + high).divInt 2).raw =
      max (-limit) (min ((2 * (low + high).raw + 2) / 4) limit) := by
  rw [divInt, quotient_of_pos (by decide), raw_saturate, roundQuotient_of_pos (by decide)]
  rfl

theorem midpoint_le {low high bound : Fixed} (nonneg : zero ≤ bound) (low_le : low ≤ bound)
    (high_le : high ≤ bound) : (low + high).divInt 2 ≤ bound := by
  have := bound.raw_le_limit
  rw [nonneg_iff] at nonneg
  rw [le_def] at low_le high_le ⊢
  rw [raw_midpoint, raw_add]
  simp only [limit] at *
  omega

theorem midpoint_nonneg {low high : Fixed} (left : zero ≤ low) (right : zero ≤ high) :
    zero ≤ (low + high).divInt 2 :=
  divInt_nonneg (by decide) (add_nonneg left right)

theorem le_midpoint {low high : Fixed} (nonneg : zero ≤ low) (le : low ≤ high)
    (small : high.raw ≤ 4611686018427387903) : low ≤ (low + high).divInt 2 := by
  rw [nonneg_iff] at nonneg
  rw [le_def] at le ⊢
  rw [raw_midpoint, raw_add]
  simp only [limit] at *
  omega

end Fixed

end Haulage
