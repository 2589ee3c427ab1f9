import Haulage.Fixed.Wide
import Haulage.Proofs.Rounding
import Mathlib.Analysis.Real.Sqrt
import Mathlib.Data.Rat.Floor

/-!
# Exact up to one rounding

Every operation on fixed-point numbers rounds the exact rational result once, half up, and clamps it
into the symmetric range; sums, differences and whole multiples need no rounding at all.  A machine
that computes with 128-bit words never leaves them on the way, and arrives at the same number.
-/

namespace Haulage

namespace Fixed

/-- The number that a count of 2⁻²⁰ths stands for. -/
def value (a : Fixed) : ℚ := a.raw / 1048576

/-- An exact count moved into the symmetric range. -/
def clampCount (exact : ℚ) : ℚ := max (-limit) (min exact limit)

/-- The whole count nearest to an exact one, a tie rounded up, moved into the symmetric range. -/
def nearestCount (exact : ℚ) : Int := max (-limit) (min ⌊exact + 1 / 2⌋ limit)

/-- The end of the range that has the sign of the dividend. -/
def endTowards (dividend : Int) : Fixed :=
  if dividend < 0 then least else if 0 < dividend then greatest else zero

theorem value_nonneg {a : Fixed} (nonneg : zero ≤ a) : 0 ≤ a.value := by
  have count_nonneg : (0 : ℚ) ≤ a.raw := Int.cast_nonneg nonneg
  rw [value]
  positivity

theorem value_mul_scale (a : Fixed) : a.value * 1048576 = a.raw := by
  rw [value, div_mul_cancel₀]
  norm_num

theorem cast_raw_saturate (count : Int) : ((saturate count).raw : ℚ) = clampCount count := by
  rw [raw_saturate, clampCount, Int.cast_max, Int.cast_min, Int.cast_neg]

theorem raw_saturate_floor (exact : ℚ) :
    (saturate ⌊exact + 1 / 2⌋).raw = nearestCount exact :=
  raw_saturate _

/-- Over a positive divisor, rounding half up is the floor of the quotient and a half. -/
theorem roundQuotient_eq_floor_of_pos {num den : Int} (pos : 0 < den) :
    roundQuotient num den = ⌊(num : ℚ) / den + 1 / 2⌋ := by
  have den_pos : (0 : ℚ) < den := Int.cast_pos.mpr pos
  have above : 2 * num + den < ((2 * num + den) / (2 * den) + 1) * (2 * den) :=
    Int.lt_ediv_add_one_mul_self _ (by omega)
  have above : (2 * num + den : ℚ) < (roundQuotient num den + 1) * (2 * den) := by
    rw [roundQuotient_of_pos pos]
    exact_mod_cast above
  symm
  rw [Int.floor_eq_iff]
  constructor
  · exact roundQuotient_le pos
  · rw [div_add' _ _ _ den_pos.ne', div_lt_iff₀ den_pos]
    linarith

theorem roundQuotient_neg_neg (num : Int) {den : Int} (negative : den < 0) :
    roundQuotient num den = roundQuotient (-num) (-den) := by
  rw [roundQuotient, if_pos negative, roundQuotient_of_pos (by omega)]

theorem roundQuotient_eq_floor (num : Int) {den : Int} (nonzero : den ≠ 0) :
    roundQuotient num den = ⌊(num : ℚ) / den + 1 / 2⌋ := by
  rcases lt_or_gt_of_ne nonzero with negative | positive
  · rw [roundQuotient_neg_neg num negative, roundQuotient_eq_floor_of_pos (by omega), Int.cast_neg,
      Int.cast_neg, neg_div_neg_eq]
  · exact roundQuotient_eq_floor_of_pos positive

theorem quotient_of_ne_zero (num : Int) {den : Int} (nonzero : den ≠ 0) :
    quotient num den = saturate (roundQuotient num den) := by
  rw [quotient, if_neg nonzero]

theorem quotient_zero (num : Int) : quotient num 0 = endTowards num := by
  rw [quotient, if_pos rfl, endTowards]

theorem raw_quotient (num : Int) {den : Int} (nonzero : den ≠ 0) :
    (quotient num den).raw = nearestCount (num / den) := by
  rw [quotient_of_ne_zero num nonzero, roundQuotient_eq_floor num nonzero, raw_saturate_floor]

/-- A product is the quotient of the product of the counts by the scale. -/
theorem mul_eq_quotient (a b : Fixed) : a * b = quotient (a.raw * b.raw) scale := by
  have shift : (a.raw * b.raw + halfScale) / scale = roundQuotient (a.raw * b.raw) scale := by
    rw [roundQuotient_of_pos (by decide)]
    simp only [halfScale, scale]
    omega
  rw [quotient_of_pos (by decide), ← shift]
  rfl

theorem endTowards_mul_scale (num : Int) : endTowards (num * scale) = endTowards num := by
  have negative_iff : num * scale < 0 ↔ num < 0 := by simp only [scale]; omega
  have positive_iff : 0 < num * scale ↔ 0 < num := by simp only [scale]; omega
  simp only [endTowards, negative_iff, positive_iff]

/-- The floor of a square root, rounded up once the remainder exceeds it. -/
def roundedRoot (square : Nat) : Nat :=
  if square - square.sqrt * square.sqrt > square.sqrt then square.sqrt + 1 else square.sqrt

/-- No half is the square root of a whole number, so one of the two neighbours is nearest. -/
theorem roundedRoot_between {square : Nat} (pos : 0 < square) :
    1 ≤ roundedRoot square ∧
      (2 * roundedRoot square - 1) * (2 * roundedRoot square - 1) < 4 * square ∧
      4 * square < (2 * roundedRoot square + 1) * (2 * roundedRoot square + 1) := by
  have root_pos : 0 < square.sqrt := Nat.sqrt_pos.mpr pos
  have low : square.sqrt * square.sqrt ≤ square := Nat.sqrt_le square
  have high : square < (square.sqrt + 1) * (square.sqrt + 1) := Nat.lt_succ_sqrt square
  rw [roundedRoot]
  generalize square.sqrt = root at *
  split
  · next rest_gt =>
    have rest_gt : root * root + root < square := by omega
    rw [show 2 * (root + 1) - 1 = 2 * root + 1 by omega]
    refine ⟨?_, ?_, ?_⟩ <;> nlinarith
  · next rest_le =>
    have rest_le : square ≤ root * root + root := by omega
    obtain ⟨below, rfl⟩ : ∃ below, root = below + 1 := ⟨root - 1, by omega⟩
    rw [show 2 * (below + 1) - 1 = 2 * below + 1 by omega]
    refine ⟨?_, ?_, ?_⟩ <;> nlinarith

theorem abs_roundedRoot_sub_sqrt_lt {square : Nat} (pos : 0 < square) :
    |(roundedRoot square : ℝ) - √square| < 1 / 2 := by
  obtain ⟨rounded_pos, below, above⟩ := roundedRoot_between pos
  generalize roundedRoot square = rounded at *
  have rounded_ge : (1 : ℝ) ≤ rounded := by exact_mod_cast rounded_pos
  have below_square : ((rounded : ℝ) - 1 / 2) ^ 2 < square := by
    have cast : ((2 * rounded - 1 : Nat) : ℝ) * ((2 * rounded - 1 : Nat) : ℝ) < 4 * square := by
      exact_mod_cast below
    rw [Nat.cast_sub (by omega)] at cast
    push_cast at cast
    linarith
  have square_below : (square : ℝ) < ((rounded : ℝ) + 1 / 2) ^ 2 := by
    have cast : (4 * square : ℝ) < (2 * rounded + 1) * (2 * rounded + 1) := by exact_mod_cast above
    linarith
  have low_root := (Real.lt_sqrt (by linarith)).mpr below_square
  have high_root := (Real.sqrt_lt' (by linarith)).mpr square_below
  rw [abs_sub_lt_iff]
  constructor <;> linarith

theorem sqrt_small {square : Nat} (small : square ≤ 9671406556917033397649408) :
    square.sqrt ≤ 4398046511104 := by
  by_contra large
  have root_le : square.sqrt * square.sqrt ≤ square := Nat.sqrt_le square
  have := Nat.mul_self_le_mul_self (by omega : 4398046511105 ≤ square.sqrt)
  omega

theorem roundedRoot_small {square : Nat} (small : square ≤ 9671406556917033397649408) :
    roundedRoot square ≤ 4398046511105 := by
  have root_small := sqrt_small small
  rw [roundedRoot]
  split <;> omega

theorem sqrt_of_pos {a : Fixed} (pos : 0 < a.raw) :
    a.sqrt = ofRaw (roundedRoot (a.raw.toNat * 1048576)) := by
  rw [sqrt, if_neg (by omega), roundedRoot]

theorem raw_sqrt {a : Fixed} (pos : 0 < a.raw) :
    a.sqrt.raw = roundedRoot (a.raw.toNat * 1048576) := by
  have a_fits := a.fits
  have rounded_small : roundedRoot (a.raw.toNat * 1048576) ≤ 4398046511105 :=
    roundedRoot_small (by omega)
  rw [sqrt_of_pos pos, ofRaw, raw_saturate_of_fits] <;> simp only [limit] <;> omega

theorem wide?_of_fits {count : Int} (low : -170141183460469231731687303715884105728 ≤ count)
    (high : count ≤ 170141183460469231731687303715884105727) : wide? count = some count :=
  if_pos ⟨low, high⟩

theorem unsigned?_of_fits {count : Int} (low : 0 ≤ count)
    (high : count ≤ 340282366920938463463374607431768211455) : unsigned? count = some count :=
  if_pos ⟨low, high⟩

theorem ofWord?_of_fits {count : Int} (nonneg : 0 ≤ count) (fits : count ≤ limit) :
    ofWord? count = some (ofRaw count) := by
  rw [ofWord?, dif_pos ⟨by omega, fits⟩]
  congr 1
  apply ext_raw
  exact (raw_saturate_of_fits (by simp only [limit]; omega) fits).symm

theorem shiftLeft_fractionBits (count : Int) : count <<< fractionBits = count * scale :=
  Int.shiftLeft_eq count fractionBits

theorem shiftRight_fractionBits (count : Int) : count >>> fractionBits = count / scale :=
  Int.shiftRight_eq_div_pow count fractionBits

/-- The product of two 64-bit words. -/
theorem product_fits {m n : Int}
    (m_fits : -9223372036854775808 ≤ m ∧ m ≤ 9223372036854775807)
    (n_fits : -9223372036854775808 ≤ n ∧ n ≤ 9223372036854775807) :
    -85070591730234615865843651857942052864 ≤ m * n ∧
      m * n ≤ 85070591730234615865843651857942052864 := by
  have product_le : |m * n| ≤ 9223372036854775808 * 9223372036854775808 := by
    rw [abs_mul]
    exact mul_le_mul (abs_le.mpr ⟨m_fits.1, by omega⟩) (abs_le.mpr ⟨n_fits.1, by omega⟩)
      (abs_nonneg n) (by decide)
  exact abs_le.mp product_le

theorem roundOver?_eq {num den : Int} (pos : 0 < den) (den_le : den ≤ 9223372036854775808)
    (num_fits : -9671406556917033397649408 ≤ num ∧ num ≤ 9671406556917033397649408) :
    roundOver? num den = some (roundQuotient num den) := by
  have quotient_low : -9671406556917033397649408 ≤ (2 * num + den) / (2 * den) := by
    apply Int.le_ediv_of_mul_le (by omega)
    omega
  have quotient_high : (2 * num + den) / (2 * den) ≤ 9671406556917033397649409 := by
    apply Int.le_of_lt_add_one
    apply Int.ediv_lt_of_lt_mul (by omega)
    omega
  rw [roundQuotient_of_pos pos]
  simp (disch := omega) only [roundOver?, wide?_of_fits, Option.bind_eq_bind, Option.bind_some]

theorem roundQuotient?_eq {num den : Int} (nonzero : den ≠ 0)
    (den_fits : -9223372036854775808 ≤ den ∧ den ≤ 9223372036854775807)
    (num_fits : -9671406556917033397649408 ≤ num ∧ num ≤ 9671406556917033397649408) :
    roundQuotient? num den = some (roundQuotient num den) := by
  rw [roundQuotient?, if_neg nonzero]
  rcases lt_or_gt_of_ne nonzero with negative | positive
  · rw [roundQuotient_neg_neg num negative, ← roundOver?_eq (by omega) (by omega) (by omega)]
    simp (disch := omega) only [signedBy?, if_pos negative, wide?_of_fits, Option.bind_eq_bind,
      Option.bind_some]
  · rw [← roundOver?_eq positive (by omega) num_fits]
    simp only [signedBy?, if_neg (not_lt.mpr positive.le), Option.bind_eq_bind, Option.bind_some]

theorem quotient?_eq {num den : Int}
    (den_fits : -9223372036854775808 ≤ den ∧ den ≤ 9223372036854775807)
    (num_fits : -9671406556917033397649408 ≤ num ∧ num ≤ 9671406556917033397649408) :
    quotient? num den = some (quotient num den) := by
  by_cases zero_den : den = 0
  · subst zero_den
    rw [quotient_zero, quotient?, roundQuotient?, if_pos rfl, endTowards]
    -- The ends of the wide word are clamped to the ends of the range.
    split
    · rfl
    · split <;> rfl
  · rw [quotient_of_ne_zero num zero_den, quotient?, roundQuotient?_eq zero_den den_fits num_fits]
    rfl

section Words

variable (a b : Fixed) (n d : Int64)

theorem int64_fits : -9223372036854775808 ≤ n.toInt ∧ n.toInt ≤ 9223372036854775807 :=
  ⟨n.le_toInt, Int.le_of_lt_add_one n.toInt_lt⟩

theorem ofInt?_eq : ofInt? n.toInt = some (ofInt n.toInt) := by
  have n_fits := int64_fits n
  rw [ofInt?, shiftLeft_fractionBits, wide?_of_fits (by simp only [scale]; omega)
    (by simp only [scale]; omega)]
  rfl

theorem ratio?_eq : ratio? n.toInt d.toInt = some (ratio n.toInt d.toInt) := by
  have n_fits := int64_fits n
  rw [ratio?, shiftLeft_fractionBits, wide?_of_fits (by simp only [scale]; omega)
    (by simp only [scale]; omega)]
  exact quotient?_eq (int64_fits d) (by simp only [scale]; omega)

theorem mulInt?_eq : a.mulInt? n.toInt = some (a.mulInt n.toInt) := by
  have product := product_fits a.fits (int64_fits n)
  rw [mulInt?, wide?_of_fits (by omega) (by omega)]
  rfl

theorem divInt?_eq : a.divInt? n.toInt = some (a.divInt n.toInt) := by
  have a_fits := a.fits
  exact quotient?_eq (int64_fits n) (by omega)

theorem add?_eq : a.add? b = some (a + b) := by
  have a_fits := a.fits
  have b_fits := b.fits
  rw [add?, wide?_of_fits (by omega) (by omega)]
  rfl

theorem sub?_eq : a.sub? b = some (a - b) := by
  have a_fits := a.fits
  have b_fits := b.fits
  rw [sub?, wide?_of_fits (by omega) (by omega)]
  rfl

theorem mul?_eq : a.mul? b = some (a * b) := by
  have product := product_fits a.fits b.fits
  simp only [mul?, shiftRight_fractionBits, halfScale, scale]
  simp (disch := omega) only [wide?_of_fits, Option.bind_eq_bind, Option.bind_some]
  rfl

theorem div?_eq : a.div? b = some (a / b) := by
  have a_fits := a.fits
  rw [div?, shiftLeft_fractionBits, wide?_of_fits (by simp only [scale]; omega)
    (by simp only [scale]; omega)]
  exact quotient?_eq b.fits (by simp only [scale]; omega)

end Words

theorem roundedRoot?_natCast {square : Nat} (small : square ≤ 9671406556917033397649408) :
    roundedRoot? square = some (roundedRoot square : Int) := by
  have low : square.sqrt * square.sqrt ≤ square := Nat.sqrt_le square
  have root_small := sqrt_small small
  rw [roundedRoot?, roundedRoot, Int.toNat_natCast]
  generalize square.sqrt = root at *
  have rest_eq : (square : Int) - ((root * root : Nat) : Int) = (square - root * root : Nat) := by
    omega
  simp only [Option.bind_eq_bind]
  rw [← Int.natCast_mul, unsigned?_of_fits (by omega) (by omega), Option.bind_some, rest_eq,
    unsigned?_of_fits (by omega) (by omega), Option.bind_some]
  by_cases rest_gt : square - root * root > root
  · rw [if_pos (by omega), if_pos rest_gt, unsigned?_of_fits (by omega) (by omega)]
    rfl
  · rw [if_neg (by omega), if_neg rest_gt]

theorem sqrt?_eq (a : Fixed) : a.sqrt? = some a.sqrt := by
  rcases le_or_gt a.raw 0 with nonpos | pos
  · rw [sqrt?, sqrt, if_pos nonpos, if_pos nonpos]
  · have a_fits := a.fits
    have square_eq : a.raw <<< fractionBits = (a.raw.toNat * 1048576 : Nat) := by
      rw [shiftLeft_fractionBits]
      simp only [scale]
      omega
    have square_small : a.raw.toNat * 1048576 ≤ 9671406556917033397649408 := by omega
    have rounded_small := roundedRoot_small square_small
    rw [sqrt_of_pos pos, sqrt?, if_neg (by omega)]
    simp only [Option.bind_eq_bind]
    rw [square_eq, unsigned?_of_fits (by omega) (by omega), Option.bind_some,
      roundedRoot?_natCast square_small, Option.bind_some]
    exact ofWord?_of_fits (by omega) (by simp only [limit]; omega)

/-- Each operation is the exact rational result, counted in 2⁻²⁰ths, after at most one rounding. -/
structure ExactlyRounded (a b : Fixed) (n d : Int64) : Prop where
  mul : (a * b).raw = nearestCount (a.value * b.value * 1048576)
  div : b.raw ≠ 0 → (a / b).raw = nearestCount (a.value / b.value * 1048576)
  ratio : d.toInt ≠ 0 → (ratio n.toInt d.toInt).raw = nearestCount (n.toInt / d.toInt * 1048576)
  divInt : d.toInt ≠ 0 → (a.divInt d.toInt).raw = nearestCount (a.value / d.toInt * 1048576)
  add : ((a + b).raw : ℚ) = clampCount ((a.value + b.value) * 1048576)
  sub : ((a - b).raw : ℚ) = clampCount ((a.value - b.value) * 1048576)
  mulInt : ((a.mulInt n.toInt).raw : ℚ) = clampCount (a.value * n.toInt * 1048576)
  ofInt : ((ofInt n.toInt).raw : ℚ) = clampCount (n.toInt * 1048576)
  div_zero : b.raw = 0 → a / b = endTowards a.raw
  ratio_zero : d.toInt = 0 → Fixed.ratio n.toInt d.toInt = endTowards n.toInt
  divInt_zero : d.toInt = 0 → a.divInt d.toInt = endTowards a.raw
  /-- Nearer than a half to the real root, so no other whole number is as near. -/
  sqrt : 0 < a.raw → |(a.sqrt.raw : ℝ) - √(a.raw * 1048576)| < 1 / 2

/-- Each operation carried out in wide words has an answer, and it is the same number. -/
structure FitsWideWords (a b : Fixed) (n d : Int64) : Prop where
  mul : a.mul? b = some (a * b)
  div : a.div? b = some (a / b)
  ratio : ratio? n.toInt d.toInt = some (ratio n.toInt d.toInt)
  divInt : a.divInt? n.toInt = some (a.divInt n.toInt)
  add : a.add? b = some (a + b)
  sub : a.sub? b = some (a - b)
  mulInt : a.mulInt? n.toInt = some (a.mulInt n.toInt)
  ofInt : ofInt? n.toInt = some (ofInt n.toInt)
  sqrt : a.sqrt? = some a.sqrt

theorem exactlyRounded (a b : Fixed) (n d : Int64) : ExactlyRounded a b n d where
  mul := by
    have exact_eq : a.value * b.value * 1048576 = ((a.raw * b.raw : Int) : ℚ) / (scale : Int) := by
      rw [mul_assoc, value_mul_scale, value, Int.cast_mul, scale]
      push_cast
      ring
    rw [mul_eq_quotient, raw_quotient _ (by decide), exact_eq]
  div nonzero := by
    have exact_eq : a.value / b.value * 1048576 = ((a.raw * scale : Int) : ℚ) / b.raw := by
      rw [← value_mul_scale b, scale, Int.cast_mul, ← value_mul_scale a]
      push_cast
      rw [mul_div_mul_right _ _ (by norm_num)]
      ring
    change (quotient _ _).raw = _
    rw [raw_quotient _ nonzero, exact_eq]
  ratio nonzero := by
    rw [Fixed.ratio, raw_quotient _ nonzero, Int.cast_mul, scale]
    push_cast
    rw [mul_div_right_comm]
  divInt nonzero := by
    rw [Fixed.divInt, raw_quotient _ nonzero, ← value_mul_scale a, mul_div_right_comm]
  add := by
    change ((saturate _).raw : ℚ) = _
    rw [cast_raw_saturate, add_mul, value_mul_scale, value_mul_scale, Int.cast_add]
  sub := by
    change ((saturate _).raw : ℚ) = _
    rw [cast_raw_saturate, sub_mul, value_mul_scale, value_mul_scale, Int.cast_sub]
  mulInt := by
    rw [Fixed.mulInt, cast_raw_saturate, mul_right_comm, value_mul_scale, Int.cast_mul]
  ofInt := by
    rw [Fixed.ofInt, cast_raw_saturate, Int.cast_mul, scale]
    norm_num
  div_zero zero_den := by
    change quotient _ _ = _
    rw [zero_den, quotient_zero, endTowards_mul_scale]
  ratio_zero zero_den := by
    rw [Fixed.ratio, zero_den, quotient_zero, endTowards_mul_scale]
  divInt_zero zero_den := by
    rw [Fixed.divInt, zero_den, quotient_zero]
  sqrt pos := by
    have square_cast : (a.raw : ℝ) * 1048576 = ((a.raw.toNat * 1048576 : Nat) : ℝ) := by
      have square_eq : a.raw * 1048576 = (a.raw.toNat * 1048576 : Nat) := by omega
      exact_mod_cast congrArg (Int.cast : Int → ℝ) square_eq
    rw [raw_sqrt pos, square_cast, Int.cast_natCast]
    exact abs_roundedRoot_sub_sqrt_lt (by omega)

-- A tie goes upwards on either side of zero, whatever the sign of the divisor.
example : ((ofRaw 3).divInt (-2)).raw = -1 ∧ ((ofRaw (-3)).divInt (-2)).raw = 2 := by decide

/-- Fixed-point arithmetic is exact up to one rounding and one clamping, and no intermediate count
leaves its word. -/
theorem arithmetic_exact (a b : Fixed) (n d : Int64) :
    ExactlyRounded a b n d ∧ FitsWideWords a b n d where
  left := exactlyRounded a b n d
  right :=
    { mul := mul?_eq a b
      div := div?_eq a b
      ratio := ratio?_eq n d
      divInt := divInt?_eq a n
      add := add?_eq a b
      sub := sub?_eq a b
      mulInt := mulInt?_eq a n
      ofInt := ofInt?_eq n
      sqrt := sqrt?_eq a }

end Fixed

end Haulage
