import Haulage.Motion.State
import Haulage.Proofs.Order

/-!
# Words, units and the stored speed

Conversions into machine words clamp, and conversions between units round; both keep the order.  A
velocity that is not negative is stored without loss: the speed in whole units and the residue give
it back, and the residue is at most half a unit.
-/

namespace Haulage

theorem toInt_ofIntClamp32 (n : Int) :
    (Int32.ofIntClamp n).toInt = max (-2147483648) (min n 2147483647) := by
  have lowest : Int32.minValue.toInt = -2147483648 := by decide
  have highest : Int32.maxValue.toInt = 2147483647 := by decide
  unfold Int32.ofIntClamp
  split
  · split
    · rw [Int32.toInt_ofIntLE]
      omega
    · rw [highest]
      omega
  · rw [lowest]
    omega

theorem toInt_ofIntClamp64 (n : Int) :
    (Int64.ofIntClamp n).toInt = max (-9223372036854775808) (min n 9223372036854775807) := by
  have lowest : Int64.minValue.toInt = -9223372036854775808 := by decide
  have highest : Int64.maxValue.toInt = 9223372036854775807 := by decide
  unfold Int64.ofIntClamp
  split
  · split
    · rw [Int64.toInt_ofIntLE]
      omega
    · rw [highest]
      omega
  · rw [lowest]
    omega

theorem toInt_ofInt64 {n : Int} (low : -9223372036854775808 ≤ n)
    (high : n ≤ 9223372036854775807) : (Int64.ofInt n).toInt = n := by
  rw [Int64.toInt_ofInt]
  exact Int.bmod_eq_of_le (by simpa using low) (by simpa using Int.lt_add_one_of_le high)

theorem toInt_ofInt32 {n : Int} (low : -2147483648 ≤ n) (high : n ≤ 2147483647) :
    (Int32.ofInt n).toInt = n := by
  rw [Int32.toInt_ofInt]
  exact Int.bmod_eq_of_le (by simpa using low) (by simpa using Int.lt_add_one_of_le high)

/-- No whole number of a 32-bit word is clamped. -/
theorem Fixed.raw_ofInt32 (n : Int32) : (Fixed.ofInt n.toInt).raw = n.toInt * 1048576 := by
  have low := n.le_toInt
  have high := n.toInt_lt
  apply raw_saturate_of_fits <;> simp only [scale, limit] <;> omega

theorem Fixed.ofInt32_mono {m n : Int32} (le : m.toInt ≤ n.toInt) :
    Fixed.ofInt m.toInt ≤ Fixed.ofInt n.toInt :=
  saturate_mono (Int.mul_le_mul_of_nonneg_right le (by decide))

theorem Fixed.ofInt32_nonneg {n : Int32} (nonneg : 0 ≤ n.toInt) :
    Fixed.zero ≤ Fixed.ofInt n.toInt :=
  saturate_nonneg (Int.mul_nonneg nonneg (by decide))

theorem ofIntClamp32_mono {m n : Int} (le : m ≤ n) :
    (Int32.ofIntClamp m).toInt ≤ (Int32.ofIntClamp n).toInt := by
  rw [toInt_ofIntClamp32, toInt_ofIntClamp32]
  omega

theorem toInt_max32 (a b : Int32) : (max a b).toInt = max a.toInt b.toInt := by
  change (if a ≤ b then b else a).toInt = _
  split
  · next below =>
    rw [Int32.le_iff_toInt_le] at below
    omega
  · next above =>
    rw [Int32.not_le, Int32.lt_iff_toInt_lt] at above
    omega

theorem toInt_min32 (a b : Int32) : (min a b).toInt = min a.toInt b.toInt := by
  change (if a ≤ b then a else b).toInt = _
  split
  · next below =>
    rw [Int32.le_iff_toInt_le] at below
    omega
  · next above =>
    rw [Int32.not_le, Int32.lt_iff_toInt_lt] at above
    omega

theorem max_zero_nonneg (speed : Int32) : 0 ≤ (max speed 0).toInt := by
  rw [toInt_max32]
  exact le_max_right _ _

theorem max_zero_of_nonneg {speed : Int32} (nonneg : 0 ≤ speed.toInt) : max speed 0 = speed := by
  apply Int32.toInt_inj.mp
  rw [toInt_max32]
  exact max_eq_left nonneg

namespace Units

theorem velocityOfKmh_mono {a b : Int32} (le : a.toInt ≤ b.toInt) :
    velocityOfKmh a ≤ velocityOfKmh b :=
  Fixed.ratio_mono (by decide) (by omega)

theorem velocityOfKmh_nonneg {kmh : Int32} (nonneg : 0 ≤ kmh.toInt) :
    Fixed.zero ≤ velocityOfKmh kmh :=
  Fixed.ratio_nonneg (by decide) (by omega)

theorem raw_velocityOfSpeed (speed : Int32) :
    (velocityOfSpeed speed).raw = (2 * (speed.toInt * 838860800) + 36864) / 73728 := by
  have low := speed.le_toInt
  have high := speed.toInt_lt
  rw [velocityOfSpeed, Fixed.ratio, Fixed.quotient_of_pos (by decide),
    Fixed.roundQuotient_of_pos (by decide), Fixed.raw_saturate]
  simp only [speedNumerator, speedDenominator, Fixed.scale, Fixed.limit]
  omega

theorem velocityOfSpeed_mono {a b : Int32} (le : a.toInt ≤ b.toInt) :
    velocityOfSpeed a ≤ velocityOfSpeed b := by
  rw [Fixed.le_def, raw_velocityOfSpeed, raw_velocityOfSpeed]
  omega

theorem velocityOfSpeed_nonneg {speed : Int32} (nonneg : 0 ≤ speed.toInt) :
    Fixed.zero ≤ velocityOfSpeed speed := by
  rw [Fixed.nonneg_iff, raw_velocityOfSpeed]
  omega

theorem secondsOfTicks_nonneg {mapScale : Fixed} (nonneg : Fixed.zero ≤ mapScale) (ticks : Nat) :
    Fixed.zero ≤ secondsOfTicks mapScale ticks :=
  Fixed.divInt_nonneg (by decide) (Fixed.mulInt_nonneg nonneg (Int.natCast_nonneg ticks))

/-- Half-up rounding of a count to whole units, clamped into 32 bits. -/
theorem toInt_round32 (a : Fixed) :
    a.round32.toInt = max (-2147483648) (min ((a.raw + 524288) / 1048576) 2147483647) :=
  toInt_ofIntClamp32 _

theorem speedOfVelocity_mono {a b : Fixed} (le : a ≤ b) :
    (speedOfVelocity a).toInt ≤ (speedOfVelocity b).toInt := by
  have product_le : a.mulInt speedDenominator ≤ b.mulInt speedDenominator :=
    Fixed.mulInt_le_mulInt le (by decide)
  have quotient_le : (a.mulInt speedDenominator).divInt speedNumerator ≤
      (b.mulInt speedDenominator).divInt speedNumerator :=
    Fixed.divInt_le_divInt (by decide) product_le
  rw [Fixed.le_def] at quotient_le
  rw [speedOfVelocity, speedOfVelocity, toInt_round32, toInt_round32]
  omega

theorem speedOfVelocity_nonneg {velocity : Fixed} (nonneg : Fixed.zero ≤ velocity) :
    0 ≤ (speedOfVelocity velocity).toInt :=
  speedOfVelocity_mono nonneg

/-- The speed of a velocity that is far from the ends of the range. -/
theorem toInt_speedOfVelocity {velocity : Fixed} (nonneg : Fixed.zero ≤ velocity)
    (small : velocity.raw ≤ 48000000000000) :
    (speedOfVelocity velocity).toInt =
      ((2 * (velocity.raw * 36864) + 800) / 1600 + 524288) / 1048576 := by
  rw [Fixed.nonneg_iff] at nonneg
  have product_eq : (velocity.mulInt speedDenominator).raw = velocity.raw * 36864 := by
    apply Fixed.raw_saturate_of_fits
    · simp only [Fixed.limit, speedDenominator]
      omega
    · simp only [Fixed.limit, speedDenominator]
      omega
  have quotient_eq : ((velocity.mulInt speedDenominator).divInt speedNumerator).raw =
      (2 * (velocity.raw * 36864) + 800) / 1600 := by
    rw [Fixed.divInt, product_eq, Fixed.quotient_of_pos (by decide),
      Fixed.roundQuotient_of_pos (by decide), Fixed.raw_saturate]
    simp only [Fixed.limit, speedNumerator]
    omega
  rw [speedOfVelocity, toInt_round32, quotient_eq]
  omega

/-- Yards of a distance ahead, rounded twice; a far distance is cut off before it is divided. -/
theorem yardsOfMetres_of_nonneg {metres : Fixed} (nonneg : Fixed.zero ≤ metres) :
    yardsOfMetres metres =
      ((2 * min (metres.raw * 2359296) Fixed.limit + 800) / 1600 + 524288) / 1048576 := by
  have raw_nonneg := Fixed.nonneg_iff.mp nonneg
  unfold yardsOfMetres Fixed.round
  rw [Fixed.divInt, Fixed.quotient_of_pos (by decide), Fixed.roundQuotient_of_pos (by decide),
    Fixed.raw_saturate, Fixed.mulInt, Fixed.raw_saturate]
  simp only [yardDenominator, speedNumerator, Fixed.halfScale, Fixed.scale, Fixed.limit]
  omega

/-- Yards of a distance ahead are few. -/
theorem yardsOnMap_bounds {mapScale metres : Fixed} (scale_pos : Fixed.zero < mapScale)
    (ahead : Fixed.zero ≤ metres) :
    0 ≤ yardsOnMap mapScale metres ∧ yardsOnMap mapScale metres ≤ 11000000000 := by
  have quotient_nonneg := Fixed.div_nonneg ahead scale_pos
  have raw_nonneg := Fixed.nonneg_iff.mp quotient_nonneg
  rw [yardsOnMap, yardsOfMetres_of_nonneg quotient_nonneg]
  simp only [Fixed.limit]
  omega

/-- The yards of a distance on a map are counted without being cut off. -/
def YardsFit (mapScale metres : Fixed) : Prop :=
  (metres / mapScale).raw * yardDenominator ≤ Fixed.limit

instance (mapScale metres : Fixed) : Decidable (YardsFit mapScale metres) :=
  inferInstanceAs (Decidable (_ ≤ _))

/-- Yards that are counted are half a yard off at most, but for what is rounded before. -/
theorem yardsOnMap_near_quotient {mapScale metres : Fixed} (scale_pos : Fixed.zero < mapScale)
    (ahead : Fixed.zero ≤ metres) :
    838860800 * yardsOnMap mapScale metres ≤
        2359296 * (metres / mapScale).raw + 419430800 ∧
      (YardsFit mapScale metres → 2359296 * (metres / mapScale).raw ≤
        838860800 * yardsOnMap mapScale metres + 419430800) := by
  have quotient_nonneg := Fixed.div_nonneg ahead scale_pos
  have raw_nonneg := Fixed.nonneg_iff.mp quotient_nonneg
  rw [YardsFit, yardsOnMap, yardsOfMetres_of_nonneg quotient_nonneg]
  simp only [yardDenominator, Fixed.limit]
  omega

theorem residue_fits {velocity : Fixed} (nonneg : Fixed.zero ≤ velocity) :
    (velocity - velocityOfSpeed (speedOfVelocity velocity)).raw =
      velocity.raw - (velocityOfSpeed (speedOfVelocity velocity)).raw := by
  have low := speedOfVelocity_nonneg nonneg
  have high := (speedOfVelocity velocity).toInt_lt
  have fits := velocity.raw_le_limit
  have raw_eq := raw_velocityOfSpeed (speedOfVelocity velocity)
  rw [Fixed.nonneg_iff] at nonneg
  apply Fixed.raw_sub_of_fits
  · simp only [Fixed.limit] at fits ⊢
    omega
  · omega

/-- Whole units and residue give the velocity back. -/
theorem velocity_restored {velocity : Fixed} (nonneg : Fixed.zero ≤ velocity) :
    velocityOfSpeed (speedOfVelocity velocity) +
      (velocity - velocityOfSpeed (speedOfVelocity velocity)) = velocity := by
  have fits := velocity.raw_le_limit
  have sum_eq : (velocityOfSpeed (speedOfVelocity velocity)).raw +
      (velocity - velocityOfSpeed (speedOfVelocity velocity)).raw = velocity.raw := by
    rw [residue_fits nonneg]
    omega
  rw [Fixed.nonneg_iff] at nonneg
  apply Fixed.ext_raw
  rw [Fixed.raw_add_of_fits, sum_eq]
  · rw [sum_eq]
    simp only [Fixed.limit]
    omega
  · rw [sum_eq]
    exact fits

/-- The residue is at most half a unit of speed. -/
theorem residue_le_half_unit {velocity : Fixed} (nonneg : Fixed.zero ≤ velocity)
    (small : velocity.raw ≤ 48000000000000) :
    -11378 ≤ (velocity - velocityOfSpeed (speedOfVelocity velocity)).raw ∧
      (velocity - velocityOfSpeed (speedOfVelocity velocity)).raw ≤ 11378 := by
  have speed_eq := toInt_speedOfVelocity nonneg small
  rw [residue_fits nonneg, raw_velocityOfSpeed, speed_eq]
  rw [Fixed.nonneg_iff] at nonneg
  constructor <;> omega

end Units

end Haulage
