import Haulage.Braking
import Haulage.Proofs.Curves
import Haulage.Proofs.Rounding

/-!
# Braking distances in exact numbers

The brakes of a convoy are four numbers that do not depend on its speed.  Within the bins of the
sum they give the braking distance up to the rounding of its quotients, and the distance does not
fall with the speed.
-/

namespace Haulage

open Fixed

/-- What slows a convoy down. -/
structure Brakes where
  /-- Brake force, N. -/
  force : Fixed
  /-- Air drag, kg/m. -/
  drag : Fixed
  /-- Rolling resistance and downhill force, N. -/
  resistance : Fixed
  /-- Weight, kg. -/
  weight : Int32

/-- A profile brakes a weight with these brakes at any speed. -/
structure Profile.BrakesBy (profile : Profile) (weight : WeightSummary) (brakes : Brakes) :
    Prop where
  /-- The brake force does not depend on the speed. -/
  force_eq : ∀ speed, profile.brakingForce speed = brakes.force
  /-- The drag is that of the brakes. -/
  drag_eq : profile.adverse.drag = brakes.drag
  /-- So is the resistance. -/
  resistance_eq : profile.resistance weight = brakes.resistance
  /-- So is the weight. -/
  weight_eq : weight.weight = brakes.weight

namespace Brakes

/-- Brake force, drag and resistance together at a velocity, N. -/
def retarding (brakes : Brakes) (velocity : Fixed) : Fixed :=
  brakes.force + brakes.drag * velocity * velocity + brakes.resistance

/-- The numbers of a convoy that weighs something: no force that its vehicles could not have, and no
drag that no way has. -/
structure Proper (brakes : Brakes) : Prop where
  /-- The brake force does not push. -/
  force_nonneg : zero ≤ brakes.force
  /-- It is a 32-bit number of kN. -/
  force_le : brakes.force.raw ≤ 2251799813685248000
  /-- Drag does not push. -/
  drag_nonneg : zero ≤ brakes.drag
  /-- No way drags more than water. -/
  drag_le : brakes.drag.raw ≤ 26214400
  /-- There is a weight. -/
  weight_ge : 1 ≤ brakes.weight.toInt

/-- Brakes whose decelerations the grid of the numbers tells apart: at a standstill they slow the
convoy down by 0.005 m/s² at least, at the upper end of the bins by 105 000 m/s² at most. -/
structure Able (brakes : Brakes) : Prop extends brakes.Proper where
  /-- At a standstill the convoy slows down. -/
  standing_ge : 5243 * brakes.weight.toInt ≤ (brakes.retarding zero).raw
  /-- No speed that the bins cover is lost at once. -/
  top_le : (brakes.retarding Profile.brakeCap).raw ≤ 110100480000 * brakes.weight.toInt

/-- Brakes that are neither faint nor fierce: resistance alone slows the convoy down by 0.0196 m/s²,
and at a standstill all together by at most 16 m/s². -/
structure Firm (brakes : Brakes) : Prop where
  /-- The brake force does not push. -/
  force_nonneg : zero ≤ brakes.force
  /-- Drag does not push. -/
  drag_nonneg : zero ≤ brakes.drag
  /-- No way drags more than water. -/
  drag_le : brakes.drag.raw ≤ 26214400
  /-- The convoy weighs a tonne at least. -/
  weight_ge : 1000 ≤ brakes.weight.toInt
  /-- Resistance slows it down. -/
  resistance_ge : 20500 * brakes.weight.toInt ≤ brakes.resistance.raw
  /-- At a standstill it slows down by at most 16 m/s². -/
  force_le : brakes.force.raw + brakes.resistance.raw ≤ 16777216 * brakes.weight.toInt

namespace Proper

variable {brakes : Brakes} {velocity slow fast : Fixed}

theorem weight_lt (_ : brakes.Proper) : brakes.weight.toInt < 2147483648 :=
  brakes.weight.toInt_lt

theorem weight_pos (proper : brakes.Proper) : (0 : ℚ) < brakes.weight.toInt := by
  have := proper.weight_ge
  exact_mod_cast (by omega : (0 : Int) < brakes.weight.toInt)

theorem mass_nonneg (proper : brakes.Proper) : zero ≤ Fixed.ofInt brakes.weight.toInt := by
  have := proper.weight_ge
  exact ofInt32_nonneg (by omega)

theorem raw_weight (_ : brakes.Proper) :
    (Fixed.ofInt brakes.weight.toInt).raw = brakes.weight.toInt * 1048576 :=
  raw_ofInt32 _

theorem drag_product_nonneg (proper : brakes.Proper) (nonneg : zero ≤ velocity) :
    zero ≤ brakes.drag * velocity :=
  mul_nonneg proper.drag_nonneg nonneg

theorem drag_product_le (proper : brakes.Proper) (nonneg : zero ≤ velocity) :
    (brakes.drag * velocity).raw ≤ 25 * velocity.raw := by
  have velocity_nonneg : 0 ≤ velocity.raw := nonneg
  have drag_nonneg : 0 ≤ brakes.drag.raw := proper.drag_nonneg
  have product_nonneg := Int.mul_nonneg drag_nonneg velocity_nonneg
  have product_le : brakes.drag.raw * velocity.raw ≤ 26214400 * velocity.raw :=
    Int.mul_le_mul_of_nonneg_right proper.drag_le velocity_nonneg
  rw [raw_mul]
  simp only [halfScale, scale, limit]
  omega

theorem drag_le_square (proper : brakes.Proper) (nonneg : zero ≤ velocity) :
    1048576 * (brakes.drag * velocity * velocity).raw ≤
      25 * (velocity.raw * velocity.raw) + 524288 := by
  have velocity_nonneg : 0 ≤ velocity.raw := nonneg
  have product_nonneg : 0 ≤ (brakes.drag * velocity).raw := proper.drag_product_nonneg nonneg
  have square_nonneg := Int.mul_nonneg product_nonneg velocity_nonneg
  have square_le : (brakes.drag * velocity).raw * velocity.raw ≤
      25 * velocity.raw * velocity.raw :=
    Int.mul_le_mul_of_nonneg_right (proper.drag_product_le nonneg) velocity_nonneg
  rw [Int.mul_assoc] at square_le
  rw [raw_mul (brakes.drag * velocity)]
  simp only [halfScale, scale, limit]
  omega

theorem drag_mono (proper : brakes.Proper) (nonneg : zero ≤ slow) (le : slow ≤ fast) :
    (brakes.drag * slow * slow).raw ≤ (brakes.drag * fast * fast).raw :=
  le_def.mp ((mul_le_mul_right (mul_le_mul_left proper.drag_nonneg le) nonneg).trans
    (mul_le_mul_left (proper.drag_product_nonneg (nonneg.trans le)) le))

theorem drag_square_nonneg (proper : brakes.Proper) (nonneg : zero ≤ velocity) :
    0 ≤ (brakes.drag * velocity * velocity).raw :=
  nonneg_iff.mp (mul_nonneg (proper.drag_product_nonneg nonneg) nonneg)

theorem drag_lt (proper : brakes.Proper) (nonneg : zero ≤ velocity)
    (covered : velocity.raw ≤ 2147483648) :
    (brakes.drag * velocity * velocity).raw ≤ 109951162777601 := by
  have velocity_nonneg : 0 ≤ velocity.raw := nonneg
  have square_le : velocity.raw * velocity.raw ≤ 2147483648 * 2147483648 :=
    Int.mul_le_mul covered covered velocity_nonneg (by decide)
  have := proper.drag_le_square nonneg
  omega

/-- Brake force and drag together fit the range; a resistance may still exceed it. -/
theorem raw_retarding (proper : brakes.Proper) (nonneg : zero ≤ velocity)
    (covered : velocity.raw ≤ 2147483648) :
    (brakes.retarding velocity).raw = max (-limit) (min (brakes.force.raw +
      (brakes.drag * velocity * velocity).raw + brakes.resistance.raw) limit) := by
  have force_nonneg : 0 ≤ brakes.force.raw := proper.force_nonneg
  have force_le := proper.force_le
  have drag_nonneg := proper.drag_square_nonneg nonneg
  have drag_lt := proper.drag_lt nonneg covered
  have inner : (brakes.force + brakes.drag * velocity * velocity).raw =
      brakes.force.raw + (brakes.drag * velocity * velocity).raw := by
    apply raw_add_of_fits <;> simp only [limit] <;> omega
  rw [retarding, raw_add, inner]

theorem retarding_mono (proper : brakes.Proper) (nonneg : zero ≤ slow) (le : slow ≤ fast) :
    (brakes.retarding slow).raw ≤ (brakes.retarding fast).raw :=
  le_def.mp (add_le_add (add_le_add le_rfl (proper.drag_mono nonneg le)) le_rfl)

/-- Between two velocities the force grows at most as the drag does. -/
theorem retarding_sub_le (proper : brakes.Proper) (nonneg : zero ≤ slow) (le : slow ≤ fast)
    (covered : fast.raw ≤ 2147483648) :
    (brakes.retarding fast).raw - (brakes.retarding slow).raw ≤
      (brakes.drag * fast * fast).raw - (brakes.drag * slow * slow).raw := by
  have drag_le := proper.drag_mono nonneg le
  rw [proper.raw_retarding nonneg ((le_def.mp le).trans covered),
    proper.raw_retarding (nonneg.trans le) covered]
  simp only [limit]
  omega

end Proper

namespace Able

variable {brakes : Brakes} {velocity : Fixed}

theorem retarding_ge (able : brakes.Able) (nonneg : zero ≤ velocity) :
    5243 * brakes.weight.toInt ≤ (brakes.retarding velocity).raw :=
  able.standing_ge.trans (able.retarding_mono le_rfl nonneg)

theorem retarding_le (able : brakes.Able) (nonneg : zero ≤ velocity)
    (covered : velocity.raw ≤ 2147483648) :
    (brakes.retarding velocity).raw ≤ 110100480000 * brakes.weight.toInt :=
  (able.retarding_mono nonneg covered).trans able.top_le

end Able

namespace Firm

variable {brakes : Brakes} {velocity slow fast : Fixed}

theorem proper (firm : brakes.Firm) : brakes.Proper where
  force_nonneg := firm.force_nonneg
  force_le := by
    have := firm.weight_ge
    have := firm.resistance_ge
    have := firm.force_le
    have := brakes.weight.toInt_lt
    omega
  drag_nonneg := firm.drag_nonneg
  drag_le := firm.drag_le
  weight_ge := (by decide : (1 : Int) ≤ 1000).trans firm.weight_ge

theorem raw_retarding (firm : brakes.Firm) (nonneg : zero ≤ velocity)
    (covered : velocity.raw ≤ 2147483648) :
    (brakes.retarding velocity).raw =
      brakes.force.raw + (brakes.drag * velocity * velocity).raw + brakes.resistance.raw := by
  have force_nonneg : 0 ≤ brakes.force.raw := firm.force_nonneg
  have drag_nonneg := firm.proper.drag_square_nonneg nonneg
  have drag_lt := firm.proper.drag_lt nonneg covered
  have := firm.weight_ge
  have := brakes.weight.toInt_lt
  have := firm.resistance_ge
  have := firm.force_le
  rw [firm.proper.raw_retarding nonneg covered]
  simp only [limit]
  omega

theorem retarding_ge (firm : brakes.Firm) (nonneg : zero ≤ velocity)
    (covered : velocity.raw ≤ 2147483648) :
    20500 * brakes.weight.toInt ≤ (brakes.retarding velocity).raw := by
  have force_nonneg : 0 ≤ brakes.force.raw := firm.force_nonneg
  have := firm.proper.drag_square_nonneg nonneg
  have := firm.resistance_ge
  rw [firm.raw_retarding nonneg covered]
  omega

theorem able (firm : brakes.Firm) : brakes.Able where
  toProper := firm.proper
  standing_ge := by
    have := firm.weight_ge
    have := firm.retarding_ge le_rfl (by decide : zero.raw ≤ 2147483648)
    omega
  top_le := by
    have cap_raw : Profile.brakeCap.raw = 2147483648 := by decide
    have cap_nonneg : zero ≤ Profile.brakeCap := by decide
    have := firm.weight_ge
    have := firm.force_le
    have := firm.proper.drag_lt cap_nonneg cap_raw.le
    rw [firm.raw_retarding cap_nonneg cap_raw.le]
    omega

end Firm

/-- Metres braked within a bin from a velocity down to its lower end. -/
def span (brakes : Brakes) (bin : Nat) (velocity : Fixed) : Fixed :=
  (velocity - Profile.binFloor bin) * velocity * .ofInt brakes.weight.toInt /
    brakes.retarding (Profile.binFloor bin)

/-- Metres braked from the lower end of a bin. -/
def stopping (brakes : Brakes) : Nat → Fixed
  | 0 => .zero
  | bin + 1 => brakes.stopping bin + brakes.span bin (Profile.binFloor (bin + 1))

/-- Metres braked from a velocity. -/
def distance (brakes : Brakes) (velocity : Fixed) : Fixed :=
  brakes.stopping (Profile.binOf velocity) + brakes.span (Profile.binOf velocity) velocity

/-- The deceleration at the lower end of a bin, counted in 2⁻²⁰ths of m/s². -/
def pull (brakes : Brakes) (bin : Nat) : ℚ :=
  (brakes.retarding (Profile.binFloor bin)).raw / brakes.weight.toInt

end Brakes

namespace Profile

theorem BrakesBy.binForce_eq {profile : Profile} {weight : WeightSummary} {brakes : Brakes}
    (braked : profile.BrakesBy weight brakes) (bin : Nat) :
    profile.binForce (profile.resistance weight) bin = brakes.retarding (binFloor bin) := by
  rw [binForce, drag, braked.force_eq, braked.drag_eq, braked.resistance_eq]
  rfl

theorem BrakesBy.weight_pos {profile : Profile} {weight : WeightSummary} {brakes : Brakes}
    (braked : profile.BrakesBy weight brakes) (proper : brakes.Proper) : 0 < weight.weight := by
  have := proper.weight_ge
  rw [braked.weight_eq, Int32.lt_iff_toInt_lt]
  change 0 < brakes.weight.toInt
  omega

theorem raw_binFloor {bin : Nat} (inside : bin ≤ 4096) : (binFloor bin).raw = 524288 * bin := by
  change (saturate (524288 * (bin : Int))).raw = _
  rw [raw_saturate_of_fits] <;> simp only [limit] <;> omega

theorem binFloor_nonneg (bin : Nat) : zero ≤ binFloor bin :=
  mulInt_nonneg (by decide) (Int.natCast_nonneg bin)

theorem binFloor_covered {bin : Nat} (inside : bin ≤ 4096) :
    (binFloor bin).raw ≤ 2147483648 := by
  rw [raw_binFloor inside]
  omega

theorem binOf_eq {velocity : Fixed} (nonneg : zero ≤ velocity) :
    (binOf velocity : Int) = velocity.raw / 524288 :=
  Int.toNat_of_nonneg (Int.ediv_nonneg nonneg (by decide))

theorem binOf_le {velocity : Fixed} (nonneg : zero ≤ velocity)
    (covered : velocity.raw ≤ 2147483648) : binOf velocity ≤ 4096 := by
  have := binOf_eq nonneg
  omega

theorem binOf_mono {slow fast : Fixed} (nonneg : zero ≤ slow) (le : slow ≤ fast) :
    binOf slow ≤ binOf fast := by
  have slow_eq := binOf_eq nonneg
  have fast_eq := binOf_eq (nonneg.trans le)
  rw [le_def] at le
  omega

/-- A velocity lies in its bin. -/
theorem binFloor_binOf {velocity : Fixed} (nonneg : zero ≤ velocity)
    (covered : velocity.raw ≤ 2147483648) :
    (binFloor (binOf velocity)).raw ≤ velocity.raw ∧
      velocity.raw < (binFloor (binOf velocity)).raw + 524288 := by
  have bin_eq := binOf_eq nonneg
  rw [raw_binFloor (binOf_le nonneg covered)]
  omega

end Profile

namespace Brakes.Able

variable {brakes : Brakes} {bin : Nat} {velocity slow fast : Fixed}

open Profile

theorem pull_ge (able : brakes.Able) (bin : Nat) : 5243 ≤ brakes.pull bin := by
  rw [pull, le_div_iff₀ able.weight_pos]
  exact_mod_cast able.retarding_ge (binFloor_nonneg bin)

theorem retarding_pos (able : brakes.Able) (bin : Nat) :
    zero < brakes.retarding (binFloor bin) := by
  have := able.weight_ge
  have := able.retarding_ge (binFloor_nonneg bin)
  rw [pos_iff]
  omega

end Brakes.Able

namespace Profile

/-- A velocity lies between the two ends of a bin. -/
structure InBin (bin : Nat) (velocity : Fixed) : Prop where
  /-- There is such a bin. -/
  inside : bin ≤ 4096
  /-- The velocity is not below the lower end. -/
  above : (binFloor bin).raw ≤ velocity.raw
  /-- The velocity is not above the upper end. -/
  below : velocity.raw ≤ (binFloor bin).raw + 524288
  /-- The bins cover the velocity. -/
  covered : velocity.raw ≤ 2147483648

namespace InBin

variable {bin : Nat} {velocity : Fixed}

theorem binOf (nonneg : zero ≤ velocity) (covered : velocity.raw ≤ 2147483648) :
    InBin (Profile.binOf velocity) velocity where
  inside := binOf_le nonneg covered
  above := (binFloor_binOf nonneg covered).1
  below := le_of_lt (binFloor_binOf nonneg covered).2
  covered := covered

theorem binFloor (inside : bin ≤ 4096) : InBin bin (binFloor bin) where
  inside := inside
  above := le_rfl
  below := by omega
  covered := binFloor_covered inside

theorem top (inside : bin < 4096) : InBin bin (Profile.binFloor (bin + 1)) where
  inside := le_of_lt inside
  above := by
    rw [raw_binFloor (le_of_lt inside), raw_binFloor inside]
    omega
  below := by
    rw [raw_binFloor (le_of_lt inside), raw_binFloor inside]
    omega
  covered := binFloor_covered inside

theorem nonneg (within : InBin bin velocity) : zero ≤ velocity :=
  (binFloor_nonneg bin).trans within.above

theorem raw_sub (within : InBin bin velocity) :
    (velocity - Profile.binFloor bin).raw = velocity.raw - (Profile.binFloor bin).raw := by
  have := nonneg_iff.mp (binFloor_nonneg bin)
  have := within.above
  have := within.below
  apply raw_sub_of_fits <;> simp only [limit] <;> omega

theorem sub_nonneg (within : InBin bin velocity) : zero ≤ velocity - Profile.binFloor bin :=
  Fixed.sub_nonneg within.above

theorem product_le (within : InBin bin velocity) :
    (velocity - Profile.binFloor bin).raw * velocity.raw ≤ 524288 * 2147483648 := by
  have below := within.below
  rw [within.raw_sub]
  exact Int.mul_le_mul (by omega) within.covered within.nonneg (by decide)

theorem raw_product_le (within : InBin bin velocity) :
    ((velocity - Profile.binFloor bin) * velocity).raw ≤ 1073741824 := by
  have := within.product_le
  have := Int.mul_nonneg within.sub_nonneg within.nonneg
  rw [raw_mul]
  simp only [halfScale, scale, limit]
  omega

theorem product_nonneg (within : InBin bin velocity) :
    zero ≤ (velocity - Profile.binFloor bin) * velocity :=
  mul_nonneg within.sub_nonneg within.nonneg

theorem product_mono {slow fast : Fixed} (slow_in : InBin bin slow) (fast_in : InBin bin fast)
    (le : slow ≤ fast) :
    (slow - Profile.binFloor bin) * slow ≤ (fast - Profile.binFloor bin) * fast :=
  (mul_le_mul_right (sub_le_sub le le_rfl) slow_in.nonneg).trans
    (mul_le_mul_left fast_in.sub_nonneg le)

/-- A weight times the product is exact. -/
theorem raw_weighed (within : InBin bin velocity) {kg : Int32} (nonneg : 0 ≤ kg.toInt) :
    ((velocity - Profile.binFloor bin) * velocity * .ofInt kg.toInt).raw =
      ((velocity - Profile.binFloor bin) * velocity).raw * kg.toInt := by
  have kg_lt := kg.toInt_lt
  have weighed_le : ((velocity - Profile.binFloor bin) * velocity).raw * kg.toInt ≤
      1073741824 * 2147483648 :=
    Int.mul_le_mul within.raw_product_le (by omega) nonneg (by decide)
  apply raw_mul_of_whole within.product_nonneg nonneg (raw_ofInt32 kg)
  simp only [limit]
  omega

end InBin

end Profile

namespace Brakes.Able

variable {brakes : Brakes} {bin : Nat} {velocity slow fast : Fixed}

open Profile

/-- The quotient of a span is rounded once. -/
theorem span_near (able : brakes.Able) (within : InBin bin velocity) :
    ((velocity - binFloor bin) * velocity).raw * 1048576 / brakes.pull bin - 1 / 2 ≤
        ((brakes.span bin velocity).raw : ℚ) ∧
      ((brakes.span bin velocity).raw : ℚ) ≤
        ((velocity - binFloor bin) * velocity).raw * 1048576 / brakes.pull bin + 1 / 2 := by
  have weight_ge := able.weight_ge
  have weight_ne := able.weight_pos.ne'
  have pos := able.retarding_pos bin
  have retarding_ge := able.retarding_ge (binFloor_nonneg bin)
  have product_nonneg : 0 ≤ ((velocity - binFloor bin) * velocity).raw := within.product_nonneg
  have product_le := within.raw_product_le
  have weight_nonneg : 0 ≤ brakes.weight.toInt := by omega
  have weighed_eq := within.raw_weighed weight_nonneg
  have weighed_nonneg : zero ≤
      (velocity - binFloor bin) * velocity * .ofInt brakes.weight.toInt := by
    rw [nonneg_iff, weighed_eq]
    exact Int.mul_nonneg product_nonneg (by omega)
  have exact_eq : ((velocity - binFloor bin) * velocity).raw * 1048576 / brakes.pull bin =
      (((velocity - binFloor bin) * velocity * .ofInt brakes.weight.toInt).raw : ℚ) * 1048576 /
        (brakes.retarding (binFloor bin)).raw := by
    have retarding_ne : ((brakes.retarding (binFloor bin)).raw : ℚ) ≠ 0 :=
      (Int.cast_pos.mpr pos).ne'
    rw [weighed_eq, pull, Int.cast_mul]
    field_simp
  have fits : ((velocity - binFloor bin) * velocity * .ofInt brakes.weight.toInt).raw * 1048576 ≤
      limit * (brakes.retarding (binFloor bin)).raw := by
    have weighed_le : ((velocity - binFloor bin) * velocity).raw * brakes.weight.toInt ≤
        1073741824 * brakes.weight.toInt :=
      Int.mul_le_mul_of_nonneg_right product_le (by omega)
    have weight_le : 1125899906842624 * brakes.weight.toInt ≤
        limit * (5243 * brakes.weight.toInt) := by
      simp only [limit]
      omega
    have limit_le := Int.mul_le_mul_of_nonneg_left retarding_ge (by decide : 0 ≤ limit)
    rw [weighed_eq]
    omega
  rw [exact_eq]
  exact ⟨le_raw_div weighed_nonneg pos fits, raw_div_le weighed_nonneg pos⟩

theorem pull_pos (able : brakes.Able) (bin : Nat) : 0 < brakes.pull bin :=
  lt_of_lt_of_le (by norm_num) (able.pull_ge bin)

/-- A span is the exact one up to the rounding of the product and that of the quotient. -/
theorem span_bounds (able : brakes.Able) (within : InBin bin velocity) :
    ((velocity.raw - (binFloor bin).raw) * velocity.raw - 524288) / brakes.pull bin - 1 / 2 ≤
        ((brakes.span bin velocity).raw : ℚ) ∧
      ((brakes.span bin velocity).raw : ℚ) ≤
        ((velocity.raw - (binFloor bin).raw) * velocity.raw + 524288) / brakes.pull bin +
          1 / 2 := by
  have pull_pos := able.pull_pos bin
  have near := able.span_near within
  have fits : (velocity - binFloor bin).raw * velocity.raw ≤ limit * 1048576 := by
    have := within.product_le
    simp only [limit]
    omega
  have product_le := raw_mul_le within.sub_nonneg within.nonneg
  have le_product := le_raw_mul within.sub_nonneg within.nonneg fits
  rw [within.raw_sub, Int.cast_sub] at product_le le_product
  constructor
  · refine le_trans (sub_le_sub_right ?_ _) near.1
    exact div_le_div_of_nonneg_right (by linarith) pull_pos.le
  · refine near.2.trans (add_le_add_left ?_ _)
    exact div_le_div_of_nonneg_right (by linarith) pull_pos.le

/-- The product of a full span needs no rounding. -/
theorem span_top_bounds (able : brakes.Able) (inside : bin < 4096) :
    274877906944 * (bin + 1) / brakes.pull bin - 1 / 2 ≤
        ((brakes.span bin (binFloor (bin + 1))).raw : ℚ) ∧
      ((brakes.span bin (binFloor (bin + 1))).raw : ℚ) ≤
        274877906944 * (bin + 1) / brakes.pull bin + 1 / 2 := by
  have within := InBin.top inside
  have near := able.span_near within
  have product_eq : ((binFloor (bin + 1) - binFloor bin) * binFloor (bin + 1)).raw =
      262144 * (bin + 1) := by
    rw [raw_mul, within.raw_sub, raw_binFloor (le_of_lt inside), raw_binFloor inside]
    simp only [halfScale, scale, limit]
    omega
  rw [product_eq] at near
  push_cast at near
  have scaled_eq : (262144 * (bin + 1) * 1048576 : ℚ) = 274877906944 * (bin + 1) := by ring
  rw [scaled_eq] at near
  exact near

theorem span_nonneg (able : brakes.Able) (within : InBin bin velocity) :
    zero ≤ brakes.span bin velocity := by
  apply div_nonneg _ (able.retarding_pos bin)
  exact mul_nonneg within.product_nonneg able.mass_nonneg

theorem span_le (able : brakes.Able) (within : InBin bin velocity) :
    (brakes.span bin velocity).raw ≤ 214748364800 := by
  have pull_ge := able.pull_ge bin
  have product_le : (((velocity - binFloor bin) * velocity).raw : ℚ) ≤ 1073741824 := by
    exact_mod_cast within.raw_product_le
  have quotient_le : ((velocity - binFloor bin) * velocity).raw * 1048576 / brakes.pull bin ≤
      214748364799 := by
    rw [div_le_iff₀ (able.pull_pos bin)]
    linarith
  have span_le : ((brakes.span bin velocity).raw : ℚ) ≤ 214748364800 := by
    linarith [(able.span_near within).2]
  exact_mod_cast span_le

theorem stopping_bounds (able : brakes.Able) (inside : bin ≤ 4096) :
    0 ≤ (brakes.stopping bin).raw ∧ (brakes.stopping bin).raw ≤ 214748364800 * bin := by
  induction bin with
  | zero => exact ⟨le_rfl, le_rfl⟩
  | succ bin ih =>
    obtain ⟨nonneg, below⟩ := ih (by omega)
    have within := InBin.top inside
    have span_nonneg := nonneg_iff.mp (able.span_nonneg within)
    have span_le := able.span_le within
    rw [stopping, raw_add]
    simp only [limit]
    omega

theorem raw_stopping_add (able : brakes.Able) (within : InBin bin velocity) :
    (brakes.stopping bin + brakes.span bin velocity).raw =
      (brakes.stopping bin).raw + (brakes.span bin velocity).raw := by
  have stopping_bounds := able.stopping_bounds within.inside
  have span_nonneg := nonneg_iff.mp (able.span_nonneg within)
  have span_le := able.span_le within
  have := within.inside
  apply raw_add_of_fits <;> simp only [limit] <;> omega

theorem raw_stopping_succ (able : brakes.Able) (inside : bin < 4096) :
    (brakes.stopping (bin + 1)).raw =
      (brakes.stopping bin).raw + (brakes.span bin (binFloor (bin + 1))).raw :=
  able.raw_stopping_add (InBin.top inside)

theorem raw_distance (able : brakes.Able) (nonneg : zero ≤ velocity)
    (covered : velocity.raw ≤ 2147483648) :
    (brakes.distance velocity).raw =
      (brakes.stopping (binOf velocity)).raw + (brakes.span (binOf velocity) velocity).raw :=
  able.raw_stopping_add (InBin.binOf nonneg covered)

theorem distance_bounds (able : brakes.Able) (nonneg : zero ≤ velocity)
    (covered : velocity.raw ≤ 2147483648) :
    0 ≤ (brakes.distance velocity).raw ∧ (brakes.distance velocity).raw ≤ 900000000000000 := by
  have within := InBin.binOf nonneg covered
  have stopping_bounds := able.stopping_bounds within.inside
  have span_nonneg := nonneg_iff.mp (able.span_nonneg within)
  have span_le := able.span_le within
  have := within.inside
  rw [able.raw_distance nonneg covered]
  omega

theorem span_mono (able : brakes.Able) (slow_in : InBin bin slow) (fast_in : InBin bin fast)
    (le : slow ≤ fast) : brakes.span bin slow ≤ brakes.span bin fast :=
  div_le_div_right (able.retarding_pos bin)
    (mul_le_mul_right (slow_in.product_mono fast_in le) able.mass_nonneg)

theorem stopping_mono (able : brakes.Able) {low high : Nat} (le : low ≤ high)
    (inside : high ≤ 4096) : (brakes.stopping low).raw ≤ (brakes.stopping high).raw := by
  induction high, le using Nat.le_induction with
  | base => exact le_rfl
  | succ high _ ih =>
    have span_nonneg := nonneg_iff.mp (able.span_nonneg (InBin.top inside))
    have := ih (by omega)
    rw [able.raw_stopping_succ inside]
    omega

theorem distance_mono (able : brakes.Able) (nonneg : zero ≤ slow) (le : slow ≤ fast)
    (covered : fast.raw ≤ 2147483648) : brakes.distance slow ≤ brakes.distance fast := by
  have slow_covered := (le_def.mp le).trans covered
  have slow_in := InBin.binOf nonneg slow_covered
  have fast_in := InBin.binOf (nonneg.trans le) covered
  have fast_nonneg := nonneg_iff.mp (able.span_nonneg fast_in)
  rw [le_def, able.raw_distance nonneg slow_covered, able.raw_distance (nonneg.trans le) covered]
  rcases (binOf_mono nonneg le).lt_or_eq with lower | same
  · have inside : binOf slow < 4096 := lower.trans_le fast_in.inside
    have top_in := InBin.top inside
    have below_top : slow ≤ binFloor (binOf slow + 1) := by
      have := slow_in.below
      rw [raw_binFloor slow_in.inside] at this
      rw [le_def, raw_binFloor inside]
      omega
    have span_le := le_def.mp (able.span_mono slow_in top_in below_top)
    have stopping_le := able.stopping_mono lower fast_in.inside
    rw [Nat.succ_eq_add_one, able.raw_stopping_succ inside] at stopping_le
    omega
  · rw [same] at slow_in ⊢
    have := le_def.mp (able.span_mono slow_in fast_in le)
    omega

theorem span_binFloor (able : brakes.Able) (inside : bin ≤ 4096) :
    brakes.span bin (binFloor bin) = zero := by
  have within := InBin.binFloor inside
  have near := able.span_near within
  have product_zero : ((binFloor bin - binFloor bin) * binFloor bin).raw = 0 := by
    rw [raw_mul, within.raw_sub, Int.sub_self, Int.zero_mul]
    rfl
  rw [product_zero] at near
  norm_num at near
  have low : (-1 : ℚ) < (brakes.span bin (binFloor bin)).raw := by linarith [near.1]
  have high : ((brakes.span bin (binFloor bin)).raw : ℚ) < 1 := by linarith [near.2]
  have low : -1 < (brakes.span bin (binFloor bin)).raw := by exact_mod_cast low
  have high : (brakes.span bin (binFloor bin)).raw < 1 := by exact_mod_cast high
  apply ext_raw
  rw [raw_zero]
  omega

variable {profile : Profile} {weight : WeightSummary}

theorem stopping_ne_greatest (able : brakes.Able) (inside : bin ≤ 4096) :
    brakes.stopping bin ≠ .greatest := by
  intro endless
  have bounds := able.stopping_bounds inside
  rw [endless, raw_greatest] at bounds
  omega

theorem throughBin_eq (able : brakes.Able) (braked : profile.BrakesBy weight brakes)
    (inside : bin ≤ 4096) (top : Fixed) :
    profile.throughBin (profile.resistance weight) (.ofInt weight.weight.toInt) bin top
        (brakes.stopping bin) = brakes.stopping bin + brakes.span bin top := by
  have positive := isPositive_iff.mpr (able.retarding_pos bin)
  rw [throughBin, if_neg (able.stopping_ne_greatest inside)]
  simp only
  rw [braked.binForce_eq, if_pos positive, braked.weight_eq]
  rfl

theorem stoppingDistance_eq (able : brakes.Able) (braked : profile.BrakesBy weight brakes)
    (inside : bin ≤ 4096) :
    profile.stoppingDistance (profile.resistance weight) (.ofInt weight.weight.toInt) bin =
      brakes.stopping bin := by
  induction bin with
  | zero => rfl
  | succ bin ih =>
    rw [stoppingDistance, ih (by omega), able.throughBin_eq braked (by omega)]
    rfl

theorem distance_of_binFloor (able : brakes.Able) (nonneg : zero ≤ velocity)
    (covered : velocity.raw ≤ 2147483648) (at_floor : velocity = binFloor (binOf velocity)) :
    brakes.distance velocity = brakes.stopping (binOf velocity) := by
  have span_zero := able.span_binFloor (binOf_le nonneg covered)
  rw [← at_floor] at span_zero
  apply ext_raw
  rw [able.raw_distance nonneg covered, span_zero, raw_zero, Int.add_zero]

/-- The braking distance depends on the brakes alone. -/
theorem brakingDistance_eq (able : brakes.Able) (braked : profile.BrakesBy weight brakes)
    (nonneg : zero ≤ velocity) (covered : velocity.raw ≤ 2147483648) :
    profile.brakingDistance weight velocity = brakes.distance velocity := by
  have within := InBin.binOf nonneg covered
  have weight_pos := braked.weight_pos able.toProper
  have capped : min velocity brakeCap = velocity :=
    min_eq_left (covered.trans (by decide))
  unfold brakingDistance brakingDistanceBy
  by_cases moving : velocity.isPositive = true
  · simp only [moving, weight_pos, decide_true, Bool.and_self, if_true, capped]
    rw [able.stoppingDistance_eq braked within.inside, able.throughBin_eq braked within.inside]
    split
    · next at_floor => exact (able.distance_of_binFloor nonneg covered at_floor).symm
    · rfl
  · have standing : velocity = zero := le_antisymm (not_lt.mp (mt isPositive_iff.mpr moving)) nonneg
    subst standing
    exact (able.distance_of_binFloor nonneg covered rfl).symm

end Brakes.Able

end Haulage
