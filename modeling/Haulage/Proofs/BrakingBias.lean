import Haulage.Proofs.Braking

/-!
# Braking curves with a bias

Braking at full force for a slice takes the convoy down the exact braking curve only up to rounding,
and the rounding adds up.  The curves here take every velocity for greater by a bias, so that such a
slice gains on them what the bias covers in its time.  A bin of the braking distance takes the speed
at its upper end: as long as the bias is below half a bin, the curve rises no more than the distance
over full bins, and hardly more over the part of a bin.
-/

namespace Haulage

open Fixed

/-- Half the square of a velocity, and the bias times the velocity. -/
def biasedWork (bias velocity : ℚ) : ℚ := velocity ^ 2 / 2 + bias * velocity

theorem biasedWork_sub (bias low high : ℚ) :
    biasedWork bias high - biasedWork bias low = (high - low) * ((high + low) / 2 + bias) := by
  unfold biasedWork
  ring

theorem biasedWork_mono {bias slow fast : ℚ} (bias_nonneg : 0 ≤ bias) (nonneg : 0 ≤ slow)
    (le : slow ≤ fast) : biasedWork bias slow ≤ biasedWork bias fast := by
  have rise := biasedWork_sub bias slow fast
  have rise_nonneg : 0 ≤ (fast - slow) * ((fast + slow) / 2 + bias) :=
    mul_nonneg (by linarith) (by linarith)
  linarith

namespace Profile

/-- The bin of a velocity given as a count. -/
def binAt (velocity : Int) : Nat := (velocity / 524288).toNat

theorem binAt_raw (velocity : Fixed) : binAt velocity.raw = binOf velocity := rfl

variable {velocity slow fast : Int}

theorem binAt_eq (nonneg : 0 ≤ velocity) : (binAt velocity : Int) = velocity / 524288 :=
  Int.toNat_of_nonneg (Int.ediv_nonneg nonneg (by decide))

theorem binAt_le (nonneg : 0 ≤ velocity) (covered : velocity ≤ 2147483648) :
    binAt velocity ≤ 4096 := by
  have := binAt_eq nonneg
  omega

theorem binAt_mono (nonneg : 0 ≤ slow) (le : slow ≤ fast) : binAt slow ≤ binAt fast := by
  have := binAt_eq nonneg
  have := binAt_eq (nonneg.trans le)
  omega

/-- A velocity is not below the lower end of its bin, and below the upper one. -/
theorem binAt_bounds (nonneg : 0 ≤ velocity) :
    (524288 * binAt velocity : ℚ) ≤ velocity ∧ (velocity : ℚ) < 524288 * (binAt velocity + 1) := by
  have bin_eq := binAt_eq nonneg
  constructor
  · exact_mod_cast (by omega : 524288 * (binAt velocity : Int) ≤ velocity)
  · exact_mod_cast (by omega : velocity < 524288 * ((binAt velocity : Int) + 1))

theorem InBin.edge_le {bin : Nat} {velocity : Fixed} (within : InBin bin velocity) :
    (524288 * bin : ℚ) ≤ velocity.raw := by
  have above := within.above
  rw [raw_binFloor within.inside] at above
  exact_mod_cast above

theorem InBin.le_edge {bin : Nat} {velocity : Fixed} (within : InBin bin velocity) :
    (velocity.raw : ℚ) ≤ 524288 * (bin + 1) := by
  have below := within.below
  rw [raw_binFloor within.inside] at below
  exact_mod_cast (by omega : velocity.raw ≤ 524288 * ((bin : Int) + 1))

end Profile

namespace Brakes

/-- How far a velocity reaches in a bin for its work, with the rounding of the deceleration. -/
def reach (brakes : Brakes) (bin : Nat) : ℚ := 1 / (brakes.pull bin - 1 / 2)

/-- The curve with a bias at the lower end of a bin. -/
def biasedSweep (brakes : Brakes) (bias : ℚ) : Nat → ℚ
  | 0 => 0
  | bin + 1 =>
      brakes.biasedSweep bias bin +
        (biasedWork bias (524288 * (bin + 1)) - biasedWork bias (524288 * bin)) * brakes.reach bin

/-- The curve with a bias at a velocity given as a count. -/
def biasedCurve (brakes : Brakes) (bias : ℚ) (velocity : Int) : ℚ :=
  brakes.biasedSweep bias (Profile.binAt velocity) +
    (biasedWork bias velocity - biasedWork bias (524288 * Profile.binAt velocity)) *
      brakes.reach (Profile.binAt velocity)

/-- What the bias and the rounding of a deceleration come to in a bin. -/
def biasedSlack (brakes : Brakes) (bias : ℚ) (bin : Nat) : ℚ :=
  bias + (min (524288 * ((bin : ℚ) + 1)) 2147483648 + bias) / 2 * brakes.reach bin

namespace Able

open Profile

variable {brakes : Brakes} {bias blur : ℚ} {bin low high : Nat}

theorem pull_mono (able : brakes.Able) (le : low ≤ high) (inside : high ≤ 4096) :
    brakes.pull low ≤ brakes.pull high := by
  have floor_le : binFloor low ≤ binFloor high := by
    rw [le_def, raw_binFloor (le.trans inside), raw_binFloor inside]
    omega
  have retarding_le := able.retarding_mono (binFloor_nonneg low) floor_le
  exact div_le_div_of_nonneg_right (by exact_mod_cast retarding_le) able.weight_pos.le

theorem pull_le_top (able : brakes.Able) (inside : bin ≤ 4096) :
    brakes.pull bin ≤ 110100480000 := by
  have retarding_le := able.retarding_le (binFloor_nonneg bin) (binFloor_covered inside)
  rw [pull, div_le_iff₀ able.weight_pos]
  exact_mod_cast retarding_le

theorem drag_binFloor (able : brakes.Able) (inside : bin ≤ 4096) :
    brakes.drag.raw * bin * bin ≤
        4 * (brakes.drag * binFloor bin * binFloor bin).raw ∧
      4 * (brakes.drag * binFloor bin * binFloor bin).raw ≤
        brakes.drag.raw * bin * bin + bin + 2 := by
  have drag_nonneg : 0 ≤ brakes.drag.raw := able.drag_nonneg
  have drag_le := able.drag_le
  have bin_nonneg : (0 : Int) ≤ bin := Int.natCast_nonneg bin
  have first_nonneg : 0 ≤ brakes.drag.raw * bin := Int.mul_nonneg drag_nonneg bin_nonneg
  have first_le : brakes.drag.raw * bin ≤ 26214400 * 4096 :=
    Int.mul_le_mul drag_le (by omega) bin_nonneg (by decide)
  have first_eq : (brakes.drag * binFloor bin).raw = (brakes.drag.raw * bin + 1) / 2 := by
    rw [raw_mul, raw_binFloor inside, Int.mul_left_comm]
    simp only [halfScale, scale, limit]
    omega
  have second_nonneg : 0 ≤ (brakes.drag * binFloor bin).raw * bin :=
    Int.mul_nonneg (by omega) bin_nonneg
  have second_le : (brakes.drag * binFloor bin).raw * bin ≤ 26214400 * 4096 * 4096 :=
    Int.mul_le_mul (by omega) (by omega) bin_nonneg (by decide)
  have second_eq : (brakes.drag * binFloor bin * binFloor bin).raw =
      ((brakes.drag * binFloor bin).raw * bin + 1) / 2 := by
    rw [raw_mul, raw_binFloor inside, Int.mul_left_comm]
    simp only [halfScale, scale, limit]
    omega
  have low : brakes.drag.raw * bin * bin ≤ 2 * (brakes.drag * binFloor bin).raw * bin :=
    Int.mul_le_mul_of_nonneg_right (by omega) bin_nonneg
  have high : 2 * (brakes.drag * binFloor bin).raw * bin ≤ (brakes.drag.raw * bin + 1) * bin :=
    Int.mul_le_mul_of_nonneg_right (by omega) bin_nonneg
  rw [Int.mul_assoc 2] at low high
  rw [Int.add_mul, Int.one_mul] at high
  omega

/-- The force is at least the drag. -/
theorem drag_le_retarding (able : brakes.Able) (inside : bin ≤ 4096) :
    (brakes.drag * binFloor bin * binFloor bin).raw ≤ (brakes.retarding (binFloor bin)).raw := by
  have standing := able.retarding_ge le_rfl
  have weight_ge := able.weight_ge
  have drag_nonneg := able.drag_square_nonneg (binFloor_nonneg bin)
  have drag_lt := able.drag_lt (binFloor_nonneg bin) (binFloor_covered inside)
  have drag_zero : (brakes.drag * zero * zero).raw = 0 := by
    rw [Fixed.mul_comm, Fixed.zero_mul, raw_zero]
  rw [able.raw_retarding le_rfl (by decide), drag_zero] at standing
  rw [able.raw_retarding (binFloor_nonneg bin) (binFloor_covered inside)]
  simp only [limit] at standing ⊢
  omega

/-- From one bin to the next the deceleration grows at most fivefold, once it is there. -/
theorem pull_succ_le (able : brakes.Able) (inside : bin < 4096) :
    brakes.pull (bin + 1) ≤ 5 * brakes.pull bin + 6554625 := by
  have drag_nonneg : 0 ≤ brakes.drag.raw := able.drag_nonneg
  have drag_le := able.drag_le
  have weight_ge := able.weight_ge
  have floor_le : binFloor bin ≤ binFloor (bin + 1) := by
    rw [le_def, raw_binFloor (le_of_lt inside), raw_binFloor inside]
    omega
  have rise := able.retarding_sub_le (binFloor_nonneg bin) floor_le (binFloor_covered inside)
  have drag_le_force := able.drag_le_retarding (le_of_lt inside)
  have below := (able.drag_binFloor (le_of_lt inside)).1
  have above := (able.drag_binFloor inside).2
  push_cast at above
  have square_le : brakes.drag.raw * (2 * bin + 1) ≤
      4 * (brakes.drag.raw * bin * bin) + 26214400 := by
    rcases Nat.eq_zero_or_pos bin with rfl | pos
    · simp only [Nat.cast_zero]
      omega
    · have odd_le : (2 * bin + 1 : Int) ≤ 4 * (bin * bin) := by
        have : (1 : Int) ≤ bin := by omega
        nlinarith
      have scaled := Int.mul_le_mul_of_nonneg_left odd_le drag_nonneg
      linarith
  have retarding_le : (brakes.retarding (binFloor (bin + 1))).raw ≤
      5 * (brakes.retarding (binFloor bin)).raw + 6554625 * brakes.weight.toInt := by
    nlinarith
  have retarding_le : ((brakes.retarding (binFloor (bin + 1))).raw : ℚ) ≤
      5 * (brakes.retarding (binFloor bin)).raw + 6554625 * brakes.weight.toInt := by
    exact_mod_cast retarding_le
  rw [pull, pull, div_le_iff₀ able.weight_pos, add_mul, mul_assoc,
    div_mul_cancel₀ _ able.weight_pos.ne']
  exact retarding_le

/-- The deceleration at a standstill, and what drag adds to it. -/
theorem pull_le (able : brakes.Able) (inside : bin ≤ 4096) :
    brakes.pull bin ≤ brakes.pull 0 + 6553600 * (bin : ℚ) ^ 2 + 1 := by
  have weight_ge : (1 : ℚ) ≤ brakes.weight.toInt := by exact_mod_cast able.weight_ge
  have floor_le : binFloor 0 ≤ binFloor bin := by
    rw [le_def, raw_binFloor (Nat.zero_le _), raw_binFloor inside]
    omega
  have rise := able.retarding_sub_le (binFloor_nonneg 0) floor_le (binFloor_covered inside)
  have drag_nonneg := able.drag_square_nonneg (binFloor_nonneg 0)
  have square_le := able.drag_le_square (binFloor_nonneg bin)
  rw [raw_binFloor inside] at square_le
  have rise_le : (brakes.retarding (binFloor bin)).raw - (brakes.retarding (binFloor 0)).raw ≤
      6553600 * (bin * bin) + 1 := by
    nlinarith
  have rise_le : ((brakes.retarding (binFloor bin)).raw - (brakes.retarding (binFloor 0)).raw : ℚ) ≤
      6553600 * (bin * bin) + 1 := by exact_mod_cast rise_le
  have square_nonneg : (0 : ℚ) ≤ 6553600 * (bin * bin) + 1 := by positivity
  have weighed : 6553600 * (bin * bin) + 1 ≤
      (6553600 * (bin * bin : ℚ) + 1) * brakes.weight.toInt := by
    nlinarith
  rw [pull, pull, div_le_iff₀ able.weight_pos, add_assoc, add_mul,
    div_mul_cancel₀ _ able.weight_pos.ne', pow_two]
  linarith

/-- The rounded deceleration is short of the exact one by at most half a count. -/
theorem deceleration_ge (able : brakes.Able) {velocity : Fixed} (nonneg : zero ≤ velocity)
    (covered : velocity.raw ≤ 2147483648) :
    brakes.pull (binOf velocity) - 1 / 2 ≤
      ((brakes.retarding velocity / .ofInt brakes.weight.toInt).raw : ℚ) := by
  have within := InBin.binOf nonneg covered
  have weight_ge := able.weight_ge
  have floor_le : binFloor (binOf velocity) ≤ velocity := within.above
  have pull_le : brakes.pull (binOf velocity) ≤
      (brakes.retarding velocity).raw / brakes.weight.toInt :=
    div_le_div_of_nonneg_right
      (by exact_mod_cast able.retarding_mono (binFloor_nonneg _) floor_le) able.weight_pos.le
  have retarding_ge := able.retarding_ge nonneg
  have retarding_le := (brakes.retarding velocity).raw_le_limit
  have retarding_nonneg : zero ≤ brakes.retarding velocity := by
    rw [nonneg_iff]
    omega
  have mass_pos : zero < Fixed.ofInt brakes.weight.toInt := by
    rw [pos_iff, able.raw_weight]
    omega
  have fits : (brakes.retarding velocity).raw * 1048576 ≤
      limit * (Fixed.ofInt brakes.weight.toInt).raw := by
    rw [able.raw_weight]
    simp only [limit] at *
    omega
  have quotient_ge := le_raw_div retarding_nonneg mass_pos fits
  have exact_eq : ((brakes.retarding velocity).raw * 1048576 /
      (Fixed.ofInt brakes.weight.toInt).raw : ℚ) =
        (brakes.retarding velocity).raw / brakes.weight.toInt := by
    rw [able.raw_weight]
    push_cast
    rw [mul_div_mul_right _ _ (by norm_num)]
  linarith

theorem reach_pos (able : brakes.Able) (bin : Nat) : 0 < brakes.reach bin := by
  have := able.pull_ge bin
  exact one_div_pos.mpr (by linarith)

theorem reach_le (able : brakes.Able) (bin : Nat) : brakes.reach bin ≤ 2 / 10485 := by
  have := able.pull_ge bin
  rw [reach, div_le_div_iff₀ (by linarith) (by norm_num)]
  linarith

theorem reach_anti (able : brakes.Able) (le : low ≤ high) (inside : high ≤ 4096) :
    brakes.reach high ≤ brakes.reach low := by
  have low_ge := able.pull_ge low
  have pull_le := able.pull_mono le inside
  exact one_div_le_one_div_of_le (by linarith) (by linarith)

theorem pull_mul_reach (able : brakes.Able) (bin : Nat) :
    brakes.pull bin * brakes.reach bin = 1 + brakes.reach bin / 2 := by
  have pull_ge := able.pull_ge bin
  have pull_ne : brakes.pull bin - 1 / 2 ≠ 0 := by linarith
  rw [reach, mul_one_div, div_eq_iff pull_ne, add_mul, div_mul_eq_mul_div,
    one_div_mul_cancel pull_ne]
  ring

theorem biasedWork_bin_mono (bias_nonneg : 0 ≤ bias) (le : low ≤ high) :
    biasedWork bias (524288 * (low : ℚ)) ≤ biasedWork bias (524288 * (high : ℚ)) := by
  have cast_le : (low : ℚ) ≤ high := by exact_mod_cast le
  exact biasedWork_mono bias_nonneg (by positivity) (by linarith)

theorem biasedSweep_sub_ge (able : brakes.Able) (bias_nonneg : 0 ≤ bias) (le : low ≤ high)
    (inside : high ≤ 4096) :
    (biasedWork bias (524288 * high) - biasedWork bias (524288 * low)) * brakes.reach high ≤
      brakes.biasedSweep bias high - brakes.biasedSweep bias low := by
  induction high, le using Nat.le_induction with
  | base => simp
  | succ high le ih =>
    have work_le := biasedWork_bin_mono bias_nonneg (le.trans (Nat.le_succ high))
    have reach_le := able.reach_anti (Nat.le_succ high) inside
    have step := ih (by omega)
    have scaled :
        (biasedWork bias (524288 * ((high + 1 : ℕ) : ℚ)) - biasedWork bias (524288 * low)) *
          brakes.reach (high + 1) ≤
            (biasedWork bias (524288 * ((high + 1 : ℕ) : ℚ)) - biasedWork bias (524288 * low)) *
              brakes.reach high :=
      mul_le_mul_of_nonneg_left reach_le (sub_nonneg.mpr work_le)
    refine scaled.trans ?_
    rw [biasedSweep]
    push_cast
    linarith

/-- Between two velocities the curve rises at least as it does in the bin of the higher one. -/
theorem biasedCurve_sub_ge (able : brakes.Able) (bias_nonneg : 0 ≤ bias) {slow fast : Int}
    (nonneg : 0 ≤ slow) (le : slow ≤ fast) (covered : fast ≤ 2147483648) :
    (biasedWork bias fast - biasedWork bias slow) * brakes.reach (binAt fast) ≤
      brakes.biasedCurve bias fast - brakes.biasedCurve bias slow := by
  have inside := binAt_le (nonneg.trans le) covered
  unfold biasedCurve
  rcases (binAt_mono nonneg le).lt_or_eq with lower | same
  · have slow_nonneg : (0 : ℚ) ≤ slow := by exact_mod_cast nonneg
    have reach_le := able.reach_anti (le_of_lt lower) inside
    have sweep_ge := able.biasedSweep_sub_ge bias_nonneg lower inside
    have rest_nonneg := sub_nonneg.mpr
      (biasedWork_mono bias_nonneg slow_nonneg (le_of_lt (binAt_bounds nonneg).2))
    have rest_le := mul_le_mul_of_nonneg_left reach_le rest_nonneg
    rw [Nat.succ_eq_add_one, biasedSweep] at sweep_ge
    push_cast at sweep_ge
    linarith
  · rw [same]
    linarith

theorem biasedCurve_mono (able : brakes.Able) (bias_nonneg : 0 ≤ bias) {slow fast : Int}
    (nonneg : 0 ≤ slow) (le : slow ≤ fast) (covered : fast ≤ 2147483648) :
    brakes.biasedCurve bias slow ≤ brakes.biasedCurve bias fast := by
  have slow_nonneg : (0 : ℚ) ≤ slow := by exact_mod_cast nonneg
  have work_le := biasedWork_mono bias_nonneg slow_nonneg (by exact_mod_cast le : (slow : ℚ) ≤ fast)
  have reach_pos := able.reach_pos (binAt fast)
  have gained := mul_nonneg (sub_nonneg.mpr work_le) reach_pos.le
  linarith [able.biasedCurve_sub_ge bias_nonneg nonneg le covered]

theorem biasedSlack_ge (able : brakes.Able) (bias_nonneg : 0 ≤ bias) (bin : Nat) :
    bias ≤ brakes.biasedSlack bias bin := by
  have reach_pos := able.reach_pos bin
  have min_nonneg : (0 : ℚ) ≤ min (524288 * ((bin : ℚ) + 1)) 2147483648 :=
    le_min (by positivity) (by norm_num)
  have rest_nonneg :
      0 ≤ (min (524288 * ((bin : ℚ) + 1)) 2147483648 + bias) / 2 * brakes.reach bin :=
    mul_nonneg (by linarith) reach_pos.le
  unfold biasedSlack
  linarith

/-- Inside a bin the curve rises no more than the exact span, up to the slack. -/
theorem biasedWork_sub_le (able : brakes.Able) (bias : ℚ) {slow fast : ℚ} (le : slow ≤ fast)
    (below : fast ≤ 524288 * (bin + 1)) (covered : fast ≤ 2147483648) :
    (biasedWork bias fast - biasedWork bias slow) * brakes.reach bin ≤
      ((fast - 524288 * bin) * fast - (slow - 524288 * bin) * slow +
        (fast - slow) * (brakes.biasedSlack bias bin - (fast + slow - 1048576 * bin) / 2)) /
          brakes.pull bin := by
  have reach_pos := able.reach_pos bin
  have scaled := able.pull_mul_reach bin
  have middle_le : (fast + slow) / 2 ≤ min (524288 * ((bin : ℚ) + 1)) 2147483648 :=
    le_min (by linarith) (by linarith)
  have middle_reach : (fast + slow) / 2 * (brakes.reach bin / 2) ≤
      min (524288 * ((bin : ℚ) + 1)) 2147483648 * (brakes.reach bin / 2) :=
    mul_le_mul_of_nonneg_right middle_le (by linarith)
  have factor_le : ((fast + slow) / 2 + bias) * (1 + brakes.reach bin / 2) ≤
      (fast + slow) / 2 + brakes.biasedSlack bias bin := by
    unfold biasedSlack
    linarith
  rw [le_div_iff₀ (able.pull_pos bin)]
  calc (biasedWork bias fast - biasedWork bias slow) * brakes.reach bin * brakes.pull bin
      = (fast - slow) * (((fast + slow) / 2 + bias) * (brakes.pull bin * brakes.reach bin)) := by
        rw [biasedWork_sub]
        ring
    _ ≤ (fast - slow) * ((fast + slow) / 2 + brakes.biasedSlack bias bin) := by
        rw [scaled]
        exact mul_le_mul_of_nonneg_left factor_le (sub_nonneg.mpr le)
    _ = (fast - 524288 * bin) * fast - (slow - 524288 * bin) * slow +
          (fast - slow) * (brakes.biasedSlack bias bin - (fast + slow - 1048576 * bin) / 2) := by
        ring

end Able

/-- A bias is so small that over every full bin the braking distance rises more than the curve,
whatever is rounded. -/
structure Admits (brakes : Brakes) (bias : ℚ) : Prop where
  /-- The curve is not steeper than the exact one. -/
  nonneg : 0 ≤ bias
  /-- Half a bin is more than the slack, and half a count. -/
  room : ∀ bin ≤ 4096,
    524288 * brakes.biasedSlack bias bin + brakes.pull bin / 2 ≤ 137438953472

/-- How much too short the braking distance from a velocity may be for the curve up to the end of
its bin. -/
structure Blurs (brakes : Brakes) (bias : ℚ) (velocity : Fixed) (blur : ℚ) : Prop where
  /-- The span is at most so much longer than the exact one. -/
  span_le : ((brakes.span (Profile.binOf velocity) velocity).raw : ℚ) ≤
    (velocity.raw - 524288 * Profile.binOf velocity) * velocity.raw /
      brakes.pull (Profile.binOf velocity) + blur
  /-- So it is up to the end of the bin. -/
  rest_le : Profile.binOf velocity < 4096 →
    (biasedWork bias (524288 * (Profile.binOf velocity + 1)) - biasedWork bias velocity.raw) *
        brakes.reach (Profile.binOf velocity) ≤
      (brakes.span (Profile.binOf velocity) (Profile.binFloor (Profile.binOf velocity + 1))).raw -
        (brakes.span (Profile.binOf velocity) velocity).raw + blur

namespace Able

open Profile

variable {brakes : Brakes} {bias blur : ℚ} {bin low high : Nat} {slow fast : Fixed}

theorem span_exact (able : brakes.Able) (within : InBin bin fast) :
    (fast.raw - 524288 * bin) * fast.raw / brakes.pull bin - 524288 / brakes.pull bin - 1 / 2 ≤
        ((brakes.span bin fast).raw : ℚ) ∧
      ((brakes.span bin fast).raw : ℚ) ≤
        (fast.raw - 524288 * bin) * fast.raw / brakes.pull bin + 524288 / brakes.pull bin +
          1 / 2 := by
  have bounds := able.span_bounds within
  rw [raw_binFloor within.inside] at bounds
  push_cast at bounds
  rw [sub_div, add_div] at bounds
  exact bounds

/-- Over the excess of the curve: a parabola that opens downward. -/
theorem hump_le (slack rest part : ℚ) (rest_nonneg : 0 ≤ rest) (le : rest ≤ part) :
    (part - rest) * (slack - (part + rest) / 2) ≤ slack ^ 2 / 2 := by
  nlinarith [sq_nonneg (slack - (part - rest)), mul_nonneg rest_nonneg (sub_nonneg.mpr le)]

/-- Two velocities in one bin. -/
theorem biasedCurve_within_bin (able : brakes.Able) (bias blur : ℚ) (slow_in : InBin bin slow)
    (fast_in : InBin bin fast) (le : slow ≤ fast)
    (span_le : ((brakes.span bin slow).raw : ℚ) ≤
      (slow.raw - 524288 * bin) * slow.raw / brakes.pull bin + blur) :
    (biasedWork bias fast.raw - biasedWork bias slow.raw) * brakes.reach bin ≤
      (brakes.span bin fast).raw - (brakes.span bin slow).raw +
        (brakes.biasedSlack bias bin ^ 2 / 2 + 524288) / brakes.pull bin + 1 / 2 + blur := by
  have raw_le : (slow.raw : ℚ) ≤ fast.raw := by exact_mod_cast le_def.mp le
  have covered : (fast.raw : ℚ) ≤ 2147483648 := by exact_mod_cast fast_in.covered
  have rise := able.biasedWork_sub_le bias raw_le fast_in.le_edge covered
  have fast_ge := (able.span_exact fast_in).1
  have pull_pos := able.pull_pos bin
  have hump := hump_le (brakes.biasedSlack bias bin) (slow.raw - 524288 * bin)
    (fast.raw - 524288 * bin) (sub_nonneg.mpr slow_in.edge_le) (by linarith)
  have hump : ((fast.raw : ℚ) - slow.raw) *
      (brakes.biasedSlack bias bin - (fast.raw + slow.raw - 1048576 * bin) / 2) ≤
        brakes.biasedSlack bias bin ^ 2 / 2 := by
    linarith
  have rise_le := rise.trans (div_le_div_of_nonneg_right (add_le_add_right hump _) pull_pos.le)
  rw [add_div, sub_div] at rise_le
  rw [add_div]
  linarith

/-- Over a full bin the curve rises no more than the span, up to the slack above half a bin. -/
theorem biasedSweep_succ_sub_le (able : brakes.Able) (bias : ℚ) (inside : bin < 4096) :
    brakes.biasedSweep bias (bin + 1) - brakes.biasedSweep bias bin ≤
      (brakes.span bin (binFloor (bin + 1))).raw +
        524288 * (brakes.biasedSlack bias bin - 262144) / brakes.pull bin + 1 / 2 := by
  have bin_le : (bin : ℚ) + 1 ≤ 4096 := by exact_mod_cast inside
  have rise := able.biasedWork_sub_le bias
    (by linarith : (524288 * bin : ℚ) ≤ 524288 * (bin + 1)) le_rfl (by linarith)
  have top_ge := (able.span_top_bounds inside).1
  have exact_eq : ((524288 * (bin + 1) - 524288 * bin) * (524288 * (bin + 1)) -
      (524288 * bin - 524288 * bin) * (524288 * bin) + (524288 * (bin + 1) - 524288 * bin) *
        (brakes.biasedSlack bias bin - (524288 * (bin + 1) + 524288 * bin - 1048576 * bin) / 2)) /
      brakes.pull bin = 274877906944 * (bin + 1) / brakes.pull bin +
        524288 * (brakes.biasedSlack bias bin - 262144) / brakes.pull bin := by
    rw [← add_div]
    ring
  rw [exact_eq] at rise
  rw [biasedSweep]
  linarith

/-- Over a full bin the braking distance rises more than the curve. -/
theorem biasedSweep_succ_le (able : brakes.Able) (admits : brakes.Admits bias)
    (inside : bin < 4096) :
    brakes.biasedSweep bias (bin + 1) - brakes.biasedSweep bias bin ≤
      (brakes.span bin (binFloor (bin + 1))).raw := by
  have rise := able.biasedSweep_succ_sub_le bias inside
  have room := admits.room bin (le_of_lt inside)
  have spare : 524288 * (brakes.biasedSlack bias bin - 262144) / brakes.pull bin ≤ -(1 / 2) := by
    rw [div_le_iff₀ (able.pull_pos bin)]
    linarith
  linarith

theorem biasedSweep_sub_le (able : brakes.Able) (admits : brakes.Admits bias) (le : low ≤ high)
    (inside : high ≤ 4096) :
    brakes.biasedSweep bias high - brakes.biasedSweep bias low ≤
      (brakes.stopping high).raw - (brakes.stopping low).raw := by
  induction high, le using Nat.le_induction with
  | base => simp
  | succ high _ ih =>
    have rise := able.biasedSweep_succ_le admits inside
    rw [able.raw_stopping_succ inside]
    push_cast
    linarith [ih (by omega)]

/-- Between two velocities the curve rises hardly more than the braking distance. -/
theorem biasedCurve_sub_le (able : brakes.Able) (admits : brakes.Admits bias)
    (blurs : brakes.Blurs bias slow blur) (nonneg : zero ≤ slow) (le : slow ≤ fast)
    (covered : fast.raw ≤ 2147483648) :
    brakes.biasedCurve bias fast.raw - brakes.biasedCurve bias slow.raw ≤
      (brakes.distance fast).raw - (brakes.distance slow).raw +
        (brakes.biasedSlack bias (binOf fast) ^ 2 / 2 + 524288) / brakes.pull (binOf fast) + 1 / 2 +
          blur := by
  have slow_covered := (le_def.mp le).trans covered
  have slow_in := InBin.binOf nonneg slow_covered
  have fast_in := InBin.binOf (nonneg.trans le) covered
  rw [able.raw_distance nonneg slow_covered, able.raw_distance (nonneg.trans le) covered]
  push_cast
  unfold biasedCurve
  rw [binAt_raw, binAt_raw]
  rcases (binOf_mono nonneg le).lt_or_eq with lower | same
  · have inside : binOf slow < 4096 := lower.trans_le fast_in.inside
    have floor_le : binFloor (binOf fast) ≤ fast := fast_in.above
    have floor_eq := able.span_binFloor fast_in.inside
    have rise := able.biasedCurve_within_bin bias 0
      (InBin.binFloor fast_in.inside) fast_in floor_le
      (by rw [floor_eq, raw_binFloor fast_in.inside]; simp)
    have middle := able.biasedSweep_sub_le admits lower fast_in.inside
    have rest := blurs.rest_le inside
    rw [floor_eq, raw_zero, raw_binFloor fast_in.inside] at rise
    rw [Nat.succ_eq_add_one, biasedSweep, able.raw_stopping_succ inside] at middle
    push_cast at rise middle
    linarith
  · have rise := able.biasedCurve_within_bin bias blur (by rw [← same]; exact slow_in) fast_in
      le (by rw [← same]; exact blurs.span_le)
    rw [same]
    linarith

theorem biasedSlack_le_half_bin (able : brakes.Able) (admits : brakes.Admits bias)
    (inside : bin ≤ 4096) : brakes.biasedSlack bias bin ≤ 262144 := by
  have room := admits.room bin inside
  have pull_pos := able.pull_pos bin
  linarith

/-- From a velocity to the upper end of its bin, if the curve is flatter there by so much. -/
theorem rest_le_of_excess (able : brakes.Able) (bias excess : ℚ) (slow_in : InBin bin slow)
    (inside : bin < 4096) (gained : (524288 * (bin + 1) - slow.raw) * (brakes.biasedSlack bias bin -
      (524288 * (bin + 1) + slow.raw - 1048576 * bin) / 2) ≤ -excess * brakes.pull bin) :
    (biasedWork bias (524288 * (bin + 1)) - biasedWork bias slow.raw) * brakes.reach bin ≤
      (brakes.span bin (binFloor (bin + 1))).raw - (brakes.span bin slow).raw +
        (1 + 524288 / brakes.pull bin - excess) := by
  have pull_pos := able.pull_pos bin
  have bin_le : (bin : ℚ) + 1 ≤ 4096 := by exact_mod_cast inside
  have rise := able.biasedWork_sub_le bias slow_in.le_edge le_rfl (by linarith)
  have top_ge := (able.span_top_bounds inside).1
  have slow_le := (able.span_exact slow_in).2
  have rise_le := rise.trans (div_le_div_of_nonneg_right (add_le_add_right gained _) pull_pos.le)
  rw [add_div, mul_div_cancel_right₀ _ pull_pos.ne', sub_div] at rise_le
  have exact_eq : ((524288 * (bin + 1) - 524288 * bin) * (524288 * (bin + 1)) : ℚ) =
      274877906944 * (bin + 1) := by ring
  rw [exact_eq] at rise_le
  linarith

/-- A span is rounded, and so is that of its bin. -/
theorem blurs (able : brakes.Able) (admits : brakes.Admits bias) (nonneg : zero ≤ slow)
    (covered : slow.raw ≤ 2147483648) :
    brakes.Blurs bias slow (1 + 524288 / brakes.pull (binOf slow)) := by
  have slow_in := InBin.binOf nonneg covered
  have slack_le := able.biasedSlack_le_half_bin admits slow_in.inside
  refine ⟨by linarith [(able.span_exact slow_in).2], fun inside => ?_⟩
  have edge_le := slow_in.edge_le
  have le_edge := slow_in.le_edge
  have gained := able.rest_le_of_excess bias 0 slow_in inside
    (by
      rw [neg_zero, zero_mul]
      exact mul_nonpos_of_nonneg_of_nonpos (by linarith) (by linarith))
  linarith

/-- In the lower half of a bin the rest of the bin makes good for the rounding of its span. -/
theorem blurs_of_low (able : brakes.Able) (admits : brakes.Admits bias) (nonneg : zero ≤ slow)
    (covered : slow.raw ≤ 2147483648)
    (low_half : (slow.raw - 524288 * binOf slow : ℚ) ≤ 262144) :
    brakes.Blurs bias slow (1 / 2 + 524288 / brakes.pull (binOf slow)) := by
  have slow_in := InBin.binOf nonneg covered
  have room := admits.room (binOf slow) slow_in.inside
  have pull_le := able.pull_le_top slow_in.inside
  have pull_pos := able.pull_pos (binOf slow)
  refine ⟨by linarith [(able.span_exact slow_in).2], fun inside => ?_⟩
  have edge_le := slow_in.edge_le
  -- The parabola is above its chord between the lower end and the middle of the bin.
  have chord : 0 ≤ (slow.raw - 524288 * binOf slow : ℚ) *
      (262144 - (slow.raw - 524288 * binOf slow)) :=
    mul_nonneg (sub_nonneg.mpr edge_le) (sub_nonneg.mpr low_half)
  have gained := able.rest_le_of_excess bias (1 / 2) slow_in inside
    (by
      rcases le_total (brakes.biasedSlack bias (binOf slow)) 131072 with small | large
      · nlinarith
      · nlinarith)
  linarith

/-- The braking distance from a standstill is exact. -/
theorem blurs_zero (able : brakes.Able) (admits : brakes.Admits bias) :
    brakes.Blurs bias zero 0 := by
  have bin_eq : binOf zero = 0 := by decide
  have span_eq : brakes.span 0 zero = zero := able.span_binFloor (Nat.zero_le _)
  constructor
  · rw [bin_eq, span_eq]
    simp
  · intro inside
    have rise := able.biasedSweep_succ_le admits (by decide : 0 < 4096)
    rw [bin_eq, span_eq]
    simp only [biasedSweep, Nat.cast_zero, raw_zero, Int.cast_zero, mul_zero] at rise ⊢
    linarith

/-- If a full bin makes good for the part of the next one too, nothing is lost between velocities
with a full bin in between. -/
theorem biasedCurve_sub_le_of_far (able : brakes.Able) (admits : brakes.Admits bias)
    (absorbs : ∀ bin < 4096, brakes.pull bin + brakes.biasedSlack bias (bin + 1) ^ 2 / 2 + 524288 ≤
      524288 * (262144 - brakes.biasedSlack bias bin))
    (blurs : brakes.Blurs bias slow blur) (nonneg : zero ≤ slow)
    (far : binOf slow + 2 ≤ binOf fast) (fast_nonneg : zero ≤ fast)
    (covered : fast.raw ≤ 2147483648) :
    brakes.biasedCurve bias fast.raw - brakes.biasedCurve bias slow.raw ≤
      (brakes.distance fast).raw - (brakes.distance slow).raw + blur := by
  have le : slow ≤ fast := le_of_lt (lt_of_not_ge fun above => by
    have := binOf_mono fast_nonneg above
    omega)
  have slow_covered := (le_def.mp le).trans covered
  have fast_in := InBin.binOf fast_nonneg covered
  obtain ⟨bin, bin_eq⟩ : ∃ bin, binOf fast = bin + 1 := ⟨binOf fast - 1, by omega⟩
  have inside := fast_in.inside
  rw [able.raw_distance nonneg slow_covered, able.raw_distance fast_nonneg covered]
  push_cast
  unfold biasedCurve
  rw [binAt_raw, binAt_raw]
  have floor_le : binFloor (binOf fast) ≤ fast := fast_in.above
  have floor_eq := able.span_binFloor inside
  have rise := able.biasedCurve_within_bin bias 0
    (InBin.binFloor inside) fast_in floor_le (by rw [floor_eq, raw_binFloor inside]; simp)
  have full := able.biasedSweep_succ_sub_le bias (by omega : bin < 4096)
  have middle := able.biasedSweep_sub_le admits (by omega : binOf slow + 1 ≤ bin) (by omega)
  have rest := blurs.rest_le (by omega)
  rw [floor_eq, raw_zero, raw_binFloor inside] at rise
  rw [biasedSweep, able.raw_stopping_succ (by omega : binOf slow < 4096)] at middle
  rw [bin_eq] at rise ⊢
  rw [able.raw_stopping_succ (by omega : bin < 4096)]
  -- The slack of the part is paid by the full bin before it.
  have pull_pos := able.pull_pos bin
  have pull_le := able.pull_mono (Nat.le_succ bin) (by omega)
  have part_le : (brakes.biasedSlack bias (bin + 1) ^ 2 / 2 + 524288) / brakes.pull (bin + 1) ≤
      (brakes.biasedSlack bias (bin + 1) ^ 2 / 2 + 524288) / brakes.pull bin :=
    div_le_div_of_nonneg_left (by positivity) pull_pos pull_le
  have paid : (brakes.biasedSlack bias (bin + 1) ^ 2 / 2 + 524288) / brakes.pull bin +
      524288 * (brakes.biasedSlack bias bin - 262144) / brakes.pull bin ≤ -1 := by
    rw [← add_div, div_le_iff₀ pull_pos]
    linarith [absorbs bin (by omega)]
  push_cast at rise middle ⊢
  linarith

theorem biasedSlack_le (able : brakes.Able) (bias : ℚ) (bin : Nat) :
    brakes.biasedSlack bias bin ≤ bias + (2147483648 + bias) / 2 * brakes.reach bin := by
  have reach_pos := able.reach_pos bin
  have scaled := mul_le_mul_of_nonneg_right
    (min_le_right (524288 * ((bin : ℚ) + 1)) 2147483648) reach_pos.le
  unfold biasedSlack
  linarith

/-- What a full bin pays for, at a bias that covers the rounding of 2048 velocities and more. -/
theorem slack_8192_le (able : brakes.Able) (bin : Nat) :
    brakes.biasedSlack 8192 bin ≤ 213013 ∧
      (1000000000 ≤ brakes.pull bin → brakes.biasedSlack 8192 bin ≤ 8194) := by
  have slack_le := able.biasedSlack_le 8192 bin
  have reach_le := able.reach_le bin
  refine ⟨by linarith, fun strong => ?_⟩
  have reach_le : brakes.reach bin ≤ 1 / 999999999 :=
    one_div_le_one_div_of_le (by norm_num) (by linarith)
  linarith

theorem admits_8192 (able : brakes.Able) : brakes.Admits 8192 where
  nonneg := by norm_num
  room := by
    intro bin inside
    have slack_le := able.slack_8192_le bin
    have pull_le := able.pull_le_top inside
    rcases le_total (1000000000) (brakes.pull bin) with strong | faint
    · linarith [slack_le.2 strong]
    · linarith [slack_le.1]

theorem absorbs_8192 (able : brakes.Able) (inside : bin < 4096) :
    brakes.pull bin + brakes.biasedSlack 8192 (bin + 1) ^ 2 / 2 + 524288 ≤
      524288 * (262144 - brakes.biasedSlack 8192 bin) := by
  have slack_le := able.slack_8192_le bin
  have next_le := able.slack_8192_le (bin + 1)
  have next_ge := able.biasedSlack_ge (by norm_num : (0 : ℚ) ≤ 8192) (bin + 1)
  have pull_le := able.pull_le_top (le_of_lt inside)
  have pull_mono := able.pull_mono (Nat.le_succ bin) inside
  rcases le_total (1000000000) (brakes.pull bin) with strong | faint
  · have square_le := pow_le_pow_left₀ (by linarith) (next_le.2 (strong.trans pull_mono)) 2
    linarith [slack_le.2 strong]
  · have square_le := pow_le_pow_left₀ (by linarith) next_le.1 2
    linarith [slack_le.1]

/-- Fierce brakes admit a greater bias. -/
theorem admits_of_fierce (able : brakes.Able) (fierce : 134217728 ≤ brakes.pull 0)
    (nonneg : 0 ≤ bias) (le : bias ≤ 100000) : brakes.Admits bias where
  nonneg := nonneg
  room := by
    intro bin inside
    have slack_le := able.biasedSlack_le bias bin
    have pull_le := able.pull_le_top inside
    have pull_ge := fierce.trans (able.pull_mono (Nat.zero_le bin) inside)
    have reach_pos := able.reach_pos bin
    have reach_le : brakes.reach bin ≤ 1 / 134217727 :=
      one_div_le_one_div_of_le (by norm_num) (by linarith)
    have scaled : (2147483648 + bias) / 2 * brakes.reach bin ≤
        (2147483648 + 100000) / 2 * (1 / 134217727) :=
      mul_le_mul (by linarith) reach_le reach_pos.le (by norm_num)
    linarith

end Able

end Brakes

end Haulage
