import Haulage.Proofs.BrakingBias

/-!
# A braking curve that every slice keeps

Braking at full force for a slice takes the convoy down the exact braking curve only up to rounding,
and the rounding adds up.  The curve here, the one with a bias of 200 counts, is flatter by so much
that a slice of half a second gains a hundred counts on it, whatever is rounded.  It is at most a
leeway above the braking distance, and a convoy within the leeway of the point of a limit is within
half a unit of the limit itself.
-/

namespace Haulage

open Fixed

/-- Half the square of a velocity, with a little on top. -/
def work (velocity : ℚ) : ℚ := velocity ^ 2 / 2 + 200 * velocity

namespace Brakes

/-- The curve at the lower end of a bin. -/
def sweep (brakes : Brakes) : Nat → ℚ
  | 0 => 0
  | bin + 1 =>
      brakes.sweep bin +
        (work (524288 * (bin + 1)) - work (524288 * bin)) * brakes.reach bin

/-- The curve at a velocity. -/
def curve (brakes : Brakes) (velocity : Fixed) : ℚ :=
  brakes.sweep (Profile.binOf velocity) +
    (work velocity.raw - work (524288 * Profile.binOf velocity)) *
      brakes.reach (Profile.binOf velocity)

theorem sweep_eq_biasedSweep (brakes : Brakes) (bin : Nat) :
    brakes.sweep bin = brakes.biasedSweep 200 bin := by
  induction bin with
  | zero => rfl
  | succ bin ih =>
    rw [sweep, biasedSweep, ih]
    rfl

theorem curve_eq_biasedCurve (brakes : Brakes) (velocity : Fixed) :
    brakes.curve velocity = brakes.biasedCurve 200 velocity.raw := by
  rw [curve, sweep_eq_biasedSweep]
  rfl

/-- What the little on top in `work` and the rounding of a deceleration come to in a bin. -/
def slack (brakes : Brakes) (bin : Nat) : ℚ := 201 + 1073741824 * brakes.reach bin

namespace Firm

variable {brakes : Brakes} {bin low high : Nat} {velocity slow fast : Fixed}

open Profile

theorem pull_ge (firm : brakes.Firm) (inside : bin ≤ 4096) : 20500 ≤ brakes.pull bin := by
  rw [pull, le_div_iff₀ firm.proper.weight_pos]
  exact_mod_cast firm.retarding_ge (binFloor_nonneg bin) (binFloor_covered inside)

/-- From one bin to the next the deceleration grows at most threefold. -/
theorem pull_succ_le (firm : brakes.Firm) (inside : bin < 4096) :
    brakes.pull (bin + 1) ≤ 3 * brakes.pull bin := by
  have force_nonneg : 0 ≤ brakes.force.raw := firm.force_nonneg
  have drag_nonneg : 0 ≤ brakes.drag.raw := firm.drag_nonneg
  have drag_le := firm.drag_le
  have weight_ge := firm.weight_ge
  have resistance_ge := firm.resistance_ge
  have below := (firm.able.drag_binFloor (le_of_lt inside)).1
  have above := (firm.able.drag_binFloor inside).2
  have square_nonneg : 0 ≤ brakes.drag.raw * ((2 * bin - 1) * (2 * bin - 1)) :=
    Int.mul_nonneg drag_nonneg (mul_self_nonneg _)
  push_cast at above
  have retarding_le : (brakes.retarding (binFloor (bin + 1))).raw ≤
      3 * (brakes.retarding (binFloor bin)).raw := by
    rw [firm.raw_retarding (binFloor_nonneg _) (binFloor_covered inside),
      firm.raw_retarding (binFloor_nonneg _) (binFloor_covered (le_of_lt inside))]
    nlinarith
  rw [pull, pull, ← mul_div_assoc]
  exact div_le_div_of_nonneg_right (by exact_mod_cast retarding_le) firm.proper.weight_pos.le

theorem pull_le (firm : brakes.Firm) (inside : bin ≤ 4096) :
    brakes.pull bin ≤ 16777217 + 25 * (524288 * bin : ℚ) ^ 2 / 1048576000 := by
  have weight_ge : (1000 : ℚ) ≤ brakes.weight.toInt := by exact_mod_cast firm.weight_ge
  have square_le := firm.proper.drag_le_square (binFloor_nonneg bin)
  have force_le := firm.force_le
  have raw_eq := firm.raw_retarding (binFloor_nonneg bin) (binFloor_covered inside)
  rw [raw_binFloor inside] at square_le
  have scaled : 1048576 * (brakes.retarding (binFloor bin)).raw ≤
      1048576 * (16777216 * brakes.weight.toInt) +
        (25 * (524288 * bin * (524288 * bin)) + 524288) := by
    rw [raw_eq]
    omega
  have scaled : (1048576 * (brakes.retarding (binFloor bin)).raw : ℚ) ≤
      1048576 * (16777216 * brakes.weight.toInt) +
        (25 * (524288 * bin * (524288 * bin)) + 524288) := by exact_mod_cast scaled
  have square_nonneg : (0 : ℚ) ≤ 524288 * bin * (524288 * bin) := mul_self_nonneg _
  rw [pull, div_le_iff₀ firm.proper.weight_pos]
  nlinarith

theorem reach_le (firm : brakes.Firm) (inside : bin ≤ 4096) : brakes.reach bin ≤ 1 / 20499 :=
  one_div_le_one_div_of_le (by norm_num) (by linarith [firm.pull_ge inside])

theorem slack_bounds (firm : brakes.Firm) (inside : bin ≤ 4096) :
    0 ≤ brakes.slack bin ∧ brakes.slack bin ≤ 52582 := by
  have reach_pos := firm.able.reach_pos bin
  have reach_le := firm.reach_le inside
  unfold slack
  constructor <;> linarith

theorem biasedSlack_le_slack (firm : brakes.Firm) (inside : bin ≤ 4096) :
    brakes.biasedSlack 200 bin ≤ brakes.slack bin := by
  have reach_le := firm.reach_le inside
  have slack_le := firm.able.biasedSlack_le 200 bin
  unfold slack
  linarith

/-- The little on top in `work` is little enough. -/
theorem admits (firm : brakes.Firm) : brakes.Admits 200 where
  nonneg := by norm_num
  room := by
    intro bin inside
    have slack_le := firm.biasedSlack_le_slack inside
    have slack_bounds := firm.slack_bounds inside
    have pull_le := firm.able.pull_le_top inside
    linarith

/-- Between two velocities the curve rises at least as it does in the bin of the higher one. -/
theorem curve_sub_ge (firm : brakes.Firm) (nonneg : zero ≤ slow) (le : slow ≤ fast)
    (covered : fast.raw ≤ 2147483648) :
    (work fast.raw - work slow.raw) * brakes.reach (binOf fast) ≤
      brakes.curve fast - brakes.curve slow := by
  rw [curve_eq_biasedCurve, curve_eq_biasedCurve]
  exact firm.able.biasedCurve_sub_ge firm.admits.nonneg nonneg le covered

theorem curve_mono (firm : brakes.Firm) (nonneg : zero ≤ slow) (le : slow ≤ fast)
    (covered : fast.raw ≤ 2147483648) : brakes.curve slow ≤ brakes.curve fast := by
  rw [curve_eq_biasedCurve, curve_eq_biasedCurve]
  exact firm.able.biasedCurve_mono firm.admits.nonneg nonneg le covered

/-- Between two velocities the curve rises hardly more than the braking distance. -/
theorem curve_sub_le (firm : brakes.Firm) (nonneg : zero ≤ slow) (le : slow ≤ fast)
    (covered : fast.raw ≤ 2147483648) :
    brakes.curve fast - brakes.curve slow ≤
      (brakes.distance fast).raw - (brakes.distance slow).raw +
        (13 / 25 * brakes.slack (binOf fast) ^ 2 + 1048576) / brakes.pull (binOf fast) +
          524288 / brakes.pull (binOf slow) + 2 := by
  have inside := binOf_le (nonneg.trans le) covered
  have blurs := firm.able.blurs firm.admits nonneg ((le_def.mp le).trans covered)
  have rise := firm.able.biasedCurve_sub_le firm.admits blurs nonneg le covered
  have slack_ge := firm.able.biasedSlack_ge firm.admits.nonneg (binOf fast)
  have square_le := pow_le_pow_left₀ (firm.admits.nonneg.trans slack_ge)
    (firm.biasedSlack_le_slack inside) 2
  have hump_le : (brakes.biasedSlack 200 (binOf fast) ^ 2 / 2 + 524288) /
      brakes.pull (binOf fast) ≤
        (13 / 25 * brakes.slack (binOf fast) ^ 2 + 1048576) / brakes.pull (binOf fast) :=
    div_le_div_of_nonneg_right (by linarith [sq_nonneg (brakes.slack (binOf fast))])
      (firm.able.pull_pos _).le
  rw [curve_eq_biasedCurve, curve_eq_biasedCurve]
  linarith

end Firm

end Brakes

/-- Half a unit of speed above a limit: the lowest velocity that may count as faster. -/
def brink (limit : Fixed) : Fixed := limit + .ofRaw 11378

theorem raw_brink {limit : Fixed} (nonneg : zero ≤ limit)
    (covered : limit.raw + 11378 ≤ 2147483648) : (brink limit).raw = limit.raw + 11378 := by
  have := nonneg_iff.mp nonneg
  change (saturate (limit.raw + 11378)).raw = _
  apply raw_saturate_of_fits <;> simp only [Fixed.limit] <;> omega

namespace Brakes

/-- How far above the curve to a limit a convoy may be at the start of a tick. -/
def leeway (brakes : Brakes) (limit : Fixed) : ℚ :=
  183 + (13 / 25 * brakes.slack (Profile.binOf (brink limit)) ^ 2 + 2621440) /
    brakes.pull (Profile.binOf (brink limit))

namespace Firm

variable {brakes : Brakes} {velocity limit : Fixed}

open Profile

/-- The brink lies in the bin of the limit or in the next one. -/
theorem pull_brink_le (firm : brakes.Firm) (nonneg : zero ≤ limit)
    (covered : limit.raw + 11378 ≤ 2147483648) :
    brakes.pull (binOf (brink limit)) ≤ 3 * brakes.pull (binOf limit) := by
  have raw_eq := raw_brink nonneg covered
  have limit_nonneg := nonneg_iff.mp nonneg
  have brink_nonneg : zero ≤ brink limit := by rw [nonneg_iff]; omega
  have inside := binOf_le brink_nonneg (by omega)
  have limit_bin := binOf_eq nonneg
  have brink_bin := binOf_eq brink_nonneg
  obtain same | next : binOf (brink limit) = binOf limit ∨
      binOf (brink limit) = binOf limit + 1 := by omega
  · have := firm.able.pull_pos (binOf (brink limit))
    rw [same] at this ⊢
    linarith
  · rw [next] at inside ⊢
    exact firm.pull_succ_le inside

theorem slack_anti (firm : brakes.Firm) {low high : Nat} (le : low ≤ high)
    (inside : high ≤ 4096) : brakes.slack high ≤ brakes.slack low := by
  have := firm.able.reach_anti le inside
  unfold slack
  linarith

/-- Past the brink of a limit the leeway covers the difference between curve and distance, and 181
counts more. -/
theorem curve_le_of_distance (firm : brakes.Firm) (nonneg : zero ≤ limit)
    (brink_le : limit.raw + 11378 ≤ velocity.raw) (covered : velocity.raw ≤ 2147483648) :
    brakes.curve velocity - brakes.curve limit ≤
      (brakes.distance velocity).raw - (brakes.distance limit).raw +
        (brakes.leeway limit - 181) := by
  have limit_nonneg := nonneg_iff.mp nonneg
  have raw_eq := raw_brink nonneg (brink_le.trans covered)
  have brink_nonneg : zero ≤ brink limit := by rw [nonneg_iff]; omega
  have limit_le : limit ≤ velocity := by rw [le_def]; omega
  have brink_le : brink limit ≤ velocity := by rw [le_def]; omega
  have inside := binOf_le (nonneg.trans limit_le) covered
  have bin_le := binOf_mono brink_nonneg brink_le
  have brink_pull_pos := firm.able.pull_pos (binOf (brink limit))
  have limit_pull_pos := firm.able.pull_pos (binOf limit)
  have rise := firm.curve_sub_le nonneg limit_le covered
  have slack_nonneg := (firm.slack_bounds inside).1
  have slack_le := firm.slack_anti bin_le inside
  have square_le := pow_le_pow_left₀ slack_nonneg slack_le 2
  have hump_le : (13 / 25 * brakes.slack (binOf velocity) ^ 2 + 1048576) /
      brakes.pull (binOf velocity) ≤
        (13 / 25 * brakes.slack (binOf (brink limit)) ^ 2 + 1048576) /
          brakes.pull (binOf (brink limit)) :=
    div_le_div₀ (by positivity) (by linarith) brink_pull_pos (firm.able.pull_mono bin_le inside)
  have rounding_le : 524288 / brakes.pull (binOf limit) ≤
      1572864 / brakes.pull (binOf (brink limit)) := by
    rw [div_le_div_iff₀ limit_pull_pos brink_pull_pos]
    linarith [firm.pull_brink_le nonneg (by omega)]
  have leeway_eq : brakes.leeway limit = 183 +
      (13 / 25 * brakes.slack (binOf (brink limit)) ^ 2 + 1048576) /
        brakes.pull (binOf (brink limit)) +
      1572864 / brakes.pull (binOf (brink limit)) := by
    rw [leeway]
    ring
  linarith

/-- The last half unit of speed above a limit is more work than the leeway. -/
theorem leeway_work_lt (firm : brakes.Firm) (slowest : 273067 ≤ limit.raw)
    (covered : limit.raw + 11378 ≤ 2147483648) :
    183 * brakes.pull (binOf (brink limit)) +
        (13 / 25 * brakes.slack (binOf (brink limit)) ^ 2 + 2621440) <
      11378 * (limit.raw + 5889) := by
  have nonneg : zero ≤ limit := by rw [nonneg_iff]; omega
  have raw_eq := raw_brink nonneg covered
  have brink_nonneg : zero ≤ brink limit := by rw [nonneg_iff]; omega
  have brink_covered : (brink limit).raw ≤ 2147483648 := by omega
  have inside := binOf_le brink_nonneg brink_covered
  have pull_le := firm.pull_le inside
  have slack_bounds := firm.slack_bounds inside
  have floor_le := (InBin.binOf brink_nonneg brink_covered).edge_le
  have square_le := pow_le_pow_left₀ (by positivity) floor_le 2
  have brink_eq : ((brink limit).raw : ℚ) = limit.raw + 11378 := by exact_mod_cast raw_eq
  have slowest : (273067 : ℚ) ≤ limit.raw := by exact_mod_cast slowest
  have covered : (limit.raw + 11378 : ℚ) ≤ 2147483648 := by exact_mod_cast covered
  rw [brink_eq] at square_le
  -- A faint pull has much slack but weighs little; a strong one has next to no slack.
  rcases le_or_gt (brakes.pull (binOf (brink limit))) 4194304 with faint | strong
  · have slack_sq_le := pow_le_pow_left₀ slack_bounds.1 slack_bounds.2 2
    linarith
  · have reach_le : brakes.reach (binOf (brink limit)) ≤ 1 / 4194303 :=
      one_div_le_one_div_of_le (by norm_num) (by linarith)
    have slack_le : brakes.slack (binOf (brink limit)) ≤ 458 := by
      unfold slack
      linarith
    have slack_sq_le := pow_le_pow_left₀ slack_bounds.1 slack_le 2
    have chord : 0 ≤ ((limit.raw : ℚ) - 273067) * (2147483648 - (limit.raw + 11378)) :=
      mul_nonneg (by linarith) (by linarith)
    nlinarith

/-- Half a unit above a limit the curve is past the leeway. -/
theorem leeway_lt (firm : brakes.Firm) (slowest : 273067 ≤ limit.raw)
    (covered : limit.raw + 11378 ≤ 2147483648) :
    brakes.leeway limit < brakes.curve (brink limit) - brakes.curve limit := by
  have nonneg : zero ≤ limit := by rw [nonneg_iff]; omega
  have limit_nonneg : (0 : ℚ) ≤ limit.raw := by exact_mod_cast nonneg_iff.mp nonneg
  have raw_eq := raw_brink nonneg covered
  have brink_nonneg : zero ≤ brink limit := by rw [nonneg_iff]; omega
  have brink_covered : (brink limit).raw ≤ 2147483648 := by omega
  have limit_le : limit ≤ brink limit := by rw [le_def]; omega
  have inside := binOf_le brink_nonneg brink_covered
  have rise := firm.curve_sub_ge nonneg limit_le brink_covered
  have pull_pos := firm.able.pull_pos (binOf (brink limit))
  have reach_pos := firm.able.reach_pos (binOf (brink limit))
  have brink_eq : ((brink limit).raw : ℚ) = limit.raw + 11378 := by exact_mod_cast raw_eq
  have gained : 11378 * (limit.raw + 5889) * brakes.reach (binOf (brink limit)) =
      (work (limit.raw + 11378) - work limit.raw) * brakes.reach (binOf (brink limit)) := by
    unfold work
    ring
  have demand := firm.leeway_work_lt slowest covered
  have scaled := firm.able.pull_mul_reach (binOf (brink limit))
  have rest_nonneg :
      0 ≤ 11378 * ((limit.raw : ℚ) + 5889) * (brakes.reach (binOf (brink limit)) / 2) :=
    mul_nonneg (by linarith) (by linarith)
  rw [brink_eq] at rise
  refine lt_of_lt_of_le ?_ rise
  rw [← gained, leeway]
  refine lt_of_mul_lt_mul_right ?_ pull_pos.le
  rw [add_mul, div_mul_cancel₀ _ pull_pos.ne', mul_assoc _ (brakes.reach _),
    mul_comm (brakes.reach _), scaled]
  linarith

/-- Within the leeway of the curve to a limit a velocity is less than half a unit above it. -/
theorem lt_brink_of_curve (firm : brakes.Firm) (slowest : 273067 ≤ limit.raw)
    (covered : velocity.raw ≤ 2147483648)
    (within : brakes.curve velocity - brakes.curve limit ≤ brakes.leeway limit) :
    velocity.raw < limit.raw + 11378 := by
  by_contra beyond
  have nonneg : zero ≤ limit := by rw [nonneg_iff]; omega
  have raw_eq := raw_brink nonneg (by omega)
  have brink_nonneg : zero ≤ brink limit := by rw [nonneg_iff]; omega
  have brink_le : brink limit ≤ velocity := by rw [le_def]; omega
  have rise := firm.curve_mono brink_nonneg brink_le covered
  have past := firm.leeway_lt slowest (by omega)
  linarith

end Firm

end Brakes

end Haulage
