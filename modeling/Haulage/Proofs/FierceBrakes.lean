import Haulage.Proofs.LimitMargin

/-!
# Fierce brakes and a short slice

The curve that covers the rounding of 2048 slices is, for brakes above 128 m/s², worth less than a
count over the last slice of a call, which may be short.  Such brakes admit greater biases, and the
curve with the right one shows that a single slice of 16 counts or more does not cover more than the
braking distance allows.
-/

namespace Haulage

open Fixed

namespace Brakes

/-- What full force from a velocity to a next one above a limit is worth on a curve with a bias,
beyond what the slice covers. -/
def surplus (bias slack velocity next limit : ℚ) : ℚ :=
  biasedWork bias velocity - biasedWork bias limit -
    (velocity + next + 1) / 2 * (velocity - next + 1 / 2) - slack ^ 2 / 2 - 524288

/-- It is least where the slice ends half a unit above the limit. -/
theorem surplus_ge {bias slack bound next limit : ℚ} (velocity : ℚ) (bias_nonneg : 0 ≤ bias)
    (slack_nonneg : 0 ≤ slack) (slack_le : slack ≤ bound) (limit_nonneg : 0 ≤ limit)
    (beyond : limit + 11378 ≤ next) :
    11377 * limit + 64723000 + 11378 * bias + (velocity - next) * (bias - 3 / 4) -
        bound ^ 2 / 2 - 524288 ≤ surplus bias slack velocity next limit := by
  have square_le := pow_le_pow_left₀ slack_nonneg slack_le 2
  have rest_nonneg :
      0 ≤ (next - limit - 11378) * (limit + (next - limit + 11378) / 2 + bias - 1 / 2) :=
    mul_nonneg (by linarith) (by linarith)
  unfold surplus biasedWork
  linarith

namespace Able

open Profile

variable {brakes : Brakes} {velocity next limit seconds : Fixed} {bias blur most : ℚ}

/-- A slice at full force against the braking distance. -/
theorem surplus_le (able : brakes.Able) (slows : brakes.Slows seconds velocity next)
    (admits : brakes.Admits bias) (blurs : brakes.Blurs bias limit blur)
    (limit_nonneg : zero ≤ limit) (beyond : limit ≤ next) :
    surplus bias (brakes.biasedSlack bias (binOf velocity)) velocity.raw next.raw limit.raw *
        brakes.reach (binOf velocity) ≤
      (brakes.distance velocity).raw - (brakes.distance limit).raw -
        (metresBetween velocity next seconds).raw + 1 + blur := by
  obtain ⟨le, drop⟩ := able.drop_ge slows
  obtain ⟨seconds_nonneg, nonneg, covered, next_nonneg, -⟩ := slows
  have limit_le := beyond.trans le
  have pull_ge := able.pull_ge (binOf velocity)
  have reach_pos := able.reach_pos (binOf velocity)
  have between_le := raw_metresBetween_le nonneg next_nonneg seconds_nonneg
  have rise := able.biasedCurve_sub_ge admits.nonneg (nonneg_iff.mp limit_nonneg)
    (le_def.mp limit_le) covered
  have fall := able.biasedCurve_sub_le admits blurs limit_nonneg limit_le covered
  rw [binAt_raw] at rise
  have share : (seconds.raw / 1048576 : ℚ) ≤
      (velocity.raw - next.raw + 1 / 2) * brakes.reach (binOf velocity) := by
    rw [reach, mul_one_div, le_div_iff₀ (by linarith)]
    linarith
  have middle_nonneg : (0 : ℚ) ≤ (velocity.raw + next.raw + 1) / 2 := by
    have velocity_ge : (0 : ℚ) ≤ velocity.raw := by exact_mod_cast nonneg_iff.mp nonneg
    have next_ge : (0 : ℚ) ≤ next.raw := by exact_mod_cast nonneg_iff.mp next_nonneg
    linarith
  have covered_le := mul_le_mul_of_nonneg_left share middle_nonneg
  -- Dividing by the deceleration is at most reaching that far.
  have hump_nonneg : (0 : ℚ) ≤ brakes.biasedSlack bias (binOf velocity) ^ 2 / 2 + 524288 := by
    positivity
  have inverse_le : 1 / brakes.pull (binOf velocity) ≤ brakes.reach (binOf velocity) :=
    one_div_le_one_div_of_le (by linarith) (by linarith)
  have hump_le := mul_le_mul_of_nonneg_left inverse_le hump_nonneg
  rw [mul_one_div] at hump_le
  unfold surplus
  linarith

/-- The surplus at some bias has to pay for what the distance from the limit may be too long by. -/
theorem metresBetween_lt_of_paid (able : brakes.Able) (slows : brakes.Slows seconds velocity next)
    (fierce : 134217728 ≤ brakes.pull 0) (limit_nonneg : zero ≤ limit)
    (beyond : limit.raw + 11378 ≤ next.raw) (bias_nonneg : 0 ≤ bias) (bias_le : bias ≤ 100000)
    (blurs : brakes.Blurs bias limit blur) (blur_le : blur ≤ most)
    (paid : most * (brakes.pull (binOf velocity) - 1 / 2) <
      11377 * limit.raw + 64723000 + 11378 * bias + (velocity.raw - next.raw) * (bias - 3 / 4) -
        (bias + 9) ^ 2 / 2 - 524288) :
    ((metresBetween velocity next seconds).raw : ℚ) <
      (brakes.distance velocity).raw - (brakes.distance limit).raw + 1 := by
  have limit_le : limit ≤ next := by rw [le_def]; omega
  have limit_ge : (0 : ℚ) ≤ limit.raw := by exact_mod_cast nonneg_iff.mp limit_nonneg
  have beyond : (limit.raw + 11378 : ℚ) ≤ next.raw := by exact_mod_cast beyond
  have pull_ge := fierce.trans
    (able.pull_mono (Nat.zero_le _) (binOf_le slows.velocity_nonneg slows.covered))
  have slack_ge := able.biasedSlack_ge bias_nonneg (binOf velocity)
  have slack_le : brakes.biasedSlack bias (binOf velocity) ≤ bias + 9 := by
    have reach_le : brakes.reach (binOf velocity) ≤ 1 / 134217727 :=
      one_div_le_one_div_of_le (by norm_num) (by linarith)
    have scaled : (2147483648 + bias) / 2 * brakes.reach (binOf velocity) ≤
        (2147483648 + 100000) / 2 * (1 / 134217727) :=
      mul_le_mul (by linarith) reach_le (able.reach_pos _).le (by norm_num)
    linarith [able.biasedSlack_le bias (binOf velocity)]
  have surplus_ge := surplus_ge velocity.raw bias_nonneg
    (bias_nonneg.trans slack_ge) slack_le limit_ge beyond
  have surplus_le := able.surplus_le slows (able.admits_of_fierce fierce bias_nonneg bias_le) blurs
    limit_nonneg limit_le
  have blur_lt : blur < surplus bias (brakes.biasedSlack bias (binOf velocity)) velocity.raw
      next.raw limit.raw * brakes.reach (binOf velocity) := by
    rw [reach, mul_one_div, lt_div_iff₀ (by linarith)]
    have := mul_le_mul_of_nonneg_right blur_le
      (by linarith : 0 ≤ brakes.pull (binOf velocity) - 1 / 2)
    linarith
  linarith

/-- With fierce brakes a slice of 16 counts or more does not cover a count more than the braking
distance allows. -/
theorem metresBetween_lt_of_fierce (able : brakes.Able)
    (slows : brakes.Slows seconds velocity next) (fierce : 134217728 ≤ brakes.pull 0)
    (limit_ge : 22755 ≤ limit.raw) (beyond : limit.raw + 11378 ≤ next.raw)
    (seconds_ge : 16 ≤ seconds.raw) :
    ((metresBetween velocity next seconds).raw : ℚ) <
      (brakes.distance velocity).raw - (brakes.distance limit).raw + 1 := by
  obtain ⟨le, drop⟩ := able.drop_ge slows
  have limit_nonneg : zero ≤ limit := by rw [nonneg_iff]; omega
  have limit_covered : limit.raw ≤ 2147483648 := by
    have := slows.covered
    rw [le_def] at le
    omega
  have pull_ge := fierce.trans
    (able.pull_mono (Nat.zero_le _) (binOf_le slows.velocity_nonneg slows.covered))
  have limit_pull_ge := fierce.trans
    (able.pull_mono (Nat.zero_le _) (binOf_le limit_nonneg limit_covered))
  have rounding_le : 524288 / brakes.pull (binOf limit) ≤ 1 / 256 := by
    rw [div_le_div_iff₀ (by linarith) (by norm_num)]
    linarith
  have drop_ge : (brakes.pull (binOf velocity) - 1 / 2) / 65536 - 1 / 2 ≤
      (velocity.raw - next.raw : ℚ) := by
    have seconds_ge : (16 : ℚ) ≤ seconds.raw := by exact_mod_cast seconds_ge
    have scaled : (brakes.pull (binOf velocity) - 1 / 2) * (16 / 1048576) ≤
        (brakes.pull (binOf velocity) - 1 / 2) * (seconds.raw / 1048576) :=
      mul_le_mul_of_nonneg_left (by linarith) (by linarith)
    linarith
  have admits : ∀ bias : ℚ, 0 ≤ bias → bias ≤ 100000 → brakes.Admits bias :=
    fun bias => able.admits_of_fierce fierce
  have limit_ge : (22755 : ℚ) ≤ limit.raw := by exact_mod_cast limit_ge
  -- A great bias is worth more for every count that the slice takes off, but its slack is greater.
  have small_bias : (0 : ℚ) ≤ 30000 ∧ (30000 : ℚ) ≤ 100000 := by norm_num
  have great_bias : (0 : ℚ) ≤ 100000 ∧ (100000 : ℚ) ≤ 100000 := by norm_num
  rcases le_or_gt (limit.raw - 524288 * binOf limit : ℚ) 262144 with low_half | high_half
  · rcases le_total (brakes.pull (binOf velocity)) 4000000000 with weak | strong
    · exact able.metresBetween_lt_of_paid slows fierce limit_nonneg beyond small_bias.1 small_bias.2
        (able.blurs_of_low (admits _ small_bias.1 small_bias.2) limit_nonneg limit_covered low_half)
        (by linarith : _ ≤ (129 / 256 : ℚ)) (by linarith)
    · exact able.metresBetween_lt_of_paid slows fierce limit_nonneg beyond great_bias.1 great_bias.2
        (able.blurs_of_low (admits _ great_bias.1 great_bias.2) limit_nonneg limit_covered low_half)
        (by linarith : _ ≤ (129 / 256 : ℚ)) (by linarith)
  · have bin_nonneg : (0 : ℚ) ≤ binOf limit := Nat.cast_nonneg _
    rcases le_total (brakes.pull (binOf velocity)) 4000000000 with weak | strong
    · exact able.metresBetween_lt_of_paid slows fierce limit_nonneg beyond small_bias.1 small_bias.2
        (able.blurs (admits _ small_bias.1 small_bias.2) limit_nonneg limit_covered)
        (by linarith : _ ≤ (257 / 256 : ℚ)) (by linarith)
    · exact able.metresBetween_lt_of_paid slows fierce limit_nonneg beyond great_bias.1 great_bias.2
        (able.blurs (admits _ great_bias.1 great_bias.2) limit_nonneg limit_covered)
        (by linarith : _ ≤ (257 / 256 : ℚ)) (by linarith)

end Able

end Brakes

end Haulage
