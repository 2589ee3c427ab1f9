import Haulage.Proofs.BrakingBias
import Haulage.Proofs.SliceEnds

/-!
# What full force is worth before a limit

A slice at full force gains on the curve with a bias, even if every slice is charged one count of
velocity for what is rounded.  Half a unit of speed above a limit is more on that curve than all
that the braking distance may be too short by.
-/

namespace Haulage

open Fixed

/-- Full force for some seconds takes a velocity that the bins cover to the next one, which is not
below a standstill. -/
structure Brakes.Slows (brakes : Brakes) (seconds velocity next : Fixed) : Prop where
  /-- Time does not run backwards. -/
  seconds_nonneg : zero ≤ seconds
  /-- The convoy does not run backwards at the start. -/
  velocity_nonneg : zero ≤ velocity
  /-- The bins cover the velocity at the start. -/
  covered : velocity.raw ≤ 2147483648
  /-- Nor does the convoy run backwards at the end. -/
  next_nonneg : zero ≤ next
  /-- The deceleration is that at the start. -/
  next_eq : next = velocity - brakes.retarding velocity / .ofInt brakes.weight.toInt * seconds

namespace Brakes.Able

open Profile

variable {brakes : Brakes} {velocity next seconds : Fixed} {bias : ℚ}

/-- What full force takes off the velocity. -/
theorem drop_ge (able : brakes.Able) (slows : brakes.Slows seconds velocity next) :
    next ≤ velocity ∧ (brakes.pull (binOf velocity) - 1 / 2) * (seconds.raw / 1048576) - 1 / 2 ≤
      (velocity.raw - next.raw : ℚ) := by
  obtain ⟨seconds_nonneg, nonneg, covered, next_nonneg, next_eq⟩ := slows
  set most := brakes.retarding velocity / .ofInt brakes.weight.toInt
  have most_ge : brakes.pull (binOf velocity) - 1 / 2 ≤ (most.raw : ℚ) :=
    able.deceleration_ge nonneg covered
  have pull_ge := able.pull_ge (binOf velocity)
  have most_nonneg : 0 ≤ most.raw := by
    have : (0 : ℚ) ≤ most.raw := by linarith
    exact_mod_cast this
  have product_nonneg : zero ≤ most * seconds := mul_nonneg most_nonneg seconds_nonneg
  refine ⟨by rw [next_eq]; exact sub_le_left nonneg product_nonneg, ?_⟩
  have exact_nonneg : 0 ≤ most.raw * seconds.raw := Int.mul_nonneg most_nonneg seconds_nonneg
  have drop_eq : 1048576 * (velocity.raw - next.raw) ≥ most.raw * seconds.raw - 524288 := by
    have velocity_low := nonneg_iff.mp nonneg
    have next_low := nonneg_iff.mp next_nonneg
    rw [next_eq, raw_sub, raw_mul] at next_low
    rw [next_eq, raw_sub, raw_mul]
    simp only [halfScale, scale, limit] at next_low ⊢
    omega
  have drop_ge : (most.raw * seconds.raw - 524288 : ℚ) ≤ 1048576 * (velocity.raw - next.raw) := by
    exact_mod_cast drop_eq
  have raw_nonneg : (0 : ℚ) ≤ seconds.raw / 1048576 :=
    div_nonneg (by exact_mod_cast nonneg_iff.mp seconds_nonneg) (by norm_num)
  have scaled := mul_le_mul_of_nonneg_right most_ge raw_nonneg
  linarith

/-- A slice at full force gains on the curve what the bias covers in its time, if it is charged one
count of velocity; some counts may be charged already. -/
theorem biasedCurve_gain (able : brakes.Able) (bias_nonneg : 0 ≤ bias)
    (slows : brakes.Slows seconds velocity next) {charged : Int} (charged_nonneg : 0 ≤ charged)
    (charged_lt : charged + 1 ≤ next.raw) :
    brakes.biasedCurve bias (next.raw - (charged + 1)) +
        (metresBetween velocity next seconds).raw +
          ((bias - charged - 1) * (seconds.raw / 1048576) - 1 / 2) ≤
      brakes.biasedCurve bias (velocity.raw - charged) := by
  obtain ⟨le, drop⟩ := able.drop_ge slows
  obtain ⟨seconds_nonneg, nonneg, covered, next_nonneg, -⟩ := slows
  have pull_ge := able.pull_ge (binOf velocity)
  have le := le_def.mp le
  have between_le := raw_metresBetween_le nonneg next_nonneg seconds_nonneg
  have rise := able.biasedCurve_sub_ge bias_nonneg (by omega : 0 ≤ next.raw - (charged + 1))
    (by omega : next.raw - (charged + 1) ≤ velocity.raw - charged) (by omega)
  have reach_le : brakes.reach (binOf velocity) ≤ brakes.reach (binAt (velocity.raw - charged)) :=
    able.reach_anti (by
      rw [← binAt_raw]
      exact binAt_mono (by omega) (by omega)) (binOf_le nonneg covered)
  have raw_nonneg : (0 : ℚ) ≤ seconds.raw / 1048576 :=
    div_nonneg (by exact_mod_cast nonneg_iff.mp seconds_nonneg) (by norm_num)
  have share : (seconds.raw / 1048576 : ℚ) ≤
      (velocity.raw - next.raw + 1) * brakes.reach (binOf velocity) := by
    rw [reach, mul_one_div, le_div_iff₀ (by linarith)]
    linarith
  have share : (seconds.raw / 1048576 : ℚ) ≤
      (velocity.raw - next.raw + 1) * brakes.reach (binAt (velocity.raw - charged)) := by
    have drop_nonneg : (0 : ℚ) ≤ velocity.raw - next.raw + 1 := by
      exact_mod_cast (by omega : 0 ≤ velocity.raw - next.raw + 1)
    exact share.trans (mul_le_mul_of_nonneg_left reach_le drop_nonneg)
  have middle_nonneg : (0 : ℚ) ≤ (velocity.raw + next.raw - 2 * charged - 1) / 2 + bias := by
    have : (0 : ℚ) ≤ velocity.raw + next.raw - 2 * charged - 1 := by
      exact_mod_cast (by omega : 0 ≤ velocity.raw + next.raw - 2 * charged - 1)
    linarith
  have gain : ((velocity.raw + next.raw - 2 * charged - 1) / 2 + bias) *
      (seconds.raw / 1048576) ≤
        brakes.biasedCurve bias (velocity.raw - charged) -
          brakes.biasedCurve bias (next.raw - (charged + 1)) := by
    refine le_trans ?_ rise
    rw [biasedWork_sub]
    push_cast
    calc ((velocity.raw + next.raw - 2 * charged - 1) / 2 + bias) * (seconds.raw / 1048576 : ℚ)
        ≤ ((velocity.raw + next.raw - 2 * charged - 1) / 2 + bias) *
            ((velocity.raw - next.raw + 1) * brakes.reach (binAt (velocity.raw - charged))) :=
          mul_le_mul_of_nonneg_left share middle_nonneg
      _ = _ := by ring
  linarith

end Brakes.Able

/-- Half a unit of speed above a limit, less one count for every slice of the longest call. -/
def brinkOf (limit : Fixed) : Int := limit.raw + 9330

namespace Brakes

/-- How much the curve may rise above the braking distance between a limit and a velocity that is
above its brink, apart from the rounding of the spans. -/
def biasedLeeway (brakes : Brakes) (limit : Fixed) : ℚ :=
  ((8192 + (524288 * (Profile.binAt (brinkOf limit) + 2) + 8192) / 2 *
      brakes.reach (Profile.binAt (brinkOf limit))) ^ 2 / 2 + 524288) /
    brakes.pull (Profile.binAt (brinkOf limit))

namespace Able

open Profile

variable {brakes : Brakes} {velocity limit : Fixed} {blur : ℚ}

/-- The brink lies in the bin of the limit or in the next one. -/
theorem binAt_brinkOf (nonneg : zero ≤ limit) :
    binAt (brinkOf limit) = binOf limit ∨ binAt (brinkOf limit) = binOf limit + 1 := by
  rw [nonneg_iff] at nonneg
  have limit_bin := binAt_eq nonneg
  have brink_bin := binAt_eq (by unfold brinkOf; omega : 0 ≤ brinkOf limit)
  rw [← binAt_raw]
  unfold brinkOf at *
  omega

/-- Past the brink the leeway covers the difference between curve and distance. -/
theorem biasedCurve_le_of_distance (able : brakes.Able) (nonneg : zero ≤ limit)
    (blurs : brakes.Blurs 8192 limit blur) (brink_le : brinkOf limit ≤ velocity.raw)
    (covered : velocity.raw ≤ 2147483648) :
    brakes.biasedCurve 8192 velocity.raw - brakes.biasedCurve 8192 limit.raw ≤
      (brakes.distance velocity).raw - (brakes.distance limit).raw +
        (brakes.biasedLeeway limit + 1 / 2 + blur) := by
  have limit_nonneg := nonneg_iff.mp nonneg
  have brink_nonneg : 0 ≤ brinkOf limit := by unfold brinkOf; omega
  have le : limit ≤ velocity := by rw [le_def]; unfold brinkOf at brink_le; omega
  have inside := binOf_le (nonneg.trans le) covered
  have brink_bin_le : binAt (brinkOf limit) ≤ binOf velocity := by
    rw [← binAt_raw]
    exact binAt_mono brink_nonneg brink_le
  have brink_pull_pos := able.pull_pos (binAt (brinkOf limit))
  rcases lt_or_ge (binOf velocity) (binOf limit + 2) with near | far
  · have rise := able.biasedCurve_sub_le able.admits_8192 blurs nonneg le covered
    have bin_le : binOf velocity ≤ binAt (brinkOf limit) + 1 := by
      have := binAt_brinkOf nonneg
      omega
    have bin_le : (binOf velocity : ℚ) ≤ binAt (brinkOf limit) + 1 := by exact_mod_cast bin_le
    have edge_le := min_le_left (524288 * ((binOf velocity : ℚ) + 1)) 2147483648
    have reach_le := able.reach_anti brink_bin_le inside
    have reach_pos := able.reach_pos (binOf velocity)
    have slack_le : brakes.biasedSlack 8192 (binOf velocity) ≤
        8192 + (524288 * (binAt (brinkOf limit) + 2) + 8192) / 2 *
          brakes.reach (binAt (brinkOf limit)) := by
      unfold biasedSlack
      have scaled : (min (524288 * ((binOf velocity : ℚ) + 1)) 2147483648 + 8192) / 2 *
          brakes.reach (binOf velocity) ≤ (524288 * (binAt (brinkOf limit) + 2) + 8192) / 2 *
            brakes.reach (binAt (brinkOf limit)) :=
        mul_le_mul (by linarith) reach_le reach_pos.le (by positivity)
      linarith
    have slack_ge := able.biasedSlack_ge able.admits_8192.nonneg (binOf velocity)
    have square_le := pow_le_pow_left₀ (by linarith) slack_le 2
    have hump_le : (brakes.biasedSlack 8192 (binOf velocity) ^ 2 / 2 + 524288) /
        brakes.pull (binOf velocity) ≤ brakes.biasedLeeway limit :=
      div_le_div₀ (by positivity) (by linarith) brink_pull_pos
        (able.pull_mono brink_bin_le inside)
    linarith
  · have rise := able.biasedCurve_sub_le_of_far able.admits_8192
      (fun bin inside => able.absorbs_8192 inside) blurs nonneg far (nonneg.trans le) covered
    have leeway_nonneg : 0 ≤ brakes.biasedLeeway limit := by
      unfold biasedLeeway
      positivity
    linarith

/-- What the last of the speed above a limit is worth on the curve. -/
theorem margin_ge (able : brakes.Able) (nonneg : zero ≤ limit) {charged : Int}
    (brink_le : brinkOf limit ≤ charged) (covered : charged ≤ 2147483648) :
    9330 * (limit.raw + 12857) / brakes.pull (binAt (brinkOf limit)) ≤
      brakes.biasedCurve 8192 charged - brakes.biasedCurve 8192 limit.raw := by
  have limit_nonneg := nonneg_iff.mp nonneg
  have brink_nonneg : 0 ≤ brinkOf limit := by unfold brinkOf; omega
  have limit_le : limit.raw ≤ brinkOf limit := by unfold brinkOf; omega
  have pull_pos := able.pull_pos (binAt (brinkOf limit))
  have reach_pos := able.reach_pos (binAt (brinkOf limit))
  have scaled := able.pull_mul_reach (binAt (brinkOf limit))
  have above := able.biasedCurve_mono able.admits_8192.nonneg brink_nonneg brink_le covered
  have rise := able.biasedCurve_sub_ge able.admits_8192.nonneg limit_nonneg limit_le
    (brink_le.trans covered)
  have work_eq : biasedWork 8192 (brinkOf limit) - biasedWork 8192 limit.raw =
      9330 * (limit.raw + 12857) := by
    rw [biasedWork_sub, brinkOf]
    push_cast
    ring
  have work_nonneg : (0 : ℚ) ≤ 9330 * (limit.raw + 12857) := by
    have : (0 : ℚ) ≤ limit.raw := by exact_mod_cast limit_nonneg
    linarith
  rw [work_eq] at rise
  have reach_ge : 1 / brakes.pull (binAt (brinkOf limit)) ≤
      brakes.reach (binAt (brinkOf limit)) := by
    rw [div_le_iff₀ pull_pos]
    linarith
  have product_le := mul_le_mul_of_nonneg_left reach_ge work_nonneg
  rw [mul_one_div] at product_le
  linarith

/-- What the leeway and the rounding of a span come to, in work. -/
theorem leeway_work_le (able : brakes.Able) (nonneg : zero ≤ limit)
    (covered : brinkOf limit ≤ 2147483648) :
    (8192 + (524288 * (binAt (brinkOf limit) + 2) + 8192) / 2 *
        brakes.reach (binAt (brinkOf limit))) ^ 2 / 2 + 524288 +
          524288 / brakes.pull (binOf limit) * brakes.pull (binAt (brinkOf limit)) ≤
      36000000 + 670000000 * binAt (brinkOf limit) := by
  have brink_nonneg : 0 ≤ brinkOf limit := by
    rw [nonneg_iff] at nonneg
    unfold brinkOf
    omega
  have inside := binAt_le brink_nonneg covered
  have bin_nonneg : (0 : ℚ) ≤ binAt (brinkOf limit) := Nat.cast_nonneg _
  have bin_le : (binAt (brinkOf limit) : ℚ) ≤ 4096 := by exact_mod_cast inside
  have reach_pos := able.reach_pos (binAt (brinkOf limit))
  have reach_le := able.reach_le (binAt (brinkOf limit))
  have slack_le : 8192 + (524288 * (binAt (brinkOf limit) + 2) + 8192) / 2 *
      brakes.reach (binAt (brinkOf limit)) ≤ 8293 + 51 * (binAt (brinkOf limit) : ℚ) := by
    have scaled : (524288 * (binAt (brinkOf limit) + 2 : ℚ) + 8192) / 2 *
        brakes.reach (binAt (brinkOf limit)) ≤
          (524288 * (binAt (brinkOf limit) + 2) + 8192) / 2 * (2 / 10485) :=
      mul_le_mul_of_nonneg_left reach_le (by positivity)
    linarith
  have square_le := pow_le_pow_left₀ (by positivity) slack_le 2
  have square_bin_le : (binAt (brinkOf limit) : ℚ) * binAt (brinkOf limit) ≤
      4096 * binAt (brinkOf limit) := mul_le_mul_of_nonneg_right bin_le bin_nonneg
  have pull_pos := able.pull_pos (binOf limit)
  have pull_ge := able.pull_ge (binOf limit)
  have ratio_le : 524288 / brakes.pull (binOf limit) * brakes.pull (binAt (brinkOf limit)) ≤
      524288 + 660000000 * binAt (brinkOf limit) := by
    rw [div_mul_eq_mul_div, div_le_iff₀ pull_pos]
    rcases binAt_brinkOf nonneg with same | next
    · have extra := mul_nonneg bin_nonneg pull_pos.le
      rw [same] at extra ⊢
      linarith
    · rw [next] at inside ⊢
      have succ_le := able.pull_succ_le inside
      have limit_bin_nonneg := mul_nonneg (Nat.cast_nonneg (α := ℚ) (binOf limit)) pull_pos.le
      push_cast
      linarith
  linarith

/-- A margin above the leeway, if the work of half a unit pays for it. -/
theorem leeway_add_lt (able : brakes.Able) (nonneg : zero ≤ limit) {charged : Int}
    (brink_le : brinkOf limit ≤ charged) (covered : charged ≤ 2147483648) (extra : ℚ)
    (paid : 36000000 + 670000000 * binAt (brinkOf limit) +
      extra * brakes.pull (binAt (brinkOf limit)) < 9330 * (limit.raw + 12857)) :
    brakes.biasedLeeway limit + 524288 / brakes.pull (binOf limit) + extra <
      brakes.biasedCurve 8192 charged - brakes.biasedCurve 8192 limit.raw := by
  refine lt_of_lt_of_le ?_ (able.margin_ge nonneg brink_le covered)
  have demand := able.leeway_work_le nonneg (brink_le.trans covered)
  have pull_pos := able.pull_pos (binAt (brinkOf limit))
  rw [lt_div_iff₀ pull_pos, add_mul, add_mul, biasedLeeway, div_mul_cancel₀ _ pull_pos.ne']
  linarith

/-- The lower end of the brink's bin is not above the brink. -/
theorem edge_le_brinkOf (nonneg : zero ≤ limit) :
    (524288 * binAt (brinkOf limit) : ℚ) ≤ limit.raw + 9330 := by
  have limit_nonneg := nonneg_iff.mp nonneg
  have edge_le := (binAt_bounds (by unfold brinkOf; omega : 0 ≤ brinkOf limit)).1
  have brink_eq : (brinkOf limit : ℚ) = limit.raw + 9330 := by
    unfold brinkOf
    push_cast
    ring
  exact edge_le.trans_eq brink_eq

/-- A margin above the leeway, whatever the brakes. -/
theorem leeway_lt (able : brakes.Able) (nonneg : zero ≤ limit) {charged : Int}
    (brink_le : brinkOf limit ≤ charged) (covered : charged ≤ 2147483648) :
    brakes.biasedLeeway limit + 524288 / brakes.pull (binOf limit) <
      brakes.biasedCurve 8192 charged - brakes.biasedCurve 8192 limit.raw := by
  have edge_le := edge_le_brinkOf nonneg
  have limit_ge : (0 : ℚ) ≤ limit.raw := by exact_mod_cast nonneg_iff.mp nonneg
  have bin_nonneg : (0 : ℚ) ≤ binAt (brinkOf limit) := Nat.cast_nonneg _
  have margin := able.leeway_add_lt nonneg brink_le covered 0 (by linarith)
  linarith

/-- A margin of a count more, if the brakes are not fierce. -/
theorem leeway_add_one_lt (able : brakes.Able) (gentle : brakes.pull 0 ≤ 134217728)
    (limit_ge : 22755 ≤ limit.raw) {charged : Int} (brink_le : brinkOf limit ≤ charged)
    (covered : charged ≤ 2147483648) :
    brakes.biasedLeeway limit + 524288 / brakes.pull (binOf limit) + 1 <
      brakes.biasedCurve 8192 charged - brakes.biasedCurve 8192 limit.raw := by
  have nonneg : zero ≤ limit := by rw [nonneg_iff]; omega
  have edge_le := edge_le_brinkOf nonneg
  have inside := binAt_le (by unfold brinkOf; omega : 0 ≤ brinkOf limit) (brink_le.trans covered)
  have limit_ge : (22755 : ℚ) ≤ limit.raw := by exact_mod_cast limit_ge
  have pull_le := able.pull_le inside
  have pull_le_top := able.pull_le_top inside
  apply able.leeway_add_lt nonneg brink_le covered 1
  -- At a low speed drag adds little to the pull; at a high one the margin is wide.
  rcases Nat.eq_zero_or_pos (binAt (brinkOf limit)) with slowest | pos
  · rw [slowest]
    push_cast
    linarith
  · have bin_ge : (1 : ℚ) ≤ binAt (brinkOf limit) := by exact_mod_cast pos
    rcases le_total (binAt (brinkOf limit) : ℚ) 500 with slow | fast
    · have square_le : (binAt (brinkOf limit) : ℚ) ^ 2 ≤ 500 * binAt (brinkOf limit) := by
        rw [pow_two]
        exact mul_le_mul_of_nonneg_right slow (by linarith)
      linarith
    · linarith

end Able

end Brakes

end Haulage
