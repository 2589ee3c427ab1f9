import Haulage.Proofs.BrakingCurve
import Haulage.Proofs.SliceEnds

/-!
# What a slice does to the braking curve

A slice of half a second that may not hold its speed ends in one of three ways: no faster than the
limit ahead, in time for the braking distance to it, or braked at full force.  The last gains on the
braking curve.
-/

namespace Haulage

open Fixed

theorem raw_metresBetween_half {start stop : Fixed} (start_nonneg : zero ≤ start)
    (stop_nonneg : zero ≤ stop) (start_covered : start.raw ≤ 2147483648)
    (stop_covered : stop.raw ≤ 2147483648) :
    (metresBetween start stop half).raw = ((start.raw + stop.raw + 1) / 2 + 1) / 2 := by
  rw [nonneg_iff] at start_nonneg stop_nonneg
  have sum_eq : (start + stop).raw = start.raw + stop.raw := by
    apply raw_add_of_fits <;> simp only [limit] <;> omega
  rw [metresBetween, raw_mul, raw_midpoint, sum_eq, raw_half]
  simp only [halfScale, scale, limit]
  omega

theorem raw_mul_half {a : Fixed} (nonneg : zero ≤ a) : (a * half).raw = (a.raw + 1) / 2 := by
  have := a.raw_le_limit
  rw [nonneg_iff] at nonneg
  rw [raw_mul, raw_half]
  simp only [halfScale, scale, limit] at *
  omega

theorem seconds_of_full_slice : Units.secondsOfTicks one 32 = half := by decide

namespace Brakes.Firm

variable {brakes : Brakes} {velocity next : Fixed}

open Profile

/-- A slice at full force gains on the curve 99 counts more than it covers. -/
theorem curve_gain (firm : brakes.Firm) (nonneg : zero ≤ next) (covered : velocity.raw ≤ 2147483648)
    (braked : next.raw = velocity.raw -
      ((brakes.retarding velocity / .ofInt brakes.weight.toInt).raw + 1) / 2)
    (le : next ≤ velocity) :
    brakes.curve next + (metresBetween velocity next half).raw + 99 ≤ brakes.curve velocity := by
  have velocity_nonneg := nonneg.trans le
  have next_covered := (le_def.mp le).trans covered
  have deceleration_ge := firm.able.deceleration_ge velocity_nonneg covered
  have pull_ge := firm.pull_ge (binOf_le velocity_nonneg covered)
  have rise := firm.curve_sub_ge nonneg le covered
  have drop_ge : (brakes.retarding velocity / .ofInt brakes.weight.toInt).raw ≤
      2 * (velocity.raw - next.raw) := by omega
  have drop_ge : ((brakes.retarding velocity / .ofInt brakes.weight.toInt).raw : ℚ) ≤
      2 * (velocity.raw - next.raw) := by exact_mod_cast drop_ge
  have covered_le : 4 * (metresBetween velocity next half).raw ≤ velocity.raw + next.raw + 3 := by
    rw [raw_metresBetween_half velocity_nonneg nonneg covered next_covered]
    omega
  have covered_le : (4 * (metresBetween velocity next half).raw : ℚ) ≤
      velocity.raw + next.raw + 3 := by exact_mod_cast covered_le
  have velocity_ge : (0 : ℚ) ≤ velocity.raw := by exact_mod_cast nonneg_iff.mp velocity_nonneg
  have next_ge : (0 : ℚ) ≤ next.raw := by exact_mod_cast nonneg_iff.mp nonneg
  have share : 1 / 2 ≤ (velocity.raw - next.raw) * brakes.reach (binOf velocity) := by
    rw [reach, mul_one_div, le_div_iff₀ (by linarith)]
    linarith
  have gain : (velocity.raw + next.raw) / 4 + 100 ≤
      (work velocity.raw - work next.raw) * brakes.reach (binOf velocity) := by
    calc ((velocity.raw + next.raw) / 4 + 100 : ℚ)
        = ((velocity.raw + next.raw) / 2 + 200) * (1 / 2) := by ring
      _ ≤ ((velocity.raw + next.raw) / 2 + 200) *
            ((velocity.raw - next.raw) * brakes.reach (binOf velocity)) :=
          mul_le_mul_of_nonneg_left share (by linarith)
      _ = (work velocity.raw - work next.raw) * brakes.reach (binOf velocity) := by
          unfold work
          ring
  linarith

end Brakes.Firm

/-- A drive that brakes with firm brakes, on a map of scale one, whose velocities the bins cover. -/
structure Drive.Braked (drive : Drive) (brakes : Brakes) : Prop where
  /-- The numbers of the drive have their signs. -/
  sound : drive.Sound
  /-- The brakes are firm. -/
  firm : brakes.Firm
  /-- They slow the drive down. -/
  retardation_eq : ∀ velocity, drive.retardation velocity = brakes.retarding velocity
  /-- They hold its weight. -/
  mass_eq : drive.mass = .ofInt brakes.weight.toInt
  /-- The braking distances are theirs. -/
  brake_eq : ∀ velocity, zero ≤ velocity → velocity.raw ≤ 2147483648 →
    drive.brake velocity = brakes.distance velocity
  /-- So is the distance from the limit. -/
  distance_eq : drive.limit.distance = brakes.distance drive.limit.velocity
  /-- The bins cover the limit. -/
  limit_covered : drive.limit.velocity.raw ≤ 2147483648
  /-- They cover the velocity wanted. -/
  wanted_covered : drive.wanted.raw ≤ 2147483648
  /-- The point of the limit is not absurdly far. -/
  place_le : drive.limit.place.raw ≤ 1152921504606846976

/-- The head is not behind its start, not absurdly far, and at a velocity that the bins cover. -/
structure Head.Within (head : Head) : Prop where
  /-- It has not turned back. -/
  place_nonneg : zero ≤ head.place
  /-- It is not absurdly far. -/
  place_le : head.place.raw ≤ 1152921504606846976
  /-- It does not run backwards. -/
  velocity_nonneg : zero ≤ head.velocity
  /-- The bins cover its velocity. -/
  covered : head.velocity.raw ≤ 2147483648

/-- How a slice towards a limit ends. -/
inductive Drive.Outcome (drive : Drive) (brakes : Brakes) (head next : Head) : Prop where
  /-- No faster than the limit. -/
  | slow (below : next.velocity ≤ drive.limit.velocity)
  /-- In time for the braking distance to the limit. -/
  | fitting (room : next.place.raw + (brakes.distance next.velocity).raw ≤
      drive.limit.place.raw + (brakes.distance drive.limit.velocity).raw)
  /-- Braked at full force. -/
  | braked (le : next.velocity ≤ head.velocity)
      (gain : brakes.curve next.velocity + (next.place.raw - head.place.raw) + 99 ≤
        brakes.curve head.velocity)

namespace Drive.Braked

variable {drive : Drive} {brakes : Brakes} {head : Head} {next place : Fixed}

theorem raw_place_add (within : head.Within) (next_nonneg : zero ≤ next)
    (next_covered : next.raw ≤ 2147483648) :
    (head.place + metresBetween head.velocity next half).raw =
      head.place.raw + (metresBetween head.velocity next half).raw := by
  have between_eq := raw_metresBetween_half within.velocity_nonneg next_nonneg within.covered
    next_covered
  have place_nonneg := nonneg_iff.mp within.place_nonneg
  have velocity_nonneg := nonneg_iff.mp within.velocity_nonneg
  have := nonneg_iff.mp next_nonneg
  have := within.place_le
  have := within.covered
  apply raw_add_of_fits <;> simp only [Fixed.limit] <;> omega

theorem stoppable (braked : drive.Braked brakes) : drive.Stoppable brakes where
  sound := braked.sound
  able := braked.firm.able
  retardation_eq := braked.retardation_eq
  mass_eq := braked.mass_eq
  brake_eq := braked.brake_eq
  distance_eq := braked.distance_eq
  limit_covered := braked.limit_covered
  wanted_covered := braked.wanted_covered
  room_lt := by
    have place_le := braked.place_le
    have distance_le :=
      (braked.firm.able.distance_bounds braked.sound.limit_nonneg braked.limit_covered).2
    simp only [Fixed.limit]
    omega

/-- Braking at full force. -/
theorem outcome_of_full_force (braked : drive.Braked brakes) (within : head.Within)
    (next_nonneg : zero ≤ next)
    (next_eq : next =
      head.velocity - brakes.retarding head.velocity / .ofInt brakes.weight.toInt * half)
    (place_le : place ≤ head.place + metresBetween head.velocity next half) :
    drive.Outcome brakes head ⟨place, next⟩ := by
  have velocity_nonneg := within.velocity_nonneg
  have deceleration_nonneg := braked.stoppable.deceleration_nonneg velocity_nonneg
  rw [braked.retardation_eq, braked.mass_eq] at deceleration_nonneg
  have drop_nonneg := mul_nonneg deceleration_nonneg (by decide : zero ≤ half)
  have next_le : next ≤ head.velocity := by
    rw [next_eq]
    exact sub_le_left velocity_nonneg drop_nonneg
  have next_covered := (le_def.mp next_le).trans within.covered
  have raw_eq : next.raw = head.velocity.raw -
      ((brakes.retarding head.velocity / .ofInt brakes.weight.toInt).raw + 1) / 2 := by
    have covered := within.covered
    have low := nonneg_iff.mp velocity_nonneg
    have deceleration_low := nonneg_iff.mp deceleration_nonneg
    have next_low := nonneg_iff.mp next_nonneg
    rw [next_eq, raw_sub, raw_mul_half deceleration_nonneg] at next_low ⊢
    simp only [Fixed.limit] at next_low ⊢
    omega
  have gain := braked.firm.curve_gain next_nonneg within.covered raw_eq next_le
  rw [le_def, raw_place_add within next_nonneg next_covered] at place_le
  have place_le : (place.raw : ℚ) ≤
      head.place.raw + (metresBetween head.velocity next half).raw := by exact_mod_cast place_le
  exact .braked next_le (by linarith)

/-- Every slice ends in one of the three ways. -/
theorem outcome (braked : drive.Braked brakes) (within : head.Within) :
    drive.Outcome brakes head (drive.sliceOf head half) := by
  have stoppable := braked.stoppable
  have ahead : head.Ahead := ⟨within.place_nonneg, within.velocity_nonneg, within.covered⟩
  have half_nonneg : zero ≤ half := by decide
  have next_nonneg := (stoppable.sliceOf_ahead ahead half_nonneg).velocity_nonneg
  cases stoppable.ending ahead half_nonneg with
  | slow below => exact .slow below
  | fitting room => exact .fitting room
  | braked velocity_eq place_le =>
    exact braked.outcome_of_full_force within next_nonneg velocity_eq place_le

variable {top : Int}

theorem between_place_le (within : head.Within) (velocity_le : head.velocity.raw ≤ top)
    (top_le : top ≤ 2147483648) (next_nonneg : zero ≤ next) (next_le : next.raw ≤ top) :
    2 * (head.place + metresBetween head.velocity next half).raw ≤
      2 * head.place.raw + top + 2200 := by
  have between_eq := raw_metresBetween_half within.velocity_nonneg next_nonneg within.covered
    (next_le.trans top_le)
  rw [raw_place_add within next_nonneg (next_le.trans top_le), between_eq]
  omega

/-- A slice that reaches the limit and runs its rest at it. -/
theorem reached_place_le (braked : drive.Braked brakes) (within : head.Within)
    (ahead : head.place < drive.limit.place) (faster : drive.limit.velocity < head.velocity)
    (velocity_le : head.velocity.raw ≤ top) (top_le : top ≤ 2147483648)
    (reached : (drive.limit.place - head.place).mulInt 2 /
      (head.velocity + drive.limit.velocity) ≤ half) :
    2 * (head.place + (drive.limit.place - head.place + drive.limit.velocity *
      (half - (drive.limit.place - head.place).mulInt 2 /
        (head.velocity + drive.limit.velocity)))).raw ≤ 2 * head.place.raw + top + 2200 := by
  have limit_low := nonneg_iff.mp braked.sound.limit_nonneg
  have place_low := nonneg_iff.mp within.place_nonneg
  have place_le := within.place_le
  have limit_place_le := braked.place_le
  rw [lt_def] at ahead faster
  have left_eq : (drive.limit.place - head.place).raw =
      drive.limit.place.raw - head.place.raw := by
    apply raw_sub_of_fits <;> simp only [Fixed.limit] <;> omega
  have double_eq : ((drive.limit.place - head.place).mulInt 2).raw =
      2 * (drive.limit.place.raw - head.place.raw) := by
    rw [mulInt, left_eq, Int.mul_comm]
    apply raw_saturate_of_fits <;> simp only [Fixed.limit] <;> omega
  have sum_eq : (head.velocity + drive.limit.velocity).raw =
      head.velocity.raw + drive.limit.velocity.raw := by
    apply raw_add_of_fits <;> simp only [Fixed.limit] <;> omega
  have left_nonneg : zero ≤ (drive.limit.place - head.place).mulInt 2 := by
    rw [nonneg_iff, double_eq]
    omega
  have sum_pos : zero < head.velocity + drive.limit.velocity := by
    rw [pos_iff, sum_eq]
    omega
  set span := (drive.limit.place - head.place).mulInt 2 /
    (head.velocity + drive.limit.velocity) with span_def
  have span_low : 0 ≤ span.raw := div_nonneg left_nonneg sum_pos
  have span_high : span.raw ≤ 524288 := reached
  have left_lt := lt_of_raw_div_lt left_nonneg sum_pos
    (by rw [← span_def]; simp only [Fixed.limit]; omega)
  rw [double_eq, sum_eq, ← span_def] at left_lt
  have sum_le : (2 * span.raw + 1) * (head.velocity.raw + drive.limit.velocity.raw) ≤
      (2 * span.raw + 1) * (2 * top) :=
    Int.mul_le_mul_of_nonneg_left (by omega) (by omega)
  have rest_le : drive.limit.velocity.raw * (524288 - span.raw) ≤ top * (524288 - span.raw) :=
    Int.mul_le_mul_of_nonneg_right (by omega) (by omega)
  have rest_nonneg : 0 ≤ drive.limit.velocity.raw * (524288 - span.raw) :=
    Int.mul_nonneg limit_low (by omega)
  have seconds_eq : (half - span).raw = 524288 - span.raw := by
    apply raw_sub_of_fits <;> rw [raw_half] <;> simp only [Fixed.limit] <;> omega
  have total_le : 4194304 * (drive.limit.place.raw - head.place.raw) +
      4 * (drive.limit.velocity.raw * (524288 - span.raw)) ≤ 2097154 * top := by
    linarith
  rw [raw_add, raw_add, left_eq, raw_mul, seconds_eq]
  simp only [halfScale, scale, Fixed.limit]
  omega

theorem sliceOf_place_le (braked : drive.Braked brakes) (within : head.Within)
    (velocity_le : head.velocity.raw ≤ top) (wanted_le : drive.wanted.raw ≤ top)
    (top_le : top ≤ 2147483648) :
    2 * (drive.sliceOf head half).place.raw ≤ 2 * head.place.raw + top + 2200 := by
  have velocity_nonneg := within.velocity_nonneg
  have candidate_nonneg := braked.sound.candidate_nonneg velocity_nonneg half
  have candidate_le : (drive.candidate head half).raw ≤ top :=
    (le_def.mp (braked.sound.candidate_le velocity_nonneg (by decide))).trans
      (by rw [raw_max]; exact max_le velocity_le wanted_le)
  unfold sliceOf
  simp only
  split
  · next braking =>
    simp only [pastLimit, Bool.and_eq_true, Bool.not_eq_eq_eq_not, Bool.not_true,
      decide_eq_false_iff_not, decide_eq_true_eq, not_le] at braking
    have most_nonneg := braked.stoppable.deceleration_nonneg velocity_nonneg
    rcases LimitAhead.approach_cases drive.brake braked.sound.limit_nonneg
      (le_of_lt braking.1.2) most_nonneg (by decide : zero ≤ half) with
      ⟨in_time, reached⟩ | ⟨place, next, ends, place_le, nonneg, le, -⟩
    · rw [reached]
      exact braked.reached_place_le within braking.1.1 braking.1.2 velocity_le top_le in_time
    · have := between_place_le within velocity_le top_le nonneg ((le_def.mp le).trans velocity_le)
      rw [ends]
      rw [le_def] at place_le
      simp only
      omega
  · split
    · exact between_place_le within velocity_le top_le candidate_nonneg candidate_le
    · have bound_nonneg : zero ≤ max head.velocity (drive.candidate head half) :=
        velocity_nonneg.trans (le_max_left _ _)
      have next_le : drive.limit.fastestFit drive.brake head half head.velocity
          (drive.candidate head half) ≤ max head.velocity (drive.candidate head half) :=
        LimitAhead.fastestFit_le bound_nonneg (le_max_left _ _) (le_max_right _ _)
      rw [le_def, raw_max] at next_le
      exact between_place_le within velocity_le top_le
        (LimitAhead.fastestFit_nonneg velocity_nonneg candidate_nonneg)
        (next_le.trans (max_le velocity_le candidate_le))

end Drive.Braked

end Haulage
