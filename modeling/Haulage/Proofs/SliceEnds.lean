import Haulage.Proofs.Braking
import Haulage.Proofs.Slices

/-!
# How a slice towards a limit ends

A slice of any length ends in one of three ways: no faster than the limit ahead, in time for the
braking distance to it, or braked at full force.
-/

namespace Haulage

open Fixed

/-- The trapezoid of a slice, but for what is rounded. -/
theorem raw_metresBetween_le {start stop seconds : Fixed} (start_nonneg : zero ≤ start)
    (stop_nonneg : zero ≤ stop) (seconds_nonneg : zero ≤ seconds) :
    ((metresBetween start stop seconds).raw : ℚ) ≤
      (start.raw + stop.raw + 1) / 2 * (seconds.raw / 1048576) + 1 / 2 := by
  have middle_nonneg := midpoint_nonneg start_nonneg stop_nonneg
  have middle_le : 2 * ((start + stop).divInt 2).raw ≤ start.raw + stop.raw + 1 := by
    rw [nonneg_iff] at start_nonneg stop_nonneg
    rw [raw_midpoint, raw_add]
    simp only [limit]
    omega
  have middle_le : (2 * ((start + stop).divInt 2).raw : ℚ) ≤ start.raw + stop.raw + 1 := by
    exact_mod_cast middle_le
  have raw_nonneg : (0 : ℚ) ≤ seconds.raw / 1048576 :=
    div_nonneg (by exact_mod_cast nonneg_iff.mp seconds_nonneg) (by norm_num)
  have scaled := mul_le_mul_of_nonneg_right
    (by linarith : (((start + stop).divInt 2).raw : ℚ) ≤ (start.raw + stop.raw + 1) / 2) raw_nonneg
  have product_le := raw_mul_le middle_nonneg seconds_nonneg
  rw [mul_div_assoc] at product_le
  exact product_le.trans (by linarith)

namespace LimitAhead

variable {limit : LimitAhead} {brake : Fixed → Fixed} {head : Head} {seconds low high : Fixed}

theorem fastestFit_cases (limit : LimitAhead) (brake : Fixed → Fixed) (head : Head)
    (seconds low high : Fixed) :
    limit.fastestFit brake head seconds low high = low ∨
      limit.fits brake head seconds (limit.fastestFit brake head seconds low high) = true := by
  unfold fastestFit
  simp only
  split
  · exact .inl rfl
  · split
    · next passes => exact .inr passes
    · exact bisect_eq_or_passes _ _ _ _

/-- A braking slice reaches the limit and runs its rest at it, or it covers at most the trapezoid
down to the limit, down to what full force leaves, or down to a velocity that fits. -/
theorem approach_cases {most : Fixed} (brake : Fixed → Fixed) (limit_nonneg : zero ≤ limit.velocity)
    (faster : limit.velocity ≤ head.velocity) (most_nonneg : zero ≤ most)
    (seconds_nonneg : zero ≤ seconds) :
    (limit.place - head.place).mulInt 2 / (head.velocity + limit.velocity) ≤ seconds ∧
        limit.approach brake head most seconds =
          ⟨head.place + (limit.place - head.place + limit.velocity *
            (seconds - (limit.place - head.place).mulInt 2 / (head.velocity + limit.velocity))),
            limit.velocity⟩ ∨
      ∃ place next, limit.approach brake head most seconds = ⟨place, next⟩ ∧
        place ≤ head.place + metresBetween head.velocity next seconds ∧
        zero ≤ next ∧ next ≤ head.velocity ∧
        (next = limit.velocity ∨ next = head.velocity - most * seconds ∨
          limit.fits brake head seconds next = true) := by
  have velocity_nonneg := limit_nonneg.trans faster
  unfold approach
  simp only
  split
  · next reached => exact .inl ⟨reached.2, rfl⟩
  · set needed := (head.velocity * head.velocity - limit.velocity * limit.velocity) /
      (limit.place - head.place).mulInt 2
    set firm := max (head.velocity - max most zero * seconds) limit.velocity with firm_eq
    set gentle := max (head.velocity - max (min needed most) zero * seconds) firm
    have firm_nonneg : zero ≤ firm := limit_nonneg.trans (le_max_right _ _)
    have gentle_nonneg : zero ≤ gentle := firm_nonneg.trans (le_max_right _ _)
    have firm_le : firm ≤ head.velocity :=
      max_le (sub_le_left velocity_nonneg (mul_nonneg (le_max_right _ _) seconds_nonneg)) faster
    have gentle_le : gentle ≤ head.velocity :=
      max_le (sub_le_left velocity_nonneg (mul_nonneg (le_max_right _ _) seconds_nonneg)) firm_le
    refine .inr ⟨_, _, rfl, ?_, fastestFit_nonneg firm_nonneg gentle_nonneg,
      fastestFit_le velocity_nonneg firm_le gentle_le, ?_⟩
    · apply Fixed.add_le_add le_rfl
      split
      · exact min_le_left _ _
      · exact le_rfl
    · rcases fastestFit_cases limit brake head seconds firm gentle with lowest | fits
      · rw [lowest]
        rw [max_eq_left most_nonneg] at firm_eq
        rcases le_total (head.velocity - most * seconds) limit.velocity with below | above
        · exact .inl (firm_eq.trans (max_eq_right below))
        · exact .inr (.inl (firm_eq.trans (max_eq_left above)))
      · exact .inr (.inr fits)

end LimitAhead

/-- A drive with brakes that are able to stop it, whose velocities the bins cover. -/
structure Drive.Stoppable (drive : Drive) (brakes : Brakes) : Prop where
  /-- The numbers of the drive have their signs. -/
  sound : drive.Sound
  /-- The brakes are able to stop it. -/
  able : brakes.Able
  /-- They slow the drive down. -/
  retardation_eq : ∀ velocity, drive.retardation velocity = brakes.retarding velocity
  /-- They hold its weight. -/
  mass_eq : drive.mass = .ofInt brakes.weight.toInt
  /-- The braking distances are theirs. -/
  brake_eq : ∀ velocity, zero ≤ velocity → velocity.raw ≤ 2147483648 →
    drive.brake velocity = brakes.distance velocity
  /-- So is the distance from the limit. -/
  distance_eq : drive.limit.distance = brakes.distance drive.limit.velocity
  /-- The bins cover the limit. -/
  limit_covered : drive.limit.velocity.raw ≤ 2147483648
  /-- They cover the velocity wanted. -/
  wanted_covered : drive.wanted.raw ≤ 2147483648
  /-- The point where the limit's braking distance ends is within the range. -/
  room_lt : drive.limit.place.raw + (brakes.distance drive.limit.velocity).raw < Fixed.limit

/-- The head is not behind its start, and its velocity is one that the bins cover. -/
structure Head.Ahead (head : Head) : Prop where
  /-- It has not turned back. -/
  place_nonneg : zero ≤ head.place
  /-- It does not run backwards. -/
  velocity_nonneg : zero ≤ head.velocity
  /-- The bins cover its velocity. -/
  covered : head.velocity.raw ≤ 2147483648

/-- How a slice towards a limit ends. -/
inductive Drive.Ending (drive : Drive) (brakes : Brakes) (head : Head) (seconds : Fixed)
    (next : Head) : Prop where
  /-- No faster than the limit. -/
  | slow (below : next.velocity ≤ drive.limit.velocity)
  /-- In time for the braking distance to the limit. -/
  | fitting (room : next.place.raw + (brakes.distance next.velocity).raw ≤
      drive.limit.place.raw + (brakes.distance drive.limit.velocity).raw)
  /-- Braked at full force. -/
  | braked (velocity_eq : next.velocity =
        head.velocity - brakes.retarding head.velocity / .ofInt brakes.weight.toInt * seconds)
      (place_le : next.place ≤ head.place + metresBetween head.velocity next.velocity seconds)

namespace Drive.Stoppable

variable {drive : Drive} {brakes : Brakes} {head : Head} {next place seconds : Fixed}

/-- What the mover calls fitting. -/
theorem ending_of_fits (stoppable : drive.Stoppable brakes) (ahead : head.Ahead)
    (seconds_nonneg : zero ≤ seconds) (next_nonneg : zero ≤ next)
    (next_covered : next.raw ≤ 2147483648)
    (place_le : place ≤ head.place + metresBetween head.velocity next seconds)
    (fits : drive.limit.fits drive.brake head seconds next = true) :
    drive.Ending brakes head seconds ⟨place, next⟩ := by
  rcases le_or_gt next drive.limit.velocity with below | above
  · exact .slow below
  · have room_lt := stoppable.room_lt
    have faster : ¬ max head.velocity next ≤ drive.limit.velocity :=
      not_le.mpr (lt_max_of_lt_right above)
    have end_nonneg := add_nonneg ahead.place_nonneg
      (LimitAhead.metresBetween_nonneg ahead.velocity_nonneg next_nonneg seconds_nonneg)
    have needed_nonneg := (stoppable.able.distance_bounds next_nonneg next_covered).1
    rw [LimitAhead.fits, if_neg faster] at fits
    simp only [max_eq_left (le_of_lt above), stoppable.brake_eq next next_nonneg next_covered,
      stoppable.distance_eq, Bool.and_eq_true, decide_eq_true_eq] at fits
    have room := fits.2
    rw [nonneg_iff] at end_nonneg
    rw [le_def, raw_add, raw_add drive.limit.place] at room
    rw [le_def] at place_le
    simp only [Fixed.limit] at room room_lt
    refine .fitting ?_
    change place.raw + (brakes.distance next).raw ≤ _
    omega

/-- A deceleration by brakes, drag and resistance is not negative. -/
theorem deceleration_nonneg (stoppable : drive.Stoppable brakes) {velocity : Fixed}
    (nonneg : zero ≤ velocity) : zero ≤ drive.retardation velocity / drive.mass := by
  have retarding_ge := stoppable.able.retarding_ge nonneg
  have weight_ge := stoppable.able.weight_ge
  rw [stoppable.retardation_eq]
  apply div_nonneg _ stoppable.sound.mass_pos
  rw [nonneg_iff]
  omega

/-- Braking at full force. -/
theorem ending_of_full_force (stoppable : drive.Stoppable brakes)
    (next_eq : next = head.velocity - drive.retardation head.velocity / drive.mass * seconds)
    (place_le : place ≤ head.place + metresBetween head.velocity next seconds) :
    drive.Ending brakes head seconds ⟨place, next⟩ := by
  rw [stoppable.retardation_eq, stoppable.mass_eq] at next_eq
  exact .braked next_eq place_le

theorem ending_of_approach (stoppable : drive.Stoppable brakes) (ahead : head.Ahead)
    (seconds_nonneg : zero ≤ seconds) (faster : drive.limit.velocity < head.velocity) :
    drive.Ending brakes head seconds (drive.limit.approach drive.brake head
      (drive.retardation head.velocity / drive.mass) seconds) := by
  have most_nonneg := stoppable.deceleration_nonneg ahead.velocity_nonneg
  rcases LimitAhead.approach_cases drive.brake stoppable.sound.limit_nonneg (le_of_lt faster)
    most_nonneg seconds_nonneg with
    ⟨-, reached⟩ | ⟨place, next, ends, place_le, nonneg, le, how⟩
  · rw [reached]
    exact .slow le_rfl
  · rw [ends]
    rcases how with at_limit | full_force | fits
    · exact .slow (le_of_eq at_limit)
    · exact stoppable.ending_of_full_force full_force place_le
    · exact stoppable.ending_of_fits ahead seconds_nonneg nonneg
        ((le_def.mp le).trans ahead.covered) place_le fits

/-- Past the point of the limit the convoy brakes down to it, or is no faster already. -/
theorem ending_past_limit (stoppable : drive.Stoppable brakes) (ahead : head.Ahead)
    (seconds_nonneg : zero ≤ seconds) (past : drive.pastLimit head = true)
    (place_le : place ≤
      head.place + metresBetween head.velocity (drive.candidate head seconds) seconds) :
    drive.Ending brakes head seconds ⟨place, drive.candidate head seconds⟩ := by
  have velocity_nonneg := ahead.velocity_nonneg
  have target_eq : drive.target head = min drive.wanted drive.limit.velocity := by
    rw [target, past, Bool.true_or, if_pos rfl]
  have target_le : drive.target head ≤ drive.limit.velocity := by
    rw [target_eq]
    exact min_le_right _ _
  rcases le_or_gt head.velocity (drive.target head) with below | above
  · refine .slow ?_
    rcases stoppable.sound.candidate_le_or_sustained velocity_nonneg seconds_nonneg with
      falls | ⟨-, rises⟩
    · exact falls.trans (below.trans target_le)
    · exact rises.trans target_le
  · have candidate_eq : drive.candidate head seconds =
        (head.velocity - drive.retardation head.velocity / drive.mass * seconds).clamp
          (drive.target head) head.velocity := by
      unfold candidate
      simp only
      rw [if_neg (not_lt.mpr (le_of_lt above)), if_pos above]
    have drop_nonneg := mul_nonneg (stoppable.deceleration_nonneg velocity_nonneg) seconds_nonneg
    have braked_le := sub_le_left velocity_nonneg drop_nonneg
    by_cases reached :
        head.velocity - drive.retardation head.velocity / drive.mass * seconds < drive.target head
    · refine .slow ?_
      change drive.candidate head seconds ≤ _
      rw [candidate_eq, clamp, if_pos reached]
      exact target_le
    · rw [clamp, if_neg reached, if_neg (not_lt.mpr braked_le)] at candidate_eq
      exact stoppable.ending_of_full_force candidate_eq place_le

/-- Every slice ends in one of the three ways. -/
theorem ending (stoppable : drive.Stoppable brakes) (ahead : head.Ahead)
    (seconds_nonneg : zero ≤ seconds) :
    drive.Ending brakes head seconds (drive.sliceOf head seconds) := by
  have velocity_nonneg := ahead.velocity_nonneg
  have candidate_nonneg := stoppable.sound.candidate_nonneg velocity_nonneg seconds
  have candidate_covered : (drive.candidate head seconds).raw ≤ 2147483648 :=
    (le_def.mp (stoppable.sound.candidate_le velocity_nonneg seconds_nonneg)).trans
      (by rw [raw_max]; exact max_le ahead.covered stoppable.wanted_covered)
  unfold sliceOf
  simp only
  split
  · next braking =>
    simp only [Bool.and_eq_true, decide_eq_true_eq] at braking
    exact stoppable.ending_of_approach ahead seconds_nonneg braking.1.2
  · next holding =>
    by_cases past : drive.pastLimit head = true
    · simp only [past, Bool.true_or, if_true]
      exact stoppable.ending_past_limit ahead seconds_nonneg past le_rfl
    · rw [Bool.not_eq_true] at past
      by_cases fits :
          drive.limit.fits drive.brake head seconds (drive.candidate head seconds) = true
      · simp only [past, fits, Bool.false_or, if_true]
        exact stoppable.ending_of_fits ahead seconds_nonneg candidate_nonneg candidate_covered
          le_rfl fits
      · rw [Bool.not_eq_true] at fits
        simp only [past, fits, Bool.or_false, Bool.not_false, Bool.or_true, Bool.and_true,
          Bool.true_and, decide_eq_true_eq, not_lt] at holding
        simp only [past, fits, Bool.or_false, Bool.false_eq_true, if_false]
        rcases LimitAhead.fastestFit_cases drive.limit drive.brake head seconds head.velocity
          (drive.candidate head seconds) with lowest | fits
        · exact .slow ((le_of_eq lowest).trans holding)
        · refine stoppable.ending_of_fits ahead seconds_nonneg
            (LimitAhead.fastestFit_nonneg velocity_nonneg candidate_nonneg) ?_ le_rfl fits
          have bound_nonneg : zero ≤ (⟨2147483648, by decide⟩ : Fixed) := by decide
          exact le_def.mp (LimitAhead.fastestFit_le bound_nonneg ahead.covered candidate_covered)

/-- A slice keeps the head ahead of its start and its velocity in the bins. -/
theorem sliceOf_ahead (stoppable : drive.Stoppable brakes) (ahead : head.Ahead)
    (seconds_nonneg : zero ≤ seconds) : (drive.sliceOf head seconds).Ahead := by
  have bounds := stoppable.sound.sliceOf_bounds ahead.velocity_nonneg seconds_nonneg
  have candidate_le := stoppable.sound.candidate_le ahead.velocity_nonneg seconds_nonneg
  have velocity_le := bounds.2.2.trans (max_le (le_max_left _ _) candidate_le)
  rw [le_def, raw_max] at velocity_le
  exact ⟨ahead.place_nonneg.trans bounds.1, bounds.2.1,
    velocity_le.trans (max_le ahead.covered stoppable.wanted_covered)⟩

end Drive.Stoppable

end Haulage
