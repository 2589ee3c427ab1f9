import Haulage.Motion.Run
import Haulage.Proofs.Conversions

/-!
# What one slice of a call does

A slice never turns a convoy back and never lets its velocity rise, except towards the velocity
wanted and only as far as traction covers drag and resistance.  Whatever every slice preserves holds
after a call.
-/

namespace Haulage

open Fixed

/-- A bisection answers with its lower end or with something that passes. -/
theorem bisect_eq_or_passes (passes : Fixed → Bool) (count : Nat) (low high : Fixed) :
    bisect passes count low high = low ∨ passes (bisect passes count low high) = true := by
  induction count generalizing low high with
  | zero => exact .inl rfl
  | succ count ih =>
    rw [bisect]
    split
    · next passes_middle =>
      rcases ih ((low + high).divInt 2) high with stays | passes_end
      · exact .inr (by rw [stays]; exact passes_middle)
      · exact .inr passes_end
    · exact ih _ _

theorem bisect_nonneg (passes : Fixed → Bool) (count : Nat) {low high : Fixed}
    (low_nonneg : zero ≤ low) (high_nonneg : zero ≤ high) :
    zero ≤ bisect passes count low high := by
  induction count generalizing low high with
  | zero => exact low_nonneg
  | succ count ih =>
    have middle_nonneg := midpoint_nonneg low_nonneg high_nonneg
    rw [bisect]
    split
    · exact ih middle_nonneg high_nonneg
    · exact ih low_nonneg middle_nonneg

theorem bisect_le (passes : Fixed → Bool) (count : Nat) {low high bound : Fixed}
    (bound_nonneg : zero ≤ bound) (low_le : low ≤ bound) (high_le : high ≤ bound) :
    bisect passes count low high ≤ bound := by
  induction count generalizing low high with
  | zero => exact low_le
  | succ count ih =>
    have middle_le := midpoint_le bound_nonneg low_le high_le
    rw [bisect]
    split
    · exact ih middle_le high_le
    · exact ih low_le middle_le

namespace LimitAhead

variable {limit : LimitAhead} {brake : Fixed → Fixed} {head : Head} {seconds low high : Fixed}

theorem fastestFit_nonneg (low_nonneg : zero ≤ low) (high_nonneg : zero ≤ high) :
    zero ≤ limit.fastestFit brake head seconds low high := by
  unfold fastestFit
  simp only
  split
  · exact low_nonneg
  · split
    · exact high_nonneg
    · exact bisect_nonneg _ _ low_nonneg high_nonneg

theorem fastestFit_le {bound : Fixed} (bound_nonneg : zero ≤ bound) (low_le : low ≤ bound)
    (high_le : high ≤ bound) : limit.fastestFit brake head seconds low high ≤ bound := by
  unfold fastestFit
  simp only
  split
  · exact low_le
  · split
    · exact high_le
    · exact bisect_le _ _ bound_nonneg low_le high_le

theorem metresBetween_nonneg {start stop seconds : Fixed} (start_nonneg : zero ≤ start)
    (stop_nonneg : zero ≤ stop) (seconds_nonneg : zero ≤ seconds) :
    zero ≤ metresBetween start stop seconds :=
  mul_nonneg (divInt_nonneg (by decide) (add_nonneg start_nonneg stop_nonneg)) seconds_nonneg

/-- A braking slice ends between a standstill and the velocity it starts with, and not further
back. -/
theorem approach_bounds (brake : Fixed → Fixed) (most : Fixed)
    (limit_nonneg : zero ≤ limit.velocity) (seconds_nonneg : zero ≤ seconds)
    (ahead : head.place ≤ limit.place) (faster : limit.velocity ≤ head.velocity) :
    head.place ≤ (limit.approach brake head most seconds).place ∧
      zero ≤ (limit.approach brake head most seconds).velocity ∧
      (limit.approach brake head most seconds).velocity ≤ head.velocity := by
  have velocity_nonneg := limit_nonneg.trans faster
  have left_nonneg := sub_nonneg ahead
  unfold approach
  simp only
  split
  · next reached =>
    have rest_nonneg := mul_nonneg limit_nonneg (sub_nonneg reached.2)
    exact ⟨le_add_right (add_nonneg left_nonneg rest_nonneg), limit_nonneg, faster⟩
  · set needed := (head.velocity * head.velocity - limit.velocity * limit.velocity) /
      (limit.place - head.place).mulInt 2
    set firm := max (head.velocity - max most zero * seconds) limit.velocity
    set gentle := max (head.velocity - max (min needed most) zero * seconds) firm
    have firm_nonneg : zero ≤ firm := limit_nonneg.trans (le_max_right _ _)
    have gentle_nonneg : zero ≤ gentle := firm_nonneg.trans (le_max_right _ _)
    have firm_le : firm ≤ head.velocity :=
      max_le (sub_le_left velocity_nonneg (mul_nonneg (le_max_right _ _) seconds_nonneg)) faster
    have gentle_le : gentle ≤ head.velocity :=
      max_le (sub_le_left velocity_nonneg (mul_nonneg (le_max_right _ _) seconds_nonneg)) firm_le
    have next_nonneg : zero ≤ limit.fastestFit brake head seconds firm gentle :=
      fastestFit_nonneg firm_nonneg gentle_nonneg
    have covered_nonneg := metresBetween_nonneg velocity_nonneg next_nonneg seconds_nonneg
    refine ⟨le_add_right ?_, next_nonneg, fastestFit_le velocity_nonneg firm_le gentle_le⟩
    split
    · exact le_min covered_nonneg left_nonneg
    · exact covered_nonneg

end LimitAhead

namespace Drive

/-- The numbers of a drive have the signs that a request gives them. -/
structure Sound (drive : Drive) : Prop where
  /-- The convoy has a weight. -/
  mass_pos : zero < drive.mass
  /-- The velocity wanted is not negative. -/
  wanted_nonneg : zero ≤ drive.wanted
  /-- The limit is not negative. -/
  limit_nonneg : zero ≤ drive.limit.velocity
  /-- The map scale is not negative. -/
  mapScale_nonneg : zero ≤ drive.mapScale

variable {drive : Drive} {head : Head} {seconds : Fixed}

theorem target_le_wanted (drive : Drive) (head : Head) : drive.target head ≤ drive.wanted := by
  unfold target
  split
  · exact min_le_left _ _
  · exact le_rfl

theorem Sound.target_nonneg (sound : drive.Sound) (head : Head) : zero ≤ drive.target head := by
  unfold target
  split
  · exact le_min sound.wanted_nonneg sound.limit_nonneg
  · exact sound.wanted_nonneg

/-- A force that does not push forward lets the velocity not rise. -/
theorem Sound.pushed_le (sound : drive.Sound) {velocity force : Fixed}
    (velocity_nonneg : zero ≤ velocity) (seconds_nonneg : zero ≤ seconds)
    (force_nonpos : force ≤ zero) : drive.pushed velocity force seconds ≤ velocity :=
  add_le_left velocity_nonneg
    (mul_nonpos (div_nonpos force_nonpos sound.mass_pos) seconds_nonneg)

theorem Sound.candidate_nonneg (sound : drive.Sound) (velocity_nonneg : zero ≤ head.velocity)
    (seconds : Fixed) : zero ≤ drive.candidate head seconds := by
  have target_nonneg := sound.target_nonneg head
  unfold candidate settle
  simp only
  split
  · have next_nonneg : zero ≤ (drive.pushed head.velocity (drive.surplus head.velocity)
        seconds).clamp zero (drive.target head) := le_clamp target_nonneg
    split
    · split
      · exact next_nonneg
      · exact bisect_nonneg _ _ velocity_nonneg next_nonneg
    · exact next_nonneg
  · split
    · next above => exact target_nonneg.trans (le_clamp (le_of_lt above))
    · exact le_clamp velocity_nonneg

/-- The velocity rises only to one that traction sustains, and not above the target. -/
theorem Sound.candidate_le_or_sustained (sound : drive.Sound)
    (velocity_nonneg : zero ≤ head.velocity) (seconds_nonneg : zero ≤ seconds) :
    drive.candidate head seconds ≤ head.velocity ∨
      drive.profile.sustains drive.resistance (drive.candidate head seconds) = true ∧
        drive.candidate head seconds ≤ drive.target head := by
  unfold candidate
  simp only
  split
  · next below =>
    set next := (drive.pushed head.velocity (drive.surplus head.velocity) seconds).clamp zero
      (drive.target head)
    have target_nonneg := sound.target_nonneg head
    have next_le : next ≤ drive.target head := clamp_le target_nonneg
    split
    · unfold settle
      simp only
      split
      · next sustained => exact .inr ⟨sustained, next_le⟩
      · rcases bisect_eq_or_passes (drive.profile.sustains drive.resistance) bisections
          head.velocity next with stays | sustained
        · exact .inl (le_of_eq stays)
        · exact .inr ⟨sustained,
            bisect_le _ _ target_nonneg (le_of_lt below) next_le⟩
    · next not_pushed =>
      have surplus_nonpos : drive.surplus head.velocity ≤ zero :=
        not_lt.mp (mt isPositive_iff.mpr not_pushed)
      exact .inl (clamp_le_of_le velocity_nonneg
        (sound.pushed_le velocity_nonneg seconds_nonneg surplus_nonpos))
  · left
    split
    · next above => exact clamp_le (le_of_lt above)
    · exact clamp_le velocity_nonneg

theorem Sound.candidate_le (sound : drive.Sound) (velocity_nonneg : zero ≤ head.velocity)
    (seconds_nonneg : zero ≤ seconds) :
    drive.candidate head seconds ≤ max head.velocity drive.wanted := by
  rcases sound.candidate_le_or_sustained velocity_nonneg seconds_nonneg with stays | ⟨-, below⟩
  · exact stays.trans (le_max_left _ _)
  · exact (below.trans (drive.target_le_wanted head)).trans (le_max_right _ _)

/-- A slice does not turn the convoy back, and ends between a standstill and what its velocity would
be without a limit ahead or is already. -/
theorem Sound.sliceOf_bounds (sound : drive.Sound) (velocity_nonneg : zero ≤ head.velocity)
    (seconds_nonneg : zero ≤ seconds) :
    head.place ≤ (drive.sliceOf head seconds).place ∧
      zero ≤ (drive.sliceOf head seconds).velocity ∧
      (drive.sliceOf head seconds).velocity ≤
        max head.velocity (drive.candidate head seconds) := by
  have candidate_nonneg := sound.candidate_nonneg velocity_nonneg seconds
  unfold sliceOf
  simp only
  split
  · next braking =>
    simp only [pastLimit, Bool.and_eq_true, Bool.not_eq_eq_eq_not, Bool.not_true,
      decide_eq_false_iff_not, decide_eq_true_eq, not_le] at braking
    have bounds := LimitAhead.approach_bounds drive.brake
      (drive.retardation head.velocity / drive.mass) sound.limit_nonneg seconds_nonneg
      (le_of_lt braking.1.1) (le_of_lt braking.1.2)
    exact ⟨bounds.1, bounds.2.1, bounds.2.2.trans (le_max_left _ _)⟩
  · have covered : ∀ next : Fixed, zero ≤ next →
        next ≤ max head.velocity (drive.candidate head seconds) →
        head.place ≤ head.place + metresBetween head.velocity next seconds ∧ zero ≤ next ∧
          next ≤ max head.velocity (drive.candidate head seconds) :=
      fun next next_nonneg next_le =>
        ⟨le_add_right (LimitAhead.metresBetween_nonneg velocity_nonneg next_nonneg
          seconds_nonneg), next_nonneg, next_le⟩
    split
    · exact covered _ candidate_nonneg (le_max_right _ _)
    · exact covered _ (LimitAhead.fastestFit_nonneg velocity_nonneg candidate_nonneg)
        (LimitAhead.fastestFit_le (velocity_nonneg.trans (le_max_left _ _)) (le_max_left _ _)
          (le_max_right _ _))

/-- What every slice preserves holds after a run of slices. -/
theorem run_preserves (drive : Drive) (holds : Head → Prop)
    (slice_preserves : ∀ head ticks, holds head → holds (drive.slice head ticks)) (head : Head)
    (lengths : List Nat) (starts : holds head) : holds (drive.run head lengths) := by
  induction lengths generalizing head with
  | nil => exact starts
  | cons ticks lengths ih => exact ih (drive.slice head ticks) (slice_preserves head ticks starts)

theorem Sound.slice_bounds (sound : drive.Sound) (velocity_nonneg : zero ≤ head.velocity)
    (ticks : Nat) :
    head.place ≤ (drive.slice head ticks).place ∧ zero ≤ (drive.slice head ticks).velocity ∧
      (drive.slice head ticks).velocity ≤
        max head.velocity
          (drive.candidate head (Units.secondsOfTicks drive.mapScale ticks)) :=
  sound.sliceOf_bounds velocity_nonneg (Units.secondsOfTicks_nonneg sound.mapScale_nonneg ticks)

/-- A run of slices does not turn the convoy back, and its velocity stays within any bound that
holds for the velocity at its start and the one wanted. -/
theorem Sound.run_bounds (sound : drive.Sound) (head : Head) {bound : Fixed}
    (velocity_nonneg : zero ≤ head.velocity) (velocity_le : head.velocity ≤ bound)
    (wanted_le : drive.wanted ≤ bound) (lengths : List Nat) :
    head.place ≤ (drive.run head lengths).place ∧ zero ≤ (drive.run head lengths).velocity ∧
      (drive.run head lengths).velocity ≤ bound := by
  apply drive.run_preserves fun reached =>
    head.place ≤ reached.place ∧ zero ≤ reached.velocity ∧ reached.velocity ≤ bound
  · rintro reached ticks ⟨place_le, reached_nonneg, reached_le⟩
    have seconds_nonneg := Units.secondsOfTicks_nonneg sound.mapScale_nonneg ticks
    have bounds := sound.slice_bounds reached_nonneg ticks
    have candidate_le := sound.candidate_le reached_nonneg seconds_nonneg
    exact ⟨place_le.trans bounds.1, bounds.2.1, bounds.2.2.trans
      (max_le reached_le (candidate_le.trans (max_le reached_le wanted_le)))⟩
  · exact ⟨le_rfl, velocity_nonneg, velocity_le⟩

end Drive

namespace MotionState

theorem velocity_nonneg (state : MotionState) : zero ≤ state.velocity := le_max_right _ _

theorem velocity_setSpeed_zero (state : MotionState) : (state.setSpeed 0).velocity = zero := by
  have standing : Units.velocityOfSpeed (max 0 0) + zero = zero := by decide
  rw [velocity, setSpeed, standing, max_self]

end MotionState

namespace Profile

variable {profile : Profile} {request : MoveRequest} {weight : WeightSummary}

theorem drive_sound (scale_nonneg : zero ≤ request.mapScale) (weight_pos : 0 < weight.weight) :
    (profile.drive weight request).Sound where
  mass_pos := by
    rw [Int32.lt_iff_toInt_lt] at weight_pos
    have high := weight.weight.toInt_lt
    change 0 < weight.weight.toInt at weight_pos
    change 0 < (saturate _).raw
    rw [raw_saturate_of_fits]
    · simp only [scale]
      omega
    · simp only [scale, limit]
      omega
    · simp only [scale, limit]
      omega
  wanted_nonneg := le_min (Units.velocityOfSpeed_nonneg (max_zero_nonneg _))
    (Units.velocityOfKmh_nonneg (max_zero_nonneg _))
  limit_nonneg := Units.velocityOfSpeed_nonneg (max_zero_nonneg _)
  mapScale_nonneg := scale_nonneg

/-- The stored state gives the velocity of the head back. -/
theorem velocity_settleState (state : MotionState) (mapScale : Fixed) {head : Head}
    (nonneg : zero ≤ head.velocity) :
    (settleState state mapScale head).velocity = head.velocity := by
  have speed_nonneg := Units.speedOfVelocity_nonneg nonneg
  simp only [MotionState.velocity, settleState]
  rw [max_zero_of_nonneg speed_nonneg, Units.velocity_restored nonneg, max_eq_left nonneg]

/-- What a call adds to the yards. -/
theorem yards_settleState_eq (state : MotionState) (mapScale : Fixed) (head : Head) :
    (settleState state mapScale head).yards =
      state.yards + .ofInt (Units.yardsOnMap mapScale head.place) := by
  change Int64.ofInt (state.yards.toInt + _) = _
  rw [Int64.ofInt_add, Int64.ofInt_toInt]

/-- What a call has covered is told by the yards before and after it, though they wrap around. -/
theorem covered_settleState (state : MotionState) {mapScale : Fixed} (scale_pos : zero < mapScale)
    {head : Head} (ahead : zero ≤ head.place) :
    ((settleState state mapScale head).yards - state.yards).toInt =
      Units.yardsOnMap mapScale head.place := by
  have bounds := Units.yardsOnMap_bounds scale_pos ahead
  rw [yards_settleState_eq, Int64.add_comm, Int64.add_sub_cancel,
    toInt_ofInt64 (by omega) (by omega)]

theorem move_of_running (state : MotionState) (ticks_pos : 0 < request.engineTicks)
    (weight_pos : 0 < weight.weight) :
    profile.move request weight state =
      settleState state request.mapScale
        ((profile.drive weight request).run (startHead state) (requestSlices request)) := by
  rw [move, if_neg (Int64.not_le.mpr ticks_pos), if_neg (Int32.not_le.mpr weight_pos)]
  simp only [tabledDrive_eq_drive]

/-- A call leaves the state as it is, or stops the convoy, or stores where a run of slices has
brought its head. -/
theorem move_outcome (profile : Profile) (request : MoveRequest) (weight : WeightSummary)
    (state : MotionState) :
    profile.move request weight state = state ∨
      profile.move request weight state = state.setSpeed 0 ∨
      0 < weight.weight ∧ profile.move request weight state =
        settleState state request.mapScale
          ((profile.drive weight request).run (startHead state) (requestSlices request)) := by
  by_cases ticks_pos : 0 < request.engineTicks
  · by_cases weight_pos : 0 < weight.weight
    · exact .inr (.inr ⟨weight_pos, move_of_running state ticks_pos weight_pos⟩)
    · refine .inr (.inl ?_)
      rw [move, if_neg (Int64.not_le.mpr ticks_pos), if_pos (Int32.not_lt.mp weight_pos)]
  · exact .inl (if_pos (Int64.not_lt.mp ticks_pos))

/-- What holds of the velocity at the start and at a standstill, and is kept by every slice, holds
of the velocity after a call. -/
theorem move_velocity_preserves {holds : Fixed → Prop} (scale_nonneg : zero ≤ request.mapScale)
    (standing : holds zero)
    (slice_preserves : (profile.drive weight request).Sound → ∀ head ticks,
      zero ≤ head.velocity → holds head.velocity →
        holds ((profile.drive weight request).slice head ticks).velocity)
    (state : MotionState) (starts : holds state.velocity) :
    holds (profile.move request weight state).velocity := by
  rcases profile.move_outcome request weight state with same | stopped | ⟨weight_pos, moved⟩
  · rw [same]
    exact starts
  · rw [stopped, MotionState.velocity_setSpeed_zero]
    exact standing
  · have sound := profile.drive_sound scale_nonneg weight_pos
    have kept := (profile.drive weight request).run_preserves
      (fun head => zero ≤ head.velocity ∧ holds head.velocity)
      (fun head ticks ⟨nonneg, before⟩ =>
        ⟨(sound.slice_bounds nonneg ticks).2.1, slice_preserves sound head ticks nonneg before⟩)
      (startHead state) (requestSlices request) ⟨state.velocity_nonneg, starts⟩
    rw [moved, velocity_settleState _ _ kept.1]
    exact kept.2

end Profile

end Haulage
