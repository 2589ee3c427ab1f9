import Haulage.Proofs.BrakingSteps
import Haulage.Proofs.Coherence
import Haulage.Proofs.Slices

/-!
# No call overspeeds

A call neither turns a convoy back nor makes it faster than it was and than wanted.  Where braking
has to start at once, it also holds a convoy that keeps the limit ahead to that limit.
-/

namespace Haulage

open Fixed

namespace Drive

variable {drive : Drive} {head : Head}

/-- The velocity wanted, and the limit ahead. -/
def restraint (drive : Drive) : Fixed := min drive.wanted drive.limit.velocity

theorem target_of_pastBrake (braking : drive.pastBrake head = true) :
    drive.target head = drive.restraint := by
  rw [target, braking, Bool.or_true, if_pos rfl, restraint]

/-- Past the point where braking starts, a slice keeps the limit ahead. -/
theorem Sound.slice_restrained (sound : drive.Sound) (velocity_nonneg : zero ≤ head.velocity)
    (braking : drive.pastBrake head = true) (restrained : head.velocity ≤ drive.restraint)
    (ticks : Nat) : (drive.slice head ticks).velocity ≤ drive.restraint := by
  have seconds_nonneg := Units.secondsOfTicks_nonneg sound.mapScale_nonneg ticks
  refine (sound.slice_bounds velocity_nonneg ticks).2.2.trans (max_le restrained ?_)
  rcases sound.candidate_le_or_sustained velocity_nonneg seconds_nonneg with stays | ⟨-, aimed⟩
  · exact stays.trans restrained
  · rwa [target_of_pastBrake braking] at aimed

/-- A run does so from a head that has braking to start behind it. -/
theorem Sound.run_restrained (sound : drive.Sound) (velocity_nonneg : zero ≤ head.velocity)
    (braking : drive.pastBrake head = true) (restrained : head.velocity ≤ drive.restraint)
    (lengths : List Nat) : (drive.run head lengths).velocity ≤ drive.restraint := by
  have kept := drive.run_preserves
    (fun reached => zero ≤ reached.velocity ∧ drive.pastBrake reached = true ∧
      reached.velocity ≤ drive.restraint) ?_ head lengths ⟨velocity_nonneg, braking, restrained⟩
  · exact kept.2.2
  · rintro reached ticks ⟨nonneg, passed, below⟩
    have bounds := sound.slice_bounds nonneg ticks
    -- No slice turns back, so braking goes on once it has to start.
    have passed_place := of_decide_eq_true passed
    exact ⟨bounds.2.1, decide_eq_true (passed_place.trans bounds.1),
      sound.slice_restrained nonneg passed below ticks⟩

end Drive

namespace Profile

variable {profile : Profile} {request : MoveRequest} {weight : WeightSummary}
  {state : MotionState}

/-- No call makes a convoy faster than it is or is wanted to be. -/
theorem move_velocity_le (scale_nonneg : zero ≤ request.mapScale) (state : MotionState) :
    (profile.move request weight state).velocity ≤
      max state.velocity (profile.wantedVelocity request) := by
  rcases profile.move_outcome request weight state with same | stopped | ⟨weight_pos, moved⟩
  · rw [same]
    exact le_max_left _ _
  · rw [stopped, MotionState.velocity_setSpeed_zero]
    exact state.velocity_nonneg.trans (le_max_left _ _)
  · have sound := profile.drive_sound scale_nonneg weight_pos
    have bounds := sound.run_bounds (startHead state) state.velocity_nonneg (le_max_left _ _)
      (le_max_right state.velocity (profile.wantedVelocity request)) (requestSlices request)
    rw [moved, velocity_settleState _ _ bounds.2.1]
    exact bounds.2.2

/-- A call in which braking starts at once keeps the limit ahead. -/
theorem move_velocity_restrained (scale_nonneg : zero ≤ request.mapScale)
    (braking : request.stepsToBrake.toInt ≤ 0)
    (restrained : state.velocity ≤ (profile.drive weight request).restraint) :
    (profile.move request weight state).velocity ≤ (profile.drive weight request).restraint := by
  rcases profile.move_outcome request weight state with same | stopped | ⟨weight_pos, moved⟩
  · rwa [same]
  · rw [stopped, MotionState.velocity_setSpeed_zero]
    exact state.velocity_nonneg.trans restrained
  · have sound := profile.drive_sound scale_nonneg weight_pos
    have low := request.stepsToBrake.le_toInt
    have passed : (profile.drive weight request).pastBrake (startHead state) = true :=
      decide_eq_true (Units.metresOfSteps_nonpos scale_nonneg (by omega) braking)
    have nonneg := (sound.run_bounds (startHead state) state.velocity_nonneg (le_max_left _ _)
      (le_max_right _ _) (requestSlices request)).2.1
    rw [moved, velocity_settleState _ _ nonneg]
    exact sound.run_restrained state.velocity_nonneg passed restrained _

/-- A call adds yards, and not many. -/
theorem move_covered (scale_pos : zero < request.mapScale) (state : MotionState) :
    0 ≤ ((profile.move request weight state).yards - state.yards).toInt ∧
      ((profile.move request weight state).yards - state.yards).toInt ≤ 11000000000 := by
  rcases profile.move_outcome request weight state with same | stopped | ⟨weight_pos, moved⟩
  · rw [same, Int64.sub_self]
    decide
  · rw [stopped]
    change 0 ≤ (state.yards - state.yards).toInt ∧ (state.yards - state.yards).toInt ≤ _
    rw [Int64.sub_self]
    decide
  · have sound := profile.drive_sound scale_pos.le weight_pos
    have ahead := (sound.run_bounds (startHead state) state.velocity_nonneg (le_max_left _ _)
      (le_max_right _ _) (requestSlices request)).1
    rw [moved, covered_settleState state scale_pos ahead]
    exact Units.yardsOnMap_bounds scale_pos ahead

end Profile

/-- Yards that do not wrap round are the sum of those before and those covered. -/
theorem toInt_yards_of_covered {before after : Int64} (forward : 0 ≤ (after - before).toInt)
    (fits : before.toInt + (after - before).toInt ≤ 9223372036854775807) :
    after.toInt = before.toInt + (after - before).toInt := by
  have low := before.le_toInt
  have sum_eq : after.toInt = (before + (after - before)).toInt := by
    rw [Int64.add_comm, Int64.sub_add_cancel]
  rw [sum_eq, Int64.toInt_add]
  exact Int.bmod_eq_of_le (by omega) (by omega)

namespace Memo

variable {σ : Type}

/-- A call leaves a convoy no faster than it was and is wanted to be, and if it was faster than
wanted, no faster than it was.  A convoy that keeps both the velocity wanted and the limit ahead, and
has to brake at once, keeps the limit.  No call takes yards back; it adds at most eleven thousand
million of them, so none are lost unless their word overflows. -/
theorem never_overspeeds [Source σ] (memo : Memo σ) (agrees : memo.cache.Agrees memo.source)
    (weight : WeightSummary) (request : MoveRequest) (scale_pos : zero < request.mapScale)
    (state : MotionState) :
    let after := (memo.ask (.move request weight state)).1
    let wanted := min (Units.velocityOfSpeed (max request.target 0))
      (Units.velocityOfKmh (max (memo.ask .speedLimit).1 0))
    let covered := (after.yards - state.yards).toInt
    zero ≤ after.velocity ∧ after.velocity ≤ max state.velocity wanted ∧
      (wanted < state.velocity → after.velocity ≤ state.velocity) ∧
      (request.stepsToBrake ≤ 0 →
        state.velocity ≤ min wanted (Units.velocityOfSpeed request.limit) →
          after.velocity ≤ Units.velocityOfSpeed request.limit) ∧
      0 ≤ covered ∧ covered ≤ 11000000000 ∧
      (state.yards.toInt + covered ≤ 9223372036854775807 → state.yards ≤ after.yards) := by
  simp -zeta only [ask_answer agrees]
  intro after wanted covered
  let profile := Profile.ofSource memo.source
  have after_le : after.velocity ≤ max state.velocity wanted :=
    Profile.move_velocity_le scale_pos.le state
  have ahead : 0 ≤ covered ∧ covered ≤ 11000000000 := Profile.move_covered scale_pos state
  refine ⟨after.velocity_nonneg, after_le, fun faster => ?_, fun braking kept => ?_, ahead.1,
    ahead.2, fun fits => ?_⟩
  · rwa [max_eq_left faster.le] at after_le
  · have limit_nonneg : 0 ≤ request.limit.toInt := by
      have kept := nonneg_iff.mp (state.velocity_nonneg.trans (kept.trans (min_le_right _ _)))
      rw [Units.raw_velocityOfSpeed] at kept
      omega
    have limit_eq : (profile.drive weight request).limit.velocity =
        Units.velocityOfSpeed request.limit := by
      change Units.velocityOfSpeed (max request.limit 0) = _
      rw [max_zero_of_nonneg limit_nonneg]
    have restrained : state.velocity ≤ (profile.drive weight request).restraint := by
      rw [Drive.restraint, limit_eq]
      exact kept
    have after_restrained := Profile.move_velocity_restrained scale_pos.le
      (Int32.le_iff_toInt_le.mp braking) restrained
    rw [← limit_eq]
    exact after_restrained.trans (min_le_right _ _)
  · rw [Int64.le_iff_toInt_le, toInt_yards_of_covered ahead.1 fits]
    omega

/-- A freight train that has begun to brake for a limit keeps it down a steep slope. -/
theorem freight_held_downhill :
    let memo : Memo Consist := ⟨⟨[.engine "Freight" .track 80 120 500], {}⟩, .empty⟩
    let request : MoveRequest := ⟨640, .one, 1500, 500, 800, 0⟩
    let after := (memo.ask (.move request (.single 500000 (-40)) (.atSpeed 480))).1
    after.velocity ≤ Units.velocityOfSpeed 500 ∧ 0 ≤ after.yards := by
  intro memo request after
  obtain ⟨-, -, -, restrained, -, -, onward⟩ := memo.never_overspeeds (Cache.agrees_empty _)
    (.single 500000 (-40)) request (by decide) (.atSpeed 480)
  exact ⟨restrained (by decide) (by decide +kernel), onward (by decide +kernel)⟩

end Memo

end Haulage
