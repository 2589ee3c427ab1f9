import Haulage.Proofs.Outlook
import Haulage.Proofs.Whereabouts

/-!
# The limit heeded suits every lower limit ahead

Whichever of the two the outlook picks, the first lower limit or the route end, its point and its
braking distance leave the room that every lower limit ahead needs.
-/

namespace Haulage

open Fixed

namespace Profile

variable {profile : Profile} {weight : WeightSummary} {brakes : Brakes} {here : Section}
  {ahead high front back : List Section} {lower further : Section} {start finish : UInt32}
  {cruise : MoveRequest} {motion : MotionState}

/-- The drive of a convoy that heeds a planned limit. -/
def driveTowards (profile : Profile) (weight : WeightSummary) (cruise : MoveRequest)
    (motion : MotionState) (limit : Int32 × UInt32) : Drive :=
  profile.drive weight ((profile.planned weight motion limit).request cruise)

theorem velocity_driveTowards {speed : Int32} (nonneg : 0 ≤ speed.toInt) (steps : UInt32) :
    (profile.driveTowards weight cruise motion (speed, steps)).limit.velocity =
      Units.velocityOfSpeed speed := by
  change Units.velocityOfSpeed (max speed 0) = _
  rw [max_zero_of_nonneg nonneg]

theorem place_driveTowards_le (profile : Profile) (weight : WeightSummary)
    (motion : MotionState) (scale_eq : cruise.mapScale = one) (speed : Int32) (steps : UInt32) :
    18 * (profile.driveTowards weight cruise motion (speed, steps)).limit.place.raw ≤
      26214400 * steps.toNat + 9 := by
  change 18 * (Units.metresOfSteps cruise.mapScale
    (.ofInt (Int32.ofIntClamp (steps.toNat : Int)).toInt)).raw ≤ _
  have clamped := toInt_ofIntClamp32 (steps.toNat : Int)
  rw [scale_eq, Units.raw_metresOfSteps_one (by omega) (by omega), clamped]
  omega

/-- Early steps are no more than what is left from the head. -/
theorem entrySteps_le (trimmed : motion.Trimmed) {entry : UInt32} (entry_pos : 0 < entry.toNat) :
    4096 * ((entrySteps entry (0 < motion.yards)).toNat : Int) ≤
      4096 * entry.toNat - motion.yards.toInt := by
  obtain ⟨low, high⟩ := trimmed
  simp only [Units.yardsPerStep] at high
  rw [toNat_entrySteps]
  by_cases past : 0 < motion.yards
  · simp only [past, decide_true, if_true]
    omega
  · have yards_zero : motion.yards.toInt ≤ 0 := Int64.le_iff_toInt_le.mp (Int64.not_lt.mp past)
    simp only [past, decide_false, Bool.false_eq_true, if_false]
    omega

/-- The point of a limit that is taken early leaves room up to the limit itself. -/
theorem place_le_roomTo (profile : Profile) (weight : WeightSummary)
    (scale_eq : cruise.mapScale = one) (trimmed : motion.Trimmed) (speed : Int32) {entry : UInt32}
    (entry_pos : 0 < entry.toNat) :
    ((profile.driveTowards weight cruise motion
        (speed, entrySteps entry (0 < motion.yards))).limit.place.raw : ℚ) ≤
      roomTo entry.toNat motion.yards.toInt + 1 / 2 := by
  have steps_le := entrySteps_le trimmed entry_pos
  have place_le := place_driveTowards_le profile weight motion scale_eq speed
    (entrySteps entry (0 < motion.yards))
  have room_le := le_roomTo (by omega : 18 * (profile.driveTowards weight cruise motion
    (speed, entrySteps entry (0 < motion.yards))).limit.place.raw ≤
      6400 * (4096 * (entry.toNat : Int) - motion.yards.toInt) + 9)
  push_cast at room_le
  linarith

/-- The first lower limit suits itself and those behind it that are no lower. -/
theorem first_suits_higher (firm : brakes.Firm) (lower_limited : lower.Limited)
    (further_limited : further.Limited) (velocity_le : lower.velocity ≤ further.velocity)
    (scale_eq : cruise.mapScale = one) (trimmed : motion.Trimmed) {entry : UInt32}
    (entry_pos : 0 < entry.toNat) {steps : Int} (steps_ge : entry.toNat ≤ steps) (reach : ℚ) :
    (profile.driveTowards weight cruise motion
      (lower.speed, entrySteps entry (0 < motion.yards))).Suits brakes further.velocity
        (roomTo steps motion.yards.toInt) reach := by
  have lower_bounds := Section.speed_bounds lower_limited
  have further_covered := Section.velocity_bounds further_limited
  have place_le := place_le_roomTo profile weight scale_eq trimmed lower.speed entry_pos
  have room_le := roomTo_mono steps_ge motion.yards.toInt
  have distance_le := le_def.mp (firm.able.distance_mono (Section.velocity_nonneg lower_limited)
    velocity_le (by omega))
  have distance_le : ((brakes.distance lower.velocity).raw : ℚ) ≤
      (brakes.distance further.velocity).raw := by exact_mod_cast distance_le
  constructor
  · rw [velocity_driveTowards (by omega)]
    change _ + ((brakes.distance lower.velocity).raw : ℚ) ≤ _
    linarith
  · rw [velocity_driveTowards (by omega)]
    exact .inl velocity_le

/-- The first lower limit suits one behind it that is lower still, if it is far enough away.  In
this tick that one is out of reach. -/
theorem first_suits_lower (firm : brakes.Firm) (here_limited : here.Limited)
    (lower_limited : lower.Limited) (further_limited : further.Limited) {length : Nat}
    (apart : brakes.Apart here lower further length) (scale_eq : cruise.mapScale = one)
    (trimmed : motion.Trimmed) {entry : UInt32} (entry_pos : 0 < entry.toNat) {steps : Nat}
    (steps_eq : steps = entry.toNat + length) (short : steps < 4294967296) :
    (profile.driveTowards weight cruise motion
      (lower.speed, entrySteps entry (0 < motion.yards))).Suits brakes further.velocity
        (roomTo steps motion.yards.toInt) (here.velocity.raw + 11377 + 2200 : Int) := by
  have lower_bounds := Section.speed_bounds lower_limited
  have here_bounds := Section.speed_bounds here_limited
  have here_raw := Section.raw_velocity here
  have raw_le := apart.raw_le firm further_limited here_limited (by omega)
  have steps_le := entrySteps_le trimmed entry_pos
  have place_le := place_driveTowards_le profile weight motion scale_eq lower.speed
    (entrySteps entry (0 < motion.yards))
  obtain ⟨yards_low, yards_high⟩ := trimmed
  rw [Units.yardsPerStep] at yards_high
  constructor
  · rw [velocity_driveTowards (by omega)]
    change _ + ((brakes.distance lower.velocity).raw : ℚ) ≤ _
    have fits_le := le_roomTo (by omega : 18 * ((profile.driveTowards weight cruise motion
      (lower.speed, entrySteps entry (0 < motion.yards))).limit.place.raw +
        (brakes.distance lower.velocity).raw - (brakes.distance further.velocity).raw) ≤
          6400 * (4096 * (steps : Int) - motion.yards.toInt) + 9)
    push_cast at fits_le
    linarith
  · rw [velocity_driveTowards (by omega)]
    refine .inr ?_
    change ((brakes.distance lower.velocity).raw : ℚ) + _ ≤ _
    have far_le := le_roomTo (by omega : 18 * ((brakes.distance lower.velocity).raw +
      (here.velocity.raw + 11377 + 2200) - (brakes.distance further.velocity).raw) ≤
        6400 * (4096 * (steps : Int) - motion.yards.toInt) + 0)
    push_cast at far_le ⊢
    linarith

/-- The first lower limit suits every limit behind it. -/
theorem first_suits_behind (firm : brakes.Firm) (vista : Vista here ahead start finish)
    {between : List Section} (ahead_eq : ahead = high ++ lower :: (between ++ further :: back))
    (above : ∀ stretch ∈ high, here.speed ≤ stretch.speed) (below : lower.speed < here.speed)
    (spaced : brakes.SpacedAhead here ahead) (scale_eq : cruise.mapScale = one)
    (trimmed : motion.Trimmed) {entry : UInt32} {steps : Nat} (entry_pos : 0 < entry.toNat)
    (steps_eq : steps = entry.toNat + totalLength (lower :: between)) (short : steps < 4294967296) :
    (profile.driveTowards weight cruise motion
      (lower.speed, entrySteps entry (0 < motion.yards))).Suits brakes further.velocity
        (roomTo steps motion.yards.toInt) (here.velocity.raw + 11377 + 2200 : Int) := by
  have lower_limited : lower.Limited := vista.limited lower (by simp [ahead_eq])
  have further_limited : further.Limited := vista.limited further (by simp [ahead_eq])
  by_cases slower : further.speed < lower.speed
  · have apart := spaced high lower between further back ahead_eq above below slower
    exact first_suits_lower firm vista.here_limited lower_limited further_limited apart scale_eq
      trimmed entry_pos steps_eq short
  · exact first_suits_higher firm lower_limited further_limited
      (Section.velocity_mono (Int32.not_lt.mp slower)) scale_eq trimmed entry_pos (by omega) _

/-- The route end suits a limit that has to be braked for later. -/
theorem end_suits (firm : brakes.Firm) (braked : profile.BrakesBy weight brakes)
    (further_limited : further.Limited) (scale_eq : cruise.mapScale = one)
    (trimmed : motion.Trimmed) (speed_nonneg : 0 ≤ motion.speed.toInt)
    (speed_le : motion.speed.toInt ≤ 94361) {begin : UInt32} (begin_pos : 0 < begin.toNat)
    (sooner : (profile.planned weight motion (0, finish)).brakeAt <
      (profile.planned weight motion
        (further.speed, entrySteps begin (0 < motion.yards))).brakeAt) (reach : ℚ) :
    (profile.driveTowards weight cruise motion (0, finish)).Suits brakes further.velocity
      (roomTo begin.toNat motion.yards.toInt) reach := by
  have further_bounds := Section.speed_bounds further_limited
  have further_covered := Brakes.Firm.speed_covered (by omega) further_bounds.2
  have motion_covered := Brakes.Firm.speed_covered speed_nonneg speed_le
  have standing : brakes.distance zero = zero :=
    firm.able.distance_of_binFloor le_rfl (by decide) rfl
  have end_steps : (profile.brakingSteps one weight 0).toInt = 0 := by
    rw [firm.brakingSteps_eq braked (by decide) (by decide)]
    change (Profile.wholeSteps one (brakes.distance zero)).toInt = 0
    rw [standing]
    rfl
  have motion_steps : 0 ≤ (profile.brakingSteps one weight motion.speed).toInt := by
    rw [firm.brakingSteps_eq braked speed_nonneg speed_le]
    exact wholeSteps_one_nonneg (firm.able.distance_bounds motion_covered.1 motion_covered.2).1
      (firm.distance_finite motion_covered.1 motion_covered.2)
  have further_steps := wholeSteps_one_le
    (firm.able.distance_bounds further_covered.1 further_covered.2).1
    (firm.distance_finite further_covered.1 further_covered.2)
  rw [← firm.brakingSteps_eq braked (by omega) further_bounds.2] at further_steps
  rw [planned_brakeAt, planned_brakeAt, end_steps] at sooner
  have steps_le := entrySteps_le trimmed begin_pos
  have place_le := place_driveTowards_le profile weight motion scale_eq 0 finish
  have raw_eq : (brakes.distance further.velocity).raw =
      (brakes.distance (Units.velocityOfSpeed further.speed)).raw := rfl
  have room_le := le_roomTo (by omega : 18 * ((profile.driveTowards weight cruise motion
    (0, finish)).limit.place.raw - (brakes.distance further.velocity).raw) ≤
      6400 * (4096 * (begin.toNat : Int) - motion.yards.toInt) + 9)
  push_cast at room_le
  have velocity_eq : (profile.driveTowards weight cruise motion (0, finish)).limit.velocity =
      zero := velocity_driveTowards (by decide) finish
  constructor
  · rw [velocity_eq, standing, raw_zero]
    push_cast
    linarith
  · rw [velocity_eq]
    exact .inl (Section.velocity_nonneg further_limited)

/-- Whatever a convoy heeds suits every lower limit ahead of it. -/
theorem outlook_suits (firm : brakes.Firm) (braked : profile.BrakesBy weight brakes)
    (vista : Vista here ahead start finish) (ahead_eq : ahead = front ++ further :: back)
    (below : further.speed < here.speed) (spaced : brakes.SpacedAhead here ahead)
    (scale_eq : cruise.mapScale = one) (target_eq : cruise.target = here.speed)
    (trimmed : motion.Trimmed) (speed_nonneg : 0 ≤ motion.speed.toInt)
    (speed_le : motion.speed.toInt ≤ here.speed.toInt) :
    (profile.drive weight (profile.outlook weight cruise
      (Route.limitsFrom start ahead ++ [⟨finish, 0⟩]) motion)).Suits brakes further.velocity
        (roomTo (start.toNat + totalLength front) motion.yards.toInt)
          (here.velocity.raw + 11377 + 2200 : Int) := by
  have short := finish.toNat_lt
  have lengths := vista.finish_eq
  have start_pos := vista.start_pos
  have here_bounds := Section.speed_bounds vista.here_limited
  have further_limited : further.Limited := vista.limited further (by simp [ahead_eq])
  rw [ahead_eq, totalLength_append] at lengths
  let begin : UInt32 := .ofNat (start.toNat + totalLength front)
  have begin_eq : begin.toNat = start.toNat + totalLength front := by
    rw [UInt32.toNat_ofNat']
    omega
  have steps_eq : (start.toNat : Int) + totalLength front = begin.toNat := by omega
  rw [steps_eq]
  rcases first_lower_cases here.speed front with
    all_high | ⟨high, lower, between, front_eq, above, lower_below⟩
  · obtain ⟨entry, entry_eq, outlook_eq⟩ := outlook_of_first_lower firm braked vista ahead_eq
      all_high below spaced scale_eq target_eq speed_le
    obtain rfl : entry = begin := UInt32.toNat_inj.mp (by omega)
    rw [outlook_eq]
    split
    · next sooner =>
      exact end_suits firm braked further_limited scale_eq trimmed speed_nonneg
        (by omega) (by omega) sooner _
    · exact first_suits_higher firm further_limited further_limited le_rfl scale_eq trimmed
        (by omega) le_rfl _
  · have nested_eq : ahead = high ++ lower :: (between ++ further :: back) := by
      rw [ahead_eq, front_eq, List.append_assoc, List.cons_append]
    have front_length : totalLength front = totalLength high + totalLength (lower :: between) := by
      rw [front_eq, totalLength_append]
    obtain ⟨entry, entry_eq, outlook_eq⟩ := outlook_of_first_lower firm braked vista nested_eq
      above lower_below spaced scale_eq target_eq speed_le
    have behind := brakeAt_le_behind firm braked vista nested_eq above lower_below spaced entry_eq
      (by omega : begin.toNat = entry.toNat + totalLength (lower :: between)) motion
      (0 < motion.yards)
    rw [outlook_eq]
    split
    · next sooner =>
      exact end_suits firm braked further_limited scale_eq trimmed speed_nonneg
        (by omega) (by omega) (sooner.trans_le behind) _
    · exact first_suits_behind firm vista nested_eq above lower_below spaced scale_eq trimmed
        (by omega) (by omega) (by omega)

end Profile

end Haulage
