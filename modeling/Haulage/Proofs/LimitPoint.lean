import Haulage.Proofs.BrakingSteps
import Haulage.Proofs.Coherence
import Haulage.Proofs.LevelBrakes
import Haulage.Proofs.LimitKept
import Haulage.Proofs.Whereabouts

/-!
# The point of a limit

A call of the mover with a limit ahead that the convoy can brake down to in time does not run past
the point of the limit while it is faster.  The grid of the numbers has to be fine enough for that:
the rounded deceleration of faint brakes differs too much from the exact one, and the braking
distances of absurdly fierce ones round to next to nothing.
-/

namespace Haulage

open Fixed

namespace Units

/-- On a map whose scale is not below the least one, a place that is not past a point may be 500
counts past it on a map of scale one. -/
theorem raw_div_le_of_place_le {mapScale place metres : Fixed} (scale_ge : 1049 ≤ mapScale.raw)
    (ahead : zero ≤ place) (metres_nonneg : zero ≤ metres) (place_le : place ≤ metres * mapScale) :
    (place / mapScale).raw ≤ metres.raw + 500 := by
  have scale_pos : zero < mapScale := by rw [pos_iff]; omega
  have scale_ge : (1049 : ℚ) ≤ mapScale.raw := by exact_mod_cast scale_ge
  have product_le := raw_mul_le metres_nonneg (le_of_lt scale_pos)
  have quotient_le := raw_div_le ahead scale_pos
  have place_le : (place.raw : ℚ) ≤ (metres * mapScale).raw := by exact_mod_cast le_def.mp place_le
  have exact_le : (place.raw * 1048576 / mapScale.raw : ℚ) ≤ metres.raw + 524288 / 1049 := by
    have rounding_le : (524288 : ℚ) ≤ 524288 / 1049 * mapScale.raw := by linarith
    rw [div_le_iff₀ (by linarith), add_mul]
    linarith
  have raw_lt : ((place / mapScale).raw : ℚ) < metres.raw + 501 := by linarith
  have raw_lt : (place / mapScale).raw < metres.raw + 501 := by exact_mod_cast raw_lt
  omega

/-- In whole yards a place that is not past a point is at most one yard past it. -/
theorem yardsOnMap_le_of_place_le {mapScale place : Fixed} (scale_ge : 1049 ≤ mapScale.raw)
    (ahead : zero ≤ place) {steps : Int32} (steps_nonneg : 0 ≤ steps.toInt)
    (place_le : place ≤ metresOfSteps mapScale (.ofInt steps.toInt)) :
    yardsOnMap mapScale place ≤ 4096 * steps.toInt + 1 := by
  have steps_lt := steps.toInt_lt
  have steps_eq : (Int64.ofInt steps.toInt).toInt = steps.toInt :=
    toInt_ofInt64 (by omega) (by omega)
  have metres_eq : (metresOfYards (.ofInt (steps.toInt * yardsPerStep))).raw =
      (26214400 * steps.toInt + 9) / 18 := raw_metresOfYards_steps (by omega) (by omega)
  have raw_le := raw_div_le_of_place_le scale_ge ahead
    (by rw [nonneg_iff, metres_eq]; omega)
    (by rw [metresOfSteps, steps_eq] at place_le; exact place_le)
  have quotient_nonneg := div_nonneg ahead (by rw [pos_iff]; omega : zero < mapScale)
  have raw_nonneg := nonneg_iff.mp quotient_nonneg
  rw [yardsOnMap, yardsOfMetres_of_nonneg quotient_nonneg]
  simp only [limit]
  omega

/-- A velocity whose speed is above a limit is half a unit above it. -/
theorem raw_ge_of_lt_speedOfVelocity {velocity : Fixed} {speed : Int32} (nonneg : zero ≤ velocity)
    (small : velocity.raw ≤ 48000000000000) (faster : speed < speedOfVelocity velocity) :
    (velocityOfSpeed speed).raw + 11378 ≤ velocity.raw := by
  have raw_nonneg := nonneg_iff.mp nonneg
  rw [Int32.lt_iff_toInt_lt, toInt_speedOfVelocity nonneg small] at faster
  rw [raw_velocityOfSpeed]
  omega

end Units

/-- A call that leaves the yards as they are has covered nothing. -/
theorem covered_standing_le (yards : Int64) {steps : Int} (steps_nonneg : 0 ≤ steps) :
    (yards - yards).toInt ≤ 4096 * steps + 1 := by
  rw [Int64.sub_self]
  change (0 : Int) ≤ _
  omega

/-- A speed limit below a standstill counts as a standstill. -/
theorem Profile.capped_of_limited (profile : Profile)
    (limited : Units.velocityOfKmh profile.speedLimit ≤ brakeCap) :
    Units.velocityOfKmh (max profile.speedLimit 0) ≤ brakeCap := by
  rcases le_total 0 profile.speedLimit.toInt with nonneg | negative
  · rw [max_zero_of_nonneg nonneg]
    exact limited
  · have standing : max profile.speedLimit 0 = 0 := by
      apply Int32.toInt_inj.mp
      rw [toInt_max32]
      exact max_eq_right negative
    rw [standing]
    decide

/-- Something whose ways drag no more than water does. -/
class WaySource (σ : Type) [Source σ] : Prop where
  /-- Drag is at most 25 kg/m. -/
  drag_le : ∀ source : σ, (Source.adverseSummary source).drag.raw ≤ 26214400

namespace Consist

theorem drag_le (consist : Consist) : consist.adverse.drag.raw ≤ 26214400 := by
  unfold adverse
  split
  · decide
  · exact Way.drag_le _

instance : WaySource Consist where
  drag_le := drag_le

end Consist

namespace LiveConvoy

theorem drag_foldl_le (cars : List LiveCar) {summary : AdverseSummary}
    (le : summary.drag.raw ≤ 26214400) :
    (cars.foldl (fun summary car => summary.add car.context car.vehicle.electric)
      summary).drag.raw ≤ 26214400 := by
  induction cars generalizing summary with
  | nil => exact le
  | cons car cars ih =>
    apply ih
    change (max summary.drag car.context.way.resistance.drag).raw ≤ _
    rw [raw_max]
    exact max_le le car.context.way.drag_le

instance : WaySource LiveConvoy where
  drag_le convoy := drag_foldl_le convoy.cars (by decide)

end LiveConvoy

/-- The brakes of a profile with a weight. -/
def Profile.brakesWith (profile : Profile) (weight : WeightSummary) : Brakes where
  force := profile.brakingForce 0
  drag := profile.adverse.drag
  resistance := profile.resistance weight
  weight := weight.weight

section Sources

variable {σ : Type} [Source σ] [VehicleSource σ]

/-- Vehicles brake with the same force at every speed. -/
theorem VehicleSource.brakesBy (source : σ) (weight : WeightSummary) :
    (Profile.ofSource source).BrakesBy weight ((Profile.ofSource source).brakesWith weight) where
  force_eq speed := by
    change thousand ((Source.curves source).brake speed) = thousand ((Source.curves source).brake 0)
    rw [VehicleSource.curves_eq]
    rfl
  drag_eq := rfl
  resistance_eq := rfl
  weight_eq := rfl

theorem WaySource.proper [WaySource σ] (source : σ) {weight : WeightSummary}
    (weight_pos : 0 < weight.weight) : ((Profile.ofSource source).brakesWith weight).Proper where
  force_nonneg := by
    change zero ≤ thousand ((Source.curves source).brake 0)
    rw [VehicleSource.curves_eq, nonneg_iff, raw_thousand]
    have := Curves.totalBrake_nonneg (VehicleSource.vehicles source)
    change 0 ≤ (Curves.totalBrake (VehicleSource.vehicles source)).toInt * _
    omega
  force_le := by
    change (thousand _).raw ≤ _
    rw [raw_thousand]
    have := ((Profile.ofSource source).curves.brake 0).toInt_lt
    omega
  drag_nonneg := VehicleSource.drag_nonneg source
  drag_le := WaySource.drag_le source
  weight_ge := Int32.lt_iff_toInt_lt.mp weight_pos

end Sources

namespace Profile

variable {profile : Profile} {weight : WeightSummary} {velocity : Fixed}

theorem throughBin_of_endless {resistance mass top below : Fixed} {bin : Nat}
    (endless : bin = 0 ∧ profile.binForce resistance 0 ≤ zero ∨ below = .greatest) :
    profile.throughBin resistance mass bin top below = .greatest := by
  unfold throughBin
  split
  · rfl
  · next finite =>
    obtain ⟨rfl, no_force⟩ := endless.resolve_right finite
    simp only
    rw [if_neg (mt isPositive_iff.mp (not_lt.mpr no_force))]

/-- Without a force at a standstill there is no way to stop. -/
theorem brakingDistance_of_endless
    (endless : profile.binForce (profile.resistance weight) 0 ≤ zero)
    (weight_pos : 0 < weight.weight) (moving : zero < velocity) :
    profile.brakingDistance weight velocity = .greatest := by
  have stopping_eq : ∀ bin, profile.stoppingDistance (profile.resistance weight)
      (.ofInt weight.weight.toInt) (bin + 1) = .greatest := by
    intro bin
    induction bin with
    | zero => exact throughBin_of_endless (.inl ⟨rfl, endless⟩)
    | succ bin ih => exact throughBin_of_endless (.inr ih)
  have moving_eq : velocity.isPositive = true := isPositive_iff.mpr moving
  have top_pos : zero < min velocity brakeCap := lt_min moving (by decide)
  unfold brakingDistance brakingDistanceBy
  simp only [moving_eq, weight_pos, decide_true, Bool.and_self, if_true]
  rcases Nat.eq_zero_or_pos (binOf (min velocity brakeCap)) with lowest | above
  · have inside : ¬ min velocity brakeCap = binFloor (binOf (min velocity brakeCap)) := by
      rw [lowest]
      exact top_pos.ne'
    rw [if_neg inside]
    exact throughBin_of_endless (.inl ⟨lowest, endless⟩)
  · obtain ⟨bin, bin_eq⟩ := Nat.exists_eq_succ_of_ne_zero above.ne'
    rw [bin_eq, Nat.succ_eq_add_one, stopping_eq]
    split
    · rfl
    · exact throughBin_of_endless (.inr rfl)

end Profile

namespace Drive

variable {drive : Drive} {head : Head} {seconds : Fixed}

/-- A convoy that cannot stop does not get faster than the limit ahead. -/
theorem Sound.sliceOf_le_limit (sound : drive.Sound)
    (endless : ∀ velocity, zero < velocity → drive.brake velocity = .greatest)
    (nonneg : zero ≤ head.velocity) (le : head.velocity ≤ drive.limit.velocity)
    (seconds_nonneg : zero ≤ seconds) :
    (drive.sliceOf head seconds).velocity ≤ drive.limit.velocity := by
  have of_fits : ∀ next, drive.limit.fits drive.brake head seconds next = true →
      next ≤ drive.limit.velocity := by
    intro next fits
    by_contra above
    rw [not_le] at above
    have faster : ¬ max head.velocity next ≤ drive.limit.velocity :=
      not_le.mpr (lt_max_of_lt_right above)
    rw [LimitAhead.fits, if_neg faster] at fits
    simp [max_eq_left (le_of_lt above), endless next (sound.limit_nonneg.trans_lt above)] at fits
  unfold sliceOf
  simp only [not_lt.mpr le, decide_false, Bool.and_false, Bool.false_and, Bool.false_eq_true,
    if_false]
  split
  · next allowed =>
    rw [Bool.or_eq_true] at allowed
    rcases allowed with past | fits
    · have target_le : drive.target head ≤ drive.limit.velocity := by
        rw [target, past, Bool.true_or, if_pos rfl]
        exact min_le_right _ _
      rcases sound.candidate_le_or_sustained nonneg seconds_nonneg with falls | ⟨-, rises⟩
      · exact falls.trans le
      · exact rises.trans target_le
    · exact of_fits _ fits
  · rcases LimitAhead.fastestFit_cases drive.limit drive.brake head seconds head.velocity
      (drive.candidate head seconds) with lowest | fits
    · exact (le_of_eq lowest).trans le
    · exact of_fits _ fits

theorem Sound.run_le_limit (sound : drive.Sound) (head : Head)
    (endless : ∀ velocity, zero < velocity → drive.brake velocity = .greatest)
    (nonneg : zero ≤ head.velocity) (le : head.velocity ≤ drive.limit.velocity)
    (lengths : List Nat) :
    (drive.run head lengths).velocity ≤ drive.limit.velocity := by
  have kept := drive.run_preserves
    (fun reached => zero ≤ reached.velocity ∧ reached.velocity ≤ drive.limit.velocity)
    (fun reached ticks before =>
      ⟨(sound.slice_bounds before.1 ticks).2.1, sound.sliceOf_le_limit endless before.1 before.2
        (Units.secondsOfTicks_nonneg sound.mapScale_nonneg ticks)⟩)
    head lengths ⟨nonneg, le⟩
  exact kept.2

end Drive

namespace Profile

variable {profile : Profile} {weight : WeightSummary} {brakes : Brakes} {request : MoveRequest}
  {state : MotionState}

/-- The grid of the numbers is fine enough for a weight that brakes down to the limit of a
request. -/
structure Resolves (profile : Profile) (weight : WeightSummary) (request : MoveRequest) :
    Prop where
  /-- At a standstill brakes and resistance slow the weight down by 0.005 m/s² at least. -/
  standing_ge : (ratio 5 1000).raw * weight.weight.toInt ≤
    (profile.binForce (profile.resistance weight) 0).raw
  /-- Where the bins end, brakes, drag and resistance slow it down by 105 000 m/s² at most. -/
  top_le : (profile.binForce (profile.resistance weight) brakeBins).raw ≤
    (Fixed.ofInt 105000).raw * weight.weight.toInt
  /-- The braking distance from the limit ends within the range, unless the point of the limit is
  where the range ends. -/
  within_range :
    Units.metresOfSteps request.mapScale (.ofInt request.stepsToLimit.toInt) +
        profile.brakingDistance weight (Units.velocityOfSpeed request.limit) ≠ .greatest ∨
      Units.metresOfSteps request.mapScale (.ofInt request.stepsToLimit.toInt) = .greatest

/-- The convoy is no faster than the limit of a request, or in time for the braking distance. -/
def Feasible (profile : Profile) (weight : WeightSummary) (request : MoveRequest)
    (velocity : Fixed) : Prop :=
  velocity ≤ Units.velocityOfSpeed request.limit ∨
    profile.brakingDistance weight velocity ≠ .greatest ∧
      profile.brakingDistance weight velocity ≤
        Units.metresOfSteps request.mapScale (.ofInt request.stepsToLimit.toInt) +
          profile.brakingDistance weight (Units.velocityOfSpeed request.limit)

instance (profile : Profile) (weight : WeightSummary) (request : MoveRequest) (velocity : Fixed) :
    Decidable (profile.Feasible weight request velocity) :=
  inferInstanceAs (Decidable (_ ∨ _))

theorem Resolves.able (resolves : profile.Resolves weight request)
    (braked : profile.BrakesBy weight brakes) (proper : brakes.Proper) : brakes.Able where
  toProper := proper
  standing_ge := by
    have standing_ge := resolves.standing_ge
    rw [braked.binForce_eq, braked.weight_eq] at standing_ge
    exact standing_ge
  top_le := by
    have top_le := resolves.top_le
    rw [braked.binForce_eq, braked.weight_eq] at top_le
    exact top_le

theorem velocity_limit (profile : Profile) (weight : WeightSummary)
    (limit_nonneg : 0 ≤ request.limit.toInt) :
    (profile.drive weight request).limit.velocity = Units.velocityOfSpeed request.limit := by
  change Units.velocityOfSpeed (max request.limit 0) = _
  rw [max_zero_of_nonneg limit_nonneg]

/-- The velocity of a limit is zero, or at least that of one unit of speed. -/
theorem limit_velocity_whole {speed : Int32} (nonneg : 0 ≤ speed.toInt) :
    Units.velocityOfSpeed speed = zero ∨ 22755 ≤ (Units.velocityOfSpeed speed).raw := by
  have raw_eq := Units.raw_velocityOfSpeed speed
  rcases nonneg.eq_or_lt with standing | moving
  · left
    rw [← standing] at raw_eq
    exact ext_raw raw_eq
  · right
    omega

/-- The drive of a request towards a limit that the bins cover. -/
theorem drive_stoppable (able : brakes.Able) (braked : profile.BrakesBy weight brakes)
    (scale_nonneg : zero ≤ request.mapScale) (limit_nonneg : 0 ≤ request.limit.toInt)
    (limit_le : request.limit.toInt ≤ 94371)
    (limited : Units.velocityOfKmh (max profile.speedLimit 0) ≤ brakeCap)
    (finite : Units.metresOfSteps request.mapScale (.ofInt request.stepsToLimit.toInt) +
      profile.brakingDistance weight (Units.velocityOfSpeed request.limit) ≠ .greatest) :
    (profile.drive weight request).Stoppable brakes := by
  have sound := profile.drive_sound scale_nonneg (braked.weight_pos able.toProper)
  have velocity_eq := velocity_limit profile weight limit_nonneg
  have covered : (profile.drive weight request).limit.velocity.raw ≤ 2147483648 := by
    rw [velocity_eq, Units.raw_velocityOfSpeed]
    omega
  have distance_eq := able.brakingDistance_eq braked sound.limit_nonneg covered
  refine
    { sound
      able
      retardation_eq := fun velocity => ?_
      mass_eq := by rw [← braked.weight_eq]; rfl
      brake_eq := fun velocity nonneg covered => able.brakingDistance_eq braked nonneg covered
      distance_eq
      limit_covered := covered
      wanted_covered := le_def.mp ((min_le_right _ _).trans limited)
      room_lt := ?_ }
  · change profile.brakingForce (speedIndex velocity) + profile.drag velocity +
      profile.resistance weight = _
    rw [braked.force_eq, Profile.drag, braked.drag_eq, braked.resistance_eq]
    rfl
  · have distance_nonneg := (able.distance_bounds sound.limit_nonneg covered).1
    have place_fits :=
      (Units.metresOfSteps request.mapScale (.ofInt request.stepsToLimit.toInt)).fits
    rw [← velocity_eq, distance_eq] at finite
    have raw_ne := mt ext_raw finite
    rw [raw_add, raw_greatest] at raw_ne
    change (Units.metresOfSteps request.mapScale (.ofInt request.stepsToLimit.toInt)).raw + _ < _
    simp only [Fixed.limit] at *
    omega

/-- What is feasible at the start of a call is kept to there. -/
theorem keepsTo_of_feasible {drive : Drive} (stoppable : drive.Stoppable brakes)
    (covered : state.velocity.raw ≤ 2147483648)
    (feasible : state.velocity ≤ drive.limit.velocity ∨ brakes.distance state.velocity ≤
      drive.limit.place + brakes.distance drive.limit.velocity) :
    drive.KeepsTo brakes 0 (startHead state) := by
  rcases feasible with slow | room
  · refine .slow ?_
    rw [le_def] at slow
    change state.velocity.raw < _
    omega
  · have distance_nonneg := (stoppable.able.distance_bounds state.velocity_nonneg covered).1
    have room_lt := stoppable.room_lt
    rw [le_def, raw_add] at room
    refine .fitting ?_
    change (0 : Int) + (brakes.distance state.velocity).raw ≤ _
    simp only [Fixed.limit] at room room_lt
    omega

/-- A call with able brakes that ends faster than the limit has not gone past its point. -/
theorem place_le_of_stoppable (braked : profile.BrakesBy weight brakes)
    (stoppable : (profile.drive weight request).Stoppable brakes)
    (scale_ge : 1049 ≤ request.mapScale.raw) (covered : state.velocity.raw ≤ 2147483648)
    (limit_nonneg : 0 ≤ request.limit.toInt)
    (feasible : profile.Feasible weight request state.velocity)
    (faster : (Units.velocityOfSpeed request.limit).raw + 11378 ≤
      ((profile.drive weight request).run (startHead state) (requestSlices request)).velocity.raw) :
    ((profile.drive weight request).run (startHead state) (requestSlices request)).place ≤
      Units.metresOfSteps request.mapScale (.ofInt request.stepsToLimit.toInt) := by
  have velocity_eq := velocity_limit profile weight limit_nonneg
  have whole := limit_velocity_whole limit_nonneg
  have ahead : (startHead state).Ahead := ⟨le_rfl, state.velocity_nonneg, covered⟩
  rw [← velocity_eq] at faster whole
  refine stoppable.run_place_le scale_ge ahead ?_ whole (min_le_right _ _) faster
  apply keepsTo_of_feasible stoppable covered
  rcases feasible with slow | ⟨-, room⟩
  · left
    rw [velocity_eq]
    exact slow
  · right
    rw [← velocity_eq, stoppable.able.brakingDistance_eq braked state.velocity_nonneg covered,
      stoppable.able.brakingDistance_eq braked stoppable.sound.limit_nonneg
        stoppable.limit_covered] at room
    exact room

/-- A call without a force to stop the convoy ends no faster than the limit, if it is feasible. -/
theorem run_le_of_endless (endless : profile.binForce (profile.resistance weight) 0 ≤ zero)
    (weight_pos : 0 < weight.weight) (scale_nonneg : zero ≤ request.mapScale)
    (limit_nonneg : 0 ≤ request.limit.toInt)
    (feasible : profile.Feasible weight request state.velocity) :
    ((profile.drive weight request).run (startHead state) (requestSlices request)).velocity ≤
      Units.velocityOfSpeed request.limit := by
  have no_distance : ∀ velocity, zero < velocity →
      profile.brakingDistance weight velocity = .greatest :=
    fun _ => brakingDistance_of_endless endless weight_pos
  have slow : state.velocity ≤ Units.velocityOfSpeed request.limit := by
    rcases feasible with slow | ⟨finite, -⟩
    · exact slow
    · exact (not_lt.mp (mt (no_distance state.velocity) finite)).trans
        (Units.velocityOfSpeed_nonneg limit_nonneg)
  rw [← velocity_limit profile weight limit_nonneg] at slow ⊢
  exact (profile.drive_sound scale_nonneg weight_pos).run_le_limit (startHead state) no_distance
    state.velocity_nonneg slow (requestSlices request)

/-- A running call that ends faster than the limit has not gone past its point. -/
theorem place_le_of_faster (braked : profile.BrakesBy weight brakes) (proper : brakes.Proper)
    (scale_ge : 1049 ≤ request.mapScale.raw)
    (limited : Units.velocityOfKmh (max profile.speedLimit 0) ≤ brakeCap)
    (covered : state.velocity ≤ brakeCap) (limit_nonneg : 0 ≤ request.limit.toInt)
    (feasible : profile.Feasible weight request state.velocity)
    (resolved : profile.binForce (profile.resistance weight) 0 ≤ zero ∨
      profile.Resolves weight request) :
    let ends := (profile.drive weight request).run (startHead state) (requestSlices request)
    zero ≤ ends.place ∧ (request.limit < Units.speedOfVelocity ends.velocity →
      ends.place ≤ Units.metresOfSteps request.mapScale (.ofInt request.stepsToLimit.toInt)) := by
  intro ends
  have cap_raw : brakeCap.raw = 2147483648 := by decide
  have weight_pos := braked.weight_pos proper
  have scale_nonneg : zero ≤ request.mapScale := by rw [nonneg_iff]; omega
  have bounds := (profile.drive_sound scale_nonneg weight_pos).run_bounds (startHead state)
    state.velocity_nonneg covered ((min_le_right _ _).trans limited) (requestSlices request)
  have ends_covered := le_def.mp bounds.2.2
  refine ⟨bounds.1, fun faster => ?_⟩
  have faster := Units.raw_ge_of_lt_speedOfVelocity bounds.2.1 (by omega) faster
  rcases resolved with endless | resolves
  · have kept := le_def.mp
      (run_le_of_endless endless weight_pos scale_nonneg limit_nonneg feasible)
    omega
  · rcases resolves.within_range with finite | endless
    · have limit_le : request.limit.toInt ≤ 94371 := by
        rw [Units.raw_velocityOfSpeed] at faster
        omega
      have stoppable := drive_stoppable (resolves.able braked proper) braked scale_nonneg
        limit_nonneg limit_le limited finite
      exact place_le_of_stoppable braked stoppable scale_ge
        (by rw [← cap_raw]; exact covered) limit_nonneg feasible faster
    · rw [endless]
      exact le_greatest _

end Profile

namespace Memo

variable {σ : Type}

end Memo

end Haulage
