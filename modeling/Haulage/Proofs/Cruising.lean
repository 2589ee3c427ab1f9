import Haulage.Proofs.Rounding
import Haulage.Proofs.Whereabouts

/-!
# Cruising

With no limit ahead below the velocity wanted a convoy only speeds up to that velocity or holds it.
A velocity that traction sustains is held exactly, so the convoy covers the same distance in every
slice.  Time and distance are both scaled with the map, and what the scaling rounds away is all that
makes the travel of a tick depend on the map.
-/

namespace Haulage

open Fixed

namespace Profile

variable {profile : Profile} {velocity resistance : Fixed}

theorem Regular.raw_traction_bounds (regular : profile.Regular) (velocity : Fixed) :
    -2251799813685248000 ≤ (profile.traction velocity).raw ∧
      (profile.traction velocity).raw ≤ 2251799813685248000 := by
  have low := (profile.curves.force (speedIndex velocity)).le_toInt
  have high := (profile.curves.force (speedIndex velocity)).toInt_lt
  rw [regular.traction_eq, raw_thousand]
  omega

/-- Where traction covers drag and resistance, their sum is not clamped. -/
theorem Regular.raw_demand (regular : profile.Regular) (nonneg : zero ≤ velocity)
    (low : -limit ≤ resistance.raw) (sustained : profile.sustains resistance velocity = true) :
    (profile.drag velocity + resistance).raw = (profile.drag velocity).raw + resistance.raw ∧
      (profile.drag velocity).raw + resistance.raw ≤ (profile.traction velocity).raw := by
  have traction_le := (regular.raw_traction_bounds velocity).2
  have drag_nonneg := regular.drag_velocity_nonneg nonneg
  rw [sustains, decide_eq_true_eq, le_def] at sustained
  rw [nonneg_iff] at drag_nonneg
  rw [raw_add] at sustained ⊢
  simp only [limit] at *
  omega

/-- Where traction covers drag and resistance it leaves something or nothing. -/
theorem Regular.surplus_nonneg (regular : profile.Regular) (nonneg : zero ≤ velocity)
    (low : -limit ≤ resistance.raw) (sustained : profile.sustains resistance velocity = true) :
    zero ≤ profile.traction velocity - profile.drag velocity - resistance := by
  have covered := (regular.raw_demand nonneg low sustained).2
  have high := resistance.raw_le_limit
  rw [nonneg_iff, raw_sub, raw_sub]
  simp only [limit] at *
  omega

/-- Where traction covers drag and resistance, the part of it that is used holds the velocity. -/
theorem Regular.holding_balance (regular : profile.Regular) (nonneg : zero ≤ velocity)
    (low : -limit ≤ resistance.raw) (sustained : profile.sustains resistance velocity = true) :
    profile.holdingForce velocity resistance - profile.drag velocity - resistance = zero := by
  have demand_eq := (regular.raw_demand nonneg low sustained).1
  have high := resistance.raw_le_limit
  rw [sustains, decide_eq_true_eq] at sustained
  rw [holdingForce, min_eq_right sustained]
  apply ext_raw
  rw [raw_sub, raw_sub, demand_eq, raw_zero]
  simp only [limit] at *
  omega

end Profile

namespace Drive

variable {drive : Drive} {head : Head} {seconds : Fixed}

/-- No limit ahead is below the velocity wanted. -/
def Free (drive : Drive) : Prop := drive.wanted ≤ drive.limit.velocity

theorem Free.target_eq (free : drive.Free) (head : Head) : drive.target head = drive.wanted := by
  unfold target
  split
  · exact min_eq_left free
  · rfl

/-- A slice with nothing ahead ends with the velocity that the forces give. -/
theorem Free.sliceOf_eq (free : drive.Free) (sound : drive.Sound)
    (velocity_nonneg : zero ≤ head.velocity) (velocity_le : head.velocity ≤ drive.wanted)
    (seconds_nonneg : zero ≤ seconds) :
    drive.sliceOf head seconds =
      ⟨head.place + metresBetween head.velocity (drive.candidate head seconds) seconds,
        drive.candidate head seconds⟩ := by
  have candidate_le : drive.candidate head seconds ≤ drive.wanted :=
    (sound.candidate_le velocity_nonneg seconds_nonneg).trans (max_le velocity_le le_rfl)
  have fits : drive.limit.fits drive.brake head seconds (drive.candidate head seconds) = true :=
    if_pos (max_le (velocity_le.trans free) (candidate_le.trans free))
  have not_above : ¬ drive.limit.velocity < head.velocity := not_lt.mpr (velocity_le.trans free)
  unfold sliceOf
  simp only [fits, not_above, decide_false, Bool.and_false, Bool.false_and, Bool.or_true, if_true,
    Bool.false_eq_true, if_false]

theorem pushed_zero (drive : Drive) (nonneg : zero ≤ head.velocity) (mass_pos : zero < drive.mass)
    (seconds : Fixed) : drive.pushed head.velocity zero seconds = head.velocity := by
  rw [pushed, Fixed.zero_div mass_pos, Fixed.zero_mul, add_zero_of_nonneg nonneg]

/-- The wanted velocity is held if traction sustains it. -/
theorem Free.candidate_of_holding (free : drive.Free) (sound : drive.Sound)
    (regular : drive.profile.Regular) (low : -Fixed.limit ≤ drive.resistance.raw)
    (reached : head.velocity = drive.wanted)
    (sustained : drive.profile.sustains drive.resistance head.velocity = true) (seconds : Fixed) :
    drive.candidate head seconds = head.velocity := by
  have nonneg : zero ≤ head.velocity := reached ▸ sound.wanted_nonneg
  have balance := regular.holding_balance nonneg low sustained
  unfold candidate
  simp only [free.target_eq, ← reached, lt_irrefl, if_false, balance]
  rw [pushed_zero drive nonneg sound.mass_pos]
  exact clamp_of_between nonneg le_rfl

/-- The wanted velocity is held in every slice. -/
theorem Free.sliceOf_of_holding (free : drive.Free) (sound : drive.Sound)
    (regular : drive.profile.Regular) (low : -Fixed.limit ≤ drive.resistance.raw)
    (reached : head.velocity = drive.wanted)
    (sustained : drive.profile.sustains drive.resistance head.velocity = true)
    (seconds_nonneg : zero ≤ seconds) :
    drive.sliceOf head seconds =
      ⟨head.place + metresBetween head.velocity head.velocity seconds, head.velocity⟩ := by
  have nonneg : zero ≤ head.velocity := reached ▸ sound.wanted_nonneg
  rw [free.sliceOf_eq sound nonneg reached.le seconds_nonneg,
    free.candidate_of_holding sound regular low reached sustained]

end Drive

theorem raw_metresBetween_self {velocity seconds : Fixed} (nonneg : zero ≤ velocity)
    (seconds_nonneg : zero ≤ seconds) (small : velocity.raw ≤ 87381333333)
    (short : seconds.raw ≤ 2251799813686) :
    (metresBetween velocity velocity seconds).raw =
      (velocity.raw * seconds.raw + 524288) / 1048576 := by
  rw [nonneg_iff] at nonneg seconds_nonneg
  have mean_eq : ((velocity + velocity).divInt 2).raw = velocity.raw := by
    rw [raw_midpoint, raw_add]
    simp only [limit]
    omega
  have product_nonneg := Int.mul_nonneg nonneg seconds_nonneg
  have product_le := Int.mul_le_mul small short seconds_nonneg (by decide)
  rw [metresBetween, raw_mul, mean_eq]
  simp only [halfScale, scale, limit]
  omega

/-- The yards of a distance on a map, but for what is rounded. -/
theorem Units.yardsOnMap_near {mapScale metres : Fixed} (scale_pos : zero < mapScale)
    (ahead : zero ≤ metres) (near : metres.raw * 1048576 ≤ 1000000000000 * mapScale.raw) :
    838860800 * (mapScale.raw * yardsOnMap mapScale metres) ≤
        2473901162496 * metres.raw + 420610448 * mapScale.raw ∧
      2473901162496 * metres.raw ≤
        838860800 * (mapScale.raw * yardsOnMap mapScale metres) + 420610448 * mapScale.raw := by
  have quotient_le := two_mul_raw_div_mul_le ahead scale_pos
  obtain ⟨yards_le, le_yards⟩ := yardsOnMap_near_quotient scale_pos ahead
  have count_le : (metres / mapScale).raw ≤ 1000000000001 := by
    rw [pos_iff] at scale_pos
    by_contra above
    have many : 1000000000002 * mapScale.raw ≤ (metres / mapScale).raw * mapScale.raw :=
      Int.mul_le_mul_of_nonneg_right (by omega) scale_pos.le
    omega
  have quotient_lt : (metres / mapScale).raw < limit := by
    simp only [limit]
    omega
  have le_quotient := lt_of_raw_div_lt ahead scale_pos quotient_lt
  have fits : YardsFit mapScale metres := by
    simp only [YardsFit, yardDenominator, limit]
    omega
  -- Whole yards of the rounded quotient, both times the map scale.
  have scaled_le := Int.mul_le_mul_of_nonneg_left yards_le scale_pos.le
  have le_scaled := Int.mul_le_mul_of_nonneg_left (le_yards fits) scale_pos.le
  constructor <;> linarith

theorem World.raw_mapScale (world : World) :
    world.mapScale.raw = (2 * (world.tileMetres.toNat * 1048576) + 1000) / 2000 := by
  have tile_lt := world.tileMetres.toNat_lt
  have reference_eq : (World.referenceTileMetres.toNat : Int) = 1000 := rfl
  rw [World.mapScale, ratio, reference_eq, quotient_of_pos (by decide),
    roundQuotient_of_pos (by decide), raw_saturate]
  simp only [scale, limit]
  omega

/-- Metres that a convoy covers in a full slice at a steady speed. -/
def Units.stride (mapScale : Fixed) (speed : Int32) : Fixed :=
  metresBetween (velocityOfSpeed speed) (velocityOfSpeed speed) (secondsOfTicks mapScale 32)

/-- A slice of 32 engine ticks lasts half the map scale, rounded up. -/
theorem Units.raw_secondsOfTicks_slice {mapScale : Fixed} (nonneg : zero ≤ mapScale)
    (small : mapScale.raw ≤ 4503599627370) :
    (secondsOfTicks mapScale 32).raw = (mapScale.raw + mapScale.raw % 2) / 2 := by
  rw [nonneg_iff] at nonneg
  have product_eq : (mapScale.mulInt 32).raw = mapScale.raw * 32 := by
    apply raw_saturate_of_fits <;> simp only [limit] <;> omega
  rw [secondsOfTicks, divInt, product_eq, quotient_of_pos (by decide),
    roundQuotient_of_pos (by decide), raw_saturate]
  simp only [limit, ticksPerSecond]
  omega

namespace Profile

variable {profile : Profile} {weight : WeightSummary} {mapScale : Fixed} {speed target : Int32}

theorem drive_free (profile : Profile) (weight : WeightSummary) (ticks : Int64) (mapScale : Fixed)
    (target : Int32) : (profile.drive weight (.cruise ticks mapScale target)).Free :=
  min_le_left _ _

/-- A cruise is a run from where it starts, and its length decides about the slices only. -/
theorem move_cruise {ticks : Int64} (positive : 0 < ticks.toInt) (short : ticks.toInt ≤ 65536)
    (weight_pos : 0 < weight.weight) (other : Int64) (state : MotionState) :
    profile.move (.cruise ticks mapScale target) weight state =
      settleState state mapScale
        ((profile.drive weight (.cruise other mapScale target)).run ⟨zero, state.velocity⟩
          (slices ticks.toInt.toNat)) := by
  have within : min ticks.toInt.toNat mostTicks = ticks.toInt.toNat := by
    apply min_eq_left
    rw [mostTicks]
    omega
  have slices_eq : requestSlices (.cruise ticks mapScale target) = slices ticks.toInt.toNat :=
    congrArg slices within
  have running : 0 < ticks := Int64.lt_iff_toInt_lt.mpr positive
  rw [move_of_running state running weight_pos, slices_eq]
  rfl

theorem velocity_atSpeed (speed_nonneg : 0 ≤ speed.toInt) :
    (MotionState.atSpeed speed).velocity = Units.velocityOfSpeed speed := by
  have velocity_nonneg := Units.velocityOfSpeed_nonneg speed_nonneg
  change max (Units.velocityOfSpeed (max speed 0) + zero) zero = _
  rw [max_zero_of_nonneg speed_nonneg, add_zero_of_nonneg velocity_nonneg,
    max_eq_left velocity_nonneg]

/-- A convoy that cruises at a speed that traction sustains covers the same distance in both slices
of a tick. -/
theorem Regular.move_of_holding (regular : profile.Regular) (weight_pos : 0 < weight.weight)
    (scale_nonneg : zero ≤ mapScale) (speed_pos : 0 < speed)
    (sustained : profile.sustains (profile.resistance weight) (Units.velocityOfSpeed speed) = true)
    (allowed : Units.velocityOfSpeed speed ≤ Units.velocityOfKmh profile.speedLimit) :
    profile.move (.cruise 64 mapScale speed) weight (.atSpeed speed) =
      settleState (.atSpeed speed) mapScale
        ⟨Units.stride mapScale speed + Units.stride mapScale speed,
          Units.velocityOfSpeed speed⟩ := by
  set velocity := Units.velocityOfSpeed speed
  set stride := Units.stride mapScale speed
  have speed_nonneg : 0 ≤ speed.toInt := (Int32.lt_iff_toInt_lt.mp speed_pos).le
  have velocity_nonneg : zero ≤ velocity := Units.velocityOfSpeed_nonneg speed_nonneg
  let drive := profile.drive weight (.cruise 64 mapScale speed)
  have free : drive.Free := profile.drive_free weight 64 mapScale speed
  have sound : drive.Sound := drive_sound scale_nonneg weight_pos
  have seconds_nonneg := Units.secondsOfTicks_nonneg scale_nonneg 32
  have wanted_eq : drive.wanted = velocity := by
    change min (Units.velocityOfSpeed (max speed 0)) (Units.velocityOfKmh _) = velocity
    rw [max_zero_of_nonneg speed_nonneg]
    apply min_eq_left
    apply allowed.trans
    apply Units.velocityOfKmh_mono
    rw [toInt_max32]
    exact le_max_left _ _
  have slice_eq : ∀ place : Fixed, drive.slice ⟨place, velocity⟩ 32 = ⟨place + stride, velocity⟩ :=
    fun place => free.sliceOf_of_holding sound regular (Regular.resistance_ge profile weight)
      wanted_eq.symm sustained seconds_nonneg
  have run_eq : drive.run ⟨zero, velocity⟩ [32, 32] = ⟨stride + stride, velocity⟩ := by
    have first_eq : zero + stride = stride := zero_add_of_nonneg
      (LimitAhead.metresBetween_nonneg velocity_nonneg velocity_nonneg seconds_nonneg)
    rw [Drive.run, List.foldl_cons, List.foldl_cons, List.foldl_nil, slice_eq, slice_eq, first_eq]
  have slices_eq : slices (64 : Int64).toInt.toNat = [32, 32] := by decide
  rw [move_cruise (by decide) (by decide) weight_pos 64, velocity_atSpeed speed_nonneg, slices_eq,
    run_eq]

end Profile

/-- What the roundings of two equal strides add up to, at a speed in simulation units and a map
scale of `quantum` counts. -/
theorem travel_near {speed velocity quantum stride yards : Int} (quantum_pos : 0 < quantum)
    (velocity_eq : velocity = (2 * (speed * 838860800) + 36864) / 73728)
    (stride_eq : stride = (velocity * ((quantum + quantum % 2) / 2) + 524288) / 1048576)
    (yards_le : 838860800 * (quantum * yards) ≤
      2473901162496 * (2 * stride) + 420610448 * quantum)
    (le_yards : 2473901162496 * (2 * stride) ≤
      838860800 * (quantum * yards) + 420610448 * quantum) :
    100 * |quantum * yards - 64 * speed * (quantum + quantum % 2)| ≤ 51 * quantum + 295000 := by
  obtain ⟨double, double_eq⟩ : ∃ double, quantum + quantum % 2 = double := ⟨_, rfl⟩
  have double_bounds : quantum ≤ double ∧ double ≤ quantum + 1 := by omega
  have covered : 2 * (velocity * (double / 2)) = velocity * double := by
    have halves : 2 * (double / 2) = double := by omega
    calc
      2 * (velocity * (double / 2)) = velocity * (2 * (double / 2)) := by ring
      _ = velocity * double := by rw [halves]
  rw [double_eq] at stride_eq ⊢
  have stride_near : 2 * (1048576 * stride) ≤ velocity * double + 1048576 ∧
      velocity * double ≤ 2 * (1048576 * stride) + 1048576 := by
    rw [← covered]
    omega
  have velocity_near : 36864 * velocity ≤ 838860800 * speed + 18432 ∧
      838860800 * speed ≤ 36864 * velocity + 18432 := by omega
  have velocity_le := Int.mul_le_mul_of_nonneg_right velocity_near.1 (by omega : 0 ≤ double)
  have le_velocity := Int.mul_le_mul_of_nonneg_right velocity_near.2 (by omega : 0 ≤ double)
  have above : 100 * (quantum * yards - 64 * speed * double) ≤ 51 * quantum + 295000 := by
    linarith
  have below : 100 * -(quantum * yards - 64 * speed * double) ≤ 51 * quantum + 295000 := by
    linarith
  rcases abs_cases (quantum * yards - 64 * speed * double) with ⟨abs_eq, -⟩ | ⟨abs_eq, -⟩
  · rw [abs_eq]
    exact above
  · rw [abs_eq]
    exact below

/-- Travel is within a yard of 64 times the speed as soon as the map scale is not too coarse for
it. -/
theorem within_yard {speed quantum yards : Int} (speed_pos : 0 < speed) (quantum_pos : 0 < quantum)
    (near : 100 * |quantum * yards - 64 * speed * (quantum + quantum % 2)| ≤
      51 * quantum + 295000)
    (fine : 100 * (64 * speed * (quantum % 2) + 2950) < 149 * quantum) :
    |yards - 64 * speed| ≤ 1 := by
  have rounded_nonneg : 0 ≤ speed * (quantum % 2) :=
    Int.mul_nonneg speed_pos.le (Int.emod_nonneg _ (by decide))
  have above := le_abs_self (quantum * yards - 64 * speed * (quantum + quantum % 2))
  have below := neg_le_abs (quantum * yards - 64 * speed * (quantum + quantum % 2))
  rw [abs_le]
  constructor
  · by_contra short
    have yards_le := Int.mul_le_mul_of_nonneg_left (by omega : yards ≤ 64 * speed - 2)
      quantum_pos.le
    linarith
  · by_contra far
    have le_yards := Int.mul_le_mul_of_nonneg_left (by omega : 64 * speed + 2 ≤ yards)
      quantum_pos.le
    linarith

namespace Units

theorem speedOfVelocity_velocityOfSpeed {speed : Int32} (nonneg : 0 ≤ speed.toInt)
    (small : (velocityOfSpeed speed).raw ≤ 87381333333) :
    speedOfVelocity (velocityOfSpeed speed) = speed := by
  have velocity_eq := raw_velocityOfSpeed speed
  apply Int32.toInt_inj.mp
  rw [toInt_speedOfVelocity (velocityOfSpeed_nonneg nonneg) (by omega)]
  omega

/-- The yards of a tick of two slices at a steady speed. -/
theorem yards_of_tick {mapScale : Fixed} {speed : Int32} (scale_ge : 1049 ≤ mapScale.raw)
    (scale_le : mapScale.raw ≤ 4503599627370) (nonneg : 0 ≤ speed.toInt)
    (small : (velocityOfSpeed speed).raw ≤ 87381333333) :
    100 * |mapScale.raw * yardsOnMap mapScale (stride mapScale speed + stride mapScale speed) -
        64 * speed.toInt * (mapScale.raw + mapScale.raw % 2)| ≤
      51 * mapScale.raw + 295000 := by
  set velocity := velocityOfSpeed speed
  set stride := stride mapScale speed
  have scale_pos : zero < mapScale := by
    rw [pos_iff]
    omega
  have velocity_nonneg : zero ≤ velocity := velocityOfSpeed_nonneg nonneg
  have seconds_nonneg := secondsOfTicks_nonneg scale_pos.le 32
  have seconds_eq : (secondsOfTicks mapScale 32).raw = (mapScale.raw + mapScale.raw % 2) / 2 :=
    raw_secondsOfTicks_slice scale_pos.le scale_le
  have stride_eq : stride.raw = (velocity.raw * (secondsOfTicks mapScale 32).raw + 524288) /
      1048576 := raw_metresBetween_self velocity_nonneg seconds_nonneg small (by omega)
  rw [seconds_eq] at stride_eq
  have product_nonneg : 0 ≤ velocity.raw * ((mapScale.raw + mapScale.raw % 2) / 2) :=
    Int.mul_nonneg velocity_nonneg (by omega)
  have product_le : velocity.raw * ((mapScale.raw + mapScale.raw % 2) / 2) ≤
      87381333333 * ((mapScale.raw + mapScale.raw % 2) / 2) :=
    Int.mul_le_mul_of_nonneg_right small (by omega)
  have double_eq : (stride + stride).raw = 2 * stride.raw := by
    rw [raw_add]
    simp only [limit]
    omega
  have ahead : zero ≤ stride + stride := by
    rw [nonneg_iff, double_eq]
    omega
  have near := yardsOnMap_near scale_pos ahead (by rw [double_eq]; omega)
  rw [double_eq] at near
  exact travel_near (by omega) (raw_velocityOfSpeed speed) stride_eq near.1 near.2

end Units

namespace Memo

variable {σ : Type}

/-- A convoy that cruises for a tick of 64 engine ticks, at a speed that its traction covers and its
limit allows, keeps the speed.  On a map scale of so many counts it covers 64 yards for each unit of
speed, but for what is rounded: a slice lasts half a count longer where the count is odd, and metres
are coarse on a small map.  So the travel is right to within a yard if the count is even, or large
enough for the speed. -/
theorem travel_per_tick [Source σ] [VehicleSource σ] (memo : Memo σ)
    (agrees : memo.cache.Agrees memo.source) {world : World} (validated : world.validate = .ok ())
    (weight : WeightSummary) (weight_pos : 0 < weight.weight) (speed : Int32)
    (speed_pos : 0 < speed)
    (covered : (memo.ask .adverse).1.drag * Units.velocityOfSpeed speed *
        Units.velocityOfSpeed speed + (memo.ask (.resistance weight)).1 ≤
      (memo.ask (.traction (Units.velocityOfSpeed speed))).1)
    (allowed : Units.velocityOfSpeed speed ≤ Units.velocityOfKmh (memo.ask .speedLimit).1) :
    let counts := world.mapScale.raw
    let moved := (memo.ask (.move (.cruise 64 world.mapScale speed) weight (.atSpeed speed))).1
    moved.speed = speed ∧ moved.residue = zero ∧
      100 * |counts * moved.yards.toInt - 64 * speed.toInt * (counts + counts % 2)| ≤
        51 * counts + 295000 ∧
      (counts % 2 = 0 ∨ 100 * (64 * speed.toInt + 2950) < 149 * counts →
        |moved.yards.toInt - 64 * speed.toInt| ≤ 1) := by
  intro counts moved
  have regular := VehicleSource.regular memo.source
  simp only [ask_answer agrees] at covered allowed
  have speed_toInt : 0 < speed.toInt := Int32.lt_iff_toInt_lt.mp speed_pos
  have counts_ge : 1049 ≤ counts := World.mapScale_ge validated
  have counts_eq : counts = (2 * (world.tileMetres.toNat * 1048576) + 1000) / 2000 :=
    world.raw_mapScale
  have tile_lt := world.tileMetres.toNat_lt
  have scale_pos := World.mapScale_pos validated
  have small : (Units.velocityOfSpeed speed).raw ≤ 87381333333 :=
    allowed.trans (Units.velocityOfKmh_mono (Int32.le_iff_toInt_le.mp regular.speedLimit_le))
  have held := regular.move_of_holding weight_pos scale_pos.le speed_pos
    (decide_eq_true covered) allowed
  have moved_eq : moved = _ := (ask_answer agrees _).trans held
  have velocity_nonneg := Units.velocityOfSpeed_nonneg speed_toInt.le
  have seconds_nonneg := Units.secondsOfTicks_nonneg scale_pos.le 32
  have speed_kept : Units.speedOfVelocity (Units.velocityOfSpeed speed) = speed :=
    Units.speedOfVelocity_velocityOfSpeed speed_toInt.le small
  have residue_eq : moved.residue = zero := by
    rw [moved_eq]
    change Units.velocityOfSpeed speed -
      Units.velocityOfSpeed (Units.speedOfVelocity (Units.velocityOfSpeed speed)) = zero
    rw [speed_kept, Fixed.sub_self]
  have yards_eq : moved.yards.toInt = Units.yardsOnMap world.mapScale
      (Units.stride world.mapScale speed + Units.stride world.mapScale speed) := by
    have stride_nonneg : zero ≤ Units.stride world.mapScale speed :=
      LimitAhead.metresBetween_nonneg velocity_nonneg velocity_nonneg seconds_nonneg
    have bounds := Units.yardsOnMap_bounds scale_pos (add_nonneg stride_nonneg stride_nonneg)
    have start_eq : (MotionState.atSpeed speed).yards.toInt = 0 := rfl
    rw [moved_eq]
    simp only [Profile.settleState, start_eq]
    rw [Int.zero_add, toInt_ofInt64 (by omega) (by omega)]
  have near := Units.yards_of_tick counts_ge (by omega) speed_toInt.le small
  rw [← yards_eq] at near
  refine ⟨?_, residue_eq, near, fun fine => ?_⟩
  · rw [moved_eq]
    exact speed_kept
  · apply within_yard speed_toInt (by omega) near
    rcases fine with even | fine
    · rw [even]
      -- The one map scale that is coarser is 1049.
      rcases Nat.lt_or_ge world.tileMetres.toNat 2 with metre | longer
      · omega
      · omega
    · have once : speed.toInt * (counts % 2) ≤ speed.toInt * 1 :=
        Int.mul_le_mul_of_nonneg_left (by omega) speed_toInt.le
      linarith

/-- A railcar that holds its top speed. -/
def fastRailcar : Vehicle :=
  { name := "Railcar", way := .track, tonnes := 20, topKmh := 120, powerKw := 500, effortKn := 40 }

/-- A railcar at 100 km/h, on tiles of the usual length. -/
theorem railcar_travel_per_tick :
    let memo : Memo Consist := ⟨⟨[fastRailcar], {}⟩, .empty⟩
    let world : World := {}
    |((memo.ask (.move (.cruise 64 world.mapScale 1280) (.single 20000 0)
      (.atSpeed 1280))).1.yards.toInt - 64 * 1280 : Int)| ≤ 1 := by
  intro memo world
  have travel := memo.travel_per_tick (Cache.agrees_empty _) (by decide : world.validate = .ok ())
    (.single 20000 0) (by decide) 1280 (by decide) (by decide +kernel) (by decide +kernel)
  exact travel.2.2.2 (.inl (by decide))

/-- On tiles of one metre the same railcar covers 76 yards too many. -/
theorem railcar_outruns_metre_tiles :
    let world : World := { tileMetres := 1 }
    let memo : Memo Consist := ⟨⟨[fastRailcar], world⟩, .empty⟩
    let velocity := Units.velocityOfSpeed 1280
    let weight : WeightSummary := .single 20000 0
    let moved := (memo.ask (.move (.cruise 64 world.mapScale 1280) weight (.atSpeed 1280))).1
    world.validate = .ok () ∧ 0 < weight.weight ∧
      (memo.ask .adverse).1.drag * velocity * velocity + (memo.ask (.resistance weight)).1 ≤
        (memo.ask (.traction velocity)).1 ∧
      velocity ≤ Units.velocityOfKmh (memo.ask .speedLimit).1 ∧
      moved = ⟨1280, 64 * 1280 + 76, zero⟩ := by
  intro world memo velocity weight moved
  refine ⟨rfl, ?_, ?_, ?_, ?_⟩
  · decide
  · decide +kernel
  · decide +kernel
  · decide +kernel

end Memo

end Haulage
