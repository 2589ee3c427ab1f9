import Haulage.Proofs.BrakingSteps
import Haulage.Proofs.Cruising
import Haulage.Proofs.HaulMargin

/-!
# What whole braking steps reach

Whole steps of a braking distance never reach past it, but for the last one, and with a yard more
they cover it, as long as its yards are counted.  A distance over the map scale is multiplied before
it is divided, so from 3728 km of the reference tile on, and from 3728 m on tiles of one metre, the
count is cut off: the steps are always 2684355, and fall short without telling so.
-/

namespace Haulage

open Fixed

namespace Units

variable {mapScale metres : Fixed}

theorem yardsOnMap_of_cut_off (scale_pos : zero < mapScale) (ahead : zero ≤ metres)
    (cut_off : ¬ YardsFit mapScale metres) : yardsOnMap mapScale metres = 10995116278 := by
  have quotient_nonneg := div_nonneg ahead scale_pos
  rw [YardsFit] at cut_off
  rw [yardsOnMap, yardsOfMetres_of_nonneg quotient_nonneg]
  simp only [yardDenominator, limit] at *
  omega

variable {steps : Int}

/-- Steps that are fewer than the yards stay half a yard short of the distance. -/
theorem scaled_steps_le (scale_pos : zero < mapScale) (ahead : zero ≤ metres)
    (fewer : 4096 * steps < yardsOnMap mapScale metres) :
    (26214400 * steps + 9) / 18 * mapScale.raw + 176 * mapScale.raw ≤ metres.raw * 1048576 := by
  have quotient_le := two_mul_raw_div_mul_le ahead scale_pos
  have yards_le := (yardsOnMap_near_quotient scale_pos ahead).1
  rw [pos_iff] at scale_pos
  have counts_le : (26214400 * steps + 9) / 18 + 177 ≤ (metres / mapScale).raw := by omega
  have scaled_le := Int.mul_le_mul_of_nonneg_right counts_le scale_pos.le
  rw [Int.add_mul] at scaled_le
  omega

theorem metresOfSteps_le (scale_ge : 1049 ≤ mapScale.raw) (ahead : zero ≤ metres)
    (low : -8589934592 ≤ steps) (high : steps ≤ 8589934592)
    (fewer : 4096 * steps < yardsOnMap mapScale metres) :
    metresOfSteps mapScale (.ofInt steps) ≤ metres := by
  have scale_pos : zero < mapScale := by
    rw [pos_iff]
    omega
  have scaled_le := scaled_steps_le scale_pos ahead fewer
  have raw_nonneg := nonneg_iff.mp ahead
  rw [le_def, raw_metresOfSteps mapScale low high]
  simp only [limit]
  omega

/-- On a map that is not too small the distance is not reached. -/
theorem metresOfSteps_lt (scale_ge : 3146 ≤ mapScale.raw) (ahead : zero ≤ metres)
    (low : -8589934592 ≤ steps) (high : steps ≤ 8589934592)
    (fewer : 4096 * steps < yardsOnMap mapScale metres) :
    metresOfSteps mapScale (.ofInt steps) < metres := by
  have scale_pos : zero < mapScale := by
    rw [pos_iff]
    omega
  have scaled_le := scaled_steps_le scale_pos ahead fewer
  have raw_nonneg := nonneg_iff.mp ahead
  rw [lt_def, raw_metresOfSteps mapScale low high]
  simp only [limit]
  omega

/-- Steps that are no fewer than the yards cover the distance to within a yard. -/
theorem le_metresOfSteps_add_yard (scale_pos : zero < mapScale) (ahead : zero ≤ metres)
    (fits : YardsFit mapScale metres) (low : 0 ≤ steps) (high : steps ≤ 8589934592)
    (reached : yardsOnMap mapScale metres ≤ 4096 * steps) :
    metres ≤ metresOfSteps mapScale (.ofInt steps) + metresOfYards 1 * mapScale := by
  have yard_eq : (metresOfYards 1).raw = 356 := by decide
  have metres_le := metres.raw_le_limit
  have quotient_lt : (metres / mapScale).raw < limit := by
    simp only [YardsFit, yardDenominator, limit] at *
    omega
  have near := lt_of_raw_div_lt ahead scale_pos quotient_lt
  have le_yards := (yardsOnMap_near_quotient scale_pos ahead).2 fits
  -- Rounding to whole yards loses half a yard, and a yard has 356 counts.
  have le_counts : (metres / mapScale).raw + 177 ≤ (26214400 * steps + 9) / 18 + 356 := by omega
  have le_scaled := Int.mul_le_mul_of_nonneg_right le_counts scale_pos.le
  rw [Int.add_mul, Int.add_mul] at le_scaled
  rw [Int.add_mul, Int.mul_assoc] at near
  have steps_nonneg : 0 ≤ (26214400 * steps + 9) / 18 * mapScale.raw :=
    Int.mul_nonneg (by omega) scale_pos.le
  rw [pos_iff] at scale_pos
  rw [le_def, raw_add, raw_metresOfSteps mapScale (by omega) high, raw_mul, yard_eq]
  simp only [halfScale, scale, limit] at *
  omega

end Units

namespace Profile

variable {mapScale distance : Fixed}

/-- One step less is fewer than the yards, and the steps are no fewer. -/
theorem wholeSteps_between (scale_pos : zero < mapScale) (nonneg : zero ≤ distance)
    (finite : distance ≠ .greatest) :
    4096 * ((wholeSteps mapScale distance).toInt - 1) < Units.yardsOnMap mapScale distance ∧
      Units.yardsOnMap mapScale distance ≤ 4096 * (wholeSteps mapScale distance).toInt := by
  rw [toInt_wholeSteps scale_pos nonneg finite]
  omega

theorem wholeSteps_bounds (scale_pos : zero < mapScale) (nonneg : zero ≤ distance)
    (finite : distance ≠ .greatest) :
    0 ≤ (wholeSteps mapScale distance).toInt ∧
      (wholeSteps mapScale distance).toInt ≤ 3000000 := by
  have yards_bounds := Units.yardsOnMap_bounds scale_pos nonneg
  rw [toInt_wholeSteps scale_pos nonneg finite]
  omega

end Profile

namespace Memo

variable {σ : Type}

/-- Whole steps of a braking distance.  One step less never reaches past the distance, and from
tiles of three metres on it stays short of it.  The steps and a yard more cover the distance where
its yards are counted; where the count is cut off the steps are always as many. -/
theorem braking_steps_reach [Source σ] (memo : Memo σ) (agrees : memo.cache.Agrees memo.source)
    {world : World} (validated : world.validate = .ok ()) (weight : WeightSummary)
    (speed : Int32) :
    let distance := (memo.ask (.brakingDistance weight (Units.velocityOfSpeed speed))).1
    let steps := (memo.ask (.brakingSteps world.mapScale weight speed)).1
    let metres := fun count : Int => Units.metresOfSteps world.mapScale (.ofInt count)
    zero < distance → distance ≠ .greatest →
      steps ≠ Int32.maxValue ∧
        metres (steps.toInt - 1) ≤ distance ∧
        (3 ≤ world.tileMetres → metres (steps.toInt - 1) < distance) ∧
        (Units.YardsFit world.mapScale distance →
          distance ≤ metres steps.toInt + Units.metresOfYards 1 * world.mapScale) ∧
        (¬ Units.YardsFit world.mapScale distance → steps = 2684355) := by
  intro distance steps metres positive finite
  have scale_ge := World.mapScale_ge validated
  have scale_pos := World.mapScale_pos validated
  have steps_eq : steps = Profile.wholeSteps world.mapScale distance := by
    change (memo.ask _).1 = Profile.wholeSteps _ (memo.ask _).1
    rw [ask_answer agrees, ask_answer agrees]
    rfl
  have bounds := Profile.wholeSteps_bounds scale_pos positive.le finite
  have between := Profile.wholeSteps_between scale_pos positive.le finite
  rw [← steps_eq] at bounds between
  refine ⟨?_, ?_, fun wide => ?_, fun fits => ?_, fun cut_off => ?_⟩
  · intro endless
    rw [endless] at bounds
    exact absurd bounds.2 (by decide)
  · exact Units.metresOfSteps_le scale_ge positive.le (by omega) (by omega) between.1
  · have tile_ge : 3 ≤ world.tileMetres.toNat := UInt32.le_iff_toNat_le.mp wide
    have wide_ge : 3146 ≤ world.mapScale.raw := by
      rw [world.raw_mapScale]
      omega
    exact Units.metresOfSteps_lt wide_ge positive.le (by omega) (by omega) between.1
  · exact Units.le_metresOfSteps_add_yard scale_pos positive.le fits bounds.1 (by omega) between.2
  · rw [Units.yardsOnMap_of_cut_off scale_pos positive.le cut_off] at between
    apply Int32.toInt_inj.mp
    change _ = (2684355 : Int)
    omega

/-- A train of 200 t brakes from 200 km/h within 3306 steps of the usual length, and not within
3305. -/
theorem freight_steps_reach :
    let memo := engineAlone .track 200 5000 200
    let world : World := {}
    let distance := (memo.ask (.brakingDistance (.single 200000 0) (Units.velocityOfSpeed 2560))).1
    (memo.ask (.brakingSteps world.mapScale (.single 200000 0) 2560)).1 = 3306 ∧
      Units.metresOfSteps world.mapScale (.ofInt 3305) < distance ∧
      distance ≤ Units.metresOfSteps world.mapScale (.ofInt 3306) +
        Units.metresOfYards 1 * world.mapScale := by
  intro memo world distance
  have steps_eq : (memo.ask (.brakingSteps world.mapScale (.single 200000 0) 2560)).1 = 3306 := by
    decide +kernel
  have reach := memo.braking_steps_reach (Cache.agrees_empty _)
    (by decide : world.validate = .ok ()) (.single 200000 0) 2560 (by decide +kernel)
    (by decide +kernel)
  simp only [steps_eq] at reach
  exact ⟨steps_eq, reach.2.2.1 (by decide), reach.2.2.2.1 (by decide +kernel)⟩

/-- On tiles of one metre the same train needs 4591 m, and the steps that it is told are cut off
after 3730 m. -/
theorem freight_steps_fall_short :
    let world : World := { tileMetres := 1 }
    let memo : Memo Consist :=
      ⟨⟨[{ Vehicle.engine "Freight" .track 80 200 5000 with effortKn := 200 }], world⟩, .empty⟩
    let distance := (memo.ask (.brakingDistance (.single 200000 0) (Units.velocityOfSpeed 2560))).1
    let steps := (memo.ask (.brakingSteps world.mapScale (.single 200000 0) 2560)).1
    world.validate = .ok () ∧ .ofInt 4591 < distance ∧ distance ≠ .greatest ∧
      steps = 2684355 ∧ steps ≠ Int32.maxValue ∧
      Units.metresOfSteps world.mapScale (.ofInt steps.toInt) +
        Units.metresOfYards 1 * world.mapScale < .ofInt 3730 := by
  intro world memo distance steps
  exact ⟨rfl, by decide +kernel, by decide +kernel, by decide +kernel, by decide +kernel,
    by decide +kernel⟩

end Memo

end Haulage
