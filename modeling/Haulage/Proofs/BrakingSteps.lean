import Haulage.Proofs.Braking

/-!
# Braking distances in whole steps

On a map of scale one a step is 4096 · 3200 / 9 counts long.  Braking distances are rounded up to
whole steps, so they never promise more than a step too much, and they keep the order.
-/

namespace Haulage

open Fixed

namespace Units

/-- Metres of the yards in a count of steps, rounded half up. -/
theorem raw_metresOfYards_steps {steps : Int} (low : -8589934592 ≤ steps)
    (high : steps ≤ 8589934592) :
    (metresOfYards (.ofInt (steps * yardsPerStep))).raw = (26214400 * steps + 9) / 18 := by
  have yards_eq : (Int64.ofInt (steps * 4096)).toInt = steps * 4096 :=
    toInt_ofInt64 (by omega) (by omega)
  have scaled_eq : (Int64.ofIntClamp (steps * 4096 * 800)).toInt = steps * 4096 * 800 := by
    rw [toInt_ofIntClamp64]
    omega
  rw [metresOfYards, ratio, quotient_of_pos (by decide), roundQuotient_of_pos (by decide),
    raw_saturate]
  simp only [yardsPerStep, yards_eq]
  simp only [speedNumerator, yardDenominator, scale, limit, scaled_eq]
  omega

/-- Metres of a count of steps on a map, rounded half up twice. -/
theorem raw_metresOfSteps (mapScale : Fixed) {steps : Int} (low : -8589934592 ≤ steps)
    (high : steps ≤ 8589934592) :
    (metresOfSteps mapScale (.ofInt steps)).raw = max (-limit)
      (min (((26214400 * steps + 9) / 18 * mapScale.raw + 524288) / 1048576) limit) := by
  have steps_eq : (Int64.ofInt steps).toInt = steps := toInt_ofInt64 (by omega) (by omega)
  rw [metresOfSteps, raw_mul, steps_eq, raw_metresOfYards_steps low high]
  rfl

theorem metresOfSteps_nonpos {mapScale : Fixed} (scale_nonneg : zero ≤ mapScale) {steps : Int}
    (low : -8589934592 ≤ steps) (nonpos : steps ≤ 0) :
    metresOfSteps mapScale (.ofInt steps) ≤ zero := by
  have steps_eq : (Int64.ofInt steps).toInt = steps := toInt_ofInt64 (by omega) (by omega)
  refine mul_nonpos ?_ scale_nonneg
  rw [steps_eq, le_def, raw_metresOfYards_steps low (by omega), raw_zero]
  omega

/-- Metres of a count of steps on a map of scale one, rounded half up. -/
theorem raw_metresOfSteps_one {steps : Int} (low : -8589934592 ≤ steps)
    (high : steps ≤ 8589934592) :
    (metresOfSteps one (.ofInt steps)).raw = (26214400 * steps + 9) / 18 := by
  rw [raw_metresOfSteps one low high]
  simp only [raw_one, limit]
  omega

/-- Yards of a distance ahead on a map of scale one; a far distance is cut off. -/
theorem yardsOnMap_one {metres : Fixed} (nonneg : zero ≤ metres) :
    yardsOnMap one metres =
      ((2 * min (metres.raw * 2359296) limit + 800) / 1600 + 524288) / 1048576 := by
  have raw_nonneg := nonneg_iff.mp nonneg
  have raw_le := metres.raw_le_limit
  have quotient_eq : metres / one = metres := by
    apply ext_raw
    change (quotient _ _).raw = _
    rw [quotient_of_pos (by decide), roundQuotient_of_pos (by decide), raw_saturate]
    simp only [raw_one, scale, limit] at *
    omega
  rw [yardsOnMap, quotient_eq, yardsOfMetres_of_nonneg nonneg]

end Units

namespace Profile

/-- Yards are few enough for a 32-bit count of steps. -/
theorem toInt_wholeSteps {mapScale distance : Fixed} (scale_pos : zero < mapScale)
    (nonneg : zero ≤ distance) (finite : distance ≠ .greatest) :
    (wholeSteps mapScale distance).toInt =
      (Units.yardsOnMap mapScale distance + 4095) / 4096 := by
  have yards_bounds := Units.yardsOnMap_bounds scale_pos nonneg
  rw [wholeSteps, if_neg finite, toInt_ofIntClamp32]
  simp only [Units.yardsPerStep]
  omega

theorem toInt_wholeSteps_one {distance : Fixed} (nonneg : zero ≤ distance)
    (finite : distance ≠ .greatest) :
    (wholeSteps one distance).toInt = (Units.yardsOnMap one distance + 4095) / 4096 :=
  toInt_wholeSteps (by decide) nonneg finite

/-- Whole steps are at most a step too many. -/
theorem wholeSteps_one_le {distance : Fixed} (nonneg : zero ≤ distance)
    (finite : distance ≠ .greatest) :
    13107200 * ((wholeSteps one distance).toInt - 1) ≤ 9 * distance.raw := by
  have steps_eq := toInt_wholeSteps_one nonneg finite
  have yards_eq := Units.yardsOnMap_one nonneg
  have raw_nonneg := nonneg_iff.mp nonneg
  simp only [limit] at *
  omega

theorem wholeSteps_one_nonneg {distance : Fixed} (nonneg : zero ≤ distance)
    (finite : distance ≠ .greatest) : 0 ≤ (wholeSteps one distance).toInt := by
  have steps_eq := toInt_wholeSteps_one nonneg finite
  have yards_eq := Units.yardsOnMap_one nonneg
  have raw_nonneg := nonneg_iff.mp nonneg
  simp only [limit] at *
  omega

theorem wholeSteps_one_mono {near far : Fixed} (nonneg : zero ≤ near) (le : near ≤ far)
    (finite : far ≠ .greatest) :
    (wholeSteps one near).toInt ≤ (wholeSteps one far).toInt := by
  have near_finite : near ≠ .greatest := by
    rintro rfl
    exact finite (le_antisymm far.le_greatest le)
  have near_yards := Units.yardsOnMap_one nonneg
  have far_yards := Units.yardsOnMap_one (nonneg.trans le)
  rw [toInt_wholeSteps_one nonneg near_finite, toInt_wholeSteps_one (nonneg.trans le) finite]
  rw [le_def] at le
  simp only [limit] at *
  omega

/-- Distances that are so many steps apart are hardly more whole steps apart. -/
theorem wholeSteps_one_le_add {near far : Fixed} {steps : Int} (nonneg : zero ≤ near)
    (le : near ≤ far) (finite : far ≠ .greatest) (steps_nonneg : 0 ≤ steps)
    (apart : 18 * far.raw ≤ 18 * near.raw + 26214400 * steps + 9) :
    (wholeSteps one far).toInt ≤ (wholeSteps one near).toInt + steps + 1 := by
  have near_finite : near ≠ .greatest := by
    rintro rfl
    exact finite (le_antisymm far.le_greatest le)
  have near_yards := Units.yardsOnMap_one nonneg
  have far_yards := Units.yardsOnMap_one (nonneg.trans le)
  have near_nonneg := nonneg_iff.mp nonneg
  rw [toInt_wholeSteps_one nonneg near_finite, toInt_wholeSteps_one (nonneg.trans le) finite]
  rw [le_def] at le
  simp only [limit] at *
  omega

end Profile

end Haulage
