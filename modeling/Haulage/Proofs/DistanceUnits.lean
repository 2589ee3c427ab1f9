import Haulage.Proofs.BrakingSteps
import Haulage.Proofs.Cruising

/-!
# Distances read back

Yards survive the way into metres and back as long as their metres are not cut off before they are
divided, that is for 10995116278 yards or 2684354 steps.  Steps on a map are rounded to counts of
metres too.  From tiles of three metres on that is less than half a yard, and whole steps survive as
well; on shorter tiles it is up to a yard and a half, and a step may be lost.
-/

namespace Haulage

open Fixed

namespace Units

theorem raw_metresOfYards {yards : Int64} (few : |yards.toInt| ≤ 10995116278) :
    (metresOfYards yards).raw = (6400 * yards.toInt + 9) / 18 := by
  obtain ⟨low, high⟩ := abs_le.mp few
  have scaled_eq : (Int64.ofIntClamp (yards.toInt * 800)).toInt = yards.toInt * 800 := by
    rw [toInt_ofIntClamp64]
    omega
  rw [metresOfYards, ratio, quotient_of_pos (by decide), roundQuotient_of_pos (by decide),
    raw_saturate]
  simp only [speedNumerator, yardDenominator, scale, limit, scaled_eq]
  omega

/-- The multiple that is cut off last still rounds to its yards. -/
theorem yardsOfMetres_metresOfYards {yards : Int64} (few : |yards.toInt| ≤ 10995116278) :
    yardsOfMetres (metresOfYards yards) = yards.toInt := by
  obtain ⟨low, high⟩ := abs_le.mp few
  rw [yardsOfMetres, Fixed.round, raw_mulInt_divInt _ _ (by decide), raw_metresOfYards few]
  simp only [yardDenominator, speedNumerator, halfScale, scale, limit]
  omega

section Steps

variable {mapScale : Fixed} {steps : Int}

theorem metresOfSteps_nonneg (scale_pos : zero < mapScale) (nonneg : 0 ≤ steps)
    (few : steps ≤ 2684354) : zero ≤ metresOfSteps mapScale (.ofInt steps) := by
  have product_nonneg : 0 ≤ (26214400 * steps + 9) / 18 * mapScale.raw :=
    Int.mul_nonneg (by omega) (le_of_lt scale_pos)
  rw [nonneg_iff, raw_metresOfSteps mapScale (by omega) (by omega)]
  simp only [limit]
  omega

/-- Metres over the map scale are those of the reference tile again, but for what rounding them to
counts takes away or adds. -/
theorem reference_metres_near (slack : Int) (slack_le : slack ≤ 1000)
    (scale_pos : zero < mapScale) (nonneg : 0 ≤ steps) (few : steps ≤ 2684354)
    (enough : 1048576 < (2 * slack + 1) * mapScale.raw)
    (finite : metresOfSteps mapScale (.ofInt steps) < greatest) :
    (26214400 * steps + 9) / 18 - slack ≤ (metresOfSteps mapScale (.ofInt steps) / mapScale).raw ∧
      (metresOfSteps mapScale (.ofInt steps) / mapScale).raw ≤
        (26214400 * steps + 9) / 18 + slack := by
  have metres_nonneg := metresOfSteps_nonneg scale_pos nonneg few
  have metres_eq := raw_metresOfSteps mapScale (by omega : -8589934592 ≤ steps) (by omega)
  have quotient_le := two_mul_raw_div_mul_le metres_nonneg scale_pos
  have quotient_near := lt_of_raw_div_lt metres_nonneg scale_pos
  rw [nonneg_iff] at metres_nonneg
  rw [lt_def, raw_greatest] at finite
  rw [pos_iff] at scale_pos
  have whole_le : (26214400 * steps + 9) / 18 ≤ 3909374436000 := by omega
  generalize (26214400 * steps + 9) / 18 = whole at *
  generalize (metresOfSteps mapScale (.ofInt steps) / mapScale).raw = count at *
  generalize (metresOfSteps mapScale (.ofInt steps)).raw = metres at *
  generalize mapScale.raw = scale at *
  have product_eq : metres = (whole * scale + 524288) / 1048576 := by
    simp only [limit] at metres_eq
    omega
  have count_le : count ≤ whole + slack := by
    by_contra above
    have far := Int.mul_le_mul_of_nonneg_right (by omega : whole + slack + 1 ≤ count) scale_pos.le
    rw [Int.add_mul, Int.add_mul] at far
    rw [Int.add_mul, Int.mul_assoc] at enough
    omega
  refine ⟨?_, count_le⟩
  by_contra below
  have count_small := count_le.trans (Int.add_le_add whole_le slack_le)
  have near := quotient_near (by simp only [limit]; omega)
  have far := Int.mul_le_mul_of_nonneg_right (by omega : count ≤ whole - slack - 1) scale_pos.le
  rw [Int.sub_mul, Int.sub_mul] at far
  rw [Int.add_mul, Int.mul_assoc] at enough near
  omega

/-- What rounding takes away or adds is `slack` counts, and a yard has 355 of them and more. -/
theorem yardsOnMap_steps_near (slack off : Int) (slack_le : slack ≤ 1000)
    (close : 9 * slack + 18 ≤ 3200 * off + 1600) (scale_pos : zero < mapScale)
    (nonneg : 0 ≤ steps) (few : steps ≤ 2684354)
    (enough : 1048576 < (2 * slack + 1) * mapScale.raw)
    (finite : metresOfSteps mapScale (.ofInt steps) < greatest) :
    4096 * steps - off ≤ yardsOnMap mapScale (metresOfSteps mapScale (.ofInt steps)) ∧
      yardsOnMap mapScale (metresOfSteps mapScale (.ofInt steps)) ≤ 4096 * steps + off := by
  have reference_nonneg := div_nonneg (metresOfSteps_nonneg scale_pos nonneg few) scale_pos
  have near := reference_metres_near slack slack_le scale_pos nonneg few enough finite
  rw [yardsOnMap, yardsOfMetres_of_nonneg reference_nonneg]
  rw [nonneg_iff] at reference_nonneg
  simp only [limit]
  omega

end Steps

/-- Yards read back while their metres are not cut off.  So do steps on a map whose tiles are three
metres long or more, unless their metres are more than any number; on tiles of one or two metres
they read back to within a yard, so a step may be lost and none is won. -/
theorem distances_read_back :
    (∀ yards : Int64, |yards.toInt| ≤ 10995116278 →
        yardsOfMetres (metresOfYards yards) = yards.toInt) ∧
      ∀ world : World, world.validate = .ok () → ∀ steps : UInt32, steps ≤ 2684354 →
        let metres := metresOfSteps world.mapScale (.ofInt steps.toNat)
        metres < greatest →
          (3 ≤ world.tileMetres → stepsOfMetres world.mapScale metres = steps.toNat) ∧
            |yardsOnMap world.mapScale metres - 4096 * steps.toNat| ≤ 1 ∧
            steps.toNat - 1 ≤ stepsOfMetres world.mapScale metres ∧
            stepsOfMetres world.mapScale metres ≤ steps.toNat := by
  refine ⟨fun _ => yardsOfMetres_metresOfYards, fun world validated steps few => ?_⟩
  intro metres finite
  have few : (steps.toNat : Int) ≤ 2684354 := Int.ofNat_le.mpr (UInt32.le_iff_toNat_le.mp few)
  have nonneg := Int.natCast_nonneg steps.toNat
  have scale_ge := World.mapScale_ge validated
  have scale_pos := World.mapScale_pos validated
  have near : 4096 * (steps.toNat : Int) - 1 ≤ yardsOnMap world.mapScale metres ∧
      yardsOnMap world.mapScale metres ≤ 4096 * (steps.toNat : Int) + 1 :=
    yardsOnMap_steps_near 500 1 (by decide) (by decide) scale_pos nonneg few (by omega) finite
  refine ⟨fun wide => ?_, ?_⟩
  · have tile_ge : 3 ≤ world.tileMetres.toNat := UInt32.le_iff_toNat_le.mp wide
    have scale_wide : 3146 ≤ world.mapScale.raw := by
      rw [world.raw_mapScale]
      omega
    have whole : 4096 * (steps.toNat : Int) - 0 ≤ yardsOnMap world.mapScale metres ∧
        yardsOnMap world.mapScale metres ≤ 4096 * (steps.toNat : Int) + 0 :=
      yardsOnMap_steps_near 167 0 (by decide) (by decide) scale_pos nonneg few (by omega) finite
    rw [stepsOfMetres, yardsPerStep]
    omega
  · rw [abs_le, stepsOfMetres, yardsPerStep]
    omega

/-- The longest distances that are not cut off, on the usual tiles and on tiles of three metres. -/
theorem longest_distances_read_back :
    let world : World := {}
    let short : World := { tileMetres := 3 }
    yardsOfMetres (metresOfYards 10995116278) = 10995116278 ∧
      yardsOfMetres (metresOfYards (-10995116278)) = -10995116278 ∧
      stepsOfMetres world.mapScale (metresOfSteps world.mapScale (.ofInt 2684354)) = 2684354 ∧
      stepsOfMetres short.mapScale (metresOfSteps short.mapScale (.ofInt 2684354)) = 2684354 := by
  intro world short
  have steps_eq : (2684354 : UInt32).toNat = 2684354 := rfl
  obtain ⟨yards_back, steps_back⟩ := distances_read_back
  have usual_back := steps_back world rfl 2684354 (by decide) (by decide)
  have short_back := steps_back short rfl 2684354 (by decide) (by decide)
  rw [steps_eq] at usual_back short_back
  exact ⟨yards_back 10995116278 (by decide), yards_back (-10995116278) (by decide),
    usual_back.1 (by decide), short_back.1 (by decide)⟩

/-- On tiles of one metre ten steps are 14569 counts of metres, a yard short, and read back as nine.
On tiles of 4294967295 m the metres of 1474561 steps are more than any number. -/
theorem steps_lost :
    World.validate { tileMetres := 1 } = .ok () ∧
      metresOfSteps (World.mapScale { tileMetres := 1 }) 10 = ⟨14569, by decide⟩ ∧
      stepsOfMetres (World.mapScale { tileMetres := 1 })
        (metresOfSteps (World.mapScale { tileMetres := 1 }) 10) = 9 ∧
      World.validate { tileMetres := 4294967295 } = .ok () ∧
      metresOfSteps (World.mapScale { tileMetres := 4294967295 }) 1474561 = greatest ∧
      stepsOfMetres (World.mapScale { tileMetres := 4294967295 })
        (metresOfSteps (World.mapScale { tileMetres := 4294967295 }) 1474561) = 1474560 := by
  exact ⟨rfl, by decide, by decide, rfl, by decide, by decide⟩

end Units

end Haulage
