import Haulage.Proofs.HaulMargin

/-!
# A steeper grade never carries more

Rolling resistance goes with the cosine of the slope and falls as the slope rises, the downhill
force goes with the sine and rises.  From one thousandth to the next, up to the vertical, the
rounded cosine falls at most 66 times as much as the rounded sine rises, and no way rolls with more
than a 66th of the weight.  So the resistance of a block never falls as the slope rises, and neither
the heaviest weight that starts nor the heaviest that is hauled ever rises with it.
-/

namespace Haulage

open Fixed

namespace WeightSummary

variable {gentle steep : Int32}

theorem steepness_mono (le : gentle ≤ steep) : steepness gentle ≤ steepness steep := by
  rw [Int32.le_iff_toInt_le] at le
  simp only [steepness]
  omega

theorem sineCount_eq (slope : Int32) :
    sineCount slope = (2 * (steepness slope * 1048576) + 1000) / 2000 := by
  have low : -1000 ≤ steepness slope := le_max_left _ _
  have high : steepness slope ≤ 1000 := by simp only [steepness]; omega
  change (ratio (steepness slope) 1000).raw = _
  rw [ratio, quotient_of_pos (by decide), roundQuotient_of_pos (by decide), raw_saturate]
  simp only [scale, limit]
  omega

/-- The sine and the cosine are nearly on the circle. -/
theorem cosineCount_near (slope : Int32) :
    cosineCount slope * cosineCount slope - cosineCount slope ≤
        1099511627776 - sineCount slope * sineCount slope + 524288 ∧
      1099511627776 - sineCount slope * sineCount slope - 524288 ≤
        cosineCount slope * cosineCount slope + cosineCount slope := by
  have sine := sineCount_bounds slope
  have square_nonneg := mul_self_nonneg (sineCount slope)
  have square_le : sineCount slope * sineCount slope ≤ 1048576 * 1048576 :=
    abs_le_iff_mul_self_le.mp (by rw [abs_le, abs_of_nonneg] <;> omega)
  have rest_eq : (one - (slopeParts (steepness slope)).1 * (slopeParts (steepness slope)).1).raw =
      1048576 - (sineCount slope * sineCount slope + 524288) / 1048576 := by
    rw [raw_sub, raw_mul, raw_one, ← sineCount]
    simp only [halfScale, scale, limit]
    omega
  have cosine_eq : cosineCount slope = (Fixed.sqrt (one -
      (slopeParts (steepness slope)).1 * (slopeParts (steepness slope)).1)).raw := rfl
  rw [cosine_eq]
  generalize one - (slopeParts (steepness slope)).1 * (slopeParts (steepness slope)).1 = rest at *
  rcases le_or_gt rest.raw 0 with vertical | pos
  · rw [sqrt, if_pos vertical, raw_zero]
    omega
  · obtain ⟨root_pos, below, above⟩ :=
      roundedRoot_between (by omega : 0 < rest.raw.toNat * 1048576)
    rw [raw_sqrt pos]
    obtain ⟨square, square_eq⟩ : ∃ square, square = rest.raw.toNat * 1048576 := ⟨_, rfl⟩
    have square_raw : (square : Int) = rest.raw * 1048576 := by omega
    rw [← square_eq] at root_pos below above ⊢
    generalize roundedRoot square = root at *
    zify [show 1 ≤ 2 * root by omega] at below above
    have below : (root : Int) * root - root < square := by linarith
    have above : (square : Int) ≤ root * root + root := by linarith
    omega

/-- Between two slopes the cosine falls at most 66 times as much as the sine rises. -/
theorem cosineCount_fall_le (less : steepness gentle < steepness steep) :
    cosineCount gentle - cosineCount steep ≤ 66 * (sineCount steep - sineCount gentle) := by
  have rise_ge : 1048 ≤ sineCount steep - sineCount gentle := by
    rw [sineCount_eq, sineCount_eq]
    omega
  have gentle_near := (cosineCount_near gentle).1
  have steep_near := (cosineCount_near steep).2
  have gentle_sine := sineCount_bounds gentle
  have steep_sine := sineCount_bounds steep
  have gentle_cosine := cosineCount_bounds gentle
  have steep_cosine := cosineCount_bounds steep
  generalize sineCount gentle = low at *
  generalize sineCount steep = high at *
  generalize cosineCount gentle = wide at *
  generalize cosineCount steep = narrow at *
  -- On the circle the square of the fall is at most 2097152 times the rise, but for what is rounded.
  -- A steeper fall would have a square of 66² · 1048 times the rise.
  by_contra steeper
  have sines_le : (high - low) * (high + low) ≤ (high - low) * 2097152 :=
    Int.mul_le_mul_of_nonneg_left (by omega) (by omega)
  have squares_le : (wide - narrow) * (wide + narrow) ≤ (high - low) * 2097152 + 3145728 := by
    linarith
  have fall_le : (wide - narrow) * (wide - narrow) ≤ (wide - narrow) * (wide + narrow) :=
    Int.mul_le_mul_of_nonneg_left (by omega) (by omega)
  have rise_le : 66 * (high - low) * (66 * (high - low)) ≤ (wide - narrow) * (wide - narrow) :=
    Int.mul_le_mul (by omega) (by omega) (by omega) (by omega)
  have many : 1048 * (high - low) ≤ (high - low) * (high - low) :=
    Int.mul_le_mul_of_nonneg_right rise_ge (by omega)
  linarith

end WeightSummary

namespace Profile

variable {profile : Profile} {gentle steep : Int32}

/-- No way rolls with more than a 66th of the weight; without vehicles nothing rolls. -/
def RollsLightly (profile : Profile) : Prop :=
  0 ≤ profile.adverse.rolling.raw ∧ profile.adverse.rolling.raw ≤ 15729

theorem RollsLightly.rolls (lightly : profile.RollsLightly) : profile.Rolls :=
  ⟨lightly.1, lightly.2.trans (by decide)⟩

/-- What the rolling loses on a steeper slope the downhill force makes up for. -/
theorem pull_mono (lightly : profile.RollsLightly) (le : gentle ≤ steep) :
    profile.pull gentle ≤ profile.pull steep := by
  rcases (WeightSummary.steepness_mono le).lt_or_eq with less | same
  · have fall_le := WeightSummary.cosineCount_fall_le less
    have rise_nonneg : 0 ≤ WeightSummary.sineCount steep - WeightSummary.sineCount gentle := by
      rw [WeightSummary.sineCount_eq, WeightSummary.sineCount_eq]
      omega
    obtain ⟨rolling_nonneg, rolling_le⟩ := lightly
    have lost_le : profile.adverse.rolling.raw *
        (WeightSummary.cosineCount gentle - WeightSummary.cosineCount steep) ≤
          profile.adverse.rolling.raw *
            (66 * (WeightSummary.sineCount steep - WeightSummary.sineCount gentle)) :=
      Int.mul_le_mul_of_nonneg_left fall_le rolling_nonneg
    have gained_ge : profile.adverse.rolling.raw *
        (66 * (WeightSummary.sineCount steep - WeightSummary.sineCount gentle)) ≤
          15729 * (66 * (WeightSummary.sineCount steep - WeightSummary.sineCount gentle)) :=
      Int.mul_le_mul_of_nonneg_right rolling_le (by omega)
    rw [pull, pull]
    linarith
  · rw [pull, pull, WeightSummary.cosineCount, WeightSummary.sineCount, same]
    exact le_rfl

/-- A block resists no less on a steeper slope. -/
theorem resistance_single_mono (lightly : profile.RollsLightly) {kg : Int32}
    (nonneg : 0 ≤ kg.toInt) (le : gentle ≤ steep) :
    profile.resistance (.single kg gentle) ≤ profile.resistance (.single kg steep) := by
  have pulled_le := Int.mul_le_mul_of_nonneg_left (pull_mono lightly le) nonneg
  rw [mul_pull, mul_pull] at pulled_le
  rw [le_def, raw_resistance_single lightly.rolls nonneg,
    raw_resistance_single lightly.rolls nonneg]
  omega

theorem resistancePerTonne_mono (lightly : profile.RollsLightly) (le : gentle ≤ steep) :
    profile.resistancePerTonne gentle ≤ profile.resistancePerTonne steep :=
  resistance_single_mono lightly (by decide) le

theorem weightOfTonnes_of_nonpos {tonnes : Fixed} (nonpos : tonnes ≤ zero) :
    weightOfTonnes tonnes = 0 :=
  if_neg fun positive => not_lt.mpr nonpos (isPositive_iff.mp positive)

theorem weightOfTonnes_nonneg (tonnes : Fixed) : 0 ≤ (weightOfTonnes tonnes).toInt := by
  rcases le_or_gt tonnes zero with nonpos | pos
  · rw [weightOfTonnes_of_nonpos nonpos]
    exact le_rfl
  · have kilos_nonneg : 0 ≤ (tonnes.mulInt 1000).raw := mulInt_nonneg (le_of_lt pos) (by decide)
    rw [toInt_weightOfTonnes pos]
    omega

theorem weightOfTonnes_mono {few many : Fixed} (le : few ≤ many) :
    (weightOfTonnes few).toInt ≤ (weightOfTonnes many).toInt := by
  rcases le_or_gt few zero with nonpos | pos
  · rw [weightOfTonnes_of_nonpos nonpos]
    exact weightOfTonnes_nonneg many
  · have kilos_le := le_def.mp (mulInt_le_mulInt le (by decide : (0 : Int) ≤ 1000))
    rw [toInt_weightOfTonnes pos, toInt_weightOfTonnes (lt_of_lt_of_le pos le)]
    omega

/-- A force pulls no more where a tonne resists more. -/
theorem weightOfTonnes_div_anti (force : Fixed) {perTonne greater : Fixed} (pos : zero < perTonne)
    (le : perTonne ≤ greater) :
    (weightOfTonnes (force / greater)).toInt ≤ (weightOfTonnes (force / perTonne)).toInt := by
  rcases le_total force zero with nonpos | nonneg
  · rw [weightOfTonnes_of_nonpos (div_nonpos nonpos (lt_of_lt_of_le pos le))]
    exact weightOfTonnes_nonneg _
  · exact weightOfTonnes_mono (div_le_div_left nonneg pos le)

theorem toInt_le_unlimitedWeight (weight : Int32) :
    weight.toInt ≤ Units.unlimitedWeight.toInt :=
  Int.lt_add_one_iff.mp weight.toInt_lt

/-- The heaviest weight that starts does not rise with the slope. -/
theorem maxStartingWeight_anti (lightly : profile.RollsLightly) (le : gentle ≤ steep) :
    (profile.maxStartingWeight steep).toInt ≤ (profile.maxStartingWeight gentle).toInt := by
  have per_tonne_le := resistancePerTonne_mono lightly le
  rcases le_or_gt (profile.resistancePerTonne gentle) zero with free | resists
  · rw [(weights_unlimited free).1]
    exact toInt_le_unlimitedWeight _
  · rw [maxStartingWeight_eq resists, maxStartingWeight_eq (lt_of_lt_of_le resists per_tonne_le)]
    exact weightOfTonnes_div_anti _ resists per_tonne_le

/-- Neither does the heaviest weight that is hauled at the speed limit. -/
theorem maxWeight_anti (lightly : profile.RollsLightly) (le : gentle ≤ steep) :
    (profile.maxWeight steep).toInt ≤ (profile.maxWeight gentle).toInt := by
  have per_tonne_le := resistancePerTonne_mono lightly le
  have starting_le := maxStartingWeight_anti lightly le
  rcases le_or_gt (profile.resistancePerTonne gentle) zero with free | resists
  · rw [(weights_unlimited free).2]
    exact toInt_le_unlimitedWeight _
  · rw [maxWeight, maxWeight, if_pos (isPositive_iff.mpr resists),
      if_pos (isPositive_iff.mpr (lt_of_lt_of_le resists per_tonne_le)), toInt_min32, toInt_min32]
    exact min_le_min (weightOfTonnes_div_anti _ resists per_tonne_le) starting_le

end Profile

/-- Something of which only the vehicles roll. -/
class WheeledSource (σ : Type) [Source σ] extends RollingSource σ where
  /-- Without vehicles it has no resistance to rolling. -/
  rolling_of_no_vehicles : ∀ source : σ, vehicles source = [] →
    (Source.adverseSummary source).rolling = .zero

instance : WheeledSource Consist where
  rolling_of_no_vehicles consist no_vehicles := by
    change consist.adverse.rolling = _
    have no_vehicles : consist.vehicles = [] := no_vehicles
    rw [Consist.adverse, no_vehicles]

instance : WheeledSource LiveConvoy where
  rolling_of_no_vehicles convoy no_vehicles :=
    absurd (List.map_eq_nil_iff.mp no_vehicles) convoy.nonempty

theorem WheeledSource.rollsLightly {σ : Type} [Source σ] [WheeledSource σ] (source : σ) :
    (Profile.ofSource source).RollsLightly := by
  change 0 ≤ (Source.adverseSummary source).rolling.raw ∧
    (Source.adverseSummary source).rolling.raw ≤ 15729
  by_cases no_vehicles : VehicleSource.vehicles source = []
  · rw [rolling_of_no_vehicles source no_vehicles]
    decide
  · obtain ⟨way, rolling_eq⟩ := RollingSource.rolling_eq source no_vehicles
    rw [rolling_eq]
    exact ⟨way.rolling_nonneg, way.rolling_le⟩

namespace Memo

variable {σ : Type}

/-- A convoy hauls and starts no more on a steeper slope than on a gentler one, with or without
vehicles and whatever the slopes: downhill, level, or beyond the vertical. -/
theorem steeper_never_carries_more [Source σ] [WheeledSource σ] (memo : Memo σ)
    (agrees : memo.cache.Agrees memo.source) {gentle steep : Int32} (le : gentle ≤ steep) :
    (memo.ask (.maxWeight steep)).1 ≤ (memo.ask (.maxWeight gentle)).1 ∧
      (memo.ask (.maxStartingWeight steep)).1 ≤ (memo.ask (.maxStartingWeight gentle)).1 := by
  have lightly := WheeledSource.rollsLightly memo.source
  simp only [ask_answer agrees, Int32.le_iff_toInt_le]
  exact ⟨Profile.maxWeight_anti lightly le, Profile.maxStartingWeight_anti lightly le⟩

/-- The last thousandth before the vertical costs an engine 10 kg at the speed limit and 16 kg at
the start. -/
theorem freight_carries_less_upright :
    let memo := engineAlone .track 120 5000 200
    ((memo.ask (.maxWeight 999)).1 = 13828 ∧ (memo.ask (.maxWeight 1000)).1 = 13818) ∧
      ((memo.ask (.maxStartingWeight 999)).1 = 20403 ∧
        (memo.ask (.maxStartingWeight 1000)).1 = 20387) ∧
      (memo.ask (.maxWeight 1000)).1 ≤ (memo.ask (.maxWeight 999)).1 ∧
      (memo.ask (.maxStartingWeight 1000)).1 ≤ (memo.ask (.maxStartingWeight 999)).1 := by
  intro memo
  refine ⟨by decide +kernel, by decide +kernel, ?_⟩
  exact memo.steeper_never_carries_more (Cache.agrees_empty _) (by decide)

end Memo

end Haulage
