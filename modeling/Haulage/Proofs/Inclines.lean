import Haulage.Proofs.Exactness
import Haulage.Proofs.LevelBrakes

/-!
# The resistance of a block on a slope

A block of weight on a slope resists with its weight times a pull that depends on the slope and the
way alone, up to two roundings.  So what one tonne resists, times the tonnes, is what the block
resists, up to 5.5 counts for each tonne; and where one tonne does not resist, no block does.
-/

namespace Haulage

namespace Fixed

theorem sqrt_le_one {a : Fixed} (le : a.raw ≤ 1048576) :
    0 ≤ a.sqrt.raw ∧ a.sqrt.raw ≤ 1048576 := by
  rcases le_or_gt a.raw 0 with nonpos | pos
  · rw [sqrt, if_pos nonpos]
    exact ⟨le_rfl, by decide⟩
  · rw [raw_sqrt pos]
    have square_le : a.raw.toNat * 1048576 ≤ 1099511627776 := by omega
    have square_pos : 0 < a.raw.toNat * 1048576 := by omega
    obtain ⟨-, below, -⟩ := roundedRoot_between square_pos
    generalize roundedRoot (a.raw.toNat * 1048576) = root at below ⊢
    refine ⟨Int.natCast_nonneg root, ?_⟩
    by_contra large
    have root_ge : 2097153 ≤ 2 * root - 1 := by omega
    have := Nat.mul_le_mul root_ge root_ge
    omega

/-- A whole weight times a part of it is exact. -/
theorem raw_ofInt32_mul {kg : Int32} (nonneg : 0 ≤ kg.toInt) {part : Fixed}
    (low : -1048576 ≤ part.raw) (high : part.raw ≤ 1048576) :
    (ofInt kg.toInt * part).raw = kg.toInt * part.raw := by
  have kg_lt := kg.toInt_lt
  have product_low : kg.toInt * -1048576 ≤ kg.toInt * part.raw :=
    Int.mul_le_mul_of_nonneg_left low nonneg
  have product_high : kg.toInt * part.raw ≤ kg.toInt * 1048576 :=
    Int.mul_le_mul_of_nonneg_left high nonneg
  rw [raw_mul, raw_ofInt32, mul_right_comm]
  simp only [halfScale, scale, limit]
  omega

/-- Adding a part of a whole weight is exact too, as long as there is room. -/
theorem raw_add_ofInt32_mul {start : Fixed} (low : -4611686018427387904 ≤ start.raw)
    (high : start.raw ≤ 4611686018427387904) {kg : Int32} (nonneg : 0 ≤ kg.toInt) {part : Fixed}
    (part_low : -1048576 ≤ part.raw) (part_high : part.raw ≤ 1048576) :
    (start + ofInt kg.toInt * part).raw = start.raw + kg.toInt * part.raw := by
  have kg_lt := kg.toInt_lt
  have product_low : kg.toInt * -1048576 ≤ kg.toInt * part.raw :=
    Int.mul_le_mul_of_nonneg_left part_low nonneg
  have product_high : kg.toInt * part.raw ≤ kg.toInt * 1048576 :=
    Int.mul_le_mul_of_nonneg_left part_high nonneg
  rw [raw_add, raw_ofInt32_mul nonneg part_low part_high]
  simp only [limit]
  omega

end Fixed

open Fixed

theorem Way.rolling_le (way : Way) : way.resistance.rolling.raw ≤ 15729 := by
  cases way <;> decide

namespace WeightSummary

/-- A slope in thousandths, clamped to a vertical way. -/
def steepness (slope : Int32) : Int := max (-1000) (min slope.toInt 1000)

/-- The sine of a slope in 2⁻²⁰ths. -/
def sineCount (slope : Int32) : Int := (slopeParts (steepness slope)).1.raw

/-- Its cosine in 2⁻²⁰ths. -/
def cosineCount (slope : Int32) : Int := (slopeParts (steepness slope)).2.raw

theorem sineCount_le {slope : Int32} {steepest : Int} (le : steepness slope ≤ steepest) :
    sineCount slope ≤ (ratio steepest 1000).raw :=
  ratio_mono (by decide) le

theorem le_sineCount {slope : Int32} {flattest : Int} (le : flattest ≤ steepness slope) :
    (ratio flattest 1000).raw ≤ sineCount slope :=
  ratio_mono (by decide) le

theorem sineCount_bounds (slope : Int32) :
    -1048576 ≤ sineCount slope ∧ sineCount slope ≤ 1048576 := by
  have lowest : (ratio (-1000) 1000).raw = -1048576 := by decide
  have highest : (ratio 1000 1000).raw = 1048576 := by decide
  have low : -1000 ≤ steepness slope := le_max_left _ _
  have high : steepness slope ≤ 1000 := by simp only [steepness]; omega
  exact ⟨lowest ▸ le_sineCount low, highest ▸ sineCount_le high⟩

theorem cosineCount_bounds (slope : Int32) :
    0 ≤ cosineCount slope ∧ cosineCount slope ≤ 1048576 := by
  apply sqrt_le_one
  have square_nonneg : 0 ≤ (ratio (steepness slope) 1000 * ratio (steepness slope) 1000).raw := by
    have := mul_self_nonneg (ratio (steepness slope) 1000).raw
    rw [raw_mul]
    simp only [halfScale, scale, limit]
    omega
  rw [raw_sub, raw_one]
  simp only [limit]
  omega

theorem weight_add (summary : WeightSummary) (kg slope : Int32) :
    (summary.add kg slope).weight = .ofIntClamp (summary.weight.toInt + kg.toInt) := by
  rw [add]
  split <;> rfl

theorem weight_single (kg slope : Int32) : (single kg slope).weight = kg := by
  have low := kg.le_toInt
  have high := kg.toInt_lt
  have none_weighs : ({} : WeightSummary).weight.toInt = 0 := by decide
  apply Int32.toInt_inj.mp
  rw [single, weight_add, none_weighs, toInt_ofIntClamp32]
  omega

/-- A weight adds its exact parts, as long as there is room. -/
theorem add_parts (summary : WeightSummary)
    (across : -4611686018427387904 ≤ summary.across.raw ∧
      summary.across.raw ≤ 4611686018427387904)
    (along : -4611686018427387904 ≤ summary.along.raw ∧
      summary.along.raw ≤ 4611686018427387904)
    {kg : Int32} (nonneg : 0 ≤ kg.toInt) (slope : Int32) :
    (summary.add kg slope).across.raw = summary.across.raw + kg.toInt * cosineCount slope ∧
      (summary.add kg slope).along.raw = summary.along.raw + kg.toInt * sineCount slope := by
  have sine := sineCount_bounds slope
  have cosine := cosineCount_bounds slope
  have cosine_ge : -1048576 ≤ cosineCount slope := by omega
  by_cases level : steepness slope = 0
  · have parts_eq : slopeParts 0 = (zero, one) := by decide +kernel
    have kg_lt := kg.toInt_lt
    rw [add, cosineCount, sineCount, level, parts_eq]
    simp only [show max (-1000) (min slope.toInt 1000) = 0 from level, if_true, raw_zero, raw_one,
      mul_zero, add_zero, and_true]
    rw [raw_add, raw_ofInt32]
    simp only [limit]
    omega
  · rw [add]
    simp only [show ¬ max (-1000) (min slope.toInt 1000) = 0 from level, if_false]
    exact ⟨raw_add_ofInt32_mul across.1 across.2 nonneg cosine_ge cosine.2,
      raw_add_ofInt32_mul along.1 along.2 nonneg sine.1 sine.2⟩

/-- The parts of a single block are exact. -/
theorem single_parts {kg : Int32} (nonneg : 0 ≤ kg.toInt) (slope : Int32) :
    (single kg slope).across.raw = kg.toInt * cosineCount slope ∧
      (single kg slope).along.raw = kg.toInt * sineCount slope := by
  rw [single]
  have added := add_parts {} (by decide) (by decide) nonneg slope
  simpa only [raw_zero, zero_add] using added

end WeightSummary

namespace Profile

variable {profile : Profile} {kg slope : Int32}

/-- Rolling resistance neither pushes nor exceeds the weight. -/
def Rolls (profile : Profile) : Prop :=
  0 ≤ profile.adverse.rolling.raw ∧ profile.adverse.rolling.raw ≤ 1048576

/-- The part of its weight with which a block resists on a slope, in 2⁻⁴⁰ths. -/
def pull (profile : Profile) (slope : Int32) : Int :=
  profile.adverse.rolling.raw * WeightSummary.cosineCount slope +
    1048576 * WeightSummary.sineCount slope

theorem mul_pull (kg : Int) (profile : Profile) (slope : Int32) :
    kg * profile.pull slope =
      profile.adverse.rolling.raw * (kg * WeightSummary.cosineCount slope) +
        1048576 * (kg * WeightSummary.sineCount slope) := by
  rw [pull]
  ring

/-- Nothing on the way to the resistance of a block is clamped. -/
theorem raw_resistance_single (rolls : profile.Rolls) (nonneg : 0 ≤ kg.toInt) :
    (profile.resistance (.single kg slope)).raw =
      (10286531 * ((profile.adverse.rolling.raw * (kg.toInt * WeightSummary.cosineCount slope) +
        524288) / 1048576 + kg.toInt * WeightSummary.sineCount slope) + 524288) / 1048576 := by
  obtain ⟨across_eq, along_eq⟩ := WeightSummary.single_parts nonneg slope
  have sine := WeightSummary.sineCount_bounds slope
  have cosine := WeightSummary.cosineCount_bounds slope
  have gravity_eq : gravity.raw = 10286531 := by decide
  have kg_lt := kg.toInt_lt
  have across_nonneg : 0 ≤ kg.toInt * WeightSummary.cosineCount slope := mul_nonneg nonneg cosine.1
  have across_le : kg.toInt * WeightSummary.cosineCount slope ≤ kg.toInt * 1048576 :=
    Int.mul_le_mul_of_nonneg_left cosine.2 nonneg
  have along_ge : kg.toInt * -1048576 ≤ kg.toInt * WeightSummary.sineCount slope :=
    Int.mul_le_mul_of_nonneg_left sine.1 nonneg
  have along_le : kg.toInt * WeightSummary.sineCount slope ≤ kg.toInt * 1048576 :=
    Int.mul_le_mul_of_nonneg_left sine.2 nonneg
  have rolled_nonneg := mul_nonneg rolls.1 across_nonneg
  have rolled_le := Int.mul_le_mul_of_nonneg_right rolls.2 across_nonneg
  rw [resistance, raw_mul, raw_add, raw_mul, gravity_eq, across_eq, along_eq]
  generalize profile.adverse.rolling.raw * (kg.toInt * WeightSummary.cosineCount slope) =
    rolled at *
  generalize kg.toInt * WeightSummary.sineCount slope = along at *
  simp only [halfScale, scale, limit]
  omega

/-- The resistance of a block is its exact one but for two roundings. -/
theorem resistance_bounds (rolls : profile.Rolls) {kg : Int32} (nonneg : 0 ≤ kg.toInt)
    (slope : Int32) :
    10286531 * (kg.toInt * profile.pull slope - 524288) - 549755813888 <
        1099511627776 * (profile.resistance (.single kg slope)).raw ∧
      1099511627776 * (profile.resistance (.single kg slope)).raw ≤
        10286531 * (kg.toInt * profile.pull slope + 524288) + 549755813888 := by
  rw [raw_resistance_single rolls nonneg, mul_pull]
  omega

/-- A block that gravity pulls on has no resistance. -/
theorem resistance_nonpos (rolls : profile.Rolls) (nonneg : 0 ≤ kg.toInt)
    (pulled : profile.pull slope ≤ 0) : profile.resistance (.single kg slope) ≤ zero := by
  have exact_nonpos : kg.toInt * profile.pull slope ≤ 0 :=
    Int.mul_nonpos_of_nonneg_of_nonpos nonneg pulled
  rw [mul_pull] at exact_nonpos
  rw [le_def, raw_resistance_single rolls nonneg, raw_zero]
  omega

theorem lt_raw_resistancePerTonne (rolls : profile.Rolls) (slope : Int32) :
    10286531 * (1000 * profile.pull slope - 524288) - 549755813888 <
      1099511627776 * (profile.resistancePerTonne slope).raw := by
  have tonne_nonneg : 0 ≤ (1000 : Int32).toInt := by decide
  exact (resistance_bounds rolls tonne_nonneg slope).1

/-- Rounding adds to the resistance of a block at most 5.5 counts for each tonne, and as much
again, over what one tonne resists. -/
theorem resistance_le_of_tonne (rolls : profile.Rolls) (nonneg : 0 ≤ kg.toInt) (slope : Int32) :
    2000 * (profile.resistance (.single kg slope)).raw ≤
      2 * (kg.toInt * (profile.resistancePerTonne slope).raw) + 11 * (kg.toInt + 1000) := by
  have whole := (resistance_bounds rolls nonneg slope).2
  have tonnes := Int.mul_le_mul_of_nonneg_left (lt_raw_resistancePerTonne rolls slope).le nonneg
  generalize (profile.resistancePerTonne slope).raw = per_tonne at *
  generalize (profile.resistance (.single kg slope)).raw = resistance at *
  rw [mul_left_comm kg.toInt 1099511627776] at tonnes
  have tonnes_eq : kg.toInt * (10286531 * (1000 * profile.pull slope - 524288) - 549755813888) =
      10286531000 * (kg.toInt * profile.pull slope) - 5942860578816 * kg.toInt := by
    ring
  rw [tonnes_eq] at tonnes
  generalize kg.toInt * profile.pull slope = pulled at *
  generalize kg.toInt * per_tonne = weighed at *
  omega

/-- On a gentle descent the pull on one tonne is one that its rounded resistance shows, if it holds
the tonne back at all. -/
theorem gentle_pull (way : Way) : ∀ descent < 16,
    let parts := WeightSummary.slopeParts (-(descent : Nat))
    let pull := way.resistance.rolling.raw * parts.2.raw + 1048576 * parts.1.raw
    pull ≤ 0 ∨ 578 ≤ pull := by
  cases way <;> decide +kernel

theorem pull_nonpos_or_large {way : Way}
    (rolling_eq : profile.adverse.rolling = way.resistance.rolling) (slope : Int32) :
    profile.pull slope ≤ 0 ∨ 578 ≤ profile.pull slope := by
  have rolling_ge := way.rolling_ge
  have rolling_le := way.rolling_le
  have cosine := WeightSummary.cosineCount_bounds slope
  have rolled_nonneg : 0 ≤ way.resistance.rolling.raw * WeightSummary.cosineCount slope :=
    Int.mul_nonneg (by omega) cosine.1
  have rolled_le : way.resistance.rolling.raw * WeightSummary.cosineCount slope ≤
      15729 * 1048576 := Int.mul_le_mul rolling_le cosine.2 cosine.1 (by decide)
  rw [pull, rolling_eq]
  -- Below 15 thousandths gravity outweighs the rolling on every way, and uphill both resist.  Only
  -- the descents between are looked at one by one.
  rcases lt_or_ge (WeightSummary.steepness slope) (-15) with steep | gentle
  · have sixteen : (ratio (-16) 1000).raw = -16777 := by decide
    have sine_le : WeightSummary.sineCount slope ≤ (ratio (-16) 1000).raw :=
      WeightSummary.sineCount_le (Int.le_sub_one_of_lt steep)
    left
    omega
  · rcases lt_or_ge 0 (WeightSummary.steepness slope) with uphill | level
    · have first : (ratio 1 1000).raw = 1049 := by decide
      have sine_ge : (ratio 1 1000).raw ≤ WeightSummary.sineCount slope :=
        WeightSummary.le_sineCount uphill
      right
      omega
    · obtain ⟨descent, descent_eq⟩ := Int.eq_ofNat_of_zero_le (Int.neg_nonneg_of_nonpos level)
      have steepness_eq : WeightSummary.steepness slope = -(descent : Nat) := by omega
      have outcome := gentle_pull way descent (by omega)
      simp only at outcome
      rw [WeightSummary.cosineCount, WeightSummary.sineCount, steepness_eq]
      exact outcome

/-- Where one tonne does not resist, gravity pulls at least as hard as the way holds back. -/
theorem pull_nonpos {way : Way} (rolls : profile.Rolls)
    (rolling_eq : profile.adverse.rolling = way.resistance.rolling)
    (free : profile.resistancePerTonne slope ≤ zero) : profile.pull slope ≤ 0 := by
  rcases pull_nonpos_or_large rolling_eq slope with pulled | large
  · exact pulled
  · have tonne := lt_raw_resistancePerTonne rolls slope
    rw [le_def, raw_zero] at free
    omega

end Profile

/-- Something that stands on ways. -/
class RollingSource (σ : Type) [Source σ] extends VehicleSource σ where
  /-- With vehicles, its resistance to rolling is that of a way. -/
  rolling_eq : ∀ source : σ, vehicles source ≠ [] →
    ∃ way : Way, (Source.adverseSummary source).rolling = way.resistance.rolling

namespace Consist

theorem rolling_eq {consist : Consist} (nonempty : consist.vehicles ≠ []) :
    ∃ way : Way, consist.adverse.rolling = way.resistance.rolling := by
  unfold adverse
  split
  · contradiction
  · next first _ _ => exact ⟨first.way, rfl⟩

instance : RollingSource Consist where
  rolling_eq _ := rolling_eq

end Consist

namespace LiveConvoy

theorem rolling_foldl_eq (cars : List LiveCar) {summary : AdverseSummary} {way : Way}
    (rolling_eq : summary.rolling = way.resistance.rolling) :
    ∃ way : Way, (cars.foldl (fun summary car => summary.add car.context car.vehicle.electric)
      summary).rolling = way.resistance.rolling := by
  induction cars generalizing summary way with
  | nil => exact ⟨way, rolling_eq⟩
  | cons car cars ih =>
    rcases max_choice summary.rolling car.context.way.resistance.rolling with kept | raised
    · exact ih (kept.trans rolling_eq)
    · exact ih raised

theorem rolling_eq (convoy : LiveConvoy) :
    ∃ way : Way, convoy.adverse.rolling = way.resistance.rolling := by
  obtain ⟨cars, world, nonempty⟩ := convoy
  cases cars with
  | nil => contradiction
  | cons car cars =>
    exact rolling_foldl_eq cars (max_eq_right car.context.way.rolling_nonneg)

instance : RollingSource LiveConvoy where
  rolling_eq convoy _ := convoy.rolling_eq

end LiveConvoy

theorem RollingSource.rolls {σ : Type} [Source σ] [RollingSource σ] {source : σ}
    (nonempty : VehicleSource.vehicles source ≠ []) : (Profile.ofSource source).Rolls := by
  obtain ⟨way, rolling_eq⟩ := RollingSource.rolling_eq source nonempty
  have rolling_le := way.rolling_le
  have rolling_ge := way.rolling_ge
  have rolling_eq : (Profile.ofSource source).adverse.rolling = way.resistance.rolling := rolling_eq
  rw [Profile.Rolls, rolling_eq]
  omega

end Haulage
