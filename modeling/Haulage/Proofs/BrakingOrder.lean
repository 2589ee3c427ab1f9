import Haulage.Proofs.Braking
import Haulage.Proofs.Grades

/-!
# Longer braking distances

A convoy brakes no shorter from a greater velocity, whatever its brakes are and whether it stops at
all.  And where it brakes with 1 kN at least, a heavier block on the same slope brakes no shorter
than a lighter one: up to 90 000 t the exact gain of the lighter one is greater than what the
rounding of the two resistances can take from it.
-/

namespace Haulage

open Fixed

namespace Profile

variable {profile : Profile} {resistance mass below slow fast velocity : Fixed} {bin : Nat}

theorem le_throughBin (mass_nonneg : zero ≤ mass) (within : InBin bin velocity) :
    below ≤ profile.throughBin resistance mass bin velocity below := by
  rw [throughBin]
  split
  · exact below.le_greatest
  · simp only
    split
    · next braking =>
      exact le_add_right (div_nonneg (mul_nonneg within.product_nonneg mass_nonneg)
        (isPositive_iff.mp braking))
    · exact below.le_greatest

theorem throughBin_mono (mass_nonneg : zero ≤ mass) (slow_in : InBin bin slow)
    (fast_in : InBin bin fast) (le : slow ≤ fast) :
    profile.throughBin resistance mass bin slow below ≤
      profile.throughBin resistance mass bin fast below := by
  rw [throughBin, throughBin]
  split
  · exact le_rfl
  · simp only
    split
    · next braking =>
      exact add_le_add le_rfl (div_le_div_right (isPositive_iff.mp braking)
        (mul_le_mul_right (slow_in.product_mono fast_in le) mass_nonneg))
    · exact le_rfl

theorem stoppingDistance_mono (mass_nonneg : zero ≤ mass) {low high : Nat} (le : low ≤ high)
    (inside : high ≤ 4096) :
    profile.stoppingDistance resistance mass low ≤
      profile.stoppingDistance resistance mass high := by
  induction high, le using Nat.le_induction with
  | base => exact le_rfl
  | succ high _ ih => exact (ih (by omega)).trans (le_throughBin mass_nonneg (.top inside))

/-- The braking distance of a mass from a velocity that the bins cover. -/
def coveredDistance (profile : Profile) (resistance mass velocity : Fixed) : Fixed :=
  if velocity = binFloor (binOf velocity) then
    profile.stoppingDistance resistance mass (binOf velocity)
  else
    profile.throughBin resistance mass (binOf velocity) velocity
      (profile.stoppingDistance resistance mass (binOf velocity))

theorem stoppingDistance_le_coveredDistance (mass_nonneg : zero ≤ mass)
    (within : InBin (binOf velocity) velocity) :
    profile.stoppingDistance resistance mass (binOf velocity) ≤
      profile.coveredDistance resistance mass velocity := by
  rw [coveredDistance]
  split
  · exact le_rfl
  · exact le_throughBin mass_nonneg within

theorem coveredDistance_le_throughBin (mass_nonneg : zero ≤ mass)
    (within : InBin (binOf velocity) velocity) :
    profile.coveredDistance resistance mass velocity ≤
      profile.throughBin resistance mass (binOf velocity) velocity
        (profile.stoppingDistance resistance mass (binOf velocity)) := by
  rw [coveredDistance]
  split
  · exact le_throughBin mass_nonneg within
  · exact le_rfl

theorem coveredDistance_mono (mass_nonneg : zero ≤ mass) (nonneg : zero ≤ slow) (le : slow ≤ fast)
    (covered : fast.raw ≤ 2147483648) :
    profile.coveredDistance resistance mass slow ≤
      profile.coveredDistance resistance mass fast := by
  have slow_in := InBin.binOf nonneg ((le_def.mp le).trans covered)
  have fast_in := InBin.binOf (nonneg.trans le) covered
  have fast_ge : profile.stoppingDistance resistance mass (binOf fast) ≤
      profile.coveredDistance resistance mass fast :=
    stoppingDistance_le_coveredDistance mass_nonneg fast_in
  rcases (binOf_mono nonneg le).lt_or_eq with lower | same
  · -- The upper end of the lower bin lies between the velocities.
    have inside : binOf slow < 4096 := lower.trans_le fast_in.inside
    have below_top : slow ≤ binFloor (binOf slow + 1) := by
      have := slow_in.below
      rw [raw_binFloor slow_in.inside] at this
      rw [le_def, raw_binFloor inside]
      omega
    calc profile.coveredDistance resistance mass slow
        ≤ profile.throughBin resistance mass (binOf slow) slow
            (profile.stoppingDistance resistance mass (binOf slow)) :=
          coveredDistance_le_throughBin mass_nonneg slow_in
      _ ≤ profile.stoppingDistance resistance mass (binOf slow + 1) :=
          throughBin_mono mass_nonneg slow_in (.top inside) below_top
      _ ≤ profile.stoppingDistance resistance mass (binOf fast) :=
          stoppingDistance_mono mass_nonneg lower fast_in.inside
      _ ≤ profile.coveredDistance resistance mass fast := fast_ge
  · by_cases at_floor : slow = binFloor (binOf slow)
    · rw [coveredDistance, if_pos at_floor, same]
      exact fast_ge
    · have fast_above : ¬ fast = binFloor (binOf fast) := by
        intro fast_at_floor
        rw [← same] at fast_at_floor
        exact at_floor (le_antisymm (fast_at_floor ▸ le) slow_in.above)
      rw [same] at slow_in at_floor
      rw [coveredDistance, same, if_neg at_floor, coveredDistance, if_neg fast_above]
      exact throughBin_mono mass_nonneg slow_in fast_in le

variable {weight : WeightSummary}

theorem brakeCap_covered : brakeCap.raw ≤ 2147483648 := by decide

theorem min_brakeCap_covered (velocity : Fixed) : (min velocity brakeCap).raw ≤ 2147483648 :=
  (le_def.mp (min_le_right velocity brakeCap)).trans brakeCap_covered

theorem min_brakeCap_nonneg (nonneg : zero ≤ velocity) : zero ≤ min velocity brakeCap :=
  le_min nonneg (by decide)

theorem brakingDistance_of_moving (moving : zero < velocity) (weighs : 0 < weight.weight) :
    profile.brakingDistance weight velocity =
      profile.coveredDistance (profile.resistance weight) (.ofInt weight.weight.toInt)
        (min velocity brakeCap) := by
  simp only [brakingDistance, brakingDistanceBy, isPositive_iff.mpr moving, weighs, decide_true,
    Bool.and_self, if_true]
  rfl

theorem brakingDistance_of_resting (resting : velocity ≤ zero ∨ weight.weight ≤ 0) :
    profile.brakingDistance weight velocity = zero := by
  have not_both : (velocity.isPositive && decide (0 < weight.weight)) = false := by
    rw [Bool.and_eq_false_iff]
    rcases resting with standing | weightless
    · exact .inl (Bool.not_eq_true _ ▸ mt isPositive_iff.mp (not_lt.mpr standing))
    · exact .inr (decide_eq_false (Int32.not_lt.mpr weightless))
  simp only [brakingDistance, brakingDistanceBy, not_both]
  rfl

theorem mass_nonneg_of_weighs (weighs : 0 < weight.weight) :
    zero ≤ Fixed.ofInt weight.weight.toInt :=
  ofInt32_nonneg (le_of_lt (Int32.lt_iff_toInt_lt.mp weighs))

theorem coveredDistance_nonneg (mass_nonneg : zero ≤ mass) (nonneg : zero ≤ velocity)
    (covered : velocity.raw ≤ 2147483648) :
    zero ≤ profile.coveredDistance resistance mass velocity := by
  have within := InBin.binOf nonneg covered
  exact (stoppingDistance_mono mass_nonneg (Nat.zero_le _) within.inside).trans
    (stoppingDistance_le_coveredDistance mass_nonneg within)

theorem brakingDistance_nonneg (profile : Profile) (weight : WeightSummary) (velocity : Fixed) :
    zero ≤ profile.brakingDistance weight velocity := by
  rcases le_or_gt velocity zero with standing | moving
  · rw [brakingDistance_of_resting (.inl standing)]
  · by_cases weighs : 0 < weight.weight
    · rw [brakingDistance_of_moving moving weighs]
      exact coveredDistance_nonneg (mass_nonneg_of_weighs weighs) (min_brakeCap_nonneg moving.le)
        (min_brakeCap_covered velocity)
    · rw [brakingDistance_of_resting (.inr (Int32.not_lt.mp weighs))]

/-- The braking distance does not fall with the velocity. -/
theorem brakingDistance_mono (profile : Profile) (weight : WeightSummary) (le : slow ≤ fast) :
    profile.brakingDistance weight slow ≤ profile.brakingDistance weight fast := by
  rcases le_or_gt slow zero with standing | moving
  · rw [brakingDistance_of_resting (.inl standing)]
    exact profile.brakingDistance_nonneg weight fast
  · by_cases weighs : 0 < weight.weight
    · rw [brakingDistance_of_moving moving weighs,
        brakingDistance_of_moving (lt_of_lt_of_le moving le) weighs]
      exact coveredDistance_mono (mass_nonneg_of_weighs weighs) (min_brakeCap_nonneg moving.le)
        (min_le_min le le_rfl) (min_brakeCap_covered fast)
    · have weightless := Int32.not_lt.mp weighs
      rw [brakingDistance_of_resting (.inr weightless),
        brakingDistance_of_resting (.inr weightless)]

theorem wholeMetres_mono {near far : Fixed} (nonneg : zero ≤ near) (le : near ≤ far) :
    wholeMetres near ≤ wholeMetres far := by
  rw [wholeMetres, wholeMetres]
  by_cases far_endless : far = .greatest
  · rw [if_pos far_endless]
    exact Int32.le_iff_toInt_le.mpr (Int32.toInt_le _)
  · have near_finite : near ≠ .greatest := by
      rintro rfl
      exact far_endless (le_antisymm far.le_greatest le)
    rw [if_neg near_finite, if_neg far_endless, ceil_of_nonneg nonneg,
      ceil_of_nonneg (nonneg.trans le), Int32.le_iff_toInt_le]
    apply ofIntClamp32_mono
    rw [le_def] at le
    omega

/-- Bin by bin, a convoy brakes the lighter of two weights no less than its share of what it brakes
the heavier one with. -/
def BrakesNoWorse (profile : Profile) (light heavy : WeightSummary) : Prop :=
  ∀ bin, zero < profile.binForce (profile.resistance heavy) bin →
    zero < profile.binForce (profile.resistance light) bin ∧
      light.weight.toInt * (profile.binForce (profile.resistance heavy) bin).raw ≤
        heavy.weight.toInt * (profile.binForce (profile.resistance light) bin).raw

namespace BrakesNoWorse

variable {light heavy : WeightSummary}

theorem throughBin_le (no_worse : profile.BrakesNoWorse light heavy)
    (light_nonneg : 0 ≤ light.weight.toInt) (heavy_nonneg : 0 ≤ heavy.weight.toInt)
    (within : InBin bin velocity) {near far : Fixed} (le : near ≤ far) :
    profile.throughBin (profile.resistance light) (.ofInt light.weight.toInt) bin velocity near ≤
      profile.throughBin (profile.resistance heavy) (.ofInt heavy.weight.toInt) bin velocity
        far := by
  rw [throughBin, throughBin]
  by_cases far_endless : far = .greatest
  · rw [if_pos far_endless]
    exact le_greatest _
  · have near_finite : near ≠ .greatest := by
      rintro rfl
      exact far_endless (le_antisymm far.le_greatest le)
    rw [if_neg near_finite, if_neg far_endless]
    simp only
    split
    · next light_brakes =>
      split
      · next heavy_brakes =>
        have heavy_pos := isPositive_iff.mp heavy_brakes
        obtain ⟨light_pos, cross⟩ := no_worse bin heavy_pos
        apply add_le_add le (div_le_div_of_cross light_pos heavy_pos _)
        rw [within.raw_weighed light_nonneg, within.raw_weighed heavy_nonneg, mul_assoc, mul_assoc]
        exact Int.mul_le_mul_of_nonneg_left cross within.product_nonneg
      · exact le_greatest _
    · next light_slides =>
      -- Where the lighter one slides the heavier one does too.
      rw [if_neg fun heavy_brakes => light_slides (isPositive_iff.mpr
        (no_worse bin (isPositive_iff.mp heavy_brakes)).1)]

theorem stoppingDistance_le (no_worse : profile.BrakesNoWorse light heavy)
    (light_nonneg : 0 ≤ light.weight.toInt) (heavy_nonneg : 0 ≤ heavy.weight.toInt)
    (inside : bin ≤ 4096) :
    profile.stoppingDistance (profile.resistance light) (.ofInt light.weight.toInt) bin ≤
      profile.stoppingDistance (profile.resistance heavy) (.ofInt heavy.weight.toInt) bin := by
  induction bin with
  | zero => rw [stoppingDistance, stoppingDistance]
  | succ bin ih =>
    rw [stoppingDistance, stoppingDistance]
    exact no_worse.throughBin_le light_nonneg heavy_nonneg (.top inside) (ih (by omega))

theorem brakingDistance_le (no_worse : profile.BrakesNoWorse light heavy)
    (light_weighs : 0 < light.weight) (heavy_weighs : 0 < heavy.weight) (velocity : Fixed) :
    profile.brakingDistance light velocity ≤ profile.brakingDistance heavy velocity := by
  rcases le_or_gt velocity zero with standing | moving
  · rw [brakingDistance_of_resting (.inl standing), brakingDistance_of_resting (.inl standing)]
  · have light_nonneg := le_of_lt (Int32.lt_iff_toInt_lt.mp light_weighs)
    have heavy_nonneg := le_of_lt (Int32.lt_iff_toInt_lt.mp heavy_weighs)
    have within := InBin.binOf (min_brakeCap_nonneg moving.le) (min_brakeCap_covered velocity)
    have stopping_le := no_worse.stoppingDistance_le light_nonneg heavy_nonneg within.inside
    rw [brakingDistance_of_moving moving light_weighs,
      brakingDistance_of_moving moving heavy_weighs, coveredDistance, coveredDistance]
    split
    · exact stopping_le
    · exact no_worse.throughBin_le light_nonneg heavy_nonneg within stopping_le

end BrakesNoWorse

/-- Against 1 kN the rounding of two resistances counts for less than one kg of 90 000 t. -/
theorem share_le_of_resistance_bounds {light heavy force lighter heavier pull : Int}
    (light_pos : 0 < light) (less : light < heavy) (heavy_le : heavy ≤ 90000000)
    (force_ge : 1048576000 ≤ force)
    (lighter_gt : 10286531 * (light * pull - 524288) - 549755813888 < 1099511627776 * lighter)
    (heavier_le : 1099511627776 * heavier ≤ 10286531 * (heavy * pull + 524288) + 549755813888) :
    light * (force + heavier) ≤ heavy * (force + lighter) := by
  have lighter_scaled := Int.mul_le_mul_of_nonneg_left lighter_gt.le (by omega : 0 ≤ heavy)
  have heavier_scaled := Int.mul_le_mul_of_nonneg_left heavier_le light_pos.le
  have gained : (heavy - light) * 1048576000 ≤ (heavy - light) * force :=
    Int.mul_le_mul_of_nonneg_left force_ge (by omega)
  linarith

/-- Clamping keeps shares. -/
theorem saturate_share_le {light heavy m n : Int} (light_pos : 0 < light) (le : light ≤ heavy)
    (share_le : light * m ≤ heavy * n) (pos : zero < saturate m) :
    zero < saturate n ∧ light * (saturate m).raw ≤ heavy * (saturate n).raw := by
  rw [pos_iff, raw_saturate] at pos
  have m_pos : 0 < m := by
    simp only [limit] at pos
    omega
  have n_pos : 0 < n := by
    have share_pos : 0 < heavy * n := (Int.mul_pos light_pos m_pos).trans_le share_le
    exact Int.pos_of_mul_pos_right share_pos (by omega)
  rw [pos_iff]
  rcases le_or_gt n limit with fits | above
  · rw [raw_saturate_of_fits (by simp only [limit]; omega) fits]
    exact ⟨n_pos,
      (Int.mul_le_mul_of_nonneg_left (raw_saturate_le m_pos.le) light_pos.le).trans share_le⟩
  · have capped : (saturate n).raw = limit := by
      rw [raw_saturate]
      simp only [limit] at *
      omega
    rw [capped]
    exact ⟨by decide,
      Int.mul_le_mul le (raw_le_limit _) (saturate_nonneg m_pos.le) (light_pos.le.trans le)⟩

/-- On one slope, a lighter block of up to 90 000 t keeps its share of the brake force. -/
theorem brakesNoWorse_of_brakes (regular : profile.Regular) (rolls : profile.Rolls)
    (brakes : ∀ speed, 1048576000 ≤ (profile.brakingForce speed).raw) (slope : Int32)
    {light heavy : Int32} (light_pos : 0 < light) (le : light ≤ heavy)
    (heavy_le : heavy ≤ 90000000) :
    profile.BrakesNoWorse (.single light slope) (.single heavy slope) := by
  have light_pos : 0 < light.toInt := Int32.lt_iff_toInt_lt.mp light_pos
  have le : light.toInt ≤ heavy.toInt := Int32.le_iff_toInt_le.mp le
  have heavy_le : heavy.toInt ≤ 90000000 := Int32.le_iff_toInt_le.mp heavy_le
  intro bin heavy_brakes
  have force_ge : 1048576000 ≤
      (profile.brakingForce (speedIndex (binFloor bin)) + profile.drag (binFloor bin)).raw :=
    (brakes _).trans
      (le_def.mp (le_add_right (regular.drag_velocity_nonneg (binFloor_nonneg bin))))
  rw [WeightSummary.weight_single, WeightSummary.weight_single]
  rcases le.lt_or_eq with less | same
  · have share_le := share_le_of_resistance_bounds light_pos less heavy_le force_ge
      (resistance_bounds rolls light_pos.le slope).1
      (resistance_bounds rolls (light_pos.le.trans le) slope).2
    exact saturate_share_le light_pos le share_le heavy_brakes
  · obtain rfl := Int32.toInt_inj.mp same
    exact ⟨heavy_brakes, le_rfl⟩

/-- With 1 kN of brake force at least a heavier block of up to 90 000 t brakes no shorter. -/
theorem brakingDistance_single_mono (regular : profile.Regular) (rolls : profile.Rolls)
    (brakes : ∀ speed, 1048576000 ≤ (profile.brakingForce speed).raw) (slope : Int32)
    {light heavy : Int32} (light_pos : 0 < light) (le : light ≤ heavy)
    (heavy_le : heavy ≤ 90000000) (velocity : Fixed) :
    profile.brakingDistance (.single light slope) velocity ≤
      profile.brakingDistance (.single heavy slope) velocity := by
  have no_worse := brakesNoWorse_of_brakes regular rolls brakes slope light_pos le heavy_le
  apply no_worse.brakingDistance_le
  · rw [WeightSummary.weight_single]
    exact light_pos
  · rw [WeightSummary.weight_single]
    exact Int32.lt_of_lt_of_le light_pos le

end Profile

/-- Brakes do not hang on the speed: 1 kN at some speed is 1 kN at every speed. -/
theorem VehicleSource.brakingForce_ge {σ : Type} [Source σ] [VehicleSource σ] (source : σ)
    {speed : UInt32} (brakes : 1 ≤ (Profile.ofSource source).curves.brake speed) (other : UInt32) :
    1048576000 ≤ ((Profile.ofSource source).brakingForce other).raw := by
  have brake_eq : ∀ other, (Profile.ofSource source).curves.brake other =
      Curves.totalBrake (vehicles source) := by
    intro other
    change (Source.curves source).brake other = _
    rw [curves_eq source]
    rfl
  rw [brake_eq, ← brake_eq other] at brakes
  have brakes : 1 ≤ ((Profile.ofSource source).curves.brake other).toInt :=
    Int32.le_iff_toInt_le.mp brakes
  rw [Profile.brakingForce, raw_thousand]
  omega

namespace Memo

variable {σ : Type}

/-- The braking distance, in metres and in whole metres, does not fall with the velocity: it is zero
without velocity or weight, and what does not stop from one velocity does not stop from a greater
one.  With 1 kN of brake force at least it does not fall with the weight of a block either, up to
90 000 t on any slope. -/
theorem braking_distance_monotone [Source σ] [WheeledSource σ] (memo : Memo σ)
    (agrees : memo.cache.Agrees memo.source) :
    let distance := fun weight velocity => (memo.ask (.brakingDistance weight velocity)).1
    let metres := fun weight velocity => (memo.ask (.brakingMetres weight velocity)).1
    (∀ (weight : WeightSummary) (slow fast : Fixed), slow ≤ fast →
        distance weight slow ≤ distance weight fast ∧ metres weight slow ≤ metres weight fast ∧
          (distance weight slow = .greatest → distance weight fast = .greatest) ∧
          (metres weight slow = Int32.maxValue → metres weight fast = Int32.maxValue)) ∧
      (∀ (weight : WeightSummary) (velocity : Fixed), velocity ≤ zero ∨ weight.weight ≤ 0 →
        distance weight velocity = zero ∧ metres weight velocity = 0) ∧
      (∀ speed : UInt32, 1 ≤ (memo.ask (.brake speed)).1 →
        ∀ (slope light heavy : Int32) (velocity : Fixed),
          0 < light → light ≤ heavy → heavy ≤ 90000000 →
            distance (.single light slope) velocity ≤ distance (.single heavy slope) velocity ∧
              metres (.single light slope) velocity ≤ metres (.single heavy slope) velocity) := by
  intro distance metres
  have distance_eq : ∀ weight velocity,
      distance weight velocity = (Profile.ofSource memo.source).brakingDistance weight velocity :=
    fun weight velocity => ask_answer agrees _
  have metres_eq : ∀ weight velocity,
      metres weight velocity =
        Profile.wholeMetres ((Profile.ofSource memo.source).brakingDistance weight velocity) :=
    fun weight velocity => ask_answer agrees _
  have brake_eq : ∀ speed, (memo.ask (.brake speed)).1 =
      (Profile.ofSource memo.source).curves.brake speed := fun speed => ask_answer agrees _
  have in_metres : ∀ {one other : WeightSummary} {slow fast : Fixed},
      distance one slow ≤ distance other fast → metres one slow ≤ metres other fast := by
    intro one other slow fast le
    rw [distance_eq, distance_eq] at le
    rw [metres_eq, metres_eq]
    exact Profile.wholeMetres_mono (Profile.brakingDistance_nonneg _ _ _) le
  refine ⟨fun weight slow fast le => ?_, fun weight velocity resting => ?_,
    fun speed brakes slope light heavy velocity light_pos le heavy_le => ?_⟩
  · have distance_le : distance weight slow ≤ distance weight fast := by
      rw [distance_eq, distance_eq]
      exact Profile.brakingDistance_mono _ weight le
    refine ⟨distance_le, in_metres distance_le, fun endless => ?_, fun endless => ?_⟩
    · exact le_antisymm (le_greatest _) (endless ▸ distance_le)
    · exact Int32.le_antisymm (Int32.le_maxValue _) (endless ▸ in_metres distance_le)
  · rw [distance_eq, metres_eq, Profile.brakingDistance_of_resting resting]
    exact ⟨rfl, by decide⟩
  · have distance_le : distance (.single light slope) velocity ≤
        distance (.single heavy slope) velocity := by
      rw [distance_eq, distance_eq]
      exact Profile.brakingDistance_single_mono (VehicleSource.regular memo.source)
        (WheeledSource.rollsLightly memo.source).rolls
        (VehicleSource.brakingForce_ge memo.source (brake_eq speed ▸ brakes)) slope light_pos le
        heavy_le velocity
    exact ⟨distance_le, in_metres distance_le⟩

/-- Down a slope of ten thousandths 80 t brake from 30 m/s within 881 m, 240 t within 3247 m, and
within 3338 m from half a metre per second more. -/
theorem freight_brakes_longer :
    let memo := engineAlone .track 120 5000 200
    let metres := fun kg velocity =>
      (memo.ask (.brakingMetres (.single kg (-10)) velocity)).1
    ((memo.ask (.brake 0)).1 = 40 ∧ metres 80000 (.ofInt 30) = 881 ∧
        metres 240000 (.ofInt 30) = 3247 ∧ metres 240000 (.ratio 61 2) = 3338) ∧
      metres 80000 (.ofInt 30) ≤ metres 240000 (.ofInt 30) ∧
      metres 240000 (.ofInt 30) ≤ metres 240000 (.ratio 61 2) := by
  intro memo metres
  obtain ⟨faster, -, heavier⟩ := memo.braking_distance_monotone (Cache.agrees_empty _)
  refine ⟨by decide +kernel, ?_, ?_⟩
  · exact (heavier 0 (by decide +kernel) (-10) 80000 240000 (.ofInt 30) (by decide) (by decide)
      (by decide)).2
  · exact (faster (.single 240000 (-10)) (.ofInt 30) (.ratio 61 2) (by decide)).2.1

end Memo

end Haulage
