import Haulage.Proofs.Inclines
import Haulage.Proofs.TopSpeed

/-!
# More resistance is no faster

A weight that presses on the way and pulls along it no more than another resists no more, whatever
is rounded.  A speed that traction sustains against the greater resistance it sustains against the
smaller one too, so the top speed never rises with the weight: neither with what a block weighs on
level or rising way nor with a car that is added there.
-/

namespace Haulage

open Fixed

theorem Fixed.sqrt_nonneg (a : Fixed) : zero ≤ a.sqrt := by
  rcases le_or_gt a.raw 0 with nonpos | pos
  · rw [sqrt, if_pos nonpos]
  · rw [nonneg_iff, raw_sqrt pos]
    exact Int.natCast_nonneg _

namespace WeightSummary

/-- A weight presses on the way and pulls along it no more than another. -/
structure NoHeavier (light heavy : WeightSummary) : Prop where
  /-- It presses no more. -/
  across_le : light.across ≤ heavy.across
  /-- It pulls back no more. -/
  along_le : light.along ≤ heavy.along

theorem slopeParts_nonneg {slope : Int32} (rising : 0 ≤ slope) :
    zero ≤ (slopeParts (steepness slope)).1 ∧ zero ≤ (slopeParts (steepness slope)).2 := by
  have rising : 0 ≤ slope.toInt := Int32.le_iff_toInt_le.mp rising
  have steepness_nonneg : 0 ≤ steepness slope := by
    simp only [steepness]
    omega
  exact ⟨ratio_nonneg (by decide) steepness_nonneg, sqrt_nonneg _⟩

/-- The heavier of two blocks that are added on level or rising way leaves the heavier weight. -/
theorem NoHeavier.add {first second : WeightSummary} (ordered : first.NoHeavier second)
    {slope light heavy : Int32} (rising : 0 ≤ slope) (le : light ≤ heavy) :
    (first.add light slope).NoHeavier (second.add heavy slope) := by
  have mass_le := ofInt32_mono (Int32.le_iff_toInt_le.mp le)
  obtain ⟨sine_nonneg, cosine_nonneg⟩ := slopeParts_nonneg rising
  unfold WeightSummary.add
  simp only
  split
  · exact ⟨add_le_add ordered.across_le mass_le, ordered.along_le⟩
  · exact ⟨add_le_add ordered.across_le (mul_le_mul_right mass_le cosine_nonneg),
      add_le_add ordered.along_le (mul_le_mul_right mass_le sine_nonneg)⟩

/-- A car that is added on level or rising way leaves no lighter weight. -/
theorem noHeavier_add (weight : WeightSummary) {kg slope : Int32} (rising : 0 ≤ slope)
    (nonneg : 0 ≤ kg) : weight.NoHeavier (weight.add kg slope) := by
  have mass_nonneg := ofInt32_nonneg (Int32.le_iff_toInt_le.mp nonneg)
  obtain ⟨sine_nonneg, cosine_nonneg⟩ := slopeParts_nonneg rising
  unfold WeightSummary.add
  simp only
  split
  · exact ⟨le_add_right mass_nonneg, le_rfl⟩
  · exact ⟨le_add_right (mul_nonneg mass_nonneg cosine_nonneg),
      le_add_right (mul_nonneg mass_nonneg sine_nonneg)⟩

end WeightSummary

namespace Profile

variable {profile : Profile} {light heavy : WeightSummary}

theorem resistance_mono (rolling_nonneg : zero ≤ profile.adverse.rolling)
    (ordered : light.NoHeavier heavy) : profile.resistance light ≤ profile.resistance heavy := by
  apply mul_le_mul_left (by decide : zero ≤ gravity)
  exact add_le_add (mul_le_mul_left rolling_nonneg ordered.across_le) ordered.along_le

/-- Where fewer speeds hold, the highest one that does is no higher. -/
theorem IsTopSpeed.le_of_imp {holds stricter : Int32 → Bool} {cap top lower : Int32}
    (highest : IsTopSpeed holds cap top) (lowered : IsTopSpeed stricter cap lower)
    (relaxes : ∀ kmh, stricter kmh = true → holds kmh = true) : lower ≤ top := by
  by_contra above
  have fails := highest.fails_above lower (Int32.not_le.mp above) lowered.le_cap
  rw [relaxes lower (lowered.holds_le lower lowered.nonneg (Int32.le_refl lower))] at fails
  exact absurd fails (by decide)

theorem sustainsKmh_anti {resistance greater : Fixed} (le : resistance ≤ greater) (kmh : Int32)
    (sustained : profile.sustainsKmh greater kmh = true) :
    profile.sustainsKmh resistance kmh = true := by
  rw [sustainsKmh, sustains, decide_eq_true_eq] at sustained ⊢
  exact (add_le_add le_rfl le).trans sustained

theorem maxSpeed_of_speedLimit_nonpos {weight : WeightSummary} (stuck : profile.speedLimit ≤ 0) :
    profile.maxSpeed weight = 0 := by
  rw [maxSpeed]
  simp only
  rw [if_pos stuck]

/-- Without vehicles the top speed does not hang on the weight, so only the resistances of a convoy
with vehicles have to be in order. -/
theorem Regular.maxSpeed_anti (regular : profile.Regular)
    (resists : profile.vehicle.isEmpty = false →
      profile.resistance light ≤ profile.resistance heavy) :
    profile.maxSpeed heavy ≤ profile.maxSpeed light := by
  by_cases moves : 0 < profile.speedLimit
  · rcases Bool.eq_false_or_eq_true profile.vehicle.isEmpty with unmanned | manned
    · rw [maxSpeed_of_isEmpty moves unmanned, maxSpeed_of_isEmpty moves unmanned]
      exact Int32.le_refl _
    · have le := resists manned
      rcases lt_or_ge profile.startingForce (profile.resistance heavy) with stuck | starts
      · rw [maxSpeed_of_startingForce_lt moves manned stuck]
        rcases lt_or_ge profile.startingForce (profile.resistance light) with
          both_stuck | light_starts
        · rw [maxSpeed_of_startingForce_lt moves manned both_stuck]
          exact Int32.le_refl _
        · exact (regular.maxSpeed_isTopSpeed moves manned light_starts).nonneg
      · exact (regular.maxSpeed_isTopSpeed moves manned (le.trans starts)).le_of_imp
          (regular.maxSpeed_isTopSpeed moves manned starts) (sustainsKmh_anti le)
  · have stuck := Int32.not_lt.mp moves
    rw [maxSpeed_of_speedLimit_nonpos stuck, maxSpeed_of_speedLimit_nonpos stuck]
    exact Int32.le_refl _

end Profile

/-- A source rolls against no push, unless it has no vehicles. -/
theorem RollingSource.resistance_mono {σ : Type} [Source σ] [RollingSource σ] (source : σ)
    {light heavy : WeightSummary} (ordered : light.NoHeavier heavy)
    (manned : (Profile.ofSource source).vehicle.isEmpty = false) :
    (Profile.ofSource source).resistance light ≤ (Profile.ofSource source).resistance heavy := by
  have nonempty : VehicleSource.vehicles source ≠ [] := by
    intro no_vehicles
    have vehicle_eq : (Profile.ofSource source).vehicle = .ofList [] := by
      rw [← no_vehicles]
      exact VehicleSource.vehicleSummary_eq source
    rw [vehicle_eq] at manned
    exact absurd manned (by decide)
  exact Profile.resistance_mono (RollingSource.rolls nonempty).1 ordered

namespace Memo

variable {σ : Type}

/-- The top speed never rises with the resistance.  A weight that presses and pulls more is no
faster, a heavier block on level or rising way is no faster, and a car that is added there to any
weight makes it no faster. -/
theorem maxSpeed_never_rises [Source σ] [RollingSource σ] (memo : Memo σ)
    (agrees : memo.cache.Agrees memo.source) :
    let top := fun weight => (memo.ask (.maxSpeed weight)).1
    (∀ light heavy : WeightSummary, light.across ≤ heavy.across → light.along ≤ heavy.along →
        top heavy ≤ top light) ∧
      (∀ slope light heavy : Int32, 0 ≤ slope → light ≤ heavy →
        top (.single heavy slope) ≤ top (.single light slope)) ∧
      (∀ (weight : WeightSummary) (kg slope : Int32), 0 ≤ slope → 0 ≤ kg →
        top (weight.add kg slope) ≤ top weight) := by
  intro top
  have top_anti : ∀ {light heavy : WeightSummary}, light.NoHeavier heavy →
      top heavy ≤ top light := by
    intro light heavy ordered
    simp only [top, ask_answer agrees]
    exact (VehicleSource.regular memo.source).maxSpeed_anti
      (RollingSource.resistance_mono memo.source ordered)
  refine ⟨fun light heavy across_le along_le => top_anti ⟨across_le, along_le⟩,
    fun slope light heavy rising le => top_anti ?_,
    fun weight kg slope rising nonneg => top_anti (weight.noHeavier_add rising nonneg)⟩
  have nothing : WeightSummary.NoHeavier {} {} := ⟨le_rfl, le_rfl⟩
  exact nothing.add rising le

/-- A car of 40 t that is added on level way slows an express of 150 t on a slope of five
thousandths down by 4 km/h. -/
theorem express_slower_with_car :
    let memo : Memo Consist := ⟨⟨[.engine "Express" .track 80 200 1500,
      .wagon "Mail" .track 40 200 30 (.uniform 1000)], {}⟩, .empty⟩
    let train := WeightSummary.single 150000 5
    (memo.ask (.maxSpeed train)).1 = 147 ∧ (memo.ask (.maxSpeed (train.add 40000 0))).1 = 143 ∧
      (memo.ask (.maxSpeed (train.add 40000 0))).1 ≤ (memo.ask (.maxSpeed train)).1 := by
  intro memo train
  obtain ⟨-, -, car_added⟩ := memo.maxSpeed_never_rises (Cache.agrees_empty _)
  refine ⟨by decide +kernel, by decide +kernel, ?_⟩
  exact car_added train 40000 0 (by decide) (by decide)

end Memo

end Haulage
