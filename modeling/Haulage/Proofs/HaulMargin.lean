import Haulage.Proofs.Equilibrium
import Haulage.Proofs.Inclines

/-!
# What a planned weight is worth

The heaviest weight for a slope is found from the resistance of one tonne, while the search for the
top speed takes the resistance of the whole weight.  Both round half up, so they disagree by the
rounding of one tonne, times the tonnes.  A weight that keeps this much below the limit is started
and pulled at the speed limit; one up to the limit lacks no more traction than that.
-/

namespace Haulage

namespace Fixed

/-- What is left of a traction after a drag is not above the difference. -/
theorem raw_sub_le_of_pos {traction drag : Fixed} (pos : zero < traction - drag) :
    (traction - drag).raw ≤ traction.raw - drag.raw := by
  rw [pos_iff, raw_sub] at pos
  rw [raw_sub]
  simp only [limit] at pos ⊢
  omega

end Fixed

open Fixed

namespace Profile

variable {profile : Profile} {kg slope : Int32}

theorem toInt_weightOfTonnes {tonnes : Fixed} (pos : zero < tonnes) :
    (weightOfTonnes tonnes).toInt = min ((tonnes.mulInt 1000).raw / 1048576) 2147483647 := by
  have kilos_nonneg : 0 ≤ (tonnes.mulInt 1000).raw := mulInt_nonneg (le_of_lt pos) (by decide)
  have unlimited_eq : Units.unlimitedWeight.toInt = 2147483647 := rfl
  rw [weightOfTonnes, if_pos (isPositive_iff.mpr pos), Fixed.floor, unlimited_eq,
    Int32.toInt_ofInt, Int.bmod_eq_of_le] <;> simp only [scale, Int32.size] <;> omega

/-- A weight in whole kg is not above the tonnes it comes from. -/
theorem toInt_weightOfTonnes_le {tonnes : Fixed} (pos : zero < tonnes) :
    1048576 * (weightOfTonnes tonnes).toInt ≤ 1000 * tonnes.raw := by
  have kilos_le : (tonnes.mulInt 1000).raw ≤ tonnes.raw * 1000 :=
    raw_saturate_le (Int.mul_nonneg (le_of_lt pos) (by decide))
  rw [toInt_weightOfTonnes pos]
  omega

theorem pos_of_weightOfTonnes_pos {tonnes : Fixed} (pos : 0 < (weightOfTonnes tonnes).toInt) :
    zero < tonnes := by
  by_contra not_pos
  rw [weightOfTonnes, if_neg (mt isPositive_iff.mp not_pos)] at pos
  exact absurd pos (by decide)

/-- A weight up to the one that a force pulls weighs no more in tonnes than the quotient, and what
its rounding adds. -/
theorem force_of_le_weightOfTonnes {force perTonne : Fixed} (pos : zero < perTonne) {weight : Int}
    (weight_pos : 0 < weight) (le : weight ≤ (weightOfTonnes (force / perTonne)).toInt) :
    zero < force ∧ 2000 * (weight * perTonne.raw) ≤ 2000000 * force.raw + perTonne.raw := by
  have tonnes_pos : zero < force / perTonne := pos_of_weightOfTonnes_pos (by omega)
  have force_pos : zero < force := by
    by_contra not_pos
    exact absurd (div_nonpos (not_lt.mp not_pos) pos) (not_le.mpr tonnes_pos)
  refine ⟨force_pos, ?_⟩
  have kilos_le : 1048576 * weight ≤ 1000 * (force / perTonne).raw :=
    (Int.mul_le_mul_of_nonneg_left le (by decide)).trans (toInt_weightOfTonnes_le tonnes_pos)
  have weighed_le := Int.mul_le_mul_of_nonneg_right kilos_le (le_of_lt pos)
  have quotient_le := two_mul_raw_div_mul_le (le_of_lt force_pos) pos
  rw [pos_iff] at pos
  rw [mul_assoc, mul_assoc] at weighed_le
  generalize (force / perTonne).raw * perTonne.raw = pulled at *
  generalize weight * perTonne.raw = weighed at *
  omega

/-- The heaviest weight that starts follows from the starting force. -/
theorem maxStartingWeight_eq (resists : zero < profile.resistancePerTonne slope) :
    profile.maxStartingWeight slope =
      weightOfTonnes (profile.startingForce / profile.resistancePerTonne slope) :=
  if_pos (isPositive_iff.mpr resists)

/-- On a slope on which one tonne does not resist no weight is too heavy. -/
theorem weights_unlimited (free : profile.resistancePerTonne slope ≤ zero) :
    profile.maxStartingWeight slope = Units.unlimitedWeight ∧
      profile.maxWeight slope = Units.unlimitedWeight := by
  have not_positive : ¬ (profile.resistancePerTonne slope).isPositive = true :=
    fun positive => not_lt.mpr free (isPositive_iff.mp positive)
  exact ⟨if_neg not_positive, if_neg not_positive⟩

/-- How far in kg a weight keeps below the limit that follows from the resistance of one tonne, so
that the rounding of that resistance cannot make it too heavy. -/
def haulMargin (perTonne : Fixed) (kg : Int) : ℚ :=
  11 * (kg + 1000) / (2 * perTonne.raw) + 1 / 2000

theorem haulMargin_mul {perTonne : Fixed} (pos : zero < perTonne) (kg : Int) :
    haulMargin perTonne kg * (2000 * perTonne.raw) = 11000 * (kg + 1000) + perTonne.raw := by
  have pos_rat : (0 : ℚ) < perTonne.raw := by exact_mod_cast pos_iff.mp pos
  rw [haulMargin]
  field_simp
  ring

theorem le_of_add_haulMargin_le {perTonne : Fixed} (pos : zero < perTonne) {kg weight : Int}
    (nonneg : 0 ≤ kg) (planned : kg + haulMargin perTonne kg ≤ weight) : kg ≤ weight := by
  have pos_rat : (0 : ℚ) < perTonne.raw := by exact_mod_cast pos_iff.mp pos
  have nonneg_rat : (0 : ℚ) ≤ kg := by exact_mod_cast nonneg
  have margin_nonneg : 0 ≤ haulMargin perTonne kg := by
    rw [haulMargin]
    positivity
  have le : (kg : ℚ) ≤ weight := by linarith
  exact_mod_cast le

section Planned

variable {force : Fixed} (rolls : profile.Rolls) (kg_pos : 0 < kg.toInt)
  (resists : zero < profile.resistancePerTonne slope)

include rolls kg_pos resists

/-- A weight up to the one that a force pulls resists with no more than the force and what its
margin weighs. -/
theorem resistance_le_of_planned
    (planned : kg.toInt ≤
      (weightOfTonnes (force / profile.resistancePerTonne slope)).toInt) :
    ((profile.resistance (.single kg slope)).raw : ℚ) ≤
      force.raw + haulMargin (profile.resistancePerTonne slope) kg.toInt *
        (profile.resistancePerTonne slope).raw / 1000 := by
  have whole := resistance_le_of_tonne rolls (le_of_lt kg_pos) slope
  have weighed := (force_of_le_weightOfTonnes resists kg_pos planned).2
  have margin_eq := haulMargin_mul resists kg.toInt
  have bound : 2000000 * (profile.resistance (.single kg slope)).raw ≤ 2000000 * force.raw +
      (11000 * (kg.toInt + 1000) + (profile.resistancePerTonne slope).raw) := by
    omega
  have bound : (2000000 * (profile.resistance (.single kg slope)).raw : ℚ) ≤ 2000000 * force.raw +
      (11000 * (kg.toInt + 1000) + (profile.resistancePerTonne slope).raw) := by
    exact_mod_cast bound
  linarith

/-- A weight that keeps its margin below the one that a force pulls resists with no more than the
force. -/
theorem resistance_le_of_margin
    (planned : kg.toInt + haulMargin (profile.resistancePerTonne slope) kg.toInt ≤
      (weightOfTonnes (force / profile.resistancePerTonne slope)).toInt) :
    profile.resistance (.single kg slope) ≤ force := by
  have kg_le := le_of_add_haulMargin_le resists (le_of_lt kg_pos) planned
  have resists_rat : (0 : ℚ) < (profile.resistancePerTonne slope).raw := by
    exact_mod_cast pos_iff.mp resists
  have whole := resistance_le_of_tonne rolls (le_of_lt kg_pos) slope
  have weighed := (force_of_le_weightOfTonnes resists (by omega)
    (le_refl (weightOfTonnes (force / profile.resistancePerTonne slope)).toInt)).2
  have scaled := mul_le_mul_of_nonneg_right planned
    (by linarith : (0 : ℚ) ≤ 2000 * (profile.resistancePerTonne slope).raw)
  rw [add_mul, haulMargin_mul resists kg.toInt] at scaled
  have scaled : kg.toInt * (2000 * (profile.resistancePerTonne slope).raw) +
      (11000 * (kg.toInt + 1000) + (profile.resistancePerTonne slope).raw) ≤
        (weightOfTonnes (force / profile.resistancePerTonne slope)).toInt *
          (2000 * (profile.resistancePerTonne slope).raw) := by
    exact_mod_cast scaled
  rw [le_def]
  linarith

/-- The starting force lacks no more than the margin of a weight that the planner starts. -/
theorem resistance_le_of_starting
    (planned : kg.toInt ≤ (profile.maxStartingWeight slope).toInt) :
    ((profile.resistance (.single kg slope)).raw : ℚ) ≤
      profile.startingForce.raw + haulMargin (profile.resistancePerTonne slope) kg.toInt *
        (profile.resistancePerTonne slope).raw / 1000 := by
  rw [maxStartingWeight_eq resists] at planned
  exact resistance_le_of_planned rolls kg_pos resists planned

/-- The starting force moves a weight that keeps its margin below the one that the planner
starts. -/
theorem resistance_le_startingForce
    (planned : kg.toInt + haulMargin (profile.resistancePerTonne slope) kg.toInt ≤
      (profile.maxStartingWeight slope).toInt) :
    profile.resistance (.single kg slope) ≤ profile.startingForce := by
  rw [maxStartingWeight_eq resists] at planned
  exact resistance_le_of_margin rolls kg_pos resists planned

end Planned

/-- The heaviest weight at the speed limit follows from a part of the traction there. -/
theorem maxWeight_le (resists : zero < profile.resistancePerTonne slope)
    (moving : Units.slowestKmh ≤ profile.speedLimit) :
    let velocity := Units.velocityOfKmh profile.speedLimit
    (profile.maxWeight slope).toInt ≤ (profile.maxStartingWeight slope).toInt ∧
      ∃ traction ≤ profile.traction velocity, (profile.maxWeight slope).toInt ≤
        (weightOfTonnes ((traction - profile.drag velocity) /
          profile.resistancePerTonne slope)).toInt := by
  have slowest_le : Units.slowestVelocity ≤ Units.velocityOfKmh profile.speedLimit :=
    Units.velocityOfKmh_mono (Int32.le_iff_toInt_le.mp moving)
  have velocity_eq : max (Units.velocityOfKmh profile.speedLimit) Units.slowestVelocity =
      Units.velocityOfKmh profile.speedLimit := max_eq_left slowest_le
  rw [maxWeight, if_pos (isPositive_iff.mpr resists)]
  simp only [velocity_eq]
  rw [toInt_min32]
  exact ⟨min_le_right _ _, _, min_le_right _ _, min_le_left _ _⟩

theorem Regular.traction_ge (regular : profile.Regular) (velocity : Fixed) :
    -limit ≤ (profile.traction velocity).raw := by
  have force_ge := (profile.curves.force (speedIndex velocity)).le_toInt
  rw [regular.traction_eq, raw_thousand]
  simp only [limit]
  omega

/-- A convoy whose traction covers drag and resistance at the speed limit tops out there. -/
theorem Regular.maxSpeed_of_sustained (regular : profile.Regular) {weight : WeightSummary}
    (cap_pos : 0 < profile.speedLimit)
    (sustained : profile.drag (Units.velocityOfKmh profile.speedLimit) +
      profile.resistance weight ≤ profile.traction (Units.velocityOfKmh profile.speedLimit)) :
    profile.maxSpeed weight = profile.speedLimit := by
  have held : profile.sustainsKmh (profile.resistance weight) profile.speedLimit = true :=
    decide_eq_true sustained
  have cap_nonneg := le_of_lt (Int32.lt_iff_toInt_lt.mp cap_pos)
  rcases Bool.eq_false_or_eq_true profile.vehicle.isEmpty with unmanned | manned
  · exact maxSpeed_of_isEmpty cap_pos unmanned
  · have starts : profile.resistance weight ≤ profile.startingForce := by
      by_contra too_heavy
      have fails := regular.not_sustains_of_startingForce_lt
        (Units.velocityOfKmh_nonneg cap_nonneg) (not_le.mp too_heavy)
      rw [sustainsKmh, fails] at held
      exact absurd held (by decide)
    have top := regular.maxSpeed_isTopSpeed cap_pos manned starts
    by_contra below
    have fails := top.fails_above _ (Int32.lt_of_le_of_ne top.le_cap below) (Int32.le_refl _)
    rw [held] at fails
    exact absurd fails (by decide)

section Hauled

variable (regular : profile.Regular) (rolls : profile.Rolls) (kg_pos : 0 < kg.toInt)
  (resists : zero < profile.resistancePerTonne slope)
  (moving : Units.slowestKmh ≤ profile.speedLimit)

include regular rolls kg_pos resists moving

/-- At no speed up to the limit does a planned weight lack more traction than its margin weighs. -/
theorem Regular.drag_add_resistance_le_of_planned
    (planned : kg.toInt ≤ (profile.maxWeight slope).toInt) {kmh : Int32} (nonneg : 0 ≤ kmh)
    (le : kmh ≤ profile.speedLimit) :
    ((profile.drag (Units.velocityOfKmh kmh) + profile.resistance (.single kg slope)).raw : ℚ) ≤
      (profile.traction (Units.velocityOfKmh kmh)).raw +
        haulMargin (profile.resistancePerTonne slope) kg.toInt *
          (profile.resistancePerTonne slope).raw / 1000 := by
  obtain ⟨-, traction, traction_le, weight_le⟩ := maxWeight_le resists moving
  have planned := planned.trans weight_le
  have available_pos := (force_of_le_weightOfTonnes resists kg_pos planned).1
  have resistance_le := resistance_le_of_planned rolls kg_pos resists planned
  have available_le := raw_sub_le_of_pos available_pos
  have velocity_nonneg := Units.velocityOfKmh_nonneg (Int32.le_iff_toInt_le.mp nonneg)
  have velocity_le := Units.velocityOfKmh_mono (Int32.le_iff_toInt_le.mp le)
  have drag_le := regular.drag_mono velocity_nonneg velocity_le
  have traction_ge := regular.traction_anti velocity_nonneg velocity_le
  have drag_nonneg := regular.drag_velocity_nonneg velocity_nonneg
  have resistance_ge := resistance_ge profile (.single kg slope)
  rw [nonneg_iff] at drag_nonneg
  rw [le_def] at traction_le drag_le traction_ge
  have sum_le : (profile.drag (Units.velocityOfKmh kmh) +
      profile.resistance (.single kg slope)).raw ≤ (profile.resistance (.single kg slope)).raw +
        ((profile.traction (Units.velocityOfKmh kmh)).raw -
          (traction - profile.drag (Units.velocityOfKmh profile.speedLimit)).raw) := by
    rw [raw_add]
    omega
  have sum_le : ((profile.drag (Units.velocityOfKmh kmh) +
      profile.resistance (.single kg slope)).raw : ℚ) ≤
        (profile.resistance (.single kg slope)).raw +
          ((profile.traction (Units.velocityOfKmh kmh)).raw -
            (traction - profile.drag (Units.velocityOfKmh profile.speedLimit)).raw) := by
    exact_mod_cast sum_le
  linarith

/-- A convoy whose weight keeps its margin below the planned one tops out at the speed limit. -/
theorem Regular.maxSpeed_of_margin
    (planned : kg.toInt + haulMargin (profile.resistancePerTonne slope) kg.toInt ≤
      (profile.maxWeight slope).toInt) :
    profile.maxSpeed (.single kg slope) = profile.speedLimit := by
  obtain ⟨-, traction, traction_le, weight_le⟩ := maxWeight_le resists moving
  have planned := planned.trans (Int.cast_le.mpr weight_le)
  have kg_le := le_of_add_haulMargin_le resists (le_of_lt kg_pos) planned
  have available_pos := (force_of_le_weightOfTonnes resists kg_pos kg_le).1
  have resistance_le := resistance_le_of_margin rolls kg_pos resists planned
  have available_le := raw_sub_le_of_pos available_pos
  have traction_ge := regular.traction_ge (Units.velocityOfKmh profile.speedLimit)
  have cap_pos : 0 < profile.speedLimit := by
    rw [Int32.le_iff_toInt_le] at moving
    rw [Int32.lt_iff_toInt_lt]
    exact lt_of_lt_of_le (by decide) moving
  apply regular.maxSpeed_of_sustained cap_pos
  rw [le_def] at traction_le resistance_le ⊢
  rw [raw_add]
  omega

end Hauled

section Free

variable {way : Way} (regular : profile.Regular) (rolls : profile.Rolls)
  (rolling_eq : profile.adverse.rolling = way.resistance.rolling) (nonneg : 0 ≤ kg.toInt)
  (free : profile.resistancePerTonne slope ≤ zero)

include rolls rolling_eq nonneg free

theorem resistance_nonpos_of_free : profile.resistance (.single kg slope) ≤ zero :=
  resistance_nonpos rolls nonneg (pull_nonpos rolls rolling_eq free)

include regular

/-- Where one tonne does not resist, a convoy that overcomes drag at the speed limit tops out
there. -/
theorem Regular.maxSpeed_of_free (cap_pos : 0 < profile.speedLimit)
    (drag_le : profile.drag (Units.velocityOfKmh profile.speedLimit) ≤
      profile.traction (Units.velocityOfKmh profile.speedLimit)) :
    profile.maxSpeed (.single kg slope) = profile.speedLimit := by
  have cap_nonneg := le_of_lt (Int32.lt_iff_toInt_lt.mp cap_pos)
  have drag_nonneg := regular.drag_velocity_nonneg (Units.velocityOfKmh_nonneg cap_nonneg)
  apply regular.maxSpeed_of_sustained cap_pos
  exact (add_le_left drag_nonneg (resistance_nonpos_of_free rolls rolling_eq nonneg free)).trans
    drag_le

end Free

end Profile

theorem VehicleSource.startingForce_nonneg {σ : Type} [Source σ] [VehicleSource σ] (source : σ) :
    zero ≤ (Profile.ofSource source).startingForce := by
  have force_nonneg : 0 ≤ ((Source.curves source).force 0).toInt := by
    rw [VehicleSource.curves_eq]
    exact Curves.totalForce_nonneg _ _ 0
  change zero ≤ thousand ((Source.curves source).force 0)
  rw [nonneg_iff, raw_thousand]
  omega

namespace Memo

variable {σ : Type}

/-- What the planner promises the search keeps, up to the rounding of the resistance of one tonne.
A weight that keeps its margin below the heaviest one for a slope is started and pulled at the speed
limit; one that does not lacks no more traction than its margin weighs.  On a slope on which one
tonne does not resist no weight is too heavy, and the convoy tops out at the speed limit if its
traction overcomes the drag there. -/
theorem planned_weight_hauled [Source σ] [RollingSource σ] (memo : Memo σ)
    (agrees : memo.cache.Agrees memo.source)
    (nonempty : VehicleSource.vehicles memo.source ≠ []) (kg slope : Int32)
    (kg_pos : 0 < kg.toInt) :
    let weight : WeightSummary := .single kg slope
    let cap := (memo.ask .speedLimit).1
    let top := (memo.ask (.maxSpeed weight)).1
    let resistance := (memo.ask (.resistance weight)).1
    let perTonne := (memo.ask (.resistance (.single 1000 slope))).1
    let startingForce := (memo.ask .startingForce).1
    let traction := fun kmh : Int32 => (memo.ask (.traction (Units.velocityOfKmh kmh))).1
    let drag := fun kmh : Int32 =>
      (memo.ask .adverse).1.drag * Units.velocityOfKmh kmh * Units.velocityOfKmh kmh
    let startingWeight := (memo.ask (.maxStartingWeight slope)).1
    let hauledWeight := (memo.ask (.maxWeight slope)).1
    let margin := Profile.haulMargin perTonne kg.toInt
    let shortfall := margin * perTonne.raw / 1000
    (zero < perTonne →
      (kg.toInt + margin ≤ startingWeight.toInt → resistance ≤ startingForce) ∧
        (kg ≤ startingWeight → (resistance.raw : ℚ) ≤ startingForce.raw + shortfall) ∧
        (Units.slowestKmh ≤ cap →
          (kg.toInt + margin ≤ hauledWeight.toInt → top = cap) ∧
            (kg ≤ hauledWeight → ∀ kmh, 0 ≤ kmh → kmh ≤ cap →
              ((drag kmh + resistance).raw : ℚ) ≤ (traction kmh).raw + shortfall))) ∧
      (perTonne ≤ zero →
        startingWeight = Units.unlimitedWeight ∧ hauledWeight = Units.unlimitedWeight ∧
          resistance ≤ startingForce ∧ (0 < cap → drag cap ≤ traction cap → top = cap)) := by
  have regular := VehicleSource.regular memo.source
  have rolls := RollingSource.rolls nonempty
  obtain ⟨way, rolling_eq⟩ := RollingSource.rolling_eq memo.source nonempty
  simp only [ask_answer agrees]
  refine ⟨fun resists => ⟨?_, fun le => ?_, fun moving => ⟨?_, fun le kmh => ?_⟩⟩,
    fun free => ⟨(Profile.weights_unlimited free).1, (Profile.weights_unlimited free).2, ?_, ?_⟩⟩
  · exact Profile.resistance_le_startingForce rolls kg_pos resists
  · exact Profile.resistance_le_of_starting rolls kg_pos resists (Int32.le_iff_toInt_le.mp le)
  · exact regular.maxSpeed_of_margin rolls kg_pos resists moving
  · exact regular.drag_add_resistance_le_of_planned rolls kg_pos resists moving
      (Int32.le_iff_toInt_le.mp le)
  · exact (Profile.resistance_nonpos_of_free rolls rolling_eq (le_of_lt kg_pos) free).trans
      (VehicleSource.startingForce_nonneg memo.source)
  · exact regular.maxSpeed_of_free rolls rolling_eq (le_of_lt kg_pos) free

/-- A fresh memo of an engine of 80 t. -/
def engineAlone (way : Way) (topKmh : Int32) (powerKw effortKn : UInt32) : Memo Consist :=
  ⟨⟨[{ Vehicle.engine "Freight" way 80 topKmh powerKw with effortKn }], {}⟩, .empty⟩

/-- One kg below the heaviest weight on a slope the maglev engine keeps its speed limit. -/
theorem maglev_hauls_1019150 :
    let memo := engineAlone .maglev 36 5000 26
    (memo.ask (.maxWeight 1)).1 = 1019151 ∧
      (memo.ask (.maxSpeed (.single 1019150 1))).1 = 36 := by
  intro memo
  have per_tonne_eq : ((memo.ask (.resistance (.single 1000 1))).1).raw = 25721801 := by
    decide +kernel
  have speedLimit_eq : (memo.ask .speedLimit).1 = 36 := by decide +kernel
  have weight_eq : (memo.ask (.maxWeight 1)).1 = 1019151 := by decide +kernel
  refine ⟨weight_eq, ?_⟩
  have resists : zero < (memo.ask (.resistance (.single 1000 1))).1 := by
    rw [pos_iff, per_tonne_eq]
    decide
  have hauled := (memo.planned_weight_hauled (Cache.agrees_empty _) (by decide) 1019150 1
    (by decide)).1 resists
  simp only [speedLimit_eq, weight_eq, Profile.haulMargin, per_tonne_eq] at hauled
  refine (hauled.2.2 (by decide)).1 ?_
  simp only [Int32.reduceToInt]
  norm_num

/-- Rounding makes the heaviest weight too heavy, to start and to pull at the speed limit; and down
a slope on which no weight is too heavy for the planner an engine of 10 kW does not overcome the
drag at its speed limit. -/
theorem planned_weight_too_heavy :
    let starting := engineAlone .maglev 160 5000 25
    let running := engineAlone .maglev 36 5000 26
    let descending := engineAlone .track 200 10 10
    ((starting.ask (.maxStartingWeight 1)).1 = 1019151 ∧
        (starting.ask .startingForce).1 < (starting.ask (.resistance (.single 1019151 1))).1) ∧
      ((running.ask .speedLimit).1 = 36 ∧ (running.ask (.maxWeight 1)).1 = 1019151 ∧
        (running.ask (.maxSpeed (.single 1019151 1))).1 = 35) ∧
      ((descending.ask .speedLimit).1 = 200 ∧
        (descending.ask (.maxWeight (-10))).1 = Units.unlimitedWeight ∧
        (descending.ask (.maxSpeed (.single 20000 (-10)))).1 = 39) := by
  intro starting running descending
  exact ⟨by decide +kernel, by decide +kernel, by decide +kernel⟩

end Memo

end Haulage
