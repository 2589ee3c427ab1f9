import Haulage.Proofs.Curves
import Mathlib.Algebra.Order.BigOperators.Group.List

/-!
# Exact sums of the curves

Force, power and brake force of a list of vehicles are summed in a clamped 64-bit word, multiplied
into another one, and clamped into 32 bits.  No vehicle adds less than nothing, so only the last
clamp is ever seen: what a 64-bit word cuts off is beyond 32 bits even after the gear is taken out.
-/

namespace Haulage

open Fixed

theorem sum_map_nonneg {α : Type} {part : α → Int} (nonneg : ∀ item, 0 ≤ part item)
    (items : List α) : 0 ≤ (items.map part).sum := by
  apply List.sum_nonneg
  intro term term_mem
  obtain ⟨item, -, rfl⟩ := List.mem_map.mp term_mem
  exact nonneg item

/-- A sum of what is not negative, clamped at every step, is the whole sum clamped once. -/
theorem toInt_foldl_clamped {α : Type} {part : α → Int} (nonneg : ∀ item, 0 ≤ part item)
    (items : List α) (start : Int64) (start_nonneg : 0 ≤ start.toInt) :
    ((items.map part).foldl
        (fun sum index => Int64.ofIntClamp (sum.toInt + index)) start).toInt =
      min (start.toInt + (items.map part).sum) 9223372036854775807 := by
  induction items generalizing start with
  | nil =>
    have start_lt := start.toInt_lt
    simp only [List.map_nil, List.foldl_nil, List.sum_nil]
    omega
  | cons item items ih =>
    have item_nonneg := nonneg item
    have rest_nonneg := sum_map_nonneg nonneg items
    have first : (Int64.ofIntClamp (start.toInt + part item)).toInt =
        min (start.toInt + part item) 9223372036854775807 := by
      rw [toInt_ofIntClamp64]
      omega
    rw [List.map_cons, List.foldl_cons, List.sum_cons, ih _ (by omega), first]
    omega

theorem toInt_clampedSum {α : Type} {part : α → Int} (nonneg : ∀ item, 0 ≤ part item)
    (items : List α) :
    (clampedSum (items.map part)).toInt = min (items.map part).sum 9223372036854775807 := by
  rw [clampedSum, toInt_foldl_clamped nonneg items 0 (by decide), Int64.toInt_zero, Int.zero_add]

/-- The product is clamped only where its quotient is beyond 32 bits. -/
theorem min_clamped_product_div {total percent : Int} (total_nonneg : 0 ≤ total)
    (percent_nonneg : 0 ≤ percent) :
    min (min (min total 9223372036854775807 * percent) 9223372036854775807 / 6400) 2147483647 =
      min (total * percent / 6400) 2147483647 := by
  rcases percent_nonneg.eq_or_lt with rfl | some_power
  · simp
  · rcases le_total total 9223372036854775807 with fits | beyond
    · rw [min_eq_left fits]
      omega
    · have product_ge : 9223372036854775807 ≤ total * percent :=
        beyond.trans (le_mul_of_one_le_right total_nonneg some_power)
      rw [min_eq_right beyond]
      omega

/-- A clamped index has the value of the exact one, but for the clamp into 32 bits. -/
theorem World.toInt_valueOfIndex (world : World) {index : Int64} {total : Int}
    (nonneg : 0 ≤ total) (clamped : index.toInt = min total 9223372036854775807) :
    (Int32.ofIntClamp (world.valueOfIndex index)).toInt =
      min (total * world.powerPercent.toNat / 6400) 2147483647 := by
  have percent_nonneg := Int.natCast_nonneg world.powerPercent.toNat
  have product_nonneg : 0 ≤ index.toInt * world.powerPercent.toNat :=
    Int.mul_nonneg (by omega) percent_nonneg
  have product_clamped : (Int64.ofIntClamp (index.toInt * world.powerPercent.toNat)).toInt =
      min (index.toInt * world.powerPercent.toNat) 9223372036854775807 := by
    rw [toInt_ofIntClamp64]
    omega
  have value_eq : world.valueOfIndex index =
      min (index.toInt * world.powerPercent.toNat) 9223372036854775807 / 6400 := by
    rw [valueOfIndex, product_clamped]
    exact Int.tdiv_eq_ediv_of_nonneg (by omega)
  have value_nonneg : 0 ≤ world.valueOfIndex index := by
    rw [value_eq]
    omega
  rw [toInt_ofIntClamp32, max_eq_right (by omega), value_eq, clamped,
    min_clamped_product_div nonneg percent_nonneg]

theorem Way.brakeForce_nonneg (way : Way) (tonnes : UInt32) : 0 ≤ way.brakeForce tonnes := by
  have rate_nonneg : zero ≤ way.resistance.braking := by cases way <;> decide
  exact Int.le_trans (by decide)
    (round_mono (mulInt_nonneg rate_nonneg (Int.natCast_nonneg tonnes.toNat)))

theorem Vehicle.brakeForce_nonneg (vehicle : Vehicle) : 0 ≤ vehicle.brakeForce := by
  unfold brakeForce
  split
  · exact Int.natCast_nonneg _
  · exact Way.brakeForce_nonneg _ _

namespace Curves

theorem toInt_totalForce (vehicles : List Vehicle) (world : World) (speed : UInt32) :
    (totalForce vehicles world speed).toInt =
      min ((vehicles.map fun vehicle => (vehicle.forceIndex speed : Int)).sum *
        world.powerPercent.toNat / 6400) 2147483647 := by
  have index_nonneg : ∀ vehicle : Vehicle, 0 ≤ (vehicle.forceIndex speed : Int) :=
    fun _ => Int.natCast_nonneg _
  exact world.toInt_valueOfIndex (sum_map_nonneg index_nonneg vehicles)
    (toInt_clampedSum index_nonneg vehicles)

theorem toInt_totalPower (vehicles : List Vehicle) (world : World) :
    (totalPower vehicles world).toInt =
      min ((vehicles.map fun vehicle => (vehicle.powerIndex : Int)).sum *
        world.powerPercent.toNat / 6400) 2147483647 := by
  have index_nonneg : ∀ vehicle : Vehicle, 0 ≤ (vehicle.powerIndex : Int) :=
    fun _ => Int.natCast_nonneg _
  exact world.toInt_valueOfIndex (sum_map_nonneg index_nonneg vehicles)
    (toInt_clampedSum index_nonneg vehicles)

theorem toInt_totalBrake (vehicles : List Vehicle) :
    (totalBrake vehicles).toInt = min (vehicles.map Vehicle.brakeForce).sum 2147483647 := by
  have total_nonneg := sum_map_nonneg Vehicle.brakeForce_nonneg vehicles
  rw [totalBrake, toInt_ofIntClamp32, toInt_clampedSum Vehicle.brakeForce_nonneg]
  omega

theorem totalForce_nonneg (vehicles : List Vehicle) (world : World) (speed : UInt32) :
    0 ≤ (totalForce vehicles world speed).toInt := by
  have force_nonneg := sum_map_nonneg
    (fun vehicle : Vehicle => Int.natCast_nonneg (vehicle.forceIndex speed)) vehicles
  rw [toInt_totalForce]
  exact le_min (Int.ediv_nonneg (Int.mul_nonneg force_nonneg (Int.natCast_nonneg _)) (by decide))
    (by decide)

theorem totalBrake_nonneg (vehicles : List Vehicle) : 0 ≤ (totalBrake vehicles).toInt := by
  rw [toInt_totalBrake]
  exact le_min (sum_map_nonneg Vehicle.brakeForce_nonneg vehicles) (by decide)

/-- Force, power and brake force of any list of vehicles are those of the exact sums, clamped into
32 bits once.  None is negative, and force does not rise with the speed. -/
theorem exact_sums (vehicles : List Vehicle) (world : World) :
    let percent : Int := world.powerPercent.toNat
    let force := fun speed => (vehicles.map fun vehicle => (vehicle.forceIndex speed : Int)).sum
    let power := (vehicles.map fun vehicle => (vehicle.powerIndex : Int)).sum
    let brake := (vehicles.map Vehicle.brakeForce).sum
    (∀ speed, (totalForce vehicles world speed).toInt =
        min (force speed * percent / 6400) 2147483647) ∧
      (totalPower vehicles world).toInt = min (power * percent / 6400) 2147483647 ∧
      (totalBrake vehicles).toInt = min brake 2147483647 ∧
      (∀ speed, 0 ≤ totalForce vehicles world speed) ∧
      0 ≤ totalPower vehicles world ∧
      0 ≤ totalBrake vehicles ∧
      ∀ slow fast, slow ≤ fast →
        totalForce vehicles world fast ≤ totalForce vehicles world slow := by
  intro percent force power brake
  refine ⟨toInt_totalForce vehicles world, toInt_totalPower vehicles world,
    toInt_totalBrake vehicles, fun speed => ?_, ?_, ?_, fun slow fast le => ?_⟩
  · rw [Int32.le_iff_toInt_le]
    exact totalForce_nonneg vehicles world speed
  · have power_nonneg : 0 ≤ power := sum_map_nonneg (fun _ => Int.natCast_nonneg _) vehicles
    rw [Int32.le_iff_toInt_le, toInt_totalPower]
    exact le_min (Int.ediv_nonneg (Int.mul_nonneg power_nonneg (Int.natCast_nonneg _)) (by decide))
      (by decide)
  · rw [Int32.le_iff_toInt_le]
    exact totalBrake_nonneg vehicles
  · exact Int32.le_iff_toInt_le.mpr (totalForce_anti vehicles world (UInt32.le_iff_toNat_le.mp le))

/-- Two engines of 1000 kW with a gear ratio of 1.5 make 3000 kW, and force falls from 2700 kN at a
standstill to 150 kN at 20 m/s; two of the strongest engines there are make what 32 bits hold. -/
theorem geared_pair_sums :
    let geared : Vehicle := { Vehicle.engine "Geared" .track 80 160 1000 with gear := 96 }
    let strongest : Vehicle :=
      { Vehicle.engine "Strongest" .maglev 80 160 4294967295 with gear := 65535 }
    (totalForce [geared, geared] {} 0).toInt = 2700 ∧
      (totalForce [geared, geared] {} 20).toInt = 150 ∧
      totalForce [geared, geared] {} 20 ≤ totalForce [geared, geared] {} 0 ∧
      (totalPower [geared, geared] {}).toInt = 3000 ∧
      (totalBrake [geared, geared]).toInt = 80 ∧
      (totalPower [strongest, strongest] { powerPercent := 4294967295 }).toInt = 2147483647 := by
  intro geared strongest
  obtain ⟨force_eq, power_eq, brake_eq, -, -, -, anti⟩ := exact_sums [geared, geared] {}
  obtain ⟨-, strongest_eq, -⟩ :=
    exact_sums [strongest, strongest] { powerPercent := 4294967295 }
  exact ⟨(force_eq 0).trans (by decide +kernel), (force_eq 20).trans (by decide +kernel),
    anti 0 20 (by decide), power_eq.trans (by decide +kernel), brake_eq.trans (by decide +kernel),
    strongest_eq.trans (by decide +kernel)⟩

end Curves

end Haulage
