import Haulage.Proofs.Conversions
import Haulage.Proofs.Exactness

/-!
# One rounding or two

A velocity becomes a speed in whole units in two steps: its multiple is rounded to counts, and the
counts to a whole number.  The first step adds half a count at most.  What a multiple in simulation
speeds lacks to a half is 128/25 counts or a multiple of that, so the first step never carries it
across, and both steps together round once.  A multiple in km/h can lack as little as two fifths of
a count.  One velocity in every 2621440 does, and it is rounded up although it is below a half.
-/

namespace Haulage

open Fixed

/-- The whole number nearest to an exact one, a tie rounded up, moved into a 32-bit word. -/
def nearestWord (exact : ℚ) : Int := max (-2147483648) (min ⌊exact + 1 / 2⌋ 2147483647)

namespace Units

/-- The velocity is two fifths of a count below the middle between two whole speeds in km/h. -/
def JustBelowTie (velocity : Fixed) : Prop :=
  ∃ kmh : Int, 36 * velocity.value / 10 = kmh + 1 / 2 - 2 / 5 / 1048576

/-- A multiple of a velocity, rounded once. -/
theorem floor_multiple (velocity : Fixed) (num den : Int) (pos : 0 < den) :
    ⌊num * velocity.value / den + 1 / 2⌋ =
      (2 * (velocity.raw * num) + den * 1048576) / (2 * (den * 1048576)) := by
  have exact_eq : num * velocity.value / den =
      ((velocity.raw * num : Int) : ℚ) / ((den * 1048576 : Int) : ℚ) := by
    rw [value, Int.cast_mul, Int.cast_mul]
    push_cast
    rw [mul_div_assoc', div_div, mul_comm (num : ℚ), mul_comm (1048576 : ℚ)]
  rw [exact_eq, ← roundQuotient_eq_floor_of_pos (by omega), roundQuotient_of_pos (by omega)]

theorem justBelowTie_iff {velocity : Fixed} :
    JustBelowTie velocity ↔ velocity.raw % 2621440 = 1601991 := by
  have exact_iff (kmh : Int) : 36 * velocity.value / 10 = kmh + 1 / 2 - 2 / 5 / 1048576 ↔
      18 * velocity.raw = 5242880 * kmh + 2621438 := by
    rw [← Int.cast_inj (α := ℚ), value]
    push_cast
    constructor <;> intro equal <;> linarith
  simp only [JustBelowTie, exact_iff]
  constructor
  · rintro ⟨kmh, equal⟩
    omega
  · intro residue
    exact ⟨(18 * velocity.raw - 2621438) / 5242880, by omega⟩

instance (velocity : Fixed) : Decidable (JustBelowTie velocity) :=
  decidable_of_iff _ justBelowTie_iff.symm

theorem toInt_speedOfVelocity_eq (velocity : Fixed) :
    (speedOfVelocity velocity).toInt = nearestWord (36864 * velocity.value / 800) := by
  have fits := velocity.fits
  have floor_eq := floor_multiple velocity 36864 800 (by decide)
  push_cast at floor_eq
  rw [speedOfVelocity, toInt_round32, raw_mulInt_divInt _ _ (by decide), nearestWord, floor_eq]
  simp only [speedDenominator, speedNumerator, limit]
  omega

/-- Rounding to a count first does not matter unless two fifths are lacking. -/
theorem round_twice_eq {count : Int} (untied : count % 2621440 ≠ 1601991) :
    ((2 * (count * 36) + 10) / 20 + 524288) / 1048576 =
      (2 * (count * 36) + 10485760) / 20971520 := by
  -- A count carried across a half lacked one or two fifths, and `18 * count` is even.
  generalize rounded_eq : (2 * (count * 36) + 10) / 20 = rounded
  generalize once_eq : (2 * (count * 36) + 10485760) / 20971520 = once
  have near : 5 * rounded - 2 ≤ 18 * count ∧ 18 * count ≤ 5 * rounded + 2 := by omega
  have carried : (rounded + 524288) / 1048576 ≤ once := by
    by_contra above
    have tie : 9 * count = 2621440 * once + 1310719 := by omega
    omega
  omega

theorem toInt_kmhOfVelocity_eq (velocity : Fixed) :
    (kmhOfVelocity velocity).toInt =
      nearestWord (36 * velocity.value / 10 + if JustBelowTie velocity then 1 else 0) := by
  have fits := velocity.fits
  have floor_eq := floor_multiple velocity 36 10 (by decide)
  push_cast at floor_eq
  rw [kmhOfVelocity, toInt_round32, raw_mulInt_divInt _ _ (by decide), nearestWord]
  split
  · next tied =>
    rw [justBelowTie_iff] at tied
    rw [add_right_comm, Int.floor_add_one, floor_eq]
    simp only [limit]
    omega
  · next untied =>
    rw [justBelowTie_iff] at untied
    have once := round_twice_eq untied
    rw [add_zero, floor_eq]
    simp only [limit]
    omega

/-- Simulation speeds are the exact multiple of a velocity rounded once, half up, and moved into a
32-bit word.  So are speeds in km/h, but for the velocities just below a tie, which are rounded up;
no intermediate clamping shows in either. -/
theorem speeds_rounded_once (velocity : Fixed) :
    (speedOfVelocity velocity).toInt = nearestWord (36864 * velocity.value / 800) ∧
      (kmhOfVelocity velocity).toInt =
        nearestWord (36 * velocity.value / 10 + if JustBelowTie velocity then 1 else 0) :=
  ⟨toInt_speedOfVelocity_eq velocity, toInt_kmhOfVelocity_eq velocity⟩

/-- A velocity of 1601991 counts is less than 5.5 km/h and is told as 6 km/h. -/
theorem kmh_above_nearest :
    36 * (ofRaw 1601991).value / 10 < 5 + 1 / 2 ∧
      nearestWord (36 * (ofRaw 1601991).value / 10) = 5 ∧ kmhOfVelocity (ofRaw 1601991) = 6 := by
  have floor_eq := floor_multiple (ofRaw 1601991) 36 10 (by decide)
  have raw_eq : (ofRaw 1601991).raw = 1601991 := rfl
  push_cast at floor_eq
  refine ⟨?_, ?_, by decide⟩
  · rw [value, raw_eq]
    norm_num
  · rw [nearestWord, floor_eq, raw_eq]
    decide

end Units

end Haulage
