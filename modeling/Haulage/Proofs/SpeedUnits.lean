import Haulage.Proofs.Conversions

/-!
# Speeds read back

A speed in whole units survives the way into metres per second and back, at both ends of the word
too, and every usual speed in km/h survives the way into simulation speeds and back.  All
conversions to and from metres per second keep the order of speeds.
-/

namespace Haulage

open Fixed

theorem Fixed.round32_mono {a b : Fixed} (le : a ≤ b) : a.round32.toInt ≤ b.round32.toInt :=
  ofIntClamp32_mono (round_mono le)

namespace Units

theorem raw_velocityOfKmh (kmh : Int32) :
    (velocityOfKmh kmh).raw = (2 * (kmh.toInt * 10485760) + 36) / 72 := by
  have low := kmh.le_toInt
  have high := kmh.toInt_lt
  rw [velocityOfKmh, ratio, quotient_of_pos (by decide), roundQuotient_of_pos (by decide),
    raw_saturate]
  simp only [scale, limit]
  omega

/-- A unit is 22755 counts and more, so half a count does not matter. -/
theorem speed_read_back (speed : Int32) :
    speedOfVelocity (velocityOfSpeed speed) = speed := by
  have low := speed.le_toInt
  have high := speed.toInt_lt
  apply Int32.toInt_inj.mp
  rw [speedOfVelocity, toInt_round32, raw_mulInt_divInt _ _ (by decide), raw_velocityOfSpeed]
  simp only [speedDenominator, speedNumerator, limit]
  omega

theorem kmh_read_back (kmh : Int32) : kmhOfVelocity (velocityOfKmh kmh) = kmh := by
  have low := kmh.le_toInt
  have high := kmh.toInt_lt
  apply Int32.toInt_inj.mp
  rw [kmhOfVelocity, toInt_round32, raw_mulInt_divInt _ _ (by decide), raw_velocityOfKmh]
  simp only [limit]
  omega

theorem kmhOfVelocity_mono {a b : Fixed} (le : a ≤ b) :
    (kmhOfVelocity a).toInt ≤ (kmhOfVelocity b).toInt :=
  round32_mono (divInt_le_divInt (by decide) (mulInt_le_mulInt le (by decide)))

/-- What is cut off towards zero is less than a unit, and 511 makes up for it on either side. -/
theorem usual_kmh_read_back {kmh : Int32} (usual : |kmh.toInt| ≤ unlimitedKmh.toInt) :
    kmhOfSpeed (speedOfKmh kmh) = kmh := by
  obtain ⟨low, high⟩ := abs_le.mp usual
  have unlimited_eq : unlimitedKmh.toInt = 300000 := by decide
  have whole_eq := Int.mul_tdiv_add_tmod (kmh.toInt * 1024) 80
  have rest_lt := Int.tmod_lt_of_pos (kmh.toInt * 1024) (by decide : (0 : Int) < 80)
  have lt_rest := Int.lt_tmod_of_pos (kmh.toInt * 1024) (by decide : (0 : Int) < 80)
  have speed_eq : (speedOfKmh kmh).toInt = (kmh.toInt * 1024).tdiv 80 := by
    rw [speedOfKmh, speedFactor, toInt_ofInt32] <;> omega
  apply Int32.toInt_inj.mp
  rw [kmhOfSpeed, speed_eq, speedFactor, toInt_ofInt32] <;> omega

/-- Speeds read back exactly and not only to within one unit, and the conversions to and from metres
per second never change the order of two speeds. -/
theorem speeds_read_back :
    (∀ speed : Int32, speedOfVelocity (velocityOfSpeed speed) = speed) ∧
      (∀ kmh : Int32, kmhOfVelocity (velocityOfKmh kmh) = kmh) ∧
      (∀ kmh : Int32, |kmh.toInt| ≤ unlimitedKmh.toInt → kmhOfSpeed (speedOfKmh kmh) = kmh) ∧
      (∀ a b : Int32, a ≤ b →
        velocityOfKmh a ≤ velocityOfKmh b ∧ velocityOfSpeed a ≤ velocityOfSpeed b) ∧
      ∀ a b : Fixed, a ≤ b →
        kmhOfVelocity a ≤ kmhOfVelocity b ∧ speedOfVelocity a ≤ speedOfVelocity b := by
  refine ⟨speed_read_back, kmh_read_back,
    fun _ => usual_kmh_read_back, fun a b le => ?_, fun a b le => ?_⟩
  · have le := Int32.le_iff_toInt_le.mp le
    exact ⟨velocityOfKmh_mono le, velocityOfSpeed_mono le⟩
  · exact ⟨Int32.le_iff_toInt_le.mpr (kmhOfVelocity_mono le),
      Int32.le_iff_toInt_le.mpr (speedOfVelocity_mono le)⟩

/-- The fastest usual speed backwards, both ends of a 32-bit word, and the one count that is below
the symmetric range. -/
theorem extreme_speeds_read_back :
    kmhOfSpeed (speedOfKmh (-300000)) = -300000 ∧
      speedOfVelocity (velocityOfSpeed Int32.minValue) = Int32.minValue ∧
      kmhOfVelocity (velocityOfKmh Int32.maxValue) = Int32.maxValue ∧
      velocityOfSpeed (-1) ≤ velocityOfSpeed 0 ∧
      speedOfVelocity ⟨lowestWord, by decide⟩ ≤ speedOfVelocity least := by
  obtain ⟨speed_back, kmh_back, usual_back, ordered, ordered_back⟩ := speeds_read_back
  exact ⟨usual_back (-300000) (by decide), speed_back _, kmh_back _,
    (ordered (-1) 0 (by decide)).2, (ordered_back ⟨lowestWord, by decide⟩ least (by decide)).2⟩

end Units

end Haulage
