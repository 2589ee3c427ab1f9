import Haulage.Profile

/-!
# Haulage limits

The heaviest gross weight that a convoy starts, or pulls at its speed limit, on a slope.
-/

namespace Haulage

namespace Profile

/-- Resistance in N of one tonne on a slope in thousandths. -/
def resistancePerTonne (profile : Profile) (slope : Int32) : Fixed :=
  profile.resistance (.single 1000 slope)

/-- A weight in tonnes as whole kg, at most the weight that stands for "no limit". -/
def weightOfTonnes (tonnes : Fixed) : Int32 :=
  if tonnes.isPositive then
    .ofInt (min (tonnes.mulInt 1000).floor Units.unlimitedWeight.toInt)
  else
    0

/-- The heaviest weight in kg that the starting force moves on a slope in thousandths. -/
def maxStartingWeight (profile : Profile) (slope : Int32) : Int32 :=
  let perTonne := profile.resistancePerTonne slope
  if perTonne.isPositive then weightOfTonnes (profile.startingForce / perTonne)
  else Units.unlimitedWeight

/-- The heaviest weight in kg that the convoy pulls at its speed limit on a slope in thousandths,
never more than it can start. -/
def maxWeight (profile : Profile) (slope : Int32) : Int32 :=
  let perTonne := profile.resistancePerTonne slope
  if perTonne.isPositive then
    let velocity := max (Units.velocityOfKmh profile.speedLimit) Units.slowestVelocity
    let traction := min (profile.continuousPower / velocity) (profile.traction velocity)
    let available := traction - profile.drag velocity
    min (weightOfTonnes (available / perTonne)) (profile.maxStartingWeight slope)
  else
    Units.unlimitedWeight

end Profile

end Haulage
