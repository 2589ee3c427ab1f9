import Haulage.Profile

/-!
# Braking distance

The distance to a standstill is summed over bins of half a metre per second.  Each bin takes the
deceleration at its lower end and the speed at its upper end, so the sum is never too short.
`Fixed.greatest` stands for a convoy that brakes, drag and resistance together cannot stop.
-/

namespace Haulage

namespace Profile

/-- Width of a bin in m/s. -/
def brakeBin : Fixed := .half

/-- Bins of the sum; a higher speed is taken for their upper end. -/
def brakeBins : Nat := 4096

/-- Lower end of a bin, m/s. -/
def binFloor (bin : Nat) : Fixed := brakeBin.mulInt bin

/-- The highest speed that the bins cover, m/s. -/
def brakeCap : Fixed := binFloor brakeBins

/-- What slows the convoy down in a bin against a resistance, N. -/
def binForce (profile : Profile) (resistance : Fixed) (bin : Nat) : Fixed :=
  let low := binFloor bin
  profile.brakingForce (speedIndex low) + profile.drag low + resistance

/-- The braking distance of a mass from the speed `top` inside a bin, given the distance `below`
from the lower end of the bin. -/
def throughBin (profile : Profile) (resistance mass : Fixed) (bin : Nat) (top below : Fixed) :
    Fixed :=
  if below = .greatest then .greatest
  else
    let force := profile.binForce resistance bin
    if force.isPositive then below + (top - binFloor bin) * top * mass / force else .greatest

/-- The braking distance of a mass from the lower end of a bin. -/
def stoppingDistance (profile : Profile) (resistance mass : Fixed) : Nat → Fixed
  | 0 => .zero
  | bin + 1 =>
      profile.throughBin resistance mass bin (binFloor (bin + 1))
        (profile.stoppingDistance resistance mass bin)

/-- The bin whose lower end is the last one not above a velocity. -/
def binOf (velocity : Fixed) : Nat := (velocity.raw / brakeBin.raw).toNat

/-- The braking distance of `weight` from a velocity, where `stopping` tells it at the lower ends
of the bins. -/
def brakingDistanceBy (profile : Profile) (weight : WeightSummary) (stopping : Nat → Fixed)
    (velocity : Fixed) : Fixed :=
  if velocity.isPositive && 0 < weight.weight then
    let top := min velocity brakeCap
    let bin := binOf top
    if top = binFloor bin then stopping bin
    else
      profile.throughBin (profile.resistance weight) (.ofInt weight.weight.toInt) bin top
        (stopping bin)
  else
    .zero

/-- Metres that `weight` needs to brake from a velocity to a standstill. -/
def brakingDistance (profile : Profile) (weight : WeightSummary) (velocity : Fixed) : Fixed :=
  profile.brakingDistanceBy weight
    (profile.stoppingDistance (profile.resistance weight) (.ofInt weight.weight.toInt)) velocity

/-- A braking distance in whole metres, rounded up. -/
def wholeMetres (distance : Fixed) : Int32 :=
  if distance = .greatest then Int32.maxValue else .ofIntClamp (max 0 distance.ceil)

/-- A braking distance in whole steps on a map of the given scale, rounded up. -/
def wholeSteps (mapScale distance : Fixed) : Int32 :=
  if distance = .greatest then Int32.maxValue
  else
    let yards := Units.yardsOnMap mapScale distance
    .ofIntClamp (max 0 ((yards + Units.yardsPerStep - 1) / Units.yardsPerStep))

/-- Whole metres that `weight` needs to brake from a velocity to a standstill. -/
def brakingMetres (profile : Profile) (weight : WeightSummary) (velocity : Fixed) : Int32 :=
  wholeMetres (profile.brakingDistance weight velocity)

/-- Whole steps that `weight` needs to brake from a simulation speed to a standstill. -/
def brakingSteps (profile : Profile) (mapScale : Fixed) (weight : WeightSummary) (speed : Int32) :
    Int32 :=
  wholeSteps mapScale (profile.brakingDistance weight (Units.velocityOfSpeed speed))

end Profile

end Haulage
