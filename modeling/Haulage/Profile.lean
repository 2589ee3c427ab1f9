import Haulage.Summary.Adverse
import Haulage.Summary.Vehicles
import Haulage.Summary.Weight

/-!
# Physical profile of a convoy

All that the physics ever asks of a convoy: two summaries, three curves over the speed in whole m/s,
the friction under its head, and two values that follow from the curves.  Forces are in newtons,
speeds in m/s, weights in kg, distances in metres.
-/

namespace Haulage

/-- Force, brake force and power of a convoy over its speed in whole m/s. -/
structure Curves where
  /-- Traction in kN. -/
  force : UInt32 → Int32
  /-- Brake force in kN. -/
  brake : UInt32 → Int32
  /-- Power in kW. -/
  power : UInt32 → Int32

/-- What the physics knows of a convoy. -/
structure Profile where
  /-- Its vehicles. -/
  vehicle : VehicleSummary
  /-- Where they stand. -/
  adverse : AdverseSummary
  /-- Its force, brake force and power. -/
  curves : Curves
  /-- Friction under its head: `1000 · sin(slope)` plus the base friction of the way. -/
  friction : Int16
  /-- Traction at standstill, N. -/
  startingForce : Fixed
  /-- Power at the rated top speed, W. -/
  continuousPower : Fixed

/-- Gravitational acceleration, m/s². -/
def gravity : Fixed := .ratio 981 100

/-- Whole m/s at which the curves are read, at most the largest 32-bit number. -/
def speedIndex (velocity : Fixed) : UInt32 := .ofInt (min velocity.abs.trunc 4294967295)

/-- Newtons of a force in kN, or watts of a power in kW. -/
def thousand (value : Int32) : Fixed := (Fixed.ofInt value.toInt).mulInt 1000

namespace Curves

/-- Traction at standstill, N. -/
def startingForce (curves : Curves) : Fixed := thousand (curves.force 0)

/-- Power in W at a rated top speed in km/h. -/
def continuousPower (curves : Curves) (maxSpeed : Int32) : Fixed :=
  thousand (curves.power (speedIndex (Units.velocityOfKmh maxSpeed)))

end Curves

namespace Profile

/-- The profile in which starting force and continuous power follow from the curves. -/
def ofCurves (vehicle : VehicleSummary) (adverse : AdverseSummary) (curves : Curves)
    (friction : Int16) : Profile :=
  { vehicle, adverse, curves, friction
    startingForce := curves.startingForce
    continuousPower := curves.continuousPower vehicle.maxSpeed }

/-- Brake force in N at a speed in whole m/s. -/
def brakingForce (profile : Profile) (speed : UInt32) : Fixed :=
  thousand (profile.curves.brake speed)

/-- Traction in N at a velocity. -/
def traction (profile : Profile) (velocity : Fixed) : Fixed :=
  let speed := speedIndex velocity
  if speed = 0 then profile.startingForce else thousand (profile.curves.force speed)

/-- Air drag in N at a velocity. -/
def drag (profile : Profile) (velocity : Fixed) : Fixed :=
  profile.adverse.drag * velocity * velocity

/-- Rolling resistance plus downhill force of a weight, N; negative where gravity pulls forward
harder than the convoy rolls. -/
def resistance (profile : Profile) (weight : WeightSummary) : Fixed :=
  gravity * (profile.adverse.rolling * weight.across + weight.along)

/-- The part of the traction that holds a velocity against drag and a resistance. -/
def holdingForce (profile : Profile) (velocity resistance : Fixed) : Fixed :=
  min (profile.traction velocity) (profile.drag velocity + resistance)

/-- The lower of the rated speed and the speed limit of the way, km/h. -/
def speedLimit (profile : Profile) : Int32 :=
  min profile.vehicle.maxSpeed profile.adverse.maxSpeed

/-- Whether traction covers drag and a resistance at a velocity. -/
def sustains (profile : Profile) (resistance velocity : Fixed) : Bool :=
  profile.drag velocity + resistance ≤ profile.traction velocity

end Profile

end Haulage
