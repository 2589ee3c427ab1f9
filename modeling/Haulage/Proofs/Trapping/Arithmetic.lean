import Haulage.Summary.Weight
import Haulage.Units

/-!
# Arithmetic that traps

Fixed-point divisions and clamps as a machine with all its checks on carries them out: it stops at a
division by zero, and at a clamp whose bounds are crossed.  Sums and products round and clamp by
themselves and never stop, so they stay as they are.
-/

namespace Haulage

/-- Why a calculation stops. -/
inductive Trap where
  /-- A division by zero. -/
  | zeroDivisor
  /-- A clamp whose lower bound is above its upper one. -/
  | crossedBounds
deriving DecidableEq

namespace Trapping

/-- The quotient of two counts as a count, rounded half up. -/
def quotient (num den : Int) : Except Trap Fixed :=
  if den = 0 then .error .zeroDivisor else .ok (.quotient num den)

/-- The fraction `num / den`. -/
def ratio (num den : Int) : Except Trap Fixed := quotient (num * Fixed.scale) den

/-- Division by a whole number. -/
def divInt (a : Fixed) (n : Int) : Except Trap Fixed := quotient a.raw n

/-- Division. -/
def div (a b : Fixed) : Except Trap Fixed := quotient (a.raw * Fixed.scale) b.raw

/-- The number moved into `low … high`. -/
def clamp (a low high : Fixed) : Except Trap Fixed :=
  if high < low then .error .crossedBounds else .ok (a.clamp low high)

/-- The whole number moved into `low … high`. -/
def clampInt (n low high : Int) : Except Trap Int :=
  if high < low then .error .crossedBounds else .ok (max low (min n high))

/-- A whole number clamped into a signed 32-bit word. -/
def clamp32 (n : Int) : Except Trap Int32 := do
  return .ofInt (← clampInt n (-2147483648) 2147483647)

/-- Metres per second of a speed in km/h. -/
def velocityOfKmh (kmh : Int32) : Except Trap Fixed := ratio (kmh.toInt * 10) 36

/-- Metres per second of a simulation speed. -/
def velocityOfSpeed (speed : Int32) : Except Trap Fixed :=
  ratio (speed.toInt * Units.speedNumerator) Units.speedDenominator

/-- Simulation speed of a velocity in m/s, rounded half up. -/
def speedOfVelocity (velocity : Fixed) : Except Trap Int32 := do
  clamp32 (← divInt (velocity.mulInt Units.speedDenominator) Units.speedNumerator).round

/-- Metres of a count of yards at the reference tile. -/
def metresOfYards (yards : Int64) : Except Trap Fixed :=
  ratio (Int64.ofIntClamp (yards.toInt * Units.speedNumerator)).toInt Units.yardDenominator

/-- Yards of a distance in metres at the reference tile, rounded half up. -/
def yardsOfMetres (metres : Fixed) : Except Trap Int := do
  return (← divInt (metres.mulInt Units.yardDenominator) Units.speedNumerator).round

/-- Metres of a count of steps on a map of the given scale. -/
def metresOfSteps (mapScale : Fixed) (steps : Int64) : Except Trap Fixed := do
  return (← metresOfYards (.ofInt (steps.toInt * Units.yardsPerStep))) * mapScale

/-- Yards of a distance in metres on a map of the given scale. -/
def yardsOnMap (mapScale metres : Fixed) : Except Trap Int := do
  yardsOfMetres (← div metres mapScale)

/-- Simulated seconds in a count of engine ticks. -/
def secondsOfTicks (mapScale : Fixed) (ticks : Int) : Except Trap Fixed :=
  divInt (mapScale.mulInt ticks) Units.ticksPerSecond

/-- One block of `kg` on a slope in thousandths, clamped to `-1000 … 1000`. -/
def singleWeight (kg slope : Int32) : Except Trap WeightSummary := do
  let mass := Fixed.ofInt kg.toInt
  let steepness ← clampInt slope.toInt (-1000) 1000
  if steepness = 0 then
    return { weight := .ofIntClamp kg.toInt, across := .zero + mass }
  else
    let sine ← ratio steepness 1000
    let cosine := (Fixed.one - sine * sine).sqrt
    return { weight := .ofIntClamp kg.toInt, across := .zero + mass * cosine
             along := .zero + mass * sine }

end Trapping

end Haulage
