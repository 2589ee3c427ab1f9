import Haulage.Fixed

/-!
# Units of speed, distance and time

| quantity | unit                  | in metres and seconds               |
|----------|-----------------------|-------------------------------------|
| speed    | simulation speed      | `m/s = speed · 800 / 36864`         |
| speed    | whole km/h            | `m/s = km/h · 10 / 36`              |
| distance | yard                  | `m = yard · 800 / (36864 · 64)`     |
| distance | step (4096 yards)     | as yards, times the map scale       |
| time     | engine tick           | `s = tick · map scale / 64`         |

The map scale is the length of one tile divided by the reference tile of 1000 m.  Conversions into
whole units round half up; only km/h into simulation speed is cut off towards zero.
-/

namespace Haulage.Units

/-- Simulation speeds in 1024 km/h. -/
def speedFactor : Int := 80

/-- Engine ticks in a second at the reference tile. -/
def ticksPerSecond : Int := 64

/-- Binary logarithm of the yards in a step. -/
def stepShift : Nat := 12

/-- Yards in a step. -/
def yardsPerStep : Int := 4096

/-- Units of vehicle length in a tile. -/
def lengthUnitsPerTile : UInt32 := 16

/-- The stored gear ratio that stands for 1.0. -/
def gearUnit : Int := 64

/-- Speed limit of a convoy without vehicles, km/h. -/
def unlimitedKmh : Int32 := 300000

/-- The weight that stands for "no limit", kg. -/
def unlimitedWeight : Int32 := Int32.maxValue

/-- Slowest speed that counts as moving, km/h. -/
def slowestKmh : Int32 := 4

/-- Numerator of metres per second for one simulation speed. -/
def speedNumerator : Int := 800

/-- Denominator of metres per second for one simulation speed. -/
def speedDenominator : Int := 36864

/-- Denominator of metres for one yard. -/
def yardDenominator : Int := 2359296

/-- Simulation speed of a speed in km/h, cut off towards zero and wrapped into 32 bits. -/
def speedOfKmh (kmh : Int32) : Int32 := .ofInt ((kmh.toInt * 1024).tdiv speedFactor)

/-- Speed in km/h of a simulation speed, to the nearest and wrapped into 32 bits. -/
def kmhOfSpeed (speed : Int32) : Int32 := .ofInt ((speed.toInt * speedFactor + 511) / 1024)

/-- Metres per second of a speed in km/h. -/
def velocityOfKmh (kmh : Int32) : Fixed := .ratio (kmh.toInt * 10) 36

/-- Speed in km/h of a velocity in m/s, rounded half up. -/
def kmhOfVelocity (velocity : Fixed) : Int32 := ((velocity.mulInt 36).divInt 10).round32

/-- Metres per second of a simulation speed. -/
def velocityOfSpeed (speed : Int32) : Fixed :=
  .ratio (speed.toInt * speedNumerator) speedDenominator

/-- Simulation speed of a velocity in m/s, rounded half up. -/
def speedOfVelocity (velocity : Fixed) : Int32 :=
  ((velocity.mulInt speedDenominator).divInt speedNumerator).round32

/-- The slowest speed that counts as moving, simulation units. -/
def slowestSpeed : Int32 := speedOfKmh slowestKmh

/-- The slowest speed that counts as moving, m/s. -/
def slowestVelocity : Fixed := velocityOfKmh slowestKmh

/-- Metres of a count of yards at the reference tile. -/
def metresOfYards (yards : Int64) : Fixed :=
  .ratio (Int64.ofIntClamp (yards.toInt * speedNumerator)).toInt yardDenominator

/-- Yards of a distance in metres at the reference tile, rounded half up. -/
def yardsOfMetres (metres : Fixed) : Int :=
  ((metres.mulInt yardDenominator).divInt speedNumerator).round

/-- Metres of a count of steps on a map of the given scale. -/
def metresOfSteps (mapScale : Fixed) (steps : Int64) : Fixed :=
  metresOfYards (.ofInt (steps.toInt * yardsPerStep)) * mapScale

/-- Yards of a distance in metres on a map of the given scale. -/
def yardsOnMap (mapScale metres : Fixed) : Int := yardsOfMetres (metres / mapScale)

/-- Whole steps in a distance in metres on a map of the given scale. -/
def stepsOfMetres (mapScale metres : Fixed) : Int := yardsOnMap mapScale metres / yardsPerStep

/-- Simulated seconds in a count of engine ticks. -/
def secondsOfTicks (mapScale : Fixed) (ticks : Int) : Fixed :=
  (mapScale.mulInt ticks).divInt ticksPerSecond

end Haulage.Units
