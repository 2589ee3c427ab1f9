import Haulage.LiveConvoy
import Haulage.Memo
import Haulage.Proofs.Trapping.Arithmetic

/-!
# Convoys whose physics traps

All that the physics asks of a convoy, and all that it makes of the answers except motion, with
every division and every clamp checked on the way.
-/

namespace Haulage

namespace Trapping

/-- The resistance constants of a way. -/
def wayResistance : Way → Except Trap Resistance
  | .track | .narrowGauge => do return ⟨.ofInt 13, ← ratio 51 10000, .half⟩
  | .tram | .monorail => do return ⟨.ofInt 13, ← ratio 51 10000, .one⟩
  | .maglev => do return ⟨.ofInt 10, ← ratio 15 10000, ← ratio 12 10⟩
  | .water => do return ⟨.ofInt 25, ← ratio 1 1000, ← ratio 1 10⟩
  | .air => do return ⟨.one, ← ratio 1 1000, .ofInt 2⟩
  | .road | .other => do return ⟨← ratio 252 100, ← ratio 15 1000, .one⟩

/-- Where a consist on paper runs. -/
def consistAdverse (consist : Consist) : Except Trap AdverseSummary :=
  match consist.vehicles with
  | [] => .ok {}
  | first :: _ => do
      let resistance ← wayResistance first.way
      return { drag := resistance.drag, rolling := resistance.rolling,
               braking := resistance.braking }

/-- The summary with one more vehicle, which stands on the given way. -/
def addAdverse (summary : AdverseSummary) (car : LiveCar) : Except Trap AdverseSummary := do
  let resistance ← wayResistance car.context.way
  let first := summary.drag.isZero && summary.rolling.isZero
  let maxSpeed := min summary.maxSpeed car.context.maxSpeed
  return { drag := max summary.drag resistance.drag
           rolling := max summary.rolling resistance.rolling
           braking := if first then resistance.braking else min summary.braking resistance.braking
           maxSpeed := if car.vehicle.electric && !car.context.electrified then 0 else maxSpeed }

/-- Where the vehicles of a live convoy stand. -/
def liveAdverse (convoy : LiveConvoy) : Except Trap AdverseSummary :=
  convoy.cars.foldlM addAdverse {}

/-- Brake force of a vehicle in kN. -/
def brakeForce (vehicle : Vehicle) : Except Trap Int :=
  match vehicle.brakeKn with
  | some kn => .ok kn.toNat
  | none => do return ((← wayResistance vehicle.way).braking.mulInt vehicle.tonnes.toNat).round

/-- Traction in kN of a list of vehicles at a speed in whole m/s. -/
def totalForce (vehicles : List Vehicle) (world : World) (speed : UInt32) : Except Trap Int32 :=
  clamp32 (world.valueOfIndex (clampedSum (vehicles.map fun vehicle => vehicle.forceIndex speed)))

/-- Power in kW of a list of vehicles. -/
def totalPower (vehicles : List Vehicle) (world : World) : Except Trap Int32 :=
  clamp32 (world.valueOfIndex (clampedSum (vehicles.map fun vehicle => vehicle.powerIndex)))

/-- Brake force in kN of a list of vehicles. -/
def totalBrake (vehicles : List Vehicle) : Except Trap Int32 := do
  clamp32 (clampedSum (← vehicles.mapM brakeForce)).toInt

/-- What the physics asks of a convoy. -/
structure Convoy where
  /-- Its vehicles. -/
  vehicle : VehicleSummary
  /-- Where they stand. -/
  adverse : Except Trap AdverseSummary
  /-- Traction in kN at a speed in whole m/s. -/
  force : UInt32 → Except Trap Int32
  /-- Brake force in kN at a speed in whole m/s. -/
  brake : UInt32 → Except Trap Int32
  /-- Traction at standstill, N. -/
  startingForce : Except Trap Fixed
  /-- Power at the rated top speed, W. -/
  continuousPower : Except Trap Fixed

/-- A kept value, or else what is found afresh. -/
def keptOr {α : Type} (kept : Option α) (fresh : Except Trap α) : Except Trap α :=
  match kept with
  | some value => .ok value
  | none => fresh

/-- What is asked of a memo with the given vehicles, whose source finds afresh where they stand. -/
def Convoy.ofCache (cache : Cache) (vehicle : VehicleSummary)
    (adverse : Except Trap AdverseSummary) (vehicles : List Vehicle) (world : World) : Convoy where
  vehicle
  adverse := keptOr cache.adverse adverse
  force := totalForce vehicles world
  brake := fun _ => totalBrake vehicles
  startingForce := keptOr cache.startingForce do
    return thousand (← totalForce vehicles world 0)
  continuousPower := keptOr cache.continuousPower do
    -- The power is the same at every speed, so this one is found for its division only.
    let _ ← velocityOfKmh vehicle.maxSpeed
    return thousand (← totalPower vehicles world)

namespace Convoy

variable (convoy : Convoy)

/-- Brake force in N at a speed in whole m/s. -/
def brakingForce (speed : UInt32) : Except Trap Fixed := do
  return thousand (← convoy.brake speed)

/-- Traction in N at a velocity. -/
def traction (velocity : Fixed) : Except Trap Fixed :=
  let speed := speedIndex velocity
  if speed = 0 then convoy.startingForce else do return thousand (← convoy.force speed)

/-- Air drag in N at a velocity. -/
def drag (velocity : Fixed) : Except Trap Fixed := do
  return (← convoy.adverse).drag * velocity * velocity

/-- Rolling resistance plus downhill force of a weight, N. -/
def resistance (weight : WeightSummary) : Except Trap Fixed := do
  return gravity * ((← convoy.adverse).rolling * weight.across + weight.along)

/-- The part of the traction that holds a velocity against drag and a resistance. -/
def holdingForce (velocity resistance : Fixed) : Except Trap Fixed := do
  return min (← convoy.traction velocity) ((← convoy.drag velocity) + resistance)

/-- The lower of the rated speed and the speed limit of the way, km/h. -/
def speedLimit : Except Trap Int32 := do
  return min convoy.vehicle.maxSpeed (← convoy.adverse).maxSpeed

/-- Whether traction covers drag and a resistance at a velocity. -/
def sustains (resistance velocity : Fixed) : Except Trap Bool := do
  return (← convoy.drag velocity) + resistance ≤ (← convoy.traction velocity)

end Convoy

/-- Goes up from `sustained` by one stride at a time until a trial fails or the cap holds. -/
def coarseSearch (holds : Int32 → Except Trap Bool) (cap stride : Int32) :
    Nat → Int32 → Except Trap Profile.Coarse
  | 0, sustained => .ok (.failed sustained (sustained + 1))
  | fuel + 1, sustained => do
      let trial := min (sustained + stride) cap
      if ← holds trial then
        if cap ≤ trial then return .reachedCap else coarseSearch holds cap stride fuel trial
      else
        return .failed sustained trial

/-- Goes up one km/h at a time through `count` speeds from `kmh`, to the one below the first that
fails. -/
def fineSearch (holds : Int32 → Except Trap Bool) : Nat → Int32 → Except Trap Int32
  | 0, kmh => .ok (kmh - 1)
  | count + 1, kmh => do
      if ← holds kmh then fineSearch holds count (kmh + 1) else return kmh - 1

/-- The highest speed up to `cap` below which the search finds nothing that fails. -/
def searchTopSpeed (holds : Int32 → Except Trap Bool) (cap : Int32) : Except Trap Int32 := do
  match ← coarseSearch holds cap (Profile.coarseStride cap) 4294967296 0 with
  | .reachedCap => return cap
  | .failed sustained failed =>
      let between := (failed.toInt - sustained.toInt - 1).toNat
      if between = 0 then return failed - 1 else fineSearch holds between (sustained + 1)

namespace Convoy

variable (convoy : Convoy)

/-- Whether traction covers drag and a resistance at a speed in km/h. -/
def sustainsKmh (resistance : Fixed) (kmh : Int32) : Except Trap Bool := do
  convoy.sustains resistance (← velocityOfKmh kmh)

/-- The highest whole km/h at which traction covers drag and the resistance of `weight`, capped by
the speed limit. -/
def maxSpeed (weight : WeightSummary) : Except Trap Int32 := do
  let cap ← convoy.speedLimit
  if cap ≤ 0 then return 0
  else if convoy.vehicle.isEmpty then return cap
  else
    let resistance ← convoy.resistance weight
    if (← convoy.startingForce) < resistance then return 0
    else searchTopSpeed (convoy.sustainsKmh resistance) cap

/-- Resistance in N of one tonne on a slope in thousandths. -/
def resistancePerTonne (slope : Int32) : Except Trap Fixed := do
  convoy.resistance (← singleWeight 1000 slope)

/-- The heaviest weight in kg that the starting force moves on a slope in thousandths. -/
def maxStartingWeight (slope : Int32) : Except Trap Int32 := do
  let perTonne ← convoy.resistancePerTonne slope
  if perTonne.isPositive then
    return Profile.weightOfTonnes (← div (← convoy.startingForce) perTonne)
  else
    return Units.unlimitedWeight

/-- The heaviest weight in kg that the convoy pulls at its speed limit on a slope in thousandths. -/
def maxWeight (slope : Int32) : Except Trap Int32 := do
  let perTonne ← convoy.resistancePerTonne slope
  if perTonne.isPositive then
    let velocity := max (← velocityOfKmh (← convoy.speedLimit)) Units.slowestVelocity
    let traction := min (← div (← convoy.continuousPower) velocity) (← convoy.traction velocity)
    let available := traction - (← convoy.drag velocity)
    let moving := Profile.weightOfTonnes (← div available perTonne)
    return min moving (← convoy.maxStartingWeight slope)
  else
    return Units.unlimitedWeight

/-- What slows the convoy down in a bin against a resistance, N. -/
def binForce (resistance : Fixed) (bin : Nat) : Except Trap Fixed := do
  let low := Profile.binFloor bin
  return (← convoy.brakingForce (speedIndex low)) + (← convoy.drag low) + resistance

/-- The braking distance of a mass from the speed `top` inside a bin, given the distance `below`
from the lower end of the bin.  Its division is checked whatever that distance is. -/
def throughBin (resistance mass : Fixed) (bin : Nat) (top below : Fixed) : Except Trap Fixed := do
  let force ← convoy.binForce resistance bin
  if force.isPositive then
    let through ← div ((top - Profile.binFloor bin) * top * mass) force
    return if below = .greatest then .greatest else below + through
  else
    return .greatest

/-- The braking distance of a mass from the lower end of a bin. -/
def stoppingDistance (resistance mass : Fixed) : Nat → Except Trap Fixed
  | 0 => .ok .zero
  | bin + 1 => do
      let below ← stoppingDistance resistance mass bin
      convoy.throughBin resistance mass bin (Profile.binFloor (bin + 1)) below

/-- Metres that `weight` needs to brake from a velocity to a standstill. -/
def brakingDistance (weight : WeightSummary) (velocity : Fixed) : Except Trap Fixed :=
  if velocity.isPositive && 0 < weight.weight then do
    let mass := Fixed.ofInt weight.weight.toInt
    let resistance ← convoy.resistance weight
    let top := min velocity Profile.brakeCap
    let bin := Profile.binOf top
    let stopping ← convoy.stoppingDistance resistance mass bin
    if top = Profile.binFloor bin then return stopping
    else convoy.throughBin resistance mass bin top stopping
  else
    .ok .zero

/-- Whole steps that `weight` needs to brake from a simulation speed to a standstill. -/
def brakingSteps (mapScale : Fixed) (weight : WeightSummary) (speed : Int32) :
    Except Trap Int32 := do
  let distance ← convoy.brakingDistance weight (← velocityOfSpeed speed)
  if distance = .greatest then return Int32.maxValue
  else
    let yards ← yardsOnMap mapScale distance
    let steps := (yards + Units.yardsPerStep - 1) / Units.yardsPerStep
    return .ofInt (← clampInt steps 0 2147483647)

end Convoy

end Trapping

end Haulage
