import Haulage.Units
import Haulage.Way.Resistance

/-!
# Vehicles

A catalog entry describes one type of vehicle: how long, heavy and fast it is, what it carries, and
what its engine and its brakes can do.  An engine has constant power: its traction is the tractive
effort at low speed and power divided by speed above.
-/

namespace Haulage

/-- How much one unit of the carried good may weigh. -/
structure FreightRange where
  /-- Weight of the lightest unit, kg. -/
  lightest : UInt32
  /-- Weight of the heaviest unit, kg. -/
  heaviest : UInt32
deriving DecidableEq, Inhabited

namespace FreightRange

/-- A good whose units all weigh the same. -/
def uniform (kg : UInt32) : FreightRange := ⟨kg, kg⟩

end FreightRange

/-- One type of vehicle. -/
structure Vehicle where
  /-- Name in the catalog. -/
  name : String := ""
  /-- The way it is built for. -/
  way : Way := .road
  /-- Length, sixteen to a tile. -/
  length : UInt8 := 8
  /-- Unladen weight in tonnes. -/
  tonnes : UInt32 := 1
  /-- Rated top speed in km/h. -/
  topKmh : Int32 := 100
  /-- Power of the engine in kW. -/
  powerKw : UInt32 := 0
  /-- Rated starting tractive effort in kN; zero if it follows from the power. -/
  effortKn : UInt32 := 0
  /-- Gear ratio, 64 for 1.0. -/
  gear : UInt16 := 64
  /-- Freight units it carries. -/
  capacity : UInt32 := 0
  /-- What a unit of its good may weigh, if it carries any. -/
  freight : Option FreightRange := none
  /-- Whether the engine needs an overhead line. -/
  electric : Bool := false
  /-- Rated brake force in kN, if rated. -/
  brakeKn : Option UInt32 := none
deriving DecidableEq, Inhabited

/-- Why a catalog entry is refused. -/
inductive VehicleError where
  /-- The vehicle weighs nothing. -/
  | zeroWeight (name : String)
  /-- The vehicle has an engine and a gear ratio of zero. -/
  | zeroGear (name : String)
  /-- The rated top speed is not positive. -/
  | topSpeed (name : String) (kmh : Int32)
  /-- The lightest unit of freight is heavier than the heaviest. -/
  | freightRange (name : String) (range : FreightRange)
deriving DecidableEq

/-- The wording of the error. -/
def VehicleError.message : VehicleError → String
  | zeroWeight name => "vehicle '" ++ name ++ "' has zero weight"
  | zeroGear name => "vehicle '" ++ name ++ "' has an engine but a gear ratio of 0"
  | topSpeed name kmh =>
      "vehicle '" ++ name ++ "' has non-positive top speed " ++ toString kmh.toInt ++ " km/h"
  | freightRange name range =>
      "vehicle '" ++ name ++ "' has inverted freight weight range " ++
        toString range.lightest.toNat ++ ".." ++ toString range.heaviest.toNat ++ " kg"

/-- Brake force in kN that brakes `tonnes` at the rate of the way. -/
def Way.brakeForce (way : Way) (tonnes : UInt32) : Int :=
  (way.resistance.braking.mulInt tonnes.toNat).round

namespace Vehicle

/-- A powered vehicle without room for freight. -/
def engine (name : String) (way : Way) (tonnes : UInt32) (topKmh : Int32) (powerKw : UInt32) :
    Vehicle :=
  { name, way, tonnes, topKmh, powerKw }

/-- A vehicle without power that carries `capacity` units of a good. -/
def wagon (name : String) (way : Way) (tonnes : UInt32) (topKmh : Int32) (capacity : UInt32)
    (range : FreightRange) : Vehicle :=
  { name, way, tonnes, topKmh, capacity, freight := some range }

/-- The vehicle reduced to its running gear and engine: no freight, no overhead line, no rated
brake. -/
def bare (vehicle : Vehicle) : Vehicle :=
  { vehicle with capacity := 0, freight := none, electric := false, brakeKn := none }

/-- Whether the vehicle pulls. -/
def isPowered (vehicle : Vehicle) : Bool := 0 < vehicle.powerKw || 0 < vehicle.effortKn

/-- Tractive effort at standstill in kN, before the gear: the rated one, or else what the power
gives at the slowest speed, 10/9 m/s. -/
def startingEffort (vehicle : Vehicle) : Nat :=
  if 0 < vehicle.effortKn then vehicle.effortKn.toNat else vehicle.powerKw.toNat * 9 / 10

/-- Traction in kN times the gear at a speed in whole m/s. -/
def forceIndex (vehicle : Vehicle) (speed : UInt32) : Nat :=
  if vehicle.isPowered then
    let effort := vehicle.startingEffort * vehicle.gear.toNat
    if speed = 0 then effort
    else min effort (vehicle.powerKw.toNat * vehicle.gear.toNat / speed.toNat)
  else
    0

/-- Power in kW times the gear, the same at every speed. -/
def powerIndex (vehicle : Vehicle) : Nat := vehicle.powerKw.toNat * vehicle.gear.toNat

/-- Brake force in kN, the same at every speed: the rated one, or else that of the way. -/
def brakeForce (vehicle : Vehicle) : Int :=
  match vehicle.brakeKn with
  | some kn => kn.toNat
  | none => vehicle.way.brakeForce vehicle.tonnes

/-- Refuses catalog entries that no convoy could use. -/
def validate (vehicle : Vehicle) : Except VehicleError Unit :=
  if vehicle.tonnes = 0 then .error (.zeroWeight vehicle.name)
  else if vehicle.topKmh ≤ 0 then .error (.topSpeed vehicle.name vehicle.topKmh)
  else if vehicle.isPowered ∧ vehicle.gear = 0 then .error (.zeroGear vehicle.name)
  else
    match vehicle.freight with
    | some range =>
        if range.heaviest < range.lightest then .error (.freightRange vehicle.name range)
        else .ok ()
    | none => .ok ()

end Vehicle

end Haulage
