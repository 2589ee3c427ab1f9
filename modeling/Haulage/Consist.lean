import Haulage.Settings
import Haulage.Source

/-!
# Consists

A consist is a list of vehicles, front first.  On paper it has no place: it runs on the way of its
first vehicle, without a speed limit.  Force and power indices are summed before the gear is taken
out, so that rounding happens once for the convoy and not once for each vehicle.
-/

namespace Haulage

/-- The sum of indices, clamped into a signed 64-bit word at every step. -/
def clampedSum (indices : List Int) : Int64 :=
  indices.foldl (fun sum index => .ofIntClamp (sum.toInt + index)) 0

namespace Curves

/-- Traction in kN of a list of vehicles at a speed in whole m/s. -/
def totalForce (vehicles : List Vehicle) (world : World) (speed : UInt32) : Int32 :=
  .ofIntClamp (world.valueOfIndex
    (clampedSum (vehicles.map fun vehicle => vehicle.forceIndex speed)))

/-- Power in kW of a list of vehicles. -/
def totalPower (vehicles : List Vehicle) (world : World) : Int32 :=
  .ofIntClamp (world.valueOfIndex (clampedSum (vehicles.map fun vehicle => vehicle.powerIndex)))

/-- Brake force in kN of a list of vehicles. -/
def totalBrake (vehicles : List Vehicle) : Int32 :=
  .ofIntClamp (clampedSum (vehicles.map Vehicle.brakeForce)).toInt

/-- The curves of a list of vehicles. -/
def ofVehicles (vehicles : List Vehicle) (world : World) : Curves :=
  let brake := totalBrake vehicles
  let power := totalPower vehicles world
  { force := totalForce vehicles world, brake := fun _ => brake, power := fun _ => power }

end Curves

/-- A consist on paper. -/
structure Consist where
  /-- Its vehicles, front first. -/
  vehicles : List Vehicle
  /-- Map and engines. -/
  world : World

namespace Consist

/-- Where the consist runs: on the way of its first vehicle. -/
def adverse (consist : Consist) : AdverseSummary :=
  match consist.vehicles with
  | [] => {}
  | first :: _ => .ofWay first.way

/-- The base friction of that way. -/
def friction (consist : Consist) : Int16 :=
  match consist.vehicles with
  | [] => 0
  | first :: _ => first.way.baseFriction

instance : Source Consist where
  vehicleSummary consist := .ofList consist.vehicles
  adverseSummary := adverse
  freightSummary consist := .ofList consist.vehicles
  curves consist := .ofVehicles consist.vehicles consist.world
  friction := friction

end Consist

end Haulage
