import Haulage.Consist

/-!
# Live convoys

A convoy that stands somewhere: each of its vehicles has a gross weight and a way under it.  It has
at least one vehicle.
-/

namespace Haulage

/-- Why there is no convoy. -/
inductive ConvoyError where
  /-- It would have no vehicle. -/
  | empty
deriving DecidableEq

/-- The wording of the error. -/
def ConvoyError.message : ConvoyError → String
  | .empty => "a live convoy needs at least one vehicle"

/-- A vehicle with its weight and the way under it. -/
structure LiveCar where
  /-- The catalog entry. -/
  vehicle : Vehicle
  /-- Unladen weight and load in kg. -/
  gross : Int32
  /-- The way under it. -/
  context : WayContext
deriving DecidableEq, Inhabited

/-- A list of vehicles that stand somewhere, front first. -/
structure LiveConvoy where
  /-- The vehicles. -/
  cars : List LiveCar
  /-- Map and engines. -/
  world : World
  /-- There is a vehicle. -/
  nonempty : cars ≠ []

namespace LiveConvoy

/-- The convoy of these vehicles, if there are any. -/
def ofCars (cars : List LiveCar) (world : World) : Except ConvoyError LiveConvoy :=
  if nonempty : cars = [] then .error .empty else .ok ⟨cars, world, nonempty⟩

/-- The catalog entries, front first. -/
def vehicles (convoy : LiveConvoy) : List Vehicle := convoy.cars.map LiveCar.vehicle

/-- The vehicle in front. -/
def front (convoy : LiveConvoy) : LiveCar := convoy.cars.head convoy.nonempty

/-- Where the vehicles stand. -/
def adverse (convoy : LiveConvoy) : AdverseSummary :=
  convoy.cars.foldl (fun summary car => summary.add car.context car.vehicle.electric) {}

/-- What the vehicles weigh on their slopes. -/
def weight (convoy : LiveConvoy) : WeightSummary :=
  convoy.cars.foldl
    (fun summary car => summary.add car.gross (.ofInt car.context.friction.toInt)) {}

instance : LoadedSource LiveConvoy where
  vehicleSummary convoy := .ofList convoy.vehicles
  adverseSummary := adverse
  freightSummary convoy := .ofList convoy.vehicles
  curves convoy := .ofVehicles convoy.vehicles convoy.world
  friction convoy := convoy.front.context.friction
  weightSummary := weight

end LiveConvoy

end Haulage
