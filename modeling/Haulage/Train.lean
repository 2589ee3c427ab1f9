import Haulage.LiveConvoy

/-!
# Trains

A train is a list of cars, front first.  A car is a vehicle with its load and the way under it.
-/

namespace Haulage

/-- A vehicle of a train. -/
structure Car where
  /-- The catalog entry. -/
  vehicle : Vehicle
  /-- Its load in kg. -/
  load : UInt32
  /-- The way under it. -/
  context : WayContext
deriving DecidableEq, Inhabited

namespace Car

/-- An empty car on level way of its own kind, limited to its rated speed. -/
def ofVehicle (vehicle : Vehicle) : Car :=
  ⟨vehicle, 0, .flat vehicle.way vehicle.topKmh⟩

/-- The load of a full car in kg, at most the largest 32-bit number. -/
def maxLoad (car : Car) : UInt32 :=
  match car.vehicle.freight with
  | some range => .ofNatClamp (car.vehicle.capacity.toNat * range.heaviest.toNat)
  | none => 0

/-- The car filled up. -/
def fill (car : Car) : Car := { car with load := car.maxLoad }

/-- The car without its load. -/
def clear (car : Car) : Car := { car with load := 0 }

/-- The car on another way. -/
def setWay (context : WayContext) (car : Car) : Car := { car with context }

/-- Unladen weight and load in kg, at most the largest 32-bit number. -/
def gross (car : Car) : Int32 :=
  .ofIntClamp (car.vehicle.tonnes.toNat * 1000 + car.load.toNat : Nat)

/-- The car as a vehicle that stands somewhere. -/
def live (car : Car) : LiveCar := ⟨car.vehicle, car.gross, car.context⟩

end Car

/-- A list of cars, front first. -/
structure Train where
  /-- The cars. -/
  cars : List Car := []
deriving DecidableEq, Inhabited

namespace Train

/-- The train of empty cars of these vehicles. -/
def ofVehicles (vehicles : List Vehicle) : Train := ⟨vehicles.map Car.ofVehicle⟩

/-- The train on another way. -/
def setWay (context : WayContext) (train : Train) : Train := ⟨train.cars.map (Car.setWay context)⟩

/-- The train with every car filled up. -/
def fill (train : Train) : Train := ⟨train.cars.map Car.fill⟩

/-- The train without its loads. -/
def clear (train : Train) : Train := ⟨train.cars.map Car.clear⟩

/-- The loads of all cars in kg. -/
def payload (train : Train) : Nat := train.cars.foldl (fun sum car => sum + car.load.toNat) 0

/-- Whether the train carries anything. -/
def isLoaded (train : Train) : Bool := 0 < train.payload

/-- The train as a live convoy, if it has cars. -/
def live (train : Train) (world : World) : Except ConvoyError LiveConvoy :=
  LiveConvoy.ofCars (train.cars.map Car.live) world

end Train

end Haulage
