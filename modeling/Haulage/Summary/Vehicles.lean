import Haulage.Vehicle

/-!
# Summary of the vehicles

What the physics needs of a list of vehicles whatever they carry and wherever they stand: their
number, length, unladen weight and the lowest of their rated top speeds.
-/

namespace Haulage

/-- Static properties of a list of vehicles. -/
structure VehicleSummary where
  /-- Number of vehicles. -/
  count : UInt32 := 0
  /-- Total length, sixteen to a tile. -/
  length : UInt32 := 0
  /-- Tiles occupied. -/
  tiles : UInt32 := 0
  /-- Total unladen weight in kg. -/
  weight : Int32 := 0
  /-- Lowest rated top speed in km/h. -/
  maxSpeed : Int32 := Units.unlimitedKmh
deriving DecidableEq, Inhabited

namespace VehicleSummary

/-- Whether the summary is of no vehicle. -/
def isEmpty (summary : VehicleSummary) : Bool := summary.count = 0

/-- Unladen weight of a vehicle in kg, at most the largest 32-bit number. -/
def kilograms (vehicle : Vehicle) : Int := min (vehicle.tonnes.toNat * 1000 : Nat) 2147483647

/-- The summary with one more vehicle; the tiles are left for `withTiles`. -/
def add (summary : VehicleSummary) (vehicle : Vehicle) : VehicleSummary :=
  { summary with
    count := summary.count + 1
    length := summary.length + vehicle.length.toUInt32
    weight := .ofIntClamp (summary.weight.toInt + kilograms vehicle)
    maxSpeed := min summary.maxSpeed vehicle.topKmh }

/-- The summary with the tiles counted.  The last vehicle, whose length is given, takes at least
half a tile; what is left of a tile counts as a whole one. -/
def withTiles (summary : VehicleSummary) (lastLength : UInt8) : VehicleSummary :=
  let padding := max 8 lastLength.toUInt32 - lastLength.toUInt32
  { summary with
    tiles := (summary.length + padding + Units.lengthUnitsPerTile - 1) / Units.lengthUnitsPerTile }

/-- The summary of a list of vehicles. -/
def ofList (vehicles : List Vehicle) : VehicleSummary :=
  let lastLength := (vehicles.getLast?.map Vehicle.length).getD 0
  (vehicles.foldl add {}).withTiles lastLength

end VehicleSummary

end Haulage
