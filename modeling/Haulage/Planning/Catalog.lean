import Haulage.Fleet

/-!
# Catalogs

A catalog is everything that a planning session works on: the settings of a run, the types of
vehicles, the consists put together from them, the route, and the grades on which a planner wants to
know what each consist can haul.
-/

namespace Haulage

/-- Some vehicles of one type. -/
structure Batch where
  /-- The name of the type. -/
  type : String
  /-- How many of it there are. -/
  count : UInt64 := 1
deriving DecidableEq, Inhabited

/-- A consist put together from a catalog. -/
structure ConsistEntry where
  /-- Its name. -/
  name : String
  /-- Whether it departs fully loaded. -/
  loaded : Bool := false
  /-- Its vehicles, front first. -/
  batches : List Batch
deriving DecidableEq, Inhabited

/-- Everything that a planning session works on. -/
structure Catalog where
  /-- The settings of the run. -/
  settings : RunSettings
  /-- The types of vehicles. -/
  vehicles : List Vehicle
  /-- The consists, in the order in which they depart. -/
  consists : List ConsistEntry
  /-- The sections of the route, from the forward start. -/
  sections : List Section
  /-- The grades that are asked for, as `1000 · sin(slope)`. -/
  grades : List Int32 := []
deriving DecidableEq, Inhabited

/-- A consist asks for a type of vehicle that is not in the catalog. -/
structure UnknownVehicle where
  /-- The name of the consist. -/
  consist : String
  /-- The name of the type. -/
  type : String
deriving DecidableEq

/-- The wording of the error. -/
def UnknownVehicle.message (error : UnknownVehicle) : String :=
  "consist " ++ Text.quoted error.consist ++ ": unknown vehicle " ++ Text.quoted error.type

namespace Catalog

/-- The type of vehicle with a name; of several the last one counts. -/
def vehicle? (catalog : Catalog) (name : String) : Option Vehicle :=
  catalog.vehicles.reverse.find? fun vehicle => vehicle.name == name

/-- The vehicles of a batch in a consist. -/
def batchVehicles (catalog : Catalog) (consist : String) (batch : Batch) :
    Except UnknownVehicle (List Vehicle) :=
  match catalog.vehicle? batch.type with
  | some vehicle => .ok (List.replicate batch.count.toNat vehicle)
  | none => .error ⟨consist, batch.type⟩

/-- The vehicles of a consist, front first. -/
def consistVehicles (catalog : Catalog) (entry : ConsistEntry) :
    Except UnknownVehicle (List Vehicle) :=
  (entry.batches.mapM (catalog.batchVehicles entry.name)).map List.flatten

/-- Ticks between the departures of consecutive consists. -/
def departureSpacing : Nat := 60

/-- The departure of the consist at a place of the catalog. -/
def departure (place : Nat) (entry : ConsistEntry) (vehicles : List Vehicle) : DeparturePlan :=
  { name := entry.name, vehicles, loaded := entry.loaded
    depart := ⟨.ofNat (place * departureSpacing)⟩ }

end Catalog

end Haulage
