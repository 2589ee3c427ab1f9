import Haulage.Consist
import Haulage.Memo.Query
import Haulage.Text

/-!
# Prospects of a consist

What a planner asks of a consist before buying it, each time empty and fully loaded: how fast it
runs, how far it needs to stop from there, and what it hauls up each grade.
-/

namespace Haulage

/-- What a consist hauls up a grade. -/
structure Haul where
  /-- The grade, as `1000 · sin(slope)`. -/
  grade : Int32
  /-- The heaviest weight in kg that starts on it. -/
  start : Int32
  /-- The heaviest weight in kg that is pulled at the speed limit on it. -/
  pull : Int32
deriving DecidableEq, Inhabited

/-- How a consist runs with some load. -/
structure Pace where
  /-- Its top speed in km/h. -/
  topKmh : Int32
  /-- Metres to brake from there to a standstill. -/
  braking : Int32
deriving DecidableEq, Inhabited

/-- What a planner asks of a consist. -/
structure Prospects where
  /-- Its vehicles. -/
  vehicle : VehicleSummary
  /-- The heaviest load in kg. -/
  payload : Int32
  /-- How it runs without a load. -/
  empty : Pace
  /-- How it runs with the heaviest load. -/
  full : Pace
  /-- What it hauls up each grade. -/
  hauls : List Haul
deriving DecidableEq

namespace Prospects

/-- How a consist runs with a load. -/
def paceWith (profile : Profile) (load : Int32) : Pace :=
  let weight := (Query.weightWithLoad load).answer profile
  let topKmh := profile.maxSpeed weight
  ⟨topKmh, profile.brakingMetres weight (Units.velocityOfKmh topKmh)⟩

/-- What a consist whose first vehicle is built for a way hauls up a grade. -/
def haulOn (profile : Profile) (way : Way) (grade : Int32) : Haul :=
  let slope := way.baseFriction.toInt32 + grade
  ⟨grade, profile.maxStartingWeight slope, profile.maxWeight slope⟩

/-- The prospects of a consist, if it has vehicles. -/
def ofConsist? (consist : Consist) (grades : List Int32) : Option Prospects :=
  consist.vehicles.head?.map fun first =>
    let profile := Profile.ofSource consist
    let payload := (Source.freightSummary consist).heaviest
    { vehicle := profile.vehicle, payload
      empty := paceWith profile 0, full := paceWith profile payload
      hauls := grades.map (haulOn profile first.way) }

/-- A number and its unit. -/
def measured (value : Int32) (unit : String) : String := toString value.toInt ++ " " ++ unit

/-- A top speed as the report writes it. -/
def speedText (kmh : Int32) : String :=
  if Units.unlimitedKmh ≤ kmh then "unlimited" else measured kmh "km/h"

/-- A weight as the report writes it, in whole tonnes. -/
def weightText (kg : Int32) : String :=
  if kg = Units.unlimitedWeight then "unlimited" else measured (kg / 1000) "t"

/-- A braking distance as the report writes it. -/
def distanceText (metres : Int32) : String :=
  if metres = Int32.maxValue then "cannot stop" else measured metres "m"

/-- A line of the report with two values of ten characters. -/
def lineOf (heading first one second other : String) : String :=
  "   " ++ heading ++ first ++ " " ++ Text.alignRight 10 one ++ "   " ++ second ++ " " ++
    Text.alignRight 10 other

/-- The first line of the report, with the name of the consist. -/
def headline (name : String) (prospects : Prospects) : String :=
  "── " ++ name ++ ": " ++ toString prospects.vehicle.count.toNat ++ " vehicles, " ++
    toString prospects.vehicle.tiles.toNat ++ " tiles, " ++
    measured (prospects.vehicle.weight / 1000) "t" ++ " empty, up to " ++
    measured (prospects.payload / 1000) "t" ++ " payload"

/-- The line of the report for a grade. -/
def haulLine (haul : Haul) : String :=
  lineOf ("grade " ++ Text.alignRight 3 (toString haul.grade.toInt) ++ " ‰    ") "start"
    (weightText haul.start) "haul" (weightText haul.pull)

/-- The lines of the report. -/
def lines (name : String) (prospects : Prospects) : List String :=
  headline name prospects ::
    lineOf "top speed      " "empty" (speedText prospects.empty.topKmh) "full"
      (speedText prospects.full.topKmh) ::
    lineOf "braking        " "empty" (distanceText prospects.empty.braking) "full"
      (distanceText prospects.full.braking) ::
    prospects.hauls.map haulLine

end Prospects

end Haulage
