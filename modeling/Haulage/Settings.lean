import Haulage.Clock

/-!
# Settings

What a run fixes once: the scale of the map, the power of all engines, and how long and how finely
the fleet is simulated.  `ConfigError` holds every reason for which settings or a route are refused.
-/

namespace Haulage

/-- Why settings or a route are refused. -/
inductive ConfigError where
  /-- A tile has no length. -/
  | noTileLength
  /-- Engines have no power. -/
  | noPower
  /-- A tick hands out no engine ticks. -/
  | noEngineTicks
  /-- The route has no section. -/
  | noSection
  /-- The section at this place has no length. -/
  | emptySection (place : Nat)
  /-- The section at this place has a speed limit that is not positive. -/
  | badSpeedLimit (place : Nat) (kmh : Int32)
  /-- The length of the route does not fit 32 bits. -/
  | longRoute
deriving DecidableEq

namespace ConfigError

/-- The reason without its heading. -/
def reason : ConfigError → String
  | noTileLength => "meters_per_tile must be positive"
  | noPower => "power_factor_percent must be positive"
  | noEngineTicks => "delta_t_per_tick must be positive"
  | noSection => "a route needs at least one section"
  | emptySection place => s!"section {place} has zero length"
  | badSpeedLimit place kmh =>
      s!"section {place} has non-positive speed limit {kmh.toInt} km/h"
  | longRoute => "route is longer than u32::MAX steps"

/-- The wording of the error. -/
def message (error : ConfigError) : String := "configuration error: " ++ error.reason

end ConfigError

/-- The scale of the map and the power of all engines. -/
structure World where
  /-- Length of a tile in metres. -/
  tileMetres : UInt32 := 1000
  /-- Force and power of every engine, in percent. -/
  powerPercent : UInt32 := 100
deriving DecidableEq, Inhabited

namespace World

/-- Length in metres of the tile at which the map scale is one. -/
def referenceTileMetres : UInt32 := 1000

/-- Length of a tile relative to the reference tile. -/
def mapScale (world : World) : Fixed :=
  .ratio world.tileMetres.toNat referenceTileMetres.toNat

/-- Refuses settings that would put a zero below a fraction. -/
def validate (world : World) : Except ConfigError Unit :=
  if world.tileMetres = 0 then .error .noTileLength
  else if world.powerPercent = 0 then .error .noPower
  else .ok ()

/-- The plain value of an index, that is, of a value times a gear ratio: the gear is taken out and
the power of all engines applied.  The product is clamped into a signed 64-bit word first. -/
def valueOfIndex (world : World) (index : Int64) : Int :=
  (Int64.ofIntClamp (index.toInt * world.powerPercent.toNat)).toInt.tdiv (Units.gearUnit * 100)

end World

/-- The settings of a fleet run. -/
structure RunSettings where
  /-- How many ticks the run has. -/
  totalTicks : UInt64 := 3600
  /-- Engine ticks handed to the mover per tick. -/
  engineTicks : UInt32 := 64
  /-- A trace is taken every so many ticks; never if zero. -/
  traceInterval : UInt64 := 1
  /-- Map and engines. -/
  world : World := {}
deriving DecidableEq, Inhabited

namespace RunSettings

/-- The tick at which the run ends; it is no longer simulated. -/
def endTick (settings : RunSettings) : Tick := ⟨settings.totalTicks⟩

/-- The clock at the start of the run. -/
def clock (settings : RunSettings) : Clock :=
  .starting settings.engineTicks settings.world.mapScale

/-- Refuses settings under which nothing could move. -/
def validate (settings : RunSettings) : Except ConfigError Unit :=
  if settings.engineTicks = 0 then .error .noEngineTicks else settings.world.validate

end RunSettings

end Haulage
