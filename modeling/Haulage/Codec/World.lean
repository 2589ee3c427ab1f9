import Haulage.Identifier
import Haulage.Json.Format
import Haulage.Settings
import Haulage.Way

/-!
# JSON form of numbers, time and settings

Fixed-point numbers, ticks and identifiers are whole numbers; ways and directions are names.
-/

namespace Haulage

open Codec (form ofForm?)

instance : Codec Fixed where
  form format value := format.ofWrapper (format.ofInt value.raw)
  ofForm? format value :=
    (format.toInt? (-9223372036854775808) 9223372036854775807 (format.toWrapper value)).bind
      Fixed.ofWord?

instance : Codec Way where
  form format way := format.ofCase way.label
  ofForm? format value := (format.toCase? value).bind Way.ofLabel?

instance : Codec Tick where
  form format tick := format.ofWrapper (form format tick.number)
  ofForm? format value := (ofForm? format (format.toWrapper value)).map Tick.mk

instance : Codec ConvoyId where
  form format id := format.ofWrapper (form format id.number)
  ofForm? format value := (ofForm? format (format.toWrapper value)).map ConvoyId.mk

instance : Codec SectionId where
  form format id := format.ofWrapper (form format id.number)
  ofForm? format value := (ofForm? format (format.toWrapper value)).map SectionId.mk

namespace Clock

/-- The names of the fields. -/
def fieldNames : List String := ["delta_t_per_tick", "simtime_factor", "current_tick"]

/-- The JSON form of a clock. -/
def toJson (format : DocumentFormat) (clock : Clock) : Json :=
  format.ofFields [("delta_t_per_tick", form format clock.engineTicks),
    ("simtime_factor", form format clock.mapScale), ("current_tick", form format clock.now)]

/-- The clock of a JSON form. -/
def ofJson (format : DocumentFormat) (value : Json) : Option Clock := do
  match ← format.toFields? fieldNames value with
  | [engineTicks, mapScale, now] =>
      return { engineTicks := ← format.field engineTicks, mapScale := ← format.field mapScale
               now := ← format.field now }
  | _ => none

end Clock

instance : Codec Clock := ⟨Clock.toJson, Clock.ofJson⟩

namespace World

/-- The names of the fields. -/
def fieldNames : List String := ["meters_per_tile", "power_factor_percent"]

/-- The JSON form of the settings. -/
def toJson (format : DocumentFormat) (world : World) : Json :=
  format.ofFields [("meters_per_tile", form format world.tileMetres),
    ("power_factor_percent", form format world.powerPercent)]

/-- The settings of a JSON form; a missing field has its usual value. -/
def ofJson (format : DocumentFormat) (value : Json) : Option World := do
  let usual : World := {}
  match ← format.toFields? fieldNames value with
  | [tileMetres, powerPercent] =>
      return { tileMetres := ← format.fieldOr usual.tileMetres tileMetres
               powerPercent := ← format.fieldOr usual.powerPercent powerPercent }
  | _ => none

end World

instance : Codec World := ⟨World.toJson, World.ofJson⟩

namespace RunSettings

/-- The names of the fields. -/
def fieldNames : List String :=
  ["total_ticks", "delta_t_per_tick", "trace_interval_ticks", "physics"]

/-- The JSON form of the settings. -/
def toJson (format : DocumentFormat) (settings : RunSettings) : Json :=
  format.ofFields [("total_ticks", form format settings.totalTicks),
    ("delta_t_per_tick", form format settings.engineTicks),
    ("trace_interval_ticks", form format settings.traceInterval),
    ("physics", form format settings.world)]

/-- The settings of a JSON form. -/
def ofJson (format : DocumentFormat) (value : Json) : Option RunSettings := do
  match ← format.toFields? fieldNames value with
  | [totalTicks, engineTicks, traceInterval, world] =>
      return { totalTicks := ← format.field totalTicks
               engineTicks := ← format.field engineTicks
               traceInterval := ← format.field traceInterval
               world := ← format.field world }
  | _ => none

end RunSettings

instance : Codec RunSettings := ⟨RunSettings.toJson, RunSettings.ofJson⟩

end Haulage
