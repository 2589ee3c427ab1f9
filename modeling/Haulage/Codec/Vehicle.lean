import Haulage.Codec.World
import Haulage.Motion.State
import Haulage.Summary.Adverse
import Haulage.Summary.Freight
import Haulage.Summary.Vehicles
import Haulage.Summary.Weight

/-!
# JSON form of vehicles, summaries and motion

Of a vehicle every field may be missing and then has its usual value.
-/

namespace Haulage

open Codec (form)

namespace FreightRange

/-- The names of the fields. -/
def fieldNames : List String := ["min_kg", "max_kg"]

/-- The JSON form of a range. -/
def toJson (format : DocumentFormat) (range : FreightRange) : Json :=
  format.ofFields [("min_kg", form format range.lightest), ("max_kg", form format range.heaviest)]

/-- The range of a JSON form. -/
def ofJson (format : DocumentFormat) (value : Json) : Option FreightRange := do
  match ← format.toFields? fieldNames value with
  | [lightest, heaviest] =>
      return { lightest := ← format.field lightest, heaviest := ← format.field heaviest }
  | _ => none

end FreightRange

instance : Codec FreightRange := ⟨FreightRange.toJson, FreightRange.ofJson⟩

namespace Vehicle

/-- The names of the fields. -/
def fieldNames : List String :=
  ["name", "way", "length", "weight_t", "max_speed_kmh", "power_kw", "tractive_effort_kn", "gear",
    "capacity", "freight", "electric", "brake_force_kn"]

/-- The JSON form of a vehicle. -/
def toJson (format : DocumentFormat) (vehicle : Vehicle) : Json :=
  format.ofFields [("name", form format vehicle.name), ("way", form format vehicle.way),
    ("length", form format vehicle.length), ("weight_t", form format vehicle.tonnes),
    ("max_speed_kmh", form format vehicle.topKmh), ("power_kw", form format vehicle.powerKw),
    ("tractive_effort_kn", form format vehicle.effortKn), ("gear", form format vehicle.gear),
    ("capacity", form format vehicle.capacity), ("freight", form format vehicle.freight),
    ("electric", form format vehicle.electric), ("brake_force_kn", form format vehicle.brakeKn)]

/-- The vehicle of a JSON form; a missing field has its usual value. -/
def ofJson (format : DocumentFormat) (value : Json) : Option Vehicle := do
  let usual : Vehicle := {}
  match ← format.toFields? fieldNames value with
  | [name, way, length, tonnes, topKmh, powerKw, effortKn, gear, capacity, freight, electric,
      brakeKn] =>
      return { name := ← format.fieldOr usual.name name
               way := ← format.fieldOr usual.way way
               length := ← format.fieldOr usual.length length
               tonnes := ← format.fieldOr usual.tonnes tonnes
               topKmh := ← format.fieldOr usual.topKmh topKmh
               powerKw := ← format.fieldOr usual.powerKw powerKw
               effortKn := ← format.fieldOr usual.effortKn effortKn
               gear := ← format.fieldOr usual.gear gear
               capacity := ← format.fieldOr usual.capacity capacity
               freight := ← format.fieldOr usual.freight freight
               electric := ← format.fieldOr usual.electric electric
               brakeKn := ← format.fieldOr usual.brakeKn brakeKn }
  | _ => none

end Vehicle

instance : Codec Vehicle := ⟨Vehicle.toJson, Vehicle.ofJson⟩

namespace VehicleSummary

/-- The names of the fields. -/
def fieldNames : List String := ["count", "length", "tiles", "weight", "max_speed"]

/-- The JSON form of a summary. -/
def toJson (format : DocumentFormat) (summary : VehicleSummary) : Json :=
  format.ofFields [("count", form format summary.count), ("length", form format summary.length),
    ("tiles", form format summary.tiles), ("weight", form format summary.weight),
    ("max_speed", form format summary.maxSpeed)]

/-- The summary of a JSON form. -/
def ofJson (format : DocumentFormat) (value : Json) : Option VehicleSummary := do
  match ← format.toFields? fieldNames value with
  | [count, length, tiles, weight, maxSpeed] =>
      return { count := ← format.field count
               length := ← format.field length
               tiles := ← format.field tiles
               weight := ← format.field weight
               maxSpeed := ← format.field maxSpeed }
  | _ => none

end VehicleSummary

instance : Codec VehicleSummary := ⟨VehicleSummary.toJson, VehicleSummary.ofJson⟩

namespace AdverseSummary

/-- The names of the fields. -/
def fieldNames : List String := ["cf", "fr", "br", "max_speed"]

/-- The JSON form of a summary. -/
def toJson (format : DocumentFormat) (summary : AdverseSummary) : Json :=
  format.ofFields [("cf", form format summary.drag), ("fr", form format summary.rolling),
    ("br", form format summary.braking), ("max_speed", form format summary.maxSpeed)]

/-- The summary of a JSON form. -/
def ofJson (format : DocumentFormat) (value : Json) : Option AdverseSummary := do
  match ← format.toFields? fieldNames value with
  | [drag, rolling, braking, maxSpeed] =>
      return { drag := ← format.field drag
               rolling := ← format.field rolling
               braking := ← format.field braking
               maxSpeed := ← format.field maxSpeed }
  | _ => none

end AdverseSummary

instance : Codec AdverseSummary := ⟨AdverseSummary.toJson, AdverseSummary.ofJson⟩

namespace FreightSummary

/-- The names of the fields. -/
def fieldNames : List String := ["min_freight_weight", "max_freight_weight"]

/-- The JSON form of a summary. -/
def toJson (format : DocumentFormat) (summary : FreightSummary) : Json :=
  format.ofFields [("min_freight_weight", form format summary.lightest),
    ("max_freight_weight", form format summary.heaviest)]

/-- The summary of a JSON form. -/
def ofJson (format : DocumentFormat) (value : Json) : Option FreightSummary := do
  match ← format.toFields? fieldNames value with
  | [lightest, heaviest] =>
      return { lightest := ← format.field lightest, heaviest := ← format.field heaviest }
  | _ => none

end FreightSummary

instance : Codec FreightSummary := ⟨FreightSummary.toJson, FreightSummary.ofJson⟩

namespace WeightSummary

/-- The names of the fields. -/
def fieldNames : List String := ["weight", "weight_cos", "weight_sin"]

/-- The JSON form of a summary. -/
def toJson (format : DocumentFormat) (summary : WeightSummary) : Json :=
  format.ofFields [("weight", form format summary.weight),
    ("weight_cos", form format summary.across), ("weight_sin", form format summary.along)]

/-- The summary of a JSON form. -/
def ofJson (format : DocumentFormat) (value : Json) : Option WeightSummary := do
  match ← format.toFields? fieldNames value with
  | [weight, across, along] =>
      return { weight := ← format.field weight
               across := ← format.field across
               along := ← format.field along }
  | _ => none

end WeightSummary

instance : Codec WeightSummary := ⟨WeightSummary.toJson, WeightSummary.ofJson⟩

namespace WayContext

/-- The names of the fields. -/
def fieldNames : List String := ["way", "max_speed_kmh", "friction", "electrified"]

/-- The JSON form of the way under a vehicle. -/
def toJson (format : DocumentFormat) (context : WayContext) : Json :=
  format.ofFields [("way", form format context.way),
    ("max_speed_kmh", form format context.maxSpeed), ("friction", form format context.friction),
    ("electrified", form format context.electrified)]

/-- The way of a JSON form. -/
def ofJson (format : DocumentFormat) (value : Json) : Option WayContext := do
  match ← format.toFields? fieldNames value with
  | [way, maxSpeed, friction, electrified] =>
      return { way := ← format.field way
               maxSpeed := ← format.field maxSpeed
               friction := ← format.field friction
               electrified := ← format.field electrified }
  | _ => none

end WayContext

instance : Codec WayContext := ⟨WayContext.toJson, WayContext.ofJson⟩

namespace MoveRequest

/-- The names of the fields. -/
def fieldNames : List String :=
  ["delta_t", "simtime_factor", "target_speed", "next_speed_limit", "steps_til_limit",
    "steps_til_brake"]

/-- The JSON form of a request. -/
def toJson (format : DocumentFormat) (request : MoveRequest) : Json :=
  format.ofFields [("delta_t", form format request.engineTicks),
    ("simtime_factor", form format request.mapScale),
    ("target_speed", form format request.target), ("next_speed_limit", form format request.limit),
    ("steps_til_limit", form format request.stepsToLimit),
    ("steps_til_brake", form format request.stepsToBrake)]

/-- The request of a JSON form. -/
def ofJson (format : DocumentFormat) (value : Json) : Option MoveRequest := do
  match ← format.toFields? fieldNames value with
  | [engineTicks, mapScale, target, limit, stepsToLimit, stepsToBrake] =>
      return { engineTicks := ← format.field engineTicks
               mapScale := ← format.field mapScale
               target := ← format.field target
               limit := ← format.field limit
               stepsToLimit := ← format.field stepsToLimit
               stepsToBrake := ← format.field stepsToBrake }
  | _ => none

end MoveRequest

instance : Codec MoveRequest := ⟨MoveRequest.toJson, MoveRequest.ofJson⟩

namespace MotionState

/-- The names of the fields. -/
def fieldNames : List String := ["speed", "yards", "residue"]

/-- The JSON form of a state. -/
def toJson (format : DocumentFormat) (state : MotionState) : Json :=
  format.ofFields [("speed", form format state.speed), ("yards", form format state.yards),
    ("residue", form format state.residue)]

/-- The state of a JSON form. -/
def ofJson (format : DocumentFormat) (value : Json) : Option MotionState := do
  match ← format.toFields? fieldNames value with
  | [speed, yards, residue] =>
      return { speed := ← format.field speed
               yards := ← format.field yards
               residue := ← format.field residue }
  | _ => none

end MotionState

instance : Codec MotionState := ⟨MotionState.toJson, MotionState.ofJson⟩

end Haulage
