import Haulage.Codec.World
import Haulage.Route

/-!
# JSON form of sections and directions

Of a section the slope and the overhead line may be missing.
-/

namespace Haulage

open Codec (form)

namespace Direction

/-- The direction with a label. -/
def ofLabel? (label : String) : Option Direction :=
  [forward, backward].find? fun direction => direction.label == label

end Direction

instance : Codec Direction where
  form format direction := format.ofCase direction.label
  ofForm? format value := (format.toCase? value).bind Direction.ofLabel?

namespace Section

/-- The names of the fields. -/
def fieldNames : List String := ["way", "length_steps", "max_speed_kmh", "slope", "electrified"]

/-- The JSON form of a section. -/
def toJson (format : DocumentFormat) (stretch : Section) : Json :=
  format.ofFields [("way", form format stretch.way), ("length_steps", form format stretch.length),
    ("max_speed_kmh", form format stretch.maxSpeed), ("slope", form format stretch.slope),
    ("electrified", form format stretch.electrified)]

/-- The section of a JSON form. -/
def ofJson (format : DocumentFormat) (value : Json) : Option Section := do
  match ← format.toFields? fieldNames value with
  | [way, length, maxSpeed, slope, electrified] =>
      return { way := ← format.field way
               length := ← format.field length
               maxSpeed := ← format.field maxSpeed
               slope := ← format.fieldOr 0 slope
               electrified := ← format.fieldOr false electrified }
  | _ => none

end Section

instance : Codec Section := ⟨Section.toJson, Section.ofJson⟩

end Haulage
