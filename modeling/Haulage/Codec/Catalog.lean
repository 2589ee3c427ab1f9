import Haulage.Codec.Route
import Haulage.Codec.Vehicle
import Haulage.Planning.Catalog

/-!
# JSON form of catalogs

A batch has one vehicle unless it says how many; a consist is empty of freight unless it says
otherwise; a catalog may ask for no grades.
-/

namespace Haulage

open Codec (form)

namespace Batch

/-- The names of the fields. -/
def fieldNames : List String := ["id", "count"]

/-- The JSON form of a batch. -/
def toJson (format : DocumentFormat) (batch : Batch) : Json :=
  format.ofFields [("id", form format batch.type), ("count", form format batch.count)]

/-- The batch of a JSON form. -/
def ofJson (format : DocumentFormat) (value : Json) : Option Batch := do
  match ← format.toFields? fieldNames value with
  | [type, count] => return { type := ← format.field type, count := ← format.fieldOr 1 count }
  | _ => none

end Batch

instance : Codec Batch := ⟨Batch.toJson, Batch.ofJson⟩

namespace ConsistEntry

/-- The names of the fields. -/
def fieldNames : List String := ["name", "loaded", "vehicles"]

/-- The JSON form of a consist. -/
def toJson (format : DocumentFormat) (entry : ConsistEntry) : Json :=
  format.ofFields [("name", form format entry.name), ("loaded", form format entry.loaded),
    ("vehicles", form format entry.batches)]

/-- The consist of a JSON form. -/
def ofJson (format : DocumentFormat) (value : Json) : Option ConsistEntry := do
  match ← format.toFields? fieldNames value with
  | [name, loaded, batches] =>
      return { name := ← format.field name, loaded := ← format.fieldOr false loaded
               batches := ← format.field batches }
  | _ => none

end ConsistEntry

instance : Codec ConsistEntry := ⟨ConsistEntry.toJson, ConsistEntry.ofJson⟩

namespace Catalog

/-- The names of the fields. -/
def fieldNames : List String := ["config", "vehicles", "consists", "route", "grades_permille"]

/-- The JSON form of a catalog. -/
def toJson (format : DocumentFormat) (catalog : Catalog) : Json :=
  format.ofFields [("config", form format catalog.settings),
    ("vehicles", form format catalog.vehicles), ("consists", form format catalog.consists),
    ("route", form format catalog.sections), ("grades_permille", form format catalog.grades)]

/-- The catalog of a JSON form. -/
def ofJson (format : DocumentFormat) (value : Json) : Option Catalog := do
  match ← format.toFields? fieldNames value with
  | [settings, vehicles, consists, sections, grades] =>
      return { settings := ← format.field settings, vehicles := ← format.field vehicles
               consists := ← format.field consists, sections := ← format.field sections
               grades := ← format.fieldOr [] grades }
  | _ => none

end Catalog

instance : Codec Catalog := ⟨Catalog.toJson, Catalog.ofJson⟩

/-- The catalog of a JSON document. -/
def Catalog.ofText? (text : String) : Option Catalog := Codec.ofText? text

end Haulage
