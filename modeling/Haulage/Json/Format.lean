import Haulage.Json.Parser
import Haulage.Json.Printer

/-!
# Document formats

What a record says of itself is the names of its fields, their types and what is usual for them.
How that becomes a document is the matter of a format: how JSON values are written and read, and
which JSON values stand for numbers, names, lists and records.
-/

namespace Haulage

open Json (Denotes)

/-- How values become documents and are made of them again. -/
structure DocumentFormat where
  /-- Writes a JSON value. -/
  write : Json → String
  /-- Reads the JSON value of a document. -/
  read? : String → Option Json
  /-- The form of a truth value. -/
  ofBool : Bool → Json
  /-- The truth value of a form. -/
  toBool? : Json → Option Bool
  /-- The form of a whole number. -/
  ofInt : Int → Json
  /-- The whole number of a form, between the bounds of its type. -/
  toInt? : (low high : Int) → Json → Option Int
  /-- The form of a text. -/
  ofText : String → Json
  /-- The text of a form. -/
  toText? : Json → Option String
  /-- The form of a value that may be absent, by its form if it is there. -/
  ofOption : Option Json → Json
  /-- The form of a value that may be absent, if it is there. -/
  toOption : Json → Option Json
  /-- The form of a list, by those of its items. -/
  ofItems : List Json → Json
  /-- The forms of the items of a list. -/
  toItems? : Json → Option (List Json)
  /-- The form of one of several cases, by its name. -/
  ofCase : String → Json
  /-- The name of the case that a form tells. -/
  toCase? : Json → Option String
  /-- The form of a record that only names the type of its one field. -/
  ofWrapper : Json → Json
  /-- The form of the one field of such a record. -/
  toWrapper : Json → Json
  /-- The form of a record, by the names and the forms of its fields. -/
  ofFields : List (String × Json) → Json
  /-- The forms of the fields with these names, in their order; `none` in the place of one that is
  missing. -/
  toFields? : (names : List String) → Json → Option (List (Option Json))
  /-- The value of a field that must be there, by the reader of its forms. -/
  required : {α : Type} → (Json → Option α) → Option Json → Option α
  /-- The value of a field that has a usual value, by the reader of its forms. -/
  defaulted : {α : Type} → α → (Json → Option α) → Option Json → Option α

namespace Json

/-- How often a name stands among members. -/
def occurrences (name : String) (members : List (String × Json)) : Nat :=
  members.countP fun member => member.1 == name

/-- The value of the first member with a name. -/
def valueOf? (name : String) (members : List (String × Json)) : Option Json :=
  (members.find? fun member => member.1 == name).map Prod.snd

end Json

/-- A format writes and reads JSON, and the form of a value is the one that JSON has for it.  A
record is an object of its fields, which is read by their names: members may stand in any order, a
member with another name is passed over, and no field may stand twice. -/
structure DocumentFormat.Documented (format : DocumentFormat) : Prop where
  /-- What is written of a value is a text of this value. -/
  denotes_write {value : Json} (readable : value.Readable) :
    Denotes (format.write value).toList value
  /-- Every text of a value is read as this value. -/
  read?_eq {text : String} {value : Json} (denotes : Denotes text.toList value) :
    format.read? text = some value
  /-- A truth value is written as it is. -/
  ofBool_eq (value : Bool) : format.ofBool value = .bool value
  /-- It is read as it is. -/
  toBool?_bool (value : Bool) : format.toBool? (.bool value) = some value
  /-- A whole number is written as it is. -/
  ofInt_eq (value : Int) : format.ofInt value = .int value
  /-- It is read as it is, if its type has it. -/
  toInt?_int {low high value : Int} (low_le : low ≤ value) (le_high : value ≤ high) :
    format.toInt? low high (.int value) = some value
  /-- A text is written as it is. -/
  ofText_eq (text : String) : format.ofText text = .str text
  /-- It is read as it is. -/
  toText?_str (text : String) : format.toText? (.str text) = some text
  /-- A value that is absent is the null value. -/
  ofOption_none : format.ofOption none = .null
  /-- A value that is there has its own form. -/
  ofOption_some (value : Json) : format.ofOption (some value) = value
  /-- The null value is read as absent. -/
  toOption_null : format.toOption .null = none
  /-- Any other value is there. -/
  toOption_of_ne_null {value : Json} (there : value ≠ .null) : format.toOption value = some value
  /-- A case is written as the text of its name. -/
  ofCase_eq (name : String) : format.ofCase name = .str name
  /-- It is read by this text. -/
  toCase?_str (name : String) : format.toCase? (.str name) = some name
  /-- A record that only names a type has the form of its field. -/
  ofWrapper_eq (value : Json) : format.ofWrapper value = value
  /-- It is read by the form of its field. -/
  toWrapper_eq (value : Json) : format.toWrapper value = value
  /-- A record is written as the object of its fields. -/
  ofFields_eq (fields : List (String × Json)) : format.ofFields fields = .obj fields
  /-- A record is read from an object by the names of its fields, if none stands twice. -/
  toFields?_obj {names : List String} {members : List (String × Json)}
    (once : ∀ name ∈ names, Json.occurrences name members ≤ 1) :
    format.toFields? names (.obj members) = some (names.map (Json.valueOf? · members))
  /-- An object in which a field stands twice is no record. -/
  toFields?_twice {names : List String} {members : List (String × Json)} {name : String}
    (known : name ∈ names) (twice : 1 < Json.occurrences name members) :
    format.toFields? names (.obj members) = none
  /-- A field that is there has the value of its form. -/
  required_some {α : Type} (ofForm? : Json → Option α) (form : Json) :
    format.required ofForm? (some form) = ofForm? form
  /-- So has a field with a usual value. -/
  defaulted_some {α : Type} (usual : α) (ofForm? : Json → Option α) (form : Json) :
    format.defaulted usual ofForm? (some form) = ofForm? form

namespace Json

/-- The values of the fields with these names; a list is taken for a record without its names. -/
def slots (names : List String) : Json → Option (List (Option Json))
  | arr items =>
      if items.length ≤ names.length then
        some (items.map some ++ List.replicate (names.length - items.length) none)
      else
        none
  | obj members =>
      if names.all fun name => occurrences name members ≤ 1 then
        some (names.map (valueOf? · members))
      else
        none
  | _ => none

/-- The name of one of several cases: a text, or an object with this one name and the null value. -/
def caseName? : Json → Option String
  | str name => some name
  | obj [(name, null)] => some name
  | _ => none

/-- A whole number within bounds. -/
def intWithin (low high : Int) : Json → Option Int
  | int value => if low ≤ value ∧ value ≤ high then some value else none
  | _ => none

end Json

/-- The format that reads with this parser and writes with this printer. -/
def DocumentFormat.standard : DocumentFormat where
  write := Json.toText
  read? := Json.parse
  ofBool := .bool
  toBool?
    | .bool value => some value
    | _ => none
  ofInt := .int
  toInt? := Json.intWithin
  ofText := .str
  toText? := Json.text?
  ofOption
    | some form => form
    | none => .null
  toOption
    | .null => none
    | form => some form
  ofItems := .arr
  toItems? := Json.items?
  ofCase := .str
  toCase? := Json.caseName?
  ofWrapper := id
  toWrapper := id
  ofFields := .obj
  toFields? := Json.slots
  required ofForm? slot := slot.bind ofForm?
  defaulted usual ofForm?
    | some form => ofForm? form
    | none => some usual

/-- A type whose values have JSON forms, which depend on the format. -/
class Codec (α : Type) where
  /-- The form of a value. -/
  form : DocumentFormat → α → Json
  /-- The value of a form. -/
  ofForm? : DocumentFormat → Json → Option α

open Codec (form ofForm?)

namespace DocumentFormat

variable {α : Type} [Codec α] (format : DocumentFormat)

/-- The value of a field that must be there. -/
def field (slot : Option Json) : Option α := format.required (ofForm? format) slot

/-- The value of a field that may be missing. -/
def fieldOr (usual : α) (slot : Option Json) : Option α :=
  format.defaulted usual (ofForm? format) slot

/-- The document of a value. -/
def document (value : α) : String := format.write (form format value)

/-- The value of a document, if the text is one. -/
def ofDocument? (text : String) : Option α := (format.read? text).bind (ofForm? format)

/-- The document of the value that a text is read as. -/
def rewritten? (α : Type) [Codec α] (text : String) : Option String :=
  (format.ofDocument? text : Option α).map format.document

end DocumentFormat

/-- The JSON value of a value. -/
def encode {α : Type} [Codec α] (value : α) : Json := form .standard value

/-- The value of a JSON value. -/
def decode {α : Type} [Codec α] (value : Json) : Option α := ofForm? .standard value

namespace Codec

/-- The document of a value. -/
def toText {α : Type} [Codec α] (value : α) : String := DocumentFormat.standard.document value

/-- The value of a document, if the text is one. -/
def ofText? {α : Type} [Codec α] (text : String) : Option α :=
  DocumentFormat.standard.ofDocument? text

instance : Codec Bool where
  form format := format.ofBool
  ofForm? format := format.toBool?

instance : Codec String where
  form format := format.ofText
  ofForm? format := format.toText?

instance : Codec UInt8 where
  form format value := format.ofInt value.toNat
  ofForm? format value := (format.toInt? 0 255 value).map fun value => .ofNat value.toNat

instance : Codec UInt16 where
  form format value := format.ofInt value.toNat
  ofForm? format value := (format.toInt? 0 65535 value).map fun value => .ofNat value.toNat

instance : Codec UInt32 where
  form format value := format.ofInt value.toNat
  ofForm? format value := (format.toInt? 0 4294967295 value).map fun value => .ofNat value.toNat

instance : Codec UInt64 where
  form format value := format.ofInt value.toNat
  ofForm? format value :=
    (format.toInt? 0 18446744073709551615 value).map fun value => .ofNat value.toNat

instance : Codec Int16 where
  form format value := format.ofInt value.toInt
  ofForm? format value := (format.toInt? (-32768) 32767 value).map Int16.ofInt

instance : Codec Int32 where
  form format value := format.ofInt value.toInt
  ofForm? format value := (format.toInt? (-2147483648) 2147483647 value).map Int32.ofInt

instance : Codec Int64 where
  form format value := format.ofInt value.toInt
  ofForm? format value :=
    (format.toInt? (-9223372036854775808) 9223372036854775807 value).map Int64.ofInt

instance {α : Type} [Codec α] : Codec (Option α) where
  form format value := format.ofOption (value.map (form format))
  ofForm? format value :=
    match format.toOption value with
    | some value => (ofForm? format value).map some
    | none => some none

instance {α : Type} [Codec α] : Codec (List α) where
  form format values := format.ofItems (values.map (form format))
  ofForm? format value := (format.toItems? value).bind fun items => items.mapM (ofForm? format)

end Codec

end Haulage
