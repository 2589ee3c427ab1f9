import Haulage.Codec.Route
import Haulage.Codec.Vehicle
import Haulage.Proofs.Parsing
import Haulage.Proofs.Rendering

/-!
# Documents read back

In a documented format a type is lawful if its values are read back from their forms and these
forms have no unread part.  Numbers, texts, names and records of lawful fields are lawful, and with
the writing and reading of JSON this gives the same for documents.  A record is read by the names
of its fields, so neither the order of its members nor those it does not know make a difference.
-/

namespace Haulage

open Json (Denotes occurrences valueOf?)

/-- Values are read back from their forms, which have no unread part. -/
class Codec.Lawful (α : Type) [Codec α] : Prop where
  /-- A value is read back from its form. -/
  ofForm?_form {format : DocumentFormat} (documented : format.Documented) (value : α) :
    ofForm? format (form format value) = some value
  /-- No part of a form is unread. -/
  form_readable {format : DocumentFormat} (documented : format.Documented) (value : α) :
    (form format value).Readable

/-- No value has the null value for its form. -/
class Codec.NeverNull (α : Type) [Codec α] : Prop where
  /-- The form of a value is not the null value. -/
  form_ne_null {format : DocumentFormat} (documented : format.Documented) (value : α) :
    form format value ≠ .null

open Codec (Lawful NeverNull form ofForm?)
open Codec.Lawful (ofForm?_form form_readable)

section Plain

variable {format : DocumentFormat} (documented : format.Documented)

namespace DocumentFormat.Documented

include documented

theorem readable_ofInt (value : Int) : (format.ofInt value).Readable :=
  documented.ofInt_eq value ▸ .int value

theorem readable_ofCase (name : String) : (format.ofCase name).Readable :=
  documented.ofCase_eq name ▸ .str name

theorem readable_ofWrapper {value : Json} (readable : value.Readable) :
    (format.ofWrapper value).Readable := by
  rw [documented.ofWrapper_eq]
  exact readable

/-- A whole number is read back, if its type has it. -/
theorem toInt?_ofInt {low high value : Int} (low_le : low ≤ value) (le_high : value ≤ high) :
    format.toInt? low high (format.ofInt value) = some value := by
  rw [documented.ofInt_eq, documented.toInt?_int low_le le_high]

/-- A value made from a whole number is read back, if its type has the number. -/
theorem map_toInt? {α : Type} {make : Int → α} {low high number : Int} {value : α}
    (low_le : low ≤ number) (le_high : number ≤ high) (made : make number = value) :
    (format.toInt? low high (format.ofInt number)).map make = some value := by
  rw [documented.toInt?_ofInt low_le le_high, Option.map_some, made]

/-- A record that only names a type is read back with its field. -/
theorem map_toWrapper {α β : Type} [Codec α] [Lawful α] (make : α → β) (value : α) :
    (ofForm? format (format.toWrapper (format.ofWrapper (form format value)))).map make =
      some (make value) := by
  rw [documented.ofWrapper_eq, documented.toWrapper_eq, ofForm?_form documented, Option.map_some]

theorem toCase?_ofCase (name : String) : format.toCase? (format.ofCase name) = some name := by
  rw [documented.ofCase_eq, documented.toCase?_str]

end DocumentFormat.Documented

instance : Lawful Bool where
  ofForm?_form documented value := by
    simp only [form, ofForm?, documented.ofBool_eq, documented.toBool?_bool]
  form_readable documented value := by
    simp only [form, documented.ofBool_eq]
    exact .bool value

instance : Lawful String where
  ofForm?_form documented text := by
    simp only [form, ofForm?, documented.ofText_eq, documented.toText?_str]
  form_readable documented text := by
    simp only [form, documented.ofText_eq]
    exact .str text

instance : Lawful UInt8 where
  ofForm?_form documented value := by
    have below := value.toNat_lt
    exact documented.map_toInt? (by omega) (by omega) UInt8.ofNat_toNat
  form_readable documented value := documented.readable_ofInt value.toNat

instance : Lawful UInt16 where
  ofForm?_form documented value := by
    have below := value.toNat_lt
    exact documented.map_toInt? (by omega) (by omega) UInt16.ofNat_toNat
  form_readable documented value := documented.readable_ofInt value.toNat

instance : Lawful UInt32 where
  ofForm?_form documented value := by
    have below := value.toNat_lt
    exact documented.map_toInt? (by omega) (by omega) UInt32.ofNat_toNat
  form_readable documented value := documented.readable_ofInt value.toNat

instance : Lawful UInt64 where
  ofForm?_form documented value := by
    have below := value.toNat_lt
    exact documented.map_toInt? (by omega) (by omega) UInt64.ofNat_toNat
  form_readable documented value := documented.readable_ofInt value.toNat

instance : Lawful Int16 where
  ofForm?_form documented value := by
    have below := value.toInt_lt
    have above := value.le_toInt
    exact documented.map_toInt? (by omega) (by omega) value.ofInt_toInt
  form_readable documented value := documented.readable_ofInt value.toInt

instance : Lawful Int32 where
  ofForm?_form documented value := by
    have below := value.toInt_lt
    have above := value.le_toInt
    exact documented.map_toInt? (by omega) (by omega) value.ofInt_toInt
  form_readable documented value := documented.readable_ofInt value.toInt

instance : Lawful Int64 where
  ofForm?_form documented value := by
    have below := value.toInt_lt
    have above := value.le_toInt
    exact documented.map_toInt? (by omega) (by omega) value.ofInt_toInt
  form_readable documented value := documented.readable_ofInt value.toInt

instance : Lawful Fixed where
  ofForm?_form documented value := by
    have fits := value.fits
    simp only [form, ofForm?, documented.ofWrapper_eq, documented.toWrapper_eq]
    rw [documented.toInt?_ofInt (by omega) (by omega)]
    exact dif_pos value.fits
  form_readable documented value :=
    documented.readable_ofWrapper (documented.readable_ofInt value.raw)

instance : NeverNull UInt32 where
  form_ne_null documented value := by
    simp only [form, documented.ofInt_eq]
    exact nofun

/-- A value that may be absent is the null value then, so a value that is there must not be. -/
instance {α : Type} [Codec α] [Lawful α] [NeverNull α] : Lawful (Option α) where
  ofForm?_form documented
    | none => by
      simp only [form, ofForm?, Option.map_none, documented.ofOption_none, documented.toOption_null]
    | some value => by
      have there := NeverNull.form_ne_null documented value
      simp only [form, ofForm?, Option.map_some, documented.ofOption_some] at there ⊢
      simp only [documented.toOption_of_ne_null there, ofForm?_form documented value,
        Option.map_some]
  form_readable documented
    | none => by
      simp only [form, Option.map_none, documented.ofOption_none]
      exact .null
    | some value => by
      have readable := form_readable documented value
      simp only [form, Option.map_some, documented.ofOption_some] at readable ⊢
      exact readable

theorem Direction.ofLabel?_label (direction : Direction) :
    Direction.ofLabel? direction.label = some direction := by
  cases direction <;> decide

instance : Lawful Way where
  ofForm?_form documented way := by
    simp only [form, ofForm?, documented.toCase?_ofCase, Option.bind_some, way.ofLabel?_label]
  form_readable documented way := documented.readable_ofCase way.label

instance : Lawful Direction where
  ofForm?_form documented direction := by
    simp only [form, ofForm?, documented.toCase?_ofCase, Option.bind_some,
      direction.ofLabel?_label]
  form_readable documented direction := documented.readable_ofCase direction.label

instance : Lawful Tick where
  ofForm?_form documented tick := documented.map_toWrapper Tick.mk tick.number
  form_readable documented tick :=
    documented.readable_ofWrapper (form_readable documented tick.number)

instance : Lawful ConvoyId where
  ofForm?_form documented id := documented.map_toWrapper ConvoyId.mk id.number
  form_readable documented id :=
    documented.readable_ofWrapper (form_readable documented id.number)

instance : Lawful SectionId where
  ofForm?_form documented id := documented.map_toWrapper SectionId.mk id.number
  form_readable documented id :=
    documented.readable_ofWrapper (form_readable documented id.number)

end Plain

section Members

variable {names : List String} {members others : List (String × Json)}

namespace Json

theorem occurrences_eq_count (name : String) (members : List (String × Json)) :
    occurrences name members = (members.map Prod.fst).count name := by
  rw [occurrences, List.count, List.countP_map]
  rfl

theorem find?_of_distinct (distinct : (members.map Prod.fst).Nodup) {member : String × Json}
    (inside : member ∈ members) :
    members.find? (fun other => other.1 == member.1) = some member := by
  induction members with
  | nil => contradiction
  | cons first members ih =>
    rw [List.map_cons, List.nodup_cons] at distinct
    rcases List.mem_cons.mp inside with rfl | inside
    · exact List.find?_cons_of_pos (beq_self_eq_true _)
    · have name_ne : first.1 ≠ member.1 := by
        intro name_eq
        exact distinct.1 (name_eq ▸ List.mem_map_of_mem inside)
      rw [List.find?_cons_of_neg (by simpa using name_ne)]
      exact ih distinct.2 inside

/-- The members with these names. -/
def known (names : List String) (members : List (String × Json)) : List (String × Json) :=
  members.filter fun member => names.contains member.1

theorem named_and_known {name : String} (inside : name ∈ names) (member : String × Json) :
    (member.1 == name && names.contains member.1) = (member.1 == name) := by
  by_cases name_eq : member.1 = name
  · simp [name_eq, inside]
  · simp [name_eq]

theorem occurrences_known {name : String} (inside : name ∈ names)
    (members : List (String × Json)) :
    occurrences name (known names members) = occurrences name members := by
  simp only [occurrences, known, List.countP_filter, named_and_known inside]

theorem valueOf?_known {name : String} (inside : name ∈ names) (members : List (String × Json)) :
    valueOf? name (known names members) = valueOf? name members := by
  rw [valueOf?, valueOf?, ← List.head?_filter, ← List.head?_filter, known, List.filter_filter]
  simp only [named_and_known inside]

/-- A name that stands at most once is found in any order of the members. -/
theorem valueOf?_of_perm {name : String} (same : members.Perm others)
    (once : occurrences name members ≤ 1) : valueOf? name members = valueOf? name others := by
  have found := same.filter fun member => member.1 == name
  rw [occurrences, List.countP_eq_length_filter] at once
  rw [valueOf?, valueOf?, ← List.head?_filter, ← List.head?_filter]
  generalize members.filter (fun member => member.1 == name) = here at found once ⊢
  match here, once with
  | [], _ => rw [List.nil_perm.mp found]
  | [member], _ => rw [← List.singleton_perm.mp found]

end Json

namespace DocumentFormat.Documented

variable {format : DocumentFormat} (documented : format.Documented)

include documented

/-- An object with just the fields, in their order, has all their values. -/
theorem toFields?_ofFields (names_eq : members.map Prod.fst = names) (distinct : names.Nodup) :
    format.toFields? names (format.ofFields members) =
      some (members.map fun member => some member.2) := by
  subst names_eq
  have once : ∀ name ∈ members.map Prod.fst, occurrences name members ≤ 1 := by
    intro name _
    rw [Json.occurrences_eq_count]
    exact List.nodup_iff_count.mp distinct name
  rw [documented.ofFields_eq, documented.toFields?_obj once, List.map_map]
  congr 1
  refine List.map_congr_left fun member inside => ?_
  rw [Function.comp_apply, valueOf?, Json.find?_of_distinct distinct inside, Option.map_some]

/-- The fields of an object depend on its known members only, and not on their order. -/
theorem toFields?_of_known (same : (Json.known names members).Perm (Json.known names others)) :
    format.toFields? names (.obj members) = format.toFields? names (.obj others) := by
  have occurrences_eq : ∀ name ∈ names, occurrences name members = occurrences name others := by
    intro name inside
    rw [← Json.occurrences_known inside members, ← Json.occurrences_known inside others]
    exact same.countP_eq _
  by_cases once : ∀ name ∈ names, occurrences name members ≤ 1
  · have other_once : ∀ name ∈ names, occurrences name others ≤ 1 :=
      fun name inside => occurrences_eq name inside ▸ once name inside
    rw [documented.toFields?_obj once, documented.toFields?_obj other_once]
    congr 1
    refine List.map_congr_left fun name inside => ?_
    rw [← Json.valueOf?_known inside members, ← Json.valueOf?_known inside others]
    apply Json.valueOf?_of_perm same
    rw [Json.occurrences_known inside]
    exact once name inside
  · simp only [Classical.not_forall, Nat.not_le] at once
    obtain ⟨name, inside, twice⟩ := once
    rw [documented.toFields?_twice inside twice,
      documented.toFields?_twice inside (occurrences_eq name inside ▸ twice)]

theorem field_form {α : Type} [Codec α] [Lawful α] (value : α) :
    format.field (some (form format value)) = some value :=
  (documented.required_some _ _).trans (ofForm?_form documented value)

theorem fieldOr_form {α : Type} [Codec α] [Lawful α] (usual value : α) :
    format.fieldOr usual (some (form format value)) = some value :=
  (documented.defaulted_some _ _ _).trans (ofForm?_form documented value)

end DocumentFormat.Documented

end Members

/-- A record is written by the names of its fields, in their order, and read by their names. -/
class Codec.Record (α : Type) [Codec α] (names : outParam (List String)) : Prop where
  /-- No two fields have one name. -/
  distinct : names.Nodup
  /-- A value is made from what its fields are, as far as they are there. -/
  shape : ∃ (make : DocumentFormat → List (Option Json) → Option α)
      (fields : DocumentFormat → α → List (String × Json)),
    (∀ format value, ofForm? format value = (format.toFields? names value).bind (make format)) ∧
    (∀ format value, form format value = format.ofFields (fields format value)) ∧
    (∀ format value, (fields format value).map Prod.fst = names) ∧
    ∀ format, format.Documented → ∀ value,
      make format ((fields format value).map fun member => some member.2) = some value ∧
      ∀ member ∈ fields format value, member.2.Readable

open Codec (Record)

instance {α : Type} [Codec α] {names : List String} [Record α names] : Lawful α where
  ofForm?_form {format} documented value := by
    obtain ⟨distinct, make, fields, read_eq, form_eq, names_eq, kept⟩ :=
      (inferInstance : Record α names)
    rw [form_eq, read_eq, documented.toFields?_ofFields (names_eq format value) distinct,
      Option.bind_some, (kept format documented value).1]
  form_readable {format} documented value := by
    obtain ⟨-, make, fields, -, form_eq, -, kept⟩ := (inferInstance : Record α names)
    rw [form_eq, documented.ofFields_eq]
    exact .obj (kept format documented value).2

instance : Record FreightRange FreightRange.fieldNames where
  distinct := by decide
  shape := ⟨_, _, fun _ _ => rfl, fun _ _ => rfl, fun _ _ => rfl, fun _ documented _ =>
    ⟨by simp [documented.field_form], by simp [form_readable documented]⟩⟩

instance : NeverNull FreightRange where
  form_ne_null {format} documented value := by
    rw [show form format value = format.ofFields _ from rfl, documented.ofFields_eq]
    exact nofun

instance : Record Vehicle Vehicle.fieldNames where
  distinct := by decide
  shape := ⟨_, _, fun _ _ => rfl, fun _ _ => rfl, fun _ _ => rfl, fun _ documented _ =>
    ⟨by simp [documented.fieldOr_form], by simp [form_readable documented]⟩⟩

instance : Record VehicleSummary VehicleSummary.fieldNames where
  distinct := by decide
  shape := ⟨_, _, fun _ _ => rfl, fun _ _ => rfl, fun _ _ => rfl, fun _ documented _ =>
    ⟨by simp [documented.field_form], by simp [form_readable documented]⟩⟩

instance : Record AdverseSummary AdverseSummary.fieldNames where
  distinct := by decide
  shape := ⟨_, _, fun _ _ => rfl, fun _ _ => rfl, fun _ _ => rfl, fun _ documented _ =>
    ⟨by simp [documented.field_form], by simp [form_readable documented]⟩⟩

instance : Record FreightSummary FreightSummary.fieldNames where
  distinct := by decide
  shape := ⟨_, _, fun _ _ => rfl, fun _ _ => rfl, fun _ _ => rfl, fun _ documented _ =>
    ⟨by simp [documented.field_form], by simp [form_readable documented]⟩⟩

instance : Record WeightSummary WeightSummary.fieldNames where
  distinct := by decide
  shape := ⟨_, _, fun _ _ => rfl, fun _ _ => rfl, fun _ _ => rfl, fun _ documented _ =>
    ⟨by simp [documented.field_form], by simp [form_readable documented]⟩⟩

instance : Record WayContext WayContext.fieldNames where
  distinct := by decide
  shape := ⟨_, _, fun _ _ => rfl, fun _ _ => rfl, fun _ _ => rfl, fun _ documented _ =>
    ⟨by simp [documented.field_form], by simp [form_readable documented]⟩⟩

instance : Record MoveRequest MoveRequest.fieldNames where
  distinct := by decide
  shape := ⟨_, _, fun _ _ => rfl, fun _ _ => rfl, fun _ _ => rfl, fun _ documented _ =>
    ⟨by simp [documented.field_form], by simp [form_readable documented]⟩⟩

instance : Record MotionState MotionState.fieldNames where
  distinct := by decide
  shape := ⟨_, _, fun _ _ => rfl, fun _ _ => rfl, fun _ _ => rfl, fun _ documented _ =>
    ⟨by simp [documented.field_form], by simp [form_readable documented]⟩⟩

instance : Record Section Section.fieldNames where
  distinct := by decide
  shape := ⟨_, _, fun _ _ => rfl, fun _ _ => rfl, fun _ _ => rfl, fun _ documented _ =>
    ⟨by simp [documented.field_form, documented.fieldOr_form],
      by simp [form_readable documented]⟩⟩

instance : Record Clock Clock.fieldNames where
  distinct := by decide
  shape := ⟨_, _, fun _ _ => rfl, fun _ _ => rfl, fun _ _ => rfl, fun _ documented _ =>
    ⟨by simp [documented.field_form], by simp [form_readable documented]⟩⟩

instance : Record World World.fieldNames where
  distinct := by decide
  shape := ⟨_, _, fun _ _ => rfl, fun _ _ => rfl, fun _ _ => rfl, fun _ documented _ =>
    ⟨by simp [documented.fieldOr_form], by simp [form_readable documented]⟩⟩

instance : Record RunSettings RunSettings.fieldNames where
  distinct := by decide
  shape := ⟨_, _, fun _ _ => rfl, fun _ _ => rfl, fun _ _ => rfl, fun _ documented _ =>
    ⟨by simp [documented.field_form], by simp [form_readable documented]⟩⟩

/-- Two forms with the same fields are read alike. -/
theorem Codec.Record.ofForm?_congr {α : Type} [Codec α] {names : List String} [Record α names]
    {format : DocumentFormat} {value other : Json}
    (same : format.toFields? names value = format.toFields? names other) :
    (ofForm? format value : Option α) = ofForm? format other := by
  obtain ⟨-, make, fields, read_eq, -⟩ := (inferInstance : Record α names)
  rw [read_eq, read_eq, same]

/-- What is written of a value is read as this value, and a text that is read is written in a way
that stays. -/
structure RoundTrips (format : DocumentFormat) (α : Type) [Codec α] : Prop where
  /-- The document of a value is read as this value. -/
  read_back (value : α) : format.ofDocument? (format.document value) = some value
  /-- A text that is read has one written form, which is read alike and is its own. -/
  settled {text written : String} (accepted : format.rewritten? α text = some written) :
    (format.ofDocument? written : Option α) = format.ofDocument? text ∧
      format.rewritten? α written = some written

/-- Of the text of a record only the values of its known members matter. -/
structure RecordRoundTrips (format : DocumentFormat) (α : Type) [Codec α] (names : List String) :
    Prop extends RoundTrips format α where
  /-- Texts of objects whose known members agree up to their order are read alike, however they are
  written. -/
  read_alike {text other : String} {members others : List (String × Json)}
    (denotes : Denotes text.toList (.obj members))
    (other_denotes : Denotes other.toList (.obj others))
    (same : (Json.known names members).Perm (Json.known names others)) :
    (format.ofDocument? text : Option α) = format.ofDocument? other

namespace DocumentFormat.Documented

variable {format : DocumentFormat} (documented : format.Documented)

include documented

theorem ofDocument?_document {α : Type} [Codec α] [Lawful α] (value : α) :
    format.ofDocument? (format.document value) = some value := by
  have readable := form_readable documented value
  rw [ofDocument?, document, documented.read?_eq (documented.denotes_write readable),
    Option.bind_some, ofForm?_form documented]

theorem roundTrips {α : Type} [Codec α] [Lawful α] : RoundTrips format α where
  read_back := documented.ofDocument?_document
  settled accepted := by
    obtain ⟨value, read, rfl⟩ := Option.map_eq_some_iff.mp accepted
    have back := documented.ofDocument?_document value
    exact ⟨back.trans read.symm, by rw [rewritten?, back, Option.map_some]⟩

theorem recordRoundTrips {α : Type} [Codec α] {names : List String} [Record α names] :
    RecordRoundTrips format α names where
  toRoundTrips := documented.roundTrips
  read_alike denotes other_denotes same := by
    rw [ofDocument?, ofDocument?, documented.read?_eq denotes, documented.read?_eq other_denotes]
    exact Record.ofForm?_congr (documented.toFields?_of_known same)

end DocumentFormat.Documented

namespace DocumentFormat

theorem standard_documented : standard.Documented where
  denotes_write readable := readable.denotes_toText
  read?_eq denotes := denotes.parse_eq
  ofBool_eq _ := rfl
  toBool?_bool _ := rfl
  ofInt_eq _ := rfl
  toInt?_int low_le le_high := if_pos ⟨low_le, le_high⟩
  ofText_eq _ := rfl
  toText?_str _ := rfl
  ofOption_none := rfl
  ofOption_some _ := rfl
  toOption_null := rfl
  toOption_of_ne_null {value} there := by
    cases value with
    | null => contradiction
    | _ => rfl
  ofCase_eq _ := rfl
  toCase?_str _ := rfl
  ofWrapper_eq _ := rfl
  toWrapper_eq _ := rfl
  ofFields_eq _ := rfl
  toFields?_obj once :=
    if_pos (List.all_eq_true.mpr fun name inside => decide_eq_true (once name inside))
  toFields?_twice {names members name} known twice := by
    refine if_neg fun once => ?_
    have at_most_once := of_decide_eq_true (List.all_eq_true.mp once name known)
    omega
  required_some _ _ := rfl
  defaulted_some _ _ _ := rfl

end DocumentFormat

theorem Codec.ofText?_toText {α : Type} [Codec α] [Lawful α] (value : α) :
    Codec.ofText? (Codec.toText value) = some value :=
  DocumentFormat.standard_documented.ofDocument?_document value

/-- In every documented format each type of a document keeps its values: what is written is read
back, and what is read is written in one way, whatever the text looked like. -/
theorem documents_read_back {format : DocumentFormat} (documented : format.Documented) :
    (RoundTrips format Fixed ∧ RoundTrips format Way ∧ RoundTrips format Direction ∧
      RoundTrips format Tick ∧ RoundTrips format ConvoyId ∧ RoundTrips format SectionId) ∧
    (RecordRoundTrips format Clock Clock.fieldNames ∧
      RecordRoundTrips format World World.fieldNames ∧
      RecordRoundTrips format RunSettings RunSettings.fieldNames) ∧
    (RecordRoundTrips format FreightRange FreightRange.fieldNames ∧
      RecordRoundTrips format Vehicle Vehicle.fieldNames ∧
      RecordRoundTrips format VehicleSummary VehicleSummary.fieldNames ∧
      RecordRoundTrips format AdverseSummary AdverseSummary.fieldNames ∧
      RecordRoundTrips format FreightSummary FreightSummary.fieldNames ∧
      RecordRoundTrips format WeightSummary WeightSummary.fieldNames ∧
      RecordRoundTrips format WayContext WayContext.fieldNames) ∧
    (RecordRoundTrips format MoveRequest MoveRequest.fieldNames ∧
      RecordRoundTrips format MotionState MotionState.fieldNames ∧
      RecordRoundTrips format Section Section.fieldNames) := by
  have plain {α : Type} [Codec α] [Lawful α] : RoundTrips format α := documented.roundTrips
  have record {α : Type} [Codec α] {names : List String} [Record α names] :
      RecordRoundTrips format α names := documented.recordRoundTrips
  exact ⟨⟨plain, plain, plain, plain, plain, plain⟩, ⟨record, record, record⟩,
    ⟨record, record, record, record, record, record, record⟩, record, record, record⟩

/-- Blanks, an escape, another order and an unknown member make no difference. -/
theorem scattered_range_read_back :
    let scattered := "\x7b \"max\\u005fkg\": 2, \"colour\": [0.5], \"min_kg\": 1 \x7d"
    let settled := "\x7b\"min_kg\":1,\"max_kg\":2\x7d"
    DocumentFormat.standard.rewritten? FreightRange scattered = some settled ∧
      (DocumentFormat.standard.ofDocument? settled : Option FreightRange) =
        DocumentFormat.standard.ofDocument? scattered ∧
      DocumentFormat.standard.rewritten? FreightRange settled = some settled := by
  intro scattered settled
  have accepted : DocumentFormat.standard.rewritten? FreightRange scattered = some settled := by
    decide +kernel
  obtain ⟨-, -, ⟨range, -⟩, -⟩ := documents_read_back DocumentFormat.standard_documented
  exact ⟨accepted, range.settled accepted⟩

end Haulage
