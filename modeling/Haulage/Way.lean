import Haulage.Text

/-!
# Ways

The kind of way a vehicle is built for or stands on.  Its label is what catalogs and messages use;
reading a label is more generous than writing one: blanks around it, ASCII capitals and a few other
common words are understood.
-/

namespace Haulage

/-- The kind of way a vehicle is built for or stands on. -/
inductive Way where
  /-- Roads; also the fallback for anything unknown. -/
  | road
  /-- Standard-gauge railway. -/
  | track
  /-- Narrow-gauge railway. -/
  | narrowGauge
  /-- Tram track in the street. -/
  | tram
  /-- Monorail. -/
  | monorail
  /-- Magnetic levitation. -/
  | maglev
  /-- Waterways. -/
  | water
  /-- Air. -/
  | air
  /-- Any other kind; it behaves like a road. -/
  | other
deriving DecidableEq, Inhabited

namespace Way

/-- Every kind of way, in the order of the catalog. -/
def all : List Way :=
  [road, track, narrowGauge, tram, monorail, maglev, water, air, other]

theorem mem_all (way : Way) : way ∈ all := by cases way <;> decide

/-- The lower-case label of a way. -/
def label : Way → String
  | road => "road"
  | track => "track"
  | narrowGauge => "narrow_gauge"
  | tram => "tram"
  | monorail => "monorail"
  | maglev => "maglev"
  | water => "water"
  | air => "air"
  | other => "other"

/-- The way with exactly this label. -/
def ofLabel? (label : String) : Option Way := all.find? fun way => way.label == label

theorem ofLabel?_label (way : Way) : ofLabel? way.label = some way := by
  cases way <;> decide

/-- Other words for a way. -/
def ofSynonym? (word : String) : Option Way :=
  if word == "rail" || word == "train" then some track
  else if word == "narrowgauge" then some narrowGauge
  else if word == "ship" || word == "sea" then some water
  else none

/-- A text that names no way. -/
structure Unknown where
  /-- The text as it was given. -/
  text : String
deriving DecidableEq

/-- The wording of the error. -/
def Unknown.message (error : Unknown) : String :=
  "parse error: unknown way type '" ++ error.text ++ "'"

/-- Reads a way: blanks around it and the case of ASCII letters do not matter. -/
def parse (text : String) : Except Unknown Way :=
  let word := String.ofList ((Text.stripBlank text.toList).map Char.toLower)
  match (ofLabel? word).or (ofSynonym? word) with
  | some way => .ok way
  | none => .error ⟨text⟩

/-- Friction added to `1000 · sin(slope)`: rubber on tarmac needs four times the rest. -/
def baseFriction : Way → Int16
  | road | other => 4
  | _ => 1

/-- Whether the way guides its vehicles. -/
def isRail : Way → Bool
  | track | narrowGauge | tram | monorail | maglev => true
  | _ => false

end Way

end Haulage
