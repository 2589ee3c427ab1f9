import Haulage.Planning.Catalog

/-!
# Bundled catalog

The catalog of a session for which none is given: three trains on a line with a long climb.
-/

namespace Haulage.Catalog.Bundled

/-- A diesel engine for heavy goods trains. -/
def br44 : Vehicle :=
  { Vehicle.engine "br44" .track 110 80 1390 with length := 16, effortKn := 280 }

/-- A diesel engine for fast trains. -/
def v200 : Vehicle :=
  { Vehicle.engine "v200" .track 80 140 2000 with length := 14, effortKn := 240 }

/-- An electric engine. -/
def e94 : Vehicle :=
  { Vehicle.engine "e94" .track 118 90 4680 with length := 14, effortKn := 390, electric := true }

/-- A wagon for coal. -/
def hopper : Vehicle := .wagon "hopper" .track 22 100 50 ⟨900, 1000⟩

/-- A covered wagon with a rated brake. -/
def boxcar : Vehicle :=
  { Vehicle.wagon "boxcar" .track 18 120 30 (.uniform 1000) with length := 10, brakeKn := some 30 }

/-- The trains. -/
def consists : List ConsistEntry :=
  [{ name := "coal drag", loaded := true, batches := [⟨"br44", 1⟩, ⟨"hopper", 15⟩] },
    { name := "mixed goods", batches := [⟨"v200", 1⟩, ⟨"boxcar", 8⟩] },
    { name := "electric coal", loaded := true, batches := [⟨"e94", 1⟩, ⟨"hopper", 20⟩] }]

/-- The line, all of it electrified. -/
def sections : List Section :=
  [⟨.track, 300, 60, 0, true⟩, ⟨.track, 1440, 80, 20, true⟩, ⟨.track, 400, 100, 0, true⟩,
    ⟨.track, 1000, 70, -25, true⟩, ⟨.track, 300, 40, 0, true⟩]

end Bundled

/-- The catalog of a session for which none is given. -/
def bundled : Catalog :=
  { settings := { totalTicks := 1800, traceInterval := 10 }
    vehicles := [Bundled.br44, Bundled.v200, Bundled.e94, Bundled.hopper, Bundled.boxcar]
    consists := Bundled.consists
    sections := Bundled.sections
    grades := [0, 10, 20, 40] }

end Haulage.Catalog
