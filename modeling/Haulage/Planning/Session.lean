import Haulage.Codec.Catalog
import Haulage.Planning.Prospects
import Haulage.Planning.Report

/-!
# Planning sessions

A session reads a catalog, writes the prospects of every consist, runs the fleet and writes what
became of it.  It works in two halves, between which the file for the trace is opened: planning ends
with a fleet that is ready to run, and the closing report is about a fleet that has run.  A half
that fails keeps the lines it has written.
-/

namespace Haulage

/-- Why a session ends early. -/
inductive SessionError where
  /-- The catalog cannot be read. -/
  | unreadable (path : String)
  /-- The catalog is no catalog. -/
  | malformed
  /-- The settings or the route are refused. -/
  | config (error : ConfigError)
  /-- A type of vehicle is refused. -/
  | vehicle (error : VehicleError)
  /-- A consist asks for a type of vehicle that is not in the catalog. -/
  | unknownVehicle (error : UnknownVehicle)
  /-- The fleet is not built or stops running. -/
  | fleet (error : FleetError)
  /-- The file for the trace cannot be opened. -/
  | noTrace (error : TraceError)
  /-- The trace cannot be written. -/
  | unwritten
deriving DecidableEq

/-- The wording of the error. -/
def SessionError.message : SessionError → String
  | unreadable path => "reading " ++ path
  | malformed => "parsing catalog"
  | config error => error.message
  | vehicle error => error.message
  | unknownVehicle error => error.message
  | fleet error => error.message
  | noTrace error => error.message
  | unwritten => "writing trace"

/-- A part of a session: it writes lines and may end early. -/
abbrev Session := ExceptT SessionError (StateM (Array String))

namespace Session

/-- Writes a line. -/
def say (line : String) : Session Unit := modify fun lines => lines.push line

/-- Writes some lines. -/
def sayAll (lines : List String) : Session Unit := lines.forM say

/-- Goes on with a value, or ends early with an error in another form. -/
def orFail {ε α : Type} (form : ε → SessionError) : Except ε α → Session α
  | .ok value => pure value
  | .error error => throw (form error)

/-- Ticks for which a convoy stands at a route end. -/
def dwell : UInt64 := 30

/-- The name of the trace file of a session for which none is given. -/
def defaultTrace : String := "hill_climb_trace.csv"

/-- The catalog of a document. -/
def catalogOf (text : String) : Except SessionError Catalog :=
  match Catalog.ofText? text with
  | some catalog => .ok catalog
  | none => .error .malformed

/-- Writes the prospects of a consist, and a blank line in any case. -/
def sayProspects (catalog : Catalog) (name : String) (vehicles : List Vehicle) : Session Unit := do
  let consist : Consist := ⟨vehicles, catalog.settings.world⟩
  match Prospects.ofConsist? consist catalog.grades with
  | some prospects => sayAll (prospects.lines name)
  | none => pure ()
  say ""

/-- Writes the prospects of the consists from a place on and plans their departures. -/
def planFrom (catalog : Catalog) : Nat → List ConsistEntry → Session (List DeparturePlan)
  | _, [] => pure []
  | place, entry :: entries => do
      let vehicles ← orFail .unknownVehicle (catalog.consistVehicles entry)
      sayProspects catalog entry.name vehicles
      let plans ← planFrom catalog (place + 1) entries
      return Catalog.departure place entry vehicles :: plans

/-- The line that introduces the run. -/
def runHeading (settings : RunSettings) (route : Route) (plans : List DeparturePlan) : String :=
  "=== fleet run: " ++ toString plans.length ++ " convoys, " ++
    toString route.sections.length ++ " sections, " ++ toString route.length.toNat ++ " steps, " ++
    toString settings.totalTicks.toNat ++ " ticks ==="

/-- The first half: the prospects of all consists, and the fleet that is ready to run. -/
def plan (catalog : Catalog) : Session Fleet := do
  orFail .config catalog.settings.validate
  catalog.vehicles.forM fun vehicle => orFail .vehicle vehicle.validate
  sayAll ["=== hill_climb — convoy planning ===", ""]
  let plans ← planFrom catalog 0 catalog.consists
  let route ← orFail .config (Route.ofSections catalog.sections)
  say (runHeading catalog.settings route plans)
  orFail .fleet (Fleet.build catalog.settings route plans dwell)

/-- The second half: what became of the fleet.  The elapsed time is given as text. -/
def report (ended : Progress) (tracePath elapsed : String) : Session Unit := do
  match ended.failure with
  | some error => throw (.fleet error)
  | none => sayAll (Report.lines ended tracePath elapsed)

end Session

/-- All that a session leaves behind. -/
structure Transcript where
  /-- The lines it has written. -/
  lines : Array String
  /-- The trace, if it came to that. -/
  trace : Option String := none
  /-- Why it ended early, if it did. -/
  failure : Option SessionError := none
deriving DecidableEq

namespace Transcript

/-- The transcript of a session with a catalog, where the file for the trace is refused or not. -/
def ofCatalog (catalog : Except SessionError Catalog) (refusal : Option TraceError)
    (tracePath elapsed : String) : Transcript :=
  match (Session.orFail id catalog >>= Session.plan).run.run #[] with
  | (.error error, lines) => { lines, failure := some error }
  | (.ok fleet, lines) =>
      match refusal with
      | some error => { lines, failure := some (.noTrace error) }
      | none =>
          let ended := (Progress.start fleet).toEnd
          let trace := some (Trace.text (Report.traceRows ended))
          match (Session.report ended tracePath elapsed).run.run lines with
          | (.error error, lines) => { lines, trace, failure := some error }
          | (.ok (), lines) => { lines, trace }

end Transcript

end Haulage
