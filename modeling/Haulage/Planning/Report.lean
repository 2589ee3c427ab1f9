import Haulage.Text
import Haulage.Trace

/-!
# Report of a run

What became of a fleet: how long it ran and what happened, where each convoy is in the end, and the
rows of the trace.
-/

namespace Haulage

namespace Report

/-- Whether an event is an arrival. -/
def isArrival : Event → Bool
  | .arrival _ _ => true
  | _ => false

/-- Whether an event is a stall. -/
def isStall : Event → Bool
  | .stall _ _ => true
  | _ => false

/-- The line that sums up a run.  The elapsed time is given as text. -/
def runSummary (ended : Progress) (elapsed : String) : String :=
  let clock := ended.fleet.clock
  "Ran " ++ toString clock.now.number.toNat ++ " ticks (" ++ clock.elapsedSeconds.decimal 0 ++
    " s simulated) in " ++ elapsed ++ " ms; " ++
    toString (ended.events.toList.countP isArrival) ++ " arrivals, " ++
    toString (ended.events.toList.countP isStall) ++ " stalls"

/-- A row of the table of convoys. -/
def tableRow (name trips position stretch speed load state : String) : String :=
  Text.alignLeft 16 name ++ " " ++ Text.alignRight 5 trips ++ " " ++ Text.alignRight 9 position ++
    " " ++ Text.alignRight 8 stretch ++ " " ++ speed ++ " " ++ Text.alignRight 7 load ++ "  " ++
    state

/-- The first row of the table. -/
def tableHeading : String :=
  tableRow "convoy" "trips" "position" "section" (Text.alignRight 9 "speed") "load t" "state"

/-- Whether a convoy runs, waits at a route end or has come to stand. -/
def stateText (convoy : Convoy) : String :=
  if convoy.stalled then "stalled" else if convoy.isRunning then "running" else "waiting"

/-- The row of a convoy. -/
def convoyRow (convoy : Convoy) : String :=
  tableRow convoy.name (toString convoy.trips.toNat) (toString convoy.position.toNat)
    (toString convoy.stretch.place) (Text.alignRight 5 (toString convoy.kmh.toInt) ++ " km/h")
    (toString (convoy.train.payload / 1000))
    (stateText convoy ++ " (" ++ convoy.direction.label ++ ")")

/-- The trace of a run. -/
def traceRows (ended : Progress) : List TraceRow := ended.events.toList.flatMap Trace.rowsOfEvent

/-- The lines of the report. -/
def lines (ended : Progress) (tracePath elapsed : String) : List String :=
  [runSummary ended elapsed, "", tableHeading] ++ ended.fleet.convoys.map convoyRow ++
    ["", "Trace: " ++ tracePath ++ " (" ++ toString (traceRows ended).length ++ " rows)"]

end Report

end Haulage
