import Haulage.Planning.Bundled
import Haulage.Planning.Session

/-!
# Command line

The program takes the path of a catalog and the path for the trace; both may be left out.  It prints
the lines of a planning session as far as it gets, and what ended it early, if anything did.
-/

namespace Haulage.CommandLine

/-- What the system says about a file that cannot be opened, with the number of the reason. -/
def reason : IO.Error → String
  | .noFileOrDirectory _ code details => numbered code details
  | .permissionDenied _ code details => numbered code details
  | .inappropriateType _ code details => numbered code details
  | .invalidArgument _ code details => numbered code details
  | .resourceExhausted _ code details => numbered code details
  | .resourceBusy code details => numbered code details
  | error => toString error
where
  numbered (code : UInt32) (details : String) : String :=
    details ++ " (os error " ++ toString code.toNat ++ ")"

/-- Tenths of a millisecond in nanoseconds, as milliseconds with one decimal place. -/
def millisText (nanos : Nat) : String :=
  let tenths := (nanos + 50000) / 100000
  toString (tenths / 10) ++ "." ++ toString (tenths % 10)

/-- Ends the program early. -/
def stop {α : Type} (error : SessionError) : IO α := throw (IO.userError error.message)

/-- Prints the lines of a part of a session and goes on with its value. -/
def perform {α : Type} (part : Session α) : IO α := do
  let (outcome, lines) := part.run.run #[]
  for line in lines do
    IO.println line
  match outcome with
  | .ok value => return value
  | .error error => stop error

/-- The catalog at a path, or the bundled one. -/
def readCatalog (path : Option String) : IO (Except SessionError Catalog) :=
  match path with
  | none => return .ok .bundled
  | some path =>
      try
        return Session.catalogOf (← IO.FS.readFile path)
      catch _ =>
        return .error (.unreadable path)

/-- Opens the file for the trace. -/
def openTrace (path : String) : IO IO.FS.Handle := do
  try
    IO.FS.Handle.mk path .write
  catch error =>
    stop (.noTrace (.sink (reason error)))

/-- Writes the trace. -/
def writeTrace (file : IO.FS.Handle) (text : String) : IO Unit := do
  try
    file.putStr text
    file.flush
  catch _ =>
    stop .unwritten

/-- A whole session. -/
def session (args : List String) : IO Unit := do
  let catalog ← readCatalog args.head?
  let tracePath := args[1]?.getD Session.defaultTrace
  let fleet ← perform (Session.orFail id catalog >>= Session.plan)
  let file ← openTrace tracePath
  let started ← IO.monoNanosNow
  let ended ← IO.lazyPure fun _ => (Progress.start fleet).toEnd
  let stopped ← IO.monoNanosNow
  writeTrace file (Trace.text (Report.traceRows ended))
  perform (Session.report ended tracePath (millisText (stopped - started)))

end Haulage.CommandLine

/-- Runs the program; it fails if the session ends early. -/
def main (args : List String) : IO UInt32 := do
  try
    Haulage.CommandLine.session args
    return 0
  catch error =>
    IO.eprintln ("Error: " ++ toString error)
    return 1
