import Haulage.Fleet

/-!
# Trace

The trace of a run is a table of comma-separated lines: a header, then a row for every convoy in
every tick in which a trace is taken.  How lines are kept back and handed over to a sink is the
matter of a table writer.
-/

namespace Haulage

/-- The state of one convoy in one tick. -/
structure TraceRow where
  /-- The tick. -/
  tick : UInt64
  /-- The number of the convoy. -/
  convoy : UInt32
  /-- Its speed in km/h. -/
  kmh : Int32
  /-- Its position in steps. -/
  position : UInt32
  /-- The number of the section under its head. -/
  stretch : UInt32
deriving DecidableEq, Inhabited

namespace TraceRow

/-- The row of a convoy in a tick. -/
def ofConvoy (now : Tick) (convoy : Convoy) : TraceRow :=
  ⟨now.number, convoy.id.number, convoy.kmh, convoy.position, convoy.stretch.number⟩

/-- The fields of the row. -/
def fields (row : TraceRow) : List String :=
  [toString row.tick.toNat, toString row.convoy.toNat, toString row.kmh.toInt,
    toString row.position.toNat, toString row.stretch.toNat]

end TraceRow

namespace Trace

/-- The names of the columns. -/
def header : List String := ["tick", "convoy", "speed_kmh", "position_steps", "section"]

/-- The rows that an event adds. -/
def rowsOfEvent : Event → List TraceRow
  | .trace now convoys => convoys.map (.ofConvoy now)
  | _ => []

/-- A line of fields. -/
def line (fields : List String) : String := ",".intercalate fields ++ "\n"

/-- The header and the rows as text. -/
def text (rows : List TraceRow) : String :=
  String.join (line header :: rows.map fun row => line row.fields)

end Trace

/-- What lines are written with: it hands them over to a sink, some at once and others only when it
is flushed. -/
class TableWriter (ω : Type) where
  /-- A table without lines, over a sink that has nothing. -/
  fresh : ω
  /-- Writes a line with these fields, or tells the reason for which it cannot. -/
  write : ω → List String → Except String Unit × ω
  /-- Hands over to the sink whatever was kept back. -/
  flush : ω → Except String Unit × ω
  /-- What the sink was handed. -/
  handed : ω → String

/-- A table writer that keeps lines back while there is room for them. -/
structure LineBuffer where
  /-- The reason for which the sink refuses everything, if it does. -/
  refusal : Option String := none
  /-- What the sink was handed. -/
  handed : String := ""
  /-- The lines that are kept back. -/
  held : String := ""
  /-- How many more bytes can be kept back. -/
  room : Nat := 8192
deriving DecidableEq

namespace LineBuffer

/-- Hands over the lines that are kept back. -/
def flush (buffer : LineBuffer) : Except String Unit × LineBuffer :=
  match buffer.refusal with
  | some reason => (.error reason, buffer)
  | none => (.ok (), { handed := buffer.handed ++ buffer.held })

/-- Keeps a line back.  If it does not fit, the lines before it are handed over first; if the sink
refuses them, the line fills the room with its beginning and is lost. -/
def write (buffer : LineBuffer) (fields : List String) : Except String Unit × LineBuffer :=
  let line := Trace.line fields
  let keep (buffer : LineBuffer) : LineBuffer :=
    { buffer with held := buffer.held ++ line, room := buffer.room - line.utf8ByteSize }
  if line.utf8ByteSize ≤ buffer.room then (.ok (), keep buffer)
  else
    match buffer.flush with
    | (.ok (), buffer) => (.ok (), keep buffer)
    | (.error reason, buffer) => (.error reason, { buffer with room := 0 })

instance : TableWriter LineBuffer := ⟨{}, write, flush, handed⟩

end LineBuffer

/-- Why a trace is not written. -/
inductive TraceError where
  /-- The sink cannot be opened, or refuses what it is handed. -/
  | sink (reason : String)
  /-- A row finds no room, and the sink refuses the lines before it. -/
  | row (reason : String)
deriving DecidableEq

/-- The wording of the error. -/
def TraceError.message : TraceError → String
  | sink reason => "I/O error: " ++ reason
  | row reason => "CSV write error: " ++ reason

/-- A trace in the making.  Errors met while nobody can be told are kept until asked for. -/
structure TraceWriter (ω : Type := LineBuffer) [TableWriter ω] where
  /-- The table, which has the header to begin with. -/
  table : ω := (TableWriter.write TableWriter.fresh Trace.header).2
  /-- How many rows were added; the counter wraps after 2⁶⁴ of them. -/
  count : UInt64 := 0
  /-- Whether the trace was handed over. -/
  finished : Bool := false
  /-- The first error that nobody was told. -/
  kept : Option TraceError := none

namespace TraceWriter

/-- A trace for a sink. -/
def toSink (refusal : Option String) : TraceWriter :=
  { table := (LineBuffer.write { refusal } Trace.header).2 }

variable {ω : Type} [TableWriter ω]

/-- A trace that has its header, if the table takes it. -/
def opened : Except TraceError (TraceWriter ω) :=
  match TableWriter.write (TableWriter.fresh : ω) Trace.header with
  | (.ok (), table) => .ok { table }
  | (.error reason, _) => .error (.row reason)

/-- How many rows were added. -/
def rowCount (writer : TraceWriter ω) : Nat := writer.count.toNat

/-- Adds a row. -/
def add (writer : TraceWriter ω) (row : TraceRow) : Except TraceError Unit × TraceWriter ω :=
  match TableWriter.write writer.table row.fields with
  | (.ok (), table) => (.ok (), { writer with table, count := writer.count + 1 })
  | (.error reason, table) => (.error (.row reason), { writer with table })

/-- Hands the trace over to the sink; a second time nothing happens. -/
def finish (writer : TraceWriter ω) : Except TraceError Unit × TraceWriter ω :=
  if writer.finished then (.ok (), writer)
  else
    match TableWriter.flush writer.table with
    | (.ok (), table) => (.ok (), { writer with table, finished := true })
    | (.error reason, table) => (.error (.sink reason), { writer with table, finished := true })

/-- Goes on after a step of which nobody is told, and keeps its error if it is the first. -/
def settle : Except TraceError Unit × TraceWriter ω → TraceWriter ω
  | (.ok (), writer) => writer
  | (.error error, writer) => { writer with kept := writer.kept.or (some error) }

/-- The error that was kept, which then is kept no more. -/
def takeError (writer : TraceWriter ω) : Option TraceError × TraceWriter ω :=
  (writer.kept, { writer with kept := none })

/-- Takes part in a run. -/
def see (writer : TraceWriter ω) (event : Event) : TraceWriter ω :=
  match event with
  | .runEnd _ => settle writer.finish
  | event => (Trace.rowsOfEvent event).foldl (fun writer row => settle (writer.add row)) writer

/-- The text that the sink has when it is given back. -/
def text (writer : TraceWriter ω) : Except TraceError String :=
  match TableWriter.flush writer.table with
  | (.ok (), table) => .ok (TableWriter.handed table)
  | (.error reason, _) => .error (.sink reason)

end TraceWriter

end Haulage
