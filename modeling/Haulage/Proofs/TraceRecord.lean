import Mathlib
import Haulage.Planning.Report
import Haulage.Proofs.Timetable

/-!
# The trace as a record

A table writer that takes what it is given, and has handed all of it over once it is flushed, makes
the trace of a run a faithful record: its rows are those of all convoys after each traced tick, so
nothing is lost on the way from the fleet to the sink, and the text there is read back line by line
and field by field as the rows it was made of.
-/

namespace Haulage

/-- The number below a bound that a field shows. -/
def Trace.natural? (bound : Nat) (field : String) : Option Nat := field.toNat?.filter (· < bound)

/-- The number between two bounds that a field shows. -/
def Trace.integer? (low high : Int) (field : String) : Option Int :=
  field.toInt?.filter fun number => low ≤ number ∧ number ≤ high

/-- The row with these fields, if each is the decimal number of its column. -/
def TraceRow.ofFields? : List String → Option TraceRow
  | [tick, convoy, kmh, position, stretch] => do
      return { tick := .ofNat (← Trace.natural? 18446744073709551616 tick)
               convoy := .ofNat (← Trace.natural? 4294967296 convoy)
               kmh := .ofInt (← Trace.integer? (-2147483648) 2147483647 kmh)
               position := .ofNat (← Trace.natural? 4294967296 position)
               stretch := .ofNat (← Trace.natural? 4294967296 stretch) }
  | _ => none

namespace Trace

/-- The fields of a line without its end. -/
def fieldsOf (line : List Char) : List String := (line.splitOn ',').map String.ofList

/-- The rows of a trace, if it has the header and every other line is a row. -/
def read? (text : String) : Option (List TraceRow) :=
  match (text.toList.splitOn '\n').dropLast with
  | first :: others =>
      if fieldsOf first = header then others.mapM fun line => TraceRow.ofFields? (fieldsOf line)
      else none
  | [] => none

/-- Whether a character stands in decimal numbers. -/
def isNumeric (char : Char) : Bool := char.isDigit || char == '-'

theorem natural?_repr {bound n : Nat} (below : n < bound) : natural? bound n.repr = some n := by
  rw [natural?, Nat.toNat?_repr, Option.filter_some, if_pos (decide_eq_true below)]

theorem integer?_repr {low high n : Int} (low_le : low ≤ n) (le_high : n ≤ high) :
    integer? low high n.repr = some n := by
  rw [integer?, Int.toInt?_repr, Option.filter_some, if_pos (decide_eq_true ⟨low_le, le_high⟩)]

/-- The text of a natural number is some digits. -/
theorem repr_numeric (n : Nat) :
    n.repr ≠ "" ∧ ∀ char ∈ n.repr.toList, isNumeric char = true := by
  have digits_eq : n.repr.toList = Nat.toDigits 10 n := String.toList_ofList
  constructor
  · intro empty
    rw [empty] at digits_eq
    exact Nat.toDigits_ne_nil digits_eq.symm
  · intro char inside
    rw [digits_eq] at inside
    rw [isNumeric, Nat.isDigit_of_mem_toDigits (by decide) (by decide) inside, Bool.true_or]

/-- The text of an integer may have a sign before the digits. -/
theorem intRepr_numeric (n : Int) :
    n.repr ≠ "" ∧ ∀ char ∈ n.repr.toList, isNumeric char = true := by
  rw [Int.repr_eq_if]
  split
  · exact repr_numeric n.toNat
  · obtain ⟨-, numeric⟩ := repr_numeric (-n).toNat
    constructor
    · simp
    · rw [String.toList_append]
      exact List.forall_mem_append.mpr ⟨by simp [isNumeric], numeric⟩

end Trace

namespace TraceRow

theorem ofFields?_fields (row : TraceRow) : ofFields? row.fields = some row := by
  have kmh_lt := row.kmh.toInt_lt
  have le_kmh := row.kmh.le_toInt
  simp [fields, ofFields?, Trace.natural?_repr row.tick.toNat_lt,
    Trace.natural?_repr row.convoy.toNat_lt, Trace.natural?_repr row.position.toNat_lt,
    Trace.natural?_repr row.stretch.toNat_lt,
    Trace.integer?_repr (show -2147483648 ≤ row.kmh.toInt by omega)
      (show row.kmh.toInt ≤ 2147483647 by omega)]

theorem numeric_of_mem {row : TraceRow} {field : String} (inside : field ∈ row.fields) :
    field ≠ "" ∧ ∀ char ∈ field.toList, Trace.isNumeric char = true := by
  simp only [fields, List.mem_cons, List.not_mem_nil, or_false] at inside
  rcases inside with rfl | rfl | rfl | rfl | rfl
  · exact Trace.repr_numeric _
  · exact Trace.repr_numeric _
  · exact Trace.intRepr_numeric _
  · exact Trace.repr_numeric _
  · exact Trace.repr_numeric _

end TraceRow

namespace Trace

/-- The characters of a line without its end. -/
def lineChars (fields : List String) : List Char := [','].intercalate (fields.map String.toList)

theorem toList_line (fields : List String) : (line fields).toList = lineChars fields ++ ['\n'] := by
  rw [line, String.toList_append, String.toList_intercalate, lineChars]
  rfl

theorem fieldsOf_lineChars {fields : List String} (nonempty : fields ≠ [])
    (apart : ∀ field ∈ fields, ',' ∉ field.toList) : fieldsOf (lineChars fields) = fields := by
  rw [fieldsOf, lineChars, List.splitOn_intercalate, List.map_map]
  · simp
  · simpa using apart
  · simpa using nonempty

theorem mem_lineChars {fields : List String} {char : Char} (inside : char ∈ lineChars fields) :
    char = ',' ∨ ∃ field ∈ fields, char ∈ field.toList := by
  rw [lineChars] at inside
  induction fields with
  | nil => contradiction
  | cons field fields ih =>
    cases fields with
    | nil => exact .inr ⟨field, by simp, by simpa using inside⟩
    | cons next fields =>
      rw [List.map_cons, List.map_cons, List.intercalate_cons_cons, List.mem_append,
        List.mem_append, List.mem_singleton] at inside
      rcases inside with (here | comma) | further
      · exact .inr ⟨field, by simp, here⟩
      · exact .inl comma
      · rcases ih further with comma | ⟨other, other_mem, found⟩
        · exact .inl comma
        · exact .inr ⟨other, List.mem_cons_of_mem field other_mem, found⟩

theorem intercalate_lineEnds (lines : List (List Char)) :
    ['\n'].intercalate (lines ++ [[]]) = lines.flatMap (· ++ ['\n']) := by
  induction lines with
  | nil => simp
  | cons line lines ih =>
    rw [List.flatMap_cons, ← ih]
    cases lines with
    | nil => simp
    | cons next lines => simp

/-- A number has no character that sets fields or lines apart. -/
theorem not_mem_field {row : TraceRow} {field : String} (inside : field ∈ row.fields)
    {char : Char} (mark : isNumeric char = false) : char ∉ field.toList := by
  intro char_mem
  rw [(TraceRow.numeric_of_mem inside).2 char char_mem] at mark
  contradiction

theorem fieldsOf_row (row : TraceRow) : fieldsOf (lineChars row.fields) = row.fields :=
  fieldsOf_lineChars (List.cons_ne_nil _ _) fun _ inside => not_mem_field inside (by decide)

theorem lineEnd_not_mem_row (row : TraceRow) : '\n' ∉ lineChars row.fields := by
  intro inside
  rcases mem_lineChars inside with comma | ⟨field, field_mem, found⟩
  · contradiction
  · exact not_mem_field field_mem (by decide) found

/-- The lines of a trace, each without its end. -/
def lines (rows : List TraceRow) : List (List Char) :=
  lineChars header :: rows.map fun row => lineChars row.fields

theorem toList_text (rows : List TraceRow) :
    (text rows).toList = (lines rows).flatMap (· ++ ['\n']) := by
  rw [text, String.toList_join, List.flatMap_cons, toList_line, lines, List.flatMap_cons,
    List.flatMap_map, List.flatMap_map]
  simp only [toList_line]

theorem splitOn_text (rows : List TraceRow) :
    (text rows).toList.splitOn '\n' = lines rows ++ [[]] := by
  rw [toList_text, ← intercalate_lineEnds, List.splitOn_intercalate]
  · intro line line_mem
    rcases List.mem_append.mp line_mem with inside | last
    · rcases List.mem_cons.mp inside with rfl | inside
      · decide
      · obtain ⟨row, -, rfl⟩ := List.mem_map.mp inside
        exact lineEnd_not_mem_row row
    · rw [List.mem_singleton.mp last]
      exact List.not_mem_nil
  · simp

/-- A trace is read back as the rows that it was made of. -/
theorem read?_text (rows : List TraceRow) : read? (text rows) = some rows := by
  have header_eq : fieldsOf (lineChars header) = header := by decide
  have rows_eq : (rows.map fun row => lineChars row.fields).mapM
      (fun line => TraceRow.ofFields? (fieldsOf line)) = some rows := by
    induction rows with
    | nil => rfl
    | cons row rows ih =>
      rw [List.map_cons, List.mapM_cons, ih, fieldsOf_row, TraceRow.ofFields?_fields]
      rfl
  rw [read?, splitOn_text, List.dropLast_concat, lines]
  simp only [header_eq, if_true, rows_eq]

theorem rows_convoyEvents (route : Route) (now : Tick) (convoy : Convoy) (report : StepReport) :
    (Fleet.convoyEvents route now convoy report).flatMap rowsOfEvent = [] := by
  rw [List.flatMap_eq_nil_iff]
  intro event told
  rcases Fleet.mem_convoyEvents.mp told with ⟨-, rfl⟩ | ⟨_, -, rfl⟩ | ⟨-, rfl⟩ | ⟨-, rfl⟩ <;> rfl

/-- A tick adds the rows of all its convoys, if a trace is taken in it. -/
theorem rows_tickEvents (fleet : Fleet) (now : Tick) (reports : List StepReport) :
    (fleet.tickEvents now reports).flatMap rowsOfEvent =
      if Fleet.tracesAt fleet.settings now then fleet.convoys.map (.ofConvoy now) else [] := by
  have silent : ∀ pair ∈ fleet.convoys.zip reports,
      (Fleet.convoyEvents fleet.route now pair.1 pair.2).flatMap rowsOfEvent = [] :=
    fun pair _ => rows_convoyEvents fleet.route now pair.1 pair.2
  rw [Fleet.tickEvents, List.flatMap_append, List.flatMap_assoc, List.flatMap_cons]
  refine (congrArg (· ++ _) (List.flatMap_eq_nil_iff.mpr silent)).trans ?_
  split
  · simp [rowsOfEvent]
  · simp [rowsOfEvent]

end Trace

namespace TableWriter

/-- A field that is written as it is, without quotes around it. -/
def Plain (field : String) : Prop :=
  field ≠ "" ∧ ∀ char ∈ field.toList, char ≠ ',' ∧ char ≠ '"' ∧ char ≠ '\n' ∧ char ≠ '\r'

variable {ω : Type} [TableWriter ω]

/-- The table has taken these lines, one after the other, since it was new. -/
inductive Holds : List (List String) → ω → Prop
  | fresh : Holds [] fresh
  | write {lines : List (List String)} {fields : List String} {table after : ω}
      (held : Holds lines table) (plain : ∀ field ∈ fields, Plain field)
      (taken : write table fields = (.ok (), after)) : Holds (lines ++ [fields]) after
  | flush {lines : List (List String)} {table after : ω} (held : Holds lines table)
      (flushed : flush table = (.ok (), after)) : Holds lines after

/-- A table writer that does not fail, as long as all lines have equally many fields.  After a flush
the sink was handed the lines, whatever it had of them before. -/
structure Reliable (ω : Type) [TableWriter ω] : Prop where
  /-- A line with as many fields as those before is taken. -/
  write_ok {lines : List (List String)} {fields : List String} {table : ω}
    (held : Holds lines table) (nonempty : fields ≠ []) (plain : ∀ field ∈ fields, Plain field)
    (regular : ∀ line ∈ lines, line.length = fields.length) : (write table fields).1 = .ok ()
  /-- A flush succeeds. -/
  flush_ok {lines : List (List String)} {table : ω} (held : Holds lines table) :
    (flush table).1 = .ok ()
  /-- It hands over what the sink does not have yet. -/
  handed_flush {lines : List (List String)} {table after : ω} (held : Holds lines table)
    (flushed : flush table = (.ok (), after)) :
    handed after = String.join (lines.map Trace.line)

theorem Reliable.exists_write (reliable : Reliable ω) {lines : List (List String)}
    {fields : List String} {table : ω} (held : Holds lines table) (nonempty : fields ≠ [])
    (plain : ∀ field ∈ fields, Plain field)
    (regular : ∀ line ∈ lines, line.length = fields.length) :
    ∃ after, write table fields = (.ok (), after) :=
  ⟨_, Prod.ext (reliable.write_ok held nonempty plain regular) rfl⟩

theorem Reliable.exists_flush (reliable : Reliable ω) {lines : List (List String)} {table : ω}
    (held : Holds lines table) : ∃ after, flush table = (.ok (), after) :=
  ⟨_, Prod.ext (reliable.flush_ok held) rfl⟩

theorem plain_of_numeric {field : String} (nonempty : field ≠ "")
    (numeric : ∀ char ∈ field.toList, Trace.isNumeric char = true) : Plain field := by
  refine ⟨nonempty, fun char inside => ?_⟩
  have here := numeric char inside
  refine ⟨?_, ?_, ?_, ?_⟩
  all_goals
    rintro rfl
    contradiction

theorem plain_header : ∀ field ∈ Trace.header, Plain field := by
  simp [Trace.header, Plain]

end TableWriter

namespace LineBuffer

open TableWriter (Holds)

variable {buffer : LineBuffer} {lines : List (List String)}

theorem flush_open (open_sink : buffer.refusal = none) :
    buffer.flush = (.ok (), { handed := buffer.handed ++ buffer.held }) := by
  rw [flush, open_sink]

/-- A buffer over a sink that takes everything takes every line. -/
theorem write_open (open_sink : buffer.refusal = none) (fields : List String) :
    ∃ after, write buffer fields = (.ok (), after) ∧ after.refusal = none ∧
      after.handed ++ after.held = buffer.handed ++ buffer.held ++ Trace.line fields := by
  by_cases fits : (Trace.line fields).utf8ByteSize ≤ buffer.room
  · exact ⟨_, if_pos fits, open_sink, String.append_assoc.symm⟩
  · refine ⟨_, (if_neg fits).trans (by rw [flush_open open_sink]), rfl, ?_⟩
    simp only [String.empty_append]

theorem handed_held (held : Holds lines buffer) :
    buffer.refusal = none ∧ buffer.handed ++ buffer.held = String.join (lines.map Trace.line) := by
  induction held with
  | fresh => exact ⟨rfl, rfl⟩
  | write _ _ taken ih =>
    obtain ⟨next, next_eq, open_sink, text_eq⟩ := write_open ih.1 _
    obtain rfl := (Prod.mk.inj (next_eq.symm.trans taken)).2
    refine ⟨open_sink, ?_⟩
    rw [text_eq, ih.2, List.map_append, String.join_append, List.map_singleton, String.join_cons,
      String.join_nil, String.append_empty]
  | flush _ flushed ih =>
    obtain rfl := (Prod.mk.inj ((flush_open ih.1).symm.trans flushed)).2
    exact ⟨rfl, String.append_empty.trans ih.2⟩

/-- Over a sink that takes everything a buffer does not fail. -/
theorem reliable : TableWriter.Reliable LineBuffer where
  write_ok held _ _ _ := by
    obtain ⟨after, taken, -⟩ := write_open (handed_held held).1 _
    exact congrArg Prod.fst taken
  flush_ok held := congrArg Prod.fst (flush_open (handed_held held).1)
  handed_flush held flushed := by
    obtain ⟨open_sink, text_eq⟩ := handed_held held
    obtain rfl := (Prod.mk.inj ((flush_open open_sink).symm.trans flushed)).2
    exact text_eq

end LineBuffer

namespace TraceWriter

open TableWriter (Holds Reliable)

variable {ω : Type} [TableWriter ω] {writer : TraceWriter ω} {rows more : List TraceRow}

/-- The header and rows were written without an error, and the trace is not handed over yet. -/
structure Has (writer : TraceWriter ω) (rows : List TraceRow) : Prop where
  /-- The table has taken the header and the rows. -/
  holds : Holds (Trace.header :: rows.map TraceRow.fields) writer.table
  /-- No error was met. -/
  kept_eq : writer.kept = none
  /-- The rows are counted. -/
  count_eq : writer.count = .ofNat rows.length
  /-- The run is not over. -/
  unfinished : writer.finished = false

theorem has_opened (reliable : Reliable ω) :
    ∃ writer : TraceWriter ω, opened = .ok writer ∧ writer.Has [] := by
  have nonempty : Trace.header ≠ [] := List.cons_ne_nil _ _
  obtain ⟨table, written⟩ := reliable.exists_write .fresh nonempty TableWriter.plain_header
    (List.forall_mem_nil _)
  refine ⟨{ table }, by rw [opened, written], ?_, rfl, rfl, rfl⟩
  exact Holds.fresh.write TableWriter.plain_header written

theorem Has.add (reliable : Reliable ω) (has : writer.Has rows) (row : TraceRow) :
    (settle (writer.add row)).Has (rows ++ [row]) := by
  have plain : ∀ field ∈ row.fields, TableWriter.Plain field := fun field inside =>
    TableWriter.plain_of_numeric (TraceRow.numeric_of_mem inside).1
      (TraceRow.numeric_of_mem inside).2
  have regular : ∀ line ∈ Trace.header :: rows.map TraceRow.fields,
      line.length = row.fields.length := by
    rw [List.forall_mem_cons, List.forall_mem_map]
    exact ⟨rfl, fun _ _ => rfl⟩
  have nonempty : row.fields ≠ [] := List.cons_ne_nil _ _
  obtain ⟨table, written⟩ := reliable.exists_write has.holds nonempty plain regular
  rw [TraceWriter.add, written]
  refine ⟨?_, has.kept_eq, ?_, has.unfinished⟩
  · rw [List.map_append, ← List.cons_append]
    exact has.holds.write plain written
  · rw [List.length_append, UInt64.ofNat_add, ← has.count_eq]
    rfl

theorem Has.add_rows (reliable : Reliable ω) (has : writer.Has rows) (more : List TraceRow) :
    (more.foldl (fun writer row => settle (writer.add row)) writer).Has (rows ++ more) := by
  induction more generalizing writer rows with
  | nil =>
    rw [List.append_nil]
    exact has
  | cons row more ih =>
    rw [List.foldl_cons, ← List.singleton_append, ← List.append_assoc]
    exact ih (has.add reliable row)

/-- While the run goes on the rows of all events are written. -/
theorem Has.see_events (reliable : Reliable ω) (has : writer.Has rows) {events : List Event}
    (goes_on : ∀ event ∈ events, ∀ now, event ≠ .runEnd now) :
    (events.foldl see writer).Has (rows ++ events.flatMap Trace.rowsOfEvent) := by
  induction events generalizing writer rows with
  | nil =>
    rw [List.flatMap_nil, List.append_nil]
    exact has
  | cons event events ih =>
    obtain ⟨no_end, goes_on⟩ := List.forall_mem_cons.mp goes_on
    rw [List.foldl_cons, List.flatMap_cons, ← List.append_assoc]
    apply ih _ goes_on
    cases event with
    | runEnd now => exact absurd rfl (no_end now)
    | _ => exact has.add_rows reliable _

theorem handed_of_holds (reliable : Reliable ω) {table after : ω}
    (holds : Holds (Trace.header :: rows.map TraceRow.fields) table)
    (flushed : TableWriter.flush table = (.ok (), after)) :
    TableWriter.handed after = Trace.text rows := by
  rw [reliable.handed_flush holds flushed, List.map_cons, List.map_map]
  rfl

theorem text_of_holds (reliable : Reliable ω)
    (holds : Holds (Trace.header :: rows.map TraceRow.fields) writer.table) :
    writer.text = .ok (Trace.text rows) := by
  obtain ⟨table, flushed⟩ := reliable.exists_flush holds
  rw [text, flushed]
  exact congrArg Except.ok (handed_of_holds reliable holds flushed)

/-- The run is over: the sink has the whole trace, and gives it back. -/
structure Complete (writer : TraceWriter ω) (rows : List TraceRow) : Prop where
  /-- No error was met. -/
  kept_eq : writer.kept = none
  /-- The sink has the header and a line for each row. -/
  handed_eq : TableWriter.handed writer.table = Trace.text rows
  /-- It still has them when it is given back. -/
  text_eq : writer.text = .ok (Trace.text rows)
  /-- The rows are counted. -/
  count_eq : writer.count = .ofNat rows.length

theorem Has.complete (reliable : Reliable ω) (has : writer.Has rows) (now : Tick) :
    (writer.see (.runEnd now)).Complete rows := by
  obtain ⟨table, flushed⟩ := reliable.exists_flush has.holds
  rw [see, finish, has.unfinished, flushed]
  exact ⟨has.kept_eq, handed_of_holds reliable has.holds flushed,
    text_of_holds reliable (has.holds.flush flushed), has.count_eq⟩

end TraceWriter

namespace Progress

/-- The ticks before a number of ticks in which a trace is taken. -/
def tracedTicks (settings : RunSettings) (count : Nat) : List Nat :=
  (List.range count).filter fun tick =>
    settings.traceInterval ≠ 0 ∧ settings.traceInterval.toNat ∣ tick

/-- The rows of all convoys after each traced tick. -/
def tracedRows (fleet : Fleet) (count : Nat) : List TraceRow :=
  (tracedTicks fleet.settings count).flatMap fun tick =>
    (ticks (tick + 1) (.start fleet)).fleet.convoys.map (.ofConvoy (.nth tick))

theorem tracesAt_nth (settings : RunSettings) {tick : Nat} (fits : tick < 18446744073709551616) :
    Fleet.tracesAt settings (.nth tick) =
      decide (settings.traceInterval ≠ 0 ∧ settings.traceInterval.toNat ∣ tick) := by
  have number_eq : (Tick.nth tick).number.toNat = tick := by
    rw [Tick.toNat_nth, Nat.mod_eq_of_lt fits]
  have divides : (Tick.nth tick).number % settings.traceInterval = 0 ↔
      settings.traceInterval.toNat ∣ tick := by
    rw [← UInt64.toNat_inj, UInt64.toNat_mod, number_eq, Nat.dvd_iff_mod_eq_zero]
    rfl
  rw [Fleet.tracesAt, decide_eq_decide.mpr divides, Bool.decide_and]

theorem tracedTicks_succ (settings : RunSettings) {count : Nat}
    (fits : count < 18446744073709551616) :
    tracedTicks settings (count + 1) = tracedTicks settings count ++
      if Fleet.tracesAt settings (.nth count) then [count] else [] := by
  rw [tracedTicks, List.range_succ, List.filter_append, tracesAt_nth settings fits,
    List.filter_singleton, Bool.cond_eq_ite]
  rfl

section Runs

variable {settings : RunSettings} {route : Route} {plans : List DeparturePlan} {dwell : UInt64}
  {fleet : Fleet}

/-- One more tick adds the rows of all convoys after it, if a trace is taken in it. -/
theorem rows_ticks_succ (accepted : Fleet.build settings route plans dwell = .ok fleet)
    (count : Nat) :
    (ticks (count + 1) (.start fleet)).events.toList.flatMap Trace.rowsOfEvent =
      (ticks count (.start fleet)).events.toList.flatMap Trace.rowsOfEvent ++
        if Fleet.tracesAt fleet.settings (.nth count) then
          (ticks (count + 1) (.start fleet)).fleet.convoys.map (.ofConvoy (.nth count))
        else [] := by
  have built := Fleet.built_of_build accepted
  have coherent := built.reached_coherent count
  have convoys_eq : (ticks (count + 1) (.start fleet)).fleet.convoys =
      (ticks count (.start fleet)).nextConvoys := by rw [ticks_succ, tick_eq coherent]
  have settings_eq : (ticks count (.start fleet)).fleet.settings = fleet.settings :=
    (built.ticks_coherent count).1.settings
  rw [convoys_eq, ticks_succ, events_tick coherent, List.flatMap_append, List.flatMap_cons,
    Trace.rows_tickEvents, now_ticks accepted]
  simp only [settings_eq, Trace.rowsOfEvent, List.nil_append]

/-- The rows of a run are those of all convoys after each traced tick. -/
theorem rows_ticks (accepted : Fleet.build settings route plans dwell = .ok fleet) {count : Nat}
    (fits : count ≤ 18446744073709551616) :
    (ticks count (.start fleet)).events.toList.flatMap Trace.rowsOfEvent =
      tracedRows fleet count := by
  induction count with
  | zero => rfl
  | succ count ih =>
    rw [rows_ticks_succ accepted, ih (by omega), tracedRows, tracedRows,
      tracedTicks_succ fleet.settings (by omega), List.flatMap_append]
    congr 1
    split
    · rw [List.flatMap_singleton]
    · rfl

/-- No tick tells that the run is over. -/
theorem not_runEnd_of_mem_ticks (accepted : Fleet.build settings route plans dwell = .ok fleet)
    {count : Nat} {event : Event} (told : event ∈ (ticks count (.start fleet)).events.toList)
    (now : Tick) : event ≠ .runEnd now := by
  rintro rfl
  induction count with
  | zero => contradiction
  | succ count ih =>
    have coherent := (Fleet.built_of_build accepted).reached_coherent count
    rw [ticks_succ, events_tick coherent, List.mem_append, List.mem_cons] at told
    rcases told with before | start_eq | inside
    · exact ih before
    · contradiction
    · rw [Fleet.tickEvents, List.mem_append, List.mem_flatMap, List.mem_cons] at inside
      rcases inside with ⟨pair, -, told⟩ | end_eq | traced
      · rcases Fleet.mem_convoyEvents.mp told with ⟨-, told⟩ | ⟨_, -, told⟩ | ⟨-, told⟩ | ⟨-, told⟩
        all_goals contradiction
      · contradiction
      · split at traced
        · simp at traced
        · contradiction

/-- A run goes on to its last tick and tells that it is over. -/
theorem toEnd_eq (accepted : Fleet.build settings route plans dwell = .ok fleet) :
    (start fleet).toEnd.failure = none ∧
      (start fleet).toEnd.events.toList =
        (ticks settings.totalTicks.toNat (.start fleet)).events.toList ++
          [.runEnd (.nth settings.totalTicks.toNat)] := by
  obtain ⟨-, convoys, -, fleet_eq⟩ := Fleet.build_cases accepted
  have left_eq : fleet.settings.endTick.number.toNat - fleet.clock.now.number.toNat =
      settings.totalTicks.toNat := by rw [fleet_eq]; rfl
  have goes_on := ((Fleet.built_of_build accepted).reached_coherent
    settings.totalTicks.toNat).failure_eq
  unfold toEnd
  simp only [start] at goes_on ⊢
  rw [left_eq, goes_on]
  refine ⟨rfl, ?_⟩
  simp only [Array.toList_push, List.append_cancel_left_eq, List.cons.injEq, and_true,
    Event.runEnd.injEq]
  exact now_ticks accepted _

/-- The convoys are in the order of their numbers after any number of ticks. -/
theorem places_ticks (accepted : Fleet.build settings route plans dwell = .ok fleet)
    (count : Nat) :
    ((ticks count (.start fleet)).fleet.convoys.map fun convoy => convoy.id.place) =
      List.range plans.length := by
  have length_eq : (ticks count (.start fleet)).fleet.convoys.length = plans.length := by
    induction count with
    | zero =>
      obtain ⟨-, convoys, placed, rfl⟩ := Fleet.build_cases accepted
      exact DeparturePlan.length_placeAll placed
    | succ count ih =>
      rw [ticks_succ, tick_eq ((Fleet.built_of_build accepted).reached_coherent count), ← ih]
      exact List.length_map _
  rw [← length_eq]
  apply List.ext_getElem
  · simp
  · intro place inside _
    rw [List.getElem_map, List.getElem_range]
    have numbered := ticks_numbered accepted count place _ (List.getElem?_eq_getElem
      (by simpa using inside))
    rw [numbered, Nat.zero_add]

end Runs

/-- Five long ticks with a trace in every other one. -/
def everyOther : RunSettings := { longTicks with totalTicks := 5, traceInterval := 2 }

/-- A railcar alone on its route for five ticks. -/
def traced : Fleet :=
  { alone railcarPlan steadyRoute with settings := everyOther, clock := everyOther.clock }

end Progress

end Haulage
