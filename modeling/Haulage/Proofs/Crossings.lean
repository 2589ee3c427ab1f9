import Haulage.Proofs.Chronicle
import Haulage.Proofs.Travel
import Mathlib.Data.List.Nodup

/-!
# Which crossings are told

A convoy runs from one end of its route to the other, and its head enters every section but the
first on the way.  A tick tells of one section at most, the one on which it leaves the head.  So the
sections that are told come in travel order and none twice, and they are all of them as long as no
tick takes the head across two boundaries.
-/

namespace Haulage

open Fixed

@[simp] theorem Direction.reversed_reversed (direction : Direction) :
    direction.reversed.reversed = direction := by
  cases direction <;> rfl

namespace Route

/-- The sections with their numbers, in the order in which a convoy meets them. -/
def numbered (route : Route) : Direction → List (Section × Nat)
  | .forward => route.sections.zipIdx
  | .backward => route.sections.zipIdx.reverse

/-- How many boundaries lie between a head and the end that it came from. -/
def crossedAt (route : Route) (position : UInt32) : Direction → Nat
  | .forward => route.placeAt position .forward
  | .backward => route.sections.length - 1 - route.placeAt position .backward

variable (route : Route)

theorem mem_numbered {direction : Direction} {stop : Section × Nat} :
    stop ∈ route.numbered direction ↔ route.sections[stop.2]? = some stop.1 := by
  cases direction with
  | forward => exact List.mem_zipIdx_iff_getElem?
  | backward =>
    rw [numbered, List.mem_reverse]
    exact List.mem_zipIdx_iff_getElem?

/-- A number names one section. -/
theorem numbered_unique {direction : Direction} {first second : Section × Nat}
    (first_mem : first ∈ route.numbered direction) (second_mem : second ∈ route.numbered direction)
    (same : first.2 = second.2) : first = second := by
  rw [mem_numbered] at first_mem second_mem
  rw [same, second_mem] at first_mem
  exact Prod.ext (Option.some.inj first_mem).symm same

theorem nodup_numbered (direction : Direction) : (route.numbered direction).Nodup := by
  have forward : route.sections.zipIdx.Nodup := by
    apply List.Nodup.of_map Prod.snd
    rw [List.zipIdx_map_snd]
    exact List.nodup_range'
  cases direction with
  | forward => exact forward
  | backward => exact List.nodup_reverse.mpr forward

theorem length_numbered (direction : Direction) :
    (route.numbered direction).length = route.sections.length := by
  cases direction <;> simp [numbered]

/-- The section under a head comes after as many others as there are boundaries behind it. -/
theorem numbered_crossedAt (position : UInt32) (direction : Direction) :
    ∃ stretch, route.get? (route.sectionAt position direction) = some stretch ∧
      (route.numbered direction)[route.crossedAt position direction]? =
        some (stretch, (route.sectionAt position direction).place) := by
  have inside := route.placeAt_lt position direction
  refine ⟨_, route.get?_sectionAt position direction, ?_⟩
  rw [place_sectionAt]
  cases direction with
  | forward => simp [numbered, crossedAt, List.getElem?_zipIdx, List.getElem?_eq_getElem inside]
  | backward =>
    have back : route.sections.length - 1 - (route.sections.length - 1 -
        route.placeAt position .backward) = route.placeAt position .backward := by omega
    rw [numbered, crossedAt, List.getElem?_reverse (by rw [List.length_zipIdx]; omega),
      List.length_zipIdx, back]
    simp [List.getElem?_zipIdx, List.getElem?_eq_getElem inside]

/-- The sections that a convoy has to enter on its way from end to end. -/
def toEnter (direction : Direction) : List (Section × Nat) := (route.numbered direction).drop 1

/-- The section behind a boundary is the last of those to enter up to it. -/
theorem take_toEnter {direction : Direction} {crossed : Nat} {stop : Section × Nat}
    (stop_eq : (route.numbered direction)[crossed + 1]? = some stop) :
    (route.toEnter direction).take (crossed + 1) =
      (route.toEnter direction).take crossed ++ [stop] := by
  have next_eq : (route.toEnter direction)[crossed]? = some stop := by
    rw [toEnter, List.getElem?_drop, Nat.add_comm]
    exact stop_eq
  rw [List.take_add_one, next_eq]
  rfl

/-- The section at the end that a convoy leaves is none of those. -/
theorem not_mem_toEnter {direction : Direction} {stop : Section × Nat}
    (stop_eq : (route.numbered direction)[0]? = some stop) : stop ∉ route.toEnter direction := by
  have distinct := route.nodup_numbered direction
  unfold toEnter
  cases sections_eq : route.numbered direction with
  | nil => simp
  | cons start rest =>
    rw [sections_eq] at stop_eq distinct
    obtain rfl : start = stop := Option.some.inj stop_eq
    exact (List.nodup_cons.mp distinct).1

theorem countStarts_mono {passes wider : Nat → Bool}
    (widens : ∀ start, passes start = true → wider start = true) (start : Nat)
    (sections : List Section) :
    countStarts passes start sections ≤ countStarts wider start sections := by
  induction sections generalizing start with
  | nil => exact le_rfl
  | cons first rest ih =>
    unfold countStarts
    by_cases passed : passes start = true
    · rw [if_pos passed, if_pos (widens start passed)]
      exact Nat.add_le_add_left (ih _) 1
    · rw [if_neg passed]
      exact Nat.zero_le _

/-- A head that is led on crosses boundaries and none back. -/
theorem crossedAt_mono {direction : Direction} {near far : UInt32}
    (leads : direction.Leads near far) :
    route.crossedAt near direction ≤ route.crossedAt far direction := by
  cases direction with
  | forward =>
    have near_le : near.toNat ≤ far.toNat := UInt32.le_iff_toNat_le.mp leads
    have more : countStarts (fun start => start ≤ near.toNat) 0 route.sections ≤
        countStarts (fun start => start ≤ far.toNat) 0 route.sections :=
      countStarts_mono (fun start passed => by simp only [decide_eq_true_eq] at *; omega) 0 _
    simp only [crossedAt, placeAt]
    omega
  | backward =>
    have far_le : far.toNat ≤ near.toNat := UInt32.le_iff_toNat_le.mp leads
    have fewer : countStarts (fun start => start < far.toNat) 0 route.sections ≤
        countStarts (fun start => start < near.toNat) 0 route.sections :=
      countStarts_mono (fun start passed => by simp only [decide_eq_true_eq] at *; omega) 0 _
    simp only [crossedAt, placeAt]
    omega

theorem eq_nil_of_totalLength {sections : List Section}
    (passable : ∀ stretch ∈ sections, stretch ∈ route.sections)
    (no_length : totalLength sections = 0) : sections = [] := by
  have few := length_le_totalLength fun stretch stretch_mem =>
    (route.passable stretch (passable stretch stretch_mem)).1
  exact List.length_eq_zero_iff.mp (by omega)

/-- No boundary lies behind a head at the end that it came from. -/
theorem crossedAt_start (direction : Direction) :
    route.crossedAt (route.endPosition direction.reversed) direction = 0 := by
  have length_eq := route.toNat_length
  have positive := route.length_pos
  cases direction with
  | forward =>
    obtain ⟨passed, here, ahead, sections_eq, count_eq, entered, -⟩ :=
      countStarts_split (fun start => start ≤ 0) 0 route.sections rfl
        (by simp only [decide_eq_false_iff_not]; omega)
    have none_passed : passed = [] := by
      apply route.eq_nil_of_totalLength
      · intro stretch stretch_mem
        rw [sections_eq]
        exact List.mem_append_left _ stretch_mem
      · simp only [decide_eq_true_eq] at entered
        omega
    change countStarts (fun start => start ≤ 0) 0 route.sections - 1 = 0
    rw [count_eq, none_passed]
    rfl
  | backward =>
    obtain ⟨passed, here, ahead, sections_eq, count_eq, -, not_left⟩ :=
      countStarts_split (fun start => start < route.length.toNat) 0 route.sections
        (by simp only [decide_eq_true_eq]; omega) (by simp only [decide_eq_false_iff_not]; omega)
    have none_ahead : ahead = [] := by
      apply route.eq_nil_of_totalLength
      · intro stretch stretch_mem
        rw [sections_eq]
        exact List.mem_append_right _ (List.mem_cons_of_mem _ stretch_mem)
      · have lengths := congrArg totalLength sections_eq
        rw [totalLength_append, totalLength] at lengths
        simp only [decide_eq_false_iff_not] at not_left
        omega
    change route.sections.length - 1 - (countStarts (fun start => start < route.length.toNat) 0
      route.sections - 1) = 0
    rw [count_eq, sections_eq, none_ahead, List.length_append, List.length_singleton]
    omega

end Route

namespace Convoy

variable {convoy : Convoy} {route : Route} {settings : RunSettings} {dwell : UInt64} {now : Tick}

/-- How many boundaries its head has crossed since the convoy left an end of the route. -/
def crossed (convoy : Convoy) (route : Route) : Nat :=
  route.crossedAt convoy.position convoy.direction

theorem Placed.numbered_crossed (placed : convoy.Placed route) :
    ∃ stretch, route.get? convoy.stretch = some stretch ∧
      (route.numbered convoy.direction)[convoy.crossed route]? =
        some (stretch, convoy.stretch.place) := by
  rw [placed.stretch_eq]
  exact route.numbered_crossedAt convoy.position convoy.direction

/-- Convoys that run in one direction are on one section just if they have crossed as many
boundaries. -/
theorem Placed.crossed_eq_iff {other : Convoy} (placed : convoy.Placed route)
    (other_placed : other.Placed route) (direction_eq : other.direction = convoy.direction) :
    other.crossed route = convoy.crossed route ↔ other.stretch = convoy.stretch := by
  obtain ⟨here, here_found, here_eq⟩ := placed.numbered_crossed
  obtain ⟨there, there_found, there_eq⟩ := other_placed.numbered_crossed
  rw [direction_eq] at there_eq
  constructor
  · intro same
    rw [same, here_eq] at there_eq
    have place_eq := congrArg Prod.snd (Option.some.inj there_eq)
    cases other_id : other.stretch
    cases convoy_id : convoy.stretch
    rw [other_id, convoy_id] at place_eq
    exact congrArg SectionId.mk (UInt32.toNat_inj.mp place_eq.symm)
  · intro same
    rw [same, here_found] at there_found
    rw [same, ← Option.some.inj there_found, ← here_eq] at there_eq
    have inside := (List.getElem?_eq_some_iff.mp here_eq).1
    exact ((List.getElem?_inj inside (route.nodup_numbered _)).mp there_eq.symm).symm

/-- A waiting convoy is at the end from which it will run. -/
def WaitsAtEnd (convoy : Convoy) (route : Route) : Prop :=
  convoy.isRunning = false → convoy.position = route.endPosition convoy.direction.reversed

theorem waitsAtEnd_settle (convoy : Convoy) (runs : convoy.isRunning = true) (canRestart : Bool)
    (report : StepReport) :
    (convoy.settle route dwell now canRestart report).1.WaitsAtEnd route := by
  rcases convoy.settle_cases route dwell now canRestart report with
    ⟨reached, settled_eq, -⟩ | ⟨-, -, ⟨-, settled_eq⟩ | settled_eq⟩
  · rw [settled_eq]
    intro _
    change (convoy.stepped route).position =
      route.endPosition convoy.direction.reversed.reversed
    rw [Direction.reversed_reversed]
    exact reached
  · rw [settled_eq]
    intro waits
    exact absurd (runs.symm.trans waits) (by decide)
  · rw [settled_eq]
    intro waits
    exact absurd (runs.symm.trans waits) (by decide)

/-- What a tick that does not bring a convoy to its end reports as entered is the section on which
it leaves the head, if that is another one. -/
theorem settle_entered (convoy : Convoy) (canRestart departed : Bool)
    (short : (convoy.settle route dwell now canRestart { departed }).2.arrived = false) :
    (convoy.settle route dwell now canRestart { departed }).2.entered =
      if (convoy.settle route dwell now canRestart { departed }).1.stretch = convoy.stretch
      then none
      else some (convoy.settle route dwell now canRestart { departed }).1.stretch := by
  have apart : (convoy.stepped route).position ≠ route.endPosition convoy.direction := by
    rw [settle_report] at short
    exact of_decide_eq_false short
  have under : (convoy.settle route dwell now canRestart { departed }).1.stretch =
      (convoy.stepped route).sectionUnder route := by
    rcases convoy.settle_cases route dwell now canRestart { departed } with
      ⟨reached, -⟩ | ⟨-, -, ⟨same, settled_eq⟩ | settled_eq⟩
    · exact absurd reached apart
    · rw [settled_eq]
      exact same.symm
    · rw [settled_eq]
      rfl
  rw [under, settle_report]
  simp only [apart, false_or]

/-- How a tick that does not bring a convoy to its end takes it on. -/
structure Crosses (route : Route) (before after : Convoy) (report : StepReport) : Prop where
  /-- It keeps its direction. -/
  direction_eq : after.direction = before.direction
  /-- Its head crosses no boundary back. -/
  crossed_le : before.crossed route ≤ after.crossed route
  /-- The section on which the tick leaves the head is reported, if it is another one. -/
  entered_eq : report.entered = if after.stretch = before.stretch then none else some after.stretch

theorem Steady.crosses (steady : convoy.Steady route settings)
    (scale_pos : zero < settings.world.mapScale)
    (short : (convoy.tickReport route settings dwell now).arrived = false) :
    Crosses route convoy (convoy.afterTick route settings dwell now)
      (convoy.tickReport route settings dwell now) := by
  have advances := (steady.tick scale_pos dwell now).2
  have direction_eq := advances.keeps short
  refine ⟨direction_eq, ?_, ?_⟩
  · rw [crossed, crossed, direction_eq]
    exact route.crossedAt_mono advances.leads
  · rcases steady.coherent.tick_cases route dwell now with
      ⟨-, after_eq, report_eq⟩ | ⟨live, kept, -, after_eq, report_eq⟩
    · rw [after_eq, report_eq, if_pos rfl]
    · rw [report_eq] at short
      rw [after_eq, report_eq]
      exact settle_entered _ _ _ short

theorem WaitsAtEnd.tick (waits : convoy.WaitsAtEnd route)
    (coherent : convoy.Coherent settings.world) (dwell : UInt64) (now : Tick) :
    (convoy.afterTick route settings dwell now).WaitsAtEnd route := by
  rcases coherent.tick_cases route dwell now with ⟨-, after_eq, -⟩ | ⟨live, kept, -, after_eq, -⟩
  · rw [after_eq]
    exact waits
  · rw [after_eq]
    exact waitsAtEnd_settle (convoy.forget.underway _) rfl _ _

/-- Only a waiting convoy departs. -/
theorem Coherent.waits_of_departed (coherent : convoy.Coherent settings.world)
    (departed : (convoy.tickReport route settings dwell now).departed = true) :
    convoy.isRunning = false := by
  rcases coherent.tick_cases route dwell now with ⟨waits, -, -⟩ | ⟨live, kept, -, -, report_eq⟩
  · exact waits
  · rw [report_eq, freshStep, settle_report] at departed
    simpa using departed

end Convoy

namespace DeparturePlan

theorem place_waitsAtEnd (plan : DeparturePlan) (id : ConvoyId) (route : Route) :
    (plan.place id route).WaitsAtEnd route := fun _ => rfl

end DeparturePlan

namespace Progress

/-- A trip of a convoy: in one tick it is told to depart, and so many ticks later, and not before,
to arrive. -/
structure Leg (fleet : Fleet) (id : ConvoyId) (first length : Nat) : Prop where
  /-- It departs. -/
  departs : ∃ event ∈ Event.about id (told fleet first 1), event.isDeparture = true
  /-- It arrives. -/
  arrives : ∃ event ∈ Event.about id (told fleet (first + length) 1), event.isArrival = true
  /-- It does not arrive before. -/
  under_way : ∀ step < length, ∀ event ∈ Event.about id (told fleet (first + step) 1),
    event.isArrival = false

section Runs

variable {settings : RunSettings} {route : Route} {plans : List DeparturePlan} {dwell : UInt64}
  {fleet : Fleet} {id : ConvoyId} {first count : Nat} {before here next : Convoy}

theorem entriesOf_succ (built : Fleet.Built settings route dwell fleet) (id : ConvoyId)
    (first count : Nat) :
    entriesOf fleet id first (count + 1) =
      entriesOf fleet id first count ++ entriesOf fleet id (first + count) 1 := by
  rw [entriesOf, told_succ built, Event.about_append, Event.entries_append]
  rfl

theorem waits_at_end (built : Fleet.Built settings route dwell fleet)
    (here_eq : convoyAfter fleet count id = some here) : here.WaitsAtEnd route := by
  have kept : SameSetup (.start fleet) (ticks count (.start fleet)) ∧
      (ticks count (.start fleet)).All fun convoy =>
        convoy.Coherent settings.world ∧ convoy.WaitsAtEnd route := by
    apply ticks_all
    · intro convoy holds
      change convoy.Coherent fleet.settings.world
      rw [built.settings_eq]
      exact holds.1
    · intro convoy now holds
      change (convoy.afterTick fleet.route fleet.settings fleet.dwell now).Coherent _ ∧
        (convoy.afterTick fleet.route fleet.settings fleet.dwell now).WaitsAtEnd route
      rw [built.settings_eq, built.route_eq]
      exact ⟨holds.1.afterTick _ _ _, holds.2.tick holds.1 _ _⟩
    · refine ⟨rfl, fun convoy convoy_mem => ?_⟩
      obtain ⟨plan, id, checked, rfl⟩ := built.placed convoy convoy_mem
      exact ⟨DeparturePlan.place_coherent checked id _, plan.place_waitsAtEnd id route⟩
  exact (kept.2.convoys here (List.mem_of_getElem? here_eq)).2

/-- A tick that does not bring a convoy to its end tells of the section on which it leaves the
head, if that is another one. -/
theorem entriesOf_one (accepted : Fleet.build settings route plans dwell = .ok fleet)
    (here_eq : convoyAfter fleet count id = some here)
    (short : ∀ event ∈ Event.about id (told fleet count 1), event.isArrival = false) :
    ∃ next stop, convoyAfter fleet (count + 1) id = some next ∧
      next.direction = here.direction ∧ here.crossed route ≤ next.crossed route ∧
      (route.numbered here.direction)[next.crossed route]? = some stop ∧
      stop.2 = next.stretch.place ∧
      entriesOf fleet id count 1 =
        if next.crossed route = here.crossed route then [] else [stop] := by
  have built := Fleet.built_of_build accepted
  have steady := convoyAfter_steady built here_eq
  have scale_pos := RunSettings.mapScale_pos built.validated
  have told_eq := about_told accepted here_eq
  have next_eq := convoyAfter_succ built here_eq
  have report_short : (here.tickReport route settings dwell
      (ticks count (.start fleet)).fleet.clock.now).arrived = false := by
    rw [← Bool.not_eq_true]
    intro arrived
    have arrival := short _ (told_eq ▸ Fleet.arrival_mem arrived)
    contradiction
  have crosses := steady.crosses scale_pos report_short
  have placed := (steady.tick scale_pos dwell
    (ticks count (.start fleet)).fleet.clock.now).1.placed
  obtain ⟨stretch, under, stop_eq⟩ := placed.numbered_crossed
  rw [crosses.direction_eq] at stop_eq
  refine ⟨_, _, next_eq, crosses.direction_eq, crosses.crossed_le, stop_eq, rfl, ?_⟩
  rw [entriesOf, told_eq, Fleet.entries_convoyEvents, crosses.entered_eq]
  simp only [steady.placed.crossed_eq_iff placed crosses.direction_eq]
  split
  · rfl
  · rw [Option.bind_some, under]
    rfl

/-- A tick in which a convoy arrives tells of no section. -/
theorem entriesOf_arrival (accepted : Fleet.build settings route plans dwell = .ok fleet)
    (here_eq : convoyAfter fleet count id = some here)
    (arrives : ∃ event ∈ Event.about id (told fleet count 1), event.isArrival = true) :
    entriesOf fleet id count 1 = [] := by
  have built := Fleet.built_of_build accepted
  have told_eq := about_told accepted here_eq
  obtain ⟨event, event_mem, arrival⟩ := arrives
  rw [told_eq] at event_mem
  have arrived := Fleet.arrived_of_mem event_mem arrival
  rw [entriesOf, told_eq, Fleet.entries_convoyEvents]
  rcases (convoyAfter_steady built here_eq).coherent.tick_cases route dwell
      (ticks count (.start fleet)).fleet.clock.now with
    ⟨-, -, report_eq⟩ | ⟨live, kept, -, -, report_eq⟩
  · rw [report_eq]
    rfl
  · rw [report_eq, Convoy.freshStep, Convoy.settle_report] at arrived ⊢
    simp only [decide_eq_true_eq] at arrived
    simp [arrived]

/-- What holds of a convoy that has departed and not yet arrived. -/
structure EnRoute (fleet : Fleet) (id : ConvoyId) (route : Route) (first count : Nat)
    (before here : Convoy) : Prop where
  /-- It is where so many ticks have brought it. -/
  here_eq : convoyAfter fleet (first + count) id = some here
  /-- It keeps its direction. -/
  direction_eq : here.direction = before.direction
  /-- What was told of it are sections that it has entered, in their order. -/
  in_order : (entriesOf fleet id first count).Sublist
    ((route.toEnter before.direction).take (here.crossed route))
  /-- A section was told if a tick has left the head on it. -/
  told_iff : ∀ stop ∈ route.toEnter before.direction,
    stop ∈ entriesOf fleet id first count ↔
      ∃ step ≤ count, ∃ convoy, convoyAfter fleet (first + step) id = some convoy ∧
        convoy.stretch.place = stop.2
  /-- They all were told if no tick has taken the head across two boundaries. -/
  all_told : (∀ step < count, ∀ near far, convoyAfter fleet (first + step) id = some near →
      convoyAfter fleet (first + step + 1) id = some far →
        far.crossed route ≤ near.crossed route + 1) →
    entriesOf fleet id first count = (route.toEnter before.direction).take (here.crossed route)

theorem entriesOf_zero (fleet : Fleet) (id : ConvoyId) (first : Nat) :
    entriesOf fleet id first 0 = [] := by
  rw [entriesOf, told_zero]
  rfl

theorem enRoute_start (built : Fleet.Built settings route dwell fleet)
    (before_eq : convoyAfter fleet first id = some before)
    (at_end : before.crossed route = 0) : EnRoute fleet id route first 0 before before where
  here_eq := before_eq
  direction_eq := rfl
  in_order := by
    rw [entriesOf_zero]
    exact List.nil_sublist _
  told_iff := by
    intro stop stop_mem
    obtain ⟨stretch, -, start_eq⟩ := (convoyAfter_steady built before_eq).placed.numbered_crossed
    rw [at_end] at start_eq
    rw [entriesOf_zero]
    constructor
    · intro none_told
      contradiction
    · rintro ⟨step, step_le, convoy, convoy_eq, place_eq⟩
      obtain rfl : step = 0 := Nat.le_zero.mp step_le
      obtain rfl := Option.some.inj (before_eq.symm.trans convoy_eq)
      have start_mem := List.mem_of_getElem? start_eq
      have same := route.numbered_unique start_mem (List.mem_of_mem_drop stop_mem) place_eq
      rw [same] at start_eq
      exact absurd stop_mem (route.not_mem_toEnter start_eq)
  all_told := by
    intro _
    rw [entriesOf_zero, at_end, List.take_zero]

/-- After one more tick the sections on which some tick has left the head are those that were told
and the one on which this tick leaves it. -/
theorem EnRoute.left_on_iff (en_route : EnRoute fleet id route first count before here)
    (next_eq : convoyAfter fleet (first + count + 1) id = some next) {stop other : Section × Nat}
    (stop_mem : stop ∈ route.numbered before.direction) (place_eq : stop.2 = next.stretch.place)
    (other_mem : other ∈ route.toEnter before.direction) :
    (∃ step ≤ count + 1, ∃ convoy, convoyAfter fleet (first + step) id = some convoy ∧
        convoy.stretch.place = other.2) ↔
      (other ∈ entriesOf fleet id first count ∨ other = stop) := by
  rw [en_route.told_iff other other_mem]
  constructor
  · rintro ⟨step, step_le, convoy, convoy_eq, other_place⟩
    rcases Nat.le_succ_iff.mp step_le with earlier | rfl
    · exact .inl ⟨step, earlier, convoy, convoy_eq, other_place⟩
    · obtain rfl := Option.some.inj (next_eq.symm.trans convoy_eq)
      exact .inr (route.numbered_unique (List.mem_of_mem_drop other_mem) stop_mem
        (other_place.symm.trans place_eq.symm))
  · rintro (⟨step, step_le, convoy, convoy_eq, other_place⟩ | rfl)
    · exact ⟨step, by omega, convoy, convoy_eq, other_place⟩
    · exact ⟨count + 1, le_rfl, next, next_eq, place_eq.symm⟩

/-- One more tick on the way. -/
theorem EnRoute.tick (accepted : Fleet.build settings route plans dwell = .ok fleet)
    (en_route : EnRoute fleet id route first count before here)
    (short : ∀ event ∈ Event.about id (told fleet (first + count) 1), event.isArrival = false) :
    ∃ next, EnRoute fleet id route first (count + 1) before next := by
  have built := Fleet.built_of_build accepted
  obtain ⟨next, stop, next_eq, direction_eq, crossed_le, stop_eq, place_eq, told_eq⟩ :=
    entriesOf_one accepted en_route.here_eq short
  rw [en_route.direction_eq] at direction_eq stop_eq
  have stop_mem := List.mem_of_getElem? stop_eq
  have entries_eq := entriesOf_succ built id first count
  rw [told_eq] at entries_eq
  by_cases same : next.crossed route = here.crossed route
  · rw [if_pos same, List.append_nil] at entries_eq
    refine ⟨next, next_eq, direction_eq, ?_, ?_, ?_⟩
    · rw [entries_eq, same]
      exact en_route.in_order
    · intro other other_mem
      rw [entries_eq, en_route.left_on_iff next_eq stop_mem place_eq other_mem]
      refine ⟨.inl, ?_⟩
      rintro (told | rfl)
      · exact told
      -- The head stood on that section when the tick began.
      obtain ⟨stretch, -, here_stop⟩ :=
        (convoyAfter_steady built en_route.here_eq).placed.numbered_crossed
      rw [en_route.direction_eq, ← same, stop_eq] at here_stop
      rw [en_route.told_iff _ other_mem]
      exact ⟨count, le_rfl, here, en_route.here_eq,
        (congrArg Prod.snd (Option.some.inj here_stop)).symm⟩
    · intro near
      rw [entries_eq, same]
      exact en_route.all_told fun step step_lt => near step (by omega)
  · rw [if_neg same] at entries_eq
    obtain ⟨crossed, crossed_eq⟩ : ∃ crossed, next.crossed route = crossed + 1 :=
      ⟨next.crossed route - 1, by omega⟩
    rw [crossed_eq] at stop_eq
    have taken := route.take_toEnter stop_eq
    refine ⟨next, next_eq, direction_eq, ?_, ?_, ?_⟩
    · rw [entries_eq, crossed_eq, taken]
      apply List.Sublist.append_right
      exact en_route.in_order.trans (List.take_sublist_take_left (by omega))
    · intro other other_mem
      rw [entries_eq, en_route.left_on_iff next_eq stop_mem place_eq other_mem, List.mem_append,
        List.mem_singleton]
    · intro near
      have crossed_next := near count (by omega) here next en_route.here_eq next_eq
      obtain rfl : crossed = here.crossed route := by omega
      rw [entries_eq, crossed_eq, taken,
        en_route.all_told fun step step_lt => near step (by omega)]

/-- All ticks on the way. -/
theorem enRoute_of_short (accepted : Fleet.build settings route plans dwell = .ok fleet)
    (before_eq : convoyAfter fleet first id = some before) (at_end : before.crossed route = 0)
    (short : ∀ step < count, ∀ event ∈ Event.about id (told fleet (first + step) 1),
      event.isArrival = false) :
    ∃ here, EnRoute fleet id route first count before here := by
  induction count with
  | zero => exact ⟨before, enRoute_start (Fleet.built_of_build accepted) before_eq at_end⟩
  | succ count ih =>
    obtain ⟨here, en_route⟩ := ih fun step step_lt => short step (by omega)
    exact en_route.tick accepted (short count (by omega))

/-- A convoy that departs is at the end from which it runs. -/
theorem start_of_departure (accepted : Fleet.build settings route plans dwell = .ok fleet)
    (departs : ∃ event ∈ Event.about id (told fleet first 1), event.isDeparture = true) :
    ∃ before, convoyAfter fleet first id = some before ∧
      before.position = route.endPosition before.direction.reversed := by
  have built := Fleet.built_of_build accepted
  obtain ⟨event, event_mem, departure⟩ := departs
  obtain ⟨event_told, handed, handed_eq, rfl⟩ := Event.mem_about.mp event_mem
  obtain ⟨before, before_eq, -, told⟩ := handed_of_told accepted event_told handed_eq
  have coherent := (convoyAfter_steady built before_eq).coherent
  have waits := coherent.waits_of_departed (Fleet.departed_of_mem told departure)
  exact ⟨before, before_eq, waits_at_end built before_eq waits⟩

/-- A leg leads from one end of the route to the other.  The sections told on it are sections that
the head enters, in travel order.  Those told before the tick of the arrival are those on which a
tick started; where no tick takes the head across two boundaries, and the last one starts on the
last section, they are all that follow the first. -/
theorem crossings_told (accepted : Fleet.build settings route plans dwell = .ok fleet)
    {length : Nat} (leg : Leg fleet id first length) :
    ∃ before, convoyAfter fleet first id = some before ∧
      before.position = route.endPosition before.direction.reversed ∧
      (entriesOf fleet id first (length + 1)).Sublist (route.toEnter before.direction) ∧
      (∀ stop ∈ route.toEnter before.direction,
        stop ∈ entriesOf fleet id first length ↔
          ∃ step ≤ length, ∃ convoy, convoyAfter fleet (first + step) id = some convoy ∧
            convoy.stretch.place = stop.2) ∧
      ((∀ step < length, ∀ near far, convoyAfter fleet (first + step) id = some near →
          convoyAfter fleet (first + step + 1) id = some far →
            far.crossed route ≤ near.crossed route + 1) →
        (∀ last, convoyAfter fleet (first + length) id = some last →
          last.crossed route + 1 = route.sections.length) →
        entriesOf fleet id first length = route.toEnter before.direction) := by
  have built := Fleet.built_of_build accepted
  obtain ⟨before, before_eq, at_end⟩ := start_of_departure accepted leg.departs
  have none_crossed : before.crossed route = 0 := by
    rw [Convoy.crossed, at_end]
    exact route.crossedAt_start before.direction
  obtain ⟨here, en_route⟩ := enRoute_of_short accepted before_eq none_crossed leg.under_way
  refine ⟨before, before_eq, at_end, ?_, en_route.told_iff, fun near last => ?_⟩
  · rw [entriesOf_succ built, entriesOf_arrival accepted en_route.here_eq leg.arrives,
      List.append_nil]
    exact en_route.in_order.trans (List.take_sublist _ _)
  · have all_crossed := last here en_route.here_eq
    rw [en_route.all_told near]
    apply List.take_of_length_le
    rw [Route.toEnter, List.length_drop, route.length_numbered]
    omega

end Runs

/-- A railcar that covers a few steps in the first of those ticks. -/
def railcarPlan : DeparturePlan :=
  { name := "Shuttle"
    vehicles := [{ name := "Railcar", way := .track, tonnes := 20, topKmh := 60, powerKw := 500,
                   effortKn := 40 }] }

/-- Two sections of which the railcar reaches the second in its first tick. -/
def steadyRoute : Route :=
  ⟨[⟨.track, 1, 60, 0, false⟩, ⟨.track, 5, 70, 0, false⟩], by decide, by decide, by decide⟩

/-- Three sections of which the railcar reaches the third in its first tick. -/
def hastyRoute : Route :=
  ⟨[⟨.track, 1, 60, 0, false⟩, ⟨.track, 1, 70, 0, false⟩, ⟨.track, 4, 80, 0, false⟩], by decide,
    by decide, by decide⟩

/-- On two sections no tick takes the railcar across two boundaries, so all is told. -/
theorem railcar_crossing_told :
    Fleet.build longTicks steadyRoute [railcarPlan] 2 = .ok (alone railcarPlan steadyRoute) ∧
      Leg (alone railcarPlan steadyRoute) ⟨0⟩ 0 1 ∧
      entriesOf (alone railcarPlan steadyRoute) ⟨0⟩ 0 1 = steadyRoute.toEnter .forward := by
  have accepted : Fleet.build longTicks steadyRoute [railcarPlan] 2 =
      .ok (alone railcarPlan steadyRoute) := rfl
  have leg : Leg (alone railcarPlan steadyRoute) ⟨0⟩ 0 1 :=
    ⟨by decide +kernel, by decide +kernel, by decide +kernel⟩
  have one_crossed : (convoyAfter (alone railcarPlan steadyRoute) 1 ⟨0⟩).map
      (Convoy.crossed · steadyRoute) = some 1 := by decide +kernel
  have directions : (convoyAfter (alone railcarPlan steadyRoute) 0 ⟨0⟩).map Convoy.direction =
      some .forward := by decide +kernel
  obtain ⟨before, before_eq, -, -, -, all_told⟩ := crossings_told accepted leg
  rw [before_eq, Option.map_some] at directions
  refine ⟨accepted, leg, ?_⟩
  rw [← Option.some.inj directions]
  apply all_told
  · intro step step_lt near far _ far_eq
    obtain rfl : step = 0 := by omega
    rw [far_eq, Option.map_some] at one_crossed
    rw [Option.some.inj one_crossed]
    exact Nat.le_add_left _ _
  · intro last last_eq
    rw [last_eq, Option.map_some] at one_crossed
    rw [Option.some.inj one_crossed]
    rfl

/-- On three sections the first tick takes the railcar across two boundaries, and tells one. -/
theorem crossing_untold :
    Fleet.build longTicks hastyRoute [railcarPlan] 2 = .ok (alone railcarPlan hastyRoute) ∧
      Leg (alone railcarPlan hastyRoute) ⟨0⟩ 0 1 ∧
      (convoyAfter (alone railcarPlan hastyRoute) 1 ⟨0⟩).map Convoy.position = some 4 ∧
      hastyRoute.toEnter .forward =
        [(⟨.track, 1, 70, 0, false⟩, 1), (⟨.track, 4, 80, 0, false⟩, 2)] ∧
      entriesOf (alone railcarPlan hastyRoute) ⟨0⟩ 0 2 = [(⟨.track, 4, 80, 0, false⟩, 2)] := by
  refine ⟨rfl, ⟨?_, ?_, ?_⟩, ?_, ?_, ?_⟩
  · decide +kernel
  · decide +kernel
  · decide +kernel
  · decide +kernel
  · decide +kernel
  · decide +kernel

end Progress

end Haulage
