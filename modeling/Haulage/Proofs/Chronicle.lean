import Haulage.Proofs.Whereabouts

/-!
# What a run tells

A run only adds to what it has told.  Each convoy keeps its number, which is its place in the fleet,
and a tick tells of it just what its report says, with the convoy as it is after the tick.
-/

namespace Haulage

namespace Event

/-- The convoy that something happened to, as it was handed on. -/
def convoy? : Event → Option Convoy
  | departure _ convoy => some convoy
  | entry _ convoy _ => some convoy
  | stall _ convoy => some convoy
  | arrival _ convoy => some convoy
  | _ => none

/-- The section that an entry tells of, with its number. -/
def entered? : Event → Option (Section × Nat)
  | entry _ convoy stretch => some (stretch, convoy.stretch.place)
  | _ => none

/-- The sections that events tell of as entered, with their numbers. -/
def entries (events : List Event) : List (Section × Nat) := events.filterMap entered?

/-- Whether a convoy departed. -/
def isDeparture : Event → Bool
  | departure _ _ => true
  | _ => false

/-- Whether a convoy arrived. -/
def isArrival : Event → Bool
  | arrival _ _ => true
  | _ => false

/-- What is told of the convoy with a number. -/
def about (id : ConvoyId) (events : List Event) : List Event :=
  events.filter fun event => event.convoy?.any fun convoy => convoy.id = id

theorem about_append (id : ConvoyId) (first second : List Event) :
    about id (first ++ second) = about id first ++ about id second :=
  List.filter_append first second

theorem entries_append (first second : List Event) :
    entries (first ++ second) = entries first ++ entries second :=
  List.filterMap_append

theorem mem_about {id : ConvoyId} {events : List Event} {event : Event} :
    event ∈ about id events ↔
      event ∈ events ∧ ∃ convoy, event.convoy? = some convoy ∧ convoy.id = id := by
  rw [about, List.mem_filter]
  cases event.convoy? <;> simp

theorem about_eq_self {id : ConvoyId} {events : List Event}
    (same : ∀ event ∈ events, ∃ convoy, event.convoy? = some convoy ∧ convoy.id = id) :
    about id events = events := by
  rw [about, List.filter_eq_self]
  intro event event_mem
  obtain ⟨convoy, convoy_eq, id_eq⟩ := same event event_mem
  simp [convoy_eq, id_eq]

theorem about_eq_nil {id : ConvoyId} {events : List Event}
    (other : ∀ event ∈ events, ∀ convoy, event.convoy? = some convoy → convoy.id ≠ id) :
    about id events = [] := by
  rw [List.eq_nil_iff_forall_not_mem]
  intro event event_mem
  obtain ⟨told, convoy, convoy_eq, id_eq⟩ := mem_about.mp event_mem
  exact other event told convoy convoy_eq id_eq

end Event

namespace Convoy

variable {convoy : Convoy} {route : Route} {settings : RunSettings}

/-- All that is reported of a convoy that has moved. -/
theorem settle_report (convoy : Convoy) (route : Route) (dwell : UInt64) (now : Tick)
    (canRestart departed : Bool) :
    let moved := convoy.stepped route
    let reached := moved.position = route.endPosition convoy.direction
    (convoy.settle route dwell now canRestart { departed }).2 =
      { steps := reportedSteps convoy.motion.wholeSteps
        departed
        entered :=
          if reached ∨ moved.sectionUnder route = convoy.stretch then none
          else some (moved.sectionUnder route)
        arrived := reached
        stalled := !decide reached && !canRestart && !convoy.stalled } := by
  intro moved reached
  by_cases at_end : route.advance convoy.position convoy.direction
      (reportedSteps convoy.motion.wholeSteps) = route.endPosition convoy.direction
  · simp [settle, at_end, moved, reached, stepped]
  · by_cases same : route.sectionAt (route.advance convoy.position convoy.direction
        (reportedSteps convoy.motion.wholeSteps)) convoy.direction = convoy.stretch
    · cases canRestart <;> simp [settle, at_end, same, moved, reached, stepped, sectionUnder]
    · cases canRestart <;> simp [settle, at_end, same, moved, reached, stepped, sectionUnder, enter]

theorem id_settle (convoy : Convoy) (route : Route) (dwell : UInt64) (now : Tick)
    (canRestart : Bool) (report : StepReport) :
    (convoy.settle route dwell now canRestart report).1.id = convoy.id := by
  rcases convoy.settle_cases route dwell now canRestart report with
    ⟨-, settled_eq, -⟩ | ⟨-, -, ⟨-, settled_eq⟩ | settled_eq⟩
  · rw [settled_eq]
    rfl
  · rw [settled_eq]
    rfl
  · rw [settled_eq]
    rfl

/-- A coherent convoy waits on through a tick, or it does what its train alone tells. -/
theorem Coherent.tick_cases (coherent : convoy.Coherent settings.world) (route : Route)
    (dwell : UInt64) (now : Tick) :
    (convoy.isRunning = false ∧ convoy.afterTick route settings dwell now = convoy ∧
        convoy.tickReport route settings dwell now = {}) ∨
      ∃ live kept, convoy.train.live settings.world = .ok live ∧
        convoy.afterTick route settings dwell now =
          (convoy.freshStep live route settings dwell now).1.withCache kept ∧
        convoy.tickReport route settings dwell now =
          (convoy.freshStep live route settings dwell now).2 := by
  unfold Convoy.afterTick tickReport
  rcases coherent.step_cases route dwell now with
    ⟨deadline, phase_eq, -, step_eq⟩ | ⟨live, kept, live_eq, -, step_eq⟩
  · refine .inl ⟨by simp [isRunning, phase_eq], ?_, ?_⟩
    · rw [step_eq]
    · rw [step_eq]
  · refine .inr ⟨live, kept, live_eq, ?_, ?_⟩
    · rw [step_eq]
    · rw [step_eq]

/-- A section that is reported as entered is one of the route. -/
theorem Coherent.found_of_entered (coherent : convoy.Coherent settings.world) {dwell : UInt64}
    {now : Tick} {id : SectionId}
    (entered : (convoy.tickReport route settings dwell now).entered = some id) :
    ∃ stretch, route.get? id = some stretch := by
  rcases coherent.tick_cases route dwell now with ⟨-, -, report_eq⟩ | ⟨live, kept, -, -, report_eq⟩
  · rw [report_eq] at entered
    contradiction
  · rw [report_eq, freshStep, settle_report] at entered
    simp only at entered
    split at entered
    · contradiction
    · obtain rfl := Option.some.inj entered
      exact ⟨_, route.get?_sectionAt _ _⟩

/-- A convoy keeps its number. -/
theorem Coherent.id_afterTick (coherent : convoy.Coherent settings.world) (dwell : UInt64)
    (now : Tick) : (convoy.afterTick route settings dwell now).id = convoy.id := by
  rcases coherent.tick_cases route dwell now with ⟨-, after_eq, -⟩ | ⟨live, kept, -, after_eq, -⟩
  · rw [after_eq]
  · rw [after_eq]
    exact id_settle _ _ _ _ _ _

end Convoy

namespace Fleet

theorem mem_ite_singleton {condition : Bool} {event only : Event} :
    event ∈ (if condition then [only] else []) ↔ condition = true ∧ event = only := by
  cases condition <;> simp

/-- A report is told by one event for each thing that it says. -/
theorem mem_convoyEvents {route : Route} {now : Tick} {convoy : Convoy} {report : StepReport}
    {event : Event} :
    event ∈ convoyEvents route now convoy report ↔
      (report.departed = true ∧ event = .departure now convoy) ∨
      (∃ stretch, report.entered.bind route.get? = some stretch ∧
        event = .entry now convoy stretch) ∨
      (report.stalled = true ∧ event = .stall now convoy) ∨
      (report.arrived = true ∧ event = .arrival now convoy) := by
  unfold convoyEvents
  rw [List.mem_append, List.mem_append, List.mem_append, mem_ite_singleton, mem_ite_singleton,
    mem_ite_singleton, or_assoc, or_assoc]
  cases report.entered.bind route.get? <;> simp

theorem convoy?_of_mem_convoyEvents {route : Route} {now : Tick} {convoy : Convoy}
    {report : StepReport} {event : Event} (told : event ∈ convoyEvents route now convoy report) :
    event.convoy? = some convoy := by
  rcases mem_convoyEvents.mp told with ⟨-, rfl⟩ | ⟨_, -, rfl⟩ | ⟨-, rfl⟩ | ⟨-, rfl⟩ <;> rfl

section Report

variable {route : Route} {now : Tick} {convoy : Convoy} {report : StepReport}

theorem entries_convoyEvents :
    Event.entries (convoyEvents route now convoy report) =
      ((report.entered.bind route.get?).map fun stretch =>
        (stretch, convoy.stretch.place)).toList := by
  unfold convoyEvents
  simp only [Event.entries_append]
  cases report.departed <;> cases report.entered.bind route.get? <;> cases report.stalled <;>
    cases report.arrived <;> rfl

theorem departed_of_mem {event : Event} (told : event ∈ convoyEvents route now convoy report)
    (departure : event.isDeparture = true) : report.departed = true := by
  rcases mem_convoyEvents.mp told with ⟨departed, -⟩ | ⟨_, -, rfl⟩ | ⟨-, rfl⟩ | ⟨-, rfl⟩
  · exact departed
  all_goals exact absurd departure Bool.false_ne_true

theorem arrived_of_mem {event : Event} (told : event ∈ convoyEvents route now convoy report)
    (arrival : event.isArrival = true) : report.arrived = true := by
  rcases mem_convoyEvents.mp told with ⟨-, rfl⟩ | ⟨_, -, rfl⟩ | ⟨-, rfl⟩ | ⟨arrived, -⟩
  on_goal 4 => exact arrived
  all_goals exact absurd arrival Bool.false_ne_true

theorem arrival_mem (arrived : report.arrived = true) :
    .arrival now convoy ∈ convoyEvents route now convoy report :=
  mem_convoyEvents.mpr (.inr (.inr (.inr ⟨arrived, rfl⟩)))

end Report

/-- Convoys are numbered by their places from a place on. -/
def Numbered (start : Nat) (convoys : List Convoy) : Prop :=
  ∀ (place : Nat) (convoy : Convoy), convoys[place]? = some convoy →
    convoy.id.place = start + place

theorem numbered_cons {start : Nat} {convoy : Convoy} {convoys : List Convoy} :
    Numbered start (convoy :: convoys) ↔
      convoy.id.place = start ∧ Numbered (start + 1) convoys := by
  constructor
  · intro numbered
    refine ⟨numbered 0 convoy rfl, fun place other other_eq => ?_⟩
    have other_place := numbered (place + 1) other other_eq
    omega
  · rintro ⟨first, rest⟩ place other other_eq
    cases place with
    | zero =>
      obtain rfl := Option.some.inj other_eq
      exact first
    | succ place =>
      have other_place := rest place other other_eq
      omega

theorem Numbered.le_of_mem {start : Nat} {convoys : List Convoy} (numbered : Numbered start convoys)
    {convoy : Convoy} (convoy_mem : convoy ∈ convoys) : start ≤ convoy.id.place := by
  obtain ⟨place, convoy_eq⟩ := List.mem_iff_getElem?.mp convoy_mem
  have := numbered place convoy convoy_eq
  omega

theorem numbered_placeAll {route : Route} {place : Nat} {plans : List DeparturePlan}
    {convoys : List Convoy} (placed : DeparturePlan.placeAll route place plans = .ok convoys) :
    Numbered place convoys := by
  induction plans generalizing place convoys with
  | nil =>
    obtain rfl := Except.ok.inj placed
    intro _ _ found
    contradiction
  | cons plan plans ih =>
    obtain ⟨id, rest, id_eq, -, rest_eq, rfl⟩ := DeparturePlan.placeAll_cons placed
    rw [numbered_cons]
    refine ⟨?_, ih rest_eq⟩
    change id.place = place
    unfold ConvoyId.ofPlace identifierNumber at id_eq
    split at id_eq
    · next fits =>
      obtain rfl := Except.ok.inj id_eq
      rw [ConvoyId.place, UInt32.toNat_ofNat']
      exact Nat.mod_eq_of_lt fits
    · contradiction

/-- Of all that is told of numbered convoys, only what one of them tells is about it. -/
theorem Numbered.about_flatMap {start : Nat} {convoys : List Convoy}
    (numbered : Numbered start convoys) {tell : Convoy → List Event}
    (tells : ∀ convoy ∈ convoys, ∀ event ∈ tell convoy, ∃ handed, event.convoy? = some handed ∧
      handed.id = convoy.id) {convoy : Convoy} (convoy_mem : convoy ∈ convoys) :
    Event.about convoy.id (convoys.flatMap tell) = tell convoy := by
  induction convoys generalizing start with
  | nil => contradiction
  | cons first rest ih =>
    obtain ⟨first_place, rest_numbered⟩ := numbered_cons.mp numbered
    have rest_tells : ∀ other ∈ rest, ∀ event ∈ tell other, ∃ handed,
        event.convoy? = some handed ∧ handed.id = other.id :=
      fun other other_mem => tells other (List.mem_cons_of_mem first other_mem)
    rw [List.flatMap_cons, Event.about_append]
    rcases List.mem_cons.mp convoy_mem with rfl | inside
    · rw [Event.about_eq_self (tells convoy List.mem_cons_self), Event.about_eq_nil,
        List.append_nil]
      intro event event_mem handed handed_eq same
      obtain ⟨other, other_mem, event_told⟩ := List.mem_flatMap.mp event_mem
      obtain ⟨told, told_eq, told_id⟩ := rest_tells other other_mem event event_told
      obtain rfl := Option.some.inj (handed_eq.symm.trans told_eq)
      have behind := rest_numbered.le_of_mem other_mem
      rw [← told_id, same] at behind
      omega
    · rw [ih rest_numbered rest_tells inside, Event.about_eq_nil, List.nil_append]
      intro event event_told handed handed_eq same
      obtain ⟨told, told_eq, told_id⟩ := tells first List.mem_cons_self event event_told
      obtain rfl := Option.some.inj (handed_eq.symm.trans told_eq)
      have behind := rest_numbered.le_of_mem inside
      rw [← same, told_id] at behind
      omega

end Fleet

namespace Progress

/-- What is told in some ticks of a run, after so many others. -/
def told (fleet : Fleet) (first count : Nat) : List Event :=
  (ticks (first + count) (.start fleet)).events.toList.drop
    (ticks first (.start fleet)).events.toList.length

/-- The sections that a convoy is told to have entered in some ticks. -/
def entriesOf (fleet : Fleet) (id : ConvoyId) (first count : Nat) : List (Section × Nat) :=
  Event.entries (Event.about id (told fleet first count))

/-- The convoy with a number after so many ticks of a run. -/
def convoyAfter (fleet : Fleet) (count : Nat) (id : ConvoyId) : Option Convoy :=
  (ticks count (.start fleet)).fleet.convoy? id

section Runs

variable {settings : RunSettings} {route : Route} {plans : List DeparturePlan} {dwell : UInt64}
  {fleet : Fleet}

/-- One more tick adds to what was told. -/
theorem events_tick {progress : Progress}
    (coherent : progress.All (Convoy.Coherent progress.fleet.settings.world)) :
    progress.tick.events.toList = progress.events.toList ++
      (.tickStart progress.fleet.clock.now ::
        ({ progress.fleet with convoys := progress.nextConvoys }.tickEvents
          progress.fleet.clock.now progress.nextReports)) := by
  rw [tick_eq coherent]
  simp [Array.appendList_eq_append]

theorem events_kept (built : Fleet.Built settings route dwell fleet) (first count : Nat) :
    (ticks first (.start fleet)).events.toList <+:
      (ticks (first + count) (.start fleet)).events.toList := by
  induction count with
  | zero => exact List.prefix_rfl
  | succ count ih =>
    rw [← Nat.add_assoc, ticks_succ, events_tick (built.reached_coherent _)]
    exact ih.trans (List.prefix_append _ _)

theorem told_one (built : Fleet.Built settings route dwell fleet) (count : Nat) :
    told fleet count 1 =
      .tickStart (ticks count (.start fleet)).fleet.clock.now ::
        ({ (ticks count (.start fleet)).fleet with
            convoys := (ticks count (.start fleet)).nextConvoys }.tickEvents
          (ticks count (.start fleet)).fleet.clock.now
          (ticks count (.start fleet)).nextReports) := by
  rw [told, ticks_succ, events_tick (built.reached_coherent _), List.drop_left]

theorem told_zero (fleet : Fleet) (first : Nat) : told fleet first 0 = [] := by
  rw [told, Nat.add_zero, List.drop_length]

/-- What is told in some ticks and one more. -/
theorem told_succ (built : Fleet.Built settings route dwell fleet) (first count : Nat) :
    told fleet first (count + 1) = told fleet first count ++ told fleet (first + count) 1 := by
  have before := (events_kept built first count).length_le
  obtain ⟨rest, rest_eq⟩ := events_kept built (first + count) 1
  rw [told, told, told, ← Nat.add_assoc, ← rest_eq, List.drop_append_of_le_length before,
    List.drop_left]

theorem ticks_numbered (accepted : Fleet.build settings route plans dwell = .ok fleet)
    (count : Nat) : Fleet.Numbered 0 (ticks count (.start fleet)).fleet.convoys := by
  have built := Fleet.built_of_build accepted
  induction count with
  | zero =>
    obtain ⟨-, convoys, placed, rfl⟩ := Fleet.build_cases accepted
    exact Fleet.numbered_placeAll placed
  | succ count ih =>
    have coherent := built.reached_coherent count
    rw [ticks_succ, tick_eq coherent]
    intro place after after_eq
    simp only [nextConvoys, List.getElem?_map] at after_eq
    obtain ⟨before, before_eq, rfl⟩ := Option.map_eq_some_iff.mp after_eq
    have before_coherent := coherent.convoys before (List.mem_of_getElem? before_eq)
    rw [before_coherent.id_afterTick]
    exact ih place before before_eq

variable {count : Nat} {id : ConvoyId} {before : Convoy}

/-- The convoy that is found by a number has it. -/
theorem id_of_convoyAfter (accepted : Fleet.build settings route plans dwell = .ok fleet)
    (before_eq : convoyAfter fleet count id = some before) : before.id = id := by
  have place_eq := ticks_numbered accepted count id.place before before_eq
  rw [Nat.zero_add] at place_eq
  cases id
  cases before_id : before.id
  rw [before_id] at place_eq
  exact congrArg ConvoyId.mk (UInt32.toNat_inj.mp place_eq)

theorem convoyAfter_of_mem (accepted : Fleet.build settings route plans dwell = .ok fleet)
    (before_mem : before ∈ (ticks count (.start fleet)).fleet.convoys) :
    convoyAfter fleet count before.id = some before := by
  obtain ⟨place, before_eq⟩ := List.mem_iff_getElem?.mp before_mem
  have place_eq := ticks_numbered accepted count place before before_eq
  rw [Nat.zero_add] at place_eq
  rw [convoyAfter, Fleet.convoy?, place_eq]
  exact before_eq

theorem convoyAfter_steady (built : Fleet.Built settings route dwell fleet)
    (before_eq : convoyAfter fleet count id = some before) :
    before.Steady route settings :=
  (built.ticks_steady count).2.convoys before (List.mem_of_getElem? before_eq)

/-- The convoy with a number after one more tick. -/
theorem convoyAfter_succ (built : Fleet.Built settings route dwell fleet)
    (before_eq : convoyAfter fleet count id = some before) :
    convoyAfter fleet (count + 1) id =
      some (before.afterTick route settings dwell
        (ticks count (.start fleet)).fleet.clock.now) := by
  obtain ⟨same, -⟩ := built.ticks_coherent count
  have before_eq : (ticks count (.start fleet)).fleet.convoys[id.place]? = some before := before_eq
  rw [convoyAfter, ticks_succ, tick_eq (built.reached_coherent count)]
  simp only [Fleet.convoy?, nextConvoys, List.getElem?_map, before_eq, Option.map_some,
    same.settings, same.route, same.dwell]
  change some (before.afterTick fleet.route fleet.settings fleet.dwell _) = _
  rw [built.route_eq, built.settings_eq, built.dwell_eq]

/-- What a tick tells of the convoys, each as it is after the tick. -/
theorem told_one_eq (built : Fleet.Built settings route dwell fleet) (count : Nat) :
    let now := (ticks count (.start fleet)).fleet.clock.now
    ∃ ends, told fleet count 1 =
        .tickStart now :: ((ticks count (.start fleet)).fleet.convoys.flatMap fun convoy =>
          Fleet.convoyEvents route now (convoy.afterTick route settings dwell now)
            (convoy.tickReport route settings dwell now)) ++ ends ∧
      ∀ event ∈ ends, event.convoy? = none := by
  intro now
  obtain ⟨same, -⟩ := built.ticks_coherent count
  have settings_eq : (ticks count (.start fleet)).fleet.settings = settings :=
    same.settings.trans built.settings_eq
  have route_eq : (ticks count (.start fleet)).fleet.route = route :=
    same.route.trans built.route_eq
  have dwell_eq : (ticks count (.start fleet)).fleet.dwell = dwell :=
    same.dwell.trans built.dwell_eq
  rw [told_one built]
  unfold Fleet.tickEvents nextConvoys nextReports
  rw [List.zip_map', List.flatMap_map]
  simp only [settings_eq, route_eq, dwell_eq]
  refine ⟨_, rfl, fun event event_mem => ?_⟩
  rcases List.mem_cons.mp event_mem with rfl | traced
  · rfl
  · split at traced
    · rw [List.mem_singleton.mp traced]
      rfl
    · exact absurd traced List.not_mem_nil

/-- What a tick tells of a convoy is what its report says. -/
theorem about_told (accepted : Fleet.build settings route plans dwell = .ok fleet)
    (before_eq : convoyAfter fleet count id = some before) :
    let now := (ticks count (.start fleet)).fleet.clock.now
    Event.about id (told fleet count 1) =
      Fleet.convoyEvents route now (before.afterTick route settings dwell now)
        (before.tickReport route settings dwell now) := by
  intro now
  have built := Fleet.built_of_build accepted
  obtain rfl := id_of_convoyAfter accepted before_eq
  obtain ⟨ends, told_eq, ends_silent⟩ := told_one_eq built count
  rw [told_eq, List.cons_append, ← List.singleton_append, Event.about_append, Event.about_append,
    Event.about_eq_nil (by simp [Event.convoy?]), List.nil_append,
    (ticks_numbered accepted count).about_flatMap _ (List.mem_of_getElem? before_eq),
    Event.about_eq_nil, List.append_nil]
  · intro event event_mem convoy convoy_eq
    rw [ends_silent event event_mem] at convoy_eq
    contradiction
  · intro convoy convoy_mem event event_told
    have steady := convoyAfter_steady built (convoyAfter_of_mem accepted convoy_mem)
    exact ⟨_, Fleet.convoy?_of_mem_convoyEvents event_told, steady.coherent.id_afterTick _ _⟩

/-- Whatever a tick tells of a convoy is about one of the fleet, handed on as it is after the
tick. -/
theorem handed_of_told (accepted : Fleet.build settings route plans dwell = .ok fleet)
    {event : Event} {handed : Convoy} (event_told : event ∈ told fleet count 1)
    (handed_eq : event.convoy? = some handed) :
    let now := (ticks count (.start fleet)).fleet.clock.now
    ∃ before, convoyAfter fleet count handed.id = some before ∧
      handed = before.afterTick route settings dwell now ∧
      event ∈ Fleet.convoyEvents route now handed (before.tickReport route settings dwell now) := by
  intro now
  have built := Fleet.built_of_build accepted
  obtain ⟨ends, told_eq, ends_silent⟩ := told_one_eq built count
  rw [told_eq, List.cons_append, List.mem_cons, List.mem_append, List.mem_flatMap] at event_told
  rcases event_told with rfl | ⟨before, before_mem, event_mem⟩ | event_mem
  · contradiction
  · have same := Fleet.convoy?_of_mem_convoyEvents event_mem
    obtain rfl := Option.some.inj (handed_eq.symm.trans same)
    have before_eq := convoyAfter_of_mem accepted before_mem
    have coherent := (convoyAfter_steady built before_eq).coherent
    refine ⟨before, ?_, rfl, event_mem⟩
    rw [coherent.id_afterTick]
    exact before_eq
  · rw [ends_silent event event_mem] at handed_eq
    contradiction

end Runs

/-- Ticks four times as long as usual. -/
def longTicks : RunSettings := { engineTicks := 256 }

/-- The convoy of a plan alone on a route, in long ticks. -/
def alone (plan : DeparturePlan) (route : Route) : Fleet :=
  { settings := longTicks, clock := longTicks.clock, route
    convoys := [plan.place ⟨0⟩ route], dwell := 2 }

end Progress

end Haulage
