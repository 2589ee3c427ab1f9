import Haulage.Proofs.Crossings
import Haulage.Proofs.PlanAndRun
import Haulage.Proofs.SpeedLimits

/-!
# The timetable

A convoy waits for its tick, departs, runs until it arrives at the other end, swaps its load there,
turns round and waits again.  So whatever is told of it alternates, and how often it departed and
arrived tells where it is bound for and what it carries.
-/

namespace Haulage

namespace Tick

/-- The tick after so many others; the counter wraps after 2⁶⁴ ticks. -/
def nth (count : Nat) : Tick := ⟨.ofNat count⟩

/-- The tick in which a convoy departs that arrived in another one: when its stop is over, but no
earlier than in the next tick. -/
def due (arrival : Tick) (dwell : UInt64) : Tick := arrival.after (max dwell 1)

theorem toNat_nth (count : Nat) : (nth count).number.toNat = count % 18446744073709551616 :=
  UInt64.toNat_ofNat'

theorem nth_succ (count : Nat) : nth (count + 1) = ⟨(nth count).number + 1⟩ :=
  congrArg Tick.mk (UInt64.ofNat_add count 1)

theorem lt_iff {first second : Tick} : first < second ↔ first.number.toNat < second.number.toNat :=
  UInt64.lt_iff_toNat_lt

theorem eq_iff {first second : Tick} :
    first = second ↔ first.number.toNat = second.number.toNat := by
  cases first
  cases second
  rw [Tick.mk.injEq]
  exact UInt64.toNat_inj.symm

theorem toNat_after (tick : Tick) (count : UInt64) :
    (tick.after count).number.toNat =
      min (tick.number.toNat + count.toNat) 18446744073709551615 := by
  unfold after
  by_cases fits : tick.number.toNat + count.toNat < UInt64.size
  · rw [UInt64.toNat_ofNatClamp_of_lt fits]
    have : tick.number.toNat + count.toNat < 18446744073709551616 := fits
    omega
  · rw [UInt64.toNat_ofNatClamp_of_le (Nat.le_of_not_lt fits)]
    have : ¬ tick.number.toNat + count.toNat < 18446744073709551616 := fits
    change 18446744073709551615 = _
    omega

theorem toNat_due (arrival : Tick) (dwell : UInt64) :
    (arrival.due dwell).number.toNat =
      min (arrival.number.toNat + max dwell.toNat 1) 18446744073709551615 := by
  have longest : (max dwell 1).toNat = max dwell.toNat 1 := by
    rw [UInt64.max_def]
    split
    · next short =>
      have : dwell.toNat ≤ 1 := UInt64.le_iff_toNat_le.mp short
      exact (max_eq_right this).symm
    · next long =>
      have : ¬ dwell.toNat ≤ 1 := fun short => long (UInt64.le_iff_toNat_le.mpr short)
      omega
  rw [due, toNat_after, longest]

/-- In the ticks after an arrival the stop is over for the first time when the tick that is due has
come. -/
theorem not_lt_after_iff {first later : Nat} (dwell : UInt64) (ends : first < later)
    (not_due : ∀ between, first < between → between < later →
      nth between ≠ (nth first).due dwell) :
    ¬ nth later < (nth first).after dwell ↔ nth later = (nth first).due dwell := by
  have due_eq := (nth first).toNat_due dwell
  have stop_eq := (nth first).toNat_after dwell
  have number_eq := toNat_nth first
  -- The due tick comes after so many others, unless the arrival was in the last tick there is.
  have late : ((nth first).due dwell).number.toNat ≤ (nth first).number.toNat ∨
      later - first ≤ ((nth first).due dwell).number.toNat - (nth first).number.toNat := by
    by_contra none
    push Not at none
    refine not_due (first + (((nth first).due dwell).number.toNat - (nth first).number.toNat))
      (by omega) (by omega) ?_
    rw [eq_iff, toNat_nth]
    omega
  rw [lt_iff, eq_iff, toNat_nth later]
  omega

end Tick

namespace Train

variable {first second train : Train} {vehicles : List Vehicle}

theorem payload_fill_ofVehicles (vehicles : List Vehicle) :
    (ofVehicles vehicles).fill.payload = (vehicles.map Vehicle.fullLoad).sum := by
  rw [payload_fill, ofVehicles, List.map_map]
  rfl

theorem payload_setWay (context : WayContext) (train : Train) :
    (train.setWay context).payload = train.payload := by
  rw [payload_eq_sum, payload_eq_sum, setWay, List.map_map]
  rfl

theorem payload_clear (train : Train) : train.clear.payload = 0 := by
  rw [payload_eq_sum, clear, List.map_map]
  simp [Function.comp_def, Car.clear]

theorem Alike.payload_eq (alike : first.Alike second) : first.payload = second.payload := by
  rw [← payload_setWay default, alike, payload_setWay]

theorem Alike.fill (alike : first.Alike second) : first.fill.Alike second.fill := by
  unfold Alike
  rw [setWay_fill, alike, ← setWay_fill]

theorem alike_setWay (context : WayContext) (train : Train) :
    (train.setWay context).Alike train :=
  setWay_setWay train context default

theorem payload_ofVehicles (vehicles : List Vehicle) : (ofVehicles vehicles).payload = 0 := by
  rw [← clear_ofVehicles, payload_clear]

/-- The load that a convoy takes on or leaves at a route end. -/
def swap (train : Train) : Train := if train.isLoaded then train.clear else train.fill

theorem LoadedAs.of_alike (loaded : second.LoadedAs vehicles) (alike : first.Alike second) :
    first.LoadedAs vehicles := by
  rcases loaded with empty | full
  · exact .inl (alike.trans empty)
  · exact .inr (alike.trans full)

theorem LoadedAs.swap (loaded : train.LoadedAs vehicles) : train.swap.LoadedAs vehicles := by
  unfold Train.swap
  split
  · exact loaded.clear
  · exact loaded.fill

/-- A full train is emptied and an empty one filled. -/
theorem LoadedAs.payload_swap (loaded : train.LoadedAs vehicles) {full : Bool}
    (payload_eq : train.payload = if full then (ofVehicles vehicles).fill.payload else 0) :
    train.swap.payload = if !full then (ofVehicles vehicles).fill.payload else 0 := by
  have filled : train.fill.payload = (ofVehicles vehicles).fill.payload := by
    rcases loaded with empty | full
    · exact empty.fill.payload_eq
    · rw [full.fill.payload_eq, fill_fill]
  by_cases carries : 0 < train.payload
  · have swap_eq : train.swap = train.clear := if_pos (decide_eq_true carries)
    cases full with
    | true =>
      rw [swap_eq, payload_clear]
      rfl
    | false => simp [payload_eq] at carries
  · have swap_eq : train.swap = train.fill := if_neg (mt of_decide_eq_true carries)
    cases full with
    | true =>
      rw [if_pos rfl] at payload_eq
      simp only [swap_eq, filled, Bool.not_true, Bool.false_eq_true, if_false]
      omega
    | false =>
      rw [swap_eq, filled]
      rfl

end Train

namespace Event

/-- Whether an event is a departure, if it is a departure or an arrival. -/
def call? : Event → Option Bool
  | departure _ _ => some true
  | arrival _ _ => some false
  | _ => none

/-- The departures and arrivals that events tell of, in their order: for each of them whether it is
a departure. -/
def calls (events : List Event) : List Bool := events.filterMap call?

theorem calls_append (first second : List Event) :
    calls (first ++ second) = calls first ++ calls second :=
  List.filterMap_append

end Event

theorem Fleet.calls_convoyEvents (route : Route) (now : Tick) (convoy : Convoy)
    (report : StepReport) :
    Event.calls (Fleet.convoyEvents route now convoy report) =
      (if report.departed then [true] else []) ++ (if report.arrived then [false] else []) := by
  unfold Fleet.convoyEvents
  simp only [Event.calls_append]
  cases report.departed <;> cases report.entered.bind route.get? <;> cases report.stalled <;>
    cases report.arrived <;> rfl

namespace Convoy

variable {convoy before after : Convoy} {route : Route} {settings : RunSettings} {dwell : UInt64}
  {now : Tick} {report : StepReport}

/-- A tick that leaves a convoy on its way. -/
structure RunsOn (before after : Convoy) (report : StepReport) : Prop where
  /-- It is not reported to have arrived. -/
  arrived_eq : report.arrived = false
  /-- It runs. -/
  running : after.isRunning = true
  /-- It keeps its direction. -/
  direction_eq : after.direction = before.direction
  /-- It has completed no trip. -/
  trips_eq : after.trips = before.trips
  /-- It carries what it carried. -/
  alike : after.train.Alike before.train

/-- A tick in which a convoy arrives. -/
structure TurnsRound (before after : Convoy) (report : StepReport) (deadline : Tick) : Prop where
  /-- It is reported to have arrived. -/
  arrived_eq : report.arrived = true
  /-- It waits. -/
  phase_eq : after.phase = .waiting deadline
  /-- It stands. -/
  motion_eq : after.motion = {}
  /-- It will run back. -/
  direction_eq : after.direction = before.direction.reversed
  /-- It has completed a trip. -/
  trips_eq : after.trips = before.trips + 1
  /-- It has swapped its load. -/
  alike : after.train.Alike before.train.swap

theorem alike_enter (convoy : Convoy) (stretch : SectionId) :
    (convoy.enter route stretch).train.Alike convoy.train := by
  unfold enter
  simp only
  split
  · exact Train.alike_setWay _ _
  · rfl

/-- A running convoy that has moved is still on its way, or it turns round. -/
theorem settle_turns (runs : convoy.isRunning = true) (canRestart departed : Bool) :
    convoy.RunsOn (convoy.settle route dwell now canRestart { departed }).1
        (convoy.settle route dwell now canRestart { departed }).2 ∨
      convoy.TurnsRound (convoy.settle route dwell now canRestart { departed }).1
        (convoy.settle route dwell now canRestart { departed }).2 (now.after dwell) := by
  rcases convoy.settle_cases route dwell now canRestart { departed } with
    ⟨-, settled_eq, arrived⟩ | ⟨-, arrived, ⟨-, settled_eq⟩ | settled_eq⟩
  · rw [settled_eq]
    exact .inr ⟨arrived, rfl, rfl, rfl, rfl, alike_enter (convoy.stepped route).turned _⟩
  · rw [settled_eq]
    exact .inl ⟨arrived, runs, rfl, rfl, rfl⟩
  · rw [settled_eq]
    exact .inl ⟨arrived, runs, rfl, rfl, alike_enter (convoy.stepped route) _⟩

/-- Whether the tick has come in which a convoy may move. -/
def MayMove (convoy : Convoy) (now : Tick) : Prop :=
  ∀ deadline, convoy.phase = .waiting deadline → ¬ now < deadline

/-- Before its tick has come nothing happens to a convoy. -/
theorem tick_of_early {deadline : Tick} (phase_eq : convoy.phase = .waiting deadline)
    (early : now < deadline) :
    convoy.afterTick route settings dwell now = convoy ∧
      convoy.tickReport route settings dwell now = {} := by
  simp only [afterTick, tickReport, step, phase_eq, if_pos early, and_self]

/-- When its tick has come a convoy departs unless it runs, and it stays on its way or turns
round. -/
theorem Coherent.tick_of_mayMove (coherent : convoy.Coherent settings.world) (route : Route)
    (dwell : UInt64) (mayMove : convoy.MayMove now) :
    (convoy.tickReport route settings dwell now).departed = !convoy.isRunning ∧
      (convoy.RunsOn (convoy.afterTick route settings dwell now)
          (convoy.tickReport route settings dwell now) ∨
        convoy.TurnsRound (convoy.afterTick route settings dwell now)
          (convoy.tickReport route settings dwell now) (now.after dwell)) := by
  unfold Convoy.afterTick tickReport
  rcases coherent.step_cases route dwell now with
    ⟨deadline, phase_eq, early, -⟩ | ⟨live, kept, -, -, step_eq⟩
  · exact absurd early (mayMove deadline phase_eq)
  · rw [step_eq]
    refine ⟨by rw [freshStep, settle_report], ?_⟩
    have runs : (convoy.forget.underway (convoy.driven live route settings).2).isRunning = true :=
      rfl
    rcases settle_turns runs (convoy.driven live route settings).1 (!convoy.isRunning) with
      runs_on | turns
    · exact .inl ⟨runs_on.arrived_eq, runs_on.running, runs_on.direction_eq, runs_on.trips_eq,
        runs_on.alike⟩
    · exact .inr ⟨turns.arrived_eq, turns.phase_eq, turns.motion_eq, turns.direction_eq,
        turns.trips_eq, turns.alike⟩

end Convoy

namespace DeparturePlan

/-- Every plan of an accepted fleet is placed where it stands among the plans. -/
theorem getElem?_placeAll {route : Route} {start place : Nat} {plans : List DeparturePlan}
    {convoys : List Convoy} {plan : DeparturePlan}
    (placed : placeAll route start plans = .ok convoys) (planned : plans[place]? = some plan) :
    ∃ id, convoys[place]? = some (plan.place id route) := by
  induction plans generalizing start place convoys with
  | nil => simp at planned
  | cons first plans ih =>
    obtain ⟨id, rest, -, -, rest_eq, rfl⟩ := placeAll_cons placed
    cases place with
    | zero =>
      obtain rfl := Option.some.inj planned
      exact ⟨id, rfl⟩
    | succ place =>
      have found : ∃ id, rest[place]? = some (plan.place id route) := ih rest_eq planned
      exact found

theorem payload_place (plan : DeparturePlan) (id : ConvoyId) (route : Route) :
    (plan.place id route).train.payload =
      if plan.loaded then (Train.ofVehicles plan.vehicles).fill.payload else 0 := by
  have alike : (plan.place id route).train.Alike
      (if plan.loaded then (Train.ofVehicles plan.vehicles).fill
        else Train.ofVehicles plan.vehicles) := Convoy.alike_enter _ _
  rw [alike.payload_eq]
  split
  · rfl
  · exact Train.payload_ofVehicles _

end DeparturePlan

namespace Progress

section Runs

variable {settings : RunSettings} {route : Route} {plans : List DeparturePlan} {dwell : UInt64}
  {fleet : Fleet} {id : ConvoyId} {plan : DeparturePlan} {count trips : Nat} {here : Convoy}

theorem convoyAfter_zero (accepted : Fleet.build settings route plans dwell = .ok fleet)
    (planned : plans[id.place]? = some plan) :
    convoyAfter fleet 0 id = some (plan.place id route) := by
  obtain ⟨-, convoys, placed, fleet_eq⟩ := Fleet.build_cases accepted
  obtain ⟨other, found⟩ := DeparturePlan.getElem?_placeAll placed planned
  have here_eq : convoyAfter fleet 0 id = some (plan.place other route) := by
    rw [fleet_eq]
    exact found
  have other_eq : other = id := id_of_convoyAfter accepted here_eq
  rw [here_eq, other_eq]

theorem now_ticks (accepted : Fleet.build settings route plans dwell = .ok fleet) (count : Nat) :
    (ticks count (.start fleet)).fleet.clock.now = .nth count := by
  induction count with
  | zero =>
    obtain ⟨-, convoys, -, rfl⟩ := Fleet.build_cases accepted
    rfl
  | succ count ih =>
    rw [ticks_succ, tick_eq ((Fleet.built_of_build accepted).reached_coherent count),
      Tick.nth_succ, ← ih]
    rfl

/-- A convoy is told to depart in a tick of a run. -/
def DepartsIn (fleet : Fleet) (id : ConvoyId) (count : Nat) : Prop :=
  ∃ event ∈ Event.about id (told fleet count 1), event.isDeparture = true

/-- A convoy is told to arrive in a tick of a run. -/
def ArrivesIn (fleet : Fleet) (id : ConvoyId) (count : Nat) : Prop :=
  ∃ event ∈ Event.about id (told fleet count 1), event.isArrival = true

theorem about_told_nth (accepted : Fleet.build settings route plans dwell = .ok fleet)
    (here_eq : convoyAfter fleet count id = some here) :
    Event.about id (told fleet count 1) =
      Fleet.convoyEvents route (.nth count) (here.afterTick route settings dwell (.nth count))
        (here.tickReport route settings dwell (.nth count)) := by
  rw [← now_ticks accepted]
  exact about_told accepted here_eq

theorem convoyAfter_succ_nth (accepted : Fleet.build settings route plans dwell = .ok fleet)
    (here_eq : convoyAfter fleet count id = some here) :
    convoyAfter fleet (count + 1) id = some (here.afterTick route settings dwell (.nth count)) := by
  rw [← now_ticks accepted]
  exact convoyAfter_succ (Fleet.built_of_build accepted) here_eq

/-- A waiting convoy departs just when its tick has come. -/
theorem departsIn_iff (accepted : Fleet.build settings route plans dwell = .ok fleet)
    (here_eq : convoyAfter fleet count id = some here) {deadline : Tick}
    (phase_eq : here.phase = .waiting deadline) :
    DepartsIn fleet id count ↔ ¬ Tick.nth count < deadline := by
  have coherent := (convoyAfter_steady (Fleet.built_of_build accepted) here_eq).coherent
  unfold DepartsIn
  rw [about_told_nth accepted here_eq]
  constructor
  · rintro ⟨event, told, departure⟩ early
    have departed := Fleet.departed_of_mem told departure
    rw [(Convoy.tick_of_early phase_eq early).2] at departed
    contradiction
  · intro come
    have mayMove : here.MayMove (.nth count) := by
      intro other other_eq
      obtain rfl := Phase.waiting.inj (phase_eq.symm.trans other_eq)
      exact come
    have departed := (coherent.tick_of_mayMove route dwell mayMove).1
    have waits : here.isRunning = false := by simp [Convoy.isRunning, phase_eq]
    rw [waits] at departed
    exact ⟨_, Fleet.mem_convoyEvents.mpr (.inl ⟨departed, rfl⟩), rfl⟩

/-- Until its tick has come a waiting convoy does not change, and nothing is told of it. -/
theorem waits_on (accepted : Fleet.build settings route plans dwell = .ok fleet) {first : Nat}
    (here_eq : convoyAfter fleet first id = some here) {deadline : Tick}
    (phase_eq : here.phase = .waiting deadline) (gap : Nat)
    (early : ∀ step < gap, Tick.nth (first + step) < deadline) :
    convoyAfter fleet (first + gap) id = some here ∧
      Event.about id (told fleet first gap) = [] := by
  induction gap with
  | zero => exact ⟨here_eq, by rw [told_zero]; rfl⟩
  | succ gap ih =>
    obtain ⟨reached, silent⟩ := ih fun step step_lt => early step (by omega)
    obtain ⟨after_eq, report_eq⟩ :
        here.afterTick route settings dwell (.nth (first + gap)) = here ∧
          here.tickReport route settings dwell (.nth (first + gap)) = {} :=
      Convoy.tick_of_early phase_eq (early gap (Nat.lt_succ_self gap))
    constructor
    · rw [← Nat.add_assoc, convoyAfter_succ_nth accepted reached, after_eq]
    · rw [told_succ (Fleet.built_of_build accepted), Event.about_append, silent,
        about_told_nth accepted reached, report_eq]
      rfl

/-- So many departures and arrivals in turn, a departure first. -/
def inTurn (turns : Nat) : List Bool := (List.range turns).map fun turn => turn % 2 == 0

theorem inTurn_succ (turns : Nat) : inTurn (turns + 1) = inTurn turns ++ [turns % 2 == 0] := by
  rw [inTurn, List.range_succ, List.map_append]
  rfl

theorem count_inTurn (turns : Nat) :
    (inTurn turns).count true = (turns + 1) / 2 ∧ (inTurn turns).count false = turns / 2 := by
  induction turns with
  | zero => exact ⟨rfl, rfl⟩
  | succ turns ih =>
    rw [inTurn_succ, List.count_append, List.count_append, ih.1, ih.2]
    rcases Nat.mod_two_eq_zero_or_one turns with even | odd
    · simp [even]
      omega
    · simp [odd]
      omega

/-- How a convoy is after so many ticks, in which it completed so many trips. -/
structure OnTime (fleet : Fleet) (plan : DeparturePlan) (id : ConvoyId) (count trips : Nat)
    (here : Convoy) : Prop where
  /-- It is where so many ticks have brought it. -/
  here_eq : convoyAfter fleet count id = some here
  /-- It departed and arrived once for every trip, in turn, and once more it departed if it runs. -/
  calls_eq : Event.calls (Event.about id (told fleet 0 count)) =
    inTurn (2 * trips + here.isRunning.toNat)
  /-- It counts its trips. -/
  trips_eq : here.trips = .ofNat trips
  /-- It turned round at the end of each. -/
  direction_eq : here.direction = if trips % 2 == 0 then .forward else .backward
  /-- It carries nothing or all it can. -/
  loaded : here.train.LoadedAs plan.vehicles
  /-- It swapped its load at the end of each trip. -/
  payload_eq : here.train.payload =
    if plan.loaded == (trips % 2 == 0) then (Train.ofVehicles plan.vehicles).fill.payload else 0

theorem onTime_start (accepted : Fleet.build settings route plans dwell = .ok fleet)
    (planned : plans[id.place]? = some plan) :
    OnTime fleet plan id 0 0 (plan.place id route) where
  here_eq := convoyAfter_zero accepted planned
  calls_eq := by
    rw [told_zero]
    rfl
  trips_eq := rfl
  direction_eq := rfl
  loaded := plan.loadedAs_place id route
  payload_eq := by
    rw [plan.payload_place id route]
    simp

/-- The departures and arrivals that are told in one more tick. -/
theorem calls_succ (accepted : Fleet.build settings route plans dwell = .ok fleet)
    (here_eq : convoyAfter fleet count id = some here) :
    Event.calls (Event.about id (told fleet 0 (count + 1))) =
      Event.calls (Event.about id (told fleet 0 count)) ++
        (if (here.tickReport route settings dwell (.nth count)).departed then [true] else []) ++
        (if (here.tickReport route settings dwell (.nth count)).arrived then [false] else []) := by
  rw [told_succ (Fleet.built_of_build accepted), Event.about_append, Event.calls_append,
    Nat.zero_add, about_told_nth accepted here_eq, Fleet.calls_convoyEvents, List.append_assoc]

/-- A convoy that may move has departed once more than it arrived. -/
theorem inTurn_departing (trips : Nat) (running : Bool) :
    inTurn (2 * trips + running.toNat) ++ (if !running then [true] else []) =
      inTurn (2 * trips + 1) := by
  cases running with
  | true => exact List.append_nil _
  | false =>
    rw [inTurn_succ]
    simp

theorem even_succ (trips : Nat) : ((trips + 1) % 2 == 0) = !(trips % 2 == 0) := by
  rcases Nat.mod_two_eq_zero_or_one trips with even | odd
  · simp [even, Nat.add_mod]
  · simp [odd, Nat.add_mod]

/-- A trip more turns the direction and swaps the load. -/
theorem OnTime.arrive (on_time : OnTime fleet plan id count trips here) {next : Convoy}
    {report : StepReport} {deadline : Tick} (turns : here.TurnsRound next report deadline)
    (next_eq : convoyAfter fleet (count + 1) id = some next)
    (calls_eq : Event.calls (Event.about id (told fleet 0 (count + 1))) =
      inTurn (2 * trips + 1) ++ (if report.arrived then [false] else [])) :
    OnTime fleet plan id (count + 1) (trips + 1) next where
  here_eq := next_eq
  calls_eq := by
    have waits : next.isRunning = false := by simp [Convoy.isRunning, turns.phase_eq]
    rw [calls_eq, turns.arrived_eq, waits, if_pos rfl]
    change _ = inTurn (2 * trips + 1 + 1)
    rw [inTurn_succ (2 * trips + 1)]
    simp [Nat.add_mod]
  trips_eq := by
    rw [turns.trips_eq, on_time.trips_eq]
    exact (UInt32.ofNat_add trips 1).symm
  direction_eq := by
    rw [turns.direction_eq, on_time.direction_eq, even_succ]
    cases trips % 2 == 0 <;> rfl
  loaded := on_time.loaded.swap.of_alike turns.alike
  payload_eq := by
    rw [turns.alike.payload_eq, on_time.loaded.payload_swap on_time.payload_eq, even_succ]
    cases plan.loaded <;> cases trips % 2 == 0 <;> rfl

/-- One more tick leaves a convoy on time. -/
theorem OnTime.tick (accepted : Fleet.build settings route plans dwell = .ok fleet)
    (on_time : OnTime fleet plan id count trips here) :
    ∃ trips next, OnTime fleet plan id (count + 1) trips next := by
  have built := Fleet.built_of_build accepted
  have coherent := (convoyAfter_steady built on_time.here_eq).coherent
  by_cases mayMove : here.MayMove (.nth count)
  · obtain ⟨departed, moved⟩ := coherent.tick_of_mayMove route dwell mayMove
    have next_eq := convoyAfter_succ_nth accepted on_time.here_eq
    have calls_eq := calls_succ accepted on_time.here_eq
    rw [on_time.calls_eq, departed, inTurn_departing] at calls_eq
    rcases moved with runs_on | turns
    · refine ⟨trips, _, next_eq, ?_, ?_, ?_, ?_, ?_⟩
      · rw [calls_eq, runs_on.arrived_eq, runs_on.running, if_neg Bool.false_ne_true,
          List.append_nil]
        rfl
      · rw [runs_on.trips_eq, on_time.trips_eq]
      · rw [runs_on.direction_eq, on_time.direction_eq]
      · exact on_time.loaded.of_alike runs_on.alike
      · rw [runs_on.alike.payload_eq, on_time.payload_eq]
    · exact ⟨trips + 1, _, on_time.arrive turns next_eq calls_eq⟩
  · unfold Convoy.MayMove at mayMove
    push Not at mayMove
    obtain ⟨deadline, phase_eq, early⟩ := mayMove
    obtain ⟨stays, silent⟩ := waits_on accepted on_time.here_eq phase_eq 1 (by simpa using early)
    refine ⟨trips, here, stays, ?_, on_time.trips_eq, on_time.direction_eq, on_time.loaded,
      on_time.payload_eq⟩
    rw [told_succ built, Event.about_append, Nat.zero_add, silent, List.append_nil,
      on_time.calls_eq]

/-- All ticks of a run leave a convoy on time. -/
theorem onTime (accepted : Fleet.build settings route plans dwell = .ok fleet)
    (planned : plans[id.place]? = some plan) (count : Nat) :
    ∃ trips here, OnTime fleet plan id count trips here := by
  induction count with
  | zero => exact ⟨0, _, onTime_start accepted planned⟩
  | succ count ih =>
    obtain ⟨trips, here, on_time⟩ := ih
    exact on_time.tick accepted

/-- After an arrival a convoy stands, and its stop ends in the tick that is due. -/
theorem waits_of_arrivesIn (accepted : Fleet.build settings route plans dwell = .ok fleet)
    (arrives : ArrivesIn fleet id count) :
    ∃ next, convoyAfter fleet (count + 1) id = some next ∧ next.motion = {} ∧
      next.phase = .waiting ((Tick.nth count).after dwell) := by
  obtain ⟨event, told, arrival⟩ := arrives
  obtain ⟨event_told, handed, handed_eq, rfl⟩ := Event.mem_about.mp told
  obtain ⟨before, before_eq, -, -⟩ := handed_of_told accepted event_told handed_eq
  rw [about_told_nth accepted before_eq] at told
  have arrived := Fleet.arrived_of_mem told arrival
  have coherent := (convoyAfter_steady (Fleet.built_of_build accepted) before_eq).coherent
  refine ⟨_, convoyAfter_succ_nth accepted before_eq, ?_⟩
  by_cases mayMove : before.MayMove (.nth count)
  · rcases (coherent.tick_of_mayMove route dwell mayMove).2 with runs_on | turns
    · exact absurd (arrived.symm.trans runs_on.arrived_eq) (by decide)
    · exact ⟨turns.motion_eq, turns.phase_eq⟩
  · unfold Convoy.MayMove at mayMove
    push Not at mayMove
    obtain ⟨deadline, phase_eq, early⟩ := mayMove
    rw [(Convoy.tick_of_early phase_eq early).2] at arrived
    contradiction

/-- The timetable of a convoy, as it stands after so many ticks. -/
structure Timetable (fleet : Fleet) (plan : DeparturePlan) (id : ConvoyId) (count : Nat)
    (here : Convoy) : Prop where
  /-- The clock shows the count of the ticks. -/
  now_eq : (ticks count (.start fleet)).fleet.clock.now = .nth count
  /-- Until the tick of its plan it is as it was placed, and nothing is told of it. -/
  waits : count ≤ plan.depart.number.toNat →
    here = plan.place id fleet.route ∧ Event.about id (told fleet 0 count) = []
  /-- In that tick it departs. -/
  punctual : count = plan.depart.number.toNat → DepartsIn fleet id count
  /-- Departures and arrivals alternate, a departure first. -/
  alternates : ∀ (place : Nat) (departs : Bool),
    (Event.calls (Event.about id (told fleet 0 count)))[place]? = some departs →
      departs = (place % 2 == 0)
  /-- It has departed as often as it arrived, or once more if it runs. -/
  departures_eq : (Event.calls (Event.about id (told fleet 0 count))).count true =
    (Event.calls (Event.about id (told fleet 0 count))).count false +
      if here.isRunning then 1 else 0
  /-- It counts its arrivals as trips, as long as their count fits. -/
  trips_eq : (Event.calls (Event.about id (told fleet 0 count))).count false < 4294967296 →
    here.trips.toNat = (Event.calls (Event.about id (told fleet 0 count))).count false
  /-- It runs forward, or will, after an even count of trips. -/
  forward_iff : here.direction = .forward ↔ here.trips.toNat % 2 = 0
  /-- After an even count of trips it is loaded as planned, else the other way: with all that its
  vehicles can carry or not at all. -/
  payload_eq : here.train.payload =
    if plan.loaded = true ↔ here.trips.toNat % 2 = 0 then
      (plan.vehicles.map Vehicle.fullLoad).sum
    else 0
  /-- After an arrival it stands unchanged, and nothing is told of it, until the tick that is due;
  in that tick it departs. -/
  stands : ∀ first < count, ArrivesIn fleet id first →
    (∀ between, first < between → between < count →
      Tick.nth between ≠ (Tick.nth first).due fleet.dwell) →
    here.motion = {} ∧ here.isRunning = false ∧ convoyAfter fleet (first + 1) id = some here ∧
      Event.about id (told fleet (first + 1) (count - (first + 1))) = [] ∧
      (DepartsIn fleet id count ↔ Tick.nth count = (Tick.nth first).due fleet.dwell)

theorem nth_lt_iff {deadline : Tick} {count : Nat} (within : count ≤ deadline.number.toNat) :
    Tick.nth count < deadline ↔ count < deadline.number.toNat := by
  have deadline_lt := deadline.number.toNat_lt
  rw [Tick.lt_iff, Tick.toNat_nth, Nat.mod_eq_of_lt (by omega)]

/-- Until the tick of its plan a convoy is as it was placed, and nothing is told of it. -/
theorem waits_for_depart (accepted : Fleet.build settings route plans dwell = .ok fleet)
    (planned : plans[id.place]? = some plan) (early : count ≤ plan.depart.number.toNat) :
    convoyAfter fleet count id = some (plan.place id route) ∧
      Event.about id (told fleet 0 count) = [] := by
  have stays := waits_on accepted (convoyAfter_zero accepted planned) rfl count
    fun step step_lt => by rw [Nat.zero_add, nth_lt_iff (by omega)]; omega
  rw [Nat.zero_add] at stays
  exact stays

theorem inTurn_getElem {turns place : Nat} {departs : Bool}
    (called : (inTurn turns)[place]? = some departs) : departs = (place % 2 == 0) := by
  rw [inTurn, List.getElem?_map, Option.map_eq_some_iff] at called
  obtain ⟨turn, turn_eq, rfl⟩ := called
  obtain ⟨inside, rfl⟩ := List.getElem?_eq_some_iff.mp turn_eq
  rw [List.getElem_range]

/-- After an arrival a convoy stands until the tick that is due, and departs in it. -/
theorem stands_until_due (accepted : Fleet.build settings route plans dwell = .ok fleet)
    {first : Nat} (arrives : ArrivesIn fleet id first) (behind : first < count)
    (not_due : ∀ between, first < between → between < count →
      Tick.nth between ≠ (Tick.nth first).due dwell) :
    ∃ here, convoyAfter fleet count id = some here ∧ here.motion = {} ∧ here.isRunning = false ∧
      convoyAfter fleet (first + 1) id = some here ∧
      Event.about id (told fleet (first + 1) (count - (first + 1))) = [] ∧
      (DepartsIn fleet id count ↔ Tick.nth count = (Tick.nth first).due dwell) := by
  obtain ⟨here, stopped_eq, motion_eq, phase_eq⟩ := waits_of_arrivesIn accepted arrives
  have early : ∀ step < count - (first + 1),
      Tick.nth (first + 1 + step) < (Tick.nth first).after dwell := by
    intro step step_lt
    by_contra come
    rw [Tick.not_lt_after_iff dwell (by omega) fun between later earlier =>
      not_due between later (by omega)] at come
    exact not_due _ (by omega) (by omega) come
  obtain ⟨reached, silent⟩ := waits_on accepted stopped_eq phase_eq _ early
  rw [Nat.add_sub_cancel' behind] at reached
  refine ⟨here, reached, motion_eq, ?_, stopped_eq, silent, ?_⟩
  · simp [Convoy.isRunning, phase_eq]
  · rw [departsIn_iff accepted reached phase_eq]
    exact Tick.not_lt_after_iff dwell behind not_due

/-- Every convoy of an accepted fleet keeps its timetable, however long the run is. -/
theorem timetable_kept (accepted : Fleet.build settings route plans dwell = .ok fleet)
    (planned : plans[id.place]? = some plan) (count : Nat) :
    ∃ here, convoyAfter fleet count id = some here ∧ Timetable fleet plan id count here := by
  have built := Fleet.built_of_build accepted
  obtain ⟨trips, here, on_time⟩ := onTime accepted planned count
  have here_eq := on_time.here_eq
  obtain ⟨departures_eq, arrivals_eq⟩ := count_inTurn (2 * trips + here.isRunning.toNat)
  rw [← on_time.calls_eq] at departures_eq arrivals_eq
  have running_le := here.isRunning.toNat_le
  have trips_mod : here.trips.toNat = trips % 4294967296 := by
    rw [on_time.trips_eq]
    exact UInt32.toNat_ofNat'
  have parity : here.trips.toNat % 2 = trips % 2 := by omega
  refine ⟨here, here_eq, ?_⟩
  constructor
  case now_eq => exact now_ticks accepted count
  case waits =>
    intro early
    obtain ⟨reached, silent⟩ := waits_for_depart accepted planned early
    rw [built.route_eq]
    exact ⟨Option.some.inj (here_eq.symm.trans reached), silent⟩
  case punctual =>
    intro count_eq
    obtain ⟨reached, -⟩ := waits_for_depart accepted planned count_eq.le
    rw [departsIn_iff accepted reached rfl, nth_lt_iff count_eq.le]
    exact count_eq.ge.not_gt
  case alternates =>
    intro place departs
    rw [on_time.calls_eq]
    exact inTurn_getElem
  case departures_eq =>
    rw [departures_eq, arrivals_eq]
    cases here.isRunning <;> simp <;> omega
  case trips_eq =>
    intro few
    rw [arrivals_eq] at few ⊢
    omega
  case forward_iff =>
    rw [on_time.direction_eq, parity]
    cases even : trips % 2 == 0 <;> simp_all
  case payload_eq =>
    rw [on_time.payload_eq, parity, Train.payload_fill_ofVehicles]
    cases plan.loaded <;> simp
  case stands =>
    intro first behind arrives not_due
    rw [built.dwell_eq] at not_due ⊢
    obtain ⟨stopped, reached, stands⟩ := stands_until_due accepted arrives behind not_due
    obtain rfl := Option.some.inj (here_eq.symm.trans reached)
    exact stands

end Runs

/-- The railcar with a wagon that starts full. -/
def freightPlan : DeparturePlan :=
  { railcarPlan with
    vehicles := railcarPlan.vehicles ++
      [{ name := "Wagon", way := .track, tonnes := 10, capacity := 20, freight := some ⟨100, 500⟩ }]
    loaded := true }

/-- The wagon starts with twenty units of 500 kg.  The train arrives in the second tick of its run,
where it is emptied, and departs again two ticks later. -/
theorem freight_timetable :
    Fleet.build longTicks steadyRoute [freightPlan] 2 = .ok (alone freightPlan steadyRoute) ∧
      (convoyAfter (alone freightPlan steadyRoute) 0 ⟨0⟩).map (·.train.payload) = some 10000 ∧
      ArrivesIn (alone freightPlan steadyRoute) ⟨0⟩ 1 ∧
      (convoyAfter (alone freightPlan steadyRoute) 3 ⟨0⟩).map (·.train.payload) = some 0 ∧
      DepartsIn (alone freightPlan steadyRoute) ⟨0⟩ 3 := by
  have accepted : Fleet.build longTicks steadyRoute [freightPlan] 2 =
      .ok (alone freightPlan steadyRoute) := rfl
  have arrives : ArrivesIn (alone freightPlan steadyRoute) ⟨0⟩ 1 := by
    unfold ArrivesIn
    decide +kernel
  have trips_eq : (convoyAfter (alone freightPlan steadyRoute) 3 ⟨0⟩).map Convoy.trips =
      some 1 := by decide +kernel
  have planned : [freightPlan][(⟨0⟩ : ConvoyId).place]? = some freightPlan := rfl
  obtain ⟨start, start_eq, kept_first⟩ := timetable_kept accepted planned 0
  obtain ⟨here, here_eq, kept⟩ := timetable_kept accepted planned 3
  refine ⟨accepted, ?_, arrives, ?_, ?_⟩
  · rw [start_eq, Option.map_some, kept_first.payload_eq, (kept_first.waits (by decide)).1]
    decide
  · rw [here_eq, Option.map_some, Option.some.injEq] at trips_eq
    rw [here_eq, Option.map_some, kept.payload_eq, trips_eq]
    decide
  · have stands := kept.stands 1 (by omega) arrives fun between later earlier => by
      obtain rfl : between = 2 := by omega
      decide
    exact stands.2.2.2.2.mpr (by decide)

end Progress

end Haulage
