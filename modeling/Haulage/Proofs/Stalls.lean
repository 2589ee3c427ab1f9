import Haulage.Proofs.Chronicle

/-!
# What a stall tells

A convoy is told to have stalled in the tick in which it comes to stand without a speed that it
could hold on the section where the tick found it.  If the tick has just brought it onto another
section, it may well run on there.
-/

namespace Haulage

open Fixed

namespace Profile

/-- A top speed is not negative. -/
theorem Regular.maxSpeed_nonneg {profile : Profile} (regular : profile.Regular)
    (weight : WeightSummary) : 0 ≤ (profile.maxSpeed weight).toInt := by
  by_cases below : profile.maxSpeed weight < profile.speedLimit
  · exact (regular.not_sustains_above_maxSpeed below).1
  · rw [Int32.lt_iff_toInt_lt] at below
    by_cases moves : 0 < profile.speedLimit
    · rw [Int32.lt_iff_toInt_lt] at moves
      have standing : (0 : Int32).toInt = 0 := rfl
      omega
    · rw [maxSpeed]
      simp only
      rw [if_pos (Int32.not_lt.mp moves)]
      exact le_rfl

end Profile

namespace Convoy

variable {convoy : Convoy} {route : Route} {settings : RunSettings} {dwell : UInt64} {now : Tick}

/-- The top speed of a convoy, found afresh from its train as it is loaded and placed. -/
def freshTopSpeed (convoy : Convoy) (world : World) : Except ConvoyError Int32 :=
  (convoy.train.live world).map fun live => (Profile.ofSource live).maxSpeed live.weight

/-- A convoy that cannot restart stands and has no top speed. -/
theorem driven_of_cannot_restart {live : LiveConvoy}
    (scale_pos : zero < settings.world.mapScale) (settled : convoy.motion.Settled)
    (stuck : (convoy.driven live route settings).1 = false) :
    (convoy.driven live route settings).2.speed = 0 ∧
      (Profile.ofSource live).maxSpeed live.weight = 0 := by
  have verdict := live.driven_fst (convoy.cruise route settings)
    (route.limitsAhead convoy.position convoy.direction) convoy.motion
  have driven_settled : (convoy.driven live route settings).2.Settled :=
    driven_settled scale_pos settled
  have speed_nonneg := driven_settled.speed_nonneg
  have top_nonneg := (VehicleSource.regular live).maxSpeed_nonneg live.weight
  change (convoy.driven live route settings).1 = _ at verdict
  rw [stuck, eq_comm, Bool.or_eq_false_iff, decide_eq_false_iff_not, decide_eq_false_iff_not,
    Int32.not_lt, Int32.not_lt] at verdict
  refine ⟨Int32.le_antisymm verdict.1 speed_nonneg, Int32.le_antisymm verdict.2 ?_⟩
  exact Int32.le_iff_toInt_le.mpr top_nonneg

/-- A convoy that stays on its section short of the end keeps its train. -/
theorem settle_of_stays (convoy : Convoy) (canRestart : Bool) (report : StepReport)
    (short : (convoy.stepped route).position ≠ route.endPosition convoy.direction)
    (same : (convoy.stepped route).sectionUnder route = convoy.stretch) :
    (convoy.settle route dwell now canRestart report).1 =
      { convoy.stepped route with stalled := !canRestart } := by
  simp only [stepped, sectionUnder] at short same
  cases canRestart <;> simp [settle, short, same, stepped]

/-- A tick that reports a stall has found the convoy without the flag and leaves it standing with
it.  The top speed was zero where the tick found the convoy, and is so where it leaves it unless it
has entered another section. -/
structure Stalls (world : World) (before after : Convoy) (report : StepReport) : Prop where
  /-- The convoy was not stalled. -/
  was_not : before.stalled = false
  /-- It is stalled now. -/
  stalled : after.stalled = true
  /-- It stands. -/
  stands : after.motion.speed = 0
  /-- It could not have started from where the tick found it. -/
  stuck_before : before.freshTopSpeed world = .ok 0
  /-- It cannot start from where it is, unless it has entered another section. -/
  stuck_after : report.entered = none → after.freshTopSpeed world = .ok 0

theorem Steady.stalls (steady : convoy.Steady route settings)
    (scale_pos : zero < settings.world.mapScale)
    (told : (convoy.tickReport route settings dwell now).stalled = true) :
    Stalls settings.world convoy (convoy.afterTick route settings dwell now)
      (convoy.tickReport route settings dwell now) := by
  rcases steady.coherent.tick_cases route dwell now with
    ⟨-, -, report_eq⟩ | ⟨live, kept, live_eq, after_eq, report_eq⟩
  · rw [report_eq] at told
    contradiction
  · rw [report_eq, freshStep, settle_report] at told
    simp only [Bool.and_eq_true, Bool.not_eq_true', decide_eq_false_iff_not] at told
    obtain ⟨⟨short, cannot_restart⟩, was_not⟩ := told
    have stuck := driven_of_cannot_restart scale_pos steady.settled cannot_restart
    have stuck_before : convoy.freshTopSpeed settings.world = .ok 0 := by
      rw [freshTopSpeed, live_eq]
      exact congrArg Except.ok stuck.2
    rw [after_eq, report_eq, freshStep]
    let moved := convoy.forget.underway (convoy.driven live route settings).2
    refine ⟨was_not, ?_, ?_, stuck_before, fun none_entered => ?_⟩
    · rcases moved.settle_cases route dwell now (convoy.driven live route settings).1
          { departed := !convoy.isRunning } with
        ⟨reached, -⟩ | ⟨-, -, ⟨-, settled_eq⟩ | settled_eq⟩
      · exact absurd reached short
      · rw [settled_eq, cannot_restart]
        rfl
      · rw [settled_eq, cannot_restart]
        rfl
    · have standing : (convoy.driven live route settings).2.dropSteps.speed = 0 := stuck.1
      rcases moved.motion_settle route dwell now (convoy.driven live route settings).1
          { departed := !convoy.isRunning } with motion_eq | motion_eq
      · rw [withCache, motion_eq]
      · rw [withCache, motion_eq]
        exact standing
    · rw [settle_report] at none_entered
      simp only [short, false_or, ite_eq_left_iff, reduceCtorEq, imp_false, not_not] at none_entered
      rw [settle_of_stays _ _ _ short none_entered]
      exact stuck_before

end Convoy

namespace Progress

variable {settings : RunSettings} {route : Route} {plans : List DeparturePlan} {dwell : UInt64}
  {fleet : Fleet} {count : Nat}

/-- Whenever a convoy is told to have stalled it stands, the flag has just been set, and it had no
speed that it could hold where the tick found it; it has none where it is, unless the tick has
brought it onto another section. -/
theorem stalls_told (accepted : Fleet.build settings route plans dwell = .ok fleet) {now : Tick}
    {handed : Convoy} (told : .stall now handed ∈ told fleet count 1) :
    handed.motion.speed = 0 ∧ handed.stalled = true ∧
      ∃ before, convoyAfter fleet count handed.id = some before ∧ before.stalled = false ∧
        before.freshTopSpeed settings.world = .ok 0 ∧
        (entriesOf fleet handed.id count 1 = [] →
          handed.freshTopSpeed settings.world = .ok 0) := by
  have built := Fleet.built_of_build accepted
  obtain ⟨before, before_eq, handed_eq, event_mem⟩ := handed_of_told accepted told rfl
  have steady := convoyAfter_steady built before_eq
  have scale_pos := RunSettings.mapScale_pos built.validated
  have stalled : (before.tickReport route settings dwell
      (ticks count (.start fleet)).fleet.clock.now).stalled = true := by
    rcases Fleet.mem_convoyEvents.mp event_mem with
      ⟨-, other⟩ | ⟨_, -, other⟩ | ⟨stalled, -⟩ | ⟨-, other⟩
    · contradiction
    · contradiction
    · exact stalled
    · contradiction
  have stalls := steady.stalls scale_pos stalled
  rw [← handed_eq] at stalls
  refine ⟨stalls.stands, stalls.stalled, before, before_eq, stalls.was_not, stalls.stuck_before,
    fun none_told => stalls.stuck_after ?_⟩
  rw [entriesOf, about_told accepted before_eq, Fleet.entries_convoyEvents] at none_told
  rw [Option.eq_none_iff_forall_ne_some]
  intro id entered
  obtain ⟨stretch, found⟩ := steady.coherent.found_of_entered entered
  rw [entered, Option.bind_some, found] at none_told
  contradiction

/-- A railcar that cannot hold a slope of 200 per mille. -/
def climberPlan : DeparturePlan :=
  { name := "Climber"
    vehicles := [{ name := "Railcar", way := .track, tonnes := 20, topKmh := 60, powerKw := 150,
                   effortKn := 15 }] }

/-- A steep section that the railcar overcomes with its speed, and a long level one. -/
def crestRoute : Route :=
  ⟨[⟨.track, 1, 60, 0, false⟩, ⟨.track, 4, 60, 200, false⟩, ⟨.track, 40, 60, 0, false⟩], by decide,
    by decide, by decide⟩

/-- A route on which the railcar cannot start. -/
def hillRoute : Route := ⟨[⟨.track, 40, 60, 200, false⟩], by decide, by decide, by decide⟩

/-- The convoy of a stall. -/
def stalled? : Event → Option Convoy
  | .stall _ convoy => some convoy
  | _ => none

/-- The convoys that events tell to have stalled. -/
def stalledIn (events : List Event) : List Convoy := events.filterMap stalled?

theorem mem_stalledIn {events : List Event} {convoy : Convoy} :
    convoy ∈ stalledIn events ↔ ∃ now, .stall now convoy ∈ events := by
  rw [stalledIn, List.mem_filterMap]
  constructor
  · rintro ⟨event, event_mem, stalled_eq⟩
    cases event with
    | stall now stalled =>
      obtain rfl : stalled = convoy := Option.some.inj stalled_eq
      exact ⟨now, event_mem⟩
    | _ => contradiction
  · rintro ⟨now, told⟩
    exact ⟨_, told, rfl⟩

/-- Just over the crest the railcar is told to have stalled, although it can hold 60 km/h there. -/
theorem stall_over_crest :
    Fleet.build longTicks crestRoute [climberPlan] 2 = .ok (alone climberPlan crestRoute) ∧
      ((stalledIn (told (alone climberPlan crestRoute) 1 1)).map fun handed =>
          (handed.motion.speed, handed.position, handed.freshTopSpeed {})) =
        [(0, 6, .ok 60)] := by
  refine ⟨rfl, ?_⟩
  decide +kernel

/-- On a hill the railcar is told to have stalled in the tick in which it departs, and it cannot
start there. -/
theorem stall_on_hill :
    Fleet.build longTicks hillRoute [climberPlan] 2 = .ok (alone climberPlan hillRoute) ∧
      ∃ now handed, .stall now handed ∈ told (alone climberPlan hillRoute) 0 1 ∧
        handed.motion.speed = 0 ∧ handed.freshTopSpeed {} = .ok 0 := by
  have accepted : Fleet.build longTicks hillRoute [climberPlan] 2 =
      .ok (alone climberPlan hillRoute) := rfl
  have ids : (stalledIn (told (alone climberPlan hillRoute) 0 1)).map Convoy.id = [⟨0⟩] := by
    decide +kernel
  have none_entered : entriesOf (alone climberPlan hillRoute) ⟨0⟩ 0 1 = [] := by decide +kernel
  obtain ⟨handed, stalled_eq, id_eq⟩ := List.map_eq_singleton_iff.mp ids
  obtain ⟨now, told⟩ := mem_stalledIn.mp (stalled_eq ▸ List.mem_singleton_self handed)
  obtain ⟨stands, -, before, -, -, -, stuck⟩ := stalls_told accepted told
  rw [id_eq] at stuck
  exact ⟨accepted, now, handed, told, stands, stuck none_entered⟩

end Progress

end Haulage
