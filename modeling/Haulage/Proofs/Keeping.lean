import Haulage.Proofs.Governing
import Haulage.Proofs.Obedience

/-!
# Keeping to the limits in a tick

A convoy with brakes that govern a level route heeds every limit that it has not left behind, and
one more tick keeps it so: the mover heeds the limits, and taking out whole steps leaves every point
ahead as far as it was.
-/

namespace Haulage

open Fixed

namespace Convoy

variable {convoy : Convoy} {route : Route} {settings : RunSettings} {dwell : UInt64} {now : Tick}
  {vehicles : List Vehicle} {way : Way}

/-- A convoy that heeds the limit of the section under its head and of every one ahead. -/
structure Heedful (convoy : Convoy) (route : Route) (way : Way) : Prop where
  /-- The bins of the braking distance cover its velocity. -/
  covered : convoy.motion.velocity.raw ≤ 2147483648
  /-- It heeds every limit that it has not left behind. -/
  heeds : ∀ front stretch back, route.travel convoy.direction = front ++ stretch :: back →
    route.gone convoy.position convoy.direction < totalLength front + stretch.length.toNat →
      (convoy.train.brakes way).Heeds stretch.velocity
        (roomTo ((totalLength front : Int) - route.gone convoy.position convoy.direction)
          convoy.motion.yards.toInt) convoy.motion.velocity

/-- All that keeps a convoy of these vehicles within the limits of a level route. -/
structure Obeying (convoy : Convoy) (route : Route) (settings : RunSettings)
    (vehicles : List Vehicle) (way : Way) : Prop where
  /-- It is put on the section under its head, and its motion tells its velocity. -/
  steady : convoy.Steady route settings
  /-- Its vehicles are all empty or all full. -/
  loaded : convoy.train.LoadedAs vehicles
  /-- It heeds the limits. -/
  heedful : convoy.Heedful route way

/-- Half a unit above the velocity of a speed rounds to the speed. -/
theorem speed_le_of_velocity {velocity : Fixed} {stretch : Section} (limited : stretch.Limited)
    (nonneg : zero ≤ velocity) (below : velocity.raw < stretch.velocity.raw + 11378) :
    (Units.speedOfVelocity velocity).toInt ≤ stretch.speed.toInt := by
  have speed_bounds := Section.speed_bounds limited
  have velocity_bounds := Section.velocity_bounds limited
  rw [Section.raw_velocity] at below velocity_bounds
  rw [Units.toInt_speedOfVelocity nonneg (by omega)]
  omega

variable {passed ahead : List Section} {here : Section} {start finish : UInt32}

/-- The speed of a convoy is within the limit of the section under its head. -/
theorem Obeying.within (obeying : convoy.Obeying route settings vehicles way)
    (firm : (convoy.train.brakes way).Firm) (here_limited : here.Limited)
    (standing : route.Standing convoy.position convoy.direction passed here ahead start finish) :
    convoy.motion.velocity.raw < here.velocity.raw + 11378 ∧
      convoy.motion.speed.toInt ≤ here.speed.toInt := by
  have bounds := Section.velocity_bounds here_limited
  have entered := standing.entered
  have yards_low := obeying.steady.trimmed.1
  have past : roomTo ((totalLength passed : Int) - route.gone convoy.position convoy.direction)
      convoy.motion.yards.toInt ≤ 0 := roomTo_nonpos (by omega)
  have heedful := obeying.heedful
  have slow := (heedful.heeds passed here ahead standing.travel_eq standing.not_left).at_limit
    firm bounds.1 heedful.covered past
  refine ⟨slow, ?_⟩
  rw [← obeying.steady.settled.speed_eq]
  exact speed_le_of_velocity here_limited convoy.motion.velocity_nonneg slow

theorem vista_of_standing
    (standing : route.Standing convoy.position convoy.direction passed here ahead start finish)
    (limited : ∀ stretch ∈ route.sections, stretch.Limited) : Vista here ahead start finish := by
  have limited_of : ∀ stretch ∈ passed ++ here :: ahead, stretch.Limited := by
    intro stretch stretch_mem
    rw [← standing.travel_eq] at stretch_mem
    exact limited stretch (Route.mem_travel.mp stretch_mem)
  have start_eq := standing.start_eq
  have not_left := standing.not_left
  exact ⟨limited_of here (by simp),
    fun stretch stretch_mem => limited_of stretch (by simp [stretch_mem]), by omega,
    standing.finish_eq_start⟩

/-- What a convoy of a fleet with default settings asks of the mover in a tick. -/
theorem tickRequest (steady : convoy.Steady route settings) (world_eq : settings.world = {})
    (ticks_eq : settings.engineTicks = 64)
    (standing : route.Standing convoy.position convoy.direction passed here ahead start finish)
    (speed_le : convoy.motion.speed.toInt ≤ here.speed.toInt) (profile : Profile)
    (weight : WeightSummary) (points : List LimitPoint) :
    Profile.TickRequest
      (profile.outlook weight (convoy.cruise route settings) points convoy.motion) here := by
  have target_eq : (convoy.cruise route settings).target = here.speed := by
    change convoy.targetSpeed route = _
    rw [targetSpeed, steady.placed.stretch_eq, standing.under]
    rfl
  have scale_eq : (convoy.cruise route settings).mapScale = one := by
    change settings.world.mapScale = _
    rw [world_eq]
    decide
  constructor
  · rw [Profile.engineTicks_outlook]
    change Int64.ofNat settings.engineTicks.toNat = 64
    rw [ticks_eq]
    rfl
  · rw [Profile.mapScale_outlook, scale_eq]
  · rw [Profile.target_outlook, target_eq]
  · exact Profile.limit_outlook_le scale_eq target_eq target_eq speed_le points

/-- The limit of a section that the head has not left is no lower than the one under it, or what
the mover is told suits it. -/
theorem suits_of_standing (steady : convoy.Steady route settings) {profile : Profile}
    {weight : WeightSummary} {brakes : Brakes} (firm : brakes.Firm)
    (braked : profile.BrakesBy weight brakes)
    (standing : route.Standing convoy.position convoy.direction passed here ahead start finish)
    (vista : Vista here ahead start finish) (spaced : brakes.SpacedAhead here ahead)
    (speed_le : convoy.motion.speed.toInt ≤ here.speed.toInt)
    (tick : Profile.TickRequest (profile.outlook weight (convoy.cruise route settings)
      (route.limitsAhead convoy.position convoy.direction) convoy.motion) here)
    {front back : List Section} {stretch : Section}
    (travel_eq : route.travel convoy.direction = front ++ stretch :: back)
    (not_left : route.gone convoy.position convoy.direction <
      totalLength front + stretch.length.toNat) :
    here.velocity ≤ stretch.velocity ∨
      (profile.drive weight (profile.outlook weight (convoy.cruise route settings)
        (route.limitsAhead convoy.position convoy.direction) convoy.motion)).Suits brakes
          stretch.velocity
          (roomTo ((totalLength front : Int) - route.gone convoy.position convoy.direction)
            convoy.motion.yards.toInt) (here.velocity.raw + 11377 + 2200 : Int) := by
  have cruise_scale : (convoy.cruise route settings).mapScale = one := by
    rw [← Profile.mapScale_outlook]
    exact tick.scale_eq
  have cruise_target : (convoy.cruise route settings).target = here.speed := by
    rw [← Profile.target_outlook]
    exact tick.target_eq
  rcases standing.here_or_ahead travel_eq not_left with
    ⟨-, rfl, -⟩ | ⟨between, front_eq, ahead_eq⟩
  · exact .inl le_rfl
  · by_cases below : stretch.speed < here.speed
    · right
      have steps_eq : (totalLength front : Int) - route.gone convoy.position convoy.direction =
          start.toNat + totalLength between := by
        have start_eq := standing.start_eq
        have here_left := standing.not_left
        rw [front_eq, totalLength_append, totalLength]
        omega
      rw [steps_eq, standing.limits_eq]
      exact Profile.outlook_suits firm braked vista ahead_eq below spaced cruise_scale
        cruise_target steady.trimmed (Int32.le_iff_toInt_le.mp steady.settled.speed_nonneg)
        speed_le
    · exact .inl (Section.velocity_mono (Int32.not_lt.mp below))

/-- A heedful convoy with a few whole steps that are not yet taken out. -/
structure Moved (convoy : Convoy) (route : Route) (way : Way) : Prop where
  /-- It heeds the limits. -/
  heedful : convoy.Heedful route way
  /-- The yards are not negative. -/
  yards_nonneg : 0 ≤ convoy.motion.yards.toInt
  /-- Nor are they many. -/
  yards_le : convoy.motion.yards.toInt ≤ 12000000000

/-- A tick of the mover leaves a convoy heedful. -/
theorem Obeying.driven (obeying : convoy.Obeying route settings vehicles way)
    (world_eq : settings.world = {}) (ticks_eq : settings.engineTicks = 64)
    (level : route.LevelOf way) (limited : ∀ stretch ∈ route.sections, stretch.Limited)
    (govern : (convoy.train.brakes way).Govern route) {live : LiveConvoy}
    (live_eq : convoy.train.live settings.world = .ok live) :
    (convoy.forget.underway (convoy.driven live route settings).2).Moved route way := by
  have steady := obeying.steady
  have firm := govern.firm
  obtain ⟨passed, here, ahead, start, finish, standing⟩ :=
    Route.standing_of_short steady.placed.inside steady.placed.short
  have vista := vista_of_standing standing limited
  have here_covered := Section.velocity_bounds vista.here_limited
  obtain ⟨velocity_lt, speed_le⟩ := obeying.within firm vista.here_limited standing
  have velocity_le : convoy.motion.velocity.raw ≤ here.velocity.raw + 11377 := by omega
  have braked := (steady.placed.level level).brakesBy live_eq
  have travel_limited : ∀ stretch ∈ route.travel convoy.direction, stretch.Limited :=
    fun stretch stretch_mem => limited stretch (Route.mem_travel.mp stretch_mem)
  have spaced := (govern.spaced convoy.direction).ahead standing.travel_eq travel_limited
    (by rw [Route.totalLength_travel]; exact route.length_lt)
  have tick := tickRequest steady world_eq ticks_eq standing speed_le (Profile.ofSource live)
    live.weight (route.limitsAhead convoy.position convoy.direction)
  have bounds := Profile.run_of_tick_bounds firm braked tick vista.here_limited
    convoy.motion.velocity_nonneg velocity_le
  have moved_eq := Profile.move_of_tick firm braked tick convoy.motion
  have yards_bounds := Units.yardsOnMap_bounds (by decide : zero < one) bounds.1
  have yards_eq := Profile.yards_settleState steady.trimmed bounds.1
  have yards_low := steady.trimmed.1
  have yards_high := steady.trimmed.2
  rw [Units.yardsPerStep] at yards_high
  rw [← moved_eq] at yards_eq
  refine ⟨⟨?_, fun front stretch back travel_eq not_left => ?_⟩, ?_, ?_⟩
  · change (Profile.move _ _ live.weight convoy.motion).velocity.raw ≤ _
    rw [moved_eq, Profile.velocity_settleState _ _ bounds.2.1]
    exact bounds.2.2.trans (by omega)
  · have stretch_limited : stretch.Limited :=
      travel_limited stretch (travel_eq ▸ List.mem_append_right _ List.mem_cons_self)
    exact Profile.move_heeds firm braked tick vista.here_limited steady.trimmed velocity_le
      (Section.velocity_nonneg stretch_limited)
      (suits_of_standing steady firm braked standing vista spaced speed_le tick travel_eq not_left)
      (obeying.heedful.heeds front stretch back travel_eq not_left)
  · exact yards_eq.ge.trans' (by omega)
  · exact yards_eq.le.trans (by omega)

/-- Steps that are taken out of the yards leave every point ahead as far as it was. -/
theorem roomTo_wholeSteps (steps yards : Int) :
    roomTo (steps - yards / Units.yardsPerStep) (yards % Units.yardsPerStep) =
      roomTo steps yards := by
  have same : 4096 * (steps - yards / 4096) - yards % 4096 = 4096 * steps - yards := by omega
  simp only [roomTo, Units.yardsPerStep, same]

theorem toNat_reportedSteps {steps : Int} (nonneg : 0 ≤ steps) (few : steps < 4294967296) :
    ((reportedSteps steps).toNat : Int) = steps := by
  rw [reportedSteps, if_pos ⟨nonneg, few⟩, UInt32.toNat_ofNat']
  omega

/-- A convoy that stands heeds every limit. -/
theorem heedful_of_standing (stands : convoy.motion = {})
    (limited : ∀ stretch ∈ route.sections, stretch.Limited) : convoy.Heedful route way := by
  have velocity_eq : convoy.motion.velocity.raw = 0 := by
    rw [stands]
    decide
  refine ⟨by omega, fun front stretch back travel_eq _ => .inl ?_⟩
  have stretch_mem : stretch ∈ route.travel convoy.direction :=
    travel_eq ▸ List.mem_append_right _ List.mem_cons_self
  have bounds := Section.velocity_bounds (limited stretch (Route.mem_travel.mp stretch_mem))
  omega

/-- Whole steps that are taken out, short of the end, leave a convoy heedful. -/
theorem Moved.stepped (moved : convoy.Moved route way) (inside : convoy.position ≤ route.length)
    (short : (convoy.stepped route).position ≠ route.endPosition convoy.direction) :
    (convoy.stepped route).Heedful route way := by
  have yards_nonneg := moved.yards_nonneg
  have yards_le := moved.yards_le
  have steps_eq : ((reportedSteps convoy.motion.wholeSteps).toNat : Int) =
      convoy.motion.yards.toInt / Units.yardsPerStep := by
    apply toNat_reportedSteps
    · exact Int.ediv_nonneg yards_nonneg (by decide)
    · rw [MotionState.wholeSteps, Units.yardsPerStep]
      omega
  have gone_eq : route.gone (convoy.stepped route).position convoy.direction =
      route.gone convoy.position convoy.direction +
        (reportedSteps convoy.motion.wholeSteps).toNat := Route.gone_advance inside short
  have yards_eq : (convoy.stepped route).motion.yards.toInt =
      convoy.motion.yards.toInt % Units.yardsPerStep := by
    apply toInt_ofInt64 <;> rw [Units.yardsPerStep] <;> omega
  refine ⟨moved.heedful.covered, fun front stretch back travel_eq not_left => ?_⟩
  change route.gone (convoy.stepped route).position convoy.direction < _ at not_left
  have heeded := moved.heedful.heeds front stretch back travel_eq (by omega)
  have room_eq : roomTo ((totalLength front : Int) -
      route.gone (convoy.stepped route).position convoy.direction)
        (convoy.stepped route).motion.yards.toInt =
      roomTo ((totalLength front : Int) - route.gone convoy.position convoy.direction)
        convoy.motion.yards.toInt := by
    rw [yards_eq, gone_eq, Int.natCast_add, steps_eq, ← Int.sub_sub, roomTo_wholeSteps]
  rw [← room_eq] at heeded
  exact heeded

/-- Entering a section leaves a convoy heedful. -/
theorem Heedful.enter (heedful : convoy.Heedful route way) (stretch : SectionId) :
    (convoy.enter route stretch).Heedful route way := by
  have brakes_eq : (convoy.enter route stretch).train.brakes way = convoy.train.brakes way := by
    unfold Convoy.enter
    simp only
    split
    · exact Train.brakes_setWay _ _ _
    · rfl
  refine ⟨heedful.covered, ?_⟩
  rw [brakes_eq]
  exact heedful.heeds

/-- After it has moved a convoy is heedful, or it stands at a route end. -/
theorem Moved.settle (moved : convoy.Moved route way) (inside : convoy.position ≤ route.length)
    (limited : ∀ stretch ∈ route.sections, stretch.Limited) (dwell : UInt64) (now : Tick)
    (canRestart : Bool) (report : StepReport) :
    (convoy.settle route dwell now canRestart report).1.Heedful route way := by
  rcases convoy.settle_cases route dwell now canRestart report with
    ⟨-, settled_eq, -⟩ | ⟨short, -, ⟨-, settled_eq⟩ | settled_eq⟩
  · rw [settled_eq]
    exact heedful_of_standing rfl limited
  · rw [settled_eq]
    have heedful := moved.stepped inside short
    exact ⟨heedful.covered, heedful.heeds⟩
  · rw [settled_eq]
    have heedful := (moved.stepped inside short).enter ((convoy.stepped route).sectionUnder route)
    exact ⟨heedful.covered, heedful.heeds⟩

/-- One tick leaves a convoy that obeys the limits obedient. -/
theorem Obeying.tick (obeying : convoy.Obeying route settings vehicles way)
    (world_eq : settings.world = {}) (ticks_eq : settings.engineTicks = 64)
    (level : route.LevelOf way) (limited : ∀ stretch ∈ route.sections, stretch.Limited)
    (govern : (convoy.train.brakes way).Govern route) (dwell : UInt64) (now : Tick) :
    (convoy.afterTick route settings dwell now).Obeying route settings vehicles way := by
  have steady := obeying.steady
  have scale_pos : zero < settings.world.mapScale := by
    rw [world_eq]
    decide
  have after_steady := (steady.tick scale_pos dwell now).1
  unfold afterTick at *
  rcases steady.coherent.step_cases route dwell now with
    ⟨_, -, -, step_eq⟩ | ⟨live, kept, live_eq, -, step_eq⟩
  · rw [step_eq]
    exact obeying
  · rw [step_eq] at after_steady ⊢
    have moved := obeying.driven world_eq ticks_eq level limited govern live_eq
    have heedful := moved.settle steady.placed.inside limited dwell now
      (convoy.driven live route settings).1 { departed := !convoy.isRunning }
    have moved_loaded : (convoy.forget.underway
        (convoy.driven live route settings).2).train.LoadedAs vehicles := obeying.loaded
    have loaded := loadedAs_settle moved_loaded route dwell now
      (convoy.driven live route settings).1 { departed := !convoy.isRunning }
    exact ⟨after_steady, loaded, heedful.covered, heedful.heeds⟩

end Convoy

end Haulage
