import Haulage.Proofs.Equilibrium
import Haulage.Proofs.Geometry
import Haulage.Proofs.Runs

/-!
# Where a convoy of a fleet is

At every tick start each convoy of a fleet stands short of the end it runs towards, on the section
that its cars have under them, less than a step past its position, and with a speed that its stored
motion tells without loss.
-/

namespace Haulage

open Fixed

/-- The shortest tile of validated settings is a metre long. -/
theorem World.mapScale_ge {world : World} (validated : world.validate = .ok ()) :
    1049 ≤ world.mapScale.raw := by
  have tile_pos : 0 < world.tileMetres.toNat := by
    apply Nat.pos_of_ne_zero
    intro no_length
    have tile_eq : world.tileMetres = 0 := UInt32.toNat_inj.mp (by simpa using no_length)
    rw [World.validate, if_pos tile_eq] at validated
    contradiction
  have one_le : ratio 1 1000 ≤ world.mapScale := ratio_mono (by decide) (by omega)
  exact (by decide : 1049 ≤ (ratio 1 1000).raw).trans one_le

theorem World.mapScale_pos {world : World} (validated : world.validate = .ok ()) :
    zero < world.mapScale := by
  have scale_ge := World.mapScale_ge validated
  rw [pos_iff]
  omega

theorem RunSettings.mapScale_pos {settings : RunSettings}
    (validated : settings.validate = .ok ()) : zero < settings.world.mapScale := by
  unfold validate at validated
  split at validated
  · contradiction
  · exact World.mapScale_pos validated

namespace MotionState

/-- A motion that tells its velocity without loss, at most at the speed that stands for
"unlimited". -/
structure Settled (state : MotionState) : Prop where
  /-- The convoy does not run back. -/
  speed_nonneg : 0 ≤ state.speed
  /-- The speed is the one of the velocity. -/
  speed_eq : Units.speedOfVelocity state.velocity = state.speed
  /-- The residue is at most half a unit of speed. -/
  residue_small : -11378 ≤ state.residue.raw ∧ state.residue.raw ≤ 11378
  /-- The velocity is at most the one that stands for "unlimited". -/
  velocity_le : state.velocity ≤ Units.velocityOfKmh Units.unlimitedKmh

/-- Whole steps are taken out of the yards. -/
def Trimmed (state : MotionState) : Prop :=
  0 ≤ state.yards.toInt ∧ state.yards.toInt < Units.yardsPerStep

theorem settled_standing : Settled {} where
  speed_nonneg := by decide
  speed_eq := by decide
  residue_small := by decide
  velocity_le := by decide

theorem trimmed_standing : Trimmed {} := ⟨by decide, by decide⟩

theorem Settled.setSpeed_zero (state : MotionState) : (state.setSpeed 0).Settled where
  speed_nonneg := by simp [setSpeed]
  speed_eq := by
    rw [velocity_setSpeed_zero]
    rfl
  residue_small := by simp [setSpeed]
  velocity_le := by
    rw [velocity_setSpeed_zero]
    decide

theorem Settled.dropSteps {state : MotionState} (settled : state.Settled) :
    state.dropSteps.Settled where
  speed_nonneg := settled.speed_nonneg
  speed_eq := settled.speed_eq
  residue_small := settled.residue_small
  velocity_le := settled.velocity_le

theorem trimmed_dropSteps (state : MotionState) : state.dropSteps.Trimmed := by
  have low : 0 ≤ state.yards.toInt % Units.yardsPerStep := Int.emod_nonneg _ (by decide)
  have high : state.yards.toInt % Units.yardsPerStep < Units.yardsPerStep :=
    Int.emod_lt_of_pos _ (by decide)
  simp only [Trimmed, MotionState.dropSteps, Units.yardsPerStep] at *
  rw [toInt_ofInt64 (by omega) (by omega)]
  exact ⟨low, high⟩

end MotionState

namespace Profile

variable {profile : Profile} {weight : WeightSummary} {request : MoveRequest}

/-- A head ahead, with a velocity that is neither negative nor above the one that stands for
"unlimited", is stored without loss. -/
theorem settleState_settled (state : MotionState) (mapScale : Fixed) {head : Head}
    (nonneg : zero ≤ head.velocity)
    (velocity_le : head.velocity ≤ Units.velocityOfKmh Units.unlimitedKmh) :
    (settleState state mapScale head).Settled := by
  have small : head.velocity.raw ≤ 48000000000000 :=
    (le_def.mp velocity_le).trans (by decide)
  have velocity_eq := velocity_settleState state mapScale nonneg
  refine ⟨?_, ?_, Units.residue_le_half_unit nonneg small, velocity_eq ▸ velocity_le⟩
  · rw [Int32.le_iff_toInt_le]
    exact Units.speedOfVelocity_nonneg nonneg
  · rw [velocity_eq]
    rfl

/-- A call leaves the motion as it is, or stops the convoy, or stores a head that a run of slices
has brought forward. -/
theorem move_cases (regular : profile.Regular) (weight : WeightSummary)
    (scale_nonneg : zero ≤ request.mapScale)
    {state : MotionState} (velocity_le : state.velocity ≤ Units.velocityOfKmh Units.unlimitedKmh) :
    profile.move request weight state = state ∨
      profile.move request weight state = state.setSpeed 0 ∨
      ∃ head : Head, zero ≤ head.place ∧ zero ≤ head.velocity ∧
        head.velocity ≤ Units.velocityOfKmh Units.unlimitedKmh ∧
        profile.move request weight state = settleState state request.mapScale head := by
  rcases profile.move_outcome request weight state with same | stopped | ⟨weight_pos, moved⟩
  · exact .inl same
  · exact .inr (.inl stopped)
  · have sound := profile.drive_sound scale_nonneg weight_pos
    have bounds := sound.run_bounds (startHead state) state.velocity_nonneg velocity_le
      (regular.wantedVelocity_le_unlimited request) (requestSlices request)
    exact .inr (.inr ⟨_, bounds.1, bounds.2.1, bounds.2.2, moved⟩)

theorem move_settled (regular : profile.Regular) (scale_nonneg : zero ≤ request.mapScale)
    {state : MotionState} (settled : state.Settled) :
    (profile.move request weight state).Settled := by
  rcases move_cases regular weight scale_nonneg settled.velocity_le with
    same | stopped | ⟨head, -, nonneg, velocity_le, moved⟩
  · rw [same]
    exact settled
  · rw [stopped]
    exact .setSpeed_zero state
  · rw [moved]
    exact settleState_settled state request.mapScale nonneg velocity_le

/-- The limits ahead leave the map scale of a cruise as it is. -/
theorem mapScale_outlook (profile : Profile) (weight : WeightSummary) (cruise : MoveRequest)
    (points : List LimitPoint) (motion : MotionState) :
    (profile.outlook weight cruise points motion).mapScale = cruise.mapScale := by
  unfold outlook
  simp only
  split <;> rfl

end Profile

namespace Convoy

variable {convoy : Convoy} {route : Route} {settings : RunSettings} {dwell : UInt64} {now : Tick}

/-- The head of the convoy is short of the end it runs towards, and the whole train is put on the
section under it. -/
structure Placed (convoy : Convoy) (route : Route) : Prop where
  /-- The head is on the route. -/
  inside : convoy.position ≤ route.length
  /-- It has not reached the end it runs towards. -/
  short : convoy.position ≠ route.endPosition convoy.direction
  /-- The section of the convoy is the one under its head. -/
  stretch_eq : convoy.stretch = route.sectionAt convoy.position convoy.direction
  /-- Every car has that section under it. -/
  contexts : ∃ under, route.get? convoy.stretch = some under ∧
    ∀ car ∈ convoy.train.cars, car.context = under.context convoy.direction

theorem placed_enter (convoy : Convoy) (inside : convoy.position ≤ route.length)
    (short : convoy.position ≠ route.endPosition convoy.direction) :
    (convoy.enter route (convoy.sectionUnder route)).Placed route := by
  have found := route.get?_sectionAt convoy.position convoy.direction
  refine ⟨inside, short, rfl, _, found, fun car car_mem => ?_⟩
  unfold enter sectionUnder at car_mem
  simp only [found] at car_mem
  obtain ⟨before, -, rfl⟩ := List.mem_map.mp car_mem
  rfl

/-- A convoy at the end of its route, with its load swapped and turned round. -/
def turned (convoy : Convoy) : Convoy :=
  { convoy with
    train := if convoy.train.isLoaded then convoy.train.clear else convoy.train.fill
    direction := convoy.direction.reversed
    motion := {}
    cache := convoy.cache.dropWeight }

theorem arrive_eq (convoy : Convoy) (route : Route) (dwell : UInt64) (now : Tick) :
    convoy.arrive route dwell now =
      { convoy.turned.enter route (convoy.turned.sectionUnder route) with
        phase := .waiting (now.after dwell), stalled := false, trips := convoy.trips + 1 } := rfl

theorem placed_arrive (inside : convoy.position ≤ route.length)
    (reached : convoy.position = route.endPosition convoy.direction) :
    (convoy.arrive route dwell now).Placed route := by
  have short : convoy.turned.position ≠ route.endPosition convoy.turned.direction := by
    change convoy.position ≠ route.endPosition convoy.direction.reversed
    rw [reached]
    exact route.endPosition_reversed_ne convoy.direction
  have entered := placed_enter convoy.turned inside short
  rw [arrive_eq]
  exact ⟨entered.inside, entered.short, entered.stretch_eq, entered.contexts⟩

theorem Placed.settle (placed : convoy.Placed route) (dwell : UInt64) (now : Tick)
    (canRestart : Bool) (report : StepReport) :
    (convoy.settle route dwell now canRestart report).1.Placed route := by
  have advanced := (route.advance_leads placed.inside convoy.direction
    (reportedSteps convoy.motion.wholeSteps)).2
  rcases convoy.settle_cases route dwell now canRestart report with
    ⟨reached, settled_eq, -⟩ | ⟨short, -, ⟨same, settled_eq⟩ | settled_eq⟩
  · rw [settled_eq]
    exact placed_arrive advanced reached
  · rw [settled_eq]
    exact ⟨advanced, short, same.symm, placed.contexts⟩
  · rw [settled_eq]
    have entered := placed_enter (convoy.stepped route) advanced short
    exact ⟨entered.inside, entered.short, entered.stretch_eq, entered.contexts⟩

/-- After it has moved a convoy has stopped at a route end, or its whole steps are taken out. -/
theorem motion_settle (convoy : Convoy) (route : Route) (dwell : UInt64) (now : Tick)
    (canRestart : Bool) (report : StepReport) :
    (convoy.settle route dwell now canRestart report).1.motion = {} ∨
      (convoy.settle route dwell now canRestart report).1.motion = convoy.motion.dropSteps := by
  rcases convoy.settle_cases route dwell now canRestart report with
    ⟨-, settled_eq, -⟩ | ⟨-, -, ⟨-, settled_eq⟩ | settled_eq⟩
  · exact .inl (by rw [settled_eq]; rfl)
  · exact .inr (by rw [settled_eq]; rfl)
  · exact .inr (by rw [settled_eq]; rfl)

/-- How a tick takes a convoy along the route: on towards the end of its direction, where it turns
round if it arrives. -/
structure Advances (route : Route) (before after : Convoy) (report : StepReport) : Prop where
  /-- It does not run back. -/
  leads : before.direction.Leads before.position after.position
  /-- It keeps its direction unless it arrives. -/
  keeps : report.arrived = false → after.direction = before.direction
  /-- It arrives at the end of its direction and turns round. -/
  turns : report.arrived = true → after.position = route.endPosition before.direction ∧
    after.direction = before.direction.reversed

theorem Placed.settle_advances (placed : convoy.Placed route) (dwell : UInt64) (now : Tick)
    (canRestart : Bool) (report : StepReport) (not_arrived : report.arrived = false) :
    Advances route convoy (convoy.settle route dwell now canRestart report).1
      (convoy.settle route dwell now canRestart report).2 := by
  have leads := (route.advance_leads placed.inside convoy.direction
    (reportedSteps convoy.motion.wholeSteps)).1
  rcases convoy.settle_cases route dwell now canRestart report with
    ⟨reached, settled_eq, arrived⟩ | ⟨-, arrived_eq, ⟨-, settled_eq⟩ | settled_eq⟩
  · rw [settled_eq]
    exact ⟨leads, fun stays => absurd (arrived.symm.trans stays) (by decide),
      fun _ => ⟨reached, rfl⟩⟩
  · rw [settled_eq]
    rw [not_arrived] at arrived_eq
    exact ⟨leads, fun _ => rfl, fun arrives => absurd (arrived_eq.symm.trans arrives) (by decide)⟩
  · rw [settled_eq]
    rw [not_arrived] at arrived_eq
    exact ⟨leads, fun _ => rfl, fun arrives => absurd (arrived_eq.symm.trans arrives) (by decide)⟩

/-- All that holds of a convoy of a fleet at every tick start. -/
structure Steady (convoy : Convoy) (route : Route) (settings : RunSettings) : Prop where
  /-- What is kept of it agrees with its train. -/
  coherent : convoy.Coherent settings.world
  /-- It is put on the section under its head, short of the end it runs towards. -/
  placed : convoy.Placed route
  /-- Its motion tells its velocity without loss. -/
  settled : convoy.motion.Settled
  /-- It is less than a step past its position. -/
  trimmed : convoy.motion.Trimmed

theorem driven_settled {live : LiveConvoy} (scale_pos : zero < settings.world.mapScale)
    (settled : convoy.motion.Settled) : (convoy.driven live route settings).2.Settled := by
  apply Profile.move_settled (VehicleSource.regular live)
  · rw [Profile.mapScale_outlook]
    exact le_of_lt scale_pos
  · exact settled

/-- One tick keeps a convoy steady and takes it on along the route. -/
theorem Steady.tick (steady : convoy.Steady route settings)
    (scale_pos : zero < settings.world.mapScale) (dwell : UInt64) (now : Tick) :
    (convoy.afterTick route settings dwell now).Steady route settings ∧
      Advances route convoy (convoy.afterTick route settings dwell now)
        (convoy.tickReport route settings dwell now) := by
  have after_coherent := steady.coherent.afterTick route dwell now
  unfold afterTick tickReport at *
  rcases steady.coherent.step_cases route dwell now with
    ⟨_, -, -, step_eq⟩ | ⟨live, kept, -, -, step_eq⟩
  · rw [step_eq]
    exact ⟨steady, .refl _ _, fun _ => rfl, fun arrives => absurd arrives Bool.false_ne_true⟩
  · rw [step_eq] at after_coherent ⊢
    let moved := convoy.forget.underway (convoy.driven live route settings).2
    have moved_placed : moved.Placed route := ⟨steady.placed.inside, steady.placed.short,
      steady.placed.stretch_eq, steady.placed.contexts⟩
    have placed := moved_placed.settle dwell now
      (convoy.driven live route settings).1 { departed := !convoy.isRunning }
    have advances := moved_placed.settle_advances dwell now
      (convoy.driven live route settings).1 { departed := !convoy.isRunning } rfl
    have motion_eq := motion_settle moved route dwell now
      (convoy.driven live route settings).1 { departed := !convoy.isRunning }
    have motion_kept : ((convoy.freshStep live route settings dwell now).1.withCache
          kept).motion.Settled ∧
        ((convoy.freshStep live route settings dwell now).1.withCache kept).motion.Trimmed := by
      change (moved.settle route dwell now _ _).1.motion.Settled ∧
        (moved.settle route dwell now _ _).1.motion.Trimmed
      rcases motion_eq with stands | runs
      · rw [stands]
        exact ⟨MotionState.settled_standing, MotionState.trimmed_standing⟩
      · rw [runs]
        exact ⟨(driven_settled scale_pos steady.settled).dropSteps,
          MotionState.trimmed_dropSteps _⟩
    exact ⟨⟨after_coherent, ⟨placed.inside, placed.short, placed.stretch_eq, placed.contexts⟩,
      motion_kept.1, motion_kept.2⟩, ⟨advances.leads, advances.keeps, advances.turns⟩⟩

end Convoy

namespace DeparturePlan

theorem position_place (plan : DeparturePlan) (id : ConvoyId) (route : Route) :
    (plan.place id route).Placed route := by
  unfold place
  simp only
  exact Convoy.placed_enter _ (route.endPosition_le _)
    (route.endPosition_reversed_ne .forward).symm

theorem place_steady {plan : DeparturePlan} {route : Route}
    (checked : plan.check route = .ok ()) (id : ConvoyId) (settings : RunSettings) :
    (plan.place id route).Steady route settings where
  coherent := place_coherent checked id settings.world
  placed := position_place plan id route
  settled := MotionState.settled_standing
  trimmed := MotionState.trimmed_standing

end DeparturePlan

namespace Fleet

variable {settings : RunSettings} {route : Route} {dwell : UInt64} {fleet : Fleet}

/-- Every convoy is steady after any number of ticks, and nothing stops the run. -/
theorem Built.ticks_steady (built : Built settings route dwell fleet) (count : Nat) :
    Progress.SameSetup (.start fleet) (.ticks count (.start fleet)) ∧
      (Progress.ticks count (.start fleet)).All (Convoy.Steady · route settings) := by
  have scale_pos := RunSettings.mapScale_pos built.validated
  apply Progress.ticks_all
  · intro convoy steady
    change convoy.Coherent fleet.settings.world
    rw [built.settings_eq]
    exact steady.coherent
  · intro convoy now steady
    change (convoy.afterTick fleet.route fleet.settings fleet.dwell now).Steady route settings
    rw [built.settings_eq, built.route_eq]
    exact (steady.tick scale_pos _ _).1
  · refine ⟨rfl, fun convoy convoy_mem => ?_⟩
    obtain ⟨plan, id, checked, rfl⟩ := built.placed convoy convoy_mem
    exact DeparturePlan.place_steady checked id settings

end Fleet

namespace Progress

/-- Whether a convoy arrives at a route end in the next tick. -/
def Arrives (progress : Progress) (place : Nat) : Prop :=
  ∃ reports report, progress.reports = .ok reports ∧ reports[place]? = some report ∧
    report.arrived = true

/-- The tick of a run takes every convoy on along the route; it arrives if its report says so. -/
theorem tick_advances {settings : RunSettings} {route : Route} {dwell : UInt64} {fleet : Fleet}
    (built : Fleet.Built settings route dwell fleet) {count place : Nat} {before after : Convoy}
    (before_eq : (ticks count (.start fleet)).fleet.convoys[place]? = some before)
    (after_eq : (ticks (count + 1) (.start fleet)).fleet.convoys[place]? = some after) :
    before.direction.Leads before.position after.position ∧
      (¬ (ticks count (.start fleet)).Arrives place → after.direction = before.direction) := by
  obtain ⟨same, steady⟩ := built.ticks_steady count
  have coherent := built.reached_coherent count
  have scale_pos := RunSettings.mapScale_pos built.validated
  have settings_eq : (ticks count (.start fleet)).fleet.settings = settings :=
    same.settings.trans built.settings_eq
  have route_eq : (ticks count (.start fleet)).fleet.route = route :=
    same.route.trans built.route_eq
  rw [ticks_succ, tick_eq coherent] at after_eq
  simp only [nextConvoys, List.getElem?_map, before_eq, Option.map_some, Option.some.injEq,
    settings_eq, route_eq] at after_eq
  have advances := (steady.convoys before (List.mem_of_getElem? before_eq)).tick scale_pos
    (ticks count (.start fleet)).fleet.dwell (ticks count (.start fleet)).fleet.clock.now
  rw [after_eq] at advances
  refine ⟨advances.2.leads, fun stays => advances.2.keeps ?_⟩
  by_contra arrived
  apply stays
  refine ⟨_, _, reports_eq_nextReports coherent, ?_, (Bool.not_eq_false _).mp arrived⟩
  simp only [nextReports, List.getElem?_map, before_eq, Option.map_some, settings_eq, route_eq]

theorem convoy_before {settings : RunSettings} {route : Route} {dwell : UInt64} {fleet : Fleet}
    (built : Fleet.Built settings route dwell fleet) (count : Nat) {place : Nat} {after : Convoy}
    (after_eq : (ticks (count + 1) (.start fleet)).fleet.convoys[place]? = some after) :
    ∃ before, (ticks count (.start fleet)).fleet.convoys[place]? = some before := by
  rw [ticks_succ, tick_eq (built.reached_coherent count)] at after_eq
  simp only [nextConvoys, List.getElem?_map, Option.map_eq_some_iff] at after_eq
  obtain ⟨before, before_eq, -⟩ := after_eq
  exact ⟨before, before_eq⟩

/-- As long as it does not arrive, a convoy keeps its direction and runs towards its end. -/
theorem leads_until_arrival {settings : RunSettings} {route : Route} {dwell : UInt64}
    {fleet : Fleet} (built : Fleet.Built settings route dwell fleet) {count place : Nat}
    {before : Convoy}
    (before_eq : (ticks count (.start fleet)).fleet.convoys[place]? = some before) (gap : Nat)
    {after : Convoy}
    (after_eq : (ticks (count + gap) (.start fleet)).fleet.convoys[place]? = some after)
    (under_way : ∀ between < gap, ¬ (ticks (count + between) (.start fleet)).Arrives place) :
    after.direction = before.direction ∧
      before.direction.Leads before.position after.position := by
  induction gap generalizing after with
  | zero =>
    rw [Nat.add_zero, before_eq] at after_eq
    obtain rfl := Option.some.inj after_eq
    exact ⟨rfl, .refl _ _⟩
  | succ gap ih =>
    obtain ⟨last, last_eq⟩ := convoy_before built (count + gap) after_eq
    obtain ⟨direction_eq, leads⟩ := ih last_eq fun between between_lt =>
      under_way between (Nat.lt_succ_of_lt between_lt)
    obtain ⟨leads_on, keeps⟩ := tick_advances built last_eq after_eq
    have kept := keeps (under_way gap (Nat.lt_succ_self gap))
    rw [direction_eq] at leads_on
    exact ⟨kept.trans direction_eq, leads.trans leads_on⟩

/-- After any number of ticks nothing has stopped the run, and every convoy is steady.  Until the
tick in which it arrives, and in that tick too, a convoy runs towards the end of its direction. -/
theorem steady_and_leading {settings : RunSettings} {route : Route} {plans : List DeparturePlan}
    {dwell : UInt64} {fleet : Fleet}
    (accepted : Fleet.build settings route plans dwell = .ok fleet) (count : Nat) :
    let reached := ticks count (.start fleet)
    reached.failure = none ∧
      (∀ convoy ∈ reached.fleet.convoys, convoy.Steady route settings) ∧
      ∀ gap place before after next,
        reached.fleet.convoys[place]? = some before →
        (ticks (count + gap) (.start fleet)).fleet.convoys[place]? = some after →
        (ticks (count + gap + 1) (.start fleet)).fleet.convoys[place]? = some next →
        (∀ between < gap, ¬ (ticks (count + between) (.start fleet)).Arrives place) →
        after.direction = before.direction ∧
          before.direction.Leads before.position after.position ∧
          before.direction.Leads after.position next.position := by
  have built := Fleet.built_of_build accepted
  obtain ⟨-, steady⟩ := built.ticks_steady count
  refine ⟨steady.failure_eq, steady.convoys, ?_⟩
  intro gap place before after next before_eq after_eq next_eq under_way
  obtain ⟨direction_eq, leads⟩ := leads_until_arrival built before_eq gap after_eq under_way
  have leads_on := (tick_advances built after_eq next_eq).1
  rw [direction_eq] at leads_on
  exact ⟨direction_eq, leads, leads_on⟩

/-- A railcar that shuttles on two sections is steady after every one of its ticks. -/
theorem shuttle_steady_and_leading :
    let route : Route := ⟨[⟨.track, 2, 80, 0, false⟩, ⟨.track, 1, 30, 5, false⟩], by decide,
      by decide, by decide⟩
    let plan : DeparturePlan :=
      { name := "Shuttle", vehicles := [.engine "Railcar" .track 40 100 300] }
    ∃ fleet, Fleet.build {} route [plan] 2 = .ok fleet ∧
      ∀ convoy ∈ (ticks 5 (.start fleet)).fleet.convoys, convoy.Steady route {} := by
  intro route plan
  have accepted : ∃ fleet, Fleet.build {} route [plan] 2 = .ok fleet := ⟨_, rfl⟩
  obtain ⟨fleet, accepted⟩ := accepted
  exact ⟨fleet, accepted, (steady_and_leading accepted 5).2.1⟩

end Progress

end Haulage
