import Haulage.Fleet
import Haulage.Proofs.Coherence
import Mathlib.Tactic.Set

/-!
# One tick of a convoy whose kept values agree

A convoy is coherent if it has cars and every value kept of it is the one that its train, as it now
stands, would tell.  Such a convoy can always be moved, and what it does in a tick follows from its
train alone.  It is still coherent afterwards: whatever changes its load or the way under it drops
what hangs on that, and its vehicles never change.
-/

namespace Haulage

namespace Train

/-- The catalog entries of the cars, front first. -/
def vehicles (train : Train) : List Vehicle := train.cars.map Car.vehicle

@[simp] theorem vehicles_setWay (context : WayContext) (train : Train) :
    (train.setWay context).vehicles = train.vehicles := by
  simp only [vehicles, setWay, List.map_map]
  rfl

@[simp] theorem vehicles_fill (train : Train) : train.fill.vehicles = train.vehicles := by
  simp only [vehicles, fill, List.map_map]
  rfl

@[simp] theorem vehicles_clear (train : Train) : train.clear.vehicles = train.vehicles := by
  simp only [vehicles, clear, List.map_map]
  rfl

@[simp] theorem vehicles_ofVehicles (vehicles : List Vehicle) :
    (ofVehicles vehicles).vehicles = vehicles := by
  simp only [Train.vehicles, ofVehicles, List.map_map]
  exact List.map_id vehicles

/-- A train with cars is a live convoy of its vehicles. -/
theorem live_of_vehicles {train : Train} (nonempty : train.vehicles ≠ []) (world : World) :
    ∃ live, train.live world = .ok live ∧ live.cars = train.cars.map Car.live ∧
      live.world = world := by
  have cars_nonempty : train.cars.map Car.live ≠ [] := by
    intro no_cars
    apply nonempty
    rw [List.map_eq_nil_iff] at no_cars
    rw [vehicles, no_cars, List.map_nil]
  exact ⟨⟨train.cars.map Car.live, world, cars_nonempty⟩, dif_neg cars_nonempty, rfl, rfl⟩

end Train

namespace Cache

variable {cache : Cache} {live moved : LiveConvoy}

/-- Without what hangs on load and place, the kept values are those of the vehicles. -/
theorem AgreesLoaded.dropAdverse (agrees : cache.AgreesLoaded live)
    (vehicles_eq : moved.vehicles = live.vehicles) (world_eq : moved.world = live.world) :
    cache.dropAdverse.AgreesLoaded moved := by
  have summary_eq : Source.vehicleSummary moved = Source.vehicleSummary live :=
    congrArg VehicleSummary.ofList vehicles_eq
  have freight_eq : Source.freightSummary moved = Source.freightSummary live :=
    congrArg FreightSummary.ofList vehicles_eq
  have curves_eq : Source.curves moved = Source.curves live := by
    change Curves.ofVehicles moved.vehicles moved.world = Curves.ofVehicles live.vehicles live.world
    rw [vehicles_eq, world_eq]
  exact
    { vehicle := fun kept kept_mem => (agrees.vehicle kept kept_mem).trans summary_eq.symm
      adverse := by simp [Cache.dropAdverse]
      freight := fun kept kept_mem => (agrees.freight kept kept_mem).trans freight_eq.symm
      startingForce := by
        rw [curves_eq]
        exact agrees.startingForce
      continuousPower := by
        rw [curves_eq, summary_eq]
        exact agrees.continuousPower
      weight := by simp [Cache.dropAdverse, Cache.dropWeight] }

end Cache

namespace Convoy

/-- The convoy has cars, and every value kept of it is the one that its train would tell now. -/
def Coherent (world : World) (convoy : Convoy) : Prop :=
  ∃ live, convoy.train.live world = .ok live ∧ convoy.cache.AgreesLoaded live

variable {world : World} {convoy : Convoy}

theorem Coherent.vehicles_nonempty (coherent : convoy.Coherent world) :
    convoy.train.vehicles ≠ [] := by
  obtain ⟨live, live_eq, -⟩ := coherent
  intro no_vehicles
  rw [Train.vehicles, List.map_eq_nil_iff] at no_vehicles
  have no_cars : convoy.train.cars.map Car.live = [] := by rw [no_vehicles, List.map_nil]
  have refused : convoy.train.live world = .error .empty := dif_pos no_cars
  rw [refused] at live_eq
  contradiction

theorem vehicles_of_live {train : Train} {live : LiveConvoy}
    (live_eq : train.live world = .ok live) :
    live.vehicles = train.vehicles ∧ live.world = world := by
  unfold Train.live LiveConvoy.ofCars at live_eq
  split at live_eq
  · contradiction
  · obtain rfl := Except.ok.inj live_eq
    refine ⟨?_, rfl⟩
    simp only [LiveConvoy.vehicles, Train.vehicles, List.map_map]
    rfl

/-- A coherent convoy stays so with another train of the same vehicles, if what hangs on load and
place is dropped. -/
theorem Coherent.withTrain (coherent : convoy.Coherent world) {moved : Convoy}
    (vehicles_eq : moved.train.vehicles = convoy.train.vehicles)
    (cache_eq : moved.cache = convoy.cache.dropAdverse) : moved.Coherent world := by
  have nonempty := coherent.vehicles_nonempty
  obtain ⟨live, live_eq, agrees⟩ := coherent
  obtain ⟨live', live_eq', -, world_eq'⟩ := Train.live_of_vehicles (vehicles_eq ▸ nonempty) world
  have before := vehicles_of_live live_eq
  have after := vehicles_of_live live_eq'
  refine ⟨live', live_eq', ?_⟩
  rw [cache_eq]
  exact agrees.dropAdverse (after.1.trans (vehicles_eq.trans before.1.symm))
    (after.2.trans before.2.symm)

end Convoy

namespace LiveConvoy

/-- The motion of a live convoy after a tick, and whether it moves or could, found afresh. -/
def driven (live : LiveConvoy) (cruise : MoveRequest) (points : List LimitPoint)
    (motion : MotionState) : Bool × MotionState :=
  let profile := Profile.ofSource live
  let weight := live.weight
  let request := profile.outlook weight cruise points motion
  let moved := profile.move request weight motion
  (0 < moved.speed || 0 < profile.maxSpeed weight, moved)

theorem driven_fst (live : LiveConvoy) (cruise : MoveRequest) (points : List LimitPoint)
    (motion : MotionState) :
    (live.driven cruise points motion).1 =
      (decide (0 < (live.driven cruise points motion).2.speed) ||
        decide (0 < (Profile.ofSource live).maxSpeed live.weight)) := rfl

end LiveConvoy

namespace Convoy

/-- What a memo that agrees tells of a tick is what its source tells afresh. -/
theorem drive_eq_driven {live : LiveConvoy} {cache : Cache} (agrees : cache.AgreesLoaded live)
    (cruise : MoveRequest) (points : List LimitPoint) (motion : MotionState) :
    ∃ after : Cache, after.AgreesLoaded live ∧
      drive cruise points ⟨live, cache⟩ motion =
        ((live.driven cruise points motion).1, ⟨live, after⟩,
          (live.driven cruise points motion).2) := by
  obtain ⟨weighed, weighed_agrees, weight_eq⟩ := Memo.askWeight_eq agrees
  obtain ⟨planned, planned_agrees, request_eq⟩ := Memo.ask_eq weighed_agrees
    (.outlook (LoadedSource.weightSummary live) cruise points motion)
  obtain ⟨moved, moved_agrees, motion_eq⟩ := Memo.ask_eq planned_agrees
    (.move ((Query.outlook (LoadedSource.weightSummary live) cruise points motion).answer
      (.ofSource live)) (LoadedSource.weightSummary live) motion)
  obtain ⟨topped, topped_agrees, top_eq⟩ := Memo.ask_eq moved_agrees
    (.maxSpeed (LoadedSource.weightSummary live))
  simp only [drive, weight_eq, request_eq, motion_eq, top_eq]
  split
  · next moves =>
    have moving : 0 < (live.driven cruise points motion).2.speed := moves
    refine ⟨moved, moved_agrees, Prod.ext ?_ rfl⟩
    rw [LiveConvoy.driven_fst, decide_eq_true moving, Bool.true_or]
  · next stands =>
    have standing : ¬ 0 < (live.driven cruise points motion).2.speed := stands
    refine ⟨topped, topped_agrees, Prod.ext ?_ rfl⟩
    rw [LiveConvoy.driven_fst, decide_eq_false standing, Bool.false_or]
    rfl

variable {world : World} {convoy : Convoy} {route : Route} {settings : RunSettings}
  {dwell : UInt64} {now : Tick}

/-- The convoy with other kept values. -/
def withCache (convoy : Convoy) (cache : Cache) : Convoy := { convoy with cache }

/-- The convoy with nothing kept of its physics. -/
def forget (convoy : Convoy) : Convoy := convoy.withCache .empty

/-- The convoy on its way with another motion. -/
def underway (convoy : Convoy) (motion : MotionState) : Convoy :=
  { convoy with phase := .running, motion }

/-- What the mover makes of a convoy in a tick, found afresh from its train: whether it moves or
could, and its motion. -/
def driven (convoy : Convoy) (live : LiveConvoy) (route : Route) (settings : RunSettings) :
    Bool × MotionState :=
  live.driven (convoy.cruise route settings)
    (route.limitsAhead convoy.position convoy.direction) convoy.motion

/-- A convoy that may move through one tick, found afresh from its train. -/
def freshStep (convoy : Convoy) (live : LiveConvoy) (route : Route) (settings : RunSettings)
    (dwell : UInt64) (now : Tick) : Convoy × StepReport :=
  (convoy.forget.underway (convoy.driven live route settings).2).settle route dwell now
    (convoy.driven live route settings).1 { departed := !convoy.isRunning }

/-- The convoy with its whole steps taken out into its position. -/
def stepped (convoy : Convoy) (route : Route) : Convoy :=
  { convoy with
    position :=
      route.advance convoy.position convoy.direction (reportedSteps convoy.motion.wholeSteps)
    motion := convoy.motion.dropSteps }

/-- The section under the head of the convoy, found anew. -/
def sectionUnder (convoy : Convoy) (route : Route) : SectionId :=
  route.sectionAt convoy.position convoy.direction

/-- After it has moved a convoy arrives, or it stays on its section, or it enters another one. -/
theorem settle_cases (convoy : Convoy) (route : Route) (dwell : UInt64) (now : Tick)
    (canRestart : Bool) (report : StepReport) :
    let moved := convoy.stepped route
    let settled := convoy.settle route dwell now canRestart report
    (moved.position = route.endPosition convoy.direction ∧
        settled.1 = moved.arrive route dwell now ∧ settled.2.arrived = true) ∨
      (moved.position ≠ route.endPosition convoy.direction ∧
        settled.2.arrived = report.arrived ∧
        (moved.sectionUnder route = convoy.stretch ∧
            settled.1 = { moved with stalled := !canRestart } ∨
          settled.1 =
            { moved.enter route (moved.sectionUnder route) with stalled := !canRestart })) := by
  intro moved settled
  by_cases reached : moved.position = route.endPosition convoy.direction
  · have settled_eq : settled =
        (moved.arrive route dwell now,
          { report with steps := reportedSteps convoy.motion.wholeSteps, arrived := true }) :=
      if_pos reached
    exact .inl ⟨reached, by rw [settled_eq], by rw [settled_eq]⟩
  · refine .inr ⟨reached, ?_⟩
    let entered : Convoy × StepReport :=
      if moved.sectionUnder route = convoy.stretch then
        (moved, { report with steps := reportedSteps convoy.motion.wholeSteps })
      else
        (moved.enter route (moved.sectionUnder route),
          { report with
            steps := reportedSteps convoy.motion.wholeSteps
            entered := some (moved.sectionUnder route) })
    have settled_eq : settled =
        if canRestart then ({ entered.1 with stalled := false }, entered.2)
        else
          ({ entered.1 with stalled := true }, { entered.2 with stalled := !entered.1.stalled }) :=
      if_neg reached
    by_cases same : moved.sectionUnder route = convoy.stretch
    · have entered_eq : entered = _ := if_pos same
      rw [settled_eq, entered_eq]
      cases canRestart with
      | true => exact ⟨rfl, .inl ⟨same, rfl⟩⟩
      | false => exact ⟨rfl, .inl ⟨same, rfl⟩⟩
    · have entered_eq : entered = _ := if_neg same
      rw [settled_eq, entered_eq]
      cases canRestart with
      | true => exact ⟨rfl, .inr rfl⟩
      | false => exact ⟨rfl, .inr rfl⟩

@[simp] theorem vehicles_enter (stretch : SectionId) :
    (convoy.enter route stretch).train.vehicles = convoy.train.vehicles := by
  unfold enter
  simp only
  split
  · exact Train.vehicles_setWay _ _
  · rfl

@[simp] theorem vehicles_arrive :
    (convoy.arrive route dwell now).train.vehicles = convoy.train.vehicles := by
  unfold arrive
  simp only [vehicles_enter]
  split
  · exact Train.vehicles_clear _
  · exact Train.vehicles_fill _

/-- Arriving and entering a section drop all that a load or a place changes. -/
theorem Coherent.settle (coherent : convoy.Coherent world) (route : Route) (dwell : UInt64)
    (now : Tick) (canRestart : Bool) (report : StepReport) :
    (convoy.settle route dwell now canRestart report).1.Coherent world := by
  rcases convoy.settle_cases route dwell now canRestart report with
    ⟨-, settled_eq, -⟩ | ⟨-, -, ⟨-, settled_eq⟩ | settled_eq⟩
  · rw [settled_eq]
    exact coherent.withTrain vehicles_arrive rfl
  · rw [settled_eq]
    exact coherent
  · rw [settled_eq]
    exact coherent.withTrain (vehicles_enter _) rfl

/-- What a convoy does after it has moved does not depend on what is kept of it. -/
theorem settle_withCache (convoy : Convoy) (cache : Cache) (route : Route) (dwell : UInt64)
    (now : Tick) (canRestart : Bool) (report : StepReport) :
    ∃ after : Cache,
      (convoy.withCache cache).settle route dwell now canRestart report =
        ((convoy.settle route dwell now canRestart report).1.withCache after,
          (convoy.settle route dwell now canRestart report).2) := by
  unfold Convoy.settle withCache
  simp only
  split
  · exact ⟨_, rfl⟩
  · split
    · split <;> exact ⟨_, rfl⟩
    · split <;> exact ⟨_, rfl⟩

theorem withPhysics_of_memo {α : Type} {memo : Memo LiveConvoy}
    (memo_eq : convoy.memo world = .ok memo)
    (action : Memo LiveConvoy → MotionState → α × Memo LiveConvoy × MotionState) :
    convoy.withPhysics world action =
      .ok ((action memo convoy.motion).1,
        { convoy with
          cache := (action memo convoy.motion).2.1.cache
          motion := (action memo convoy.motion).2.2 }) := by
  rw [withPhysics, memo_eq]
  rfl

/-- A coherent convoy that may move does in a tick what its train alone tells. -/
theorem run_eq_freshStep {live : LiveConvoy} (live_eq : convoy.train.live settings.world = .ok live)
    (agrees : convoy.cache.AgreesLoaded live) (route : Route) (dwell : UInt64) (now : Tick) :
    ∃ after : Cache,
      ((convoy.freshStep live route settings dwell now).1.withCache after).Coherent
        settings.world ∧
      (convoy.underway convoy.motion).run route settings dwell now
          { departed := !convoy.isRunning } =
        .ok ((convoy.freshStep live route settings dwell now).1.withCache after,
          (convoy.freshStep live route settings dwell now).2) := by
  obtain ⟨kept, kept_agrees, drive_eq⟩ := drive_eq_driven agrees (convoy.cruise route settings)
    (route.limitsAhead convoy.position convoy.direction) convoy.motion
  let moved := convoy.forget.underway (convoy.driven live route settings).2
  have moved_coherent : (moved.withCache kept).Coherent settings.world :=
    ⟨live, live_eq, kept_agrees⟩
  have run_eq : (convoy.underway convoy.motion).run route settings dwell now
      { departed := !convoy.isRunning } =
        .ok ((moved.withCache kept).settle route dwell now (convoy.driven live route settings).1
          { departed := !convoy.isRunning }) := by
    have memo_eq : (convoy.underway convoy.motion).memo settings.world =
        .ok ⟨live, convoy.cache⟩ := by
      change (convoy.train.live settings.world).map _ = _
      rw [live_eq]
      rfl
    have moved_eq := withPhysics_of_memo memo_eq (drive (convoy.cruise route settings)
      (route.limitsAhead convoy.position convoy.direction))
    have motion_eq : (convoy.underway convoy.motion).motion = convoy.motion := rfl
    rw [motion_eq, drive_eq] at moved_eq
    change ((convoy.underway convoy.motion).withPhysics settings.world (drive
      (convoy.cruise route settings)
      (route.limitsAhead convoy.position convoy.direction))).map _ = _
    rw [moved_eq]
    rfl
  obtain ⟨after, settle_eq⟩ := settle_withCache moved kept route dwell now
    (convoy.driven live route settings).1 { departed := !convoy.isRunning }
  have settled := moved_coherent.settle route dwell now
    (convoy.driven live route settings).1 { departed := !convoy.isRunning }
  rw [settle_eq] at run_eq settled
  exact ⟨after, settled, run_eq⟩

/-- A coherent convoy waits on, or it does what its train alone tells; it is coherent after. -/
theorem Coherent.step_cases (coherent : convoy.Coherent settings.world) (route : Route)
    (dwell : UInt64) (now : Tick) :
    (∃ deadline, convoy.phase = .waiting deadline ∧ now < deadline ∧
      convoy.step route settings dwell now = (convoy, .ok {})) ∨
    ∃ live after, convoy.train.live settings.world = .ok live ∧
      ((convoy.freshStep live route settings dwell now).1.withCache after).Coherent
        settings.world ∧
      convoy.step route settings dwell now =
        ((convoy.freshStep live route settings dwell now).1.withCache after,
          .ok (convoy.freshStep live route settings dwell now).2) := by
  obtain ⟨live, live_eq, agrees⟩ := coherent
  obtain ⟨after, after_coherent, run_eq⟩ := run_eq_freshStep live_eq agrees route dwell now
  cases phase_eq : convoy.phase with
  | waiting deadline =>
    have departs : (!convoy.isRunning) = true := by simp [isRunning, phase_eq]
    by_cases early : now < deadline
    · refine .inl ⟨deadline, rfl, early, ?_⟩
      simp only [step, phase_eq, if_pos early]
    · refine .inr ⟨live, after, live_eq, after_coherent, ?_⟩
      rw [departs, underway] at run_eq
      simp only [step, phase_eq, if_neg early, run_eq]
  | running =>
    have runs : (!convoy.isRunning) = false := by simp [isRunning, phase_eq]
    have same : convoy.underway convoy.motion = convoy := by rw [underway, ← phase_eq]
    rw [runs, same] at run_eq
    refine .inr ⟨live, after, live_eq, after_coherent, ?_⟩
    simp only [step, phase_eq, run_eq]

end Convoy

end Haulage
