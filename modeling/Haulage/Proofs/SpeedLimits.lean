import Haulage.Proofs.Keeping

/-!
# Section limits over a whole run

A convoy heeds one limit at a time, so where the limit falls twice within its braking distance it
may enter the second section too fast.  On a level route whose falls are far enough apart, and with
brakes that are not fierce, no convoy is ever faster than the limit of the section it is on.
-/

namespace Haulage

open Fixed

namespace Train

theorem level_ofVehicles {vehicles : List Vehicle} {way : Way}
    (of_way : ∀ vehicle ∈ vehicles, vehicle.way = way) : (ofVehicles vehicles).Level way := by
  intro car car_mem
  obtain ⟨vehicle, vehicle_mem, rfl⟩ := List.mem_map.mp car_mem
  have way_eq := of_way vehicle vehicle_mem
  exact ⟨way_eq, congrArg Way.baseFriction way_eq⟩

theorem Level.fill {train : Train} {way : Way} (level : train.Level way) :
    train.fill.Level way := by
  intro car car_mem
  obtain ⟨empty, empty_mem, rfl⟩ := List.mem_map.mp car_mem
  exact level empty empty_mem

end Train

namespace DeparturePlan

variable {plan : DeparturePlan} {route : Route} {way : Way}

/-- Empty or full, the train of the plan can keep to the limits of the route. -/
def Governed (plan : DeparturePlan) (route : Route) : Prop :=
  ∀ live : LiveConvoy,
    (Train.ofVehicles plan.vehicles).live {} = .ok live ∨
        (Train.ofVehicles plan.vehicles).fill.live {} = .ok live →
      live.Governable route

theorem loadedAs_place (plan : DeparturePlan) (id : ConvoyId) (route : Route) :
    (plan.place id route).train.LoadedAs plan.vehicles := by
  unfold place
  simp only
  apply Convoy.loadedAs_enter
  simp only
  split
  · exact .inr rfl
  · exact .inl rfl

/-- Every train of the vehicles of a governed plan has brakes that govern it. -/
theorem Governed.govern (governed : plan.Governed route) (checked : plan.check route = .ok ())
    (of_way : ∀ vehicle ∈ plan.vehicles, vehicle.way = way)
    (limited : ∀ stretch ∈ route.sections, stretch.Limited) {train : Train}
    (loaded : train.LoadedAs plan.vehicles) : (train.brakes way).Govern route := by
  have heavy : ∀ vehicle ∈ plan.vehicles, 0 < vehicle.tonnes.toNat :=
    fun vehicle vehicle_mem => (vehicle_of_check checked vehicle vehicle_mem).1
  have level := Train.level_ofVehicles of_way
  have govern_of : ∀ reference : Train, reference.vehicles = plan.vehicles → reference.Level way →
      (∀ live, reference.live {} = .ok live → live.Governable route) →
        (reference.brakes way).Govern route := by
    intro reference vehicles_eq level governable
    rw [← vehicles_eq] at heavy
    have nonempty : reference.vehicles ≠ [] := vehicles_eq ▸ nonempty_of_check checked
    obtain ⟨live, live_eq, -⟩ := Train.live_of_vehicles nonempty {}
    exact (governable live live_eq).govern live_eq level heavy limited
  rcases loaded.brakes_eq way with brakes_eq | brakes_eq
  · rw [brakes_eq]
    exact govern_of _ (Train.vehicles_ofVehicles _) level fun live live_eq =>
      governed live (.inl live_eq)
  · rw [brakes_eq]
    apply govern_of _ _ level.fill fun live live_eq => governed live (.inr live_eq)
    rw [Train.vehicles_fill, Train.vehicles_ofVehicles]

end DeparturePlan

namespace Convoy

/-- A convoy on a level route obeys its limits, and its train can do so with either load. -/
def Lawful (convoy : Convoy) (route : Route) (settings : RunSettings) : Prop :=
  ∃ vehicles way, convoy.Obeying route settings vehicles way ∧ route.LevelOf way ∧
    ∀ train : Train, train.LoadedAs vehicles → (train.brakes way).Govern route

variable {convoy : Convoy} {route : Route} {settings : RunSettings}

theorem Lawful.steady (lawful : convoy.Lawful route settings) : convoy.Steady route settings := by
  obtain ⟨_, _, obeying, -⟩ := lawful
  exact obeying.steady

theorem Lawful.tick (lawful : convoy.Lawful route settings) (world_eq : settings.world = {})
    (ticks_eq : settings.engineTicks = 64) (limited : ∀ stretch ∈ route.sections, stretch.Limited)
    (dwell : UInt64) (now : Tick) :
    (convoy.afterTick route settings dwell now).Lawful route settings := by
  obtain ⟨vehicles, way, obeying, level, govern⟩ := lawful
  have after := obeying.tick world_eq ticks_eq level limited (govern _ obeying.loaded) dwell now
  exact ⟨vehicles, way, after, level, govern⟩

theorem Lawful.within (lawful : convoy.Lawful route settings)
    (limited : ∀ stretch ∈ route.sections, stretch.Limited) :
    ∃ stretch, route.get? convoy.stretch = some stretch ∧
      convoy.motion.speed ≤ Units.speedOfKmh stretch.maxSpeed := by
  obtain ⟨vehicles, way, obeying, -, govern⟩ := lawful
  have placed := obeying.steady.placed
  obtain ⟨passed, here, ahead, start, finish, standing⟩ :=
    Route.standing_of_short placed.inside placed.short
  have here_limited := (Convoy.vista_of_standing standing limited).here_limited
  have within := obeying.within (govern _ obeying.loaded).firm here_limited standing
  refine ⟨here, ?_, Int32.le_iff_toInt_le.mpr within.2⟩
  rw [placed.stretch_eq]
  exact standing.under

end Convoy

/-- The convoy of a governed plan starts lawful. -/
theorem DeparturePlan.Governed.place_lawful {plan : DeparturePlan} {route : Route}
    {settings : RunSettings} (governed : plan.Governed route) (checked : plan.check route = .ok ())
    (level : ∀ stretch ∈ route.sections, stretch.slope = 0)
    (limited : ∀ stretch ∈ route.sections, stretch.Limited) (id : ConvoyId) :
    (plan.place id route).Lawful route settings := by
  obtain ⟨first, first_mem⟩ := List.exists_mem_of_ne_nil _ (nonempty_of_check checked)
  obtain ⟨under, under_mem⟩ := List.exists_mem_of_ne_nil _ route.nonempty
  have ways := vehicle_of_check checked
  have of_way : ∀ vehicle ∈ plan.vehicles, vehicle.way = first.way := by
    intro vehicle vehicle_mem
    exact ((ways vehicle vehicle_mem).2 under under_mem).symm.trans
      ((ways first first_mem).2 under under_mem)
  have obeying : (plan.place id route).Obeying route settings plan.vehicles first.way :=
    ⟨place_steady checked id settings, loadedAs_place plan id route,
      Convoy.heedful_of_standing rfl limited⟩
  exact ⟨plan.vehicles, first.way, obeying,
    fun stretch stretch_mem => ⟨(ways first first_mem).2 stretch stretch_mem,
      level stretch stretch_mem⟩,
    fun _ loaded => governed.govern checked of_way limited loaded⟩

namespace Progress

/-- On a level route whose falls of the limit are far enough apart for the brakes of every train,
every convoy is within the limit of the section it is on, after any number of ticks. -/
theorem limits_obeyed {settings : RunSettings} {route : Route} {plans : List DeparturePlan}
    {dwell : UInt64} {fleet : Fleet}
    (accepted : Fleet.build settings route plans dwell = .ok fleet)
    (world_eq : settings.world = {}) (ticks_eq : settings.engineTicks = 64)
    (level : ∀ stretch ∈ route.sections, stretch.slope = 0 ∧ stretch.maxSpeed ≤ 7372)
    (governed : ∀ plan ∈ plans, plan.Governed route) (count : Nat) :
    let reached := ticks count (.start fleet)
    reached.failure = none ∧
      ∀ convoy ∈ reached.fleet.convoys, ∃ stretch, route.get? convoy.stretch = some stretch ∧
        convoy.motion.speed ≤ Units.speedOfKmh stretch.maxSpeed := by
  obtain ⟨-, convoys, placed_eq, rfl⟩ := Fleet.build_cases accepted
  have limited : ∀ stretch ∈ route.sections, stretch.Limited := fun stretch stretch_mem =>
    ⟨(route.passable stretch stretch_mem).2, (level stretch stretch_mem).2⟩
  have starts : (start { settings, clock := settings.clock, route, convoys, dwell }).All
      (Convoy.Lawful · route settings) := by
    refine ⟨rfl, fun convoy convoy_mem => ?_⟩
    obtain ⟨plan, plan_mem, id, checked, rfl⟩ :=
      DeparturePlan.mem_placeAll placed_eq convoy convoy_mem
    exact (governed plan plan_mem).place_lawful checked
      (fun stretch stretch_mem => (level stretch stretch_mem).1) limited id
  have lawful := (ticks_all (fun _ lawful => lawful.steady.coherent)
    (fun _ now lawful => lawful.tick world_eq ticks_eq limited dwell now) starts count).2
  exact ⟨lawful.failure_eq, fun convoy convoy_mem =>
    (lawful.convoys convoy convoy_mem).within limited⟩

/-- A train of a railcar and a wagon runs down to slower and slower sections and back, empty and
full, within the limits. -/
theorem descent_limits_obeyed :
    let route : Route := ⟨[⟨.track, 40, 60, 0, false⟩, ⟨.track, 100, 40, 0, false⟩,
      ⟨.track, 30, 20, 0, false⟩], by decide, by decide, by decide⟩
    let plan : DeparturePlan :=
      { name := "Descent"
        vehicles := [.engine "Railcar" .track 40 100 300,
          .wagon "Hopper" .track 10 80 20 (.uniform 1000)] }
    ∃ fleet, Fleet.build {} route [plan] 2 = .ok fleet ∧
      ∀ convoy ∈ (ticks 300 (.start fleet)).fleet.convoys, ∃ stretch,
        route.get? convoy.stretch = some stretch ∧
          convoy.motion.speed ≤ Units.speedOfKmh stretch.maxSpeed := by
  intro route plan
  have accepted : ∃ fleet, Fleet.build {} route [plan] 2 = .ok fleet := ⟨_, rfl⟩
  obtain ⟨fleet, accepted⟩ := accepted
  have governed : plan.Governed route := by
    intro live live_eq
    rcases live_eq with empty | full
    · obtain rfl := Except.ok.inj empty
      exact LiveConvoy.governable_three rfl (by decide +kernel) (by decide +kernel)
        (by decide +kernel)
    · obtain rfl := Except.ok.inj full
      exact LiveConvoy.governable_three rfl (by decide +kernel) (by decide +kernel)
        (by decide +kernel)
  refine ⟨fleet, accepted, ?_⟩
  refine (limits_obeyed accepted rfl rfl (by decide) ?_ 300).2
  intro other other_mem
  obtain rfl := List.mem_singleton.mp other_mem
  exact governed

/-- A fleet of one convoy of one vehicle on level sections, which some ticks bring above the limit
of the section it is on. -/
def Exceeds (route : Route) (vehicle : Vehicle) (count : Nat) : Prop :=
  (∀ stretch ∈ route.sections, stretch.slope = 0 ∧ stretch.maxSpeed ≤ Units.unlimitedKmh) ∧
    ∃ fleet, Fleet.build {} route [{ name := "Racer", vehicles := [vehicle] }] 2 = .ok fleet ∧
      ∃ convoy ∈ (ticks count (.start fleet)).fleet.convoys,
        ∃ stretch ∈ route.get? convoy.stretch,
          Units.speedOfKmh stretch.maxSpeed < convoy.motion.speed

/-- Where falls of the limit are close together the nearer one hides the other, and the braking
distances of fierce brakes round to nothing.  So level sections alone do not keep a convoy within
their limits. -/
theorem limits_exceeded :
    Exceeds
        ⟨[⟨.maglev, 2, 120, 0, false⟩, ⟨.maglev, 3, 80, 0, false⟩, ⟨.maglev, 300, 10, 0, false⟩],
          by decide, by decide, by decide⟩
        { name := "Hasty", way := .maglev, tonnes := 20, topKmh := 80, powerKw := 5000
          effortKn := 500 } 1 ∧
      Exceeds
        ⟨[⟨.maglev, 3, 20, 0, false⟩, ⟨.maglev, 50, 5, 0, false⟩], by decide, by decide, by decide⟩
        { name := "Fierce", way := .maglev, tonnes := 20, topKmh := 20, powerKw := 5000
          effortKn := 400, brakeKn := some 4000000000 } 1 := by
  refine ⟨⟨by decide, _, rfl, ?_⟩, ⟨by decide, _, rfl, ?_⟩⟩
  · decide +kernel
  · decide +kernel

end Progress

end Haulage
