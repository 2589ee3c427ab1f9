import Haulage.Proofs.Stepping

/-!
# Runs of a fleet

A fleet that was built consists of coherent convoys, and a tick of coherent convoys moves each of
them by itself and fails for none.  So whatever holds of every convoy of a fleet at its start, and
is kept by a tick of one convoy, holds of every convoy after any number of ticks.
-/

namespace Haulage

namespace Convoy

variable {convoy : Convoy} {route : Route} {settings : RunSettings} {dwell : UInt64} {now : Tick}

/-- The convoy after a tick. -/
def afterTick (convoy : Convoy) (route : Route) (settings : RunSettings) (dwell : UInt64)
    (now : Tick) : Convoy :=
  (convoy.step route settings dwell now).1

/-- What is reported of the convoy in a tick, if it can be moved. -/
def tickReport (convoy : Convoy) (route : Route) (settings : RunSettings) (dwell : UInt64)
    (now : Tick) : StepReport :=
  match (convoy.step route settings dwell now).2 with
  | .ok report => report
  | .error _ => {}

theorem Coherent.step_eq (coherent : convoy.Coherent settings.world) :
    convoy.step route settings dwell now =
      (convoy.afterTick route settings dwell now,
        .ok (convoy.tickReport route settings dwell now)) := by
  unfold afterTick tickReport
  rcases coherent.step_cases route dwell now with
    ⟨_, -, -, step_eq⟩ | ⟨_, _, -, -, step_eq⟩
  · rw [step_eq]
  · rw [step_eq]

theorem Coherent.afterTick (coherent : convoy.Coherent settings.world) (route : Route)
    (dwell : UInt64) (now : Tick) :
    (convoy.afterTick route settings dwell now).Coherent settings.world := by
  unfold Convoy.afterTick
  rcases coherent.step_cases route dwell now with
    ⟨_, -, -, step_eq⟩ | ⟨_, _, -, after_coherent, step_eq⟩
  · rw [step_eq]
    exact coherent
  · rw [step_eq]
    exact after_coherent

end Convoy

namespace Fleet

/-- Coherent convoys are moved each by itself, and none of them fails. -/
theorem stepAll_eq (route : Route) (settings : RunSettings) (dwell : UInt64) (now : Tick)
    (convoys : List Convoy) (coherent : ∀ convoy ∈ convoys, convoy.Coherent settings.world) :
    stepAll route settings dwell now convoys =
      (convoys.map fun convoy => convoy.afterTick route settings dwell now,
        .ok (convoys.map fun convoy => convoy.tickReport route settings dwell now)) := by
  induction convoys with
  | nil => rfl
  | cons convoy convoys ih =>
    have first := coherent convoy List.mem_cons_self
    have rest := ih fun other other_mem => coherent other (List.mem_cons_of_mem convoy other_mem)
    simp only [stepAll, first.step_eq, rest, List.map_cons]
    rfl

end Fleet

namespace Progress

/-- Nothing stopped the run, and something holds of every convoy. -/
structure All (holds : Convoy → Prop) (progress : Progress) : Prop where
  /-- The run was not stopped. -/
  failure_eq : progress.failure = none
  /-- It holds of every convoy. -/
  convoys : ∀ convoy ∈ progress.fleet.convoys, holds convoy

/-- The convoys after one more tick. -/
def nextConvoys (progress : Progress) : List Convoy :=
  progress.fleet.convoys.map fun convoy =>
    convoy.afterTick progress.fleet.route progress.fleet.settings progress.fleet.dwell
      progress.fleet.clock.now

/-- What one more tick reports of the convoys, if they can be moved. -/
def reports (progress : Progress) : Except ConvoyError (List StepReport) :=
  (Fleet.stepAll progress.fleet.route progress.fleet.settings progress.fleet.dwell
    progress.fleet.clock.now progress.fleet.convoys).2

/-- What one more tick reports of coherent convoys. -/
def nextReports (progress : Progress) : List StepReport :=
  progress.fleet.convoys.map fun convoy =>
    convoy.tickReport progress.fleet.route progress.fleet.settings progress.fleet.dwell
      progress.fleet.clock.now

theorem tick_eq {progress : Progress}
    (coherent : progress.All (Convoy.Coherent progress.fleet.settings.world)) :
    progress.tick =
      { fleet := { progress.fleet with
          convoys := progress.nextConvoys, clock := progress.fleet.clock.advance }
        events := (progress.events.push (.tickStart progress.fleet.clock.now)).appendList
          ({ progress.fleet with convoys := progress.nextConvoys }.tickEvents
            progress.fleet.clock.now progress.nextReports) } := by
  unfold tick
  simp only [coherent.failure_eq, Fleet.stepAll_eq _ _ _ _ _ coherent.convoys]
  rfl

theorem reports_eq_nextReports {progress : Progress}
    (coherent : progress.All (Convoy.Coherent progress.fleet.settings.world)) :
    progress.reports = .ok progress.nextReports := by
  rw [reports, Fleet.stepAll_eq _ _ _ _ _ coherent.convoys]
  rfl

/-- One more tick at the end of a run. -/
theorem ticks_succ (count : Nat) (progress : Progress) :
    ticks (count + 1) progress = (ticks count progress).tick := by
  induction count generalizing progress with
  | zero =>
    unfold ticks
    cases failure_eq : progress.failure with
    | none => simp only [ticks]
    | some error => simp only [tick, failure_eq]
  | succ count ih =>
    rw [ticks]
    cases failure_eq : progress.failure with
    | none =>
      simp only
      rw [ih progress.tick, ticks, failure_eq]
    | some error => simp only [ticks, tick, failure_eq]

/-- What stays the same in a run. -/
structure SameSetup (first second : Progress) : Prop where
  /-- The settings. -/
  settings : second.fleet.settings = first.fleet.settings
  /-- The route. -/
  route : second.fleet.route = first.fleet.route
  /-- The length of a stop. -/
  dwell : second.fleet.dwell = first.fleet.dwell

/-- What holds of every convoy at the start, and is kept by a tick of one convoy, holds of every
convoy after any number of ticks. -/
theorem ticks_all {holds : Convoy → Prop} {progress : Progress}
    (coherent_of : ∀ convoy, holds convoy → convoy.Coherent progress.fleet.settings.world)
    (tick_keeps : ∀ convoy now, holds convoy →
      holds (convoy.afterTick progress.fleet.route progress.fleet.settings progress.fleet.dwell
        now))
    (starts : progress.All holds) (count : Nat) :
    SameSetup progress (ticks count progress) ∧ (ticks count progress).All holds := by
  induction count with
  | zero => exact ⟨⟨rfl, rfl, rfl⟩, starts⟩
  | succ count ih =>
    obtain ⟨same, reached⟩ := ih
    have coherent : (ticks count progress).All
        (Convoy.Coherent (ticks count progress).fleet.settings.world) := by
      refine ⟨reached.failure_eq, fun convoy convoy_mem => ?_⟩
      rw [same.settings]
      exact coherent_of convoy (reached.convoys convoy convoy_mem)
    rw [ticks_succ, tick_eq coherent]
    refine ⟨⟨same.settings, same.route, same.dwell⟩, rfl, fun convoy convoy_mem => ?_⟩
    obtain ⟨before, before_mem, rfl⟩ := List.mem_map.mp convoy_mem
    rw [same.settings, same.route, same.dwell]
    exact tick_keeps before _ (reached.convoys before before_mem)

end Progress

namespace DeparturePlan

theorem nonempty_of_check {plan : DeparturePlan} {route : Route}
    (checked : plan.check route = .ok ()) : plan.vehicles ≠ [] := by
  intro no_vehicles
  have refused : plan.check route = .error (.convoy .empty) := by
    rw [check, no_vehicles]
    rfl
  rw [refused] at checked
  contradiction

theorem forM_ok {check : Vehicle → Except FleetError Unit} {vehicles : List Vehicle}
    (passed : vehicles.forM check = .ok ()) : ∀ vehicle ∈ vehicles, check vehicle = .ok () := by
  induction vehicles with
  | nil => simp
  | cons first rest ih =>
    rw [List.forM_eq_forM, List.forM_cons] at passed
    cases first_eq : check first with
    | error error =>
      rw [first_eq] at passed
      contradiction
    | ok _ =>
      rw [first_eq] at passed
      intro vehicle vehicle_mem
      rcases List.mem_cons.mp vehicle_mem with rfl | inside
      · exact first_eq
      · exact ih passed vehicle inside

/-- The vehicles of a plan that was not refused weigh something, and every section is of their
way. -/
theorem vehicle_of_check {plan : DeparturePlan} {route : Route}
    (checked : plan.check route = .ok ()) :
    ∀ vehicle ∈ plan.vehicles, 0 < vehicle.tonnes.toNat ∧
      ∀ stretch ∈ route.sections, stretch.way = vehicle.way := by
  intro vehicle vehicle_mem
  unfold check at checked
  split at checked
  · contradiction
  · have passed := forM_ok checked vehicle vehicle_mem
    unfold checkVehicle at passed
    split at passed
    · contradiction
    · next valid =>
      split at passed
      · contradiction
      · next none_other =>
        constructor
        · apply Nat.pos_of_ne_zero
          intro weightless
          rw [Vehicle.validate, if_pos (UInt32.toNat_inj.mp weightless)] at valid
          contradiction
        · intro stretch stretch_mem
          simpa using List.find?_eq_none.mp none_other stretch stretch_mem

/-- The first of some plans was not refused and has a number, if all of them are placed. -/
theorem placeAll_cons {route : Route} {place : Nat} {plan : DeparturePlan}
    {plans : List DeparturePlan} {convoys : List Convoy}
    (placed : placeAll route place (plan :: plans) = .ok convoys) :
    ∃ id rest, ConvoyId.ofPlace place = .ok id ∧ plan.check route = .ok () ∧
      placeAll route (place + 1) plans = .ok rest ∧ convoys = plan.place id route :: rest := by
  unfold placeAll at placed
  split at placed
  · contradiction
  · next id id_eq =>
    cases check_eq : plan.check route with
    | error error =>
      rw [check_eq] at placed
      contradiction
    | ok _ =>
      cases rest_eq : placeAll route (place + 1) plans with
      | error error =>
        rw [check_eq, rest_eq] at placed
        contradiction
      | ok rest =>
        rw [check_eq, rest_eq] at placed
        exact ⟨id, rest, id_eq, rfl, rfl, (Except.ok.inj placed).symm⟩

theorem length_placeAll {route : Route} {place : Nat} {plans : List DeparturePlan}
    {convoys : List Convoy} (placed : placeAll route place plans = .ok convoys) :
    convoys.length = plans.length := by
  induction plans generalizing place convoys with
  | nil =>
    obtain rfl := Except.ok.inj placed
    rfl
  | cons plan plans ih =>
    obtain ⟨id, rest, -, -, rest_eq, rfl⟩ := placeAll_cons placed
    rw [List.length_cons, List.length_cons, ih rest_eq]

/-- Every convoy that is placed comes from a plan that was not refused. -/
theorem mem_placeAll {route : Route} {place : Nat} {plans : List DeparturePlan}
    {convoys : List Convoy} (placed : placeAll route place plans = .ok convoys) :
    ∀ convoy ∈ convoys, ∃ plan ∈ plans, ∃ id,
      plan.check route = .ok () ∧ convoy = plan.place id route := by
  induction plans generalizing place convoys with
  | nil =>
    obtain rfl := Except.ok.inj placed
    simp
  | cons plan plans ih =>
    obtain ⟨id, rest, -, check_eq, rest_eq, rfl⟩ := placeAll_cons placed
    intro convoy convoy_mem
    rcases List.mem_cons.mp convoy_mem with rfl | inside
    · exact ⟨plan, List.mem_cons_self, id, check_eq, rfl⟩
    · obtain ⟨other, other_mem, found⟩ := ih rest_eq convoy inside
      exact ⟨other, List.mem_cons_of_mem plan other_mem, found⟩

theorem vehicles_place (plan : DeparturePlan) (id : ConvoyId) (route : Route) :
    (plan.place id route).train.vehicles = plan.vehicles := by
  unfold place
  simp only [Convoy.vehicles_enter]
  split
  · rw [Train.vehicles_fill, Train.vehicles_ofVehicles]
  · exact Train.vehicles_ofVehicles _

theorem cache_place (plan : DeparturePlan) (id : ConvoyId) (route : Route) :
    (plan.place id route).cache = .empty := rfl

theorem place_coherent {plan : DeparturePlan} {route : Route}
    (checked : plan.check route = .ok ()) (id : ConvoyId) (world : World) :
    (plan.place id route).Coherent world := by
  have nonempty : (plan.place id route).train.vehicles ≠ [] := by
    rw [vehicles_place]
    exact nonempty_of_check checked
  obtain ⟨live, live_eq, -, -⟩ := Train.live_of_vehicles nonempty world
  refine ⟨live, live_eq, ?_⟩
  rw [cache_place]
  exact Cache.agreesLoaded_empty live

end DeparturePlan

namespace Fleet

/-- What a fleet that was built is made of. -/
structure Built (settings : RunSettings) (route : Route) (dwell : UInt64) (fleet : Fleet) :
    Prop where
  /-- The settings were not refused. -/
  validated : settings.validate = .ok ()
  /-- They are those of the fleet. -/
  settings_eq : fleet.settings = settings
  /-- So is the route. -/
  route_eq : fleet.route = route
  /-- So is the length of a stop. -/
  dwell_eq : fleet.dwell = dwell
  /-- Every convoy comes from a plan that was not refused. -/
  placed : ∀ convoy ∈ fleet.convoys, ∃ plan : DeparturePlan, ∃ id,
    plan.check route = .ok () ∧ convoy = plan.place id route

/-- A fleet that is accepted has valid settings and the convoys of its plans. -/
theorem build_cases {settings : RunSettings} {route : Route} {plans : List DeparturePlan}
    {dwell : UInt64} {fleet : Fleet} (accepted : build settings route plans dwell = .ok fleet) :
    settings.validate = .ok () ∧ ∃ convoys, DeparturePlan.placeAll route 0 plans = .ok convoys ∧
      fleet = { settings, clock := settings.clock, route, convoys, dwell } := by
  unfold build at accepted
  cases validate_eq : settings.validate with
  | error error =>
    rw [validate_eq] at accepted
    contradiction
  | ok _ =>
    rw [validate_eq] at accepted
    simp only at accepted
    split at accepted
    · contradiction
    · cases placed_eq : DeparturePlan.placeAll route 0 plans with
      | error error =>
        rw [placed_eq] at accepted
        contradiction
      | ok convoys =>
        rw [placed_eq] at accepted
        exact ⟨rfl, convoys, rfl, (Except.ok.inj accepted).symm⟩

theorem built_of_build {settings : RunSettings} {route : Route} {plans : List DeparturePlan}
    {dwell : UInt64} {fleet : Fleet} (accepted : build settings route plans dwell = .ok fleet) :
    Built settings route dwell fleet := by
  obtain ⟨validated, convoys, placed_eq, rfl⟩ := build_cases accepted
  refine ⟨validated, rfl, rfl, rfl, fun convoy convoy_mem => ?_⟩
  obtain ⟨plan, -, found⟩ := DeparturePlan.mem_placeAll placed_eq convoy convoy_mem
  exact ⟨plan, found⟩

variable {settings : RunSettings} {route : Route} {dwell : UInt64} {fleet : Fleet}

theorem Built.coherent (built : Built settings route dwell fleet) :
    ∀ convoy ∈ fleet.convoys, convoy.Coherent settings.world := by
  intro convoy convoy_mem
  obtain ⟨plan, id, checked, rfl⟩ := built.placed convoy convoy_mem
  exact DeparturePlan.place_coherent checked id settings.world

/-- Every convoy is coherent after any number of ticks, and nothing stops the run. -/
theorem Built.ticks_coherent (built : Built settings route dwell fleet) (count : Nat) :
    Progress.SameSetup (.start fleet) (.ticks count (.start fleet)) ∧
      (Progress.ticks count (.start fleet)).All (Convoy.Coherent settings.world) := by
  have world_eq : fleet.settings.world = settings.world := by rw [built.settings_eq]
  apply Progress.ticks_all
  · intro convoy coherent
    change convoy.Coherent fleet.settings.world
    rw [world_eq]
    exact coherent
  · intro convoy now coherent
    change (convoy.afterTick fleet.route fleet.settings fleet.dwell now).Coherent settings.world
    rw [← world_eq] at coherent ⊢
    exact coherent.afterTick _ _ _
  · exact ⟨rfl, built.coherent⟩

theorem Built.reached_coherent (built : Built settings route dwell fleet) (count : Nat) :
    (Progress.ticks count (.start fleet)).All
      (Convoy.Coherent (Progress.ticks count (.start fleet)).fleet.settings.world) := by
  obtain ⟨same, coherent⟩ := built.ticks_coherent count
  have settings_eq : (Progress.ticks count (.start fleet)).fleet.settings = settings :=
    same.settings.trans built.settings_eq
  rw [settings_eq]
  exact coherent

end Fleet

end Haulage
