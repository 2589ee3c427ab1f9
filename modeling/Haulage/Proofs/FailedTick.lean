import Haulage.Proofs.Timetable

/-!
# A tick that fails

A convoy is stuck if its tick has come and it has no cars.  Every other convoy waits or moves, so a
tick fails just if some convoy is stuck, and it stops at the first that is: those ahead of it have
moved, and neither those behind it nor the clock have.
-/

namespace Haulage

namespace Train

theorem live_of_no_vehicles {train : Train} (no_vehicles : train.vehicles = []) (world : World) :
    train.live world = .error .empty := by
  rw [vehicles, List.map_eq_nil_iff] at no_vehicles
  exact dif_pos (by rw [no_vehicles, List.map_nil])

end Train

namespace Convoy

variable {convoy : Convoy} {route : Route} {settings : RunSettings} {dwell : UInt64} {now : Tick}

/-- The tick has come in which the convoy may move, but it has no cars. -/
structure Stuck (convoy : Convoy) (now : Tick) : Prop where
  /-- Its tick has come. -/
  mayMove : convoy.MayMove now
  /-- It has no cars. -/
  no_vehicles : convoy.train.vehicles = []

theorem vehicles_settle (convoy : Convoy) (route : Route) (dwell : UInt64) (now : Tick)
    (canRestart : Bool) (report : StepReport) :
    (convoy.settle route dwell now canRestart report).1.train.vehicles =
      convoy.train.vehicles := by
  rcases convoy.settle_cases route dwell now canRestart report with
    ⟨-, settled_eq, -⟩ | ⟨-, -, ⟨-, settled_eq⟩ | settled_eq⟩
  · rw [settled_eq]
    exact vehicles_arrive
  · rw [settled_eq]
    rfl
  · rw [settled_eq]
    exact vehicles_enter _

theorem run_of_no_vehicles (no_vehicles : convoy.train.vehicles = []) (report : StepReport) :
    convoy.run route settings dwell now report = .error .empty := by
  have memo_eq : convoy.memo settings.world = .error .empty := by
    rw [memo, Train.live_of_no_vehicles no_vehicles]
    rfl
  rw [run, withPhysics, memo_eq]
  rfl

/-- A convoy with cars runs, whatever is kept of it. -/
theorem run_of_vehicles (nonempty : convoy.train.vehicles ≠ []) (route : Route)
    (settings : RunSettings) (dwell : UInt64) (now : Tick) (report : StepReport) :
    ∃ after told, convoy.run route settings dwell now report = .ok (after, told) ∧
      after.train.vehicles = convoy.train.vehicles := by
  obtain ⟨live, live_eq, -, -⟩ := Train.live_of_vehicles nonempty settings.world
  have memo_eq : convoy.memo settings.world = .ok ⟨live, convoy.cache⟩ := by
    rw [memo, live_eq]
    rfl
  simp only [run, withPhysics_of_memo memo_eq]
  exact ⟨_, _, rfl, vehicles_settle _ _ _ _ _ _⟩

/-- The convoy when it has departed. -/
def departed (convoy : Convoy) : Convoy := { convoy with phase := .running }

/-- What becomes of a convoy that has departed: where it got to, or where it still stands. -/
def outcome (convoy : Convoy) :
    Except ConvoyError (Convoy × StepReport) → Convoy × Except ConvoyError StepReport
  | .ok (after, report) => (after, .ok report)
  | .error error => (convoy, .error error)

/-- When its tick has come a convoy departs, and then it runs if it can. -/
theorem step_of_mayMove (mayMove : convoy.MayMove now) :
    convoy.step route settings dwell now =
      convoy.departed.outcome
        (convoy.departed.run route settings dwell now { departed := !convoy.isRunning }) := by
  cases phase_eq : convoy.phase with
  | running =>
    have runs : (!convoy.isRunning) = false := by simp [isRunning, phase_eq]
    have same : convoy.departed = convoy := by rw [departed, ← phase_eq]
    simp only [step, phase_eq, runs, same]
    rfl
  | waiting deadline =>
    have departs : (!convoy.isRunning) = true := by simp [isRunning, phase_eq]
    simp only [step, phase_eq, if_neg (mayMove deadline phase_eq), departs]
    rfl

/-- A convoy that is stuck departs and goes no further. -/
theorem Stuck.step_eq (stuck : convoy.Stuck now) (route : Route) (settings : RunSettings)
    (dwell : UInt64) :
    convoy.step route settings dwell now = (convoy.departed, .error .empty) := by
  have no_vehicles : convoy.departed.train.vehicles = [] := stuck.no_vehicles
  rw [step_of_mayMove stuck.mayMove, run_of_no_vehicles no_vehicles, outcome]

/-- A convoy that is not stuck waits as it is or moves with its cars. -/
theorem step_of_free (free : ¬ convoy.Stuck now) (route : Route) (settings : RunSettings)
    (dwell : UInt64) :
    ∃ after report, convoy.step route settings dwell now = (after, .ok report) ∧
      (after = convoy ∨
        convoy.train.vehicles ≠ [] ∧ after.train.vehicles = convoy.train.vehicles) := by
  by_cases mayMove : convoy.MayMove now
  · have nonempty : convoy.departed.train.vehicles ≠ [] := fun none => free ⟨mayMove, none⟩
    obtain ⟨after, report, run_eq, vehicles_eq⟩ := run_of_vehicles nonempty route
      settings dwell now { departed := !convoy.isRunning }
    exact ⟨after, report, by rw [step_of_mayMove mayMove, run_eq, outcome],
      .inr ⟨nonempty, vehicles_eq⟩⟩
  · unfold MayMove at mayMove
    push Not at mayMove
    obtain ⟨deadline, phase_eq, early⟩ := mayMove
    exact ⟨convoy, {}, by simp only [step, phase_eq, if_pos early], .inl rfl⟩

theorem step_eq_of_free (free : ¬ convoy.Stuck now) :
    convoy.step route settings dwell now =
      (convoy.afterTick route settings dwell now,
        .ok (convoy.tickReport route settings dwell now)) := by
  obtain ⟨after, report, step_eq, -⟩ := step_of_free free route settings dwell
  rw [afterTick, tickReport, step_eq]

/-- A convoy that is not stuck is not stuck after the tick either. -/
theorem free_afterTick (free : ¬ convoy.Stuck now) :
    ¬ (convoy.afterTick route settings dwell now).Stuck now := by
  obtain ⟨after, report, step_eq, same | ⟨nonempty, vehicles_eq⟩⟩ :=
    step_of_free free route settings dwell
  · rw [afterTick, step_eq, same]
    exact free
  · rw [afterTick, step_eq]
    exact fun stuck => nonempty (vehicles_eq ▸ stuck.no_vehicles)

end Convoy

namespace Fleet

/-- What a tick of the fleet makes of a convoy, if it can be moved. -/
def moved (fleet : Fleet) (convoy : Convoy) : Convoy :=
  convoy.afterTick fleet.route fleet.settings fleet.dwell fleet.clock.now

/-- Convoys that are not stuck move, and then it is the turn of the others. -/
theorem stepAll_append (route : Route) (settings : RunSettings) (dwell : UInt64) {now : Tick}
    {ahead : List Convoy} (free : ∀ convoy ∈ ahead, ¬ convoy.Stuck now) (others : List Convoy) :
    stepAll route settings dwell now (ahead ++ others) =
      ((ahead.map fun convoy => convoy.afterTick route settings dwell now) ++
          (stepAll route settings dwell now others).1,
        (stepAll route settings dwell now others).2.map
          ((ahead.map fun convoy => convoy.tickReport route settings dwell now) ++ ·)) := by
  induction ahead with
  | nil =>
    cases reports_eq : (stepAll route settings dwell now others).2 with
    | error error =>
      simp [Except.map, ← reports_eq]
    | ok reports =>
      simp [Except.map, ← reports_eq]
  | cons convoy ahead ih =>
    have first := free convoy List.mem_cons_self
    have rest := ih fun other other_mem => free other (List.mem_cons_of_mem convoy other_mem)
    simp only [List.cons_append, stepAll, Convoy.step_eq_of_free first, rest, List.map_cons]
    cases (stepAll route settings dwell now others).2 with
    | error error => rfl
    | ok reports => rfl

/-- Either no convoy is stuck, or there is a first one. -/
theorem first_stuck (convoys : List Convoy) (now : Tick) :
    (∀ convoy ∈ convoys, ¬ convoy.Stuck now) ∨
      ∃ ahead stuck behind, convoys = ahead ++ stuck :: behind ∧
        (∀ convoy ∈ ahead, ¬ convoy.Stuck now) ∧ stuck.Stuck now := by
  induction convoys with
  | nil => exact .inl (by simp)
  | cons convoy convoys ih =>
    by_cases stuck : convoy.Stuck now
    · exact .inr ⟨[], convoy, convoys, rfl, by simp, stuck⟩
    · rcases ih with free | ⟨ahead, found, behind, rfl, free, found_stuck⟩
      · exact .inl (List.forall_mem_cons.mpr ⟨stuck, free⟩)
      · exact .inr ⟨convoy :: ahead, found, behind, rfl, List.forall_mem_cons.mpr ⟨stuck, free⟩,
          found_stuck⟩

end Fleet

namespace Progress

theorem ticks_one (fleet : Fleet) : ticks 1 (.start fleet) = (start fleet).tick := by
  rfl

/-- A tick of convoys that are not stuck moves each of them once. -/
theorem tick_of_free (fleet : Fleet)
    (free : ∀ convoy ∈ fleet.convoys, ¬ convoy.Stuck fleet.clock.now) :
    (ticks 1 (.start fleet)).failure = none ∧
      (ticks 1 (.start fleet)).fleet =
        { fleet with convoys := fleet.convoys.map fleet.moved, clock := fleet.clock.advance } := by
  have step_eq := Fleet.stepAll_append fleet.route fleet.settings fleet.dwell free []
  rw [List.append_nil, Fleet.stepAll, List.append_nil] at step_eq
  rw [ticks_one, tick]
  simp only [start, step_eq]
  exact ⟨rfl, rfl⟩

/-- A tick in which a convoy is stuck moves those ahead of it, and stops. -/
theorem tick_of_stuck {fleet : Fleet} {ahead behind : List Convoy} {stuck : Convoy}
    (convoys_eq : fleet.convoys = ahead ++ stuck :: behind)
    (free : ∀ convoy ∈ ahead, ¬ convoy.Stuck fleet.clock.now)
    (is_stuck : stuck.Stuck fleet.clock.now) :
    ticks 1 (.start fleet) =
      { fleet := { fleet with convoys := ahead.map fleet.moved ++ stuck.departed :: behind }
        events := #[.tickStart fleet.clock.now]
        failure := some (.convoy .empty) } := by
  have step_eq := Fleet.stepAll_append fleet.route fleet.settings fleet.dwell free
    (stuck :: behind)
  rw [Fleet.stepAll, is_stuck.step_eq] at step_eq
  rw [ticks_one, tick]
  simp only [start, convoys_eq, step_eq]
  rfl

/-- A tick fails just if a convoy is stuck. -/
theorem failure_iff (fleet : Fleet) : (ticks 1 (.start fleet)).failure ≠ none ↔
    ∃ convoy ∈ fleet.convoys, convoy.Stuck fleet.clock.now := by
  constructor
  · intro failed
    rcases Fleet.first_stuck fleet.convoys fleet.clock.now with
      free | ⟨ahead, stuck, behind, convoys_eq, -, is_stuck⟩
    · exact absurd (tick_of_free fleet free).1 failed
    · exact ⟨stuck, by simp [convoys_eq], is_stuck⟩
  · rintro ⟨convoy, convoy_mem, is_stuck⟩
    rcases Fleet.first_stuck fleet.convoys fleet.clock.now with
      free | ⟨ahead, first, behind, convoys_eq, free, first_stuck⟩
    · exact absurd is_stuck (free convoy convoy_mem)
    · rw [tick_of_stuck convoys_eq free first_stuck]
      exact nofun

/-- A tick that fails stops at the first convoy that is stuck.  Those ahead of it have made the
tick, it has departed, and nothing else has changed.  When it has been mended and no other is stuck,
the tick can be repeated; those ahead then make it for a second time. -/
theorem failed_tick {fleet : Fleet} {error : FleetError}
    (failed : (ticks 1 (.start fleet)).failure = some error) :
    error = .convoy .empty ∧
      ∃ ahead stuck behind, fleet.convoys = ahead ++ stuck :: behind ∧
        (∀ convoy ∈ ahead, ¬ convoy.Stuck fleet.clock.now) ∧ stuck.Stuck fleet.clock.now ∧
        (ticks 1 (.start fleet)).events = #[.tickStart fleet.clock.now] ∧
        (ticks 1 (.start fleet)).fleet =
          { fleet with convoys := ahead.map fleet.moved ++ stuck.departed :: behind } ∧
        ∀ mended : Convoy, mended.train.vehicles ≠ [] →
          (∀ convoy ∈ behind, ¬ convoy.Stuck fleet.clock.now) →
          let again := ticks 1 (.start
            { fleet with convoys := ahead.map fleet.moved ++ mended :: behind })
          again.failure = none ∧
            again.fleet =
              { fleet with
                convoys :=
                  (ahead.map fun convoy => fleet.moved (fleet.moved convoy)) ++
                    fleet.moved mended :: behind.map fleet.moved
                clock := fleet.clock.advance } := by
  rcases Fleet.first_stuck fleet.convoys fleet.clock.now with
    free | ⟨ahead, stuck, behind, convoys_eq, free, is_stuck⟩
  · rw [(tick_of_free fleet free).1] at failed
    contradiction
  · have stopped := tick_of_stuck convoys_eq free is_stuck
    rw [stopped] at failed ⊢
    refine ⟨(Option.some.inj failed).symm, ahead, stuck, behind, convoys_eq, free, is_stuck, rfl,
      rfl, ?_⟩
    intro mended nonempty behind_free again
    have again_free : ∀ convoy ∈ ahead.map fleet.moved ++ mended :: behind,
        ¬ convoy.Stuck fleet.clock.now := by
      intro convoy convoy_mem
      rcases List.mem_append.mp convoy_mem with inside | inside
      · obtain ⟨before, before_mem, rfl⟩ := List.mem_map.mp inside
        exact Convoy.free_afterTick (free before before_mem)
      rcases List.mem_cons.mp inside with rfl | inside
      · exact fun stuck => nonempty stuck.no_vehicles
      · exact behind_free convoy inside
    obtain ⟨goes_on, fleet_eq⟩ := tick_of_free
      { fleet with convoys := ahead.map fleet.moved ++ mended :: behind } again_free
    refine ⟨goes_on, fleet_eq.trans ?_⟩
    simp only [List.map_append, List.map_cons, List.map_map]
    rfl

/-- Two railcars in long ticks. -/
def pair : Fleet :=
  { alone railcarPlan steadyRoute with
    convoys := [railcarPlan.place ⟨0⟩ steadyRoute, railcarPlan.place ⟨1⟩ steadyRoute] }

/-- The same, but the second has lost its cars. -/
def uncoupled : Fleet := pair.setConvoy ⟨1⟩ { railcarPlan.place ⟨1⟩ steadyRoute with train := {} }

/-- The first railcar has made the tick that the second could not make. -/
theorem front_railcar_moved :
    ∃ ahead stuck behind, uncoupled.convoys = ahead ++ stuck :: behind ∧
      stuck.Stuck uncoupled.clock.now ∧
      (ticks 1 (.start uncoupled)).fleet =
        { uncoupled with convoys := ahead.map uncoupled.moved ++ stuck.departed :: behind } := by
  have failed : (ticks 1 (.start uncoupled)).failure = some (.convoy .empty) := by
    decide +kernel
  obtain ⟨-, ahead, stuck, behind, convoys_eq, -, is_stuck, -, fleet_eq, -⟩ := failed_tick failed
  exact ⟨ahead, stuck, behind, convoys_eq, is_stuck, fleet_eq⟩

/-- The tick that failed has changed the first railcar, and both have departed.  When the second
has its cars again and the tick is repeated, the first is further on than after one tick. -/
theorem front_railcar_moved_twice :
    Fleet.build longTicks steadyRoute [railcarPlan, railcarPlan] 2 = .ok pair ∧
      (ticks 1 (.start uncoupled)).failure = some (.convoy .empty) ∧
      uncoupled.convoys.map (fun convoy => (convoy.position, convoy.isRunning)) =
        [(0, false), (0, false)] ∧
      (ticks 1 (.start uncoupled)).fleet.convoys.map
        (fun convoy => (convoy.position, convoy.isRunning)) = [(4, true), (0, true)] ∧
      (ticks 1 (.start ((ticks 1 (.start uncoupled)).fleet.setConvoy ⟨1⟩
        (railcarPlan.place ⟨1⟩ steadyRoute)))).fleet.convoys.map
        (fun convoy => (convoy.position, convoy.trips)) = [(6, 1), (4, 0)] := by
  refine ⟨rfl, ?_, ?_, ?_, ?_⟩
  · decide +kernel
  · decide +kernel
  · decide +kernel
  · decide +kernel

end Progress

end Haulage
