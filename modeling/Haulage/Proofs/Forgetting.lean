import Haulage.Proofs.Runs
import Mathlib.Logic.Basic

/-!
# A fleet that forgets

A fleet may drop everything that is kept of its convoys before every tick, so that the mover finds
every value afresh.  Nothing shows of this but the kept values themselves: the run, its events and
what is reported of every convoy stay the same.
-/

namespace Haulage

namespace Convoy

variable {convoy : Convoy} {route : Route} {settings : RunSettings} {dwell : UInt64} {now : Tick}

theorem Coherent.forget {world : World} (coherent : convoy.Coherent world) :
    convoy.forget.Coherent world := by
  obtain ⟨live, live_eq, -⟩ := coherent
  exact ⟨live, live_eq, Cache.agreesLoaded_empty live⟩

theorem freshStep_forget (convoy : Convoy) (live : LiveConvoy) :
    convoy.forget.freshStep live route settings dwell now =
      convoy.freshStep live route settings dwell now := rfl

/-- A tick of a convoy that forgot everything ends as the tick of the convoy, kept values apart. -/
theorem Coherent.tick_forget (coherent : convoy.Coherent settings.world) :
    (convoy.forget.afterTick route settings dwell now).forget =
        (convoy.afterTick route settings dwell now).forget ∧
      convoy.forget.tickReport route settings dwell now =
        convoy.tickReport route settings dwell now := by
  have phase_eq : convoy.forget.phase = convoy.phase := rfl
  have train_eq : convoy.forget.train = convoy.train := rfl
  unfold Convoy.afterTick tickReport
  rcases coherent.step_cases route dwell now with
    ⟨deadline, waiting, early, step_eq⟩ | ⟨live, after, live_eq, -, step_eq⟩
  · have forgot_eq : convoy.forget.step route settings dwell now = (convoy.forget, .ok {}) := by
      unfold step
      simp only [phase_eq, waiting]
      rw [if_pos early]
    rw [step_eq, forgot_eq]
    exact ⟨rfl, rfl⟩
  · rcases coherent.forget.step_cases route dwell now with
      ⟨deadline, waiting, early, forgot_eq⟩ | ⟨live', after', live_eq', -, forgot_eq⟩
    · have step_eq' : convoy.step route settings dwell now = (convoy, .ok {}) := by
        unfold step
        rw [phase_eq] at waiting
        simp only [waiting]
        rw [if_pos early]
      rw [step_eq', forgot_eq]
      exact ⟨rfl, rfl⟩
    · rw [train_eq, live_eq] at live_eq'
      obtain rfl := Except.ok.inj live_eq'
      rw [step_eq, forgot_eq, freshStep_forget]
      exact ⟨rfl, rfl⟩

end Convoy

namespace Fleet

/-- The fleet with nothing kept of the physics of its convoys. -/
def forget (fleet : Fleet) : Fleet := { fleet with convoys := fleet.convoys.map Convoy.forget }

end Fleet

namespace Event

/-- The event with nothing told of what was kept of the physics. -/
def forget : Event → Event
  | tickStart now => tickStart now
  | departure now convoy => departure now convoy.forget
  | entry now convoy stretch => entry now convoy.forget stretch
  | stall now convoy => stall now convoy.forget
  | arrival now convoy => arrival now convoy.forget
  | tickEnd now moving => tickEnd now moving
  | trace now convoys => trace now (convoys.map Convoy.forget)
  | runEnd now => runEnd now

end Event

namespace Fleet

theorem convoyEvents_forget (route : Route) (now : Tick) (convoy : Convoy) (report : StepReport) :
    convoyEvents route now convoy.forget report =
      (convoyEvents route now convoy report).map Event.forget := by
  unfold convoyEvents
  simp only [List.map_append]
  congr 1
  · congr 1
    · congr 1
      · split <;> rfl
      · split <;> rfl
    · split <;> rfl
  · split <;> rfl

/-- The events of a tick: those of the convoys, its end, and perhaps a trace. -/
theorem tickEvents_eq (fleet : Fleet) (now : Tick) (reports : List StepReport) :
    fleet.tickEvents now reports =
      ((fleet.convoys.zip reports).flatMap fun pair =>
          convoyEvents fleet.route now pair.1 pair.2) ++
        .tickEnd now (fleet.convoys.countP fun convoy => 0 < convoy.motion.speed) ::
          (if tracesAt fleet.settings now then [.trace now fleet.convoys] else []) := rfl

theorem tickEvents_forget (fleet : Fleet) (now : Tick) (reports : List StepReport) :
    fleet.forget.tickEvents now reports = (fleet.tickEvents now reports).map Event.forget := by
  have moving_eq : fleet.forget.convoys.countP (fun convoy => 0 < convoy.motion.speed) =
      fleet.convoys.countP fun convoy => 0 < convoy.motion.speed := by
    rw [forget, List.countP_map]
    rfl
  have convoys_eq : ((fleet.forget.convoys.zip reports).flatMap fun pair =>
        convoyEvents fleet.forget.route now pair.1 pair.2) =
      ((fleet.convoys.zip reports).flatMap fun pair =>
        convoyEvents fleet.route now pair.1 pair.2).map Event.forget := by
    rw [forget, List.zip_map_left, List.flatMap_map, List.map_flatMap]
    exact congrArg (List.flatMap · _) (funext fun pair =>
      convoyEvents_forget fleet.route now pair.1 pair.2)
  rw [tickEvents_eq, tickEvents_eq, moving_eq, convoys_eq, List.map_append, List.map_cons]
  congr 2
  change (if tracesAt fleet.settings now then _ else _) = _
  split <;> rfl

end Fleet

namespace Progress

/-- The progress with nothing told of what is kept of the physics. -/
def forget (progress : Progress) : Progress :=
  { progress with
    fleet := progress.fleet.forget
    events := progress.events.map Event.forget }

/-- So many ticks of a fleet that forgets everything before each of them. -/
def forgetfulTicks : Nat → Progress → Progress
  | 0, progress => progress
  | count + 1, progress =>
      let reached := forgetfulTicks count progress
      { reached with fleet := reached.fleet.forget }.tick

theorem forgotten_history (events : Array Event) (now : Tick) (told : List Event) :
    ((events.push (.tickStart now)).appendList told).map Event.forget =
      ((events.map Event.forget).push (.tickStart now)).appendList (told.map Event.forget) := by
  apply Array.toList_inj.mp
  simp [Event.forget]

/-- A tick of a fleet that forgot everything ends as the tick of the fleet, kept values apart. -/
theorem tick_forget {reached forgetful : Progress}
    (coherent : reached.All (Convoy.Coherent reached.fleet.settings.world))
    (same : forgetful.forget = reached.forget) :
    ({ forgetful with fleet := forgetful.fleet.forget } : Progress).tick.forget =
        reached.tick.forget ∧
      ({ forgetful with fleet := forgetful.fleet.forget } : Progress).reports =
        reached.reports := by
  have fleet_eq : forgetful.fleet.forget = reached.fleet.forget := congrArg fleet same
  have events_eq : forgetful.events.map Event.forget = reached.events.map Event.forget :=
    congrArg events same
  have failure_eq : forgetful.failure = none :=
    (congrArg failure same).trans coherent.failure_eq
  rw [fleet_eq]
  set forgot : Progress := { forgetful with fleet := reached.fleet.forget } with forgot_eq
  have forgot_coherent : forgot.All (Convoy.Coherent forgot.fleet.settings.world) := by
    refine ⟨failure_eq, fun convoy convoy_mem => ?_⟩
    obtain ⟨before, before_mem, rfl⟩ := List.mem_map.mp convoy_mem
    exact (coherent.convoys before before_mem).forget
  have convoys_eq : forgot.nextConvoys.map Convoy.forget =
      reached.nextConvoys.map Convoy.forget := by
    simp only [nextConvoys, forgot_eq, Fleet.forget, List.map_map]
    exact List.map_congr_left fun convoy convoy_mem =>
      (coherent.convoys convoy convoy_mem).tick_forget.1
  have reports_eq : forgot.nextReports = reached.nextReports := by
    simp only [nextReports, forgot_eq, Fleet.forget, List.map_map]
    exact List.map_congr_left fun convoy convoy_mem =>
      (coherent.convoys convoy convoy_mem).tick_forget.2
  constructor
  · have fleets_eq :
        ({ forgot.fleet with convoys := forgot.nextConvoys } : Fleet).forget =
          ({ reached.fleet with convoys := reached.nextConvoys } : Fleet).forget :=
      congrArg (fun convoys => ({ reached.fleet with convoys } : Fleet)) convoys_eq
    have told_eq : (Fleet.tickEvents { forgot.fleet with convoys := forgot.nextConvoys }
          forgot.fleet.clock.now forgot.nextReports).map Event.forget =
        (Fleet.tickEvents { reached.fleet with convoys := reached.nextConvoys }
          reached.fleet.clock.now reached.nextReports).map Event.forget := by
      rw [← Fleet.tickEvents_forget, ← Fleet.tickEvents_forget, fleets_eq, reports_eq]
      rfl
    rw [tick_eq forgot_coherent, tick_eq coherent, forget, forget]
    simp only [forgotten_history, told_eq]
    exact congrArg₂ (fun convoys events => ({
      fleet := { reached.fleet with convoys, clock := reached.fleet.clock.advance }
      events := (events.push (.tickStart reached.fleet.clock.now)).appendList
        ((Fleet.tickEvents { reached.fleet with convoys := reached.nextConvoys }
          reached.fleet.clock.now reached.nextReports).map Event.forget) } : Progress))
      convoys_eq events_eq
  · rw [reports_eq_nextReports forgot_coherent, reports_eq_nextReports coherent, reports_eq]

theorem forgetfulTicks_forget {settings : RunSettings} {route : Route} {dwell : UInt64}
    {fleet : Fleet} (built : Fleet.Built settings route dwell fleet) (count : Nat) :
    (forgetfulTicks count (.start fleet)).forget = (ticks count (.start fleet)).forget := by
  induction count with
  | zero => rfl
  | succ count ih =>
    rw [ticks_succ, forgetfulTicks]
    exact (tick_forget (built.reached_coherent count) ih).1

/-- What is kept never shows.  After any number of ticks every kept value of every convoy is the one
that its train would tell now, and a fleet that forgets everything before each tick has come to the
same place by the same events, and reports the same of the next tick. -/
theorem kept_values_never_show {settings : RunSettings} {route : Route}
    {plans : List DeparturePlan} {dwell : UInt64} {fleet : Fleet}
    (accepted : Fleet.build settings route plans dwell = .ok fleet) (count : Nat) :
    let reached := ticks count (.start fleet)
    let forgetful := forgetfulTicks count (.start fleet)
    (∀ convoy ∈ reached.fleet.convoys, convoy.Coherent settings.world) ∧
      forgetful.forget = reached.forget ∧
      ({ forgetful with fleet := forgetful.fleet.forget } : Progress).reports =
        reached.reports := by
  have built := Fleet.built_of_build accepted
  have same := forgetfulTicks_forget built count
  exact ⟨(built.ticks_coherent count).2.convoys, same,
    (tick_forget (built.reached_coherent count) same).2⟩

/-- A railcar that shuttles on two sections shows nothing of what is kept of it. -/
theorem shuttle_kept_values_never_show :
    let route : Route := ⟨[⟨.track, 2, 80, 0, false⟩, ⟨.track, 1, 30, 5, false⟩], by decide,
      by decide, by decide⟩
    let plan : DeparturePlan :=
      { name := "Shuttle", vehicles := [.engine "Railcar" .track 40 100 300] }
    ∃ fleet, Fleet.build {} route [plan] 2 = .ok fleet ∧
      (forgetfulTicks 5 (.start fleet)).forget = (ticks 5 (.start fleet)).forget := by
  intro route plan
  have accepted : ∃ fleet, Fleet.build {} route [plan] 2 = .ok fleet := ⟨_, rfl⟩
  obtain ⟨fleet, accepted⟩ := accepted
  exact ⟨fleet, accepted, (kept_values_never_show accepted 5).2.1⟩

end Progress

end Haulage
