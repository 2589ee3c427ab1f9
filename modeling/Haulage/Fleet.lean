import Haulage.Fleet.Step

/-!
# Fleets

A fleet is a route and the convoys on it.  It is built from departure plans, all of which start at
the forward end, and runs tick by tick.  What happens is told by a list of events: in each tick
first its start, then what happened to each convoy in the order of their numbers, then its end.
-/

namespace Haulage

/-- One convoy to be placed on the route. -/
structure DeparturePlan where
  /-- Its name. -/
  name : String
  /-- Its vehicles, front first. -/
  vehicles : List Vehicle
  /-- Whether it starts fully loaded. -/
  loaded : Bool := false
  /-- The first tick in which it may move. -/
  depart : Tick := .start
deriving DecidableEq, Inhabited

/-- A route and the convoys on it. -/
structure Fleet where
  /-- The settings of the run. -/
  settings : RunSettings
  /-- The clock. -/
  clock : Clock
  /-- The route. -/
  route : Route
  /-- The convoys, in the order of their numbers. -/
  convoys : List Convoy
  /-- Ticks for which a convoy stands at a route end. -/
  dwell : UInt64

/-- Something that happened in a run. -/
inductive Event where
  /-- A tick starts. -/
  | tickStart (now : Tick)
  /-- A waiting convoy departed. -/
  | departure (now : Tick) (convoy : Convoy)
  /-- The head of a convoy crossed into a section. -/
  | entry (now : Tick) (convoy : Convoy) (stretch : Section)
  /-- A convoy came to stand and cannot start again. -/
  | stall (now : Tick) (convoy : Convoy)
  /-- A convoy arrived at a route end and turned round. -/
  | arrival (now : Tick) (convoy : Convoy)
  /-- A tick ends, in which so many convoys move. -/
  | tickEnd (now : Tick) (moving : Nat)
  /-- A trace is taken of all convoys. -/
  | trace (now : Tick) (convoys : List Convoy)
  /-- The run is over. -/
  | runEnd (now : Tick)
deriving DecidableEq

/-- A fleet in the middle of a run: what has happened, and what stopped it, if anything did. -/
structure Progress where
  /-- The fleet. -/
  fleet : Fleet
  /-- What has happened, oldest first. -/
  events : Array Event := #[]
  /-- What stopped the run. -/
  failure : Option FleetError := none

namespace DeparturePlan

/-- Refuses a vehicle that no convoy could use, or that is built for another way than that of some
section. -/
def checkVehicle (name : String) (route : Route) (vehicle : Vehicle) : Except FleetError Unit :=
  match vehicle.validate with
  | .error error => .error (.vehicle error)
  | .ok () =>
      match route.sections.find? fun stretch => stretch.way ≠ vehicle.way with
      | some stretch => .error (.wayMismatch name vehicle.name stretch.way)
      | none => .ok ()

/-- Refuses a plan that cannot run on the route: one without vehicles, or with a vehicle that is
refused there. -/
def check (plan : DeparturePlan) (route : Route) : Except FleetError Unit :=
  if plan.vehicles.isEmpty then .error (.convoy .empty)
  else plan.vehicles.forM (checkVehicle plan.name route)

/-- The convoy of a plan at the forward start of the route. -/
def place (plan : DeparturePlan) (id : ConvoyId) (route : Route) : Convoy :=
  let train := Train.ofVehicles plan.vehicles
  let position := route.endPosition Direction.forward.reversed
  let stretch := route.sectionAt position .forward
  let convoy : Convoy :=
    { id, name := plan.name, train := if plan.loaded then train.fill else train
      position, direction := .forward, stretch, phase := .waiting plan.depart }
  convoy.enter route stretch

/-- The convoys of plans that are numbered from a place on. -/
def placeAll (route : Route) : Nat → List DeparturePlan → Except FleetError (List Convoy)
  | _, [] => .ok []
  | place, plan :: plans =>
      match ConvoyId.ofPlace place with
      | .error _ => .error (.tooManyConvoys place)
      | .ok id => do
          plan.check route
          let convoys ← placeAll route (place + 1) plans
          return plan.place id route :: convoys

end DeparturePlan

namespace Fleet

/-- A fleet that is ready to run, with every convoy at the forward start of the route. -/
def build (settings : RunSettings) (route : Route) (plans : List DeparturePlan)
    (dwell : UInt64) : Except FleetError Fleet :=
  match settings.validate with
  | .error error => .error (.config error)
  | .ok () =>
      if plans.isEmpty then .error .noConvoys
      else
        (DeparturePlan.placeAll route 0 plans).map fun convoys =>
          { settings, clock := settings.clock, route, convoys, dwell }

/-- The convoy with a number, if there is one. -/
def convoy? (fleet : Fleet) (id : ConvoyId) : Option Convoy := fleet.convoys[id.place]?

/-- The fleet with another convoy in the place of a number. -/
def setConvoy (fleet : Fleet) (id : ConvoyId) (convoy : Convoy) : Fleet :=
  { fleet with convoys := fleet.convoys.set id.place convoy }

/-- Moves the convoys one after another, up to the first that cannot be moved. -/
def stepAll (route : Route) (settings : RunSettings) (dwell : UInt64) (now : Tick) :
    List Convoy → List Convoy × Except ConvoyError (List StepReport)
  | [] => ([], .ok [])
  | convoy :: convoys =>
      match convoy.step route settings dwell now with
      | (convoy, .error error) => (convoy :: convoys, .error error)
      | (convoy, .ok report) =>
          let (convoys, reports) := stepAll route settings dwell now convoys
          (convoy :: convoys, reports.map (report :: ·))

/-- What happened to one convoy in a tick. -/
def convoyEvents (route : Route) (now : Tick) (convoy : Convoy) (report : StepReport) :
    List Event :=
  (if report.departed then [.departure now convoy] else []) ++
    (match report.entered.bind route.get? with
      | some stretch => [.entry now convoy stretch]
      | none => []) ++
    (if report.stalled then [.stall now convoy] else []) ++
    (if report.arrived then [.arrival now convoy] else [])

/-- Whether a trace is taken in a tick. -/
def tracesAt (settings : RunSettings) (now : Tick) : Bool :=
  settings.traceInterval ≠ 0 && now.number % settings.traceInterval = 0

/-- What happened after the start of a tick in which every convoy could be moved. -/
def tickEvents (fleet : Fleet) (now : Tick) (reports : List StepReport) : List Event :=
  (fleet.convoys.zip reports).flatMap (fun (convoy, report) =>
      convoyEvents fleet.route now convoy report) ++
    .tickEnd now (fleet.convoys.countP fun convoy => 0 < convoy.motion.speed) ::
      (if tracesAt fleet.settings now then [.trace now fleet.convoys] else [])

end Fleet

namespace Progress

/-- The start of a run. -/
def start (fleet : Fleet) : Progress := { fleet }

/-- One more tick, unless the run was stopped.  If a convoy cannot be moved the clock stays, and so
do the convoys behind it. -/
def tick (progress : Progress) : Progress :=
  match progress.failure with
  | some _ => progress
  | none =>
      let fleet := progress.fleet
      let now := fleet.clock.now
      let events := progress.events.push (.tickStart now)
      match Fleet.stepAll fleet.route fleet.settings fleet.dwell now fleet.convoys with
      | (convoys, .error error) =>
          { fleet := { fleet with convoys }, events, failure := some (.convoy error) }
      | (convoys, .ok reports) =>
          let fleet := { fleet with convoys }
          { fleet := { fleet with clock := fleet.clock.advance }
            events := events.appendList (fleet.tickEvents now reports) }

/-- So many more ticks. -/
def ticks : Nat → Progress → Progress
  | 0, progress => progress
  | count + 1, progress =>
      match progress.failure with
      | some _ => progress
      | none => ticks count progress.tick

/-- Runs on to the end of the run and tells that it is over, unless it was stopped. -/
def toEnd (progress : Progress) : Progress :=
  let fleet := progress.fleet
  let left := fleet.settings.endTick.number.toNat - fleet.clock.now.number.toNat
  let ended := ticks left progress
  match ended.failure with
  | some _ => ended
  | none => { ended with events := ended.events.push (.runEnd ended.fleet.clock.now) }

end Progress

end Haulage
