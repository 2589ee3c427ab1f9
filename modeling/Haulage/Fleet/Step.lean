import Haulage.Fleet.Convoy
import Haulage.Fleet.Error
import Haulage.Fleet.Outlook

/-!
# One convoy, one tick

A waiting convoy departs when its tick has come.  A running one heeds the limit ahead whose brake
point comes first, moves, and takes its whole steps out into its position.  At the route end it
arrives; on another section it puts its cars onto the new way.  A convoy that stands and has no
speed it could hold is stalled.
-/

namespace Haulage

/-- What happened to a convoy in one tick. -/
structure StepReport where
  /-- Whole steps covered. -/
  steps : UInt32 := 0
  /-- It departed. -/
  departed : Bool := false
  /-- The section it entered, if another one. -/
  entered : Option SectionId := none
  /-- It arrived at the route end. -/
  arrived : Bool := false
  /-- It stalled. -/
  stalled : Bool := false
deriving DecidableEq, Inhabited

/-- A count of steps as a report has it; one that does not fit 32 bits is the largest number. -/
def reportedSteps (steps : Int) : UInt32 :=
  if 0 ≤ steps ∧ steps < 4294967296 then .ofNat steps.toNat else .ofNat 4294967295

namespace Convoy

/-- The target of a convoy: the limit of the section under its head, simulation units. -/
def targetSpeed (convoy : Convoy) (route : Route) : Int32 :=
  match route.get? convoy.stretch with
  | some stretch => Units.speedOfKmh stretch.maxSpeed
  | none => 0

/-- What the mover is asked for before the limits ahead are looked at. -/
def cruise (convoy : Convoy) (route : Route) (settings : RunSettings) : MoveRequest :=
  .cruise (.ofNat settings.engineTicks.toNat) settings.world.mapScale (convoy.targetSpeed route)

/-- Moves a live convoy for one tick, and tells whether it moves or could. -/
def drive (cruise : MoveRequest) (points : List LimitPoint) (memo : Memo LiveConvoy)
    (motion : MotionState) : Bool × Memo LiveConvoy × MotionState :=
  let (weight, memo) := memo.askWeight
  let (request, memo) := memo.ask (.outlook weight cruise points motion)
  let (motion, memo) := memo.ask (.move request weight motion)
  if 0 < motion.speed then (true, memo, motion)
  else
    let (kmh, memo) := memo.ask (.maxSpeed weight)
    (0 < kmh, memo, motion)

/-- The convoy after it has moved: at its new position, on its new section, or arrived. -/
def settle (convoy : Convoy) (route : Route) (dwell : UInt64) (now : Tick) (canRestart : Bool)
    (report : StepReport) : Convoy × StepReport :=
  let steps := reportedSteps convoy.motion.wholeSteps
  let report := { report with steps }
  let position := route.advance convoy.position convoy.direction steps
  let convoy := { convoy with position, motion := convoy.motion.dropSteps }
  if position = route.endPosition convoy.direction then
    (convoy.arrive route dwell now, { report with arrived := true })
  else
    let stretch := route.sectionAt position convoy.direction
    let (convoy, report) :=
      if stretch = convoy.stretch then (convoy, report)
      else (convoy.enter route stretch, { report with entered := some stretch })
    if canRestart then ({ convoy with stalled := false }, report)
    else
      ({ convoy with stalled := true }, { report with stalled := !convoy.stalled })

/-- A running convoy through one tick. -/
def run (convoy : Convoy) (route : Route) (settings : RunSettings) (dwell : UInt64) (now : Tick)
    (report : StepReport) : Except ConvoyError (Convoy × StepReport) :=
  let points := route.limitsAhead convoy.position convoy.direction
  let moved := convoy.withPhysics settings.world (drive (convoy.cruise route settings) points)
  moved.map fun (canRestart, convoy) => convoy.settle route dwell now canRestart report

/-- A convoy through one tick.  One that cannot be moved has still departed. -/
def step (convoy : Convoy) (route : Route) (settings : RunSettings) (dwell : UInt64) (now : Tick) :
    Convoy × Except ConvoyError StepReport :=
  let go (convoy : Convoy) (report : StepReport) : Convoy × Except ConvoyError StepReport :=
    match convoy.run route settings dwell now report with
    | .ok (convoy, report) => (convoy, .ok report)
    | .error error => (convoy, .error error)
  match convoy.phase with
  | .running => go convoy {}
  | .waiting deadline =>
      if now < deadline then (convoy, .ok {})
      else go { convoy with phase := .running } { departed := true }

end Convoy

end Haulage
