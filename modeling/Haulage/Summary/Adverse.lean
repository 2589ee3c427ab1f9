import Haulage.Units
import Haulage.Way.Resistance

/-!
# Summary of what opposes the convoy

Each vehicle stands on some way.  The convoy meets the largest drag and rolling resistance of all of
them, brakes as badly as the weakest, and keeps the lowest speed limit.
-/

namespace Haulage

/-- The way under a vehicle. -/
structure WayContext where
  /-- Its kind. -/
  way : Way
  /-- Its speed limit in km/h. -/
  maxSpeed : Int32
  /-- Base friction of the way plus `1000 · sin(slope)`. -/
  friction : Int16
  /-- Whether it has an overhead line. -/
  electrified : Bool
deriving DecidableEq, Inhabited

namespace WayContext

/-- Level way without an overhead line. -/
def flat (way : Way) (maxSpeed : Int32) : WayContext :=
  ⟨way, maxSpeed, way.baseFriction, false⟩

/-- The same way on a slope, given as `1000 · sin(slope)`. -/
def withSlope (context : WayContext) (slope : Int16) : WayContext :=
  { context with friction := .ofIntClamp (context.way.baseFriction.toInt + slope.toInt) }

/-- The same way under an overhead line. -/
def withLine (context : WayContext) : WayContext := { context with electrified := true }

end WayContext

/-- Drag, rolling resistance, brake rate and speed limit of where a convoy stands. -/
structure AdverseSummary where
  /-- Air drag in kg/m. -/
  drag : Fixed := .zero
  /-- Rolling resistance as a part of the weight. -/
  rolling : Fixed := .zero
  /-- Deceleration in m/s² of a vehicle without a rated brake. -/
  braking : Fixed := .zero
  /-- Lowest speed limit in km/h; zero if an electric engine has no overhead line. -/
  maxSpeed : Int32 := Units.unlimitedKmh
deriving DecidableEq, Inhabited

namespace AdverseSummary

/-- The summary with the resistance of a way; the speed limit stays. -/
def setWay (summary : AdverseSummary) (way : Way) : AdverseSummary :=
  let resistance := way.resistance
  { summary with
    drag := resistance.drag, rolling := resistance.rolling, braking := resistance.braking }

/-- An empty stretch of a way. -/
def ofWay (way : Way) : AdverseSummary := setWay {} way

/-- The summary with one more vehicle, which stands on the given way. -/
def add (summary : AdverseSummary) (context : WayContext) (electric : Bool) : AdverseSummary :=
  let resistance := context.way.resistance
  let first := summary.drag.isZero && summary.rolling.isZero
  let maxSpeed := min summary.maxSpeed context.maxSpeed
  { drag := max summary.drag resistance.drag
    rolling := max summary.rolling resistance.rolling
    braking := if first then resistance.braking else min summary.braking resistance.braking
    maxSpeed := if electric && !context.electrified then 0 else maxSpeed }

end AdverseSummary

end Haulage
