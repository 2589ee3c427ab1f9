import Haulage.Memo
import Haulage.Route
import Haulage.Train

/-!
# Convoys of a fleet

A train on the route, and all that is kept for it between ticks.
-/

namespace Haulage

/-- Whether a convoy runs or stands at a stop. -/
inductive Phase where
  /-- It stands until a tick. -/
  | waiting (deadline : Tick)
  /-- It runs. -/
  | running
deriving DecidableEq, Inhabited

/-- A train on the route. -/
structure Convoy where
  /-- Its place in the fleet. -/
  id : ConvoyId
  /-- Its name. -/
  name : String
  /-- Its cars. -/
  train : Train
  /-- What is kept of its physics. -/
  cache : Cache := .empty
  /-- Its speed and travel. -/
  motion : MotionState := {}
  /-- Steps from the route start to its head. -/
  position : UInt32
  /-- The direction in which it runs. -/
  direction : Direction
  /-- The section under its head. -/
  stretch : SectionId
  /-- Whether it runs or stands. -/
  phase : Phase
  /-- Whether it was stopped short of the route end by a lack of traction. -/
  stalled : Bool := false
  /-- Trips it has completed. -/
  trips : UInt32 := 0
deriving DecidableEq, Inhabited

namespace Convoy

/-- Its speed in km/h. -/
def kmh (convoy : Convoy) : Int32 := Units.kmhOfSpeed convoy.motion.speed

/-- Whether it runs. -/
def isRunning (convoy : Convoy) : Bool := convoy.phase = .running

/-- Its train and what is kept of it, if it has cars. -/
def memo (convoy : Convoy) (world : World) : Except ConvoyError (Memo LiveConvoy) :=
  (convoy.train.live world).map fun live => ⟨live, convoy.cache⟩

/-- Asks or moves the convoy: what is kept of it and its motion are taken over. -/
def withPhysics {α : Type} (convoy : Convoy) (world : World)
    (action : Memo LiveConvoy → MotionState → α × Memo LiveConvoy × MotionState) :
    Except ConvoyError (α × Convoy) :=
  (convoy.memo world).map fun memo =>
    let (result, memo, motion) := action memo convoy.motion
    (result, { convoy with cache := memo.cache, motion })

/-- Puts the whole train onto a section. -/
def enter (convoy : Convoy) (route : Route) (stretch : SectionId) : Convoy :=
  let train :=
    match route.get? stretch with
    | some under => convoy.train.setWay (under.context convoy.direction)
    | none => convoy.train
  { convoy with stretch, train, cache := convoy.cache.dropAdverse }

/-- Stops the convoy at a route end: it swaps its load, turns round and stands for `dwell` ticks. -/
def arrive (convoy : Convoy) (route : Route) (dwell : UInt64) (now : Tick) : Convoy :=
  let train := if convoy.train.isLoaded then convoy.train.clear else convoy.train.fill
  let direction := convoy.direction.reversed
  let turned :=
    { convoy with train, direction, motion := {}, cache := convoy.cache.dropWeight }
  { turned.enter route (route.sectionAt convoy.position direction) with
    phase := .waiting (now.after dwell), stalled := false, trips := convoy.trips + 1 }

end Convoy

end Haulage
