import Haulage.Units

/-!
# State of motion and requests

A convoy's motion is its speed in whole simulation units, the part of the speed below one unit, and
the yards it has covered since whole steps were last taken out.  A request tells the mover for how
long to run, towards which speed, and which limit lies ahead.
-/

namespace Haulage

/-- Speed and travel of a convoy. -/
structure MotionState where
  /-- Speed in simulation units. -/
  speed : Int32 := 0
  /-- Yards covered; whole steps are taken out by the caller. -/
  yards : Int64 := 0
  /-- The part of the speed below one simulation unit, m/s. -/
  residue : Fixed := .zero
deriving DecidableEq, Inhabited

namespace MotionState

/-- Running at a speed, nothing covered yet. -/
def atSpeed (speed : Int32) : MotionState := { speed }

/-- The state with another speed and no residue. -/
def setSpeed (state : MotionState) (speed : Int32) : MotionState :=
  { state with speed, residue := .zero }

/-- The velocity in m/s, residue included; never negative. -/
def velocity (state : MotionState) : Fixed :=
  max (Units.velocityOfSpeed (max state.speed 0) + state.residue) .zero

/-- The whole steps covered. -/
def wholeSteps (state : MotionState) : Int := state.yards.toInt / Units.yardsPerStep

/-- The state with the whole steps taken out. -/
def dropSteps (state : MotionState) : MotionState :=
  { state with yards := .ofInt (state.yards.toInt % Units.yardsPerStep) }

end MotionState

/-- What is wanted of one call of the mover. -/
structure MoveRequest where
  /-- Engine ticks to run. -/
  engineTicks : Int64
  /-- Length of a tile relative to the reference tile. -/
  mapScale : Fixed
  /-- Wanted speed, simulation units. -/
  target : Int32
  /-- Speed limit ahead, simulation units. -/
  limit : Int32
  /-- Steps to the point where the limit starts. -/
  stepsToLimit : Int32
  /-- Steps to the point where braking must start. -/
  stepsToBrake : Int32
deriving DecidableEq, Inhabited

namespace MoveRequest

/-- The distance in steps that means "nothing ahead". -/
def noLimit : Int32 := Int32.maxValue

/-- Run towards a speed with nothing ahead. -/
def cruise (engineTicks : Int64) (mapScale : Fixed) (target : Int32) : MoveRequest :=
  ⟨engineTicks, mapScale, target, target, noLimit, noLimit⟩

/-- Stop at or before a point `steps` ahead. -/
def stopIn (engineTicks : Int64) (mapScale : Fixed) (target steps : Int32) : MoveRequest :=
  ⟨engineTicks, mapScale, target, 0, steps, noLimit⟩

/-- The request with another limit ahead. -/
def withLimit (request : MoveRequest) (limit stepsToLimit stepsToBrake : Int32) : MoveRequest :=
  { request with limit, stepsToLimit, stepsToBrake }

/-- The request after `steps` have been covered: the point of the limit comes nearer, and so does
the point where braking starts, if there is one. -/
def comeNearer (request : MoveRequest) (steps : Int) : MoveRequest :=
  let nearer (distance : Int32) : Int32 := .ofIntClamp (max 0 (distance.toInt - steps))
  { request with
    stepsToLimit := nearer request.stepsToLimit
    stepsToBrake :=
      if request.stepsToBrake = noLimit then noLimit else nearer request.stepsToBrake }

end MoveRequest

end Haulage
