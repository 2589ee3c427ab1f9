import Haulage.Braking.Table
import Haulage.Motion.LimitAhead
import Haulage.Motion.State

/-!
# The mover

A call runs a convoy for some engine ticks, cut into slices of at most 32.  In each slice the convoy
brakes if it is faster than the limit ahead and must slow down, speeds up if it is slower than
wanted and the braking curve of the limit allows it, and holds its speed otherwise.  The distance of
a slice is the trapezoid between its velocities.
-/

namespace Haulage

/-- Most engine ticks of one slice. -/
def sliceTicks : Nat := 32

/-- Most engine ticks of one call; a longer call is cut off. -/
def mostTicks : Nat := 65536

/-- The lengths in engine ticks of the slices of a call: full ones, then what is left. -/
def slices (ticks : Nat) : List Nat :=
  List.replicate (ticks / sliceTicks) sliceTicks ++
    if ticks % sliceTicks = 0 then [] else [ticks % sliceTicks]

/-- What stays the same during one call of the mover. -/
structure Drive where
  /-- The convoy. -/
  profile : Profile
  /-- Its weight in kg. -/
  mass : Fixed
  /-- Its rolling resistance and downhill force, N. -/
  resistance : Fixed
  /-- Length of a tile relative to the reference tile. -/
  mapScale : Fixed
  /-- The wanted velocity, capped by the speed limit of the convoy. -/
  wanted : Fixed
  /-- The limit ahead. -/
  limit : LimitAhead
  /-- Where braking must start, m. -/
  brakePlace : Fixed
  /-- Braking distance from a velocity to a standstill, m. -/
  brake : Fixed → Fixed

namespace Drive

/-- Whether the head has passed the point of the limit. -/
def pastLimit (drive : Drive) (head : Head) : Bool := drive.limit.place ≤ head.place

/-- Whether the head has passed the point where braking starts. -/
def pastBrake (drive : Drive) (head : Head) : Bool := drive.brakePlace ≤ head.place

/-- The velocity aimed at: behind either point no more than the limit. -/
def target (drive : Drive) (head : Head) : Fixed :=
  if drive.pastLimit head || drive.pastBrake head then min drive.wanted drive.limit.velocity
  else drive.wanted

/-- The highest velocity in `low … high` whose traction covers drag and resistance. -/
def settle (drive : Drive) (low high : Fixed) : Fixed :=
  let holds := drive.profile.sustains drive.resistance
  if holds high then high else bisect holds bisections low high

/-- The velocity after some seconds under a force, before it is kept within bounds. -/
def pushed (drive : Drive) (velocity force seconds : Fixed) : Fixed :=
  velocity + force / drive.mass * seconds

/-- What traction at the head's velocity leaves after drag and resistance, N. -/
def surplus (drive : Drive) (velocity : Fixed) : Fixed :=
  drive.profile.traction velocity - drive.profile.drag velocity - drive.resistance

/-- Brakes, drag and resistance together, N. -/
def retardation (drive : Drive) (velocity : Fixed) : Fixed :=
  drive.profile.brakingForce (speedIndex velocity) + drive.profile.drag velocity +
    drive.resistance

/-- The velocity at the end of a slice if there were no limit ahead: speed up to the target, brake
down to it, or hold it as well as traction allows. -/
def candidate (drive : Drive) (head : Head) (seconds : Fixed) : Fixed :=
  let velocity := head.velocity
  let target := drive.target head
  if velocity < target then
    let surplus := drive.surplus velocity
    let next := (drive.pushed velocity surplus seconds).clamp .zero target
    if surplus.isPositive then drive.settle velocity next else next
  else if target < velocity then
    (velocity - drive.retardation velocity / drive.mass * seconds).clamp target velocity
  else
    let net := drive.profile.holdingForce velocity drive.resistance -
      drive.profile.drag velocity - drive.resistance
    (drive.pushed velocity net seconds).clamp .zero velocity

/-- One slice of some seconds. -/
def sliceOf (drive : Drive) (head : Head) (seconds : Fixed) : Head :=
  let velocity := head.velocity
  let candidate := drive.candidate head seconds
  let pastLimit := drive.pastLimit head
  let fits := pastLimit || drive.limit.fits drive.brake head seconds candidate
  if !pastLimit && drive.limit.velocity < velocity && (drive.pastBrake head || !fits) then
    let most := drive.retardation velocity / drive.mass
    drive.limit.approach drive.brake head most seconds
  else
    let next :=
      if fits then candidate
      else drive.limit.fastestFit drive.brake head seconds velocity candidate
    ⟨head.place + metresBetween velocity next seconds, next⟩

/-- One slice of some engine ticks. -/
def slice (drive : Drive) (head : Head) (ticks : Nat) : Head :=
  drive.sliceOf head (Units.secondsOfTicks drive.mapScale ticks)

/-- Slices one after another. -/
def run (drive : Drive) (head : Head) (lengths : List Nat) : Head := lengths.foldl drive.slice head

theorem run_append (drive : Drive) (head : Head) (front back : List Nat) :
    drive.run head (front ++ back) = drive.run (drive.run head front) back :=
  List.foldl_append

/-- The heads at the starts of the slices. -/
def starts (drive : Drive) : Head → List Nat → List Head
  | _, [] => []
  | head, ticks :: lengths => head :: drive.starts (drive.slice head ticks) lengths

end Drive

namespace Profile

/-- The wanted velocity of a request: its target, capped by the speed limit of the convoy. -/
def wantedVelocity (profile : Profile) (request : MoveRequest) : Fixed :=
  min (Units.velocityOfSpeed (max request.target 0))
    (Units.velocityOfKmh (max profile.speedLimit 0))

/-- The limit ahead of a request. -/
def limitAhead (request : MoveRequest) (brake : Fixed → Fixed) : LimitAhead :=
  let velocity := Units.velocityOfSpeed (max request.limit 0)
  ⟨Units.metresOfSteps request.mapScale (.ofInt request.stepsToLimit.toInt), velocity,
    brake velocity⟩

/-- What a request fixes for a convoy of the given weight, where `brake` tells the braking
distances. -/
def driveBy (profile : Profile) (weight : WeightSummary) (brake : Fixed → Fixed)
    (request : MoveRequest) : Drive where
  profile := profile
  mass := .ofInt weight.weight.toInt
  resistance := profile.resistance weight
  mapScale := request.mapScale
  wanted := profile.wantedVelocity request
  limit := limitAhead request brake
  brakePlace := Units.metresOfSteps request.mapScale (.ofInt request.stepsToBrake.toInt)
  brake := brake

/-- What a request fixes for a convoy of the given weight. -/
def drive (profile : Profile) (weight : WeightSummary) (request : MoveRequest) : Drive :=
  profile.driveBy weight (profile.brakingDistance weight) request

/-- The drive of a request for a convoy in a state, with a table of the braking distances that it
may ask for. -/
def tabledDrive (profile : Profile) (weight : WeightSummary) (request : MoveRequest)
    (state : MotionState) : Drive :=
  let fastest := max state.velocity
    (max (profile.wantedVelocity request) (Units.velocityOfSpeed (max request.limit 0)))
  let table := BrakeTable.upTo profile weight fastest
  profile.driveBy weight table.distance request

theorem tabledDrive_eq_drive (profile : Profile) (weight : WeightSummary) (request : MoveRequest)
    (state : MotionState) :
    profile.tabledDrive weight request state = profile.drive weight request := by
  have same : ∀ table : BrakeTable profile weight,
      table.distance = profile.brakingDistance weight :=
    fun table => funext table.distance_eq_brakingDistance
  simp only [tabledDrive, drive, same]

/-- The slices of a request. -/
def requestSlices (request : MoveRequest) : List Nat :=
  slices (min request.engineTicks.toInt.toNat mostTicks)

/-- The state of a convoy whose head is where it is after a call. -/
def settleState (state : MotionState) (mapScale : Fixed) (head : Head) : MotionState :=
  let speed := Units.speedOfVelocity head.velocity
  { speed
    residue := head.velocity - Units.velocityOfSpeed speed
    yards := .ofInt (state.yards.toInt + Units.yardsOnMap mapScale head.place) }

/-- Where the head of a convoy is at the start of a call. -/
def startHead (state : MotionState) : Head := ⟨.zero, state.velocity⟩

/-- Runs a convoy of the given weight as requested.  Without time nothing changes, and a convoy
without weight stands. -/
def move (profile : Profile) (request : MoveRequest) (weight : WeightSummary)
    (state : MotionState) : MotionState :=
  if request.engineTicks ≤ 0 then state
  else if weight.weight ≤ 0 then state.setSpeed 0
  else
    let drive := profile.tabledDrive weight request state
    settleState state request.mapScale (drive.run (startHead state) (requestSlices request))

end Profile

end Haulage
