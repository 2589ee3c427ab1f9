import Haulage.Proofs.Trapping.Convoy

/-!
# A mover that traps

One call of the mover with every division and every clamp checked, the trials of its searches
included.
-/

namespace Haulage

namespace Trapping

/-- Halves the interval `low … high` as often as told, keeping the half whose lower end passes. -/
def bisect (passes : Fixed → Except Trap Bool) : Nat → Fixed → Fixed → Except Trap Fixed
  | 0, low, _ => .ok low
  | count + 1, low, high => do
      let middle ← divInt (low + high) 2
      if ← passes middle then bisect passes count middle high else bisect passes count low middle

/-- Metres covered in a time between two velocities: the trapezoid. -/
def metresBetween (start stop seconds : Fixed) : Except Trap Fixed := do
  return (← divInt (start + stop) 2) * seconds

section LimitAhead

variable (limit : LimitAhead) (brake : Fixed → Except Trap Fixed) (head : Head)

/-- Whether a slice that ends with velocity `next` leaves room to brake down to the limit. -/
def fits (seconds next : Fixed) : Except Trap Bool :=
  if max head.velocity next ≤ limit.velocity then .ok true
  else do
    let place := head.place + (← metresBetween head.velocity next seconds)
    let needed ← brake (max next limit.velocity)
    return needed ≠ .greatest && place + needed ≤ limit.place + limit.distance

/-- The highest end velocity in `low … high` that fits, or `low` if none does. -/
def fastestFit (seconds low high : Fixed) : Except Trap Fixed :=
  let passes := fits limit brake head seconds
  if high ≤ low then .ok low
  else do
    if ← passes low then
      if ← passes high then return high else bisect passes bisections low high
    else
      return low

/-- A braking slice that does not end at the limit point. -/
def approachCurve (needed most left seconds : Fixed) : Except Trap Head := do
  let velocity := head.velocity
  let firm := max (velocity - max most .zero * seconds) limit.velocity
  let gentle := max (velocity - max (min needed most) .zero * seconds) firm
  let next ← fastestFit limit brake head seconds firm gentle
  let covered ← metresBetween velocity next seconds
  return ⟨head.place + (if needed ≤ most then min covered left else covered), next⟩

/-- One braking slice towards the point of the limit, slowing down by at most `most` m/s². -/
def approach (most seconds : Fixed) : Except Trap Head := do
  let velocity := head.velocity
  let left := limit.place - head.place
  let needed ← div (velocity * velocity - limit.velocity * limit.velocity) (left.mulInt 2)
  if needed ≤ most then
    let untilLimit ← div (left.mulInt 2) (velocity + limit.velocity)
    if untilLimit ≤ seconds then
      return ⟨head.place + (left + limit.velocity * (seconds - untilLimit)), limit.velocity⟩
    else
      approachCurve limit brake head needed most left seconds
  else
    approachCurve limit brake head needed most left seconds

end LimitAhead

/-- What stays the same during one call of the mover. -/
structure Drive where
  /-- The convoy. -/
  convoy : Convoy
  /-- Its weight in kg. -/
  mass : Fixed
  /-- Its rolling resistance and downhill force, N. -/
  resistance : Fixed
  /-- Length of a tile relative to the reference tile. -/
  mapScale : Fixed
  /-- The wanted velocity, capped by the speed limit of the convoy. -/
  wanted : Fixed
  /-- The limit ahead. -/
  limit : LimitAhead
  /-- Where braking must start, m. -/
  brakePlace : Fixed
  /-- Braking distance from a velocity to a standstill, m. -/
  brake : Fixed → Except Trap Fixed

namespace Drive

variable (drive : Drive) (head : Head)

/-- Whether the head has passed the point of the limit. -/
def pastLimit : Bool := drive.limit.place ≤ head.place

/-- Whether the head has passed the point where braking starts. -/
def pastBrake : Bool := drive.brakePlace ≤ head.place

/-- The velocity aimed at: behind either point no more than the limit. -/
def target : Fixed :=
  if drive.pastLimit head || drive.pastBrake head then min drive.wanted drive.limit.velocity
  else drive.wanted

/-- The highest velocity in `low … high` whose traction covers drag and resistance. -/
def settle (low high : Fixed) : Except Trap Fixed := do
  let holds := drive.convoy.sustains drive.resistance
  if ← holds high then return high else bisect holds bisections low high

/-- The velocity after some seconds under a force, before it is kept within bounds. -/
def pushed (velocity force seconds : Fixed) : Except Trap Fixed := do
  return velocity + (← div force drive.mass) * seconds

/-- What traction at the head's velocity leaves after drag and resistance, N. -/
def surplus (velocity : Fixed) : Except Trap Fixed := do
  return (← drive.convoy.traction velocity) - (← drive.convoy.drag velocity) - drive.resistance

/-- Brakes, drag and resistance together, N. -/
def retardation (velocity : Fixed) : Except Trap Fixed := do
  return (← drive.convoy.brakingForce (speedIndex velocity)) +
    (← drive.convoy.drag velocity) + drive.resistance

/-- The velocity at the end of a slice if there were no limit ahead. -/
def candidate (seconds : Fixed) : Except Trap Fixed :=
  let velocity := head.velocity
  let target := drive.target head
  if velocity < target then do
    let surplus ← drive.surplus velocity
    let next ← clamp (← drive.pushed velocity surplus seconds) .zero target
    if surplus.isPositive then drive.settle velocity next else return next
  else if target < velocity then do
    let rate ← div (← drive.retardation velocity) drive.mass
    clamp (velocity - rate * seconds) target velocity
  else do
    let holding ← drive.convoy.holdingForce velocity drive.resistance
    let net := holding - (← drive.convoy.drag velocity) - drive.resistance
    clamp (← drive.pushed velocity net seconds) .zero velocity

/-- Whether a slice that ends with velocity `next` is behind the limit point or leaves room to brake
down to the limit. -/
def fitsAhead (seconds next : Fixed) : Except Trap Bool :=
  if drive.pastLimit head then .ok true else fits drive.limit drive.brake head seconds next

/-- One slice of some seconds. -/
def sliceOf (seconds : Fixed) : Except Trap Head := do
  let velocity := head.velocity
  let candidate ← drive.candidate head seconds
  let fits ← drive.fitsAhead head seconds candidate
  if !drive.pastLimit head && drive.limit.velocity < velocity &&
      (drive.pastBrake head || !fits) then
    let most ← div (← drive.retardation velocity) drive.mass
    approach drive.limit drive.brake head most seconds
  else
    let next ←
      if fits then .ok candidate
      else fastestFit drive.limit drive.brake head seconds velocity candidate
    return ⟨head.place + (← metresBetween velocity next seconds), next⟩

/-- One slice of some engine ticks. -/
def slice (ticks : Nat) : Except Trap Head := do
  drive.sliceOf head (← secondsOfTicks drive.mapScale ticks)

/-- Slices one after another. -/
def run (lengths : List Nat) : Except Trap Head := lengths.foldlM drive.slice head

end Drive

namespace Convoy

variable (convoy : Convoy)

/-- The wanted velocity of a request: its target, capped by the speed limit of the convoy. -/
def wantedVelocity (request : MoveRequest) : Except Trap Fixed := do
  let cap ← velocityOfKmh (max (← convoy.speedLimit) 0)
  return min (← velocityOfSpeed (max request.target 0)) cap

/-- What a request fixes for a convoy of the given weight. -/
def drive (weight : WeightSummary) (request : MoveRequest) : Except Trap Drive := do
  let velocity ← velocityOfSpeed (max request.limit 0)
  let place ← metresOfSteps request.mapScale (.ofInt request.stepsToLimit.toInt)
  let distance ← convoy.brakingDistance weight velocity
  return { convoy
           mass := .ofInt weight.weight.toInt
           resistance := ← convoy.resistance weight
           mapScale := request.mapScale
           wanted := ← convoy.wantedVelocity request
           limit := ⟨place, velocity, distance⟩
           brakePlace := ← metresOfSteps request.mapScale (.ofInt request.stepsToBrake.toInt)
           brake := convoy.brakingDistance weight }

end Convoy

/-- The velocity of a state in m/s, residue included. -/
def stateVelocity (state : MotionState) : Except Trap Fixed := do
  return max ((← velocityOfSpeed (max state.speed 0)) + state.residue) .zero

/-- The state of a convoy whose head is where it is after a call. -/
def settleState (state : MotionState) (mapScale : Fixed) (head : Head) :
    Except Trap MotionState := do
  let speed ← speedOfVelocity head.velocity
  return { speed
           residue := head.velocity - (← velocityOfSpeed speed)
           yards := .ofInt (state.yards.toInt + (← yardsOnMap mapScale head.place)) }

/-- Runs a convoy of the given weight as requested. -/
def Convoy.move (convoy : Convoy) (request : MoveRequest) (weight : WeightSummary)
    (state : MotionState) : Except Trap MotionState :=
  if request.engineTicks ≤ 0 then .ok state
  else if weight.weight ≤ 0 then .ok (state.setSpeed 0)
  else do
    let drive ← convoy.drive weight request
    let head ← drive.run ⟨.zero, ← stateVelocity state⟩ (Profile.requestSlices request)
    settleState state request.mapScale head

end Trapping

end Haulage
