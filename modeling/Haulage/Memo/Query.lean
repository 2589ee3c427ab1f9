import Haulage.HaulLimit
import Haulage.Memo.Reads
import Haulage.Motion.Run
import Haulage.TopSpeed

/-!
# Questions about a convoy

A question has an answer for every profile, and it says which of the kept values it reads on the way
to that answer.
-/

namespace Haulage

/-- A question about a convoy. -/
structure Query (α : Type) where
  /-- The answer. -/
  answer : Profile → α
  /-- The kept values that are read for it. -/
  reads : Profile → Reads

namespace Query

/-- The same question with the answer put into another form. -/
def map {α β : Type} (form : α → β) (query : Query α) : Query β :=
  ⟨fun profile => form (query.answer profile), query.reads⟩

/-- A question that reads the same values of every convoy. -/
def reading {α : Type} (reads : Reads) (answer : Profile → α) : Query α :=
  ⟨answer, fun _ => reads⟩

/-- The summary of the vehicles. -/
def vehicle : Query VehicleSummary := reading { vehicle := true } Profile.vehicle

/-- The summary of where they stand. -/
def adverse : Query AdverseSummary := reading { adverse := true } Profile.adverse

/-- Traction in kN at a speed in whole m/s. -/
def force (speed : UInt32) : Query Int32 :=
  reading .nothing fun profile => profile.curves.force speed

/-- Brake force in kN at a speed in whole m/s. -/
def brake (speed : UInt32) : Query Int32 :=
  reading .nothing fun profile => profile.curves.brake speed

/-- Power in kW at a speed in whole m/s. -/
def power (speed : UInt32) : Query Int32 :=
  reading .nothing fun profile => profile.curves.power speed

/-- Friction under the head. -/
def friction : Query Int16 := reading .nothing Profile.friction

/-- Traction at standstill, N. -/
def startingForce : Query Fixed := reading { startingForce := true } Profile.startingForce

/-- Power at the rated top speed, W. -/
def continuousPower : Query Fixed := reading { continuousPower := true } Profile.continuousPower

/-- Brake force in N at a speed in whole m/s. -/
def brakingForce (speed : UInt32) : Query Fixed :=
  reading .nothing fun profile => profile.brakingForce speed

/-- What the traction at a velocity reads. -/
def tractionReads (velocity : Fixed) : Reads := { startingForce := speedIndex velocity = 0 }

/-- Traction in N at a velocity. -/
def traction (velocity : Fixed) : Query Fixed :=
  reading (tractionReads velocity) fun profile => profile.traction velocity

/-- Rolling resistance and downhill force of a weight, N. -/
def resistance (weight : WeightSummary) : Query Fixed :=
  reading { adverse := true } fun profile => profile.resistance weight

/-- The traction that holds a velocity against drag and a resistance, N. -/
def holdingForce (velocity resistance : Fixed) : Query Fixed :=
  reading (tractionReads velocity ++ { adverse := true }) fun profile =>
    profile.holdingForce velocity resistance

/-- The lower of the rated speed and the speed limit, km/h. -/
def speedLimit : Query Int32 := reading { vehicle := true, adverse := true } Profile.speedLimit

/-- The top speed in km/h with a weight. -/
def maxSpeed (weight : WeightSummary) : Query Int32 where
  answer profile := profile.maxSpeed weight
  reads profile :=
    { vehicle := true, adverse := true
      startingForce := 0 < profile.speedLimit && !profile.vehicle.isEmpty }

/-- The heaviest weight in kg that starts on a slope. -/
def maxStartingWeight (slope : Int32) : Query Int32 where
  answer profile := profile.maxStartingWeight slope
  reads profile :=
    { adverse := true, startingForce := (profile.resistancePerTonne slope).isPositive }

/-- The heaviest weight in kg that is pulled at the speed limit on a slope. -/
def maxWeight (slope : Int32) : Query Int32 where
  answer profile := profile.maxWeight slope
  reads profile :=
    { adverse := true } ++ .onlyIf (profile.resistancePerTonne slope).isPositive
      { vehicle := true, startingForce := true, continuousPower := true }

/-- What the braking distance of a weight from a velocity reads. -/
def brakingReads (weight : WeightSummary) (velocity : Fixed) : Reads :=
  { adverse := velocity.isPositive && 0 < weight.weight }

/-- Metres to brake from a velocity to a standstill. -/
def brakingDistance (weight : WeightSummary) (velocity : Fixed) : Query Fixed :=
  reading (brakingReads weight velocity) fun profile => profile.brakingDistance weight velocity

/-- Whole metres to brake from a velocity to a standstill. -/
def brakingMetres (weight : WeightSummary) (velocity : Fixed) : Query Int32 :=
  reading (brakingReads weight velocity) fun profile => profile.brakingMetres weight velocity

/-- What the braking distance of a weight from a simulation speed reads. -/
def brakingStepsReads (weight : WeightSummary) (speed : Int32) : Reads :=
  brakingReads weight (Units.velocityOfSpeed speed)

/-- Whole steps to brake from a simulation speed to a standstill. -/
def brakingSteps (mapScale : Fixed) (weight : WeightSummary) (speed : Int32) : Query Int32 :=
  reading (brakingStepsReads weight speed) fun profile =>
    profile.brakingSteps mapScale weight speed

/-- One block of a weight in kg where the head stands. -/
def weightAt (kg : Int32) : Query WeightSummary :=
  reading .nothing fun profile => .single kg (.ofInt profile.friction.toInt)

/-- The unladen weight and a load in kg, as one block where the head stands. -/
def weightWithLoad (kg : Int32) : Query WeightSummary :=
  reading { vehicle := true } fun profile =>
    .single (.ofIntClamp (profile.vehicle.weight.toInt + kg.toInt))
      (.ofInt profile.friction.toInt)

/-- Whether a slice asks for the traction at standstill. -/
def sliceStarts (drive : Drive) (head : Head) (ticks : Nat) : Bool :=
  let velocity := head.velocity
  let target := drive.target head
  let surplus := drive.surplus velocity
  let seconds := Units.secondsOfTicks drive.mapScale ticks
  let next := (drive.pushed velocity surplus seconds).clamp .zero target
  if velocity < target then
    speedIndex velocity = 0 || (surplus.isPositive && speedIndex next = 0)
  else
    velocity = target && speedIndex velocity = 0

/-- Whether any slice of a run asks for the traction at standstill. -/
def runStarts (drive : Drive) : Head → List Nat → Bool
  | _, [] => false
  | head, ticks :: lengths =>
      sliceStarts drive head ticks || runStarts drive (drive.slice head ticks) lengths

/-- The state after a call of the mover. -/
def move (request : MoveRequest) (weight : WeightSummary) (state : MotionState) :
    Query MotionState where
  answer profile := profile.move request weight state
  reads profile :=
    .onlyIf (0 < request.engineTicks && 0 < weight.weight)
      { vehicle := true, adverse := true
        startingForce :=
          runStarts (profile.tabledDrive weight request state) (Profile.startHead state)
            (Profile.requestSlices request) }

end Query

end Haulage
