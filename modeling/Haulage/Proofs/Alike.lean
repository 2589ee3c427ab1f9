import Haulage.HaulLimit
import Haulage.Motion.Run
import Haulage.TopSpeed

/-!
# Profiles that run alike

The physics reads little of a profile: drag and resistance to rolling, the three curves, the two
values that follow from them, the lower of the two speed limits and whether there are vehicles.
Profiles that share all this have the same top speed, haulage limits, braking distances and motion,
whatever they tell about tiles, friction and the limit of the way.
-/

namespace Haulage

namespace Profile

/-- Both profiles pull, brake and roll alike. -/
structure SameForces (first second : Profile) : Prop where
  /-- They have the same drag. -/
  drag_eq : first.adverse.drag = second.adverse.drag
  /-- They roll equally hard. -/
  rolling_eq : first.adverse.rolling = second.adverse.rolling
  /-- They have the same curves. -/
  curves_eq : first.curves = second.curves
  /-- They have the same traction at standstill. -/
  startingForce_eq : first.startingForce = second.startingForce
  /-- They have the same power at the rated top speed. -/
  continuousPower_eq : first.continuousPower = second.continuousPower

/-- Both profiles have the same forces and keep the same limit. -/
structure Alike (first second : Profile) : Prop extends first.SameForces second where
  /-- They keep the same limit. -/
  speedLimit_eq : first.speedLimit = second.speedLimit
  /-- Both have vehicles, or none has. -/
  isEmpty_eq : first.vehicle.isEmpty = second.vehicle.isEmpty

/-- Of the vehicles only their rated speed tells, and whether there are any; the friction under the
head does not. -/
theorem alike_ofCurves {vehicle other : VehicleSummary}
    (rated_eq : vehicle.maxSpeed = other.maxSpeed) (isEmpty_eq : vehicle.isEmpty = other.isEmpty)
    (adverse : AdverseSummary) (curves : Curves) (friction other_friction : Int16) :
    (ofCurves vehicle adverse curves friction).Alike
      (ofCurves other adverse curves other_friction) where
  drag_eq := rfl
  rolling_eq := rfl
  curves_eq := rfl
  startingForce_eq := rfl
  continuousPower_eq := congrArg curves.continuousPower rated_eq
  speedLimit_eq := congrArg (min · adverse.maxSpeed) rated_eq
  isEmpty_eq := isEmpty_eq

variable {first second : Profile}

namespace SameForces

theorem drag (same : first.SameForces second) : first.drag = second.drag := by
  funext velocity
  rw [Profile.drag, same.drag_eq, Profile.drag]

theorem brakingForce (same : first.SameForces second) :
    first.brakingForce = second.brakingForce := by
  funext speed
  rw [Profile.brakingForce, same.curves_eq, Profile.brakingForce]

theorem traction (same : first.SameForces second) : first.traction = second.traction := by
  funext velocity
  simp only [Profile.traction, same.startingForce_eq, same.curves_eq]

theorem resistance (same : first.SameForces second) : first.resistance = second.resistance := by
  funext weight
  rw [Profile.resistance, same.rolling_eq, Profile.resistance]

theorem sustains (same : first.SameForces second) : first.sustains = second.sustains := by
  funext resistance velocity
  simp only [Profile.sustains, same.drag, same.traction]

theorem holdingForce (same : first.SameForces second) :
    first.holdingForce = second.holdingForce := by
  funext velocity resistance
  simp only [Profile.holdingForce, same.drag, same.traction]

theorem resistancePerTonne (same : first.SameForces second) :
    first.resistancePerTonne = second.resistancePerTonne := by
  funext slope
  rw [Profile.resistancePerTonne, same.resistance, Profile.resistancePerTonne]

theorem maxStartingWeight (same : first.SameForces second) :
    first.maxStartingWeight = second.maxStartingWeight := by
  funext slope
  rw [Profile.maxStartingWeight, same.resistancePerTonne, same.startingForce_eq,
    Profile.maxStartingWeight]

theorem binForce (same : first.SameForces second) : first.binForce = second.binForce := by
  funext resistance bin
  rw [Profile.binForce, same.brakingForce, same.drag, Profile.binForce]

theorem throughBin (same : first.SameForces second) : first.throughBin = second.throughBin := by
  funext resistance mass bin top below
  rw [Profile.throughBin, same.binForce, Profile.throughBin]

theorem stoppingDistance (same : first.SameForces second) (resistance mass : Fixed) :
    first.stoppingDistance resistance mass = second.stoppingDistance resistance mass := by
  funext bin
  induction bin with
  | zero => rfl
  | succ bin ih =>
    rw [Profile.stoppingDistance, ih, same.throughBin, Profile.stoppingDistance]

theorem brakingDistance (same : first.SameForces second) (weight : WeightSummary) :
    first.brakingDistance weight = second.brakingDistance weight := by
  funext velocity
  simp only [Profile.brakingDistance, brakingDistanceBy, same.resistance, same.stoppingDistance,
    same.throughBin]

theorem brakingMetres (same : first.SameForces second) (weight : WeightSummary)
    (velocity : Fixed) : first.brakingMetres weight velocity =
      second.brakingMetres weight velocity := by
  rw [Profile.brakingMetres, same.brakingDistance, Profile.brakingMetres]

theorem brakingSteps (same : first.SameForces second) (mapScale : Fixed)
    (weight : WeightSummary) (speed : Int32) :
    first.brakingSteps mapScale weight speed = second.brakingSteps mapScale weight speed := by
  rw [Profile.brakingSteps, same.brakingDistance, Profile.brakingSteps]

/-- A slice reads the forces of a profile, but no limit. -/
theorem slice (same : first.SameForces second) (drive : Drive) :
    ({ drive with profile := first } : Drive).slice =
      ({ drive with profile := second } : Drive).slice := by
  have settle_eq : ({ drive with profile := first } : Drive).settle =
      ({ drive with profile := second } : Drive).settle := by
    funext low high
    simp only [Drive.settle, same.sustains]
  have retardation_eq : ({ drive with profile := first } : Drive).retardation =
      ({ drive with profile := second } : Drive).retardation := by
    funext velocity
    simp only [Drive.retardation, same.brakingForce, same.drag]
  have candidate_eq : ({ drive with profile := first } : Drive).candidate =
      ({ drive with profile := second } : Drive).candidate := by
    funext head seconds
    simp only [Drive.candidate, settle_eq, retardation_eq, Drive.surplus, same.traction, same.drag,
      same.holdingForce]
    rfl
  funext head ticks
  simp only [Drive.slice, Drive.sliceOf, candidate_eq, retardation_eq]
  rfl

theorem run (same : first.SameForces second) (drive : Drive) :
    ({ drive with profile := first } : Drive).run =
      ({ drive with profile := second } : Drive).run := by
  funext head lengths
  rw [Drive.run, same.slice, Drive.run]

end SameForces

namespace Alike

theorem maxSpeed (alike : first.Alike second) (weight : WeightSummary) :
    first.maxSpeed weight = second.maxSpeed weight := by
  have sustainsKmh_eq : first.sustainsKmh = second.sustainsKmh := by
    funext resistance kmh
    rw [sustainsKmh, alike.sustains, sustainsKmh]
  simp only [Profile.maxSpeed, alike.speedLimit_eq, alike.isEmpty_eq, alike.resistance,
    alike.startingForce_eq, sustainsKmh_eq]

theorem maxWeight (alike : first.Alike second) (slope : Int32) :
    first.maxWeight slope = second.maxWeight slope := by
  rw [Profile.maxWeight, alike.resistancePerTonne, alike.speedLimit_eq, alike.continuousPower_eq,
    alike.traction, alike.drag, alike.maxStartingWeight, Profile.maxWeight]

theorem wantedVelocity (alike : first.Alike second) (request : MoveRequest) :
    first.wantedVelocity request = second.wantedVelocity request := by
  rw [Profile.wantedVelocity, alike.speedLimit_eq, Profile.wantedVelocity]

theorem drive (alike : first.Alike second) (weight : WeightSummary) (request : MoveRequest) :
    first.drive weight request = { second.drive weight request with profile := first } := by
  simp only [Profile.drive, driveBy, alike.brakingDistance, alike.wantedVelocity, alike.resistance]

theorem move (alike : first.Alike second) (request : MoveRequest) (weight : WeightSummary)
    (state : MotionState) : first.move request weight state = second.move request weight state := by
  have run_eq : (first.drive weight request).run (startHead state) (requestSlices request) =
      (second.drive weight request).run (startHead state) (requestSlices request) := by
    rw [alike.drive, alike.run]
    rfl
  simp only [Profile.move, tabledDrive_eq_drive, run_eq]

end Alike

end Profile

end Haulage
