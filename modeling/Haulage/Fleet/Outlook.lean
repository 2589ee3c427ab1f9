import Haulage.Memo.Query
import Haulage.Route

/-!
# The limit to heed

Of all limits ahead a convoy heeds the one whose brake point comes first.  The head is already some
yards past its position, so a lower limit is taken one step early; otherwise the head could cross
the boundary before it reaches the point of the limit.  The route end is taken where it is, or a
convoy could never reach it.
-/

namespace Haulage

/-- A limit ahead and where a convoy must brake for it. -/
structure PlannedLimit where
  /-- The limit, simulation units. -/
  speed : Int32
  /-- Steps to where it starts. -/
  steps : UInt32
  /-- Steps to where braking starts; negative if that lies behind. -/
  brakeAt : Int
deriving DecidableEq, Inhabited

namespace PlannedLimit

/-- The limits below the speeds that matter, each with its distance in steps.  `early` tells whether
the head is past its position. -/
def heeded (points : List LimitPoint) (fastest : Int32) (early : Bool) :
    List (Int32 × UInt32) :=
  points.filterMap fun point =>
    let speed := Units.speedOfKmh point.kmh
    if fastest ≤ speed then none
    else if 0 < point.kmh ∧ early then some (speed, .ofNat (point.steps.toNat - 1))
    else some (speed, point.steps)

/-- A limit at a distance for a convoy that needs `fromHere` steps to stop; `brakingSteps` tells the
steps to stop from a simulation speed. -/
def plan (brakingSteps : Int32 → Int32) (fromHere : Int32) (limit : Int32 × UInt32) :
    PlannedLimit :=
  ⟨limit.1, limit.2,
    limit.2.toNat - max (fromHere.toInt - (brakingSteps limit.1).toInt) 0⟩

/-- The first of the limits whose brake point is the nearest. -/
def nearest : List PlannedLimit → Option PlannedLimit
  | [] => none
  | first :: rest =>
      some (rest.foldl (fun best next => if next.brakeAt < best.brakeAt then next else best) first)

/-- A request that heeds the limit. -/
def request (limit : PlannedLimit) (cruise : MoveRequest) : MoveRequest :=
  cruise.withLimit limit.speed (.ofIntClamp limit.steps.toNat)
    (.ofIntClamp (max 0 limit.brakeAt))

end PlannedLimit

namespace Profile

/-- The steps to stop from a simulation speed no higher than `fastest`, from a table. -/
def tabledBrakingSteps (profile : Profile) (mapScale : Fixed) (weight : WeightSummary)
    (fastest : Int32) : Int32 → Int32 :=
  let table := BrakeTable.upTo profile weight (Units.velocityOfSpeed fastest)
  fun speed => wholeSteps mapScale (table.distance (Units.velocityOfSpeed speed))

theorem tabledBrakingSteps_eq (profile : Profile) (mapScale : Fixed) (weight : WeightSummary)
    (fastest : Int32) :
    profile.tabledBrakingSteps mapScale weight fastest = profile.brakingSteps mapScale weight := by
  funext speed
  simp [tabledBrakingSteps, brakingSteps]

/-- The cruise of a convoy, with the limit to heed of those ahead. -/
def outlook (profile : Profile) (weight : WeightSummary) (cruise : MoveRequest)
    (points : List LimitPoint) (motion : MotionState) : MoveRequest :=
  let fastest := max cruise.target motion.speed
  let brakingSteps := profile.tabledBrakingSteps cruise.mapScale weight fastest
  let fromHere := brakingSteps motion.speed
  let limits := (PlannedLimit.heeded points fastest (0 < motion.yards)).map
    (PlannedLimit.plan brakingSteps fromHere)
  match PlannedLimit.nearest limits with
  | some limit => limit.request cruise
  | none => cruise

end Profile

namespace Query

/-- What the choice of the limit to heed reads. -/
def outlookReads (weight : WeightSummary) (cruise : MoveRequest) (points : List LimitPoint)
    (motion : MotionState) : Reads :=
  let fastest := max cruise.target motion.speed
  (PlannedLimit.heeded points fastest (0 < motion.yards)).foldl
    (fun reads limit => reads ++ brakingStepsReads weight limit.1)
    (brakingStepsReads weight motion.speed)

/-- The cruise of a convoy, with the limit to heed of those ahead. -/
def outlook (weight : WeightSummary) (cruise : MoveRequest) (points : List LimitPoint)
    (motion : MotionState) : Query MoveRequest :=
  reading (outlookReads weight cruise points motion) fun profile =>
    profile.outlook weight cruise points motion

end Query

end Haulage
