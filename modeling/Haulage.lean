import Haulage.Main
import Haulage.Proofs.Assertions
import Haulage.Proofs.BrakingOrder
import Haulage.Proofs.BrakingReach
import Haulage.Proofs.Burdens
import Haulage.Proofs.CarOrder
import Haulage.Proofs.Crossings
import Haulage.Proofs.CurveSums
import Haulage.Proofs.DecimalText
import Haulage.Proofs.DistanceUnits
import Haulage.Proofs.Exactness
import Haulage.Proofs.FailedTick
import Haulage.Proofs.Forgetting
import Haulage.Proofs.Grades
import Haulage.Proofs.HaulMargin
import Haulage.Proofs.LimitPoint
import Haulage.Proofs.Mirror
import Haulage.Proofs.Overspeed
import Haulage.Proofs.PlanAndRun
import Haulage.Proofs.RoundTrip
import Haulage.Proofs.SimulatedTime
import Haulage.Proofs.SpeedLimits
import Haulage.Proofs.SpeedRounding
import Haulage.Proofs.SpeedUnits
import Haulage.Proofs.Splitting
import Haulage.Proofs.Stalls
import Haulage.Proofs.Starting
import Haulage.Proofs.SymmetricRange
import Haulage.Proofs.Targets
import Haulage.Proofs.Timetable
import Haulage.Proofs.TraceRecord
import Haulage.Proofs.Transparency
import Haulage.Proofs.Traps
import Haulage.Proofs.Trials
import Haulage.Proofs.Whereabouts
