import Haulage.LiveConvoy
import Haulage.Settings
import Haulage.Text

/-!
# Errors of a fleet

Every reason for which a fleet is not built or stops running.
-/

namespace Haulage

/-- Why a fleet is not built or stops running. -/
inductive FleetError where
  /-- There is no departure plan. -/
  | noConvoys
  /-- There are more departure plans than numbers for convoys. -/
  | tooManyConvoys (place : Nat)
  /-- The settings are refused. -/
  | config (error : ConfigError)
  /-- A vehicle is refused. -/
  | vehicle (error : VehicleError)
  /-- A convoy has no vehicles. -/
  | convoy (error : ConvoyError)
  /-- A vehicle is built for another way than that of a section. -/
  | wayMismatch (convoy vehicle : String) (way : Way)
deriving DecidableEq

/-- The wording of the error. -/
def FleetError.message : FleetError → String
  | noConvoys => "fleet configuration error: a fleet needs at least one convoy"
  | tooManyConvoys place =>
      "fleet configuration error: too many convoys (" ++ toString place ++ ")"
  | config error => error.message
  | vehicle error => "vehicle error: " ++ error.message
  | convoy error => "convoy error: " ++ error.message
  | wayMismatch name unfit way =>
      "convoy " ++ Text.quoted name ++ ": vehicle " ++ Text.quoted unfit ++
        " cannot run on " ++ way.label

end Haulage
