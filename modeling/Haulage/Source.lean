import Haulage.Profile
import Haulage.Summary.Freight

/-!
# Sources

A source knows the vehicles of a convoy, and a loaded source also what each weighs and where it
stands.  It answers from scratch whenever it is asked; the profile that follows from its answers is
`Profile.ofSource`.
-/

namespace Haulage

/-- Something that knows the vehicles of a convoy. -/
class Source (σ : Type) where
  /-- Summary of the vehicles. -/
  vehicleSummary : σ → VehicleSummary
  /-- Summary of where they stand. -/
  adverseSummary : σ → AdverseSummary
  /-- Summary of what they can carry. -/
  freightSummary : σ → FreightSummary
  /-- Force, brake force and power. -/
  curves : σ → Curves
  /-- Friction under the head. -/
  friction : σ → Int16

/-- Something that also knows the weight on every slope. -/
class LoadedSource (σ : Type) extends Source σ where
  /-- Summary of the gross weights. -/
  weightSummary : σ → WeightSummary

/-- The profile that follows from the answers of a source. -/
def Profile.ofSource {σ : Type} [Source σ] (source : σ) : Profile :=
  .ofCurves (Source.vehicleSummary source) (Source.adverseSummary source) (Source.curves source)
    (Source.friction source)

end Haulage
