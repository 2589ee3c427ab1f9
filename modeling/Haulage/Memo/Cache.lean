import Haulage.Summary.Adverse
import Haulage.Summary.Freight
import Haulage.Summary.Vehicles
import Haulage.Summary.Weight

/-!
# Cache

Six values of a convoy that are kept between questions.  An edit makes a value stale together with
all that is derived from it:

```text
vehicle ─┬─ adverse ── weight
         ├─ freight
         ├─ starting force
         └─ continuous power
```
-/

namespace Haulage

/-- The values kept of a convoy; one that is missing is stale. -/
structure Cache where
  /-- Summary of the vehicles. -/
  vehicle : Option VehicleSummary := none
  /-- Summary of where they stand. -/
  adverse : Option AdverseSummary := none
  /-- Summary of what they can carry. -/
  freight : Option FreightSummary := none
  /-- Summary of what they weigh. -/
  weight : Option WeightSummary := none
  /-- Traction at standstill, N. -/
  startingForce : Option Fixed := none
  /-- Power at the rated top speed, W. -/
  continuousPower : Option Fixed := none
deriving DecidableEq, Inhabited

namespace Cache

/-- Nothing is known. -/
def empty : Cache := {}

/-- Load or slope changed. -/
def dropWeight (cache : Cache) : Cache := { cache with weight := none }

/-- The convoy moved onto another way. -/
def dropAdverse (cache : Cache) : Cache := { cache.dropWeight with adverse := none }

/-- What the vehicles carry changed. -/
def dropFreight (cache : Cache) : Cache := { cache with freight := none }

/-- The list of vehicles changed: nothing that was known holds any more. -/
def dropVehicle (cache : Cache) : Cache :=
  { cache.dropFreight.dropAdverse with
    vehicle := none, startingForce := none, continuousPower := none }

/-- For each value, whether it is known. -/
def validity (cache : Cache) : List Bool :=
  [cache.vehicle.isSome, cache.adverse.isSome, cache.freight.isSome, cache.weight.isSome,
    cache.startingForce.isSome, cache.continuousPower.isSome]

/-- How many values are known. -/
def validCount (cache : Cache) : Nat := cache.validity.count true

theorem dropVehicle_eq_empty (cache : Cache) : cache.dropVehicle = empty := rfl

end Cache

end Haulage
