import Haulage.Memo.Cache
import Haulage.Memo.Query
import Haulage.Source

/-!
# Memoised convoys

A source together with the values that are kept of it.  A question is answered from the kept values
where they are known and from the source where they are stale, and afterwards the values it read are
known.  A value that is known is never changed by a question.
-/

namespace Haulage

/-- A source and what is kept of it. -/
structure Memo (σ : Type) where
  /-- The source. -/
  source : σ
  /-- The kept values. -/
  cache : Cache := .empty

namespace Memo

variable {σ : Type}

section Plain

variable [Source σ]

/-- The summary of the vehicles: the kept one, or else that of the source. -/
def vehicle (memo : Memo σ) : VehicleSummary :=
  memo.cache.vehicle.getD (Source.vehicleSummary memo.source)

/-- The profile from which questions are answered. -/
def profile (memo : Memo σ) : Profile :=
  let vehicle := memo.vehicle
  let curves := Source.curves memo.source
  { vehicle
    adverse := memo.cache.adverse.getD (Source.adverseSummary memo.source)
    curves
    friction := Source.friction memo.source
    startingForce := memo.cache.startingForce.getD curves.startingForce
    continuousPower :=
      memo.cache.continuousPower.getD (curves.continuousPower vehicle.maxSpeed) }

/-- The summary of what the vehicles can carry. -/
def freight (memo : Memo σ) : FreightSummary :=
  memo.cache.freight.getD (Source.freightSummary memo.source)

/-- A kept value after it has been read, or not. -/
def keep {α : Type} (read : Bool) (kept : Option α) (value : α) : Option α :=
  if read then some (kept.getD value) else kept

/-- The kept values after a question about a profile has read some of them.  A stale power at the
rated top speed is found by way of the summary of the vehicles. -/
def keepRead (cache : Cache) (profile : Profile) (reads : Reads) : Cache :=
  { cache with
    vehicle :=
      keep (reads.vehicle || (reads.continuousPower && cache.continuousPower.isNone))
        cache.vehicle profile.vehicle
    adverse := keep reads.adverse cache.adverse profile.adverse
    startingForce := keep reads.startingForce cache.startingForce profile.startingForce
    continuousPower := keep reads.continuousPower cache.continuousPower profile.continuousPower }

/-- The answer to a question and the memo after it. -/
def ask {α : Type} (memo : Memo σ) (query : Query α) : α × Memo σ :=
  let profile := memo.profile
  (query.answer profile,
    { memo with cache := keepRead memo.cache profile (query.reads profile) })

/-- The summary of what the vehicles can carry, and the memo after it has been read. -/
def askFreight (memo : Memo σ) : FreightSummary × Memo σ :=
  let freight := memo.freight
  (freight, { memo with cache := { memo.cache with freight := some freight } })

end Plain

section Loaded

variable [LoadedSource σ]

/-- The summary of what the vehicles weigh. -/
def weight (memo : Memo σ) : WeightSummary :=
  memo.cache.weight.getD (LoadedSource.weightSummary memo.source)

/-- The summary of what the vehicles weigh, and the memo after it has been read. -/
def askWeight (memo : Memo σ) : WeightSummary × Memo σ :=
  let weight := memo.weight
  (weight, { memo with cache := { memo.cache with weight := some weight } })

/-- The answer to a question about the convoy as it is loaded, and the memo after it. -/
def askLoaded {α : Type} (memo : Memo σ) (query : WeightSummary → Query α) : α × Memo σ :=
  let (weight, memo) := memo.askWeight
  memo.ask (query weight)

end Loaded

/-- The memo with other kept values. -/
def withCache (memo : Memo σ) (cache : Cache) : Memo σ := { memo with cache }

end Memo

end Haulage
