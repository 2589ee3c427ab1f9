import Haulage.Profile

/-!
# Top speed

The highest whole km/h at which traction still covers drag and resistance, capped by the speed
limit.  A coarse search goes up in at most 64 strides to the first speed that cannot be held; a fine
one then looks through the last stride one km/h at a time.
-/

namespace Haulage

namespace Profile

/-- Most strides of the coarse search over the usual speed limits. -/
def coarseSteps : Int32 := 64

/-- Whether traction covers drag and a resistance at a speed in km/h. -/
def sustainsKmh (profile : Profile) (resistance : Fixed) (kmh : Int32) : Bool :=
  profile.sustains resistance (Units.velocityOfKmh kmh)

/-- The stride of the coarse search below `cap`. -/
def coarseStride (cap : Int32) : Int32 := max (cap / coarseSteps) 1

/-- The outcome of the coarse search. -/
inductive Coarse where
  /-- Every trial up to the cap held. -/
  | reachedCap
  /-- `sustained` held, and the next trial `failed` did not. -/
  | failed (sustained failed : Int32)
deriving DecidableEq

/-- Goes up from `sustained` by one stride at a time until a trial fails or the cap holds.  The
sum wraps in 32 bits; the fuel counts all 32-bit numbers, so that it lasts as long as no speed is
tried twice. -/
def coarseSearch (holds : Int32 → Bool) (cap stride : Int32) : Nat → Int32 → Coarse
  | 0, sustained => .failed sustained (sustained + 1)
  | fuel + 1, sustained =>
      let trial := min (sustained + stride) cap
      if holds trial then
        if cap ≤ trial then .reachedCap else coarseSearch holds cap stride fuel trial
      else
        .failed sustained trial

/-- Goes up one km/h at a time through `count` speeds from `kmh`, to the one below the first that
fails. -/
def fineSearch (holds : Int32 → Bool) : Nat → Int32 → Int32
  | 0, kmh => kmh - 1
  | count + 1, kmh => if holds kmh then fineSearch holds count (kmh + 1) else kmh - 1

/-- The highest speed up to `cap` below which the search finds nothing that fails. -/
def searchTopSpeed (holds : Int32 → Bool) (cap : Int32) : Int32 :=
  match coarseSearch holds cap (coarseStride cap) 4294967296 0 with
  | .reachedCap => cap
  | .failed sustained failed =>
      let between := (failed.toInt - sustained.toInt - 1).toNat
      if between = 0 then failed - 1 else fineSearch holds between (sustained + 1)

/-- The highest whole km/h at which traction covers drag and the resistance of `weight`, capped by
the speed limit; zero if the convoy cannot start. -/
def maxSpeed (profile : Profile) (weight : WeightSummary) : Int32 :=
  let cap := profile.speedLimit
  if cap ≤ 0 then 0
  else if profile.vehicle.isEmpty then cap
  else
    let resistance := profile.resistance weight
    if profile.startingForce < resistance then 0
    else searchTopSpeed (profile.sustainsKmh resistance) cap

end Profile

end Haulage
