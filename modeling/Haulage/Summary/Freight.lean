import Haulage.Vehicle

/-!
# Summary of the freight

What the cargo of a fully loaded convoy weighs at least and at most.
-/

namespace Haulage

/-- Bounds on the cargo of a fully loaded convoy. -/
structure FreightSummary where
  /-- Weight of the lightest full load in kg. -/
  lightest : Int32 := 0
  /-- Weight of the heaviest full load in kg. -/
  heaviest : Int32 := 0
deriving DecidableEq, Inhabited

namespace FreightSummary

/-- Weight in kg of `capacity` units: the product is taken in a signed 64-bit word, where it may
wrap, and then clamped into `0 … 2³¹ - 1`. -/
def load (capacity kg : UInt32) : Int :=
  let product := Int64.ofInt (capacity.toNat * kg.toNat : Nat)
  max 0 (min product.toInt 2147483647)

/-- The summary with one more vehicle. -/
def add (summary : FreightSummary) (vehicle : Vehicle) : FreightSummary :=
  match vehicle.freight with
  | none => summary
  | some range =>
      { lightest :=
          .ofIntClamp (summary.lightest.toInt + load vehicle.capacity range.lightest)
        heaviest :=
          .ofIntClamp (summary.heaviest.toInt + load vehicle.capacity range.heaviest) }

/-- The summary of a list of vehicles. -/
def ofList (vehicles : List Vehicle) : FreightSummary := vehicles.foldl add {}

end FreightSummary

end Haulage
