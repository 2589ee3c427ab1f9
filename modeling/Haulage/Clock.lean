import Haulage.Fixed.Decimal
import Haulage.Units

/-!
# Fleet time

A fleet advances in whole ticks.  Each tick hands every moving convoy the same count of engine
ticks, so departures and the ends of stops are plain tick numbers.
-/

namespace Haulage

/-- A step of the fleet. -/
structure Tick where
  /-- Its number. -/
  number : UInt64
deriving DecidableEq, Inhabited

namespace Tick

/-- The first tick. -/
def start : Tick := ⟨0⟩

instance : LE Tick := ⟨fun a b => a.number ≤ b.number⟩

instance : LT Tick := ⟨fun a b => a.number < b.number⟩

instance (a b : Tick) : Decidable (a ≤ b) := inferInstanceAs (Decidable (a.number ≤ b.number))

instance (a b : Tick) : Decidable (a < b) := inferInstanceAs (Decidable (a.number < b.number))

/-- The tick `count` ticks later, at most the last there is. -/
def after (tick : Tick) (count : UInt64) : Tick :=
  ⟨.ofNatClamp (tick.number.toNat + count.toNat)⟩

/-- The tick as messages write it. -/
def label (tick : Tick) : String := "T" ++ toString tick.number.toNat

end Tick

/-- The tick counter of a fleet and what it takes to tell the simulated time. -/
structure Clock where
  /-- Engine ticks handed to the mover per tick. -/
  engineTicks : UInt32
  /-- Length of a tile relative to the reference tile. -/
  mapScale : Fixed
  /-- The current tick. -/
  now : Tick
deriving DecidableEq

namespace Clock

/-- A clock at the first tick. -/
def starting (engineTicks : UInt32) (mapScale : Fixed) : Clock := ⟨engineTicks, mapScale, .start⟩

/-- The clock one tick later; the counter wraps after 2⁶⁴ ticks. -/
def advance (clock : Clock) : Clock := { clock with now := ⟨clock.now.number + 1⟩ }

/-- Simulated seconds in one tick. -/
def secondsPerTick (clock : Clock) : Fixed :=
  Units.secondsOfTicks clock.mapScale clock.engineTicks.toNat

/-- Engine ticks since the first tick: the counter is read as a signed word, and the product is
clamped into one. -/
def elapsedEngineTicks (clock : Clock) : Int64 :=
  .ofIntClamp (clock.now.number.toInt64.toInt * clock.engineTicks.toNat)

/-- Simulated seconds since the first tick. -/
def elapsedSeconds (clock : Clock) : Fixed :=
  Units.secondsOfTicks clock.mapScale clock.elapsedEngineTicks.toInt

/-- The clock as messages write it. -/
def label (clock : Clock) : String :=
  clock.now.label ++ " (" ++ clock.elapsedSeconds.decimal 1 ++ " s)"

end Clock

end Haulage
