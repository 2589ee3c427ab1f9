import Haulage.Fixed

/-!
# Summary of the weight

Gross weight split into what presses on the way and what pulls along it.  The first makes rolling
resistance, the second drives the convoy downhill.
-/

namespace Haulage

/-- Gross weight of a convoy and its parts across and along the slope. -/
structure WeightSummary where
  /-- Gross weight in kg. -/
  weight : Int32 := 0
  /-- Weight times the cosine of the slope, kg. -/
  across : Fixed := .zero
  /-- Weight times the sine of the slope, kg; negative downhill. -/
  along : Fixed := .zero
deriving DecidableEq, Inhabited

namespace WeightSummary

/-- The sine of a slope given in thousandths, and its cosine. -/
def slopeParts (slope : Int) : Fixed × Fixed :=
  let sine := Fixed.ratio slope 1000
  (sine, (Fixed.one - sine * sine).sqrt)

/-- The summary with `kg` more on a slope in thousandths, clamped to `-1000 … 1000`. -/
def add (summary : WeightSummary) (kg slope : Int32) : WeightSummary :=
  let weight := Int32.ofIntClamp (summary.weight.toInt + kg.toInt)
  let mass := Fixed.ofInt kg.toInt
  let steepness := max (-1000) (min slope.toInt 1000)
  if steepness = 0 then
    { summary with weight, across := summary.across + mass }
  else
    let (sine, cosine) := slopeParts steepness
    { weight
      across := summary.across + mass * cosine
      along := summary.along + mass * sine }

/-- One block of `kg` on a slope in thousandths. -/
def single (kg slope : Int32) : WeightSummary := add {} kg slope

end WeightSummary

end Haulage
