import Haulage.Fixed

/-!
# Arithmetic in a wide word

The operations on fixed-point numbers spelled out step by step, as a machine with 128-bit words does
them.  Every intermediate count has to fit its word, or there is no answer.  The square root works
in an unsigned word, all other operations in a signed one.
-/

namespace Haulage

namespace Fixed

/-- The smallest count that a signed 128-bit word holds. -/
def lowestWide : Int := -170141183460469231731687303715884105728

/-- The largest count that a signed 128-bit word holds. -/
def highestWide : Int := 170141183460469231731687303715884105727

/-- The largest count that an unsigned 128-bit word holds. -/
def highestUnsigned : Int := 340282366920938463463374607431768211455

/-- A count as it stands, if a signed 128-bit word holds it. -/
def wide? (count : Int) : Option Int :=
  if lowestWide ≤ count ∧ count ≤ highestWide then some count else none

/-- A count as it stands, if an unsigned 128-bit word holds it. -/
def unsigned? (count : Int) : Option Int :=
  if 0 ≤ count ∧ count ≤ highestUnsigned then some count else none

/-- A count with its sign changed if the divisor is below zero. -/
def signedBy? (den count : Int) : Option Int :=
  if den < 0 then wide? (-count) else some count

/-- The whole number nearest to a quotient with a positive divisor. -/
def roundOver? (dividend divisor : Int) : Option Int := do
  let twice ← wide? (2 * dividend)
  let shifted ← wide? (twice + divisor)
  let twiceDivisor ← wide? (2 * divisor)
  wide? (shifted / twiceDivisor)

/-- The whole number nearest to `num / den`.  Without a divisor it is the end of the wide word that
has the sign of the dividend. -/
def roundQuotient? (num den : Int) : Option Int :=
  if den = 0 then
    some (if num < 0 then lowestWide else if 0 < num then highestWide else 0)
  else do
    let dividend ← signedBy? den num
    let divisor ← signedBy? den den
    roundOver? dividend divisor

/-- The quotient of two counts as a count, rounded half up. -/
def quotient? (num den : Int) : Option Fixed := do
  let rounded ← roundQuotient? num den
  return saturate rounded

/-- A whole number. -/
def ofInt? (n : Int) : Option Fixed := do
  let count ← wide? (n <<< fractionBits)
  return saturate count

/-- The fraction `num / den`. -/
def ratio? (num den : Int) : Option Fixed := do
  let count ← wide? (num <<< fractionBits)
  quotient? count den

/-- Multiplication by a whole number. -/
def mulInt? (a : Fixed) (n : Int) : Option Fixed := do
  let count ← wide? (a.raw * n)
  return saturate count

/-- Division by a whole number. -/
def divInt? (a : Fixed) (n : Int) : Option Fixed := quotient? a.raw n

/-- Addition. -/
def add? (a b : Fixed) : Option Fixed := do
  let count ← wide? (a.raw + b.raw)
  return saturate count

/-- Subtraction. -/
def sub? (a b : Fixed) : Option Fixed := do
  let count ← wide? (a.raw - b.raw)
  return saturate count

/-- Multiplication. -/
def mul? (a b : Fixed) : Option Fixed := do
  let product ← wide? (a.raw * b.raw)
  let shifted ← wide? (product + halfScale)
  let count ← wide? (shifted >>> fractionBits)
  return saturate count

/-- Division. -/
def div? (a b : Fixed) : Option Fixed := do
  let count ← wide? (a.raw <<< fractionBits)
  quotient? count b.raw

/-- The whole number nearest to the square root of another. -/
def roundedRoot? (square : Int) : Option Int := do
  let root : Int := square.toNat.sqrt
  let rootSquare ← unsigned? (root * root)
  let rest ← unsigned? (square - rootSquare)
  if rest > root then unsigned? (root + 1) else some root

/-- The square root. -/
def sqrt? (a : Fixed) : Option Fixed :=
  if a.raw ≤ 0 then
    some zero
  else do
    let square ← unsigned? (a.raw <<< fractionBits)
    let rounded ← roundedRoot? square
    ofWord? rounded

end Fixed

end Haulage
