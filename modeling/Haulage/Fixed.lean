/-!
# Fixed-point numbers

A `Fixed` is a whole number of 2⁻²⁰ths that fits a signed 64-bit word.  Every operation takes the
exact result, rounds it half up (a tie goes towards `+∞`) to the grid of 2⁻²⁰ths, and clamps it into
the symmetric range `-limit … limit`.  A division by zero answers with the end of the range that has
the sign of the dividend, and zero for `0 / 0`.

The one word outside the symmetric range, `-2⁶³`, is still a value of the type: a stored number is
read back as it stands.  Negation and absolute value leave it as it is.
-/

namespace Haulage

/-- A number counted in 2⁻²⁰ths. -/
structure Fixed where
  /-- How many 2⁻²⁰ths the number is. -/
  raw : Int
  /-- The count fits a signed 64-bit word. -/
  fits : -9223372036854775808 ≤ raw ∧ raw ≤ 9223372036854775807
deriving DecidableEq

namespace Fixed

/-- Number of binary digits after the point. -/
def fractionBits : Nat := 20

/-- The count that stands for one. -/
def scale : Int := 1048576

/-- The count that stands for one half. -/
def halfScale : Int := 524288

/-- The largest count of the symmetric range. -/
def limit : Int := 9223372036854775807

/-- The smallest count that a 64-bit word holds. -/
def lowestWord : Int := -9223372036854775808

theorem ext_raw {a b : Fixed} (raw_eq : a.raw = b.raw) : a = b := by
  cases a; cases b; cases raw_eq; rfl

/-- A count as it stands, if a 64-bit word holds it. -/
def ofWord? (count : Int) : Option Fixed :=
  if fits : -9223372036854775808 ≤ count ∧ count ≤ 9223372036854775807 then
    some ⟨count, fits⟩
  else
    none

/-- The count clamped into the symmetric range. -/
def saturate (count : Int) : Fixed :=
  if above : limit < count then ⟨limit, by decide⟩
  else if below : count < -limit then ⟨-limit, by decide⟩
  else ⟨count, by simp only [limit] at above below; omega⟩

theorem raw_saturate (count : Int) :
    (saturate count).raw = max (-limit) (min count limit) := by
  by_cases above : limit < count
  · rw [saturate, dif_pos above]
    simp only [limit] at above ⊢
    omega
  · by_cases below : count < -limit
    · rw [saturate, dif_neg above, dif_pos below]
      simp only [limit] at above below ⊢
      omega
    · rw [saturate, dif_neg above, dif_neg below]
      simp only [limit] at above below ⊢
      omega

/-- The number zero. -/
def zero : Fixed := ⟨0, by decide⟩

/-- The number one. -/
def one : Fixed := ⟨1048576, by decide⟩

/-- The number one half. -/
def half : Fixed := ⟨524288, by decide⟩

/-- The upper end of the symmetric range. -/
def greatest : Fixed := ⟨9223372036854775807, by decide⟩

/-- The lower end of the symmetric range. -/
def least : Fixed := ⟨-9223372036854775807, by decide⟩

instance : Inhabited Fixed := ⟨zero⟩

/-- The number with the given count; the count `-2⁶³` is lifted to the least number. -/
def ofRaw (count : Int) : Fixed := saturate count

/-- A whole number. -/
def ofInt (n : Int) : Fixed := saturate (n * scale)

/-- The whole number nearest to `num / den`, a tie rounded up; `den` is not zero. -/
def roundQuotient (num den : Int) : Int :=
  if den < 0 then (2 * -num + -den) / (2 * -den) else (2 * num + den) / (2 * den)

/-- The quotient of two counts as a count, rounded half up. -/
def quotient (num den : Int) : Fixed :=
  if den = 0 then
    if num < 0 then least else if 0 < num then greatest else zero
  else
    saturate (roundQuotient num den)

/-- The fraction `num / den`. -/
def ratio (num den : Int) : Fixed := quotient (num * scale) den

/-- Multiplication by a whole number; no rounding is needed. -/
def mulInt (a : Fixed) (n : Int) : Fixed := saturate (a.raw * n)

/-- Division by a whole number. -/
def divInt (a : Fixed) (n : Int) : Fixed := quotient a.raw n

/-- Addition. -/
protected def add (a b : Fixed) : Fixed := saturate (a.raw + b.raw)

/-- Subtraction. -/
protected def sub (a b : Fixed) : Fixed := saturate (a.raw - b.raw)

/-- Multiplication. -/
protected def mul (a b : Fixed) : Fixed := saturate ((a.raw * b.raw + halfScale) / scale)

/-- Division. -/
protected def div (a b : Fixed) : Fixed := quotient (a.raw * scale) b.raw

/-- Negation; the count `-2⁶³` has no negative in a 64-bit word and stays. -/
protected def neg (a : Fixed) : Fixed :=
  if lowest : a.raw = lowestWord then a
  else ⟨-a.raw, by have := a.fits; simp only [lowestWord] at lowest; omega⟩

instance : Add Fixed := ⟨Fixed.add⟩

instance : Sub Fixed := ⟨Fixed.sub⟩

instance : Mul Fixed := ⟨Fixed.mul⟩

instance : Div Fixed := ⟨Fixed.div⟩

instance : Neg Fixed := ⟨Fixed.neg⟩

instance : LE Fixed := ⟨fun a b => a.raw ≤ b.raw⟩

instance : LT Fixed := ⟨fun a b => a.raw < b.raw⟩

instance (a b : Fixed) : Decidable (a ≤ b) := inferInstanceAs (Decidable (a.raw ≤ b.raw))

instance (a b : Fixed) : Decidable (a < b) := inferInstanceAs (Decidable (a.raw < b.raw))

instance : Min Fixed := ⟨fun a b => if a ≤ b then a else b⟩

instance : Max Fixed := ⟨fun a b => if a ≤ b then b else a⟩

instance : Ord Fixed := ⟨fun a b => compare a.raw b.raw⟩

theorem le_def {a b : Fixed} : a ≤ b ↔ a.raw ≤ b.raw := Iff.rfl

theorem lt_def {a b : Fixed} : a < b ↔ a.raw < b.raw := Iff.rfl

theorem raw_add (a b : Fixed) : (a + b).raw = max (-limit) (min (a.raw + b.raw) limit) :=
  raw_saturate _

theorem raw_sub (a b : Fixed) : (a - b).raw = max (-limit) (min (a.raw - b.raw) limit) :=
  raw_saturate _

theorem raw_mul (a b : Fixed) :
    (a * b).raw = max (-limit) (min ((a.raw * b.raw + halfScale) / scale) limit) :=
  raw_saturate _

/-- The distance from zero; the count `-2⁶³` stays. -/
def abs (a : Fixed) : Fixed := if a.raw < 0 then -a else a

/-- The number moved into `low … high`. -/
def clamp (a low high : Fixed) : Fixed :=
  if a < low then low else if high < a then high else a

/-- Whether the number is below zero. -/
def isNegative (a : Fixed) : Bool := a.raw < 0

/-- Whether the number is above zero. -/
def isPositive (a : Fixed) : Bool := 0 < a.raw

/-- Whether the number is zero. -/
def isZero (a : Fixed) : Bool := a.raw = 0

/-- The nearest whole number, a tie rounded up. -/
def round (a : Fixed) : Int := (a.raw + halfScale) / scale

/-- The whole part, rounded towards zero. -/
def trunc (a : Fixed) : Int := a.raw.tdiv scale

/-- The largest whole number that is not above. -/
def floor (a : Fixed) : Int := a.raw / scale

/-- The smallest whole number that is not below. -/
def ceil (a : Fixed) : Int := -((-a).raw / scale)

/-- The nearest whole number, clamped into a signed 32-bit word. -/
def round32 (a : Fixed) : Int32 := .ofIntClamp a.round

/-- The square root, rounded to nearest; zero for a number that is not positive. -/
def sqrt (a : Fixed) : Fixed :=
  if a.raw ≤ 0 then
    zero
  else
    let square := a.raw.toNat * 1048576
    let root := square.sqrt
    ofRaw (if square - root * root > root then root + 1 else root : Nat)

/-- The sum of a list, added from the left. -/
def sum (terms : List Fixed) : Fixed := terms.foldl (· + ·) zero

end Fixed

end Haulage
