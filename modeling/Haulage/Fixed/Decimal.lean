import Haulage.Fixed

/-!
# Decimal text of fixed-point numbers

A number is written with a chosen count of decimal places, at most six.  Its distance from zero is
rounded half up to that many places by whole-number arithmetic alone, and the sign is written only
where a digit other than zero is.
-/

namespace Haulage

namespace Fixed

/-- Ten to the power `places`. -/
def tenPow : Nat → Nat
  | 0 => 1
  | places + 1 => 10 * tenPow places

/-- The last `places` decimal digits of a whole number, leading zeros included. -/
def lastDigits : Nat → Nat → List Char
  | 0, _ => []
  | places + 1, n => lastDigits places (n / 10) ++ [Nat.digitChar (n % 10)]

theorem length_lastDigits (places n : Nat) : (lastDigits places n).length = places := by
  induction places generalizing n with
  | zero => rfl
  | succ places ih => simp [lastDigits, ih]

/-- The decimal places written when none are asked for, and the most that are ever written. -/
def mostPlaces : Nat := 6

/-- The distance from zero in units of the last of `places` places, rounded half up. -/
def scaledMagnitude (a : Fixed) (places : Nat) : Nat :=
  (a.raw.natAbs * tenPow places + 524288) / 1048576

/-- The characters of the number with `places` decimal places, at most six. -/
def decimalChars (a : Fixed) (places : Nat) : List Char :=
  let shown := min places mostPlaces
  let magnitude := a.scaledMagnitude shown
  let sign := if a.raw < 0 ∧ magnitude ≠ 0 then ['-'] else []
  let whole := Nat.toDigits 10 (magnitude / tenPow shown)
  let fraction := if shown = 0 then [] else '.' :: lastDigits shown magnitude
  sign ++ whole ++ fraction

/-- The number as text with `places` decimal places, at most six. -/
def decimal (a : Fixed) (places : Nat) : String := String.ofList (a.decimalChars places)

instance : ToString Fixed := ⟨fun a => a.decimal mostPlaces⟩

example : (ofInt 2 / ofInt 3).decimal 6 = "0.666667" := by decide

example : (ofRaw (-5)).decimal 3 = "0.000" := by decide

end Fixed

end Haulage
