import Haulage.Fixed

/-!
# The limit ahead

A speed limit that starts at a point ahead, and the braking curve that leads down to it.  The fastest
velocity under the curve is found by halving an interval whose lower end fits and whose upper end
does not.  Positions are metres from where the call of the mover started; `brake` tells the braking
distance from a velocity to a standstill.
-/

namespace Haulage

/-- Halvings that pin a speed inside one slice. -/
def bisections : Nat := 12

/-- Halves the interval `low … high` as often as told, keeping the half whose lower end passes. -/
def bisect (passes : Fixed → Bool) : Nat → Fixed → Fixed → Fixed
  | 0, low, _ => low
  | count + 1, low, high =>
      let middle := (low + high).divInt 2
      if passes middle then bisect passes count middle high else bisect passes count low middle

/-- The lower end that is left passes, if the one at the start does. -/
theorem passes_bisect (passes : Fixed → Bool) (count : Nat) (low high : Fixed)
    (passes_low : passes low = true) : passes (bisect passes count low high) = true := by
  induction count generalizing low high with
  | zero => exact passes_low
  | succ count ih =>
    rw [bisect]
    split
    · next passes_middle => exact ih _ _ passes_middle
    · exact ih _ _ passes_low

/-- A speed limit and where it starts. -/
structure LimitAhead where
  /-- Where it starts, m. -/
  place : Fixed
  /-- The limit, m/s. -/
  velocity : Fixed
  /-- Braking distance from the limit to a standstill, m. -/
  distance : Fixed
deriving DecidableEq

/-- Where the head of a convoy is and how fast it runs. -/
structure Head where
  /-- Metres from where the call started. -/
  place : Fixed
  /-- Velocity, m/s. -/
  velocity : Fixed
deriving DecidableEq

/-- Metres covered in a time between two velocities: the trapezoid. -/
def metresBetween (start stop seconds : Fixed) : Fixed := (start + stop).divInt 2 * seconds

namespace LimitAhead

/-- Whether a slice that ends with velocity `next` leaves room to brake down to the limit. -/
def fits (limit : LimitAhead) (brake : Fixed → Fixed) (head : Head) (seconds next : Fixed) :
    Bool :=
  if max head.velocity next ≤ limit.velocity then true
  else
    let place := head.place + metresBetween head.velocity next seconds
    let needed := brake (max next limit.velocity)
    needed ≠ .greatest && place + needed ≤ limit.place + limit.distance

/-- The highest end velocity in `low … high` that fits, or `low` if none does. -/
def fastestFit (limit : LimitAhead) (brake : Fixed → Fixed) (head : Head)
    (seconds low high : Fixed) : Fixed :=
  let passes := limit.fits brake head seconds
  if high ≤ low || !passes low then low
  else if passes high then high
  else bisect passes bisections low high

/-- One braking slice towards the point of the limit, slowing down by at most `most` m/s².  The
deceleration is the constant one that meets the limit just at its point, or more where the braking
curve demands it.  A slice that reaches the limit runs its rest at the limit. -/
def approach (limit : LimitAhead) (brake : Fixed → Fixed) (head : Head)
    (most seconds : Fixed) : Head :=
  let velocity := head.velocity
  let left := limit.place - head.place
  let needed := (velocity * velocity - limit.velocity * limit.velocity) / left.mulInt 2
  let untilLimit := left.mulInt 2 / (velocity + limit.velocity)
  if needed ≤ most ∧ untilLimit ≤ seconds then
    ⟨head.place + (left + limit.velocity * (seconds - untilLimit)), limit.velocity⟩
  else
    let firm := max (velocity - max most .zero * seconds) limit.velocity
    let gentle := max (velocity - max (min needed most) .zero * seconds) firm
    let next := limit.fastestFit brake head seconds firm gentle
    let covered := metresBetween velocity next seconds
    ⟨head.place + (if needed ≤ most then min covered left else covered), next⟩

end LimitAhead

end Haulage
