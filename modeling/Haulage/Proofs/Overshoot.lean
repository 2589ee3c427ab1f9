import Haulage.Proofs.Exactness
import Haulage.Proofs.Searches
import Haulage.Proofs.SliceEnds

/-!
# How far a braking slice goes too far

A slice that slows down just enough to meet the limit at its point does not reach that point before
it meets the limit, but for what is rounded.  A rounded deceleration is off by half a count, and acts
on the distance with the square of the length of the slice.  The squares of both velocities are
rounded too, which counts for little next to the sum of the velocities.
-/

namespace Haulage

open Fixed

/-- A square in counts, rounded half up. -/
def roundedSquare (count : Int) : Int := (count * count + 524288) / 1048576

theorem roundedSquare_bounds (count : Int) :
    1048576 * roundedSquare count ≤ count * count + 524288 ∧
      count * count + 524288 < 1048576 * roundedSquare count + 1048576 := by
  rw [roundedSquare]
  constructor
  · omega
  · omega

theorem roundedSquare_mono {low high : Int} (nonneg : 0 ≤ low) (le : low ≤ high) :
    roundedSquare low ≤ roundedSquare high :=
  Int.ediv_le_ediv (by decide) (Int.add_le_add_right (Int.mul_self_le_mul_self nonneg le) _)

/-- The difference of two squares loses by the rounding at most 724 times the sum of the roots: the
roots are close to each other, or their sum is large, or the lower square rounds to nothing. -/
theorem square_sub_square_le {low high : Int} (nonneg : 0 ≤ low) (less : low < high) :
    (high + low) * (high - low) ≤
      1048576 * (roundedSquare high - roundedSquare low) + 724 * (high + low) := by
  obtain ⟨high_le, le_high⟩ := roundedSquare_bounds high
  obtain ⟨low_le, le_low⟩ := roundedSquare_bounds low
  have product_eq : (high + low) * (high - low) = high * high - low * low := by ring
  by_cases close : high - low ≤ 724
  · have mono := roundedSquare_mono nonneg less.le
    have product_le : (high + low) * (high - low) ≤ (high + low) * 724 :=
      Int.mul_le_mul_of_nonneg_left close (by omega)
    omega
  · by_cases large : 1449 ≤ high + low
    · omega
    · have low_square_nonneg := Int.mul_nonneg nonneg nonneg
      have low_square_le : low * low ≤ 361 * 361 := Int.mul_self_le_mul_self nonneg (by omega)
      omega

namespace Fixed

variable {a : Fixed}

theorem raw_mul_self (nonneg : zero ≤ a) (moderate : a * a < .greatest) :
    (a * a).raw = roundedSquare a.raw := by
  have product_nonneg : 0 ≤ a.raw * a.raw := Int.mul_nonneg nonneg nonneg
  rw [lt_def, raw_greatest, raw_mul] at moderate
  rw [raw_mul, roundedSquare]
  simp only [halfScale, scale, limit] at moderate ⊢
  omega

/-- Only a number below 2²² has a square in the range. -/
theorem raw_lt_of_moderate (nonneg : zero ≤ a) (moderate : a * a < .greatest) :
    a.raw < 4398046511104 := by
  have square_eq := raw_mul_self nonneg moderate
  have bounds := roundedSquare_bounds a.raw
  rw [lt_def, raw_greatest, square_eq] at moderate
  by_contra large
  have square_ge : 4398046511104 * 4398046511104 ≤ a.raw * a.raw :=
    Int.mul_self_le_mul_self (by decide) (not_lt.mp large)
  omega

theorem mul_self_mono {low high : Fixed} (nonneg : zero ≤ low) (le : low ≤ high) :
    low * low ≤ high * high :=
  (mul_le_mul_left nonneg le).trans (mul_le_mul_right le (nonneg.trans le))

theorem raw_le_sub_of_le {a b c : Fixed} (nonneg : zero ≤ c) (le : c ≤ a - b) :
    c.raw ≤ a.raw - b.raw := by
  rw [nonneg_iff] at nonneg
  rw [le_def, raw_sub] at le
  simp only [limit] at le
  omega

end Fixed

namespace LimitAhead

section Definitions

variable (limit : LimitAhead) (brake : Fixed → Fixed) (head : Head) (most seconds : Fixed)

/-- The way to the point of the limit, m. -/
def left : Fixed := limit.place - head.place

/-- The constant deceleration that meets the limit just at its point, m/s². -/
def needed : Fixed :=
  (head.velocity * head.velocity - limit.velocity * limit.velocity) / (limit.left head).mulInt 2

/-- After how many seconds it does. -/
def untilLimit : Fixed := (limit.left head).mulInt 2 / (head.velocity + limit.velocity)

/-- The velocity after some seconds of full force, but no lower than the limit. -/
def firmest : Fixed := max (head.velocity - max most .zero * seconds) limit.velocity

/-- The velocity after some seconds of the deceleration that is needed. -/
def gentlest : Fixed :=
  max (head.velocity - max (min (limit.needed head) most) .zero * seconds)
    (limit.firmest head most seconds)

/-- The velocity at the end of a braking slice that does not reach the limit. -/
def brakedTo : Fixed :=
  limit.fastestFit brake head seconds (limit.firmest head most seconds)
    (limit.gentlest head most seconds)

/-- How far such a slice would go past the point of the limit, m. -/
def overshoot : Fixed :=
  metresBetween head.velocity (limit.brakedTo brake head most seconds) seconds - limit.left head

/-- Whether a braking slice can meet the limit at its point, and ends before that. -/
def OnTime : Prop := limit.needed head ≤ most ∧ seconds < limit.untilLimit head

instance : Decidable (limit.OnTime head most seconds) := inferInstanceAs (Decidable (_ ∧ _))

/-- A braking slice that stops at a failed assertion: a slice that is on time does not go more than
a millimetre past the point of the limit. -/
def approach? : Option Head :=
  if limit.OnTime head most seconds ∧ .ratio 1 1000 < limit.overshoot brake head most seconds then
    none
  else
    some (limit.approach brake head most seconds)

end Definitions

variable {limit : LimitAhead} {brake : Fixed → Fixed} {head : Head} {most seconds : Fixed}

/-- A braking slice put together from these parts: it rolls on at the limit once that is met, and
otherwise goes up to the point of the limit at most, if it can meet the limit there. -/
theorem approach_eq (limit : LimitAhead) (brake : Fixed → Fixed) (head : Head)
    (most seconds : Fixed) :
    limit.approach brake head most seconds =
      if limit.needed head ≤ most ∧ limit.untilLimit head ≤ seconds then
        ⟨head.place + (limit.left head + limit.velocity * (seconds - limit.untilLimit head)),
          limit.velocity⟩
      else
        let next := limit.brakedTo brake head most seconds
        let covered := metresBetween head.velocity next seconds
        ⟨head.place + (if limit.needed head ≤ most then min covered (limit.left head) else covered),
          next⟩ :=
  rfl

/-- A braking slice goes at least as far as one of full force. -/
theorem firmest_overshoot_le (brake : Fixed → Fixed) (limit_nonneg : zero ≤ limit.velocity)
    (seconds_nonneg : zero ≤ seconds)
    (small : (limit.gentlest head most seconds).raw ≤ 4611686018427387903) :
    metresBetween head.velocity (limit.firmest head most seconds) seconds - limit.left head ≤
      limit.overshoot brake head most seconds := by
  have firmest_le := limit.le_fastestFit brake head seconds (limit_nonneg.trans (le_max_right _ _))
    (le_max_right _ (limit.firmest head most seconds)) small
  exact sub_le_sub (metresBetween_mono head.velocity seconds_nonneg firmest_le) le_rfl

/-- A convoy ahead of a limit that is slower, and not so fast that the square of its velocity leaves
the range. -/
structure Approaching (limit : LimitAhead) (head : Head) : Prop where
  /-- The limit is not negative. -/
  limit_nonneg : zero ≤ limit.velocity
  /-- The convoy is faster. -/
  faster : limit.velocity < head.velocity
  /-- The convoy is ahead of the limit. -/
  ahead : head.place < limit.place
  /-- The square of the velocity is in the range. -/
  moderate : head.velocity * head.velocity < .greatest

namespace Approaching

theorem velocity_pos (approaching : limit.Approaching head) : zero < head.velocity :=
  approaching.limit_nonneg.trans_lt approaching.faster

/-- Twice the way to the point of the limit is positive, and clamped at most. -/
theorem double_left (approaching : limit.Approaching head) :
    zero < (limit.left head).mulInt 2 ∧
      ((limit.left head).mulInt 2).raw ≤ 2 * (limit.left head).raw := by
  have ahead := lt_def.mp approaching.ahead
  have left_pos : 0 < (limit.left head).raw := by
    rw [left, raw_sub]
    simp only [Fixed.limit]
    omega
  rw [pos_iff, mulInt, raw_saturate]
  simp only [Fixed.limit]
  omega

/-- In a slice that ends before the limit is reached, the sum of both velocities does not cover
twice the way. -/
theorem sum_mul_seconds_le (approaching : limit.Approaching head)
    (short : seconds < limit.untilLimit head) :
    (head.velocity.raw + limit.velocity.raw) * seconds.raw ≤
      ((limit.left head).mulInt 2).raw * 1048576 := by
  have velocity_pos := approaching.velocity_pos
  have velocity_lt := raw_lt_of_moderate velocity_pos.le approaching.moderate
  have faster := lt_def.mp approaching.faster
  have limit_nonneg := nonneg_iff.mp approaching.limit_nonneg
  rw [pos_iff] at velocity_pos
  have sum_eq : (head.velocity + limit.velocity).raw = head.velocity.raw + limit.velocity.raw := by
    apply raw_add_of_fits <;> simp only [Fixed.limit] <;> omega
  have sum_pos : zero < head.velocity + limit.velocity := by
    rw [pos_iff]
    omega
  have quotient_le := two_mul_raw_div_mul_le approaching.double_left.1.le sum_pos
  change 2 * ((limit.untilLimit head).raw * _) ≤ _ at quotient_le
  have seconds_le : (seconds.raw + 1) * (head.velocity + limit.velocity).raw ≤
      (limit.untilLimit head).raw * (head.velocity + limit.velocity).raw :=
    Int.mul_le_mul_of_nonneg_right short (by omega)
  rw [sum_eq] at quotient_le seconds_le
  rw [add_one_mul] at seconds_le
  linarith

/-- The deceleration that is needed is not negative. -/
theorem needed_nonneg (approaching : limit.Approaching head) : zero ≤ limit.needed head := by
  have squares_le := mul_self_mono approaching.limit_nonneg approaching.faster.le
  exact Fixed.div_nonneg (Fixed.sub_nonneg squares_le) approaching.double_left.1

/-- A slice that is on time slows down at least as the deceleration that is needed does, rounded
once more, or to the limit. -/
theorem brakedTo_le (approaching : limit.Approaching head) (seconds_nonneg : zero ≤ seconds)
    (able : limit.needed head ≤ most) :
    limit.brakedTo brake head most seconds ≤
      max (head.velocity - limit.needed head * seconds) limit.velocity := by
  have needed_nonneg := approaching.needed_nonneg
  have firmest_le : limit.firmest head most seconds ≤
      max (head.velocity - limit.needed head * seconds) limit.velocity := by
    apply max_le_max _ le_rfl
    exact sub_le_sub le_rfl
      (Fixed.mul_le_mul_right (able.trans (le_max_left _ _)) seconds_nonneg)
  have gentlest_le : limit.gentlest head most seconds ≤
      max (head.velocity - limit.needed head * seconds) limit.velocity := by
    rw [gentlest, min_eq_left able, max_eq_left needed_nonneg]
    exact max_le (le_max_left _ _) firmest_le
  exact fastestFit_le (approaching.limit_nonneg.trans (le_max_right _ _)) firmest_le gentlest_le

theorem brakedTo_nonneg (approaching : limit.Approaching head) :
    zero ≤ limit.brakedTo brake head most seconds := by
  have firmest_nonneg : zero ≤ limit.firmest head most seconds :=
    approaching.limit_nonneg.trans (le_max_right _ _)
  exact fastestFit_nonneg firmest_nonneg (firmest_nonneg.trans (le_max_right _ _))

theorem raw_squares (approaching : limit.Approaching head) :
    (head.velocity * head.velocity - limit.velocity * limit.velocity).raw =
      roundedSquare head.velocity.raw - roundedSquare limit.velocity.raw := by
  have limit_nonneg := approaching.limit_nonneg
  have squares_le := mul_self_mono limit_nonneg approaching.faster.le
  have high_le := (head.velocity * head.velocity).raw_le_limit
  have low_nonneg := nonneg_iff.mp (Fixed.mul_nonneg limit_nonneg limit_nonneg)
  rw [raw_sub_of_fits, raw_mul_self approaching.velocity_pos.le approaching.moderate,
    raw_mul_self limit_nonneg (squares_le.trans_lt approaching.moderate)]
  · rw [le_def] at squares_le
    simp only [Fixed.limit]
    omega
  · omega

/-- A deceleration that takes off no more than the velocity was not clamped, and neither is what it
takes off. -/
theorem needed_lt (approaching : limit.Approaching head) (seconds_pos : zero < seconds)
    (drop_le : (limit.needed head * seconds).raw ≤ head.velocity.raw) :
    (limit.needed head).raw < Fixed.limit ∧
      (limit.needed head).raw * seconds.raw ≤ Fixed.limit * 1048576 := by
  have velocity_lt := raw_lt_of_moderate approaching.velocity_pos.le approaching.moderate
  have needed_nonneg := nonneg_iff.mp approaching.needed_nonneg
  have product_nonneg := Int.mul_nonneg needed_nonneg seconds_pos.le
  have product_ge : (limit.needed head).raw * 1 ≤ (limit.needed head).raw * seconds.raw :=
    Int.mul_le_mul_of_nonneg_left seconds_pos needed_nonneg
  rw [raw_mul] at drop_le
  simp only [halfScale, scale, Fixed.limit] at *
  omega

/-- A deceleration that was not clamped misses by half a count and by the rounding of the squares. -/
theorem needed_ge (approaching : limit.Approaching head)
    (unclamped : (limit.needed head).raw < Fixed.limit) :
    ((head.velocity.raw + limit.velocity.raw) * (head.velocity.raw - limit.velocity.raw - 724) /
        ((limit.left head).mulInt 2).raw - 1 / 2 : ℚ) ≤ (limit.needed head).raw := by
  have twice_pos := approaching.double_left.1
  have squares_nonneg :=
    Fixed.sub_nonneg (mul_self_mono approaching.limit_nonneg approaching.faster.le)
  have squares_le := square_sub_square_le approaching.limit_nonneg approaching.faster
  have needed_gt := lt_of_raw_div_lt squares_nonneg twice_pos unclamped
  rw [approaching.raw_squares] at needed_gt
  change _ < (2 * (limit.needed head).raw + 1) * _ at needed_gt
  have doubled : 2 * ((head.velocity.raw + limit.velocity.raw) *
      (head.velocity.raw - limit.velocity.raw - 724)) ≤
        (2 * (limit.needed head).raw + 1) * ((limit.left head).mulInt 2).raw := by
    linarith
  have doubled : (2 * ((head.velocity.raw + limit.velocity.raw) *
      (head.velocity.raw - limit.velocity.raw - 724)) : ℚ) ≤
        (2 * (limit.needed head).raw + 1) * ((limit.left head).mulInt 2).raw := by
    exact_mod_cast doubled
  rw [sub_le_iff_le_add, div_le_iff₀ (Int.cast_pos.mpr (pos_iff.mp twice_pos))]
  linarith

/-- What the deceleration that is needed takes off the velocity, if it leaves any. -/
theorem drop_ge (approaching : limit.Approaching head) (seconds_pos : zero < seconds)
    (drop_le : (limit.needed head * seconds).raw ≤ head.velocity.raw) :
    (((head.velocity.raw + limit.velocity.raw) *
        (head.velocity.raw - limit.velocity.raw - 724) / ((limit.left head).mulInt 2).raw -
          1 / 2) * seconds.value - 1 / 2 : ℚ) ≤ (limit.needed head * seconds).raw := by
  obtain ⟨unclamped, product_le⟩ := approaching.needed_lt seconds_pos drop_le
  have drop_ge := le_raw_mul approaching.needed_nonneg seconds_pos.le product_le
  rw [mul_div_assoc] at drop_ge
  refine le_trans (sub_le_sub_right ?_ _) drop_ge
  exact mul_le_mul_of_nonneg_right (approaching.needed_ge unclamped) (value_nonneg seconds_pos.le)

end Approaching

/-- The trapezoid of a slice whose deceleration misses by half a count and by the rounding of two
squares the one that meets the limit at its point.  The exact trapezoid would cover the way at two
times, and both lie behind the slice. -/
theorem trapezoid_le {velocity slower next twice time : ℚ} (time_nonneg : 0 ≤ time)
    (twice_pos : 0 < twice) (slower_nonneg : 0 ≤ slower) (faster : slower ≤ velocity)
    (short : (velocity + slower) * time ≤ twice)
    (next_le : next ≤ velocity -
      (((velocity + slower) * (velocity - slower - 724) / twice - 1 / 2) * time - 1 / 2)) :
    (velocity + next + 1) * time / 2 ≤ twice / 2 + (time ^ 2 / 4 + 1451 / 4 * time) := by
  set share := (velocity + slower) * time / twice with share_eq
  have share_mul : share * twice = (velocity + slower) * time := div_mul_cancel₀ _ twice_pos.ne'
  have share_nonneg : 0 ≤ share :=
    div_nonneg (mul_nonneg (by linarith) time_nonneg) twice_pos.le
  have share_le : share ≤ 1 := (div_le_one twice_pos).mpr short
  have drop_eq : ((velocity + slower) * (velocity - slower - 724) / twice - 1 / 2) * time =
      share * (velocity - slower - 724) - time / 2 := by
    rw [share_eq]
    ring
  have reaches : (velocity - slower) * time ≤ twice := by
    refine le_trans ?_ short
    gcongr
    linarith
  have ahead : 0 ≤ (1 - share) * (twice - (velocity - slower) * time) :=
    mul_nonneg (by linarith) (by linarith)
  have ahead : 0 ≤ twice - 2 * velocity * time + share * ((velocity - slower) * time) := by
    linarith
  have lost : share * time ≤ time := mul_le_of_le_one_left time_nonneg share_le
  have sum_le : velocity + next + 1 ≤
      2 * velocity - share * (velocity - slower - 724) + time / 2 + 3 / 2 := by linarith
  calc (velocity + next + 1) * time / 2
      ≤ (2 * velocity - share * (velocity - slower - 724) + time / 2 + 3 / 2) * time / 2 := by
        gcongr
    _ = (2 * velocity * time - share * ((velocity - slower) * time)) / 2 +
          (time ^ 2 / 4 + 3 / 4 * time + 362 * (share * time)) := by ring
    _ ≤ twice / 2 + (time ^ 2 / 4 + 1451 / 4 * time) := by linarith

namespace Approaching

/-- The trapezoid of a slice that is on time, but for what is rounded on the way. -/
theorem covered_le (approaching : limit.Approaching head) (brake : Fixed → Fixed)
    (seconds_nonneg : zero ≤ seconds) (on_time : limit.OnTime head most seconds) :
    ((metresBetween head.velocity (limit.brakedTo brake head most seconds) seconds).raw : ℚ) ≤
      ((limit.left head).mulInt 2).raw / 2 +
        (seconds.value ^ 2 / 4 + 1451 / 4 * seconds.value) + 1 / 2 := by
  set next := limit.brakedTo brake head most seconds
  have next_nonneg : zero ≤ next := approaching.brakedTo_nonneg
  have value_nonneg := value_nonneg seconds_nonneg
  have twice_pos : (0 : ℚ) < ((limit.left head).mulInt 2).raw := by
    exact_mod_cast approaching.double_left.1
  have short : ((head.velocity.raw + limit.velocity.raw) * seconds.value : ℚ) ≤
      ((limit.left head).mulInt 2).raw := by
    rw [value, ← mul_div_assoc, div_le_iff₀ (by norm_num)]
    exact_mod_cast approaching.sum_mul_seconds_le on_time.2
  have covered : ((metresBetween head.velocity next seconds).raw : ℚ) ≤
      (head.velocity.raw + next.raw + 1) * seconds.value / 2 + 1 / 2 := by
    rw [mul_div_right_comm]
    exact raw_metresBetween_le approaching.velocity_pos.le next_nonneg seconds_nonneg
  have next_le : next ≤ max (head.velocity - limit.needed head * seconds) limit.velocity :=
    approaching.brakedTo_le seconds_nonneg on_time.1
  rcases le_max_iff.mp next_le with slowed | met
  · rcases eq_or_lt_of_le seconds_nonneg with no_time | seconds_pos
    · have value_eq : seconds.value = 0 := by
        rw [← no_time]
        exact zero_div _
      rw [value_eq] at covered ⊢
      linarith
    · have slowed := raw_le_sub_of_le next_nonneg slowed
      have drop_le : (limit.needed head * seconds).raw ≤ head.velocity.raw := by
        rw [nonneg_iff] at next_nonneg
        omega
      have drop_ge := approaching.drop_ge seconds_pos drop_le
      have slowed : (next.raw : ℚ) ≤ head.velocity.raw - (limit.needed head * seconds).raw := by
        exact_mod_cast slowed
      have trapezoid : (head.velocity.raw + next.raw + 1) * seconds.value / 2 ≤
          ((limit.left head).mulInt 2).raw / 2 +
            (seconds.value ^ 2 / 4 + 1451 / 4 * seconds.value) :=
        trapezoid_le value_nonneg twice_pos (Int.cast_nonneg approaching.limit_nonneg)
          (Int.cast_le.mpr (le_of_lt approaching.faster)) short (by linarith)
      linarith
  · have met : (next.raw : ℚ) ≤ limit.velocity.raw := Int.cast_le.mpr met
    have scaled : (head.velocity.raw + next.raw + 1) * seconds.value ≤
        (head.velocity.raw + limit.velocity.raw + 1) * seconds.value := by
      gcongr
    have square_nonneg := sq_nonneg seconds.value
    linarith

/-- A slice that is on time goes past the point of the limit by what is rounded at most: a quarter of
the square of its seconds and some 363 times its seconds, in counts. -/
theorem overshoot_le (approaching : limit.Approaching head) (brake : Fixed → Fixed)
    (seconds_nonneg : zero ≤ seconds) (on_time : limit.OnTime head most seconds) :
    ((limit.overshoot brake head most seconds).raw : ℚ) ≤
      seconds.value ^ 2 / 4 + 1451 / 4 * seconds.value + 1 / 2 := by
  have covered := approaching.covered_le brake seconds_nonneg on_time
  have twice_le : (((limit.left head).mulInt 2).raw : ℚ) ≤ 2 * (limit.left head).raw := by
    exact_mod_cast approaching.double_left.2
  have value_nonneg := value_nonneg seconds_nonneg
  have bound_nonneg : 0 ≤ seconds.value ^ 2 / 4 + 1451 / 4 * seconds.value + 1 / 2 := by positivity
  have exact_le : ((metresBetween head.velocity (limit.brakedTo brake head most seconds)
      seconds).raw - (limit.left head).raw : ℚ) ≤
        seconds.value ^ 2 / 4 + 1451 / 4 * seconds.value + 1 / 2 := by linarith
  rw [overshoot, raw_sub, Int.cast_max, Int.cast_min]
  apply max_le
  · exact le_trans (by norm_num [Fixed.limit]) bound_nonneg
  · exact (min_le_left _ _).trans (by exact_mod_cast exact_le)

end Approaching

end LimitAhead

end Haulage
