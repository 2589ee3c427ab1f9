import Haulage.Proofs.Exactness
import Haulage.Proofs.Whereabouts

/-!
# Simulated time

The counter of a clock goes up until it has counted 2⁶⁴ ticks.  The time that it tells is the exact
one, rounded once, up to 2³⁷ s; from there on the product of map scale and engine ticks is cut off,
and time stands still.  It never goes back within 2⁶³ ticks, as long as the counter fits a signed
word.
-/

namespace Haulage

open Fixed

/-- Engine ticks that are cut off before they are multiplied by the map scale are cut off no earlier
than the product. -/
theorem min_mul_min_limit {ticks scale : Int} (nonneg : 0 ≤ ticks) (pos : 0 < scale) :
    min (scale * min ticks limit) limit = min (ticks * scale) limit := by
  have ticks_le : ticks * 1 ≤ ticks * scale := Int.mul_le_mul_of_nonneg_left (by omega) nonneg
  rw [Int.mul_comm]
  rcases le_or_gt ticks limit with fits | cut
  · rw [min_eq_left fits]
  · have limit_le : limit * 1 ≤ limit * scale :=
      Int.mul_le_mul_of_nonneg_left (by omega) (by decide)
    rw [min_eq_right cut.le, min_eq_right (by omega), min_eq_right (by omega)]

namespace Clock

/-- Engine ticks since the first tick. -/
def ticksHanded (clock : Clock) : Nat := clock.now.number.toNat * clock.engineTicks.toNat

/-- Simulated seconds since the first tick, before they are rounded. -/
def exactSeconds (clock : Clock) : ℚ := clock.ticksHanded * clock.mapScale.value / 64

variable {clock : Clock} {count : Nat}

theorem iterate_advance (clock : Clock) (count : Nat) :
    advance^[count] clock = { clock with now := ⟨clock.now.number + .ofNat count⟩ } := by
  induction count with
  | zero => simp
  | succ count ih =>
    rw [Function.iterate_succ_apply', ih, advance, UInt64.ofNat_add, ← UInt64.add_assoc]
    rfl

theorem toNat_iterate_advance
    (room : clock.now.number.toNat + count < 18446744073709551616) :
    (advance^[count] clock).now.number.toNat = clock.now.number.toNat + count := by
  simp only [iterate_advance, UInt64.toNat_add, UInt64.toNat_ofNat']
  omega

theorem mapScale_iterate_advance (clock : Clock) (count : Nat) :
    (advance^[count] clock).mapScale = clock.mapScale := by
  rw [iterate_advance]

theorem ticksHanded_iterate_advance
    (room : clock.now.number.toNat + count < 18446744073709551616) :
    (advance^[count] clock).ticksHanded =
      (clock.now.number.toNat + count) * clock.engineTicks.toNat := by
  rw [ticksHanded, toNat_iterate_advance room, iterate_advance]

theorem ticksHanded_le_iterate_advance
    (room : clock.now.number.toNat + count < 18446744073709551616) :
    clock.ticksHanded ≤ (advance^[count] clock).ticksHanded := by
  rw [ticksHanded_iterate_advance room]
  exact Nat.mul_le_mul_right _ (Nat.le_add_right _ _)

theorem toInt_elapsedEngineTicks (early : clock.now.number.toNat < 9223372036854775808) :
    clock.elapsedEngineTicks.toInt = min (clock.ticksHanded : Int) limit := by
  have signed_eq : clock.now.number.toInt64.toInt = clock.now.number.toNat :=
    BitVec.toInt_eq_toNat_of_lt (by change 2 * clock.now.number.toNat < 2 ^ 64; omega)
  rw [elapsedEngineTicks, toInt_ofIntClamp64, signed_eq, ← Int.natCast_mul, ← ticksHanded]
  simp only [limit]
  omega

theorem raw_elapsedSeconds (scale_pos : zero < clock.mapScale)
    (early : clock.now.number.toNat < 9223372036854775808) :
    clock.elapsedSeconds.raw =
      (2 * min (clock.ticksHanded * clock.mapScale.raw) limit + 64) / 128 := by
  have ticks_nonneg := Int.natCast_nonneg clock.ticksHanded
  have product_nonneg := Int.mul_nonneg ticks_nonneg (pos_iff.mp scale_pos).le
  rw [elapsedSeconds, Units.secondsOfTicks, raw_mulInt_divInt _ _ (by decide),
    toInt_elapsedEngineTicks early, min_mul_min_limit ticks_nonneg (pos_iff.mp scale_pos)]
  simp only [Units.ticksPerSecond, limit]
  omega

theorem elapsedSeconds_nonneg (scale_pos : zero < clock.mapScale)
    (early : clock.now.number.toNat < 9223372036854775808) : zero ≤ clock.elapsedSeconds := by
  have product_nonneg :=
    Int.mul_nonneg (Int.natCast_nonneg clock.ticksHanded) (pos_iff.mp scale_pos).le
  rw [nonneg_iff, raw_elapsedSeconds scale_pos early]
  simp only [limit]
  omega

theorem elapsedSeconds_le_iterate_advance (scale_pos : zero < clock.mapScale)
    (early : clock.now.number.toNat + count < 9223372036854775808) :
    clock.elapsedSeconds ≤ (advance^[count] clock).elapsedSeconds := by
  have room : clock.now.number.toNat + count < 18446744073709551616 := by omega
  have later_eq := toNat_iterate_advance room
  have scale_eq := mapScale_iterate_advance clock count
  have ticks_le := ticksHanded_le_iterate_advance room
  have product_le := Int.mul_le_mul_of_nonneg_right (Int.ofNat_le.mpr ticks_le)
    (pos_iff.mp scale_pos).le
  rw [le_def, raw_elapsedSeconds scale_pos (by omega),
    raw_elapsedSeconds (scale_eq ▸ scale_pos) (by omega), scale_eq]
  omega

/-- No later tick has so few seconds, unless none of them hands out engine ticks. -/
theorem early_of_exactSeconds_le (scale_ge : 1049 ≤ clock.mapScale.raw)
    (handed : 0 < clock.engineTicks.toNat)
    (fits : clock.ticksHanded * clock.mapScale.raw ≤ 9223372036854775808) :
    clock.now.number.toNat < 9223372036854775808 := by
  have scaled := Int.mul_le_mul_of_nonneg_left scale_ge (Int.natCast_nonneg clock.ticksHanded)
  have ticks_ge : clock.now.number.toNat * 1 ≤ clock.ticksHanded := Nat.mul_le_mul_left _ handed
  omega

theorem exactSeconds_le_iff {clock : Clock} :
    clock.exactSeconds ≤ 137438953472 ↔
      clock.ticksHanded * clock.mapScale.raw ≤ 9223372036854775808 := by
  rw [← Int.cast_le (R := ℚ), exactSeconds, value]
  push_cast
  constructor <;> intro le <;> linarith

theorem floor_exactSeconds (clock : Clock) :
    ⌊clock.exactSeconds * 1048576 + 1 / 2⌋ =
      (2 * (clock.ticksHanded * clock.mapScale.raw) + 64) / 128 := by
  have exact_eq : clock.exactSeconds * 1048576 =
      ((clock.ticksHanded * clock.mapScale.raw : Int) : ℚ) / (64 : Int) := by
    rw [exactSeconds, div_mul_eq_mul_div, mul_assoc, value_mul_scale]
    push_cast
    rfl
  rw [exact_eq, ← roundQuotient_eq_floor_of_pos (by decide), roundQuotient_of_pos (by decide)]
  rfl

/-- Up to 2³⁷ s the time is told exactly, rounded once. -/
theorem raw_elapsedSeconds_of_exactSeconds_le (scale_ge : 1049 ≤ clock.mapScale.raw)
    (short : clock.exactSeconds ≤ 137438953472) :
    clock.elapsedSeconds.raw = ⌊clock.exactSeconds * 1048576 + 1 / 2⌋ := by
  have scale_pos : zero < clock.mapScale := by
    rw [pos_iff]
    omega
  have fits := exactSeconds_le_iff.mp short
  rw [floor_exactSeconds]
  rcases Nat.eq_zero_or_pos clock.engineTicks.toNat with idle | handed
  · have none : clock.ticksHanded = 0 := by rw [ticksHanded, idle, Nat.mul_zero]
    have still : clock.elapsedEngineTicks = 0 := by
      rw [elapsedEngineTicks, idle, Int.ofNat_zero, Int.mul_zero]
      rfl
    rw [elapsedSeconds, still, none, Units.secondsOfTicks, raw_mulInt_divInt _ _ (by decide)]
    simp [Units.ticksPerSecond, limit]
  · rw [raw_elapsedSeconds scale_pos (early_of_exactSeconds_le scale_ge handed fits)]
    simp only [limit]
    omega

/-- However often a clock is advanced: its counter goes up by one each time until 2⁶⁴ ticks are
counted; within 2⁶³ ticks the time that it tells is never negative and never goes back; and it is
the exact time, rounded half up, wherever that is at most 2³⁷ s. -/
theorem time_never_goes_back {world : World} (validated : world.validate = .ok ()) (clock : Clock)
    (scale_eq : clock.mapScale = world.mapScale) (count : Nat) :
    let later := advance^[count] clock
    (clock.now.number.toNat + count < 18446744073709551616 →
        later.now.number.toNat = clock.now.number.toNat + count) ∧
      (clock.now.number.toNat + count < 9223372036854775808 →
        zero ≤ clock.elapsedSeconds ∧ clock.elapsedSeconds ≤ later.elapsedSeconds) ∧
      (clock.exactSeconds ≤ 137438953472 →
        clock.elapsedSeconds.raw = ⌊clock.exactSeconds * 1048576 + 1 / 2⌋) := by
  have scale_ge : 1049 ≤ clock.mapScale.raw := scale_eq ▸ World.mapScale_ge validated
  have scale_pos : zero < clock.mapScale := scale_eq ▸ World.mapScale_pos validated
  refine ⟨toNat_iterate_advance, fun early => ⟨?_, ?_⟩, ?_⟩
  · exact elapsedSeconds_nonneg scale_pos (by omega)
  · exact elapsedSeconds_le_iterate_advance scale_pos early
  · exact raw_elapsedSeconds_of_exactSeconds_le scale_ge

/-- Twelve ticks of 4294967295 engine ticks each, on tiles of three metres. -/
theorem long_ticks_told :
    let world : World := { tileMetres := 3 }
    let clock : Clock := ⟨4294967295, world.mapScale, .start⟩
    let later := advance^[12] clock
    later.now.number.toNat = 12 ∧ clock.elapsedSeconds ≤ later.elapsedSeconds ∧
      later.elapsedSeconds.raw = ⌊later.exactSeconds * 1048576 + 1 / 2⌋ := by
  intro world clock later
  have validated : world.validate = .ok () := rfl
  have counted : clock.now.number.toNat = 0 := rfl
  have later_scale : later.mapScale = world.mapScale := mapScale_iterate_advance clock 12
  have per_tick : clock.engineTicks.toNat = 4294967295 := rfl
  have handed : later.ticksHanded = 51539607540 := by
    rw [ticksHanded_iterate_advance (by omega), counted, per_tick]
  have short : later.exactSeconds ≤ 137438953472 := by
    rw [exactSeconds_le_iff, handed, later_scale]
    decide
  obtain ⟨counts, onward, -⟩ := time_never_goes_back validated clock rfl 12
  obtain ⟨-, -, told⟩ := time_never_goes_back validated later later_scale 0
  refine ⟨?_, (onward (by omega)).2, told short⟩
  rw [counts (by omega), counted]

/-- After 2⁴⁴ engine ticks on the usual map, 2³⁸ s, half of them are told.  After 2⁶³ ticks the time
told is negative, and after 2⁶⁴ ticks the counter is at the first again. -/
theorem time_goes_back :
    let scale := World.mapScale {}
    let late : Clock := ⟨1, scale, ⟨17592186044416⟩⟩
    let last : Clock := ⟨64, scale, ⟨9223372036854775807⟩⟩
    let full : Clock := ⟨64, scale, ⟨18446744073709551615⟩⟩
    late.exactSeconds = 274877906944 ∧ late.elapsedSeconds = ofInt 137438953472 ∧
      zero < last.elapsedSeconds ∧ last.advance.elapsedSeconds < zero ∧
      full.advance.now = .start := by
  intro scale late last full
  have handed : late.ticksHanded = 17592186044416 := by decide
  have scale_eq : late.mapScale = one := by decide
  refine ⟨?_, by decide, by decide, by decide, by decide⟩
  rw [exactSeconds, handed, scale_eq, value, raw_one]
  norm_num

end Clock

end Haulage
