import Haulage.Proofs.FierceBrakes

/-!
# Slice by slice towards a limit

What a convoy that can brake in time for a limit keeps through the slices of a call: it is no faster
than the limit, or still in time for the braking distance, or it brakes at full force and is so far
down the curve with a bias that every slice may be charged one count of velocity.  At the end of a
call it is not past the point of the limit while it is faster.
-/

namespace Haulage

open Fixed Profile

/-- Where the curve with a bias down to a limit ends, and how much later the braking distance may
have it end. -/
def Drive.curveEnd (drive : Drive) (brakes : Brakes) : ℚ :=
  drive.limit.place.raw + brakes.biasedCurve 8192 drive.limit.velocity.raw +
    brakes.biasedLeeway drive.limit.velocity +
    524288 / brakes.pull (binOf drive.limit.velocity)

/-- What a convoy keeps to towards the limit ahead, after some full slices. -/
inductive Drive.KeepsTo (drive : Drive) (brakes : Brakes) (charged : Nat) (head : Head) : Prop where
  /-- It is less than half a unit faster than the limit. -/
  | slow (below : head.velocity.raw < drive.limit.velocity.raw + 11378)
  /-- It is in time for the braking distance to it. -/
  | fitting (room : head.place.raw + (brakes.distance head.velocity).raw ≤
      drive.limit.place.raw + (brakes.distance drive.limit.velocity).raw)
  /-- It brakes at full force, with one count of velocity charged for every slice. -/
  | braking (within : head.place.raw + brakes.biasedCurve 8192 (head.velocity.raw - charged) +
      1 / 2 ≤ drive.curveEnd brakes)

namespace Drive.Stoppable

variable {drive : Drive} {brakes : Brakes} {head : Head} {seconds : Fixed} {charged : Nat}

/-- A slice that ends at full force. -/
theorem slows_of_braked (stoppable : drive.Stoppable brakes) (ahead : head.Ahead)
    (seconds_nonneg : zero ≤ seconds)
    (velocity_eq : (drive.sliceOf head seconds).velocity =
      head.velocity - brakes.retarding head.velocity / .ofInt brakes.weight.toInt * seconds) :
    brakes.Slows seconds head.velocity (drive.sliceOf head seconds).velocity where
  seconds_nonneg := seconds_nonneg
  velocity_nonneg := ahead.velocity_nonneg
  covered := ahead.covered
  next_nonneg := (stoppable.sliceOf_ahead ahead seconds_nonneg).velocity_nonneg
  next_eq := velocity_eq

theorem place_le_of_braked {place between next : Fixed} (place_nonneg : zero ≤ place)
    (between_nonneg : zero ≤ between) (next_le : next ≤ place + between) :
    (next.raw : ℚ) ≤ place.raw + between.raw := by
  rw [nonneg_iff] at place_nonneg between_nonneg
  rw [le_def, raw_add] at next_le
  simp only [Fixed.limit] at next_le
  exact_mod_cast (by omega : next.raw ≤ place.raw + between.raw)

/-- A convoy faster than the limit is on the curve, up to a count and a half. -/
theorem curve_of_keepsTo (stoppable : drive.Stoppable brakes) (ahead : head.Ahead)
    (keeps : drive.KeepsTo brakes charged head) (charged_le : charged ≤ 2048)
    (faster : drive.limit.velocity.raw + 11378 ≤ head.velocity.raw) :
    head.place.raw + brakes.biasedCurve 8192 (head.velocity.raw - charged) ≤
      drive.curveEnd brakes + 3 / 2 := by
  have limit_nonneg := stoppable.sound.limit_nonneg
  have limit_low := nonneg_iff.mp limit_nonneg
  cases keeps with
  | slow below => omega
  | fitting room =>
    have room : (head.place.raw + (brakes.distance head.velocity).raw : ℚ) ≤
        drive.limit.place.raw + (brakes.distance drive.limit.velocity).raw := by
      exact_mod_cast room
    have blurs := stoppable.able.blurs stoppable.able.admits_8192 limit_nonneg
      stoppable.limit_covered
    have fall := stoppable.able.biasedCurve_le_of_distance limit_nonneg blurs
      (by unfold brinkOf; omega) ahead.covered
    have charge := stoppable.able.biasedCurve_mono stoppable.able.admits_8192.nonneg
      (by omega : 0 ≤ head.velocity.raw - charged)
      (by omega : head.velocity.raw - charged ≤ head.velocity.raw) ahead.covered
    unfold curveEnd
    linarith
  | braking within => linarith

/-- A full slice. -/
theorem sliceOf_keepsTo (stoppable : drive.Stoppable brakes) (ahead : head.Ahead)
    (keeps : drive.KeepsTo brakes charged head) (charged_lt : charged < 2048)
    (seconds_ge : 525 ≤ seconds.raw) :
    drive.KeepsTo brakes (charged + 1) (drive.sliceOf head seconds) := by
  have seconds_nonneg : zero ≤ seconds := by rw [nonneg_iff]; omega
  have limit_low := nonneg_iff.mp stoppable.sound.limit_nonneg
  cases stoppable.ending ahead seconds_nonneg with
  | slow below =>
    rw [le_def] at below
    exact .slow (by omega)
  | fitting room => exact .fitting room
  | braked velocity_eq place_le =>
    have slows := stoppable.slows_of_braked ahead seconds_nonneg velocity_eq
    have le := le_def.mp (stoppable.able.drop_ge slows).1
    rcases lt_or_ge (drive.sliceOf head seconds).velocity.raw
      (drive.limit.velocity.raw + 11378) with below | beyond
    · exact .slow below
    · have before := stoppable.curve_of_keepsTo ahead keeps (le_of_lt charged_lt) (by omega)
      have gain := stoppable.able.biasedCurve_gain stoppable.able.admits_8192.nonneg slows
        (by omega : (0 : Int) ≤ charged) (by omega)
      have place_le := place_le_of_braked ahead.place_nonneg
        (LimitAhead.metresBetween_nonneg ahead.velocity_nonneg slows.next_nonneg seconds_nonneg)
        place_le
      have gained : 6144 * (525 / 1048576) ≤
          (8192 - (charged : ℚ) - 1) * (seconds.raw / 1048576 : ℚ) := by
        have charged_le : (charged : ℚ) ≤ 2047 := by
          exact_mod_cast (by omega : charged ≤ 2047)
        have seconds_ge : (525 : ℚ) ≤ seconds.raw := by exact_mod_cast seconds_ge
        exact mul_le_mul (by linarith) (by linarith) (by norm_num) (by linarith)
      refine .braking ?_
      push_cast at gain ⊢
      linarith

/-- In time for the braking distance, a convoy faster than the limit is not past its point. -/
theorem place_le_of_room (stoppable : drive.Stoppable brakes) (ahead : head.Ahead)
    (room : head.place.raw + (brakes.distance head.velocity).raw ≤
      drive.limit.place.raw + (brakes.distance drive.limit.velocity).raw)
    (faster : drive.limit.velocity.raw + 11378 ≤ head.velocity.raw) :
    head.place ≤ drive.limit.place := by
  have needed := le_def.mp (stoppable.able.distance_mono stoppable.sound.limit_nonneg
    (by rw [le_def]; omega : drive.limit.velocity ≤ head.velocity) ahead.covered)
  rw [le_def]
  omega

/-- At the end of full slices a convoy faster than the limit is not past its point. -/
theorem place_le_of_keepsTo (stoppable : drive.Stoppable brakes) (ahead : head.Ahead)
    (keeps : drive.KeepsTo brakes charged head) (charged_le : charged ≤ 2048)
    (faster : drive.limit.velocity.raw + 11378 ≤ head.velocity.raw) :
    head.place ≤ drive.limit.place := by
  have covered := ahead.covered
  cases keeps with
  | slow below => omega
  | fitting room => exact stoppable.place_le_of_room ahead room faster
  | braking within =>
    have margin := stoppable.able.leeway_lt stoppable.sound.limit_nonneg
      (by unfold brinkOf; omega : brinkOf drive.limit.velocity ≤ head.velocity.raw - charged)
      (by omega)
    unfold curveEnd at within
    have before : (head.place.raw : ℚ) < drive.limit.place.raw := by linarith
    rw [le_def]
    exact le_of_lt (by exact_mod_cast before)

/-- A last slice at full force from a convoy in time for the braking distance. -/
theorem sliceOf_place_lt_of_room (stoppable : drive.Stoppable brakes)
    (room : head.place.raw + (brakes.distance head.velocity).raw ≤
      drive.limit.place.raw + (brakes.distance drive.limit.velocity).raw)
    (seconds_ge : 16 ≤ seconds.raw) {next : Fixed}
    (slows : brakes.Slows seconds head.velocity next)
    (whole : drive.limit.velocity = zero ∨ 22755 ≤ drive.limit.velocity.raw)
    (faster : drive.limit.velocity.raw + 11378 ≤ next.raw) :
    (head.place.raw + (metresBetween head.velocity next seconds).raw : ℚ) <
      drive.limit.place.raw + 1 := by
  have able := stoppable.able
  have limit_nonneg := stoppable.sound.limit_nonneg
  have limit_low := nonneg_iff.mp limit_nonneg
  have covered := slows.covered
  have le := le_def.mp (able.drop_ge slows).1
  have room : (head.place.raw + (brakes.distance head.velocity).raw : ℚ) ≤
      drive.limit.place.raw + (brakes.distance drive.limit.velocity).raw := by
    exact_mod_cast room
  have brink_le : brinkOf drive.limit.velocity ≤ head.velocity.raw := by unfold brinkOf; omega
  have next_brink_le : brinkOf drive.limit.velocity ≤ next.raw - (0 + 1) := by unfold brinkOf; omega
  -- A short slice gains nothing on the curve, but loses no more than half a count.
  have gain := able.biasedCurve_gain able.admits_8192.nonneg slows le_rfl (by omega)
  have seconds_ge_zero : (0 : ℚ) ≤ seconds.raw := by exact_mod_cast (by omega : 0 ≤ seconds.raw)
  have gain_nonneg : (0 : ℚ) ≤ (8192 - 0 - 1) * (seconds.raw / 1048576) := by positivity
  rw [Int.sub_zero, Int.cast_zero] at gain
  rcases whole with standing | limit_ge
  · have blurs := able.blurs_zero able.admits_8192
    rw [← standing] at blurs
    have fall := able.biasedCurve_le_of_distance limit_nonneg blurs brink_le covered
    have margin := able.leeway_lt limit_nonneg next_brink_le (by omega)
    have rounding_nonneg : 0 ≤ 524288 / brakes.pull (binOf drive.limit.velocity) :=
      div_nonneg (by norm_num) (able.pull_pos _).le
    linarith
  · rcases le_total (brakes.pull 0) 134217728 with gentle | fierce
    · have blurs := able.blurs able.admits_8192 limit_nonneg stoppable.limit_covered
      have fall := able.biasedCurve_le_of_distance limit_nonneg blurs brink_le covered
      have margin := able.leeway_add_one_lt gentle limit_ge next_brink_le (by omega)
      linarith
    · have short := able.metresBetween_lt_of_fierce slows fierce limit_ge faster seconds_ge
      linarith

/-- After a last slice, which may be short, a convoy faster than the limit is not past its point. -/
theorem sliceOf_place_le (stoppable : drive.Stoppable brakes) (ahead : head.Ahead)
    (keeps : drive.KeepsTo brakes charged head) (charged_lt : charged < 2048)
    (seconds_ge : 16 ≤ seconds.raw)
    (whole : drive.limit.velocity = zero ∨ 22755 ≤ drive.limit.velocity.raw)
    (faster : drive.limit.velocity.raw + 11378 ≤ (drive.sliceOf head seconds).velocity.raw) :
    (drive.sliceOf head seconds).place ≤ drive.limit.place := by
  have seconds_nonneg : zero ≤ seconds := by rw [nonneg_iff]; omega
  have limit_nonneg := stoppable.sound.limit_nonneg
  have limit_low := nonneg_iff.mp limit_nonneg
  have next_ahead := stoppable.sliceOf_ahead ahead seconds_nonneg
  cases stoppable.ending ahead seconds_nonneg with
  | slow below =>
    rw [le_def] at below
    omega
  | fitting room => exact stoppable.place_le_of_room next_ahead room faster
  | braked velocity_eq place_le =>
    have slows := stoppable.slows_of_braked ahead seconds_nonneg velocity_eq
    have le := le_def.mp (stoppable.able.drop_ge slows).1
    have place_le := place_le_of_braked ahead.place_nonneg
      (LimitAhead.metresBetween_nonneg ahead.velocity_nonneg slows.next_nonneg seconds_nonneg)
      place_le
    have before : ((drive.sliceOf head seconds).place.raw : ℚ) < drive.limit.place.raw + 1 := by
      cases keeps with
      | slow below => omega
      | fitting room =>
        have short := stoppable.sliceOf_place_lt_of_room room seconds_ge slows whole faster
        linarith
      | braking within =>
        have gain := stoppable.able.biasedCurve_gain stoppable.able.admits_8192.nonneg slows
          (by omega : (0 : Int) ≤ charged) (by omega)
        have margin := stoppable.able.leeway_lt limit_nonneg
          (by unfold brinkOf; omega : brinkOf drive.limit.velocity ≤
            (drive.sliceOf head seconds).velocity.raw - (charged + 1))
          (by have := next_ahead.covered; omega)
        have gain_nonneg : (0 : ℚ) ≤ (8192 - (charged : ℚ) - 1) * (seconds.raw / 1048576) := by
          have charged_le : (charged : ℚ) ≤ 2047 := by exact_mod_cast (by omega : charged ≤ 2047)
          have seconds_low : (0 : ℚ) ≤ seconds.raw := by exact_mod_cast nonneg_iff.mp seconds_nonneg
          exact mul_nonneg (by linarith) (by positivity)
        unfold curveEnd at within
        push_cast at gain
        linarith
    have before : (drive.sliceOf head seconds).place.raw < drive.limit.place.raw + 1 := by
      exact_mod_cast before
    rw [le_def]
    omega

/-- On no map a slice is shorter than on the one with the least scale. -/
theorem raw_secondsOfTicks_ge {mapScale : Fixed} (scale_ge : 1049 ≤ mapScale.raw) {ticks : Nat}
    (short : ticks ≤ 32) :
    (2098 * ticks + 64) / 128 ≤ (Units.secondsOfTicks mapScale ticks).raw := by
  have product_ge : 1049 * (ticks : Int) ≤ mapScale.raw * ticks :=
    Int.mul_le_mul_of_nonneg_right scale_ge (Int.natCast_nonneg ticks)
  rw [Units.secondsOfTicks, divInt, quotient_of_pos (by decide), roundQuotient_of_pos (by decide),
    raw_saturate, mulInt, raw_saturate]
  simp only [Units.ticksPerSecond, Fixed.limit]
  omega

theorem run_full_keepsTo (stoppable : drive.Stoppable brakes) (scale_ge : 1049 ≤ drive.mapScale.raw)
    (ahead : head.Ahead) (keeps : drive.KeepsTo brakes 0 head) {count : Nat}
    (count_le : count ≤ 2048) :
    (drive.run head (List.replicate count sliceTicks)).Ahead ∧
      drive.KeepsTo brakes count (drive.run head (List.replicate count sliceTicks)) := by
  induction count with
  | zero => exact ⟨ahead, keeps⟩
  | succ count ih =>
    obtain ⟨before_ahead, before_keeps⟩ := ih (by omega)
    have seconds_ge := raw_secondsOfTicks_ge scale_ge (by decide : sliceTicks ≤ 32)
    have seconds_ge : 525 ≤ (Units.secondsOfTicks drive.mapScale sliceTicks).raw := by
      simp only [sliceTicks] at seconds_ge ⊢
      omega
    rw [List.replicate_succ', run_append]
    exact ⟨stoppable.sliceOf_ahead before_ahead (by rw [nonneg_iff]; omega),
      stoppable.sliceOf_keepsTo before_ahead before_keeps count_le seconds_ge⟩

/-- At the end of a call a convoy faster than the limit is not past its point. -/
theorem run_place_le (stoppable : drive.Stoppable brakes) (scale_ge : 1049 ≤ drive.mapScale.raw)
    (ahead : head.Ahead) (keeps : drive.KeepsTo brakes 0 head)
    (whole : drive.limit.velocity = zero ∨ 22755 ≤ drive.limit.velocity.raw) {ticks : Nat}
    (ticks_le : ticks ≤ mostTicks)
    (faster : drive.limit.velocity.raw + 11378 ≤ (drive.run head (slices ticks)).velocity.raw) :
    (drive.run head (slices ticks)).place ≤ drive.limit.place := by
  simp only [mostTicks] at ticks_le
  have count_le : ticks / sliceTicks ≤ 2048 := by
    simp only [sliceTicks]
    omega
  obtain ⟨full_ahead, full_keeps⟩ := stoppable.run_full_keepsTo scale_ge ahead keeps count_le
  rw [slices] at faster ⊢
  split at faster
  · next no_rest =>
    rw [if_pos no_rest, List.append_nil]
    rw [List.append_nil] at faster
    exact stoppable.place_le_of_keepsTo full_ahead full_keeps count_le faster
  · next rest =>
    rw [if_neg rest, run_append]
    rw [run_append] at faster
    simp only [sliceTicks] at rest
    have seconds_ge := raw_secondsOfTicks_ge scale_ge
      (by simp only [sliceTicks]; omega : ticks % sliceTicks ≤ 32)
    refine stoppable.sliceOf_place_le full_ahead full_keeps ?_ ?_ whole faster
    · simp only [sliceTicks]
      omega
    · simp only [sliceTicks] at seconds_ge ⊢
      omega

end Drive.Stoppable

end Haulage
