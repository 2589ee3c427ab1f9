import Haulage.Proofs.BrakingSlices

/-!
# Heeding a limit through a tick

A convoy heeds a limit some way ahead if it is less than half a unit above the limit, or no further
above the braking curve to it than the leeway.  Two slices keep that up and gain enough to make good
for the yards to which the travel of the tick is rounded, as long as the limit that the mover was
told of leaves the room that this limit needs.
-/

namespace Haulage

open Fixed

namespace Brakes

/-- Whether a velocity is low enough for a limit that starts `room` counts ahead. -/
def Heeds (brakes : Brakes) (limit : Fixed) (room : ℚ) (velocity : Fixed) : Prop :=
  velocity.raw < limit.raw + 11378 ∨
    brakes.curve velocity - brakes.curve limit ≤ room + brakes.leeway limit

namespace Heeds

variable {brakes : Brakes} {limit velocity : Fixed} {room wider : ℚ}

theorem mono (heeds : brakes.Heeds limit room velocity) (le : room ≤ wider) :
    brakes.Heeds limit wider velocity := by
  rcases heeds with slow | curbed
  · exact .inl slow
  · exact .inr (by linarith)

/-- At the point of the limit only the first remains. -/
theorem at_limit (heeds : brakes.Heeds limit room velocity) (firm : brakes.Firm)
    (slowest : 273067 ≤ limit.raw) (covered : velocity.raw ≤ 2147483648) (past : room ≤ 0) :
    velocity.raw < limit.raw + 11378 := by
  rcases heeds with slow | curbed
  · exact slow
  · exact firm.lt_brink_of_curve slowest covered (by linarith)

/-- The braking distance is as good as the curve. -/
theorem of_distance (firm : brakes.Firm) (nonneg : zero ≤ limit)
    (covered : velocity.raw ≤ 2147483648)
    (le : ((brakes.distance velocity).raw - (brakes.distance limit).raw : ℚ) ≤ room + 181) :
    brakes.Heeds limit room velocity := by
  rcases lt_or_ge velocity.raw (limit.raw + 11378) with slow | fast
  · exact .inl slow
  · have rise := firm.curve_le_of_distance nonneg fast covered
    exact .inr (by linarith)

end Heeds

end Brakes

/-- The limit that a drive was told of leaves the room that another limit needs, which starts `room`
counts ahead, for a convoy that covers at most `reach` counts. -/
structure Drive.Suits (drive : Drive) (brakes : Brakes) (limit : Fixed) (room reach : ℚ) :
    Prop where
  /-- Fitting the one fits the other. -/
  distance_le : (drive.limit.place.raw + (brakes.distance drive.limit.velocity).raw : ℚ) ≤
    room + (brakes.distance limit).raw + 1 / 2
  /-- Keeping to the one keeps to the other, or that one is still out of reach. -/
  slow_or_far : drive.limit.velocity ≤ limit ∨
    ((brakes.distance drive.limit.velocity).raw : ℚ) + reach ≤ room + (brakes.distance limit).raw

namespace Drive.Braked

variable {drive : Drive} {brakes : Brakes} {head : Head} {limit : Fixed} {top : Int}
  {room reach gain gain' : ℚ}

theorem sliceOf_velocity_le (braked : drive.Braked brakes) (within : head.Within)
    (velocity_le : head.velocity.raw ≤ top) (wanted_le : drive.wanted.raw ≤ top) :
    (drive.sliceOf head half).velocity.raw ≤ top := by
  have bounds := braked.sound.sliceOf_bounds within.velocity_nonneg (by decide : zero ≤ half)
  have candidate_le := braked.sound.candidate_le within.velocity_nonneg (by decide : zero ≤ half)
  have slice_le := bounds.2.2.trans (max_le (le_max_left _ _) candidate_le)
  rw [le_def, raw_max] at slice_le
  exact slice_le.trans (max_le velocity_le wanted_le)

theorem sliceOf_within (braked : drive.Braked brakes) (within : head.Within)
    (near : head.place.raw ≤ 1000000000000000000) :
    (drive.sliceOf head half).Within := by
  have bounds := braked.sound.sliceOf_bounds within.velocity_nonneg (by decide : zero ≤ half)
  have place_le := braked.sliceOf_place_le within within.covered braked.wanted_covered le_rfl
  exact ⟨within.place_nonneg.trans bounds.1, by omega, bounds.2.1,
    braked.sliceOf_velocity_le within within.covered braked.wanted_covered⟩

/-- A slice gains 99 counts on the limit, or ends with 180 to spare. -/
theorem sliceOf_heeds (braked : drive.Braked brakes) (within : head.Within)
    (near : head.place.raw ≤ 1000000000000000000) (limit_nonneg : zero ≤ limit)
    (suits : drive.Suits brakes limit room reach)
    (place_le : ((drive.sliceOf head half).place.raw : ℚ) ≤ reach)
    (heeds : brakes.Heeds limit (room - head.place.raw - gain) head.velocity)
    (gain_le : gain' ≤ gain + 99) (gain_le_spare : gain' ≤ 180) :
    brakes.Heeds limit (room - (drive.sliceOf head half).place.raw - gain')
      (drive.sliceOf head half).velocity := by
  have ends := braked.sliceOf_within within near
  have firm := braked.firm
  cases braked.outcome within with
  | slow below =>
    rcases suits.slow_or_far with slow | far
    · left
      have := le_def.mp (below.trans slow)
      omega
    · have distance_le := firm.able.distance_mono ends.velocity_nonneg below braked.limit_covered
      have distance_le : ((brakes.distance (drive.sliceOf head half).velocity).raw : ℚ) ≤
          (brakes.distance drive.limit.velocity).raw := by exact_mod_cast le_def.mp distance_le
      exact .of_distance firm limit_nonneg ends.covered (by linarith)
  | fitting fits =>
    have suited := suits.distance_le
    have fits : ((drive.sliceOf head half).place.raw +
        (brakes.distance (drive.sliceOf head half).velocity).raw : ℚ) ≤
          drive.limit.place.raw + (brakes.distance drive.limit.velocity).raw := by
      exact_mod_cast fits
    exact .of_distance firm limit_nonneg ends.covered (by linarith)
  | braked le gained =>
    rcases heeds with slow | curbed
    · left
      have := le_def.mp le
      omega
    · exact .inr (by linarith)

/-- A tick gains 180 counts on every limit that the one told of suits. -/
theorem run_heeds (braked : drive.Braked brakes) (scale_eq : drive.mapScale = one)
    {velocity : Fixed} (nonneg : zero ≤ velocity) (velocity_le : velocity.raw ≤ top)
    (wanted_le : drive.wanted.raw ≤ top) (top_le : top ≤ 2147483648) (limit_nonneg : zero ≤ limit)
    (suits : drive.Suits brakes limit room (top + 2200))
    (heeds : brakes.Heeds limit room velocity) :
    brakes.Heeds limit (room - (drive.run ⟨zero, velocity⟩ [32, 32]).place.raw - 180)
      (drive.run ⟨zero, velocity⟩ [32, 32]).velocity := by
  set start : Head := ⟨zero, velocity⟩ with start_eq
  have start_place : start.place.raw = 0 := rfl
  have start_within : start.Within :=
    ⟨le_rfl, by omega, nonneg, velocity_le.trans top_le⟩
  have slice_eq : ∀ head, drive.slice head 32 = drive.sliceOf head half := by
    intro head
    rw [slice, scale_eq, ← seconds_of_full_slice]
    rfl
  have run_eq : drive.run start [32, 32] = drive.sliceOf (drive.sliceOf start half) half := by
    rw [run, List.foldl_cons, List.foldl_cons, List.foldl_nil, slice_eq, slice_eq]
  have first_within := braked.sliceOf_within start_within (by omega)
  have first_place := braked.sliceOf_place_le start_within velocity_le wanted_le top_le
  have first_velocity := braked.sliceOf_velocity_le start_within velocity_le wanted_le
  set first := drive.sliceOf start half with first_eq
  have second_place := braked.sliceOf_place_le first_within first_velocity wanted_le top_le
  have top_nonneg : 0 ≤ top := (nonneg_iff.mp nonneg).trans velocity_le
  have first_reach : (first.place.raw : ℚ) ≤ top + 2200 := by
    exact_mod_cast (by omega : first.place.raw ≤ top + 2200)
  have second_reach : ((drive.sliceOf first half).place.raw : ℚ) ≤ top + 2200 := by
    exact_mod_cast (by omega : (drive.sliceOf first half).place.raw ≤ top + 2200)
  -- The first slice gains 99 counts; the second would gain as many again and may stop at 180.
  have start_heeds : brakes.Heeds limit (room - start.place.raw - 0) start.velocity :=
    heeds.mono (by rw [start_place]; norm_num)
  have first_heeds : brakes.Heeds limit (room - first.place.raw - 99) first.velocity :=
    braked.sliceOf_heeds start_within (by omega) limit_nonneg suits first_reach start_heeds
      (by norm_num) (by norm_num)
  rw [run_eq]
  exact braked.sliceOf_heeds first_within (by omega) limit_nonneg suits second_reach first_heeds
    (by norm_num) (by norm_num)

end Drive.Braked

end Haulage
