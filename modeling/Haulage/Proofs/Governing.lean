import Haulage.Proofs.Loads
import Haulage.Proofs.Outlook
import Haulage.Proofs.Travel

/-!
# Brakes that govern a route

Where the limit falls twice within a braking distance, the nearer fall may hide the other one from a
convoy.  A train can keep to the limits of a level route if its brakes are not fierce and the falls
are far enough apart for them, whichever way it runs.
-/

namespace Haulage

open Fixed

namespace LiveConvoy

/-- At a standstill brakes and resistance slow the convoy down by at most 16 m/s². -/
def Gentle (live : LiveConvoy) : Prop :=
  (Profile.ofSource live).binForce ((Profile.ofSource live).resistance live.weight) 0 ≤
    (Fixed.ofInt live.weight.weight.toInt).mulInt 16

/-- The way between two falls of the limit is long enough to brake from the one to the other, for
what a convoy may travel in a tick at the limit before them, and for a step more. -/
def BrakesBetween (live : LiveConvoy) (before fall lower : Section) (length : Nat) : Prop :=
  (Profile.ofSource live).brakingDistance live.weight fall.velocity ≤
    (Profile.ofSource live).brakingDistance live.weight lower.velocity +
      Units.metresOfSteps one (.ofInt (length - before.speed.toInt / 64 - 1))

instance (live : LiveConvoy) : Decidable live.Gentle := inferInstanceAs (Decidable (_ ≤ _))

instance (live : LiveConvoy) (before fall lower : Section) (length : Nat) :
    Decidable (live.BrakesBetween before fall lower length) := inferInstanceAs (Decidable (_ ≤ _))

/-- Wherever the limit falls from one section to the next, every limit behind that is lower still is
far enough away. -/
def Spaced (live : LiveConvoy) (travel : List Section) : Prop :=
  ∀ front before fall between lower back,
    travel = front ++ before :: fall :: (between ++ lower :: back) →
    fall.speed < before.speed → lower.speed < fall.speed →
      live.BrakesBetween before fall lower (totalLength (fall :: between))

/-- A convoy that can keep to the limits of a route in either direction. -/
structure Governable (live : LiveConvoy) (route : Route) : Prop where
  /-- Its brakes are not fierce. -/
  gentle : live.Gentle
  /-- Falls of the limit are far enough apart in either direction. -/
  spaced : ∀ direction, live.Spaced (route.travel direction)

variable {live : LiveConvoy} {first second third : Section}

/-- On three sections there is one pair of falls to look at. -/
theorem spaced_three (apart : second.speed < first.speed → third.speed < second.speed →
      live.BrakesBetween first second third second.length.toNat) :
    live.Spaced [first, second, third] := by
  intro front before fall between lower back travel_eq falls slower
  have lengths := congrArg List.length travel_eq
  simp only [List.length_append, List.length_cons, List.length_nil] at lengths
  obtain rfl : front = [] := List.length_eq_zero_iff.mp (by omega)
  obtain rfl : between = [] := List.length_eq_zero_iff.mp (by omega)
  obtain rfl : back = [] := List.length_eq_zero_iff.mp (by omega)
  simp only [List.nil_append, List.cons.injEq, and_true] at travel_eq
  obtain ⟨rfl, rfl, rfl⟩ := travel_eq
  exact apart falls slower

theorem governable_three {route : Route} (sections_eq : route.sections = [first, second, third])
    (gentle : live.Gentle)
    (forward : second.speed < first.speed → third.speed < second.speed →
      live.BrakesBetween first second third second.length.toNat)
    (backward : second.speed < third.speed → first.speed < second.speed →
      live.BrakesBetween third second first second.length.toNat) : live.Governable route := by
  refine ⟨gentle, fun direction => ?_⟩
  cases direction with
  | forward =>
    rw [Route.travel, sections_eq]
    exact spaced_three forward
  | backward =>
    rw [Route.travel, sections_eq]
    exact spaced_three backward

end LiveConvoy

/-- Brakes whose falls are far enough apart. -/
def Brakes.Spaced (brakes : Brakes) (travel : List Section) : Prop :=
  ∀ front before fall between lower back,
    travel = front ++ before :: fall :: (between ++ lower :: back) →
    fall.speed < before.speed → lower.speed < fall.speed →
      brakes.Apart before fall lower (totalLength (fall :: between))

/-- Firm brakes of a train that can keep to the limits of a route. -/
structure Brakes.Govern (brakes : Brakes) (route : Route) : Prop where
  /-- They are firm. -/
  firm : brakes.Firm
  /-- Falls of the limit are far enough apart in either direction. -/
  spaced : ∀ direction, brakes.Spaced (route.travel direction)

theorem Brakes.Apart.of_slower {brakes : Brakes} {before here fall lower : Section} {length : Nat}
    (apart : brakes.Apart before fall lower length) (here_limited : here.Limited)
    (before_limited : before.Limited) (slower : here.speed ≤ before.speed)
    (short : length < 4294967296) : brakes.Apart here fall lower length := by
  have here_bounds := Section.speed_bounds here_limited
  have before_bounds := Section.speed_bounds before_limited
  have speed_le := Int32.le_iff_toInt_le.mp slower
  refine apart.trans (add_le_add le_rfl ?_)
  rw [le_def, Units.raw_metresOfSteps_one (by omega) (by omega),
    Units.raw_metresOfSteps_one (by omega) (by omega)]
  omega

/-- The last of some sections. -/
theorem exists_last (here : Section) (high : List Section) :
    ∃ front before, here :: high = front ++ [before] ∧ before ∈ here :: high :=
  ⟨(here :: high).dropLast, (here :: high).getLast (List.cons_ne_nil _ _),
    (List.dropLast_append_getLast _).symm, List.getLast_mem _⟩

/-- What is ahead of a convoy is spaced as the route is. -/
theorem Brakes.Spaced.ahead {brakes : Brakes} {travel passed ahead : List Section} {here : Section}
    (spaced : brakes.Spaced travel) (travel_eq : travel = passed ++ here :: ahead)
    (limited : ∀ stretch ∈ travel, stretch.Limited) (short : totalLength travel < 4294967296) :
    brakes.SpacedAhead here ahead := by
  intro high fall between lower back ahead_eq above below slower
  obtain ⟨front, before, run_eq, before_mem⟩ := exists_last here high
  have nested_eq : travel =
      (passed ++ front) ++ before :: fall :: (between ++ lower :: back) := by
    rw [travel_eq, ahead_eq, ← List.cons_append, run_eq]
    simp only [List.append_assoc, List.cons_append, List.nil_append]
  have here_le : here.speed ≤ before.speed := by
    rcases List.mem_cons.mp before_mem with rfl | inside
    · exact Int32.le_refl _
    · exact above before inside
  have before_limited : before.Limited := limited before (by simp [nested_eq])
  have here_limited : here.Limited := limited here (by simp [travel_eq])
  have below_before : fall.speed < before.speed := by
    rw [Int32.lt_iff_toInt_lt] at below ⊢
    rw [Int32.le_iff_toInt_le] at here_le
    omega
  have length_lt : totalLength (fall :: between) < 4294967296 := by
    rw [nested_eq, totalLength_append, totalLength, totalLength] at short
    simp only [totalLength_append, totalLength] at short ⊢
    omega
  exact (spaced _ before fall between lower back nested_eq below_before slower).of_slower
    here_limited before_limited here_le length_lt

/-- Brakes that are not fierce, in terms of their counts. -/
theorem LiveConvoy.Gentle.force_le {live : LiveConvoy} (gentle : live.Gentle) {brakes : Brakes}
    (braked : (Profile.ofSource live).BrakesBy live.weight brakes)
    (force_nonneg : zero ≤ brakes.force) (weight_nonneg : 0 ≤ brakes.weight.toInt) :
    brakes.force.raw + brakes.resistance.raw ≤ 16777216 * brakes.weight.toInt := by
  have weight_lt := brakes.weight.toInt_lt
  have force_nonneg := nonneg_iff.mp force_nonneg
  have resistance_fits := brakes.resistance.fits
  have still : (brakes.drag * Profile.binFloor 0 * Profile.binFloor 0).raw = 0 := by
    change (saturate (((brakes.drag * Profile.binFloor 0).raw * 0 + halfScale) / scale)).raw = 0
    rw [Int.mul_zero]
    rfl
  have inner : (brakes.force + brakes.drag * Profile.binFloor 0 * Profile.binFloor 0).raw =
      brakes.force.raw := by
    have force_le := brakes.force.raw_le_limit
    rw [raw_add, still]
    simp only [limit] at *
    omega
  have bound_eq : ((Fixed.ofInt brakes.weight.toInt).mulInt 16).raw =
      16777216 * brakes.weight.toInt := by
    rw [mulInt, raw_ofInt32, raw_saturate_of_fits]
    · omega
    · simp only [limit]
      omega
    · simp only [limit]
      omega
  rw [Gentle, braked.binForce_eq, braked.weight_eq, le_def, bound_eq, Brakes.retarding,
    raw_add, inner] at gentle
  simp only [limit] at gentle
  omega

/-- A train that can keep to the limits of a route has brakes that govern it. -/
theorem LiveConvoy.Governable.govern {live : LiveConvoy} {route : Route} {train : Train}
    {world : World} {way : Way} (governable : live.Governable route)
    (live_eq : train.live world = .ok live) (level : train.Level way)
    (heavy : ∀ vehicle ∈ train.vehicles, 0 < vehicle.tonnes.toNat)
    (limited : ∀ stretch ∈ route.sections, stretch.Limited) : (train.brakes way).Govern route := by
  have nonempty : train.vehicles ≠ [] := by
    rw [← (Convoy.vehicles_of_live live_eq).1]
    exact fun no_vehicles => live.nonempty (List.map_eq_nil_iff.mp no_vehicles)
  have braked := level.brakesBy live_eq
  have force_nonneg : zero ≤ (train.brakes way).force := by
    have brake_nonneg := Curves.totalBrake_nonneg train.vehicles
    change 0 ≤ (thousand _).raw
    rw [raw_thousand]
    omega
  have weight_nonneg : 0 ≤ (train.brakes way).weight.toInt :=
    (by decide : (0 : Int) ≤ 1000).trans (Train.levelWeight_onLevel nonempty heavy way).2
  have firm := Train.brakes_firm nonempty heavy
    (governable.gentle.force_le braked force_nonneg weight_nonneg)
  refine ⟨firm, fun direction front before fall between lower back travel_eq falls slower => ?_⟩
  have limited_of : ∀ stretch ∈ route.travel direction, stretch.Limited :=
    fun stretch stretch_mem => limited stretch (Route.mem_travel.mp stretch_mem)
  have fall_limited : fall.Limited := limited_of fall (by simp [travel_eq])
  have lower_limited : lower.Limited := limited_of lower (by simp [travel_eq])
  have apart := governable.spaced direction front before fall between lower back travel_eq falls
    slower
  have fall_bounds := Section.velocity_bounds fall_limited
  have lower_bounds := Section.velocity_bounds lower_limited
  rw [BrakesBetween,
    firm.able.brakingDistance_eq braked (Section.velocity_nonneg fall_limited) (by omega),
    firm.able.brakingDistance_eq braked (Section.velocity_nonneg lower_limited) (by omega)] at apart
  exact apart

end Haulage
