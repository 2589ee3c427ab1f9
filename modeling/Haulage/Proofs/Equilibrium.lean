import Haulage.Proofs.Slices
import Haulage.Proofs.TopSpeed

/-!
# Equilibrium

The search for the top speed stops one km/h below a speed that traction does not sustain.  The mover
lets the velocity rise only to one that traction sustains, and traction sustains every velocity
below such a one.  So a convoy that starts from a standstill never reaches the speed at which the
search stopped.
-/

namespace Haulage

open Fixed

namespace Profile

variable {profile : Profile} {weight : WeightSummary}

/-- A resistance above the traction at standstill holds the convoy back at every velocity. -/
theorem Regular.not_sustains_of_startingForce_lt (regular : profile.Regular)
    {resistance velocity : Fixed} (nonneg : zero ≤ velocity)
    (too_heavy : profile.startingForce < resistance) :
    profile.sustains resistance velocity = false := by
  have traction_le : profile.traction velocity ≤ profile.startingForce := by
    rw [← profile.traction_zero]
    exact regular.traction_anti le_rfl nonneg
  have drag_nonneg := regular.drag_velocity_nonneg nonneg
  have resistance_le : resistance ≤ profile.drag velocity + resistance := by
    rw [Fixed.add_comm]
    exact le_add_right drag_nonneg
  rw [sustains, decide_eq_false_iff_not, not_le]
  exact traction_le.trans_lt (too_heavy.trans_le resistance_le)

/-- A top speed below the speed limit is not negative, and traction does not sustain the next whole
km/h. -/
theorem Regular.not_sustains_above_maxSpeed (regular : profile.Regular)
    (below : profile.maxSpeed weight < profile.speedLimit) :
    0 ≤ (profile.maxSpeed weight).toInt ∧
      profile.sustainsKmh (profile.resistance weight) (profile.maxSpeed weight + 1) = false := by
  unfold maxSpeed at below ⊢
  simp only at below ⊢
  split at below
  · next not_positive => exact absurd below (Int32.not_lt.mpr not_positive)
  · next positive =>
    rw [if_neg positive]
    split at below
    · exact absurd below Int32.lt_irrefl
    · next not_empty =>
      rw [if_neg not_empty]
      split at below
      · next too_heavy =>
        rw [if_pos too_heavy]
        exact ⟨le_rfl, regular.not_sustains_of_startingForce_lt
          (Units.velocityOfKmh_nonneg (by decide)) too_heavy⟩
      · next starts =>
        rw [if_neg starts]
        have cap_pos : 0 < profile.speedLimit.toInt :=
          Int32.lt_iff_toInt_lt.mp (Int32.not_le.mp positive)
        have sustained := Regular.sustainsKmh_zero (not_lt.mp starts)
        rcases searchTopSpeed_spec (profile.sustainsKmh (profile.resistance weight)) cap_pos
            regular.speedLimit_le sustained with
          ⟨reached, -⟩ | ⟨stop, found, stop_pos, -, -, stop_fails⟩
        · rw [reached] at below
          exact absurd below Int32.lt_irrefl
        · rw [found, Int32.sub_add_cancel, toInt_sub_one32 (by omega)]
          exact ⟨by omega, stop_fails⟩

/-- The velocity keeps to the speed limit, and below the next whole km/h above a top speed that is
lower. -/
def WithinEquilibrium (profile : Profile) (weight : WeightSummary) (velocity : Fixed) : Prop :=
  velocity ≤ Units.velocityOfKmh (max profile.speedLimit 0) ∧
    (profile.maxSpeed weight < profile.speedLimit →
      velocity < Units.velocityOfKmh (profile.maxSpeed weight + 1))

theorem Regular.withinEquilibrium_zero (regular : profile.Regular) :
    profile.WithinEquilibrium weight zero := by
  refine ⟨Units.velocityOfKmh_nonneg (max_zero_nonneg _), fun below => ?_⟩
  have top_nonneg := (regular.not_sustains_above_maxSpeed below).1
  have limit_le := Int32.le_iff_toInt_le.mp regular.speedLimit_le
  rw [Int32.lt_iff_toInt_lt] at below
  have next_eq : (profile.maxSpeed weight + 1).toInt = (profile.maxSpeed weight).toInt + 1 := by
    have limit_value : Units.unlimitedKmh.toInt = 300000 := rfl
    rw [toInt_add32] <;> simp <;> omega
  have one_le : Units.velocityOfKmh 1 ≤ Units.velocityOfKmh (profile.maxSpeed weight + 1) := by
    apply Units.velocityOfKmh_mono
    rw [next_eq]
    simp only [Int32.reduceToInt]
    omega
  exact lt_of_lt_of_le (by decide) one_le

/-- A velocity that traction sustains lies below every one that it does not. -/
theorem Regular.lt_of_sustains (regular : profile.Regular) {resistance low high : Fixed}
    (nonneg : zero ≤ high) (sustained : profile.sustains resistance low = true)
    (fails : profile.sustains resistance high = false) : low < high := by
  by_contra above
  rw [regular.sustains_of_le nonneg (not_lt.mp above) sustained] at fails
  exact absurd fails (by decide)

theorem wantedVelocity_le (profile : Profile) (request : MoveRequest) :
    profile.wantedVelocity request ≤ Units.velocityOfKmh (max profile.speedLimit 0) :=
  min_le_right _ _

theorem Regular.wantedVelocity_le_unlimited (regular : profile.Regular) (request : MoveRequest) :
    profile.wantedVelocity request ≤ Units.velocityOfKmh Units.unlimitedKmh := by
  apply (profile.wantedVelocity_le request).trans
  apply Units.velocityOfKmh_mono
  rw [toInt_max32]
  exact max_le (Int32.le_iff_toInt_le.mp regular.speedLimit_le) (by decide)

/-- A slice keeps the velocity within equilibrium: it rises only to one that traction sustains. -/
theorem Regular.slice_withinEquilibrium (regular : profile.Regular) {request : MoveRequest}
    (sound : (profile.drive weight request).Sound) (head : Head) (ticks : Nat)
    (nonneg : zero ≤ head.velocity)
    (within : profile.WithinEquilibrium weight head.velocity) :
    profile.WithinEquilibrium weight
      ((profile.drive weight request).slice head ticks).velocity := by
  have seconds_nonneg := Units.secondsOfTicks_nonneg sound.mapScale_nonneg ticks
  have velocity_le := (sound.slice_bounds nonneg ticks).2.2
  rcases sound.candidate_le_or_sustained nonneg seconds_nonneg with stays | ⟨sustained, aimed⟩
  · have falls := velocity_le.trans (max_le le_rfl stays)
    exact ⟨falls.trans within.1, fun below => falls.trans_lt (within.2 below)⟩
  · have candidate_le : (profile.drive weight request).candidate head
        (Units.secondsOfTicks (profile.drive weight request).mapScale ticks) ≤
          Units.velocityOfKmh (max profile.speedLimit 0) :=
      aimed.trans ((Drive.target_le_wanted _ head).trans (profile.wantedVelocity_le request))
    refine ⟨velocity_le.trans (max_le within.1 candidate_le), fun below => ?_⟩
    have fails := (regular.not_sustains_above_maxSpeed below).2
    have next_nonneg : zero ≤ Units.velocityOfKmh (profile.maxSpeed weight + 1) :=
      nonneg.trans (le_of_lt (within.2 below))
    exact velocity_le.trans_lt
      (max_lt (within.2 below) (regular.lt_of_sustains next_nonneg sustained fails))

theorem Regular.move_withinEquilibrium (regular : profile.Regular) {request : MoveRequest}
    (scale_nonneg : zero ≤ request.mapScale) (state : MotionState)
    (within : profile.WithinEquilibrium weight state.velocity) :
    profile.WithinEquilibrium weight (profile.move request weight state).velocity :=
  move_velocity_preserves scale_nonneg regular.withinEquilibrium_zero
    (fun sound head ticks nonneg before =>
      regular.slice_withinEquilibrium sound head ticks nonneg before)
    state within

end Profile

namespace Memo

variable {σ : Type}

/-- The state after calls of the mover one after another, and the memo after them. -/
def moves [Source σ] (weight : WeightSummary) :
    Memo σ → MotionState → List MoveRequest → MotionState × Memo σ
  | memo, state, [] => (state, memo)
  | memo, state, request :: requests =>
      let (state, memo) := memo.ask (.move request weight state)
      moves weight memo state requests

theorem moves_withinEquilibrium [Source σ] [VehicleSource σ] (weight : WeightSummary)
    (memo : Memo σ) (agrees : memo.cache.Agrees memo.source) (requests : List MoveRequest)
    (forward : ∀ request ∈ requests, zero < request.mapScale) (state : MotionState)
    (within : (Profile.ofSource memo.source).WithinEquilibrium weight state.velocity) :
    (Profile.ofSource memo.source).WithinEquilibrium weight
      (memo.moves weight state requests).1.velocity := by
  induction requests generalizing memo state with
  | nil => exact within
  | cons request requests ih =>
    have moved : (Profile.ofSource memo.source).WithinEquilibrium weight
        (memo.ask (.move request weight state)).1.velocity := by
      rw [ask_answer agrees]
      exact (VehicleSource.regular memo.source).move_withinEquilibrium
        (le_of_lt (forward request List.mem_cons_self)) state within
    exact ih (memo.ask (.move request weight state)).2 (ask_agrees agrees _)
      (fun other other_mem => forward other (List.mem_cons_of_mem request other_mem)) _ moved

/-- A convoy that starts from a standstill keeps, after every call of the mover, to the speed limit,
and below the next whole km/h above the top speed that the search finds, if that is lower. -/
theorem velocity_within_equilibrium [Source σ] [VehicleSource σ] (memo : Memo σ)
    (agrees : memo.cache.Agrees memo.source) (weight : WeightSummary) (state : MotionState)
    (standing : state.velocity = zero) (requests : List MoveRequest)
    (forward : ∀ request ∈ requests, zero < request.mapScale) :
    let velocity := (memo.moves weight state requests).1.velocity
    let speedLimit := (memo.ask .speedLimit).1
    let maxSpeed := (memo.ask (.maxSpeed weight)).1
    velocity ≤ Units.velocityOfKmh (max speedLimit 0) ∧
      (maxSpeed < speedLimit → velocity < Units.velocityOfKmh (maxSpeed + 1)) := by
  simp only [ask_answer agrees]
  apply moves_withinEquilibrium weight memo agrees requests forward state
  rw [standing]
  exact (VehicleSource.regular memo.source).withinEquilibrium_zero

/-- A freight engine that can hold 25 km/h uphill stays below 26 km/h. -/
theorem uphill_freight_below_26 :
    let memo : Memo Consist := ⟨⟨[.engine "Freight" .track 80 120 500], {}⟩, .empty⟩
    let weight : WeightSummary := .single 500000 10
    let request : MoveRequest := .cruise 6400 .one 2000
    (memo.ask (.maxSpeed weight)).1 = 25 ∧
      (memo.moves weight {} [request, request]).1.velocity < Units.velocityOfKmh 26 := by
  intro memo weight request
  have speedLimit_eq : (memo.ask .speedLimit).1 = 120 := by decide +kernel
  have maxSpeed_eq : (memo.ask (.maxSpeed weight)).1 = 25 := by decide +kernel
  have within := memo.velocity_within_equilibrium (Cache.agrees_empty _) weight {} (by decide)
    [request, request] (by decide)
  simp only [speedLimit_eq, maxSpeed_eq] at within
  exact ⟨maxSpeed_eq, within.2 (by decide)⟩

end Memo

end Haulage
