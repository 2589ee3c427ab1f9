import Haulage.Proofs.Foresight

/-!
# One call of the mover

A convoy that heeds the limit under its head and those ahead of it at the start of a tick still does
so after the mover has run it towards the limit that its outlook picks.
-/

namespace Haulage

open Fixed

namespace PlannedLimit

theorem heeded_lt {points : List LimitPoint} {fastest : Int32} {early : Bool}
    {limit : Int32 × UInt32} (heeds : limit ∈ heeded points fastest early) :
    limit.1 < fastest := by
  obtain ⟨point, -, kept⟩ := List.mem_filterMap.mp heeds
  simp only at kept
  split at kept
  · contradiction
  · next lower =>
    split at kept
    · obtain rfl := Option.some.inj kept
      exact Int32.not_le.mp lower
    · obtain rfl := Option.some.inj kept
      exact Int32.not_le.mp lower

theorem foldl_mem {best : PlannedLimit} (rest : List PlannedLimit) :
    rest.foldl (fun best next => if next.brakeAt < best.brakeAt then next else best) best ∈
      best :: rest := by
  induction rest generalizing best with
  | nil => exact List.mem_cons_self
  | cons next rest ih =>
    rw [List.foldl_cons]
    split
    · exact List.mem_cons_of_mem _ ih
    · rcases List.mem_cons.mp (@ih best) with stays | later
      · exact List.mem_cons.mpr (.inl stays)
      · exact List.mem_cons_of_mem _ (List.mem_cons_of_mem _ later)

theorem nearest_mem {limits : List PlannedLimit} {limit : PlannedLimit}
    (nearest_eq : nearest limits = some limit) : limit ∈ limits := by
  cases limits with
  | nil => contradiction
  | cons first rest =>
    obtain rfl := Option.some.inj nearest_eq
    exact foldl_mem rest

end PlannedLimit

namespace Profile

variable {profile : Profile} {weight : WeightSummary} {brakes : Brakes} {here : Section}
  {cruise request : MoveRequest} {motion : MotionState}

theorem target_outlook (profile : Profile) (weight : WeightSummary) (cruise : MoveRequest)
    (points : List LimitPoint) (motion : MotionState) :
    (profile.outlook weight cruise points motion).target = cruise.target := by
  unfold outlook
  simp only
  split <;> rfl

theorem engineTicks_outlook (profile : Profile) (weight : WeightSummary) (cruise : MoveRequest)
    (points : List LimitPoint) (motion : MotionState) :
    (profile.outlook weight cruise points motion).engineTicks = cruise.engineTicks := by
  unfold outlook
  simp only
  split <;> rfl

/-- No limit that is heeded is above that of the section under the head. -/
theorem limit_outlook_le (scale_eq : cruise.mapScale = one) (target_eq : cruise.target = here.speed)
    (limit_eq : cruise.limit = here.speed) (speed_le : motion.speed.toInt ≤ here.speed.toInt)
    (points : List LimitPoint) :
    (profile.outlook weight cruise points motion).limit.toInt ≤ here.speed.toInt := by
  rw [outlook_eq_nearest scale_eq target_eq speed_le]
  split
  · next limit nearest_eq =>
    obtain ⟨heeded, heeded_mem, rfl⟩ := List.mem_map.mp (PlannedLimit.nearest_mem nearest_eq)
    exact le_of_lt (Int32.lt_iff_toInt_lt.mp (PlannedLimit.heeded_lt heeded_mem))
  · rw [limit_eq]

/-- The drive of a request on a map of scale one, with a target and a limit that the bins cover. -/
theorem drive_braked (firm : brakes.Firm) (braked : profile.BrakesBy weight brakes)
    (scale_eq : request.mapScale = one) (target_le : request.target.toInt ≤ 94361)
    (limit_le : request.limit.toInt ≤ 94361) :
    (profile.drive weight request).Braked brakes := by
  have weight_pos := braked.weight_pos firm.proper
  have limit_covered := Brakes.Firm.speed_covered (max_zero_nonneg request.limit)
    (by rw [toInt_max32]; exact max_le limit_le (by decide))
  have target_covered := Brakes.Firm.speed_covered (max_zero_nonneg request.target)
    (by rw [toInt_max32]; exact max_le target_le (by decide))
  refine
    { sound := profile.drive_sound (by rw [scale_eq]; decide) weight_pos
      firm := firm
      retardation_eq := fun velocity => ?_
      mass_eq := by rw [← braked.weight_eq]; rfl
      brake_eq := fun velocity nonneg covered => firm.able.brakingDistance_eq braked nonneg covered
      distance_eq := firm.able.brakingDistance_eq braked limit_covered.1 limit_covered.2
      limit_covered := limit_covered.2
      wanted_covered := (le_def.mp (min_le_left _ _)).trans target_covered.2
      place_le := ?_ }
  · change profile.brakingForce (speedIndex velocity) + profile.drag velocity +
      profile.resistance weight = _
    rw [braked.force_eq, Profile.drag, braked.drag_eq, braked.resistance_eq]
    rfl
  · have low := request.stepsToLimit.le_toInt
    have high := request.stepsToLimit.toInt_lt
    change (Units.metresOfSteps request.mapScale (.ofInt request.stepsToLimit.toInt)).raw ≤ _
    rw [scale_eq, Units.raw_metresOfSteps_one (by omega) (by omega)]
    omega

/-- A tick of 64 engine ticks on a map of scale one, towards the limit of a section. -/
structure TickRequest (request : MoveRequest) (here : Section) : Prop where
  /-- It has two slices. -/
  engineTicks_eq : request.engineTicks = 64
  /-- The map is of scale one. -/
  scale_eq : request.mapScale = one
  /-- The speed wanted is the limit of the section. -/
  target_eq : request.target = here.speed
  /-- The limit ahead is not higher. -/
  limit_le : request.limit.toInt ≤ here.speed.toInt

/-- What the mover makes of such a tick. -/
theorem move_of_tick (firm : brakes.Firm) (braked : profile.BrakesBy weight brakes)
    (tick : TickRequest request here) (motion : MotionState) :
    profile.move request weight motion = settleState motion one
      ((profile.drive weight request).run ⟨zero, motion.velocity⟩ [32, 32]) := by
  have weight_pos := braked.weight_pos firm.proper
  have slices_eq : requestSlices request = [32, 32] := by
    rw [requestSlices, tick.engineTicks_eq]
    rfl
  rw [move_of_running motion (by rw [tick.engineTicks_eq]; decide) weight_pos, slices_eq,
    tick.scale_eq]
  rfl

variable {limit : Fixed} {reach : ℚ} {steps : Int}

theorem TickRequest.wanted_le (tick : TickRequest request here) (here_limited : here.Limited)
    (profile : Profile) (weight : WeightSummary) :
    (profile.drive weight request).wanted ≤ here.velocity := by
  have here_bounds := Section.speed_bounds here_limited
  have target_eq : max request.target 0 = here.speed := by
    rw [tick.target_eq]
    exact max_zero_of_nonneg (by omega)
  change min _ _ ≤ _
  rw [target_eq]
  exact min_le_left _ _

theorem TickRequest.drive_braked (tick : TickRequest request here) (here_limited : here.Limited)
    (firm : brakes.Firm) (braked : profile.BrakesBy weight brakes) :
    (profile.drive weight request).Braked brakes := by
  have here_bounds := Section.speed_bounds here_limited
  have limit_le := tick.limit_le
  exact Profile.drive_braked firm braked tick.scale_eq
    (by rw [tick.target_eq]; exact here_bounds.2) (by omega)

/-- The velocity of the head at the end of the tick, and its place. -/
theorem run_of_tick_bounds (firm : brakes.Firm) (braked : profile.BrakesBy weight brakes)
    (tick : TickRequest request here) (here_limited : here.Limited) {velocity : Fixed}
    (nonneg : zero ≤ velocity) (velocity_le : velocity.raw ≤ here.velocity.raw + 11377) :
    let ends := (profile.drive weight request).run ⟨zero, velocity⟩ [32, 32]
    zero ≤ ends.place ∧ zero ≤ ends.velocity ∧
      ends.velocity.raw ≤ here.velocity.raw + 11377 := by
  have here_nonneg := nonneg_iff.mp (Section.velocity_nonneg here_limited)
  have wanted_le := tick.wanted_le here_limited profile weight
  have sound := (tick.drive_braked here_limited firm braked).sound
  have bounds := sound.run_bounds ⟨zero, velocity⟩ nonneg
    (le_max_left velocity here.velocity) (wanted_le.trans (le_max_right _ _)) [32, 32]
  refine ⟨bounds.1, bounds.2.1, ?_⟩
  have velocity_le := le_def.mp bounds.2.2
  rw [raw_max] at velocity_le
  omega

theorem yards_settleState (trimmed : motion.Trimmed) {head : Head} (ahead : zero ≤ head.place) :
    (settleState motion one head).yards.toInt =
      motion.yards.toInt + Units.yardsOnMap one head.place := by
  have bounds := Units.yardsOnMap_bounds (by decide : zero < one) ahead
  obtain ⟨low, high⟩ := trimmed
  simp only [Units.yardsPerStep] at high
  exact toInt_ofInt64 (by omega) (by omega)

/-- Yards are rounded by less than 180 counts. -/
theorem roomTo_yards_ge {place : Fixed} (ahead : zero ≤ place) (steps yards : Int) :
    roomTo steps yards - place.raw - 180 ≤
      roomTo steps (yards + Units.yardsOnMap one place) := by
  have yards_eq := Units.yardsOnMap_one ahead
  have raw_nonneg := nonneg_iff.mp ahead
  have rounded : 3200 * Units.yardsOnMap one place ≤ 9 * place.raw + 1620 := by
    simp only [limit] at yards_eq
    omega
  have rounded : (3200 * Units.yardsOnMap one place : ℚ) ≤ 9 * place.raw + 1620 := by
    exact_mod_cast rounded
  unfold roomTo
  push_cast
  linarith

/-- A tick keeps a limit heeded that the one told of suits, or that is not below the section's. -/
theorem move_heeds (firm : brakes.Firm) (braked : profile.BrakesBy weight brakes)
    (tick : TickRequest request here) (here_limited : here.Limited) (trimmed : motion.Trimmed)
    (velocity_le : motion.velocity.raw ≤ here.velocity.raw + 11377) (limit_nonneg : zero ≤ limit)
    (suits : here.velocity ≤ limit ∨ (profile.drive weight request).Suits brakes limit
      (roomTo steps motion.yards.toInt) (here.velocity.raw + 11377 + 2200 : Int))
    (heeds : brakes.Heeds limit (roomTo steps motion.yards.toInt) motion.velocity) :
    brakes.Heeds limit (roomTo steps (profile.move request weight motion).yards.toInt)
      (profile.move request weight motion).velocity := by
  have bounds := run_of_tick_bounds firm braked tick here_limited motion.velocity_nonneg velocity_le
  have here_covered := Section.velocity_bounds here_limited
  rw [move_of_tick firm braked tick, velocity_settleState _ _ bounds.2.1,
    yards_settleState trimmed bounds.1]
  rcases suits with slower | suits
  · left
    have := le_def.mp slower
    omega
  · have wanted_le := le_def.mp (tick.wanted_le here_limited profile weight)
    have ran := (tick.drive_braked here_limited firm braked).run_heeds tick.scale_eq
      motion.velocity_nonneg velocity_le (by omega) (by omega) limit_nonneg
      (by exact_mod_cast suits) heeds
    exact ran.mono (roomTo_yards_ge bounds.1 steps motion.yards.toInt)

end Profile

end Haulage
