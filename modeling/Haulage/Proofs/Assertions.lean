import Haulage.Proofs.Overshoot

/-!
# The assertion of a braking slice

The mover asserts that a slice that brakes and is on time does not go more than a millimetre past the
point of the limit ahead.  Slices grow with the tiles of the map: up to tiles of 5774 m the assertion
holds in every slice of a call, as long as the square of the velocity is in the range, and a mover
that stops at a failed assertion answers as one that does not check it.
-/

namespace Haulage

open Fixed

namespace Drive

section Definitions

variable (drive : Drive) (head : Head)

/-- The greatest deceleration at a velocity, m/s². -/
def deceleration (velocity : Fixed) : Fixed := drive.retardation velocity / drive.mass

/-- Whether a slice brakes towards the limit ahead. -/
def brakes (seconds : Fixed) : Bool :=
  !drive.pastLimit head && drive.limit.velocity < head.velocity &&
    (drive.pastBrake head || !(drive.pastLimit head ||
      drive.limit.fits drive.brake head seconds (drive.candidate head seconds)))

/-- How far a braking slice would go past the point of the limit, m. -/
def overshoot (seconds : Fixed) : Fixed :=
  drive.limit.overshoot drive.brake head (drive.deceleration head.velocity) seconds

/-- Whether a slice brakes, can meet the limit at its point, and ends before that. -/
def BrakesOnTime (seconds : Fixed) : Prop :=
  drive.brakes head seconds = true ∧
    drive.limit.OnTime head (drive.deceleration head.velocity) seconds

instance (seconds : Fixed) : Decidable (drive.BrakesOnTime head seconds) :=
  inferInstanceAs (Decidable (_ ∧ _))

/-- One slice of some engine ticks that stops at a failed assertion. -/
def slice? (ticks : Nat) : Option Head :=
  let seconds := Units.secondsOfTicks drive.mapScale ticks
  if drive.brakes head seconds then
    drive.limit.approach? drive.brake head (drive.deceleration head.velocity) seconds
  else
    some (drive.sliceOf head seconds)

/-- Slices one after another, up to a failed assertion. -/
def run? (lengths : List Nat) : Option Head := lengths.foldlM drive.slice? head

end Definitions

variable {drive : Drive} {head : Head} {seconds : Fixed}

theorem sliceOf_of_brakes (brakes : drive.brakes head seconds = true) :
    drive.sliceOf head seconds =
      drive.limit.approach drive.brake head (drive.deceleration head.velocity) seconds :=
  if_pos brakes

/-- A slice stops just where it is on time and goes more than a millimetre too far. -/
theorem slice?_eq (drive : Drive) (head : Head) (ticks : Nat) :
    drive.slice? head ticks =
      let seconds := Units.secondsOfTicks drive.mapScale ticks
      if drive.BrakesOnTime head seconds ∧ .ratio 1 1000 < drive.overshoot head seconds then none
      else some (drive.slice head ticks) := by
  unfold slice? slice
  simp only
  split
  · next brakes =>
    simp only [BrakesOnTime, brakes, true_and, sliceOf_of_brakes brakes]
    rfl
  · next rolls => rw [if_neg fun fails => rolls fails.1.1]

/-- A run whose assertions hold at each slice is answered as without them. -/
theorem run?_eq_some {lengths : List Nat}
    (holds : ∀ front ticks back, lengths = front ++ ticks :: back →
      drive.slice? (drive.run head front) ticks = some (drive.slice (drive.run head front) ticks)) :
    drive.run? head lengths = some (drive.run head lengths) := by
  induction lengths generalizing head with
  | nil => rfl
  | cons ticks lengths ih =>
    have first : drive.slice? head ticks = some (drive.slice head ticks) :=
      holds [] ticks lengths rfl
    have rest : drive.run? (drive.slice head ticks) lengths =
        some (drive.run (drive.slice head ticks) lengths) :=
      ih fun front next back lengths_eq =>
        holds (ticks :: front) next back (by rw [lengths_eq, List.cons_append])
    rw [run?, List.foldlM_cons, first]
    exact rest

/-- A slice that brakes is ahead of the limit, and faster. -/
theorem approaching_of_brakes (brakes : drive.brakes head seconds = true)
    (limit_nonneg : zero ≤ drive.limit.velocity)
    (moderate : head.velocity * head.velocity < .greatest) : drive.limit.Approaching head := by
  simp only [Drive.brakes, pastLimit, Bool.and_eq_true, Bool.not_eq_eq_eq_not, Bool.not_true,
    decide_eq_false_iff_not, decide_eq_true_eq, not_le] at brakes
  exact ⟨limit_nonneg, brakes.1.2, brakes.1.1, moderate⟩

end Drive

namespace Profile

variable {profile : Profile} {request : MoveRequest} {weight : WeightSummary}

/-- A call of the mover that stops at a failed assertion. -/
def move? (profile : Profile) (request : MoveRequest) (weight : WeightSummary)
    (state : MotionState) : Option MotionState :=
  if request.engineTicks ≤ 0 then some state
  else if weight.weight ≤ 0 then some (state.setSpeed 0)
  else
    ((profile.drive weight request).run? (startHead state) (requestSlices request)).map
      (settleState state request.mapScale)

theorem move?_eq_some {state : MotionState} (weight_pos : 0 < weight.weight)
    (runs : (profile.drive weight request).run? (startHead state) (requestSlices request) =
      some ((profile.drive weight request).run (startHead state) (requestSlices request))) :
    profile.move? request weight state = some (profile.move request weight state) := by
  by_cases ticks_pos : 0 < request.engineTicks
  · rw [move_of_running state ticks_pos weight_pos, move?, if_neg (Int64.not_le.mpr ticks_pos),
      if_neg (Int32.not_le.mpr weight_pos), runs, Option.map_some]
  · rw [move?, move, if_pos (Int64.not_lt.mp ticks_pos), if_pos (Int64.not_lt.mp ticks_pos)]

/-- A call of one slice stops where the slice does. -/
theorem move?_eq_none {state : MotionState} {ticks : Nat} (ticks_pos : 0 < request.engineTicks)
    (weight_pos : 0 < weight.weight) (slices_eq : requestSlices request = [ticks])
    (fails : (profile.drive weight request).slice? (startHead state) ticks = none) :
    profile.move? request weight state = none := by
  rw [move?, if_neg (Int64.not_le.mpr ticks_pos), if_neg (Int32.not_le.mpr weight_pos), slices_eq,
    Drive.run?, List.foldlM_cons, fails]
  rfl

/-- Heads of a run are no faster than the convoy was at its start, or than convoys go. -/
theorem Regular.moderate_of_run (regular : profile.Regular) (scale_nonneg : zero ≤ request.mapScale)
    (weight_pos : 0 < weight.weight) {state : MotionState}
    (moderate : state.velocity * state.velocity < .greatest) (lengths : List Nat) :
    let head := (profile.drive weight request).run (startHead state) lengths
    head.velocity * head.velocity < .greatest := by
  intro head
  have sound := profile.drive_sound scale_nonneg weight_pos
  have wanted_le := regular.wantedVelocity_le_unlimited request
  obtain ⟨-, nonneg, velocity_le⟩ := sound.run_bounds (startHead state) state.velocity_nonneg
    (le_max_left state.velocity _) (wanted_le.trans (le_max_right _ _)) lengths
  rcases le_max_iff.mp velocity_le with le | le
  · exact (mul_self_mono nonneg le).trans_lt moderate
  · exact (mul_self_mono nonneg le).trans_lt (by decide)

end Profile

/-- With tiles of at most 5774 m a slice lasts 2.887 s at most. -/
theorem Units.secondsOfTicks_le {world : World} (small : world.tileMetres ≤ 5774)
    {request : MoveRequest} {ticks : Nat} (length_mem : ticks ∈ Profile.requestSlices request) :
    secondsOfTicks world.mapScale ticks ≤ .ofRaw 3027239 := by
  have tile_le : (world.tileMetres.toNat : Int) ≤ 5774 := by
    exact_mod_cast UInt32.le_iff_toNat_le.mp small
  have scale_le : world.mapScale ≤ .ratio 5774 1000 := ratio_mono (by decide) tile_le
  have ticks_le : ticks ≤ 32 := (le_of_mem_slices length_mem).trans (min_le_right _ _)
  calc secondsOfTicks world.mapScale ticks
      ≤ secondsOfTicks (.ratio 5774 1000) ticks :=
        divInt_le_divInt (by decide) (mulInt_le_mulInt scale_le (Int.natCast_nonneg ticks))
    _ ≤ secondsOfTicks (.ratio 5774 1000) (32 : Nat) := secondsOfTicks_mono (by decide) ticks_le
    _ ≤ .ofRaw 3027239 := by decide

/-- In so short a slice what is rounded comes to a millimetre at most. -/
theorem Fixed.le_millimetre {seconds overshoot : Fixed} (seconds_nonneg : zero ≤ seconds)
    (seconds_le : seconds ≤ .ofRaw 3027239)
    (overshoot_le : (overshoot.raw : ℚ) ≤
      seconds.value ^ 2 / 4 + 1451 / 4 * seconds.value + 1 / 2) :
    overshoot ≤ .ratio 1 1000 := by
  have value_nonneg := value_nonneg seconds_nonneg
  have value_le : seconds.value ≤ 3027239 / 1048576 := by
    rw [value]
    gcongr
    exact_mod_cast le_def.mp seconds_le
  have less : (overshoot.raw : ℚ) < 1050 := by nlinarith
  have less : overshoot.raw < 1050 := by exact_mod_cast less
  have millimetre : (Fixed.ratio 1 1000).raw = 1049 := by decide
  rw [le_def, millimetre]
  omega

/-- A slice of a call that is on time goes past the point of the limit by what is rounded at
most. -/
theorem Profile.Regular.overshoot_le {profile : Profile} (regular : profile.Regular)
    {request : MoveRequest} (scale_nonneg : zero ≤ request.mapScale) {weight : WeightSummary}
    (weight_pos : 0 < weight.weight) {state : MotionState}
    (moderate : state.velocity * state.velocity < .greatest) (front : List Nat) (ticks : Nat) :
    let drive := profile.drive weight request
    let head := drive.run (Profile.startHead state) front
    let seconds := Units.secondsOfTicks request.mapScale ticks
    drive.BrakesOnTime head seconds →
      ((drive.overshoot head seconds).raw : ℚ) ≤
        seconds.value ^ 2 / 4 + 1451 / 4 * seconds.value + 1 / 2 := by
  intro drive head seconds on_time
  have sound := profile.drive_sound scale_nonneg weight_pos
  have approaching := Drive.approaching_of_brakes on_time.1 sound.limit_nonneg
    (regular.moderate_of_run scale_nonneg weight_pos moderate front)
  exact approaching.overshoot_le drive.brake (Units.secondsOfTicks_nonneg scale_nonneg ticks)
    on_time.2

namespace Memo

variable {σ : Type}

/-- In every call with a weight, at a speed whose square is in the range, a braking slice that is on
time goes past the point of the limit by what is rounded at most.  With tiles of at most 5774 m that
is within a millimetre, and the mover that stops at a failed assertion answers as the other does. -/
theorem overshoot_bounded [Source σ] [VehicleSource σ] (memo : Memo σ)
    (agrees : memo.cache.Agrees memo.source) (weight : WeightSummary)
    (weight_pos : 0 < weight.weight) {world : World} (validated : world.validate = .ok ())
    (request : MoveRequest) (scale_eq : request.mapScale = world.mapScale) (state : MotionState)
    (moderate : state.velocity * state.velocity < .greatest) :
    let profile := Profile.ofSource memo.source
    let drive := profile.drive weight request
    (∀ (front back : List Nat) (ticks : Nat),
      Profile.requestSlices request = front ++ ticks :: back →
        let head := drive.run (Profile.startHead state) front
        let seconds := Units.secondsOfTicks request.mapScale ticks
        drive.BrakesOnTime head seconds →
          ((drive.overshoot head seconds).raw : ℚ) ≤
              seconds.value ^ 2 / 4 + 1451 / 4 * seconds.value + 1 / 2 ∧
            (world.tileMetres ≤ 5774 → drive.overshoot head seconds ≤ .ratio 1 1000)) ∧
    (world.tileMetres ≤ 5774 →
      profile.move? request weight state = some (memo.ask (.move request weight state)).1) := by
  intro profile drive
  have regular : profile.Regular := VehicleSource.regular memo.source
  have scale_nonneg : zero ≤ request.mapScale := scale_eq ▸ (World.mapScale_pos validated).le
  have near := regular.overshoot_le scale_nonneg weight_pos moderate
  have within (small : world.tileMetres ≤ 5774) {front back : List Nat} {ticks : Nat}
      (slices_eq : Profile.requestSlices request = front ++ ticks :: back)
      (on_time : drive.BrakesOnTime (drive.run (Profile.startHead state) front)
        (Units.secondsOfTicks request.mapScale ticks)) :
      drive.overshoot (drive.run (Profile.startHead state) front)
        (Units.secondsOfTicks request.mapScale ticks) ≤ .ratio 1 1000 := by
    have length_mem : ticks ∈ Profile.requestSlices request := by simp [slices_eq]
    apply le_millimetre (Units.secondsOfTicks_nonneg scale_nonneg ticks) _
      (near front ticks on_time)
    rw [scale_eq]
    exact Units.secondsOfTicks_le small length_mem
  constructor
  · intro front back ticks slices_eq head seconds on_time
    exact ⟨near front ticks on_time, fun small => within small slices_eq on_time⟩
  · intro small
    have after_eq : (memo.ask (.move request weight state)).1 = profile.move request weight state :=
      ask_answer agrees _
    rw [after_eq]
    apply Profile.move?_eq_some weight_pos
    apply Drive.run?_eq_some
    intro front ticks back slices_eq
    rw [Drive.slice?_eq]
    exact if_neg fun fails => not_le.mpr fails.2 (within small slices_eq fails.1)

/-- An engine of 80 t that is to stop within 400 steps from 1000 units of speed brakes on time. -/
theorem express_brakes_on_time :
    let memo : Memo Consist := ⟨⟨[.engine "Express" .track 80 200 1500], {}⟩, .empty⟩
    let profile := Profile.ofSource memo.source
    let weight : WeightSummary := .single 80000 0
    let request : MoveRequest := ⟨640, one, 1000, 0, 400, 0⟩
    let state : MotionState := .atSpeed 1000
    let drive := profile.drive weight request
    let head := Profile.startHead state
    drive.BrakesOnTime head half ∧ drive.overshoot head half ≤ .ratio 1 1000 ∧
      profile.move? request weight state = some (memo.ask (.move request weight state)).1 := by
  intro memo profile weight request state drive head
  have on_time : drive.BrakesOnTime head half := by decide +kernel
  obtain ⟨bounded, answered⟩ := memo.overshoot_bounded (Cache.agrees_empty _) weight (by decide)
    (by decide : World.validate {} = .ok ()) request (by decide) state (by decide)
  have slices_eq : Profile.requestSlices request = [] ++ 32 :: List.replicate 19 32 := by decide
  exact ⟨on_time, (bounded [] _ 32 slices_eq on_time).2 (by decide), answered (by decide)⟩

/-- With tiles of 10000 km 3950 t that are to stop within one step, down a slope of six thousandths,
go 3.6 m too far in the one slice of 28 ticks.  On the usual map the heaviest convoy, at 6000 km/s
before a limit of 3000 km/s, goes half a million metres too far, since both squares are clamped. -/
theorem assertion_fails :
    let freight : Vehicle := .engine "Freight" .track 80 120 5000
    let profile := fun world : World => Profile.ofSource (⟨[freight], world⟩ : Consist)
    let wide : World := { tileMetres := 10000000 }
    let train : WeightSummary := .single 3949937 (-6)
    let stop : MoveRequest := ⟨28, wide.mapScale, 291, 0, 1, 0⟩
    let descent := (profile wide).drive train stop
    let usual : World := {}
    let heavy : WeightSummary := .single 2147483647 0
    let slow : MoveRequest := ⟨32, usual.mapScale, 507, 138240000, 1800000, 0⟩
    let race := (profile usual).drive heavy slow
    (freight.validate = .ok () ∧ wide.validate = .ok () ∧ usual.validate = .ok ()) ∧
      (descent.BrakesOnTime (Profile.startHead (.atSpeed 291))
          (Units.secondsOfTicks wide.mapScale 28) ∧
        (descent.overshoot (Profile.startHead (.atSpeed 291))
          (Units.secondsOfTicks wide.mapScale 28)).raw = 3790000 ∧
        (profile wide).move? stop train (.atSpeed 291) = none) ∧
      (race.BrakesOnTime (Profile.startHead (.atSpeed 276480000)) half ∧
        .ofInt 499000 ≤ race.overshoot (Profile.startHead (.atSpeed 276480000)) half ∧
        (profile usual).move? slow heavy (.atSpeed 276480000) = none) := by
  intro freight profile wide train stop descent usual heavy slow race
  set head := Profile.startHead (.atSpeed 276480000)
  have on_time : race.BrakesOnTime head half := by decide +kernel
  have firm_ge : .ofInt 499000 ≤ metresBetween head.velocity
      (race.limit.firmest head (race.deceleration head.velocity) half) half -
        race.limit.left head := by
    decide +kernel
  have too_far : .ofInt 499000 ≤ race.overshoot head half :=
    firm_ge.trans (LimitAhead.firmest_overshoot_le race.brake (by decide) (by decide)
      (by decide +kernel))
  have slice_fails : race.slice? head 32 = none := by
    have seconds_eq : Units.secondsOfTicks race.mapScale (32 : Nat) = half := by decide
    rw [Drive.slice?_eq, seconds_eq]
    exact if_pos ⟨on_time, lt_of_lt_of_le (by decide) too_far⟩
  refine ⟨by decide, by decide +kernel, on_time, too_far, ?_⟩
  exact Profile.move?_eq_none (by decide) (by decide) (by decide) slice_fails

end Memo

end Haulage
